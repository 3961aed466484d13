import LessonCheck.Proofs.Arithmetic.Derivation
import LessonCheck.Proofs.Arithmetic.Spelling
import LessonCheck.Proofs.Run
import LessonCheck.Proofs.Text.Numeral

/-!
# Assignments to integers

What is assigned to an integer goes through six tests in a row: for a literal, for a single name, for a quote, for
tokens, for unknown or mistyped names, and for the grammar. Together they come to one condition on the tokens of the
right-hand side, so the two short cuts agree with the full test. If it fails, the right-hand side is reported once,
or once for each unknown name in the order in which the names first appear.
-/

namespace LessonCheck

/-! ## Order of first appearance -/

section FirstAppearance

variable {α β : Type} [BEq α] [LawfulBEq α] [BEq β] [LawfulBEq β]

/-- What stands first in the selected list stands first in the whole list, if each of the two is selected from one
element only. -/
theorem idxOf_lt_of_idxOf_filterMap_lt {f : α → Option β} {a b : β} {x y : α} (hx : ∀ z, f z = some a ↔ z = x)
    (hy : ∀ z, f z = some b ↔ z = y) {l : List α} (h : (l.filterMap f).idxOf a < (l.filterMap f).idxOf b) :
    l.idxOf x < l.idxOf y := by
  induction l with
  | nil => cases h
  | cons z l ih =>
    cases hz : f z with
    | none =>
      have hzx : z ≠ x := fun heq => by rw [(hx z).mpr heq] at hz; cases hz
      have hzy : z ≠ y := fun heq => by rw [(hy z).mpr heq] at hz; cases hz
      rw [List.filterMap_cons_none hz] at h
      rw [List.idxOf_cons_ne l hzx, List.idxOf_cons_ne l hzy]
      exact Nat.succ_lt_succ (ih h)
    | some c =>
      rw [List.filterMap_cons_some hz] at h
      have hcb : c ≠ b := by
        rintro rfl
        rw [List.idxOf_cons_self] at h
        cases h
      have hzy : z ≠ y := by
        intro heq
        rw [(hy z).mpr heq] at hz
        exact hcb (Option.some.inj hz).symm
      rw [List.idxOf_cons_ne l hzy]
      by_cases hca : c = a
      · obtain rfl := (hx z).mp (hca ▸ hz)
        rw [List.idxOf_cons_self]
        exact Nat.succ_pos _
      · have hzx : z ≠ x := by
          intro heq
          rw [(hx z).mpr heq] at hz
          exact hca (Option.some.inj hz).symm
        rw [List.idxOf_cons_ne _ hca, List.idxOf_cons_ne _ hcb] at h
        rw [List.idxOf_cons_ne l hzx]
        exact Nat.succ_lt_succ (ih (Nat.lt_of_succ_lt_succ h))

theorem pairwise_idxOf_eraseDups (l : List α) : l.eraseDups.Pairwise fun a b => l.idxOf a < l.idxOf b := by
  match l with
  | [] => simp
  | a :: l =>
    rw [List.eraseDups_cons, List.pairwise_cons]
    have hne : ∀ b ∈ (l.filter fun b => !b == a).eraseDups, a ≠ b := by
      intro b hb heq
      simp [List.mem_eraseDups, heq] at hb
    constructor
    · intro b hb
      rw [List.idxOf_cons_self, List.idxOf_cons_ne l (hne b hb)]
      exact Nat.succ_pos _
    · refine (pairwise_idxOf_eraseDups (l.filter fun b => !b == a)).imp_of_mem fun {b c} hb hc hlt => ?_
      rw [List.idxOf_cons_ne l (hne b hb), List.idxOf_cons_ne l (hne c hc)]
      apply Nat.succ_lt_succ
      have hOnce (d : α) (hd : a ≠ d) (z : α) :
          Option.guard (fun b => !b == a) z = some d ↔ z = d := by
        simp only [Option.guard_eq_some_iff, Bool.not_eq_true', beq_eq_false_iff_ne]
        exact ⟨And.left, fun heq => ⟨heq, fun hza => hd (hza.symm.trans heq)⟩⟩
      rw [← List.filterMap_eq_filter] at hlt
      exact idxOf_lt_of_idxOf_filterMap_lt (hOnce b (hne b hb)) (hOnce c (hne c hc)) hlt
termination_by l.length
decreasing_by exact Nat.lt_succ_of_le (List.length_filter_le _ _)

end FirstAppearance

namespace Arithmetic

/-! ## Texts without strings -/

/-- The text splits into these tokens, and no string is among them. -/
structure PlainTokens (t : Text) (ts : List Token) : Prop where
  read : ∃ ls, lexemes t = .ok ls ∧ ls.map Lexeme.token = ts
  noString : ∀ body, .str body ∉ ts

theorem PlainTokens.unique {t : Text} {ts us : List Token} (hts : PlainTokens t ts) (hus : PlainTokens t us) :
    ts = us := by
  obtain ⟨ls, hRead, rfl⟩ := hts.read
  obtain ⟨ms, hRead', rfl⟩ := hus.read
  rw [Except.ok.inj (hRead.symm.trans hRead')]

theorem Expression.string?_eq_some_iff {t : Token} {body : Text} : string? t = some body ↔ t = .str body := by
  cases t <;> simp [string?]

theorem Expression.name?_eq_some_iff {name : Text} (t : Token) : name? t = some name ↔ t = .ident name := by
  cases t <;> simp [name?]

theorem Expression.mem_names_iff {e : Expression} {name : Text} : name ∈ e.names ↔ .ident name ∈ e.tokens := by
  rw [names, List.mem_eraseDups, List.mem_filterMap]
  simp only [name?_eq_some_iff, exists_eq_right]

theorem plainTokens_iff {t : Text} {ts : List Token} :
    PlainTokens t ts ↔ ∃ e, Expression.ofText t = .ok e ∧ e.tokens = ts := by
  constructor
  · rintro ⟨⟨ls, hRead, rfl⟩, hNoString⟩
    have hNone : ls.findSome? (fun l => Expression.string? l.token) = none := by
      rw [List.findSome?_eq_none_iff]
      intro l hl
      rw [Option.eq_none_iff_forall_ne_some]
      intro body hBody
      apply hNoString body
      rw [← Expression.string?_eq_some_iff.mp hBody]
      exact List.mem_map_of_mem hl
    refine ⟨⟨ls⟩, ?_, rfl⟩
    rw [Expression.ofText, hRead]
    simp only [Except.bind, hNone]
  · rintro ⟨e, hText, rfl⟩
    unfold Expression.ofText at hText
    cases hRead : lexemes t with
    | error err =>
      rw [hRead] at hText
      cases hText
    | ok ls =>
      rw [hRead] at hText
      simp only [Except.bind] at hText
      split at hText
      · cases hText
      · next hNone =>
        obtain rfl := Except.ok.inj hText
        refine ⟨⟨ls, hRead, rfl⟩, fun body hMem => ?_⟩
        obtain ⟨l, hl, hToken⟩ := List.mem_map.mp hMem
        rw [List.findSome?_eq_none_iff] at hNone
        have hBody := hNone l hl
        rw [hToken] at hBody
        cases hBody

theorem quote_notMem_text {t : Token} (h : t.isWellFormed = true) (hString : ∀ body, t ≠ .str body) :
    '"' ∉ t.text := by
  cases t with
  | int digits =>
    obtain ⟨-, hDigits⟩ := Bool.and_eq_true _ _ |>.mp h
    intro hMem
    cases List.all_eq_true.mp hDigits _ hMem
  | ident name =>
    cases name with
    | nil => cases h
    | cons c w =>
      obtain ⟨hStart, hAll⟩ := Bool.and_eq_true _ _ |>.mp h
      intro hMem
      rcases List.mem_cons.mp hMem with rfl | hMem
      · cases hStart
      · cases List.all_eq_true.mp hAll _ hMem
  | str body => exact absurd rfl (hString body)
  | plus | minus | star | slash | leftParen | rightParen => simp [Token.text]

/-- Nothing is lost between the tokens but layout, so a quote in the text is a quote in a token. -/
theorem quote_notMem_of_lexemesFrom {offset : Nat} {t : Text} {ls : List Lexeme}
    (h : lexemesFrom offset t = .ok ls) (hString : ∀ body, .str body ∉ ls.map Lexeme.token) : '"' ∉ t := by
  fun_induction lexemesFrom offset t generalizing ls with
  | case1 => simp
  | case2 offset c r hLayout ih =>
    rw [List.mem_cons, not_or]
    refine ⟨?_, ih h hString⟩
    rintro rfl
    cases hLayout
  | case3 => cases h
  | case4 offset c r hLayout token rest hToken hShorter stop =>
    rename_i ih
    cases hRest : lexemesFrom stop rest with
    | error e =>
      rw [hRest] at h
      cases h
    | ok tail =>
      rw [hRest] at h
      obtain rfl := Except.ok.inj h
      simp only [List.map_cons, List.mem_cons, not_or] at hString
      obtain ⟨w, hText, rfl⟩ := token?_append hToken
      rw [← List.cons_append, ← hText, List.mem_append, not_or]
      constructor
      · exact quote_notMem_text (isWellFormed_of_token? hToken) fun body heq => (hString body).1 heq.symm
      · exact ih hRest fun body => (hString body).2

theorem PlainTokens.quote_notMem {t : Text} {ts : List Token} (h : PlainTokens t ts) : '"' ∉ t := by
  obtain ⟨ls, hRead, rfl⟩ := h.read
  exact quote_notMem_of_lexemesFrom hRead h.noString

/-! ## The two short cuts -/

theorem lexemes_of_isIdentifier {t : Text} (h : Word.isIdentifier t = true) :
    lexemes t = .ok (lexemesOf 0 [([], .ident t)]) := @lexemes_text (.ident t) h

/-- An integer literal reads as one integer, with at most one minus sign in front. -/
theorem exists_lexemes_of_isIntegerLiteral {t : Text} (h : Word.isIntegerLiteral t = true) :
    ∃ ls digits, lexemes t = .ok ls ∧
      (ls.map Lexeme.token = [.int digits] ∨ ls.map Lexeme.token = [.minus, .int digits]) := by
  obtain ⟨sign, digits, rfl, hSign, hne, hAll⟩ := Word.isIntegerLiteral_iff.mp h
  have hDigits : (Token.int digits).isWellFormed = true := by
    simpa [Token.isWellFormed, hne] using hAll
  rcases hSign with rfl | rfl
  · refine ⟨_, digits, lexemes_text hDigits, .inl ?_⟩
    rw [map_token_lexemesOf]
    rfl
  · have hSpelled : WellSpelled [([], .minus), ([], .int digits)] := by
      refine ⟨?_, by simp, List.isChain_cons_cons.mpr ⟨?_, .singleton _⟩⟩
      · simpa [Token.isWellFormed] using hDigits
      · intro hWord
        cases hWord
    have hRead := lexemes_spell hSpelled
    simp only [spell, Token.text, List.flatMap_cons, List.flatMap_nil, List.nil_append,
      List.append_nil] at hRead
    refine ⟨_, digits, hRead, .inr ?_⟩
    rw [map_token_lexemesOf]
    rfl

theorem plainTokens_of_isIdentifier {t : Text} (h : Word.isIdentifier t = true) : PlainTokens t [.ident t] :=
  ⟨⟨_, lexemes_of_isIdentifier h, map_token_lexemesOf 0 _⟩, by simp⟩

theorem checkGrammar_ident (name : Text) : checkGrammar [.ident name] = .ok () :=
  checkGrammar_of_derives (.term (.unary (.atom (.ident name)))) (Nat.zero_le _)

theorem exists_plainTokens_of_isIntegerLiteral {t : Text} (h : Word.isIntegerLiteral t = true) :
    ∃ ts, PlainTokens t ts ∧ (∀ name, .ident name ∉ ts) ∧ checkGrammar ts = .ok () := by
  obtain ⟨ls, digits, hRead, hTokens⟩ := exists_lexemes_of_isIntegerLiteral h
  have hNumber : Derives .unary 0 [.int digits] := .atom (.int digits)
  rcases hTokens with hTokens | hTokens
  · exact ⟨_, ⟨⟨ls, hRead, hTokens⟩, by simp⟩, by simp,
      checkGrammar_of_derives (.term (.unary hNumber)) (by decide)⟩
  · exact ⟨_, ⟨⟨ls, hRead, hTokens⟩, by simp⟩, by simp,
      checkGrammar_of_derives (.term (.unary (.sign rfl hNumber))) (by decide)⟩

end Arithmetic

namespace Check

open Arithmetic

/-! ## Verdicts -/

/-- The text is arithmetic over integers of the table. -/
def IsIntegerArithmetic (symbols : SymbolTable) (t : Text) : Prop :=
  ∃ ts, PlainTokens t ts ∧ (∀ name, .ident name ∈ ts → symbols.get? name = some .integer) ∧
    checkGrammar ts = .ok ()

/-- The unknown names among the tokens, each once, in the order in which they first appear. -/
structure UnboundNames (symbols : SymbolTable) (ts : List Token) (names : List Text) : Prop where
  mem_iff : ∀ name, name ∈ names ↔ .ident name ∈ ts ∧ symbols.contains name = false
  ordered : names.Pairwise fun a b => ts.idxOf (.ident a) < ts.idxOf (.ident b)

/-- The order leaves no choice: only one list names them all. -/
theorem UnboundNames.unique {symbols : SymbolTable} {ts : List Token} {names others : List Text}
    (h : UnboundNames symbols ts names) (h' : UnboundNames symbols ts others) : names = others := by
  have hDistinct {ns : List Text} (hns : ns.Pairwise fun a b => ts.idxOf (.ident a) < ts.idxOf (.ident b)) :
      ns.Nodup := by
    refine hns.imp fun {a b} hlt heq => ?_
    rw [heq] at hlt
    exact Nat.lt_irrefl _ hlt
  have hPerm : names.Perm others := by
    rw [List.perm_ext_iff_of_nodup (hDistinct h.ordered) (hDistinct h'.ordered)]
    intro name
    rw [h.mem_iff, h'.mem_iff]
  refine hPerm.eq_of_pairwise (fun a b _ _ hab hba => ?_) h.ordered h'.ordered
  exact absurd hba (Nat.lt_asymm hab)

theorem unboundNames_filter (symbols : SymbolTable) (e : Expression) :
    UnboundNames symbols e.tokens (e.names.filter fun name => !symbols.contains name) := by
  constructor
  · intro name
    rw [List.mem_filter, Expression.mem_names_iff, Bool.not_eq_true']
  · apply List.Pairwise.filter
    refine (pairwise_idxOf_eraseDups (e.tokens.filterMap Expression.name?)).imp fun {a b} hlt => ?_
    exact idxOf_lt_of_idxOf_filterMap_lt Expression.name?_eq_some_iff Expression.name?_eq_some_iff hlt

theorem expressionVerdict_eq_valid_iff {symbols : SymbolTable} {e : Expression} :
    expressionVerdict symbols e = .valid ↔
      (∀ name, .ident name ∈ e.tokens → symbols.get? name = some .integer) ∧ e.check = .ok () := by
  constructor
  · intro h
    unfold expressionVerdict at h
    split at h
    · cases h
    · split at h
      · next hTypes =>
        split at h
        · next hCheck =>
          refine ⟨fun name hName => ?_, hCheck⟩
          exact beq_iff_eq.mp (List.all_eq_true.mp hTypes name (Expression.mem_names_iff.mpr hName))
        · cases h
      · cases h
  · rintro ⟨hNames, hCheck⟩
    have hTypes : ∀ name ∈ e.names, symbols.get? name = some .integer := fun name hName =>
      hNames name (Expression.mem_names_iff.mp hName)
    have hBound : (e.names.filter fun name => !symbols.contains name) = [] := by
      rw [List.filter_eq_nil_iff]
      intro name hName
      simp [SymbolTable.contains, hTypes name hName]
    have hAll : e.names.all (fun name => symbols.isType name .integer) = true :=
      List.all_eq_true.mpr fun name hName => beq_iff_eq.mpr (hTypes name hName)
    rw [expressionVerdict, hBound]
    simp only
    rw [if_pos hAll, hCheck]

theorem expressionVerdict_of_unbound {symbols : SymbolTable} {e : Expression} {name : Text}
    (hName : .ident name ∈ e.tokens) (hUnbound : symbols.contains name = false) :
    expressionVerdict symbols e = .undeclared (e.names.filter fun name => !symbols.contains name) := by
  have hMem := ((unboundNames_filter symbols e).mem_iff name).mpr ⟨hName, hUnbound⟩
  unfold expressionVerdict
  split
  · next heq => rw [heq]
  · next heq =>
    rw [heq] at hMem
    cases hMem

theorem exists_unbound_of_expressionVerdict {symbols : SymbolTable} {e : Expression} {names : List Text}
    (h : expressionVerdict symbols e = .undeclared names) :
    ∃ name, .ident name ∈ e.tokens ∧ symbols.contains name = false := by
  unfold expressionVerdict at h
  split at h
  · next name names' heq =>
    refine ⟨name, ((unboundNames_filter symbols e).mem_iff name).mp ?_⟩
    rw [heq]
    exact List.mem_cons_self
  · split at h
    · split at h
      · cases h
      · cases h
    · cases h

/-- Behind the two short cuts only the tokens count: a text without strings holds no quote. -/
theorem integerVerdict_of_ofText {symbols : SymbolTable} {t : Text} {e : Expression}
    (hLiteral : Word.isIntegerLiteral t = false) (hWord : Word.isIdentifier t = false)
    (hText : Expression.ofText t = .ok e) : integerVerdict symbols t = expressionVerdict symbols e := by
  have hQuote : t.contains '"' = false := by
    simpa using (plainTokens_iff.mpr ⟨e, hText, rfl⟩).quote_notMem
  rw [integerVerdict, hLiteral, hWord, hQuote, hText]
  simp only [Bool.false_eq_true, if_false]

theorem integerVerdict_eq_valid_iff {symbols : SymbolTable} {t : Text} :
    integerVerdict symbols t = .valid ↔ IsIntegerArithmetic symbols t := by
  constructor
  · intro h
    unfold integerVerdict at h
    split at h
    · next hLiteral =>
      obtain ⟨ts, hTokens, hNone, hCheck⟩ := exists_plainTokens_of_isIntegerLiteral hLiteral
      exact ⟨ts, hTokens, fun name hName => absurd hName (hNone name), hCheck⟩
    · split at h
      · next hWord =>
        split at h
        · next hType =>
          refine ⟨_, plainTokens_of_isIdentifier hWord, fun name hName => ?_, checkGrammar_ident t⟩
          obtain rfl : name = t := by simpa using hName
          exact beq_iff_eq.mp hType
        · cases h
      · split at h
        · cases h
        · split at h
          · next e hText =>
            obtain ⟨hNames, hCheck⟩ := expressionVerdict_eq_valid_iff.mp h
            exact ⟨e.tokens, plainTokens_iff.mpr ⟨e, hText, rfl⟩, hNames, hCheck⟩
          · cases h
  · rintro ⟨ts, hTokens, hNames, hCheck⟩
    cases hLiteral : Word.isIntegerLiteral t with
    | true => rw [integerVerdict, if_pos hLiteral]
    | false =>
      cases hWord : Word.isIdentifier t with
      | true =>
        obtain rfl := hTokens.unique (plainTokens_of_isIdentifier hWord)
        have hType : symbols.isType t .integer = true := beq_iff_eq.mpr (hNames t (List.mem_singleton_self _))
        rw [integerVerdict, hLiteral, hWord, hType]
        rfl
      | false =>
        obtain ⟨e, hText, rfl⟩ := plainTokens_iff.mp hTokens
        rw [integerVerdict_of_ofText hLiteral hWord hText]
        exact expressionVerdict_eq_valid_iff.mpr ⟨hNames, hCheck⟩

/-- The text is more than one name and has an unknown name among its tokens. -/
def HasUnboundOperand (symbols : SymbolTable) (t : Text) : Prop :=
  Word.isIdentifier t = false ∧
    ∃ ts name, PlainTokens t ts ∧ .ident name ∈ ts ∧ symbols.contains name = false

theorem integerVerdict_of_hasUnboundOperand {symbols : SymbolTable} {t : Text}
    (h : HasUnboundOperand symbols t) :
    ∃ ts names, PlainTokens t ts ∧ UnboundNames symbols ts names ∧
      integerVerdict symbols t = .undeclared names := by
  obtain ⟨hWord, ts, name, hTokens, hName, hUnbound⟩ := h
  have hLiteral : Word.isIntegerLiteral t = false := by
    rw [← Bool.not_eq_true]
    intro hLiteral
    obtain ⟨us, hTokens', hNone, -⟩ := exists_plainTokens_of_isIntegerLiteral hLiteral
    exact hNone name (hTokens.unique hTokens' ▸ hName)
  obtain ⟨e, hText, hEq⟩ := plainTokens_iff.mp hTokens
  refine ⟨_, _, hTokens, hEq ▸ unboundNames_filter symbols e, ?_⟩
  rw [integerVerdict_of_ofText hLiteral hWord hText, expressionVerdict_of_unbound (hEq ▸ hName) hUnbound]

theorem hasUnboundOperand_of_integerVerdict {symbols : SymbolTable} {t : Text} {names : List Text}
    (h : integerVerdict symbols t = .undeclared names) : HasUnboundOperand symbols t := by
  unfold integerVerdict at h
  split at h
  · cases h
  · split at h
    · split at h
      · cases h
      · cases h
    · next hWord =>
      split at h
      · cases h
      · split at h
        · next e hText =>
          obtain ⟨name, hName, hUnbound⟩ := exists_unbound_of_expressionVerdict h
          exact ⟨Bool.not_eq_true _ |>.mp hWord, e.tokens, name, plainTokens_iff.mpr ⟨e, hText, rfl⟩, hName,
            hUnbound⟩
        · cases h

/-! ## Assignments -/

theorem integerVerdict_ne_undeclared_nil (symbols : SymbolTable) (t : Text) :
    integerVerdict symbols t ≠ .undeclared [] := by
  unfold integerVerdict expressionVerdict
  repeat' split
  all_goals simp

theorem assignmentDefects_eq_nil_iff {symbols : SymbolTable} {target t : Text} {type : ValueType}
    (hTarget : symbols.get? target = some type) :
    assignmentDefects symbols target t = [] ↔ verdict symbols (Text.trim t) type = .valid := by
  rw [assignmentDefects, hTarget]
  simp only
  split
  · next hValid => simp [hValid]
  · next names hUndeclared =>
    have hNames : names ≠ [] := by
      rintro rfl
      cases type with
      | integer => exact integerVerdict_ne_undeclared_nil symbols _ hUndeclared
      | string =>
        simp only [verdict, stringVerdict] at hUndeclared
        split at hUndeclared <;> cases hUndeclared
    simp [hUndeclared, hNames]
  · next hMismatch => simp [hMismatch]

theorem assignmentDefects_integer {symbols : SymbolTable} {target : Text}
    (hTarget : symbols.get? target = some .integer) (t : Text) :
    assignmentDefects symbols target t =
      match integerVerdict symbols (Text.trim t) with
      | .valid => []
      | .undeclared names => names.map .undeclared
      | .mismatch => [.typeMismatch (Shape.ofExpr symbols (Text.trim t)).text .integer target] := by
  rw [assignmentDefects, hTarget]
  rfl

namespace State

/-- Outside the bodies of rejected loops, an assignment to an integer is accepted exactly if its trimmed right-hand
side is arithmetic over integers. If it is more than one name and mentions unknown names, each of them is reported
once, in the order of first appearance, whatever else is wrong. Anything else is one mismatch. -/
theorem findings_integer_assignment {s : State} {rules : Rules} {step : Step} {target expr : Text}
    (hPlace : s.blocks.inUnbound = false) (hForm : step.fragment.form = .assignment target expr)
    (hTarget : s.symbols.get? target = some .integer) :
    (s.findings rules step = [] ↔ IsIntegerArithmetic s.symbols (Text.trim expr)) ∧
    (HasUnboundOperand s.symbols (Text.trim expr) →
      ∃ ts names, PlainTokens (Text.trim expr) ts ∧ UnboundNames s.symbols ts names ∧
        s.findings rules step = names.map fun name => ⟨step.line, .undeclared name⟩) ∧
    (¬IsIntegerArithmetic s.symbols (Text.trim expr) → ¬HasUnboundOperand s.symbols (Text.trim expr) →
      s.findings rules step =
        [⟨step.line, .typeMismatch (Shape.ofExpr s.symbols (Text.trim expr)).text .integer target⟩]) := by
  have hBound : s.blocks.unbound = 0 := by simpa [BlockStack.inUnbound] using hPlace
  have hFindings : s.findings rules step =
      (assignmentDefects s.symbols target expr).map (⟨step.line, ·⟩) := by
    rw [findings, reported_of_bound hBound, defects, hForm]
  refine ⟨?_, ?_, ?_⟩
  · rw [findings_eq_nil_iff hBound, defects, hForm, ← integerVerdict_eq_valid_iff]
    exact assignmentDefects_eq_nil_iff hTarget
  · intro hUnbound
    obtain ⟨ts, names, hTokens, hNames, hVerdict⟩ := integerVerdict_of_hasUnboundOperand hUnbound
    refine ⟨ts, names, hTokens, hNames, ?_⟩
    rw [hFindings, assignmentDefects_integer hTarget, hVerdict, List.map_map]
    rfl
  · intro hArithmetic hUnbound
    rw [hFindings, assignmentDefects_integer hTarget]
    cases hVerdict : integerVerdict s.symbols (Text.trim expr) with
    | valid => exact absurd (integerVerdict_eq_valid_iff.mp hVerdict) hArithmetic
    | undeclared names => exact absurd (hasUnboundOperand_of_integerVerdict hVerdict) hUnbound
    | mismatch => rfl

/-- Two unknown names, one of them twice, in a right-hand side that is no expression either. -/
theorem findings_spoilt_sum :
    (after (.ofStrictness .strict) "PADAM n:ANKHE;".toList 1).findings (.ofStrictness .strict)
        ⟨2, ⟨"n = b + n * a b;".toList, .assignment ['n'] "b + n * a b".toList⟩⟩ =
      [⟨2, .undeclared ['b']⟩, ⟨2, .undeclared ['a']⟩] := by
  have hRead := @lexemes_spell [([], .ident ['b']), ([' '], .plus), ([' '], .ident ['n']), ([' '], .star),
    ([' '], .ident ['a']), ([' '], .ident ['b'])] (by decide)
  have hTokens : PlainTokens "b + n * a b".toList
      [.ident ['b'], .plus, .ident ['n'], .star, .ident ['a'], .ident ['b']] :=
    ⟨⟨_, hRead, rfl⟩, by simp⟩
  obtain ⟨-, hUnknown, -⟩ := @findings_integer_assignment
    (after (.ofStrictness .strict) "PADAM n:ANKHE;".toList 1) (.ofStrictness .strict)
    ⟨2, ⟨"n = b + n * a b;".toList, .assignment ['n'] "b + n * a b".toList⟩⟩ ['n'] "b + n * a b".toList
    (by decide +kernel) rfl (by decide +kernel)
  obtain ⟨ts, names, hTokens', hNames, hFindings⟩ :=
    hUnknown ⟨by decide, _, ['b'], hTokens, by decide, by decide +kernel⟩
  obtain ⟨e, -, rfl⟩ := plainTokens_iff.mp hTokens'
  have hFound := hNames.unique (unboundNames_filter _ e)
  have hList : e.names = [['b'], ['n'], ['a']] := by
    rw [Expression.names, hTokens'.unique hTokens]
    decide
  rw [hFindings, hFound, hList]
  decide +kernel

end State
end Check
end LessonCheck
