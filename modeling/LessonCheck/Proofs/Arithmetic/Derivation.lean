import LessonCheck.Arithmetic.Grammar

/-!
# Derivations of the arithmetic grammar

The grammar as a relation: which token lists each phrase derives, with the nesting depth of the derivation. A
parenthesis pair and a sign add one level, an operator between two operands takes the deeper one. Every
derived list is read back: the scan finds the depth of its derivation, and the readers take the list off the
front of any continuation that could not belong to it.
-/

namespace LessonCheck.Arithmetic

inductive Phrase
  | atom | unary | term | expr
  deriving DecidableEq, Repr

/-- The phrase derives the token list with the nesting depth. -/
inductive Derives : Phrase → Nat → List Token → Prop
  | int (digits : Text) : Derives .atom 0 [.int digits]
  | ident (name : Text) : Derives .atom 0 [.ident name]
  | group {d : Nat} {ts : List Token} (inner : Derives .expr d ts) :
      Derives .atom (d + 1) (.leftParen :: (ts ++ [.rightParen]))
  | atom {d : Nat} {ts : List Token} (operand : Derives .atom d ts) : Derives .unary d ts
  | sign {d : Nat} {t : Token} {ts : List Token} (hSign : isTermOperator t = true)
      (operand : Derives .unary d ts) : Derives .unary (d + 1) (t :: ts)
  | unary {d : Nat} {ts : List Token} (first : Derives .unary d ts) : Derives .term d ts
  | factor {d e : Nat} {t : Token} {ts us : List Token} (front : Derives .term d ts)
      (hOperator : isFactorOperator t = true) (last : Derives .unary e us) :
      Derives .term (max d e) (ts ++ t :: us)
  | term {d : Nat} {ts : List Token} (first : Derives .term d ts) : Derives .expr d ts
  | summand {d e : Nat} {t : Token} {ts us : List Token} (front : Derives .expr d ts)
      (hOperator : isTermOperator t = true) (last : Derives .term e us) :
      Derives .expr (max d e) (ts ++ t :: us)

theorem isTermOperator_iff {t : Token} : isTermOperator t = true ↔ t = .plus ∨ t = .minus := by
  simp [isTermOperator]

theorem isFactorOperator_iff {t : Token} : isFactorOperator t = true ↔ t = .star ∨ t = .slash := by
  simp [isFactorOperator]

/-! ## Turns of operands and operators -/

/-- Whether operands and operators take turns in the list; `operandNext` says whose turn it is. -/
def takesTurns : Bool → List Token → Bool
  | _, [] => true
  | true, .int _ :: ts | true, .ident _ :: ts => takesTurns false ts
  | true, .plus :: ts | true, .minus :: ts | true, .leftParen :: ts => takesTurns true ts
  | false, .plus :: ts | false, .minus :: ts | false, .star :: ts | false, .slash :: ts => takesTurns true ts
  | false, .rightParen :: ts => takesTurns false ts
  | _, _ :: _ => false

theorem takesTurns_append {p : Phrase} {d : Nat} {ts : List Token} (h : Derives p d ts) (rest : List Token) :
    takesTurns true (ts ++ rest) = takesTurns false rest := by
  induction h generalizing rest with
  | int | ident => rfl
  | group inner ih =>
    rw [List.cons_append, List.append_assoc, takesTurns, ih]
    rfl
  | atom operand ih | unary first ih | term first ih => exact ih rest
  | sign hSign operand ih =>
    rcases isTermOperator_iff.mp hSign with rfl | rfl
    · exact ih rest
    · exact ih rest
  | factor front hOperator last ihFront ihLast =>
    rw [List.append_assoc, ihFront]
    rcases isFactorOperator_iff.mp hOperator with rfl | rfl
    · exact ihLast rest
    · exact ihLast rest
  | summand front hOperator last ihFront ihLast =>
    rw [List.append_assoc, ihFront]
    rcases isTermOperator_iff.mp hOperator with rfl | rfl
    · exact ihLast rest
    · exact ihLast rest

/-! ## The scan of the depth -/

namespace DepthScan

/-- The state after an operand of depth `d` above the pending signs. -/
def operandOf (s : DepthScan) (d : Nat) : DepthScan :=
  { s with deepest := max s.deepest (s.base + s.signs + d), signs := 0, operandNext := false }

/-- A derived list takes a scan that waits for an operand over the depth of its derivation. Only an atom or a
signed operand may stand behind pending signs. -/
theorem foldl_step {p : Phrase} {d : Nat} {ts : List Token} (h : Derives p d ts) (s : DepthScan)
    (hNext : s.operandNext = true) (hDeep : s.base + s.signs ≤ s.deepest)
    (hSigns : p = .term ∨ p = .expr → s.signs = 0) : ts.foldl step s = s.operandOf d := by
  induction h generalizing s with
  | int | ident =>
    simp only [List.foldl_cons, List.foldl_nil, step, operand, operandOf, Nat.add_zero, Nat.max_eq_left hDeep]
  | group inner ih =>
    have hOpen : (s.step .leftParen) = s.openGroup := by rw [step, hNext, if_pos rfl]
    rw [List.foldl_cons, hOpen, List.foldl_append, ih s.openGroup hNext (Nat.le_max_right ..) (fun _ => rfl)]
    simp only [List.foldl_cons, List.foldl_nil, step, operandOf, openGroup, closeGroup, List.head?_cons,
      Option.getD_some, List.tail_cons, Nat.add_sub_cancel]
    congr 1
    omega
  | atom operand ih => exact ih s hNext hDeep (by simp)
  | @sign d t ts hSign operand ih =>
    have hStep : s.step t = s.sign := by
      rcases isTermOperator_iff.mp hSign with rfl | rfl <;> rw [step, hNext, if_pos rfl]
    rw [List.foldl_cons, hStep, ih s.sign hNext (Nat.le_max_right ..) (by simp)]
    simp only [operandOf, DepthScan.sign]
    congr 1
    omega
  | unary first ih => exact ih s hNext hDeep (by simp)
  | @factor d e t ts us front hOperator last ihFront ihLast =>
    have hZero := hSigns (.inl rfl)
    have hStep : (s.operandOf d).step t = (s.operandOf d).operator := by
      rcases isFactorOperator_iff.mp hOperator with rfl | rfl <;> rfl
    rw [List.foldl_append, ihFront s hNext hDeep hSigns, List.foldl_cons, hStep,
      ihLast _ rfl (by simp only [operator, operandOf]; omega) (by simp)]
    simp only [operandOf, operator]
    congr 1
    omega
  | term first ih => exact ih s hNext hDeep (fun _ => hSigns (.inr rfl))
  | @summand d e t ts us front hOperator last ihFront ihLast =>
    have hZero := hSigns (.inr rfl)
    have hStep : (s.operandOf d).step t = (s.operandOf d).operator := by
      rcases isTermOperator_iff.mp hOperator with rfl | rfl <;> rfl
    rw [List.foldl_append, ihFront s hNext hDeep hSigns, List.foldl_cons, hStep,
      ihLast _ rfl (by simp only [operator, operandOf]; omega) (fun _ => rfl)]
    simp only [operandOf, operator]
    congr 1
    omega

end DepthScan

theorem nestingDepth_of_derives {d : Nat} {ts : List Token} (h : Derives .expr d ts) : nestingDepth ts = d := by
  rw [nestingDepth, DepthScan.foldl_step h .start rfl (Nat.le_refl 0) (fun _ => rfl)]
  simp [DepthScan.operandOf, DepthScan.start]

/-! ## The readers -/

/-- What a reader leaves is no longer than what it was given. -/
def Shortens (read : Reader) : Prop := ∀ ts rest, read ts = .ok rest → rest.length ≤ ts.length

theorem shortens_atom {group : Reader} (h : Shortens group) : Shortens (atom group) := by
  intro ts rest hRead
  unfold atom at hRead
  split at hRead
  · obtain rfl := Except.ok.inj hRead
    simp
  · obtain rfl := Except.ok.inj hRead
    simp
  · next inner =>
    split at hRead
    · next closed hGroup =>
      obtain rfl := Except.ok.inj hRead
      have hInner := h _ _ hGroup
      simp only [List.length_cons] at hInner ⊢
      omega
    · cases hRead
    · cases hRead
  · cases hRead

theorem shortens_unary {group : Reader} (h : Shortens group) : Shortens (unary group) := by
  intro ts rest hRead
  fun_induction unary group ts with
  | case1 ts ih | case2 ts ih => exact Nat.le_succ_of_le (ih hRead)
  | case3 ts => exact shortens_atom h ts rest hRead

theorem shortens_operands {isOperator : Token → Bool} {operand : Reader} (h : Shortens operand) (n : Nat) :
    Shortens (operands isOperator operand n) := by
  intro ts rest hRead
  induction n generalizing ts with
  | zero =>
    obtain rfl := Except.ok.inj hRead
    exact Nat.le_refl _
  | succ n ih =>
    cases ts with
    | nil =>
      obtain rfl := Except.ok.inj hRead
      exact Nat.le_refl _
    | cons t ts =>
      rw [operands] at hRead
      split at hRead
      · cases hOperand : operand ts with
        | error e =>
          rw [hOperand] at hRead
          cases hRead
        | ok left =>
          rw [hOperand] at hRead
          exact Nat.le_succ_of_le (Nat.le_trans (ih left hRead) (h _ _ hOperand))
      · obtain rfl := Except.ok.inj hRead
        exact Nat.le_refl _

theorem shortens_chain {isOperator : Token → Bool} {operand : Reader} (h : Shortens operand) :
    Shortens (chain isOperator operand) := by
  intro ts rest hRead
  rw [chain] at hRead
  cases hOperand : operand ts with
  | error e =>
    rw [hOperand] at hRead
    cases hRead
  | ok left =>
    rw [hOperand] at hRead
    exact Nat.le_trans (shortens_operands h _ _ _ hRead) (h _ _ hOperand)

theorem shortens_term {group : Reader} (h : Shortens group) : Shortens (term group) :=
  shortens_chain (shortens_unary h)

/-- Once the fuel covers the list, more of it makes no difference. -/
theorem operands_fuel {isOperator : Token → Bool} {operand : Reader} (h : Shortens operand) {m n : Nat}
    {ts : List Token} (hm : ts.length ≤ m) (hn : ts.length ≤ n) :
    operands isOperator operand m ts = operands isOperator operand n ts := by
  induction m generalizing n ts with
  | zero =>
    obtain rfl := List.length_eq_zero_iff.mp (Nat.le_zero.mp hm)
    cases n <;> rfl
  | succ m ih =>
    cases ts with
    | nil => cases n <;> rfl
    | cons t ts =>
      obtain ⟨n, rfl⟩ := Nat.exists_eq_succ_of_ne_zero (Nat.ne_of_gt (Nat.lt_of_lt_of_le (Nat.succ_pos _) hn))
      simp only [operands]
      cases hOperand : operand ts with
      | error e => rfl
      | ok left =>
        have hLeft := h _ _ hOperand
        rw [List.length_cons] at hm hn
        simp only [Except.bind, @ih n left (by omega) (by omega)]

theorem operands_step {isOperator : Token → Bool} {operand : Reader} (h : Shortens operand) {t : Token}
    {ts rest : List Token} (hOperator : isOperator t = true) (hOperand : operand (ts ++ rest) = .ok rest) :
    operands isOperator operand (t :: (ts ++ rest)).length (t :: (ts ++ rest)) =
      operands isOperator operand rest.length rest := by
  rw [List.length_cons, operands, if_pos hOperator, hOperand]
  exact operands_fuel h (h _ _ hOperand) (Nat.le_refl _)

theorem operands_stop {isOperator : Token → Bool} {operand : Reader} {rest : List Token}
    (h : ∀ t ∈ rest.head?, isOperator t = false) :
    operands isOperator operand rest.length rest = .ok rest := by
  cases rest with
  | nil => rfl
  | cons t rest =>
    have ht : isOperator t = false := h t rfl
    rw [List.length_cons, operands, ht]
    rfl

/-- The reader that stands inside the parentheses of `expr n`. -/
def groupReader : Nat → Reader
  | 0 => fun _ => .error .tooDeep
  | n + 1 => expr n

theorem expr_eq (n : Nat) : expr n = chain isTermOperator (term (groupReader n)) := by
  cases n <;> rfl

theorem shortens_groupReader (n : Nat) : Shortens (groupReader n) := by
  induction n with
  | zero =>
    intro ts rest hRead
    cases hRead
  | succ n ih =>
    rw [groupReader, expr_eq]
    exact shortens_chain (shortens_term ih)

/-- What the reader of a phrase makes of a list that starts with one: an atom or a signed operand is taken
off, and after a term or an expression the loop over further operands goes on. -/
def ReadsPhrase (n : Nat) (ts : List Token) : Phrase → Prop
  | .atom => ∀ rest, atom (groupReader n) (ts ++ rest) = .ok rest
  | .unary => ∀ rest, unary (groupReader n) (ts ++ rest) = .ok rest
  | .term => ∀ rest, term (groupReader n) (ts ++ rest) =
      operands isFactorOperator (unary (groupReader n)) rest.length rest
  | .expr => ∀ rest, (∀ t ∈ rest.head?, isFactorOperator t = false) → expr n (ts ++ rest) =
      operands isTermOperator (term (groupReader n)) rest.length rest

theorem readsPhrase_of_derives {p : Phrase} {d n : Nat} {ts : List Token} (h : Derives p d ts) (hd : d ≤ n) :
    ReadsPhrase n ts p := by
  -- `n` varies: the reader of a group has one level less than the reader around it.
  induction h generalizing n with
  | int | ident =>
    intro rest
    rfl
  | group inner ih =>
    obtain ⟨n, rfl⟩ := Nat.exists_eq_succ_of_ne_zero (Nat.ne_of_gt (Nat.lt_of_lt_of_le (Nat.succ_pos _) hd))
    intro rest
    have hInner := ih (Nat.le_of_succ_le_succ hd) (.rightParen :: rest) (by simp [isFactorOperator])
    rw [operands_stop (by simp [isTermOperator])] at hInner
    rw [List.cons_append, List.append_assoc, atom, groupReader, List.singleton_append, hInner]
  | atom operand ih =>
    intro rest
    cases operand with
    | int | ident | group => exact ih hd rest
  | sign hSign operand ih =>
    intro rest
    rcases isTermOperator_iff.mp hSign with rfl | rfl
    · exact ih (Nat.le_of_succ_le hd) rest
    · exact ih (Nat.le_of_succ_le hd) rest
  | unary first ih =>
    intro rest
    rw [term, chain, ih hd rest]
    rfl
  | factor front hOperator last ihFront ihLast =>
    intro rest
    rw [List.append_assoc, ihFront (Nat.le_trans (Nat.le_max_left ..) hd), List.cons_append]
    exact operands_step (shortens_unary (shortens_groupReader n)) hOperator
      (ihLast (Nat.le_trans (Nat.le_max_right ..) hd) rest)
  | term first ih =>
    intro rest hRest
    rw [expr_eq, chain, ih hd rest, operands_stop hRest]
    rfl
  | @summand d e t ts us front hOperator last ihFront ihLast =>
    intro rest hRest
    have hHead : ∀ first ∈ (t :: (us ++ rest)).head?, isFactorOperator first = false := by
      intro first hFirst
      obtain rfl := Option.some.inj hFirst
      rcases isTermOperator_iff.mp hOperator with rfl | rfl <;> rfl
    rw [List.append_assoc, List.cons_append, ihFront (Nat.le_trans (Nat.le_max_left ..) hd) _ hHead]
    apply operands_step (shortens_term (shortens_groupReader n)) hOperator
    rw [ihLast (Nat.le_trans (Nat.le_max_right ..) hd) rest, operands_stop hRest]

theorem checkGrammar_of_derives {d : Nat} {ts : List Token} (h : Derives .expr d ts) (hd : d ≤ maxDepth) :
    checkGrammar ts = .ok () := by
  have hRead : expr maxDepth ts = .ok [] := by
    have hRest := readsPhrase_of_derives h hd [] (by simp)
    rwa [List.append_nil] at hRest
  rw [checkGrammar, nestingDepth_of_derives h, if_neg (Nat.not_lt.mpr hd), hRead]

end LessonCheck.Arithmetic
