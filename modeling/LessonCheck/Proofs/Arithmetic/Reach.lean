import LessonCheck.Proofs.Arithmetic.Acceptance
import LessonCheck.Proofs.Arithmetic.Depth

/-!
# How far the readers get

An expression is read token by token from place to place, where a place is whose turn it is, operand or operator,
and how many parentheses are open. A reader that takes a list goes from the turn of an operand to that of an
operator at the same level. A reader that complains has come to a place where the next token cannot stand, or the
list ends too early; or it has met one parenthesis more than it may open.
-/

namespace LessonCheck.Arithmetic

structure Place where
  operandNext : Bool
  level : Nat
  deriving DecidableEq, Repr

namespace Place

def start : Place := ⟨true, 0⟩

/-- The place behind a whole expression. -/
def finish : Place := ⟨false, 0⟩

/-- The place behind the token, if the token can stand here. -/
def step : Place → Token → Option Place
  | ⟨true, n⟩, .int _ | ⟨true, n⟩, .ident _ => some ⟨false, n⟩
  | ⟨true, n⟩, .plus | ⟨true, n⟩, .minus => some ⟨true, n⟩
  | ⟨true, n⟩, .leftParen => some ⟨true, n + 1⟩
  | ⟨false, n⟩, .plus | ⟨false, n⟩, .minus | ⟨false, n⟩, .star | ⟨false, n⟩, .slash => some ⟨true, n⟩
  | ⟨false, n + 1⟩, .rightParen => some ⟨false, n⟩
  | _, _ => none

def after (p : Place) (ts : List Token) : Option Place := ts.foldlM step p

@[simp] theorem after_nil (p : Place) : p.after [] = some p := rfl

@[simp] theorem after_cons (p : Place) (t : Token) (ts : List Token) :
    p.after (t :: ts) = (p.step t).bind (·.after ts) :=
  List.foldlM_cons

theorem after_append (p : Place) (ts us : List Token) : p.after (ts ++ us) = (p.after ts).bind (·.after us) :=
  List.foldlM_append

theorem step_termOperator {t : Token} (h : isTermOperator t = true) (operandNext : Bool) (n : Nat) :
    step ⟨operandNext, n⟩ t = some ⟨true, n⟩ := by
  rcases isTermOperator_iff.mp h with rfl | rfl <;> cases operandNext <;> rfl

theorem step_factorOperator {t : Token} (h : isFactorOperator t = true) (n : Nat) :
    step ⟨false, n⟩ t = some ⟨true, n⟩ := by
  rcases isFactorOperator_iff.mp h with rfl | rfl <;> rfl

/-- An expression leads from the turn of an operand to that of an operator at its own level. -/
theorem after_of_derives {p : Phrase} {d : Nat} {ts : List Token} (h : Derives p d ts) (n : Nat) :
    after ⟨true, n⟩ ts = some ⟨false, n⟩ := by
  induction h generalizing n with
  | int | ident => rfl
  | group inner ih => simp [after_append, ih, step]
  | atom operand ih | unary first ih | term first ih => exact ih n
  | sign hSign operand ih => rw [after_cons, step_termOperator hSign, Option.bind_some, ih]
  | factor front hOperator last ihFront ihLast =>
    rw [after_append, ihFront, Option.bind_some, after_cons, step_factorOperator hOperator, Option.bind_some, ihLast]
  | summand front hOperator last ihFront ihLast =>
    rw [after_append, ihFront, Option.bind_some, after_cons, step_termOperator hOperator, Option.bind_some, ihLast]

/-! ## Levels and the scan of the depth -/

/-- The scan knows whose turn it is and how many groups are open. -/
def Agrees (p : Place) (s : DepthScan) : Prop := s.operandNext = p.operandNext ∧ s.groups.length = p.level

theorem Agrees.step {p q : Place} {s : DepthScan} {t : Token} (h : p.Agrees s) (hStep : p.step t = some q) :
    q.Agrees (s.step t) := by
  obtain ⟨operandNext, n⟩ := p
  obtain ⟨hNext, hLevel⟩ := h
  cases operandNext with
  | true =>
    have hNext : s.operandNext = true := hNext
    cases t with
    | int | ident =>
      obtain rfl := Option.some.inj hStep
      exact ⟨rfl, hLevel⟩
    | plus | minus =>
      obtain rfl := Option.some.inj hStep
      rw [DepthScan.step, if_pos hNext]
      exact ⟨hNext, hLevel⟩
    | leftParen =>
      obtain rfl := Option.some.inj hStep
      rw [DepthScan.step, if_pos hNext]
      exact ⟨hNext, congrArg Nat.succ hLevel⟩
    | str | star | slash | rightParen => cases hStep
  | false =>
    have hNext : ¬s.operandNext = true := by simp [hNext]
    cases t with
    | plus | minus =>
      obtain rfl := Option.some.inj hStep
      rw [DepthScan.step, if_neg hNext]
      exact ⟨rfl, hLevel⟩
    | star | slash =>
      obtain rfl := Option.some.inj hStep
      exact ⟨rfl, hLevel⟩
    | rightParen =>
      cases n with
      | zero => cases hStep
      | succ n =>
        obtain rfl := Option.some.inj hStep
        have hTail : s.closeGroup.groups.length = n := by simp [DepthScan.closeGroup, hLevel]
        exact ⟨rfl, hTail⟩
    | int | ident | str | leftParen => cases hStep

theorem agrees_foldl {p q : Place} {s : DepthScan} {ts : List Token} (h : p.Agrees s)
    (hAfter : p.after ts = some q) : q.Agrees (ts.foldl DepthScan.step s) := by
  induction ts generalizing p s with
  | nil =>
    obtain rfl := Option.some.inj hAfter
    exact h
  | cons t ts ih =>
    obtain ⟨r, hStep, hRest⟩ := Option.bind_eq_some_iff.mp hAfter
    exact ih (h.step hStep) hRest

theorem level_le_nestingDepth {q : Place} {ts : List Token} (h : start.after ts = some q) :
    q.level ≤ nestingDepth ts := by
  obtain ⟨-, hLevel⟩ := agrees_foldl (s := .start) ⟨rfl, rfl⟩ h
  rw [← hLevel]
  exact (DepthScan.consistent_start.foldl ts).length_groups_le

end Place

/-! ## Going on in a list -/

/-- From one place the list leads to the other and leaves the rest. -/
def Reaches (p : Place) (ts : List Token) (q : Place) (rest : List Token) : Prop :=
  ∃ front, ts = front ++ rest ∧ p.after front = some q

namespace Reaches

variable {p q r : Place} {ts us vs : List Token}

theorem refl (p : Place) (ts : List Token) : Reaches p ts p ts := ⟨[], rfl, rfl⟩

theorem trans (h : Reaches p ts q us) (hNext : Reaches q us r vs) : Reaches p ts r vs := by
  obtain ⟨front, rfl, hFront⟩ := h
  obtain ⟨more, rfl, hMore⟩ := hNext
  exact ⟨front ++ more, by simp, by rw [Place.after_append, hFront, Option.bind_some, hMore]⟩

theorem head {t : Token} (h : p.step t = some q) (ts : List Token) : Reaches p (t :: ts) q ts :=
  ⟨[t], rfl, by simp [h]⟩

end Reaches

/-- The reader, with `n` more parentheses to open, complains about the list. -/
inductive Refuses (n : Nat) (operandNext : Bool) (ts : List Token) : Error → Prop
  | stuck {rest : List Token} {next : Bool} {opened : Nat}
      (hReaches : ∀ k, Reaches ⟨operandNext, k⟩ ts ⟨next, k + opened⟩ rest) (hOpen : next = true ∨ 0 < opened)
      (hRest : ∀ t ∈ rest.head?, ∀ k, Place.step ⟨next, k + opened⟩ t = none) :
      Refuses n operandNext ts (stuck rest)
  | tooDeep {rest : List Token}
      (hReaches : ∀ k, Reaches ⟨operandNext, k⟩ ts ⟨true, k + n⟩ (.leftParen :: rest)) :
      Refuses n operandNext ts .tooDeep

theorem Refuses.of_reaches {n : Nat} {operandNext next : Bool} {ts us : List Token} {e : Error}
    (h : ∀ k, Reaches ⟨operandNext, k⟩ ts ⟨next, k⟩ us) (hRefuses : Refuses n next us e) :
    Refuses n operandNext ts e := by
  cases hRefuses with
  | stuck hReaches hOpen hRest => exact .stuck (fun k => (h k).trans (hReaches k)) hOpen hRest
  | tooDeep hReaches => exact .tooDeep fun k => (h k).trans (hReaches k)

/-- What is wrong inside parentheses is wrong in front of them, one level further down. -/
theorem Refuses.group {n : Nat} {ts : List Token} {e : Error} (h : Refuses n true ts e) :
    Refuses (n + 1) true (.leftParen :: ts) e := by
  have hInto (k : Nat) : Reaches ⟨true, k⟩ (.leftParen :: ts) ⟨true, k + 1⟩ ts := .head rfl ts
  cases h with
  | @stuck rest next opened hReaches hOpen hRest =>
    have hInside (k : Nat) : Reaches ⟨true, k⟩ (.leftParen :: ts) ⟨next, k + (opened + 1)⟩ rest := by
      have hDeeper := (hInto k).trans (hReaches (k + 1))
      rwa [Nat.add_right_comm k 1 opened] at hDeeper
    refine .stuck hInside (.inr (Nat.succ_pos opened)) ?_
    intro t ht k
    have hNone := hRest t ht (k + 1)
    rwa [Nat.add_right_comm k 1 opened] at hNone
  | @tooDeep rest hReaches =>
    have hInside (k : Nat) : Reaches ⟨true, k⟩ (.leftParen :: ts) ⟨true, k + (n + 1)⟩ (.leftParen :: rest) := by
      have hDeeper := (hInto k).trans (hReaches (k + 1))
      rwa [Nat.add_right_comm k 1 n] at hDeeper
    exact .tooDeep hInside

/-! ## The readers -/

/-- What the reader takes leads to the turn of an operator, and it stops before no token of the given kind; what
it complains about is refused. -/
structure Follows (n : Nat) (goesOn : Token → Bool) (read : Reader) : Prop where
  takes : ∀ ts rest, read ts = .ok rest → (∀ k, Reaches ⟨true, k⟩ ts ⟨false, k⟩ rest) ∧
    ∀ t ∈ rest.head?, goesOn t = false
  refuses : ∀ ts e, read ts = .error e → Refuses n true ts e

def isOperator (t : Token) : Bool := isFactorOperator t || isTermOperator t

/-- Behind an operand inside parentheses stands an operator or the closing parenthesis, or nothing fits. -/
theorem step_eq_none {t : Token} (hOperator : isOperator t = false) {n : Nat}
    (hParen : t = .rightParen → n = 0) : Place.step ⟨false, n⟩ t = none := by
  cases t with
  | plus | minus | star | slash => cases hOperator
  | rightParen =>
    obtain rfl := hParen rfl
    rfl
  | int | ident | str | leftParen => rfl

section Atom

variable {n : Nat} {group : Reader}
  (hTakes : ∀ ts rest, group ts = .ok rest → (∀ k, Reaches ⟨true, k⟩ ts ⟨false, k⟩ rest) ∧
    ∀ t ∈ rest.head?, isOperator t = false)
  (hRefuses : ∀ ts e, group ts = .error e → Refuses n true (.leftParen :: ts) e)

include hTakes

theorem reaches_atom {ts rest : List Token} (hRead : atom group ts = .ok rest) (k : Nat) :
    Reaches ⟨true, k⟩ ts ⟨false, k⟩ rest := by
  unfold atom at hRead
  split at hRead
  · obtain rfl := Except.ok.inj hRead
    exact .head rfl _
  · obtain rfl := Except.ok.inj hRead
    exact .head rfl _
  · next inner =>
    split at hRead
    · next closed hInner =>
      obtain rfl := Except.ok.inj hRead
      have hInto : Reaches ⟨true, k⟩ (.leftParen :: inner) ⟨true, k + 1⟩ inner := .head rfl inner
      exact (hInto.trans ((hTakes _ _ hInner).1 (k + 1))).trans (.head rfl closed)
    · cases hRead
    · cases hRead
  · cases hRead

include hRefuses

theorem refuses_atom {ts : List Token} {e : Error} (hSign : ∀ t ∈ ts.head?, isTermOperator t = false)
    (hRead : atom group ts = .error e) : Refuses n true ts e := by
  unfold atom at hRead
  split at hRead
  · cases hRead
  · cases hRead
  · next inner =>
    split at hRead
    · cases hRead
    · next rest hOther hInner =>
      obtain rfl := Except.error.inj hRead
      obtain ⟨hReaches, hStop⟩ := hTakes _ _ hInner
      have hInside (k : Nat) : Reaches ⟨true, k⟩ (.leftParen :: inner) ⟨false, k + 1⟩ rest :=
        (Reaches.head rfl inner).trans (hReaches (k + 1))
      refine .stuck hInside (.inr Nat.one_pos) ?_
      intro t ht k
      obtain ⟨tail, rfl⟩ := List.head?_eq_some_iff.mp ht
      refine step_eq_none (hStop t ht) fun hParen => ?_
      subst hParen
      exact absurd rfl (hOther tail)
    · next hInner =>
      obtain rfl := Except.error.inj hRead
      exact hRefuses _ _ hInner
  · next hInt hIdent hParen =>
    obtain rfl := Except.error.inj hRead
    have hHere (k : Nat) : Reaches ⟨true, k⟩ ts ⟨true, k + 0⟩ ts := .refl _ _
    refine .stuck hHere (.inl rfl) ?_
    intro t ht k
    obtain ⟨tail, rfl⟩ := List.head?_eq_some_iff.mp ht
    cases t with
    | plus | minus => cases hSign _ rfl
    | int digits => exact absurd rfl (hInt digits tail)
    | ident name => exact absurd rfl (hIdent name tail)
    | leftParen => exact absurd rfl (hParen tail)
    | str | star | slash | rightParen => rfl

theorem follows_unary : Follows n (fun _ => false) (unary group) := by
  refine ⟨?takes, ?refuses⟩
  case takes =>
    intro ts rest hRead
    refine ⟨fun k => ?_, fun t _ => rfl⟩
    fun_induction unary group ts with
    | case1 ts ih | case2 ts ih => exact (Reaches.head rfl ts).trans (ih hRead)
    | case3 ts => exact reaches_atom hTakes hRead k
  case refuses =>
    intro ts e hRead
    fun_induction unary group ts with
    | case1 ts ih | case2 ts ih => exact .of_reaches (fun k => .head rfl ts) (ih hRead)
    | case3 ts hPlus hMinus =>
      refine refuses_atom hTakes hRefuses ?_ hRead
      intro t ht
      obtain ⟨tail, rfl⟩ := List.head?_eq_some_iff.mp ht
      cases t with
      | plus => exact absurd rfl (hPlus tail)
      | minus => exact absurd rfl (hMinus tail)
      | int | ident | str | star | slash | leftParen | rightParen => rfl

end Atom

section Chain

variable {n : Nat} {goesOn isOp more : Token → Bool} {operand : Reader}
  (hStep : ∀ t, isOp t = true → ∀ k, Place.step ⟨false, k⟩ t = some ⟨true, k⟩) (hOperand : Follows n goesOn operand)

include hStep hOperand

theorem reaches_operands (hShortens : Shortens operand) {fuel : Nat} {ts rest : List Token}
    (hFuel : ts.length ≤ fuel) (hFirst : ∀ t ∈ ts.head?, goesOn t = false)
    (hRead : operands isOp operand fuel ts = .ok rest) :
    (∀ k, Reaches ⟨false, k⟩ ts ⟨false, k⟩ rest) ∧ ∀ t ∈ rest.head?, goesOn t = false ∧ isOp t = false := by
  induction fuel generalizing ts with
  | zero =>
    obtain rfl := Except.ok.inj hRead
    obtain rfl := List.length_eq_zero_iff.mp (Nat.le_zero.mp hFuel)
    exact ⟨fun k => .refl _ _, by simp⟩
  | succ fuel ih =>
    cases ts with
    | nil =>
      obtain rfl := Except.ok.inj hRead
      exact ⟨fun k => .refl _ _, by simp⟩
    | cons t ts =>
      rw [operands] at hRead
      split at hRead
      · next hOperator =>
        cases hNext : operand ts with
        | error e =>
          rw [hNext] at hRead
          cases hRead
        | ok left =>
          rw [hNext] at hRead
          obtain ⟨hReaches, hStop⟩ := hOperand.takes _ _ hNext
          have hLeft := hShortens _ _ hNext
          rw [List.length_cons] at hFuel
          obtain ⟨hRest, hEnd⟩ := ih (by omega) hStop hRead
          exact ⟨fun k => (Reaches.head (hStep t hOperator k) ts).trans ((hReaches k).trans (hRest k)), hEnd⟩
      · next hOther =>
        obtain rfl := Except.ok.inj hRead
        refine ⟨fun k => .refl _ _, ?_⟩
        intro u hu
        obtain rfl := Option.some.inj hu
        exact ⟨hFirst _ rfl, Bool.eq_false_iff.mpr hOther⟩

theorem refuses_operands {fuel : Nat} {ts : List Token} {e : Error}
    (hRead : operands isOp operand fuel ts = .error e) : Refuses n false ts e := by
  induction fuel generalizing ts with
  | zero => cases hRead
  | succ fuel ih =>
    cases ts with
    | nil => cases hRead
    | cons t ts =>
      rw [operands] at hRead
      split at hRead
      · next hOperator =>
        have hInto (k : Nat) := Reaches.head (hStep t hOperator k) ts
        cases hNext : operand ts with
        | error e' =>
          rw [hNext] at hRead
          obtain rfl := Except.error.inj hRead
          exact .of_reaches hInto (hOperand.refuses _ _ hNext)
        | ok left =>
          rw [hNext] at hRead
          exact .of_reaches (fun k => (hInto k).trans ((hOperand.takes _ _ hNext).1 k)) (ih hRead)
      · cases hRead

theorem follows_chain (hShortens : Shortens operand)
    (hMore : ∀ t, goesOn t = false → isOp t = false → more t = false) : Follows n more (chain isOp operand) := by
  refine ⟨?takes, ?refuses⟩
  case takes =>
    intro ts rest hRead
    rw [chain] at hRead
    cases hNext : operand ts with
    | error e =>
      rw [hNext] at hRead
      cases hRead
    | ok left =>
      rw [hNext] at hRead
      obtain ⟨hReaches, hStop⟩ := hOperand.takes _ _ hNext
      obtain ⟨hRest, hEnd⟩ := reaches_operands hStep hOperand hShortens (Nat.le_refl _) hStop hRead
      exact ⟨fun k => (hReaches k).trans (hRest k), fun t ht => hMore t (hEnd t ht).1 (hEnd t ht).2⟩
  case refuses =>
    intro ts e hRead
    rw [chain] at hRead
    cases hNext : operand ts with
    | error e' =>
      rw [hNext] at hRead
      obtain rfl := Except.error.inj hRead
      exact hOperand.refuses _ _ hNext
    | ok left =>
      rw [hNext] at hRead
      exact .of_reaches (hOperand.takes _ _ hNext).1 (refuses_operands hStep hOperand hRead)

end Chain

theorem follows_expr (n : Nat) : Follows n isOperator (expr n) := by
  have hExpr (n : Nat) (hTerm : Follows n isFactorOperator (term (groupReader n))) :
      Follows n isOperator (expr n) := by
    rw [expr_eq]
    refine follows_chain (fun t ht k => Place.step_termOperator ht false k) hTerm
      (shortens_term (shortens_groupReader n)) ?_
    intro t hFactor hTerm
    rw [isOperator, hFactor, hTerm, Bool.or_false]
  have hTerm (n : Nat) (hUnary : Follows n (fun _ => false) (unary (groupReader n))) :
      Follows n isFactorOperator (term (groupReader n)) :=
    follows_chain (fun t ht k => Place.step_factorOperator ht k) hUnary
      (shortens_unary (shortens_groupReader n)) (fun _ _ hFactor => hFactor)
  induction n with
  | zero =>
    refine hExpr 0 (hTerm 0 (follows_unary (fun ts rest hRead => ?_) (fun ts e hRead => ?_)))
    · cases hRead
    · obtain rfl := Except.error.inj hRead
      have hHere (k : Nat) : Reaches ⟨true, k⟩ (.leftParen :: ts) ⟨true, k + 0⟩ (.leftParen :: ts) := .refl _ _
      exact .tooDeep hHere
  | succ n ih =>
    exact hExpr (n + 1) (hTerm (n + 1) (follows_unary ih.takes fun ts e hRead => (ih.refuses ts e hRead).group))

/-- The parenthesis that a reader may not open takes the scan below its depth. -/
theorem lt_nestingDepth_of_refuses {n : Nat} {ts : List Token} (h : Refuses n true ts .tooDeep) :
    n < nestingDepth ts := by
  generalize hError : Error.tooDeep = e at h
  cases h with
  | @stuck rest => cases rest <;> cases hError
  | @tooDeep rest hReaches =>
    obtain ⟨front, hSplit, hFront⟩ := hReaches 0
    have hDeeper : Place.start.after (front ++ [.leftParen]) = some ⟨true, 0 + n + 1⟩ := by
      rw [Place.after_append, Place.start, hFront]
      rfl
    have hLevel := Place.level_le_nestingDepth hDeeper
    have hPrefix := nestingDepth_le_append (front ++ [.leftParen]) rest
    rw [List.append_assoc, List.singleton_append, ← hSplit] at hPrefix
    simp only at hLevel
    omega

/-- On a list that is not too deep the reader goes as far as any expression does. -/
theorem exists_place_of_expr {n : Nat} {ts : List Token} (h : nestingDepth ts ≤ n) :
    ∃ q rest, Reaches .start ts q rest ∧ (∀ t ∈ rest.head?, q.step t = none) ∧
      (q = .finish ∧ expr n ts = .ok rest ∨ q ≠ .finish ∧ expr n ts = .error (stuck rest)) := by
  cases hRead : expr n ts with
  | ok rest =>
    obtain ⟨hReaches, hStop⟩ := (follows_expr n).takes _ _ hRead
    refine ⟨.finish, rest, hReaches 0, ?_, .inl ⟨rfl, rfl⟩⟩
    intro t ht
    exact step_eq_none (hStop t ht) fun _ => rfl
  | error e =>
    have hRefuses := (follows_expr n).refuses _ _ hRead
    cases hRefuses with
    | @stuck rest next opened hReaches hOpen hRest =>
      refine ⟨_, rest, hReaches 0, fun t ht => hRest t ht 0, .inr ⟨?_, rfl⟩⟩
      intro hFinish
      obtain ⟨hNext, hLevel⟩ := Place.mk.inj hFinish
      rcases hOpen with hOpen | hOpen
      · rw [hOpen] at hNext
        cases hNext
      · omega
    | tooDeep hReaches => exact absurd (lt_nestingDepth_of_refuses (.tooDeep hReaches)) (Nat.not_lt.mpr h)

end LessonCheck.Arithmetic
