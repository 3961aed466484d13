import LessonCheck.Proofs.Arithmetic.Reach

/-!
# The earliest grammar error

A list of tokens can be extended to an expression exactly if it leads to some place: an operand, if one is due,
and a parenthesis for each open one make it whole. So the token that the grammar blames is the first that no
expression goes on with, and the end is blamed for a list that lacks nothing but what comes behind it.
-/

namespace LessonCheck.Arithmetic

/-- Some derivation, of any depth, gives the list. -/
def IsExpression (ts : List Token) : Prop := ∃ d, Derives .expr d ts

def Extendable (ts : List Token) : Prop := ∃ more, IsExpression (ts ++ more)

/-- The token stands behind all that can be extended, and cannot be extended together with it. -/
structure FirstMisfit (ts front : List Token) (t : Token) (back : List Token) : Prop where
  split : ts = front ++ t :: back
  extendable : Extendable front
  misfit : ¬Extendable (front ++ [t])

theorem isExpression_iff {ts : List Token} : IsExpression ts ↔ Place.start.after ts = some .finish := by
  constructor
  · rintro ⟨d, hDerives⟩
    exact Place.after_of_derives hDerives 0
  · intro hAfter
    obtain ⟨q, rest, ⟨front, rfl, hFront⟩, hStop, hRead⟩ := exists_place_of_expr (Nat.le_refl (nestingDepth ts))
    rw [Place.after_append, hFront, Option.bind_some] at hAfter
    cases rest with
    | cons t rest => simp [hStop t rfl] at hAfter
    | nil =>
      obtain rfl := Option.some.inj hAfter
      rcases hRead with ⟨-, hRead⟩ | ⟨hOther, -⟩
      · obtain ⟨whole, d, hSplit, hDerives⟩ := takes_expr _ _ _ hRead
        simp only [List.append_nil] at hSplit
        rw [List.append_nil, hSplit]
        exact ⟨d, hDerives⟩
      · exact absurd rfl hOther

/-! ## Completing a list -/

namespace Place

/-- What an expression lacks here: an operand, if one is due, and the closing parentheses. -/
def completion (p : Place) : List Token :=
  (if p.operandNext then [.int ['0']] else []) ++ List.replicate p.level .rightParen

theorem after_replicate_rightParen (n : Nat) :
    after ⟨false, n⟩ (List.replicate n .rightParen) = some .finish := by
  induction n with
  | zero => rfl
  | succ n ih => exact ih

theorem after_completion (p : Place) : p.after p.completion = some .finish := by
  obtain ⟨operandNext, n⟩ := p
  cases operandNext with
  | true => exact after_replicate_rightParen n
  | false => exact after_replicate_rightParen n

end Place

theorem deepest_foldl_completion (s : DepthScan) (p : Place) :
    (p.completion.foldl DepthScan.step s).deepest = s.deepest := by
  have hClosers (n : Nat) (s : DepthScan) :
      ((List.replicate n Token.rightParen).foldl DepthScan.step s).deepest = s.deepest := by
    induction n generalizing s with
    | zero => rfl
    | succ n ih => exact ih s.closeGroup
  obtain ⟨operandNext, n⟩ := p
  cases operandNext with
  | true => exact hClosers n s.operand
  | false => exact hClosers n s

theorem extendable_iff {ts : List Token} : Extendable ts ↔ (Place.start.after ts).isSome = true := by
  constructor
  · rintro ⟨more, hWhole⟩
    have hAfter := isExpression_iff.mp hWhole
    rw [Place.after_append] at hAfter
    obtain ⟨q, hFront, -⟩ := Option.bind_eq_some_iff.mp hAfter
    rw [hFront]
    rfl
  · intro hSome
    obtain ⟨q, hFront⟩ := Option.isSome_iff_exists.mp hSome
    refine ⟨q.completion, isExpression_iff.mpr ?_⟩
    rw [Place.after_append, hFront, Option.bind_some, q.after_completion]

/-- The completion is no deeper than the list, so the depth refuses no extension that the grammar allows. -/
theorem exists_accepted_of_extendable {ts : List Token} (h : Extendable ts) (hDeep : nestingDepth ts ≤ maxDepth) :
    ∃ more, checkGrammar (ts ++ more) = .ok () := by
  obtain ⟨q, hFront⟩ := Option.isSome_iff_exists.mp (extendable_iff.mp h)
  have hWhole : Place.start.after (ts ++ q.completion) = some .finish := by
    rw [Place.after_append, hFront, Option.bind_some, q.after_completion]
  obtain ⟨d, hDerives⟩ := isExpression_iff.mpr hWhole
  have hDepth : nestingDepth (ts ++ q.completion) = nestingDepth ts := by
    rw [nestingDepth, List.foldl_append, deepest_foldl_completion, ← nestingDepth]
  rw [nestingDepth_of_derives hDerives] at hDepth
  exact ⟨q.completion, checkGrammar_of_derives hDerives (hDepth ▸ hDeep)⟩

theorem Extendable.of_append {ts us : List Token} (h : Extendable (ts ++ us)) : Extendable ts := by
  obtain ⟨more, hWhole⟩ := h
  exact ⟨us ++ more, by rwa [← List.append_assoc]⟩

/-! ## The blamed token -/

theorem FirstMisfit.not_extendable {ts front back : List Token} {t : Token} (h : FirstMisfit ts front t back) :
    ¬Extendable ts := by
  intro hWhole
  rw [h.split, List.append_cons] at hWhole
  exact h.misfit hWhole.of_append

theorem FirstMisfit.unique {ts front other back rest : List Token} {t u : Token}
    (h : FirstMisfit ts front t back) (hOther : FirstMisfit ts other u rest) :
    front = other ∧ t = u ∧ back = rest := by
  -- A longer front would hold the first misfit, and could not be extended.
  have hLonger {front other more back rest : List Token} {t u : Token} (h : FirstMisfit ts front t back)
      (hOther : FirstMisfit ts other u rest) (hMore : other = front ++ more) (hTail : t :: back = more ++ u :: rest) :
      more = [] := by
    cases more with
    | nil => rfl
    | cons v more =>
      obtain ⟨rfl, -⟩ := List.cons.inj hTail
      have hFront := hOther.extendable
      rw [hMore, List.append_cons] at hFront
      exact absurd hFront.of_append h.misfit
  have hSplit : front ++ t :: back = other ++ u :: rest := h.split.symm.trans hOther.split
  rcases List.append_eq_append_iff.mp hSplit with ⟨more, hMore, hTail⟩ | ⟨more, hMore, hTail⟩
  · obtain rfl := hLonger h hOther hMore hTail
    obtain ⟨rfl, rfl⟩ := List.cons.inj hTail
    exact ⟨by rw [hMore, List.append_nil], rfl, rfl⟩
  · obtain rfl := hLonger hOther h hMore hTail
    obtain ⟨rfl, rfl⟩ := List.cons.inj hTail
    exact ⟨by rw [hMore, List.append_nil], rfl, rfl⟩

theorem checkGrammar_cases {ts : List Token} (h : nestingDepth ts ≤ maxDepth) :
    (IsExpression ts ∧ checkGrammar ts = .ok ()) ∨
      (Extendable ts ∧ ¬IsExpression ts ∧ checkGrammar ts = .error .unexpectedEnd) ∨
      ∃ front t back, FirstMisfit ts front t back ∧ checkGrammar ts = .error (.unexpectedToken t) := by
  obtain ⟨q, rest, ⟨front, hSplit, hFront⟩, hStop, hRead⟩ := exists_place_of_expr h
  have hCheck : checkGrammar ts = if rest = [] ∧ q = .finish then .ok () else .error (stuck rest) := by
    rw [checkGrammar, if_neg (Nat.not_lt.mpr h)]
    rcases hRead with ⟨hFinish, hRead⟩ | ⟨hOther, hRead⟩
    · rw [hRead]
      cases rest with
      | nil => rw [if_pos ⟨rfl, hFinish⟩]
      | cons t rest => rw [if_neg (by simp)]
    · rw [hRead, if_neg fun hEnd => hOther hEnd.2]
  cases rest with
  | nil =>
    rw [List.append_nil] at hSplit
    rw [← hSplit] at hFront
    by_cases hFinish : q = .finish
    · refine .inl ⟨isExpression_iff.mpr (hFinish ▸ hFront), ?_⟩
      rw [hCheck, if_pos ⟨rfl, hFinish⟩]
    · refine .inr (.inl ⟨extendable_iff.mpr (by rw [hFront]; rfl), ?_, ?_⟩)
      · intro hWhole
        have hEnd := isExpression_iff.mp hWhole
        rw [hFront] at hEnd
        exact hFinish (Option.some.inj hEnd)
      · rw [hCheck, if_neg fun hEnd => hFinish hEnd.2]
        rfl
  | cons t back =>
    refine .inr (.inr ⟨front, t, back, ⟨hSplit, extendable_iff.mpr (by rw [hFront]; rfl), ?_⟩, ?_⟩)
    · rw [extendable_iff, Place.after_append, hFront, Option.bind_some, Place.after_cons, hStop t rfl]
      exact Bool.false_ne_true
    · rw [hCheck, if_neg (by simp)]
      rfl

/-- On every list that is not too deep the grammar blames the first token with which no expression goes on, or
the end of a list that only lacks a continuation; one of the verdicts is always given, for one reason. -/
theorem checkGrammar_earliest (ts : List Token) (h : nestingDepth ts ≤ 256) :
    (∀ t, checkGrammar ts = .error (.unexpectedToken t) ↔ ∃ front back, FirstMisfit ts front t back) ∧
      (checkGrammar ts = .error .unexpectedEnd ↔ Extendable ts ∧ ¬IsExpression ts) ∧
      (checkGrammar ts = .ok () ↔ IsExpression ts) ∧
      (checkGrammar ts = .ok () ∨ checkGrammar ts = .error .unexpectedEnd ∨
        ∃ t, checkGrammar ts = .error (.unexpectedToken t)) ∧
      (∀ front t back other u rest, FirstMisfit ts front t back → FirstMisfit ts other u rest →
        front = other ∧ t = u ∧ back = rest) ∧
      ∀ front, front <+: ts → (Extendable front ↔ ∃ more, checkGrammar (front ++ more) = .ok ()) := by
  have hExtends (hWhole : IsExpression ts) : Extendable ts := ⟨[], by rwa [List.append_nil]⟩
  refine ⟨?token, ?theEnd, ?accepted, ?exhaustive, ?unique, ?extension⟩
  case token =>
    intro t
    rcases checkGrammar_cases h with ⟨hWhole, hCheck⟩ | ⟨hExtendable, -, hCheck⟩ | ⟨front, u, back, hMisfit, hCheck⟩
    · rw [hCheck]
      exact iff_of_false (by simp) fun ⟨_, _, hMisfit⟩ => hMisfit.not_extendable (hExtends hWhole)
    · rw [hCheck]
      exact iff_of_false (by simp) fun ⟨_, _, hMisfit⟩ => hMisfit.not_extendable hExtendable
    · rw [hCheck]
      constructor
      · intro hBlamed
        obtain rfl := Error.unexpectedToken.inj (Except.error.inj hBlamed)
        exact ⟨front, back, hMisfit⟩
      · rintro ⟨other, rest, hOther⟩
        rw [(hMisfit.unique hOther).2.1]
  case theEnd =>
    rcases checkGrammar_cases h with ⟨hWhole, hCheck⟩ | ⟨hExtendable, hNot, hCheck⟩ | ⟨_, _, _, hMisfit, hCheck⟩
    · rw [hCheck]
      exact iff_of_false (by simp) fun hEnd => hEnd.2 hWhole
    · exact iff_of_true hCheck ⟨hExtendable, hNot⟩
    · rw [hCheck]
      exact iff_of_false (by simp) fun hEnd => hMisfit.not_extendable hEnd.1
  case accepted =>
    rcases checkGrammar_cases h with ⟨hWhole, hCheck⟩ | ⟨-, hNot, hCheck⟩ | ⟨_, _, _, hMisfit, hCheck⟩
    · exact iff_of_true hCheck hWhole
    · rw [hCheck]
      exact iff_of_false (by simp) hNot
    · rw [hCheck]
      exact iff_of_false (by simp) fun hWhole => hMisfit.not_extendable (hExtends hWhole)
  case exhaustive =>
    rcases checkGrammar_cases h with ⟨-, hCheck⟩ | ⟨-, -, hCheck⟩ | ⟨_, t, _, -, hCheck⟩
    · exact .inl hCheck
    · exact .inr (.inl hCheck)
    · exact .inr (.inr ⟨t, hCheck⟩)
  case unique =>
    intro front t back other u rest hMisfit hOther
    exact hMisfit.unique hOther
  case extension =>
    rintro front ⟨back, rfl⟩
    constructor
    · intro hExtendable
      exact exists_accepted_of_extendable hExtendable (Nat.le_trans (nestingDepth_le_append front back) h)
    · rintro ⟨more, hCheck⟩
      obtain ⟨d, -, hDerives⟩ := exists_derives_of_checkGrammar hCheck
      exact ⟨more, d, hDerives⟩

/-- `(a * * b` -/
def doubledOperator : List Token := [.leftParen, .ident ['a'], .star, .star, .ident ['b']]

/-- The second star is the first token that fits nowhere, although the parenthesis is never closed. -/
theorem checkGrammar_earliest_doubledOperator :
    nestingDepth doubledOperator ≤ 256 ∧ (∃ front back, FirstMisfit doubledOperator front .star back) ∧
      ¬Extendable doubledOperator := by
  have hDeep : nestingDepth doubledOperator ≤ 256 := by decide
  obtain ⟨hToken, -⟩ := checkGrammar_earliest doubledOperator hDeep
  have hCheck : checkGrammar doubledOperator = .error (.unexpectedToken .star) := by decide +kernel
  obtain ⟨front, back, hMisfit⟩ := (hToken .star).mp hCheck
  exact ⟨hDeep, ⟨front, back, hMisfit⟩, hMisfit.not_extendable⟩

end LessonCheck.Arithmetic
