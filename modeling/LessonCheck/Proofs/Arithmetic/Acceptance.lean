import LessonCheck.Proofs.Arithmetic.Derivation

/-!
# What the grammar accepts

What a reader takes off the front of a list is derived by its phrase, at some depth. With the converse, that a
derived list is read back, the grammar accepts exactly the lists with a derivation that is not too deep, and the
scan of the depth never refuses a list for any other reason than the depth of its derivation.
-/

namespace LessonCheck.Arithmetic

/-- Whatever the reader takes is derived by the phrase. -/
def Takes (p : Phrase) (read : Reader) : Prop :=
  ∀ ts rest, read ts = .ok rest → ∃ front d, ts = front ++ rest ∧ Derives p d front

theorem takes_atom {group : Reader} (hGroup : Takes .expr group) : Takes .atom (atom group) := by
  intro ts rest hRead
  unfold atom at hRead
  split at hRead
  · next digits tail =>
    obtain rfl := Except.ok.inj hRead
    exact ⟨[.int digits], 0, rfl, .int digits⟩
  · next name tail =>
    obtain rfl := Except.ok.inj hRead
    exact ⟨[.ident name], 0, rfl, .ident name⟩
  · next inner =>
    split at hRead
    · next closed hInner =>
      obtain rfl := Except.ok.inj hRead
      obtain ⟨front, d, rfl, hFront⟩ := hGroup _ _ hInner
      exact ⟨.leftParen :: (front ++ [.rightParen]), d + 1, by simp, .group hFront⟩
    · cases hRead
    · cases hRead
  · cases hRead

theorem takes_unary {group : Reader} (hGroup : Takes .expr group) : Takes .unary (unary group) := by
  intro ts rest hRead
  fun_induction unary group ts with
  | case1 ts ih =>
    obtain ⟨front, d, rfl, hFront⟩ := ih hRead
    exact ⟨.plus :: front, d + 1, rfl, .sign rfl hFront⟩
  | case2 ts ih =>
    obtain ⟨front, d, rfl, hFront⟩ := ih hRead
    exact ⟨.minus :: front, d + 1, rfl, .sign rfl hFront⟩
  | case3 ts =>
    obtain ⟨front, d, rfl, hFront⟩ := takes_atom hGroup ts rest hRead
    exact ⟨front, d, rfl, .atom hFront⟩

/-! ## Chains of operands -/

section Chain

variable {whole part : Phrase} {isOperator : Token → Bool} {operand : Reader}
  (hJoin : ∀ {d e t ts us}, Derives whole d ts → isOperator t = true → Derives part e us →
    Derives whole (max d e) (ts ++ t :: us))
  (hOperand : Takes part operand)

include hJoin hOperand

/-- The loop over further operands goes on with what is derived so far. -/
theorem exists_derives_operands {n d : Nat} {front ts rest : List Token} (hFront : Derives whole d front)
    (hRead : operands isOperator operand n ts = .ok rest) :
    ∃ more e, ts = more ++ rest ∧ Derives whole e (front ++ more) := by
  induction n generalizing d front ts with
  | zero =>
    obtain rfl := Except.ok.inj hRead
    exact ⟨[], d, rfl, by rwa [List.append_nil]⟩
  | succ n ih =>
    cases ts with
    | nil =>
      obtain rfl := Except.ok.inj hRead
      exact ⟨[], d, rfl, by rwa [List.append_nil]⟩
    | cons t ts =>
      rw [operands] at hRead
      split at hRead
      · next hOperator =>
        cases hNext : operand ts with
        | error e =>
          rw [hNext] at hRead
          cases hRead
        | ok left =>
          rw [hNext] at hRead
          obtain ⟨us, e, rfl, hPart⟩ := hOperand _ _ hNext
          obtain ⟨more, e', rfl, hMore⟩ := ih (hJoin hFront hOperator hPart) hRead
          refine ⟨t :: (us ++ more), e', by simp, ?_⟩
          rwa [List.append_assoc, List.cons_append] at hMore
      · obtain rfl := Except.ok.inj hRead
        exact ⟨[], d, rfl, by rwa [List.append_nil]⟩

theorem takes_chain (hFirst : ∀ {d ts}, Derives part d ts → Derives whole d ts) :
    Takes whole (chain isOperator operand) := by
  intro ts rest hRead
  rw [chain] at hRead
  cases hNext : operand ts with
  | error e =>
    rw [hNext] at hRead
    cases hRead
  | ok left =>
    rw [hNext] at hRead
    obtain ⟨front, d, rfl, hPart⟩ := hOperand _ _ hNext
    obtain ⟨more, e, rfl, hWhole⟩ := exists_derives_operands hJoin hOperand (hFirst hPart) hRead
    exact ⟨front ++ more, e, by simp, hWhole⟩

end Chain

theorem takes_term {group : Reader} (hGroup : Takes .expr group) : Takes .term (term group) :=
  takes_chain .factor (takes_unary hGroup) .unary

theorem takes_groupReader (n : Nat) : Takes .expr (groupReader n) := by
  induction n with
  | zero =>
    intro ts rest hRead
    cases hRead
  | succ n ih =>
    rw [groupReader, expr_eq]
    exact takes_chain .summand (takes_term ih) .term

theorem takes_expr (n : Nat) : Takes .expr (expr n) := takes_groupReader (n + 1)

/-! ## The whole list -/

theorem exists_derives_of_checkGrammar {ts : List Token} (h : checkGrammar ts = .ok ()) :
    ∃ d, d ≤ maxDepth ∧ Derives .expr d ts := by
  obtain ⟨hDeep, hRead⟩ : ¬nestingDepth ts > maxDepth ∧ expr maxDepth ts = .ok [] := by
    unfold checkGrammar at h
    split at h
    · cases h
    · next hDeep =>
      split at h
      · next hRead => exact ⟨hDeep, hRead⟩
      · cases h
      · cases h
  obtain ⟨front, d, hSplit, hDerives⟩ := takes_expr maxDepth ts [] hRead
  rw [List.append_nil] at hSplit
  subst hSplit
  rw [nestingDepth_of_derives hDerives] at hDeep
  exact ⟨d, Nat.not_lt.mp hDeep, hDerives⟩

theorem checkGrammar_of_deep {d : Nat} {ts : List Token} (h : Derives .expr d ts) (hd : maxDepth < d) :
    checkGrammar ts = .error .tooDeep := by
  rw [checkGrammar, nestingDepth_of_derives h, if_pos hd]

/-- Exactly the lists with a derivation of at most 256 levels are accepted. The scan finds the depth of any
derivation, so a derived list is refused for its depth exactly if its derivation is deeper. -/
theorem checkGrammar_exact (ts : List Token) :
    (checkGrammar ts = .ok () ↔ ∃ d, d ≤ 256 ∧ Derives .expr d ts) ∧
      ∀ d, Derives .expr d ts →
        nestingDepth ts = d ∧ (checkGrammar ts = .error .tooDeep ↔ 256 < d) := by
  refine ⟨⟨exists_derives_of_checkGrammar, ?_⟩, ?_⟩
  · rintro ⟨d, hd, hDerives⟩
    exact checkGrammar_of_derives hDerives hd
  · intro d hDerives
    refine ⟨nestingDepth_of_derives hDerives, ?_, checkGrammar_of_deep hDerives⟩
    intro hRefused
    apply Nat.lt_of_not_le
    intro hd
    rw [checkGrammar_of_derives hDerives hd] at hRefused
    cases hRefused

end LessonCheck.Arithmetic
