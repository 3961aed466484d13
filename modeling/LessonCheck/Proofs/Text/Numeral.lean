import LessonCheck.Proofs.Text.Trim
import LessonCheck.Text.Numeral
import LessonCheck.Word

/-!
# Written numerals

A number is written as a nonempty text of digits. Its first and last characters are digits and so no blanks, and
no number but zero starts with a zero. With at most one minus sign in front of the digits it is an integer; the
digits of all scripts give more integers than the ASCII digits, though no more ASCII texts.
-/

namespace LessonCheck

namespace Text

theorem isDigit_of_mem_ofNat {n : Nat} {c : Char} (hc : c ∈ ofNat n) : c.isDigit = true :=
  Nat.isDigit_of_mem_toDigits (b := 10) (by decide) (by decide) hc

theorem isBlank_eq_false_of_isDigit {c : Char} (h : c.isDigit = true) : isBlank c = false := by
  have hRange : 48 ≤ c.toNat ∧ c.toNat ≤ 57 := Char.isDigit_iff_toNat.mp h
  simp only [isBlank, Bool.or_eq_false_iff, Bool.and_eq_false_iff, decide_eq_false_iff_not, beq_eq_false_iff_ne]
  omega

theorem exists_ofNat_cons (n : Nat) : ∃ c w, ofNat n = c :: w ∧ c.isDigit = true := by
  obtain ⟨c, w, hEq⟩ := List.exists_cons_of_ne_nil (Nat.toDigits_ne_nil (n := n) (b := 10))
  exact ⟨c, w, hEq, isDigit_of_mem_ofNat (n := n) (by rw [ofNat, hEq]; exact List.mem_cons_self)⟩

theorem framed_ofNat (n : Nat) : Framed (ofNat n) := by
  obtain ⟨c, w, hEq, hc⟩ := exists_ofNat_cons n
  refine ⟨⟨c, by rw [hEq]; rfl, isBlank_eq_false_of_isDigit hc⟩, ?_⟩
  have hne : ofNat n ≠ [] := by
    rw [hEq]
    exact List.cons_ne_nil c w
  have hLast := List.getLast_mem hne
  exact ⟨_, List.getLast?_eq_some_getLast hne, isBlank_eq_false_of_isDigit (isDigit_of_mem_ofNat hLast)⟩

/-- Only zero is written with a zero in front. -/
theorem eq_zero_of_head?_ofNat {n : Nat} (h : (ofNat n).head? = some '0') : n = 0 := by
  induction n using Nat.strongRecOn with
  | ind n ih =>
    by_cases hSmall : n < 10
    · have hDigit : ∀ k < 10, Nat.digitChar k = '0' → k = 0 := by decide
      rw [ofNat, Nat.toDigits_of_lt_base hSmall] at h
      exact hDigit n hSmall (Option.some.inj h)
    · have hSplit : ofNat n = ofNat (n / 10) ++ [Nat.digitChar (n % 10)] :=
        Nat.toDigits_of_base_le (by decide) (by omega)
      obtain ⟨c, w, hEq, -⟩ := exists_ofNat_cons (n / 10)
      have hFront : (ofNat (n / 10)).head? = some '0' := by
        rw [hSplit, hEq] at h
        rw [hEq]
        exact h
      have hZero := ih (n / 10) (by omega) hFront
      omega

theorem nat?_eq_some_iff {t : Text} {n : Nat} : nat? t = some n ↔
    t ≠ [] ∧ (∀ c ∈ t, c.isDigit = true) ∧ Nat.ofDigitChars 10 t 0 = n := by
  rw [nat?, Option.ite_none_right_eq_some, List.all_eq_true, Option.some.injEq, and_assoc]

/-! ## Integers -/

/-- Digits of a class, at least one, with at most one minus sign in front. -/
def IsSigned (digit : Char → Bool) (t : Text) : Prop :=
  ∃ sign digits, t = sign ++ digits ∧ (sign = [] ∨ sign = ['-']) ∧ digits ≠ [] ∧ ∀ c ∈ digits, digit c = true

theorem isSigned_iff {digit : Char → Bool} (hMinus : digit '-' = false) {t : Text} :
    (!((after? ['-'] t).getD t).isEmpty && ((after? ['-'] t).getD t).all digit) = true ↔ IsSigned digit t := by
  constructor
  · intro h
    cases hSign : after? ['-'] t with
    | none =>
      rw [hSign] at h
      exact ⟨[], t, rfl, .inl rfl, by simpa using h⟩
    | some digits =>
      rw [hSign] at h
      exact ⟨['-'], digits, after?_eq_some_iff.mp hSign, .inr rfl, by simpa using h⟩
  · rintro ⟨sign, digits, rfl, hSign, hne, hDigits⟩
    have hRest : (after? ['-'] (sign ++ digits)).getD (sign ++ digits) = digits := by
      rcases hSign with rfl | rfl
      · obtain ⟨d, r, rfl⟩ := List.exists_cons_of_ne_nil hne
        have hd : '-' ≠ d := by
          rintro rfl
          rw [hDigits '-' List.mem_cons_self] at hMinus
          cases hMinus
        simp [after?, hd]
      · rw [after?_eq_some_iff.mpr rfl, Option.getD_some]
    rw [hRest]
    simpa [hne] using hDigits

/-- Of the decimal digits of all scripts only those of the ASCII script are ASCII characters. -/
theorem isDigit_iff {c : Char} : c.isDigit = true ↔ isDecimalDigit c = true ∧ c.toNat < 128 := by
  have hRange : c.isDigit = true ↔ 48 ≤ c.toNat ∧ c.toNat ≤ 57 := Char.isDigit_iff_toNat
  constructor
  · intro h
    have hc := hRange.mp h
    exact ⟨isDecimalDigit_of_isDigit h, by omega⟩
  · rintro ⟨hDigit, hAscii⟩
    obtain ⟨z, hz, hc⟩ := List.any_eq_true.mp hDigit
    rw [Bool.and_eq_true, decide_eq_true_iff, decide_eq_true_iff] at hc
    have hOnly : ∀ z ∈ digitZeros, z < 128 → z = 48 := by decide
    have hZero := hOnly z hz (by omega)
    exact hRange.mpr (by omega)

theorem isSigned_isDigit_iff {t : Text} :
    IsSigned Char.isDigit t ↔ IsSigned isDecimalDigit t ∧ ∀ c ∈ t, c.toNat < 128 := by
  constructor
  · rintro ⟨sign, digits, rfl, hSign, hne, hDigits⟩
    refine ⟨⟨sign, digits, rfl, hSign, hne, fun c hc => (isDigit_iff.mp (hDigits c hc)).1⟩, fun c hc => ?_⟩
    rcases List.mem_append.mp hc with hc | hc
    · rcases hSign with rfl | rfl
      · cases hc
      · rw [List.mem_singleton.mp hc]
        decide
    · exact (isDigit_iff.mp (hDigits c hc)).2
  · rintro ⟨⟨sign, digits, rfl, hSign, hne, hDigits⟩, hAscii⟩
    exact ⟨sign, digits, rfl, hSign, hne, fun c hc =>
      isDigit_iff.mpr ⟨hDigits c hc, hAscii c (List.mem_append_right sign hc)⟩⟩

end Text

theorem Word.isIntegerLiteral_iff {t : Text} : isIntegerLiteral t = true ↔ Text.IsSigned Char.isDigit t :=
  Text.isSigned_iff rfl

end LessonCheck
