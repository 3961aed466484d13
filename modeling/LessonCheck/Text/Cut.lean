import LessonCheck.Text.Blank

/-!
# Cutting texts

The ways in which the readers of the library take a text apart: after a fixed word, after blanks, at the
first occurrence of a character, and after a maximal run of characters. Each comes with the equation between
the text and its parts.
-/

namespace LessonCheck.Text

/-- What follows the word `w`, if the text starts with it. -/
def after? : Text → Text → Option Text
  | [], t => some t
  | _ :: _, [] => none
  | a :: w, c :: t => if a = c then after? w t else none

theorem after?_eq_some_iff {w t r : Text} : after? w t = some r ↔ t = w ++ r := by
  induction w generalizing t with
  | nil => simp [after?, eq_comm]
  | cons a w ih =>
    cases t with
    | nil => simp [after?]
    | cons c t =>
      by_cases h : a = c
      · subst h
        simp [after?, ih]
      · simp [after?, h, Ne.symm h]

/-- What follows a nonempty run of blanks at the start. -/
def afterBlanks? : Text → Option Text
  | [] => none
  | c :: r => if isBlank c then some (trimStart r) else none

/-- The parts before and after the first `c`. -/
def cut? (c : Char) : Text → Option (Text × Text)
  | [] => none
  | a :: t => if a = c then some ([], t) else (cut? c t).map fun p => (a :: p.1, p.2)

theorem cut?_eq_some_iff {c : Char} {t b r : Text} : cut? c t = some (b, r) ↔ t = b ++ c :: r ∧ c ∉ b := by
  induction t generalizing b with
  | nil => simp [cut?]
  | cons a t ih =>
    by_cases h : a = c
    · subst h
      cases b with
      | nil => simp [cut?, eq_comm]
      | cons d b =>
        simp only [cut?, if_true, Option.some.injEq, Prod.mk.injEq, List.nil_eq, reduceCtorEq, false_and,
          List.cons_append, List.cons.injEq, List.mem_cons, not_or, false_iff, not_and]
        rintro ⟨rfl, -⟩ hd
        exact absurd rfl hd
    · cases b with
      | nil => simp [cut?, h]
      | cons d b =>
        simp only [cut?, h, if_false, Option.map_eq_some_iff, Prod.exists, Prod.mk.injEq, List.cons.injEq]
        constructor
        · rintro ⟨b', r', hcut, ⟨rfl, rfl⟩, rfl⟩
          obtain ⟨rfl, hb⟩ := ih.1 hcut
          exact ⟨by simp, by simp [hb, Ne.symm h]⟩
        · rintro ⟨heq, hb⟩
          obtain ⟨rfl, rfl⟩ := List.cons.inj heq
          exact ⟨b, r, ih.2 ⟨rfl, fun hm => hb (List.mem_cons_of_mem _ hm)⟩, ⟨rfl, rfl⟩, rfl⟩

theorem cut?_eq_none_iff {c : Char} {t : Text} : cut? c t = none ↔ c ∉ t := by
  induction t with
  | nil => simp [cut?]
  | cons a t ih =>
    by_cases h : a = c
    · simp [cut?, h]
    · simp [cut?, h, Ne.symm h, ih]

/-- The longest prefix of characters in the class, and the rest. -/
def run (p : Char → Bool) (t : Text) : Text × Text := (t.takeWhile p, t.dropWhile p)

theorem run_append (p : Char → Bool) (t : Text) : (run p t).1 ++ (run p t).2 = t :=
  List.takeWhile_append_dropWhile

theorem length_afterBlanks? {t r : Text} (h : afterBlanks? t = some r) : r.length < t.length := by
  cases t with
  | nil => simp [afterBlanks?] at h
  | cons c t =>
    by_cases hc : isBlank c
    · simp only [afterBlanks?, hc, if_true, Option.some.injEq] at h
      subst h
      exact Nat.lt_succ_of_le (length_trimStart_le t)
    · simp [afterBlanks?, hc] at h

theorem length_after? {w t r : Text} (h : after? w t = some r) : t.length = w.length + r.length := by
  simp [after?_eq_some_iff.1 h]

theorem length_cut? {c : Char} {t b r : Text} (h : cut? c t = some (b, r)) :
    t.length = b.length + r.length + 1 := by
  rw [(cut?_eq_some_iff.1 h).1]
  simp
  omega

end LessonCheck.Text
