import LessonCheck.Proofs.Json.Scalar

/-!
# Reading written arrays and objects

A composite is read item by item, in any layout. If the reader of the items finds each of them, then the reader of
the array finds the array. An object takes a state from member to member; what its members make of the state is all
that counts.
-/

namespace LessonCheck.Json

open Text

def IsClosing (c : Char) : Prop := c = ']' ∨ c = '\x7d'

theorem isSpace_of_isClosing {c : Char} (h : IsClosing c) : isSpace c = false := by
  rcases h with rfl | rfl <;> decide

theorem isDelimiter_of_isClosing {c : Char} (h : IsClosing c) : isDelimiter c = true := by
  rcases h with rfl | rfl <;> decide

theorem ne_of_isClosing {c closing : Char} (h : IsClosing closing) (hc : isDelimiter c = false) : c ≠ closing := by
  rintro rfl
  rw [isDelimiter_of_isClosing h] at hc
  cases hc

/-! ## Layouts -/

theorem spaces_gap (l : Layout) : Spaces l.gap := by
  cases l with
  | compact => exact spaces_nil
  | indented level =>
    intro c hc
    rcases List.mem_cons.mp hc with rfl | hc
    · decide
    · rw [List.eq_of_mem_replicate hc]
      decide

theorem exists_colon (l : Layout) : ∃ w, l.colon = ':' :: w ∧ Spaces w := by
  cases l with
  | compact => exact ⟨[], rfl, spaces_nil⟩
  | indented level => exact ⟨[' '], rfl, spaces_singleton rfl⟩

/-- Items behind another one, each with its comma and the gap. -/
def behind (gap : Text) (items : List Text) : Text := items.flatMap fun item => ',' :: (gap ++ item)

theorem behind_cons (gap item : Text) (items : List Text) :
    behind gap (item :: items) = ',' :: (gap ++ (item ++ behind gap items)) := by
  simp [behind]

theorem length_le_behind (gap : Text) (items : List Text) : items.length ≤ (behind gap items).length := by
  induction items with
  | nil => exact Nat.le_refl 0
  | cons item items ih =>
    rw [behind_cons, List.length_cons, List.length_cons, List.length_append, List.length_append]
    omega

theorem intercalate_cons (gap item : Text) (items : List Text) :
    (',' :: gap).intercalate (item :: items) = item ++ behind gap items := by
  induction items generalizing item with
  | nil => rw [List.intercalate_singleton, behind, List.flatMap_nil, List.append_nil]
  | cons next items ih => rw [List.intercalate_cons_cons, ih, behind_cons, List.append_assoc, List.cons_append]

theorem enclose_cons_append (l : Layout) (opening closing : Char) (item : Text) (items : List Text) (rest : Text) :
    l.enclose opening closing (item :: items) ++ rest =
      opening :: (l.deeper.gap ++ (item ++ (behind l.deeper.gap items ++ (l.gap ++ closing :: rest)))) := by
  rw [Layout.enclose, if_neg (List.cons_ne_nil item items), intercalate_cons]
  simp

/-! ## Places -/

section
variable {closing : Char} (hClosing : IsClosing closing) {w : Text} (hw : Spaces w)
include hClosing hw

theorem place_closing (first : Bool) (rest : Text) :
    place closing first (w ++ closing :: rest) = .ok (.closed rest) := by
  rw [place, skipSpace_spaces_cons hw (isSpace_of_isClosing hClosing)]
  exact if_pos rfl

theorem place_first {item : Text} (hItem : ∃ c r, item = c :: r ∧ isDelimiter c = false) (rest : Text) :
    place closing true (w ++ (item ++ rest)) = .ok (.item (item ++ rest)) := by
  obtain ⟨c, r, rfl, hc⟩ := hItem
  have hNotClosing := ne_of_isClosing hClosing hc
  rw [List.cons_append, place, skipSpace_spaces_cons hw (isSpace_eq_false_of_isDelimiter hc)]
  simp only [hNotClosing, if_false, if_true]

theorem place_next {item : Text} (hItem : ∃ c r, item = c :: r ∧ isDelimiter c = false) (rest : Text) :
    place closing false (',' :: (w ++ (item ++ rest))) = .ok (.item (item ++ rest)) := by
  obtain ⟨c, r, rfl, hc⟩ := hItem
  have hNotClosing := ne_of_isClosing hClosing hc
  have hComma : ',' ≠ closing := by
    rintro rfl
    rcases hClosing with h | h <;> cases h
  rw [List.cons_append, place, skipSpace_cons (by decide)]
  simp only [hComma, if_false, if_true, Bool.false_eq_true,
    skipSpace_spaces_cons hw (isSpace_eq_false_of_isDelimiter hc), hNotClosing]

theorem delimited_behind (gap : Text) (items : List Text) (rest : Text) :
    Delimited (behind gap items ++ (w ++ closing :: rest)) := by
  cases items with
  | nil =>
    cases w with
    | nil =>
      intro c hc
      obtain rfl : closing = c := Option.some.inj hc
      exact isDelimiter_of_isClosing hClosing
    | cons d w =>
      intro c hc
      obtain rfl : d = c := Option.some.inj hc
      rw [isDelimiter, hw d List.mem_cons_self]
      rfl
  | cons item items =>
    intro c hc
    rw [behind_cons] at hc
    obtain rfl : ',' = c := Option.some.inj hc
    decide

end

/-! ## Arrays -/

section
variable {α : Type} {read : Reader α} {items : List Text} {as : List α}

theorem readItems_behind (h : List.Forall₂ (Reads read) items as) {gap w : Text} (hGap : Spaces gap)
    (hw : Spaces w) {n : Nat} (hSteps : items.length < n) (rest : Text) :
    readItems read n false (behind gap items ++ (w ++ ']' :: rest)) = .ok (as, rest) := by
  induction h generalizing n with
  | nil =>
    obtain ⟨n, rfl⟩ := Nat.exists_eq_add_one_of_ne_zero (Nat.ne_zero_of_lt hSteps)
    have hPlace := place_closing (.inl rfl) hw false rest
    rw [readItems, behind, List.flatMap_nil, List.nil_append, hPlace]
    rfl
  | @cons item a items as hItem _ ih =>
    obtain ⟨n, rfl⟩ := Nat.exists_eq_add_one_of_ne_zero (Nat.ne_zero_of_lt hSteps)
    have hPlace := place_next (.inl rfl) hGap hItem.starts (behind gap items ++ (w ++ ']' :: rest))
    have hRead := hItem.read [] _ spaces_nil (delimited_behind (.inl rfl) hw gap items rest)
    rw [List.nil_append] at hRead
    have hRest := ih (Nat.lt_of_succ_lt_succ hSteps)
    rw [readItems, behind_cons]
    simp only [List.cons_append, List.append_assoc, hPlace, hRead, hRest, bind, Except.bind]

theorem reads_array (h : List.Forall₂ (Reads read) items as) (l : Layout) :
    Reads (readArray read) (l.array items) as where
  starts := by
    cases items with
    | nil => exact ⟨'[', _, rfl, by decide⟩
    | cons item items => exact ⟨'[', _, rfl, by decide⟩
  read w rest hw _ := by
    rw [List.append_assoc, readArray]
    cases h with
    | nil =>
      rw [show l.array [] ++ rest = '[' :: ([] ++ ']' :: rest) from rfl, skipSpace_spaces_cons hw (by decide)]
      change readItems read _ true ([] ++ ']' :: rest) = _
      rw [readItems, place_closing (.inl rfl) spaces_nil]
      rfl
    | @cons item a items as hItem hItems =>
      have hGap := spaces_gap l.deeper
      have hPlace := place_first (.inl rfl) hGap hItem.starts
        (behind l.deeper.gap items ++ (l.gap ++ ']' :: rest))
      have hRead := hItem.read [] _ spaces_nil
        (delimited_behind (.inl rfl) (spaces_gap l) l.deeper.gap items rest)
      rw [List.nil_append] at hRead
      rw [Layout.array, enclose_cons_append, skipSpace_spaces_cons hw (by decide)]
      -- The first item has no comma in front; all others are read by the law for items behind one.
      change readItems read (_ + 1) true _ = _
      rw [readItems, hPlace]
      simp only [bind, Except.bind, hRead]
      rw [readItems_behind hItems hGap (spaces_gap l)]
      have hCount := length_le_behind l.deeper.gap items
      simp only [List.length_append, List.length_cons]
      omega

end

/-! ## Members -/

theorem readValue_colon {α : Type} {read : Reader α} {text : Text} {a : α} (h : Reads read text a) (l : Layout)
    {rest : Text} (hRest : Delimited rest) : readValue read (l.colon ++ (text ++ rest)) = .ok (a, rest) := by
  obtain ⟨w, hColon, hw⟩ := exists_colon l
  have hExpect : expect ':' (':' :: (w ++ (text ++ rest))) = .ok (w ++ (text ++ rest)) := by
    rw [expect, skipSpace_cons (by decide)]
    exact expectWord_append [':'] _
  rw [hColon, List.cons_append, readValue, hExpect]
  simp only [bind, Except.bind]
  rw [← List.append_assoc, h.read w rest hw hRest]

theorem readOnce_colon {α : Type} {read : Reader α} {text : Text} {a : α} (h : Reads read text a) (name : Text)
    (l : Layout) {rest : Text} (hRest : Delimited rest) :
    readOnce name none read (l.colon ++ (text ++ rest)) = .ok (a, rest) :=
  readValue_colon h l hRest

/-- The members take the first state to the last one. -/
inductive Entered {σ : Type} (enter : Text → σ → Reader σ) (l : Layout) : List (Text × Text) → σ → σ → Prop
  | nil (s : σ) : Entered enter l [] s s
  | cons {name text : Text} {ms : List (Text × Text)} {s u v : σ}
      (first : ∀ rest, Delimited rest → enter name s (l.colon ++ (text ++ rest)) = .ok (u, rest))
      (others : Entered enter l ms u v) : Entered enter l ((name, text) :: ms) s v

section
variable {σ : Type} {enter : Text → σ → Reader σ} {l : Layout} {ms : List (Text × Text)} {s u : σ}

def memberText (l : Layout) (m : Text × Text) : Text := string m.1 ++ l.colon ++ m.2

theorem memberText_append (l : Layout) (name text rest : Text) :
    memberText l (name, text) ++ rest = '"' :: (name.flatMap escape ++ '"' :: (l.colon ++ (text ++ rest))) := by
  simp [memberText, string]

theorem exists_memberText_cons (l : Layout) (m : Text × Text) :
    ∃ c r, memberText l m = c :: r ∧ isDelimiter c = false := ⟨'"', _, rfl, by decide⟩

/-- The step for a member whose place has been found. -/
theorem readMembers_item {name text tail rest : Text} {n : Nat} {first : Bool} {t : Text} {v : σ}
    (hPlace : place '\x7d' first t = .ok (.item (memberText l (name, text) ++ tail)))
    (hEnter : enter name s (l.colon ++ (text ++ tail)) = .ok (u, tail))
    (hRest : readMembers readScalar enter n false u tail = .ok (v, rest)) :
    readMembers readScalar enter (n + 1) first s t = .ok (v, rest) := by
  rw [memberText_append] at hPlace
  rw [readMembers, hPlace]
  simp only [bind, Except.bind, readKey, readStringTail_string, hEnter, hRest]

theorem readMembers_behind (h : Entered enter l ms s u) {gap w : Text} (hGap : Spaces gap) (hw : Spaces w) {n : Nat}
    (hSteps : ms.length < n) (rest : Text) :
    readMembers readScalar enter n false s (behind gap (ms.map (memberText l)) ++ (w ++ '\x7d' :: rest)) =
      .ok (u, rest) := by
  induction h generalizing n with
  | nil s =>
    obtain ⟨n, rfl⟩ := Nat.exists_eq_add_one_of_ne_zero (Nat.ne_zero_of_lt hSteps)
    have hPlace := place_closing (.inr rfl) hw false rest
    rw [readMembers, List.map_nil, behind, List.flatMap_nil, List.nil_append, hPlace]
    rfl
  | @cons name text ms s u v hEnter _ ih =>
    obtain ⟨n, rfl⟩ := Nat.exists_eq_add_one_of_ne_zero (Nat.ne_zero_of_lt hSteps)
    have hPlace := place_next (.inr rfl) hGap (exists_memberText_cons l (name, text))
      (behind gap (ms.map (memberText l)) ++ (w ++ '\x7d' :: rest))
    rw [List.map_cons, behind_cons]
    simp only [List.cons_append, List.append_assoc]
    exact readMembers_item hPlace (hEnter _ (delimited_behind (.inr rfl) hw gap _ rest))
      (ih (Nat.lt_of_succ_lt_succ hSteps))

/-- An object behind its bracket. -/
theorem exists_readMembers_object (h : Entered enter l ms s u) (rest : Text) :
    ∃ t, l.object ms ++ rest = '\x7b' :: t ∧ readMembers readScalar enter (t.length + 1) true s t = .ok (u, rest) := by
  cases h with
  | nil s =>
    refine ⟨'\x7d' :: rest, rfl, ?_⟩
    have hPlace := place_closing (.inr rfl) spaces_nil true rest
    rw [List.nil_append] at hPlace
    rw [readMembers, hPlace]
    rfl
  | @cons name text ms s u v hEnter hOthers =>
    refine ⟨_, enclose_cons_append l '\x7b' '\x7d' (memberText l (name, text)) (ms.map (memberText l)) rest, ?_⟩
    have hGap := spaces_gap l.deeper
    have hPlace := place_first (.inr rfl) hGap (exists_memberText_cons l (name, text))
      (behind l.deeper.gap (ms.map (memberText l)) ++ (l.gap ++ '\x7d' :: rest))
    refine readMembers_item hPlace (hEnter _ (delimited_behind (.inr rfl) (spaces_gap l) _ _ rest)) ?_
    apply readMembers_behind hOthers hGap (spaces_gap l)
    have hCount := length_le_behind l.deeper.gap (ms.map (memberText l))
    rw [List.length_map] at hCount
    simp only [List.length_append, List.length_cons]
    omega

end

/-- A record that is written as an object. -/
theorem reads_record {α : Type} {expected : Text} {fromArray fromObject : Reader α} {l : Layout}
    {ms : List (Text × Text)} {a : α}
    (h : ∀ rest, ∃ t, l.object ms ++ rest = '\x7b' :: t ∧ fromObject t = .ok (a, rest)) :
    Reads (readRecord expected fromArray fromObject) (l.object ms) a where
  starts := by
    obtain ⟨t, hEq, -⟩ := h []
    rw [List.append_nil] at hEq
    exact ⟨'\x7b', t, hEq, by decide⟩
  read w rest hw _ := by
    obtain ⟨t, hEq, hRead⟩ := h rest
    rw [List.append_assoc, hEq, readRecord, skipSpace_spaces_cons hw (by decide)]
    exact hRead

/-! ## Documents -/

theorem delimited_of_spaces {w : Text} (hw : Spaces w) : Delimited w := by
  intro c hc
  rw [isDelimiter, hw c (List.mem_of_mem_head? hc)]
  rfl

theorem readDocument_append_of_reads {α : Type} {read : Reader α} {text : Text} {a : α} (h : Reads read text a)
    {w : Text} (hw : Spaces w) : readDocument read (text ++ w) = .ok a := by
  have hRead := h.read [] w spaces_nil (delimited_of_spaces hw)
  have hEnd := skipSpace_append hw []
  rw [List.append_nil] at hEnd
  rw [List.nil_append] at hRead
  rw [readDocument, hRead]
  exact if_pos hEnd

theorem readDocument_of_reads {α : Type} {read : Reader α} {text : Text} {a : α} (h : Reads read text a) :
    readDocument read text = .ok a := by
  have hDocument := readDocument_append_of_reads h spaces_nil
  rwa [List.append_nil] at hDocument

end LessonCheck.Json
