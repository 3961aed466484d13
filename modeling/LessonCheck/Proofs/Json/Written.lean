import LessonCheck.Json.Writer

/-!
# Parts written one after the other

Parts that all come to their end are written as one text. Otherwise what is written ends with the first part that
breaks off, and all the parts in front of it are written before.
-/

namespace LessonCheck.Json

open Written

namespace Written

theorem isWhole_concat_iff {ws : List Written} : (concat ws).isWhole = true ↔ ∀ w ∈ ws, w.isWhole = true := by
  induction ws with
  | nil => exact iff_of_true rfl (List.forall_mem_nil _)
  | cons w ws ih =>
    rw [concat, List.forall_mem_cons]
    split
    · next hWhole => rw [ih, and_iff_right hWhole]
    · next hBroken => exact iff_of_false hBroken fun h => hBroken h.1

section Front

variable {front : List Written} (h : ∀ w ∈ front, w.isWhole = true)

include h

theorem concat_append_of_whole (ws : List Written) :
    concat (front ++ ws) = ⟨front.flatMap output ++ (concat ws).output, (concat ws).isWhole⟩ := by
  induction front with
  | nil => rfl
  | cons w front ih =>
    obtain ⟨hFirst, hRest⟩ := List.forall_mem_cons.mp h
    rw [List.cons_append, concat, if_pos hFirst, ih hRest, List.flatMap_cons, List.append_assoc]

theorem concat_of_whole : concat front = whole (front.flatMap output) := by
  have hAll := concat_append_of_whole h []
  rwa [List.append_nil, concat, whole, List.append_nil] at hAll

theorem concat_append_of_broken {w : Written} (hBroken : w.isWhole = false) (ws : List Written) :
    concat (front ++ w :: ws) = brokenOff (front.flatMap output ++ w.output) := by
  rw [concat_append_of_whole h, concat, if_neg (by simp [hBroken]), hBroken, brokenOff]

end Front
end Written

/-! ## Arrays -/

namespace Layout

variable {l : Layout} {items : List Written}

theorem forall_isWhole_places_iff {opening : Char} :
    (∀ w ∈ l.places opening items, w.isWhole = true) ↔ ∀ w ∈ items, w.isWhole = true := by
  induction items generalizing opening with
  | nil => exact iff_of_true (List.forall_mem_nil _) (List.forall_mem_nil _)
  | cons item items ih =>
    rw [places, List.forall_mem_cons, List.forall_mem_cons, List.forall_mem_cons, ih]
    exact and_iff_right rfl

theorem isWhole_writeArray_iff : (l.writeArray items).isWhole = true ↔ ∀ w ∈ items, w.isWhole = true := by
  rw [writeArray]
  split
  · next hNone => exact iff_of_true rfl (hNone ▸ List.forall_mem_nil _)
  · rw [isWhole_concat_iff, List.forall_mem_append, forall_isWhole_places_iff, List.forall_mem_singleton]
    exact and_iff_left rfl

/-- What is written of the places is the items, parted by commas. -/
theorem flatMap_output_places (hne : items ≠ []) (opening : Char) : (l.places opening items).flatMap output =
    opening :: (l.deeper.gap ++ (',' :: l.deeper.gap).intercalate (items.map output)) := by
  induction items generalizing opening with
  | nil => exact absurd rfl hne
  | cons item items ih =>
    cases items with
    | nil => simp [places, whole]
    | cons next items =>
      have hRest := ih (List.cons_ne_nil next items) ','
      rw [places, List.flatMap_cons, List.flatMap_cons, hRest]
      simp only [whole, List.map_cons, List.cons_append, List.append_assoc,
        List.intercalate_cons_of_ne_nil (List.cons_ne_nil _ _)]

theorem writeArray_of_whole (h : ∀ w ∈ items, w.isWhole = true) :
    l.writeArray items = whole (l.array (items.map output)) := by
  rw [writeArray]
  split
  · next hNone => rw [hNone, List.map_nil]
  · next hne =>
    have hParts : ∀ w ∈ l.places '[' items ++ [whole (l.gap ++ [']'])], w.isWhole = true :=
      List.forall_mem_append.mpr ⟨forall_isWhole_places_iff.mpr h, List.forall_mem_singleton.mpr rfl⟩
    rw [concat_of_whole hParts, List.flatMap_append, flatMap_output_places hne, array, enclose,
      if_neg (by simpa using hne)]
    simp [whole]

theorem exists_places_append (l : Layout) {front : List Written} (h : ∀ w ∈ front, w.isWhole = true) (last : Written)
    (opening : Char) : ∃ parts, (∀ w ∈ parts, w.isWhole = true) ∧
      parts.flatMap output = opening :: (l.deeper.gap ++ front.flatMap fun w => w.output ++ ',' :: l.deeper.gap) ∧
      ∀ rest, l.places opening (front ++ last :: rest) = parts ++ last :: l.places ',' rest := by
  induction front generalizing opening with
  | nil => exact ⟨[whole (opening :: l.deeper.gap)], List.forall_mem_singleton.mpr rfl, rfl, fun _ => rfl⟩
  | cons item front ih =>
    obtain ⟨hItem, hRest⟩ := List.forall_mem_cons.mp h
    obtain ⟨parts, hWhole, hOutput, hParts⟩ := ih hRest ','
    refine ⟨whole (opening :: l.deeper.gap) :: item :: parts, ?_, ?_, fun rest => ?_⟩
    · exact List.forall_mem_cons.mpr ⟨rfl, List.forall_mem_cons.mpr ⟨hItem, hWhole⟩⟩
    · rw [List.flatMap_cons, List.flatMap_cons, hOutput]
      simp [whole]
    · rw [List.cons_append, places, hParts, List.cons_append, List.cons_append]

/-- The array breaks off with the first item that does. -/
theorem writeArray_of_broken (l : Layout) {front : List Written} (h : ∀ w ∈ front, w.isWhole = true) {last : Written}
    (hBroken : last.isWhole = false) (rest : List Written) : l.writeArray (front ++ last :: rest) =
      brokenOff ('[' :: (l.deeper.gap ++ front.flatMap fun w => w.output ++ ',' :: l.deeper.gap) ++ last.output) := by
  obtain ⟨parts, hWhole, hOutput, hParts⟩ := exists_places_append l h last '['
  rw [writeArray, if_neg (by simp), hParts, List.append_assoc, List.cons_append,
    concat_append_of_broken hWhole hBroken, hOutput]

end Layout
end LessonCheck.Json
