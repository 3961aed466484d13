import LessonCheck.LogicalStatement
import LessonCheck.Proofs.Text.Trim

/-!
# Texts of logical statements

A code line starts and ends with characters that are no blanks, and so does every text that is joined from
code lines. So a statement needs no trimming before it is taken apart.
-/

namespace LessonCheck

namespace CodeLine

theorem head?_dropComment {t : Text} (h : dropComment false t ≠ []) :
    (dropComment false t).head? = t.head? := by
  cases t with
  | nil => rfl
  | cons c r =>
    unfold dropComment at h ⊢
    split
    · rfl
    · split
      · next hQuote hHash =>
        rw [if_neg hQuote, if_pos hHash] at h
        exact absurd rfl h
      · rfl

theorem framed_clean {physical : Text} (h : clean physical ≠ []) : Text.Framed (clean physical) := by
  refine ⟨?_, Text.trimEnd_getLast? h⟩
  obtain ⟨w, -, hCode⟩ := Text.exists_trimEnd_append (dropComment false (Text.trim physical))
  have hCode : dropComment false (Text.trim physical) = clean physical ++ w := hCode
  have hNe : dropComment false (Text.trim physical) ≠ [] := by
    rw [hCode]
    exact List.append_ne_nil_of_left_ne_nil h w
  have hTrim : Text.trim physical ≠ [] := by
    intro hNil
    rw [hNil] at hNe
    exact hNe rfl
  obtain ⟨c, hFirst, hc⟩ := (Text.framed_trim hTrim).first
  refine ⟨c, ?_, hc⟩
  obtain ⟨d, r, hEq⟩ := List.exists_cons_of_ne_nil h
  rw [← hFirst, ← head?_dropComment hNe, hCode, hEq]
  rfl

theorem framed_of_mem_ofLines {n : Nat} {ls : List Text} {l : CodeLine} (h : l ∈ ofLines n ls) :
    Text.Framed l.text := by
  induction ls generalizing n with
  | nil => cases h
  | cons p ls ih =>
    rw [ofLines, List.mem_append] at h
    rcases h with h | h
    · unfold ofPhysical? at h
      split at h
      · cases h
      · next hNe =>
        obtain rfl : l = ⟨n, clean p⟩ := by simpa using h
        exact framed_clean hNe
    · exact ih h

end CodeLine

namespace LogicalStatement

/-- The pending statement after one more line. -/
def extend : Option Pending → CodeLine → Pending
  | none, l => Pending.ofLine l
  | some p, l => p.push l

theorem group_cons (pending : Option Pending) (l : CodeLine) (ls : List CodeLine) :
    group pending (l :: ls) =
      if (extend pending l).closes then (extend pending l).statement :: group none ls
      else group (some (extend pending l)) ls := by
  cases pending <;> rfl

theorem framed_extend {pending : Option Pending} {l : CodeLine}
    (hPending : ∀ p, pending = some p → Text.Framed p.text) (hLine : Text.Framed l.text) :
    Text.Framed (extend pending l).text := by
  cases pending with
  | none => exact hLine
  | some p =>
    have hJoined := Text.framed_append (hPending p rfl) hLine ['\n']
    rwa [List.append_assoc] at hJoined

theorem framed_of_mem_group {pending : Option Pending} {ls : List CodeLine} {s : LogicalStatement}
    (hPending : ∀ p, pending = some p → Text.Framed p.text) (hLines : ∀ l ∈ ls, Text.Framed l.text)
    (h : s ∈ group pending ls) : Text.Framed s.text := by
  induction ls generalizing pending with
  | nil =>
    obtain ⟨p, hp, rfl⟩ := List.mem_map.mp h
    exact hPending p (Option.mem_toList.mp hp)
  | cons l ls ih =>
    obtain ⟨hLine, hLines⟩ := List.forall_mem_cons.mp hLines
    have hNext := framed_extend hPending hLine
    rw [group_cons] at h
    split at h
    · rcases List.mem_cons.mp h with rfl | h
      · exact hNext
      · apply ih _ hLines h
        intro p hp
        cases hp
    · apply ih _ hLines h
      intro p hp
      obtain rfl := Option.some.inj hp
      exact hNext

theorem framed_of_mem_ofSource {source : Text} {s : LogicalStatement} (h : s ∈ ofSource source) :
    Text.Framed s.text := by
  refine framed_of_mem_group ?_ (fun _ hl => CodeLine.framed_of_mem_ofLines hl) h
  intro p hp
  cases hp

end LogicalStatement
end LessonCheck
