import LessonCheck.Proofs.Appending
import LessonCheck.Proofs.Places
import LessonCheck.Proofs.Program.Opener
import LessonCheck.Proofs.Text.Infix
import LessonCheck.Proofs.Text.Lines

/-!
# Statements as runs of code lines

Whether a text closes a statement can be told from the text alone. So a pending statement is what its lines make
it, the flag for a loop header included, and the grouping has no memory but these lines: each statement is the
shortest run of the lines that are left whose text closes, and what remains open at the end is the last one.
-/

namespace LessonCheck

namespace Header

open Text

/-- The keyword of a loop stands in the text with nothing but blanks between it and a parenthesis. -/
def HoldsOpener (t : Text) : Prop :=
  ∃ front w back, AllBlank w ∧ t = front ++ ("MALLI-MALLI".toList ++ (w ++ '(' :: back))

/-- The text ends with a closing parenthesis, blanks and an opening bracket. -/
def EndsHeader (t : Text) : Prop := ∃ front w, AllBlank w ∧ t = front ++ ')' :: (w ++ ['['])

theorem containsLoop_append {front : Text} {t : Text} (h : containsLoop t = true) :
    containsLoop (front ++ t) = true := by
  induction front with
  | nil => exact h
  | cons c front ih => rw [List.cons_append, containsLoop, ih, Bool.or_true]

theorem containsLoop_iff {t : Text} : containsLoop t = true ↔ HoldsOpener t := by
  constructor
  · exact exists_of_containsLoop
  · rintro ⟨front, w, back, hw, rfl⟩
    apply containsLoop_append
    have hOpening : afterParenthesis? .loop (Keyword.loop.text ++ (w ++ '(' :: back)) = some back := by
      rw [afterParenthesis?, after?_eq_some_iff.mpr rfl, Option.bind_some, trimStart_append_of_allBlank hw]
      rfl
    change containsLoop ('M' :: ("ALLI-MALLI".toList ++ (w ++ '(' :: back))) = true
    rw [containsLoop]
    change ((afterParenthesis? .loop (Keyword.loop.text ++ (w ++ '(' :: back))).isSome || _) = true
    rw [hOpening]
    rfl

theorem HoldsOpener.append {t : Text} (h : HoldsOpener t) (s : Text) : HoldsOpener (t ++ s) := by
  obtain ⟨front, w, back, hw, rfl⟩ := h
  exact ⟨front, w, back ++ s, hw, by simp⟩

theorem isSome_beforeBracket?_iff {t : Text} : (beforeBracket? t).isSome = true ↔ EndsHeader t := by
  constructor
  · intro hSome
    obtain ⟨part, hPart⟩ := Option.isSome_iff_exists.mp hSome
    obtain ⟨r, hBracket, hParen⟩ := Option.bind_eq_some_iff.mp hPart
    obtain ⟨front, hAfter, -⟩ := Option.map_eq_some_iff.mp hParen
    obtain ⟨w, hw, hStart⟩ := exists_append_trimStart r
    have hReverse : t.reverse = '[' :: (w ++ ')' :: front) := by
      rw [after?_eq_some_iff.mp hBracket, hStart, after?_eq_some_iff.mp hAfter]
      rfl
    refine ⟨front.reverse, w.reverse, fun c hc => hw c (List.mem_reverse.mp hc), ?_⟩
    rw [← List.reverse_reverse t, hReverse]
    simp
  · rintro ⟨front, w, hw, rfl⟩
    have hBlank : AllBlank w.reverse := fun c hc => hw c (List.mem_reverse.mp hc)
    have hStart : trimStart (w.reverse ++ ')' :: front.reverse) = ')' :: front.reverse := by
      rw [trimStart_append_of_allBlank hBlank]
      exact trimStart_cons_of_not_blank (by decide) _
    simp [beforeBracket?, after?, hStart]

end Header

namespace LogicalStatement

/-- The text closes a statement: a header has come to its end, or another text to one of its marks. -/
def Closed (t : Text) : Prop :=
  (Header.HoldsOpener t → Header.EndsHeader t) ∧
    (¬Header.HoldsOpener t → t.getLast? = some ';' ∨ t.getLast? = some '[' ∨ t = [']'])

theorem Pending.closes_iff {p : Pending} (h : p.inLoopHeader = Header.containsLoop p.text) :
    p.closes = true ↔ Closed p.text := by
  rw [Pending.closes, h]
  by_cases hLoop : Header.containsLoop p.text = true
  · rw [if_pos hLoop, Header.isSome_beforeBracket?_iff]
    have hOpener := Header.containsLoop_iff.mp hLoop
    exact ⟨fun hEnd => ⟨fun _ => hEnd, fun hNone => absurd hOpener hNone⟩, fun hClosed => hClosed.1 hOpener⟩
  · rw [if_neg hLoop]
    have hOpener : ¬Header.HoldsOpener p.text := fun hOpener => hLoop (Header.containsLoop_iff.mpr hOpener)
    simp [Closed, hOpener, or_assoc]

/-- The text that code lines make together, newline between newline. -/
def textOf (ls : List CodeLine) : Text := Text.joinLines (ls.map CodeLine.text)

theorem textOf_concat {front : List CodeLine} (h : front ≠ []) (l : CodeLine) :
    textOf (front ++ [l]) = textOf front ++ '\n' :: l.text := by
  obtain ⟨first, more, rfl⟩ := List.exists_cons_of_ne_nil h
  induction more generalizing first with
  | nil => simp [textOf, Text.joinLines, List.intercalate_cons_cons]
  | cons second more ih =>
    have hRest := ih second (List.cons_ne_nil _ _)
    simp only [textOf, Text.joinLines, List.cons_append, List.map_cons, List.intercalate_cons_cons] at hRest ⊢
    rw [hRest]
    simp

/-- The pending statement that the lines make, by the lines alone. -/
def pendingOf : List CodeLine → Option Pending
  | [] => none
  | l :: ls => some ⟨textOf (l :: ls), l.number, Header.containsLoop (textOf (l :: ls))⟩

theorem pendingOf_concat (front : List CodeLine) (l : CodeLine) :
    pendingOf (front ++ [l]) = some (extend (pendingOf front) l) := by
  cases front with
  | nil => simp [pendingOf, extend, Pending.ofLine, textOf, Text.joinLines]
  | cons first more =>
    have hText := textOf_concat (List.cons_ne_nil first more) l
    have hFlag : Header.containsLoop (textOf (first :: more ++ [l])) =
        (Header.containsLoop (textOf (first :: more)) || Header.containsLoop (textOf (first :: more ++ [l]))) := by
      cases hLoop : Header.containsLoop (textOf (first :: more)) with
      | false => rfl
      | true =>
        rw [Bool.true_or, hText]
        exact Header.containsLoop_iff.mpr ((Header.containsLoop_iff.mp hLoop).append _)
    rw [List.cons_append] at hText hFlag ⊢
    simp only [pendingOf, extend, Pending.push, ← hText, Option.some.injEq, Pending.mk.injEq, true_and]
    exact hFlag

theorem text_extend_pendingOf (front : List CodeLine) (l : CodeLine) :
    (extend (pendingOf front) l).text = textOf (front ++ [l]) ∧
      (extend (pendingOf front) l).inLoopHeader = Header.containsLoop (textOf (front ++ [l])) := by
  have hPending := pendingOf_concat front l
  have hNe : front ++ [l] ≠ [] := List.append_ne_nil_of_right_ne_nil front (List.cons_ne_nil l [])
  obtain ⟨first, more, hLines⟩ := List.exists_cons_of_ne_nil hNe
  rw [hLines] at hPending ⊢
  rw [← Option.some.inj hPending]
  exact ⟨rfl, rfl⟩

theorem closes_extend_pendingOf (front : List CodeLine) (l : CodeLine) :
    (extend (pendingOf front) l).closes = true ↔ Closed (textOf (front ++ [l])) := by
  obtain ⟨hText, hFlag⟩ := text_extend_pendingOf front l
  rw [← hText] at hFlag ⊢
  exact Pending.closes_iff hFlag

theorem exists_pendingOf (front ls : List CodeLine) : ∃ last, pendingAfter (pendingOf front) ls = pendingOf last := by
  induction ls generalizing front with
  | nil => exact ⟨front, rfl⟩
  | cons l ls ih =>
    rw [pendingAfter, List.foldl_cons, afterLine]
    split
    · exact ih []
    · rw [← pendingOf_concat]
      exact ih (front ++ [l])

/-! ## Shortest runs -/

/-- No run of lines from the first one on closes a statement. -/
def StaysOpen (ls : List CodeLine) : Prop := ∀ front, front <+: ls → front ≠ [] → ¬Closed (textOf front)

theorem staysOpen_nil : StaysOpen [] := fun _ hPrefix hNe => absurd (List.prefix_nil.mp hPrefix) hNe

theorem staysOpen_concat_iff {front : List CodeLine} {l : CodeLine} :
    StaysOpen (front ++ [l]) ↔ StaysOpen front ∧ ¬Closed (textOf (front ++ [l])) := by
  constructor
  · intro h
    refine ⟨fun part hPrefix => h part (hPrefix.trans (List.prefix_append front [l])), ?_⟩
    exact h _ (List.prefix_refl _) (by simp)
  · rintro ⟨hFront, hWhole⟩ part hPrefix hNe
    rcases List.prefix_concat_iff.mp hPrefix with rfl | hPart
    · exact hWhole
    · exact hFront part hPart hNe

theorem StaysOpen.of_append {front back : List CodeLine} (h : StaysOpen (front ++ back)) : StaysOpen front :=
  fun part hPrefix => h part (hPrefix.trans (List.prefix_append front back))

/-- The statements take up the lines in order. Each is a run of lines that closes with its last line and with
none before it, and bears the number of its first line; the last one may stay open. -/
inductive GreedyPartition : List CodeLine → List LogicalStatement → Prop
  | nil : GreedyPartition [] []
  | closed {first : CodeLine} {part front rest : List CodeLine} {last : CodeLine} {ss : List LogicalStatement}
      (hPart : first :: part = front ++ [last]) (hOpen : StaysOpen front) (hClosed : Closed (textOf (first :: part)))
      (tail : GreedyPartition rest ss) :
      GreedyPartition (first :: part ++ rest) (⟨textOf (first :: part), first.number⟩ :: ss)
  | unclosed {first : CodeLine} {part : List CodeLine} (hOpen : StaysOpen (first :: part)) :
      GreedyPartition (first :: part) [⟨textOf (first :: part), first.number⟩]

theorem statement_extend_pendingOf {first last : CodeLine} {front part : List CodeLine}
    (h : first :: part = front ++ [last]) :
    (extend (pendingOf front) last).statement = ⟨textOf (first :: part), first.number⟩ := by
  have hPending := pendingOf_concat front last
  rw [← h] at hPending
  rw [← Option.some.inj hPending]
  rfl

theorem greedyPartition_group {front : List CodeLine} (hOpen : StaysOpen front) (ls : List CodeLine) :
    GreedyPartition (front ++ ls) (group (pendingOf front) ls) := by
  -- The lines in front are those taken up since the last statement, and none of their runs closes.
  induction ls generalizing front with
  | nil =>
    rw [List.append_nil]
    cases front with
    | nil => exact .nil
    | cons first part => exact .unclosed hOpen
  | cons l ls ih =>
    rw [group_cons, List.append_cons]
    split
    · next hCloses =>
      obtain ⟨first, part, hPart⟩ := List.exists_cons_of_ne_nil (show front ++ [l] ≠ [] by simp)
      have hClosed := (closes_extend_pendingOf front l).mp hCloses
      rw [statement_extend_pendingOf hPart.symm, hPart]
      rw [hPart] at hClosed
      exact .closed hPart.symm hOpen hClosed (ih staysOpen_nil)
    · next hOther =>
      rw [← pendingOf_concat]
      exact ih (staysOpen_concat_iff.mpr ⟨hOpen, fun hClosed => hOther ((closes_extend_pendingOf front l).mpr hClosed)⟩)

theorem group_of_staysOpen {front more : List CodeLine} (h : StaysOpen (front ++ more)) (rest : List CodeLine) :
    group (pendingOf front) (more ++ rest) = group (pendingOf (front ++ more)) rest := by
  induction more generalizing front with
  | nil => rw [List.nil_append, List.append_nil]
  | cons l more ih =>
    rw [List.append_cons] at h ⊢
    have hOther := (staysOpen_concat_iff.mp h.of_append).2
    rw [List.cons_append, group_cons, if_neg fun hCloses => hOther ((closes_extend_pendingOf front l).mp hCloses),
      ← pendingOf_concat, ih h]

/-- The grouping is the one greedy partition of the lines. -/
theorem greedyPartition_iff {ls : List CodeLine} {ss : List LogicalStatement} :
    GreedyPartition ls ss ↔ ss = group none ls := by
  constructor
  · intro h
    induction h with
    | nil => rfl
    | @closed first part front rest last ss hPart hOpen hClosed tail ih =>
      have hTaken := @group_of_staysOpen [] front hOpen (last :: rest)
      rw [hPart, List.append_assoc, List.singleton_append, ih]
      rw [hPart] at hClosed
      rw [show (none : Option Pending) = pendingOf [] from rfl, hTaken, List.nil_append, group_cons,
        if_pos ((closes_extend_pendingOf front last).mpr hClosed), statement_extend_pendingOf hPart, hPart]
      rfl
    | @unclosed first part hOpen =>
      have hTaken := @group_of_staysOpen [] (first :: part) hOpen []
      rw [List.append_nil] at hTaken
      exact hTaken.symm
  · rintro rfl
    exact greedyPartition_group staysOpen_nil ls

/-! ## The lines of the statements -/

theorem physicalLines_textOf {ls : List CodeLine} (h : ∀ l ∈ ls, '\n' ∉ l.text) (hNe : ls ≠ []) :
    (textOf ls).physicalLines = ls.map CodeLine.text :=
  Text.physicalLines_joinLines (List.forall_mem_map.mpr h) (by simpa using hNe)

theorem GreedyPartition.flatMap_physicalLines {ls : List CodeLine} {ss : List LogicalStatement}
    (h : GreedyPartition ls ss) (hLines : ∀ l ∈ ls, '\n' ∉ l.text) :
    ss.flatMap (fun s => s.text.physicalLines) = ls.map CodeLine.text := by
  induction h with
  | nil => rfl
  | closed hPart hOpen hClosed tail ih =>
    obtain ⟨hFirst, hRest⟩ := List.forall_mem_append.mp hLines
    rw [List.flatMap_cons, physicalLines_textOf hFirst (List.cons_ne_nil _ _), ih hRest, List.map_append]
  | unclosed hOpen => rw [List.flatMap_singleton, physicalLines_textOf hLines (List.cons_ne_nil _ _)]

/-- A statement bears the number of a code line with which it starts. -/
theorem GreedyPartition.exists_first {ls : List CodeLine} {ss : List LogicalStatement} (h : GreedyPartition ls ss)
    (hLines : ∀ l ∈ ls, '\n' ∉ l.text) {s : LogicalStatement} (hs : s ∈ ss) :
    ∃ l ∈ ls, l.number = s.line ∧ s.text.physicalLines.head? = some l.text := by
  have hStart {first : CodeLine} {part : List CodeLine} (hPart : ∀ l ∈ first :: part, '\n' ∉ l.text) :
      (textOf (first :: part)).physicalLines.head? = some first.text := by
    rw [physicalLines_textOf hPart (List.cons_ne_nil _ _)]
    rfl
  induction h with
  | nil => cases hs
  | @closed first part front rest last ss hPart hOpen hClosed tail ih =>
    obtain ⟨hFirst, hRest⟩ := List.forall_mem_append.mp hLines
    rcases List.mem_cons.mp hs with rfl | hs
    · exact ⟨first, by simp, rfl, hStart hFirst⟩
    · obtain ⟨l, hl, hNumber, hHead⟩ := ih hRest hs
      exact ⟨l, List.mem_append_right _ hl, hNumber, hHead⟩
  | @unclosed first part hOpen =>
    obtain rfl := List.mem_singleton.mp hs
    exact ⟨first, by simp, rfl, hStart hLines⟩

end LogicalStatement

namespace CodeLine

/-- The code of a line is taken from the line with its number. -/
theorem exists_clean_of_mem_ofLines {n : Nat} {ls : List Text} {l : CodeLine} (h : l ∈ ofLines n ls) :
    ∃ k p, ls[k]? = some p ∧ l.number = n + k ∧ l.text = clean p := by
  induction ls generalizing n with
  | nil => cases h
  | cons p ls ih =>
    rcases List.mem_append.mp h with hFirst | hRest
    · obtain ⟨-, hEq⟩ := Option.ite_none_left_eq_some.mp (Option.mem_toList.mp hFirst)
      obtain rfl := Option.some.inj hEq
      exact ⟨0, p, rfl, rfl, rfl⟩
    · obtain ⟨k, q, hLine, hNumber, hText⟩ := ih hRest
      exact ⟨k + 1, q, hLine, by omega, hText⟩

theorem map_text_ofLines_eq (n : Nat) (ls : List Text) :
    (ofLines n ls).map text = (ls.map clean).filter (· ≠ []) := by
  induction ls generalizing n with
  | nil => rfl
  | cons p ls ih =>
    rw [ofLines, List.map_append, ih, List.map_cons, List.filter_cons, ofPhysical?]
    by_cases hNil : clean p = []
    · simp [hNil]
    · simp [hNil]

theorem isPrefix_dropComment (quoted : Bool) (t : Text) : dropComment quoted t <+: t := by
  induction t generalizing quoted with
  | nil => exact List.nil_prefix
  | cons c t ih =>
    rw [dropComment]
    split
    · exact List.cons_prefix_cons.mpr ⟨rfl, ih _⟩
    · split
      · exact List.nil_prefix
      · exact List.cons_prefix_cons.mpr ⟨rfl, ih _⟩

theorem isInfix_clean (p : Text) : clean p <:+: p := by
  obtain ⟨w, -, hEnd⟩ := Text.exists_trimEnd_append (dropComment false (Text.trim p))
  have hClean : clean p <+: dropComment false (Text.trim p) := ⟨w, hEnd.symm⟩
  exact (hClean.trans (isPrefix_dropComment false _)).isInfix.trans (Text.isInfix_trim p)

theorem newline_notMem_text {source : Text} {l : CodeLine} (h : l ∈ ofSource source) : '\n' ∉ l.text := by
  obtain ⟨k, p, hLine, -, hText⟩ := exists_clean_of_mem_ofLines h
  rw [hText]
  exact fun hMem => Text.newline_notMem_of_mem_physicalLines (List.mem_of_getElem? hLine) ((isInfix_clean p).subset hMem)

end CodeLine

namespace LogicalStatement

/-- The statements of the source are its code lines in runs, each as short as can be. -/
structure Segmented (source : Text) (ss : List LogicalStatement) : Prop where
  lines : ss.flatMap (fun s => s.text.physicalLines) = (source.physicalLines.map CodeLine.clean).filter (· ≠ [])
  first : ∀ s ∈ ss, ∃ p, 1 ≤ s.line ∧ source.physicalLines[s.line - 1]? = some p ∧
    s.text.physicalLines.head? = some (CodeLine.clean p)
  increasing : ss.Pairwise fun s t => s.line < t.line
  greedy : GreedyPartition (CodeLine.ofSource source) ss
  only : ∀ others, GreedyPartition (CodeLine.ofSource source) others → others = ss
  flag : ∀ front l, front ++ [l] <+: CodeLine.ofSource source →
    ((extend (pendingAfter none front) l).inLoopHeader = true ↔
      Header.HoldsOpener (extend (pendingAfter none front) l).text)
  flag_pending : ∀ front, front <+: CodeLine.ofSource source → ∀ p ∈ pendingAfter none front,
    (p.inLoopHeader = true ↔ Header.HoldsOpener p.text)

theorem segmented_ofSource (source : Text) : Segmented source (ofSource source) := by
  have hGreedy : GreedyPartition (CodeLine.ofSource source) (ofSource source) := greedyPartition_iff.mpr rfl
  have hLines : ∀ l ∈ CodeLine.ofSource source, '\n' ∉ l.text := fun _ => CodeLine.newline_notMem_text
  have hPending (ls : List CodeLine) : ∃ last, pendingAfter none ls = pendingOf last := exists_pendingOf [] ls
  refine ⟨?lines, ?first, pairwise_line_ofSource source, hGreedy, ?only, ?flag, ?flag_pending⟩
  case lines =>
    rw [hGreedy.flatMap_physicalLines hLines]
    exact CodeLine.map_text_ofLines_eq 1 _
  case first =>
    intro s hs
    obtain ⟨l, hl, hNumber, hHead⟩ := hGreedy.exists_first hLines hs
    obtain ⟨k, p, hLine, hPlace, hText⟩ := CodeLine.exists_clean_of_mem_ofLines hl
    rw [hNumber] at hPlace
    refine ⟨p, by omega, ?_, by rw [hHead, hText]⟩
    rw [hPlace, Nat.add_sub_cancel_left, hLine]
  case only =>
    intro others hOthers
    rw [greedyPartition_iff.mp hOthers]
    rfl
  case flag =>
    intro front l _
    obtain ⟨last, hLast⟩ := hPending front
    obtain ⟨hText, hFlag⟩ := text_extend_pendingOf last l
    rw [hLast, hText, hFlag, Header.containsLoop_iff]
  case flag_pending =>
    intro front _ p hp
    obtain ⟨last, hLast⟩ := hPending front
    rw [hLast] at hp
    cases last with
    | nil => cases hp
    | cons first more =>
      obtain rfl := Option.some.inj hp
      exact Header.containsLoop_iff

end LogicalStatement
end LessonCheck
