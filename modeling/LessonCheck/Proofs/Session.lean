import LessonCheck.FileCheck
import LessonCheck.Proofs.SameCode
import LessonCheck.Session
import Mathlib.Data.List.DropRight

/-!
# What a session remembers

The state of a session is a function of the lines typed so far. Its program is the lines since it was last
discarded, without the commands among them; its strictness is the last one switched to; its variables are those
of the last check of the program. A session keeps its lines without the blanks at their ends, which no check can
see, so it answers as the check of a file that holds them as they were typed.
-/

namespace LessonCheck

open Text

/-- The lines stand in the file as they are, the last one ended or not. -/
def Holds (content : Text) (ls : List Text) : Prop := content = joinLines ls ∨ content = endLines ls

theorem check_of_holds {content : Text} {ls : List Text} (hLines : ∀ l ∈ ls, '\n' ∉ l) (h : Holds content ls)
    (strictness : Strictness) : check strictness content = check strictness (joinLines ls) := by
  rcases h with rfl | rfl
  · rfl
  · apply check_of_code_eq
    rw [CodeLine.ofSource_endLines hLines, CodeLine.ofSource_joinLines hLines]

theorem checkFiles_singleton {files : FileSource} {file : NativeText} {content : Text}
    (h : files file = .ok content) (strictness : Strictness) :
    checkFiles files strictness [file] = .ok [⟨file, Report.ofProgram strictness content⟩] := by
  simp [checkFiles, FileReport.ofFile, h, bind, Except.bind, Except.mapError, pure, Except.pure]

namespace Session

/-! ## Lines typed -/

/-- Whether the line is for the session and not for the program. -/
def isCommand (l : Text) : Bool := (trim l).head? == some '/'

def isClear (l : Text) : Bool := Entry.ofLine l == .command .clear

def isCheck (l : Text) : Bool := Entry.ofLine l == .command .check

def switched? (l : Text) : Option Strictness :=
  match Entry.ofLine l with
  | .command (.switch strictness) => some strictness
  | _ => none

/-- The program among the typed lines: all but the commands since it was last discarded. -/
def program (typed : List Text) : List Text :=
  (typed.rtakeWhile fun l => !isClear l).filter fun l => !isCommand l

/-- The strictness last switched to. -/
def strictnessAfter (initial : Strictness) (typed : List Text) : Strictness :=
  (typed.reverse.findSome? switched?).getD initial

/-- The session after the lines have been typed, whatever it replied. -/
def afterLines (s : Session) (typed : List Text) : Session := typed.foldl (fun s l => (s.enter l).2) s

/-- The variables of a program. -/
def tableOf (strictness : Strictness) (program : List Text) : SymbolTable :=
  (check strictness (joinLines program)).2

/-- A table as it is shown, a variable a line. -/
def shown (table : SymbolTable) : Text :=
  if table.entries = [] then "(no variables declared)".toList
  else joinLines ("Variables:".toList :: table.entries.map fun e =>
    "  ".toList ++ e.1 ++ ": ".toList ++ e.2.keyword.text)

theorem isCommand_iff {l : Text} : isCommand l = true ↔ ∃ c, Entry.ofLine l = .command c := by
  unfold Entry.ofLine
  rw [isCommand, beq_iff_eq]
  split
  · next h => exact iff_of_true h ⟨_, rfl⟩
  · next h => exact iff_of_false h (by rintro ⟨c, ⟨⟩⟩)

theorem ofLine_of_not_command {l : Text} (h : isCommand l = false) : Entry.ofLine l = .line (trimEnd l) := by
  rw [Entry.ofLine, if_neg]
  simpa [isCommand] using h

theorem afterLines_append (s : Session) (front back : List Text) :
    s.afterLines (front ++ back) = (s.afterLines front).afterLines back := List.foldl_append

theorem afterLines_concat (s : Session) (typed : List Text) (l : Text) :
    s.afterLines (typed ++ [l]) = ((s.afterLines typed).enter l).2 := s.afterLines_append typed [l]

theorem program_concat (typed : List Text) (l : Text) :
    program (typed ++ [l]) = if isClear l then [] else program typed ++ if isCommand l then [] else [l] := by
  rw [program, List.rtakeWhile_concat]
  cases isClear l with
  | true => rfl
  | false =>
    cases h : isCommand l with
    | true => simp [program, h]
    | false => simp [program, h]

theorem strictnessAfter_concat (initial : Strictness) (typed : List Text) (l : Text) :
    strictnessAfter initial (typed ++ [l]) = (switched? l).getD (strictnessAfter initial typed) := by
  rw [strictnessAfter, List.reverse_concat, List.findSome?_cons, strictnessAfter]
  cases switched? l <;> rfl

theorem subset_program {typed : List Text} {l : Text} (h : l ∈ program typed) : l ∈ typed :=
  (List.rtakeWhile_suffix _ typed).mem (List.mem_filter.mp h).1

/-! ## What one line does -/

section Enter

variable (s : Session) {l : Text}

theorem enter_command {c : Command} (h : Entry.ofLine l = .command c) :
    s.enter l = (some (s.run c).1, (s.run c).2) := by
  rw [enter, h]

theorem lines_enter : (s.enter l).2.lines =
    if isClear l then [] else s.lines ++ if isCommand l then [] else [trimEnd l] := by
  cases hCommand : isCommand l with
  | true =>
    obtain ⟨c, hEntry⟩ := isCommand_iff.mp hCommand
    rw [s.enter_command hEntry, isClear, hEntry]
    cases c <;> simp [run]
  | false =>
    have hEntry := ofLine_of_not_command hCommand
    simp [enter, isClear, hEntry]

theorem strictness_enter : (s.enter l).2.strictness = (switched? l).getD s.strictness := by
  unfold enter switched?
  cases Entry.ofLine l with
  | line kept => rfl
  | command c => cases c <;> rfl

theorem symbols_enter : (s.enter l).2.symbols =
    if isClear l then none
    else if isCheck l then some (check s.strictness s.source).2 else s.symbols := by
  unfold enter isClear isCheck
  cases Entry.ofLine l with
  | line kept => rfl
  | command c => cases c <;> rfl

end Enter

/-! ## What a whole session does -/

theorem lines_afterLines (initial : Strictness) (typed : List Text) :
    ((start initial).afterLines typed).lines = (program typed).map trimEnd := by
  induction typed using List.reverseRecOn with
  | nil => rfl
  | append_singleton typed l ih =>
    rw [afterLines_concat, lines_enter, program_concat, ih]
    cases isClear l with
    | true => rfl
    | false => cases isCommand l <;> simp

theorem strictness_afterLines (initial : Strictness) (typed : List Text) :
    ((start initial).afterLines typed).strictness = strictnessAfter initial typed := by
  induction typed using List.reverseRecOn with
  | nil => rfl
  | append_singleton typed l ih => rw [afterLines_concat, strictness_enter, strictnessAfter_concat, ih]

/-- Only a check and a discarded program change the variables. -/
theorem symbols_afterLines_of_quiet (s : Session) {typed : List Text}
    (h : ∀ l ∈ typed, isClear l = false ∧ isCheck l = false) : (s.afterLines typed).symbols = s.symbols := by
  induction typed generalizing s with
  | nil => rfl
  | cons l typed ih =>
    obtain ⟨⟨hClear, hCheck⟩, hRest⟩ := List.forall_mem_cons.mp h
    have hStep : (s.enter l).2.symbols = s.symbols := by
      rw [symbols_enter, hClear, hCheck]
      rfl
    rw [afterLines, List.foldl_cons, ← afterLines, ih _ hRest, hStep]

/-- Behind the last discarded program there are no variables before a check. -/
theorem symbols_afterLines_of_unchecked (initial : Strictness) {typed : List Text}
    (h : ∀ l ∈ typed.rtakeWhile fun l => !isClear l, isCheck l = false) :
    ((start initial).afterLines typed).symbols = none := by
  have hFront : ((start initial).afterLines (typed.rdropWhile fun l => !isClear l)).symbols = none := by
    rcases List.eq_nil_or_concat (typed.rdropWhile fun l => !isClear l) with hNil | ⟨front, l, hConcat⟩
    · rw [hNil]
      rfl
    · rw [List.concat_eq_append] at hConcat
      have hLast := List.rdropWhile_last_not (fun l => !isClear l) typed (by simp [hConcat])
      have hClear : isClear l = true := by simpa [hConcat] using hLast
      rw [hConcat, afterLines_concat, symbols_enter, if_pos hClear]
  have hSplit : typed.rdropWhile (fun l => !isClear l) ++ typed.rtakeWhile (fun l => !isClear l) = typed :=
    List.rdropWhile_append_rtakeWhile
  have hWhole := (start initial).afterLines_append (typed.rdropWhile fun l => !isClear l)
    (typed.rtakeWhile fun l => !isClear l)
  rw [hSplit] at hWhole
  rw [hWhole, symbols_afterLines_of_quiet, hFront]
  intro l hl
  exact ⟨by simpa using List.mem_rtakeWhile_imp hl, h l hl⟩

section Agreement

variable {typed : List Text} (hTyped : ∀ l ∈ typed, '\n' ∉ l)

include hTyped

/-- The blanks that a session drops are no part of the program. -/
theorem check_source (initial strictness : Strictness) :
    check strictness ((start initial).afterLines typed).source = check strictness (joinLines (program typed)) := by
  have hProgram : ∀ l ∈ program typed, '\n' ∉ l := fun l hl => hTyped l (subset_program hl)
  have hKept : ∀ l ∈ (program typed).map trimEnd, '\n' ∉ l := by
    intro kept hMem hNewline
    obtain ⟨l, hl, rfl⟩ := List.mem_map.mp hMem
    obtain ⟨w, -, hEq⟩ := exists_trimEnd_append l
    apply hProgram l hl
    rw [hEq]
    exact List.mem_append_left w hNewline
  apply check_of_code_eq
  rw [source, lines_afterLines, CodeLine.ofSource_joinLines hKept, CodeLine.ofLines_map trim_trimEnd,
    CodeLine.ofSource_joinLines hProgram]

theorem symbols_afterLines_of_check (initial : Strictness) {front rest : List Text} {command : Text}
    (hSplit : typed = front ++ command :: rest) (hCheck : isCheck command = true)
    (hRest : ∀ l ∈ rest, isClear l = false ∧ isCheck l = false) :
    ((start initial).afterLines typed).symbols =
      some (tableOf (strictnessAfter initial front) (program front)) := by
  have hFront : ∀ l ∈ front, '\n' ∉ l := fun l hl => hTyped l (hSplit ▸ List.mem_append_left _ hl)
  have hClear : isClear command = false := by
    rw [isCheck, beq_iff_eq] at hCheck
    rw [isClear, hCheck]
    rfl
  rw [hSplit, List.append_cons, afterLines_append, symbols_afterLines_of_quiet _ hRest, afterLines_concat,
    symbols_enter, hClear, hCheck, if_neg Bool.false_ne_true, if_pos rfl, check_source hFront,
    strictness_afterLines, tableOf]

end Agreement

/-- What a session replies to a check, by the report on a file. -/
def replyTo (source : Text) (f : FileReport) : Reply :=
  if f.report.diagnostics = [] then .valid else .invalid (Rendering.render source f.report.diagnostics)

/-- The session is in the state that the typed lines call for. -/
structure Tracks (initial : Strictness) (typed : List Text) (s : Session) : Prop where
  source : s.source = joinLines ((program typed).map trimEnd)
  nextLine : s.nextLine = (program typed).length + 1
  strictness : s.strictness = strictnessAfter initial typed
  check : ∀ command, isCheck command = true → ∀ (files : FileSource) (file : NativeText) (content : Text),
    files file = .ok content → Holds content (program typed) →
      ∃ f, checkFiles files s.strictness [file] = .ok [f] ∧ (s.enter command).1 = some (replyTo s.source f)
  unchecked : (∀ l ∈ typed.rtakeWhile fun l => !isClear l, isCheck l = false) →
    ∀ command, Entry.ofLine command = .command .variables →
      (s.enter command).1 = some (.info "(run /check first)".toList)
  checked : ∀ front check rest, typed = front ++ check :: rest → isCheck check = true →
    (∀ l ∈ rest, isClear l = false ∧ isCheck l = false) →
      ∀ command, Entry.ofLine command = .command .variables →
        (s.enter command).1 = some (.info (shown (tableOf (strictnessAfter initial front) (program front))))
  kept : ∀ command, isCommand command = true → isClear command = false → (s.enter command).2.lines = s.lines

/-- A program that is discarded and one that is checked, changed and then checked in another way. -/
def dialogue : List Text :=
  ["PADAM old:ANKHE;".toList, "/clear".toList, "PADAM a:VARTTAI;  \r".toList, " /check now".toList,
    "PADAM b:ANKHE; # more".toList, "a = 1;".toList, "/relaxed".toList]

/-- The program as a file of its own, its last line ended. -/
def dialogueFile : FileSource := fun file =>
  if file = .text ['p'] then .ok "PADAM a:VARTTAI;  \r\nPADAM b:ANKHE; # more\na = 1;\n".toList else .error .missing

end Session
end LessonCheck
