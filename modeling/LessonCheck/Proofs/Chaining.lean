import LessonCheck.Proofs.Appending
import LessonCheck.Proofs.Partition
import LessonCheck.Proofs.Places
import LessonCheck.Proofs.SameCode
import LessonCheck.Proofs.Shapes
import Mathlib.Data.List.Infix

/-!
# Statements on one line

A simple statement is read up to its semicolon, so a text behind the semicolon changes nothing of what is read
and is read next. Statements on one line are therefore the statements that they are on lines of their own. None
of them opens or closes a block, so they raise the same messages in the same order; only the line is another.
-/

namespace LessonCheck

open Check Text

/-! ## Behind the semicolon -/

namespace Form

theorem DeclarationShape.append {t name tail : Text} {type : ValueType} {body : Option Text}
    (h : DeclarationShape t name type body tail) (s : Text) :
    DeclarationShape (t ++ s) name type body (tail ++ s) := by
  obtain ⟨w, hw, hHead⟩ := h.text
  have hMore := hHead.append s
  rw [List.append_assoc, List.append_assoc, List.cons_append] at hMore
  exact ⟨⟨w, hw, hMore⟩, h.semicolon, h.line⟩

theorem AssignmentShape.append {t target body tail : Text} (h : AssignmentShape t target body tail) (s : Text) :
    AssignmentShape (t ++ s) target body (tail ++ s) := by
  obtain ⟨w, hw, rfl⟩ := h.text
  exact ⟨h.target_form, ⟨w, hw, by simp⟩, h.ne_nil, h.semicolon⟩

theorem cutClosing?_append {t part tail : Text} (h : cutClosing? t = some (part, tail)) (s : Text) :
    cutClosing? (t ++ s) = some (part, tail ++ s) := by
  induction t generalizing part with
  | nil => cases h
  | cons c t ih =>
    -- Whether a place closes is told by characters that the longer text has as well.
    have hHere (hNe : trimStart t ≠ []) : (if c = ')' then after? [';'] (trimStart (t ++ s)) else none) =
        (if c = ')' then after? [';'] (trimStart t) else none).map (· ++ s) := by
      rw [trimStart_append_of_ne_nil hNe]
      obtain ⟨d, r, hStart⟩ := List.exists_cons_of_ne_nil hNe
      rw [hStart]
      split
      · simp [after?]
      · rfl
    unfold cutClosing? at h
    split at h
    · next rest hFound =>
      obtain ⟨rfl, rfl⟩ := Prod.mk.inj (Option.some.inj h)
      have hNe : trimStart t ≠ [] := by
        intro hNil
        rw [hNil] at hFound
        simp [after?] at hFound
      rw [List.cons_append, cutClosing?, hHere hNe, hFound]
      rfl
    · next hNone =>
      obtain ⟨⟨front, rest⟩, hLater, hEq⟩ := Option.map_eq_some_iff.mp h
      obtain ⟨rfl, rfl⟩ := Prod.mk.inj hEq
      have hNe : trimStart t ≠ [] := by
        intro hNil
        obtain ⟨⟨w, -, rfl⟩, -⟩ := cutClosing?_iff.mp hLater
        cases allBlank_of_trimStart_eq_nil hNil ')' (by simp)
      rw [List.cons_append, cutClosing?, hHere hNe, hNone, ih hLater]
      rfl

theorem IoShape.append {kind : IoKind} {t part tail : Text} (h : IoShape kind t part tail) (s : Text) :
    IoShape kind (t ++ s) part (tail ++ s) := by
  obtain ⟨v, r, hv, rfl, hClose, hFirst⟩ := h.text
  have hCut := cutClosing?_append (cutClosing?_iff.mpr ⟨hClose, hFirst⟩) s
  exact ⟨⟨v, r ++ s, hv, by simp, cutClosing?_iff.mp hCut⟩, h.line⟩

theorem Reads.semicolon {t rest : Text} {form : Form} (h : Reads t form rest) (hSimple : form.isSimple = true) :
    ∃ front tail, t = front ++ ';' :: tail ∧ rest = trim tail := by
  cases h with
  | simple hForm hText =>
    obtain ⟨front, hText⟩ := hText
    exact ⟨front, _, hText, rfl⟩
  | header hForm hEnd =>
    cases form with
    | declaration | assignment | io => cases hForm
    | _ => cases hSimple
  | _ => cases hSimple

/-- What is read as a simple form stays so with any text behind it, and that text is left. -/
theorem classify_append {t rest : Text} {form : Form} (h : classify t = (form, rest)) (hSimple : form.isSimple = true)
    (s : Text) : ∃ tail, rest = trim tail ∧ classify (t ++ s) = (form, trim (tail ++ s)) := by
  have hReader := reader_of_classify h
  cases form with
  | declaration name type value =>
    obtain ⟨body, tail, hShape, hValue, hRest⟩ := declaration?_iff.mp (hReader nofun)
    have hRead := declaration?_iff.mpr ⟨body, tail ++ s, hShape.append s, hValue, rfl⟩
    exact ⟨tail, hRest, classify_of_declaration? hRead⟩
  | assignment target expr =>
    obtain ⟨body, tail, hShape, hExpr, hRest⟩ := assignment?_iff.mp (hReader nofun)
    have hRead := assignment?_iff.mpr ⟨body, tail ++ s, hShape.append s, hExpr, rfl⟩
    exact ⟨tail, hRest, classify_of_assignment? hRead⟩
  | io kind arg =>
    obtain ⟨part, tail, hShape, hArg, hRest⟩ := io?_iff.mp (hReader nofun)
    have hRead := io?_iff.mpr ⟨part, tail ++ s, hShape.append s, hArg, rfl⟩
    exact ⟨tail, hRest, classify_of_io? hRead⟩
  | _ => cases hSimple

end Form

/-! ## Lines that are statements of their own -/

namespace CodeLine

theorem dropComment_of_notMem {t : Text} (h : '#' ∉ t) (quoted : Bool) : dropComment quoted t = t := by
  induction t generalizing quoted with
  | nil => rfl
  | cons c t ih =>
    rw [List.mem_cons, not_or] at h
    have hHash : ¬(c = '#' ∧ quoted = false) := fun hComment => h.1 hComment.1.symm
    rw [dropComment, ih h.2, ih h.2, if_neg hHash, ite_self]

theorem clean_of_notMem {t : Text} (hFramed : Framed t) (h : '#' ∉ t) : clean t = t := by
  obtain ⟨c, hLast, hc⟩ := hFramed.last
  rw [clean, trim_of_framed hFramed, dropComment_of_notMem h, trimEnd_of_getLast? hLast hc]

end CodeLine

/-- A line of code that ends with a semicolon, without a comment and with no start of a loop header. -/
structure ClosedLine (t : Text) : Prop where
  line : '\n' ∉ t
  comment : '#' ∉ t
  framed : Framed t
  semicolon : t.getLast? = some ';'
  opener : Header.containsLoop t = false

namespace ClosedLine

theorem ofPhysical? {t : Text} (h : ClosedLine t) (n : Nat) : CodeLine.ofPhysical? n t = some ⟨n, t⟩ := by
  rw [CodeLine.ofPhysical?, CodeLine.clean_of_notMem h.framed h.comment, if_neg h.framed.ne_nil]

theorem closes {t : Text} (h : ClosedLine t) (n : Nat) :
    (LogicalStatement.Pending.ofLine ⟨n, t⟩).closes = true := by
  simp [LogicalStatement.Pending.closes, LogicalStatement.Pending.ofLine, h.opener, h.semicolon]

theorem append {s t : Text} (hs : ClosedLine s) (ht : ClosedLine t) : ClosedLine (s ++ ' ' :: t) := by
  have hFramed := framed_append hs.framed ht.framed [' ']
  rw [List.append_assoc, List.singleton_append] at hFramed
  refine ⟨?line, ?comment, hFramed, ?semicolon, ?opener⟩
  case line => simp [hs.line, ht.line]
  case comment => simp [hs.comment, ht.comment]
  case semicolon =>
    rw [List.getLast?_append, List.getLast?_cons, ht.semicolon]
    rfl
  case opener =>
    -- An opener would have to go across the semicolon.
    obtain ⟨u, rfl⟩ := List.getLast?_eq_some_iff.mp hs.semicolon
    have hCut (r : Text) : Header.containsLoop (u ++ ';' :: r) = (Header.containsLoop u || Header.containsLoop r) :=
      Header.containsLoop_append_cons (by decide) (by decide) u r
    have hFront := hs.opener
    rw [hCut, Bool.or_eq_false_iff] at hFront
    rw [List.append_assoc, List.singleton_append, hCut, hFront.1, Bool.false_or]
    exact ht.opener

theorem group_ofLines {ls : List Text} (h : ∀ l ∈ ls, ClosedLine l) (n : Nat) :
    LogicalStatement.group none (CodeLine.ofLines n ls) =
      (ls.zipIdx n).map fun p => (⟨p.1, p.2⟩ : LogicalStatement) := by
  induction ls generalizing n with
  | nil => rfl
  | cons l ls ih =>
    obtain ⟨hFirst, hRest⟩ := List.forall_mem_cons.mp h
    rw [CodeLine.ofLines, hFirst.ofPhysical?, Option.toList_some, List.singleton_append,
      LogicalStatement.group_cons, LogicalStatement.extend, if_pos (hFirst.closes n), ih hRest]
    rfl

end ClosedLine

/-! ## Statements that may share a line -/

/-- A text of one line that is one simple statement. -/
structure Chainable (t : Text) : Prop where
  line : '\n' ∉ t
  comment : '#' ∉ t
  trimmed : trim t = t
  loop : ¬"MALLI-MALLI".toList <:+: t
  form : (Form.classify t).1.isSimple = true
  rest : (Form.classify t).2 = []

namespace Chainable

variable {t : Text}

instance (t : Text) : Decidable (Chainable t) :=
  decidable_of_iff ('\n' ∉ t ∧ '#' ∉ t ∧ trim t = t ∧ ¬"MALLI-MALLI".toList <:+: t ∧
      (Form.classify t).1.isSimple = true ∧ (Form.classify t).2 = [])
    ⟨fun ⟨hLine, hComment, hTrimmed, hLoop, hForm, hRest⟩ => ⟨hLine, hComment, hTrimmed, hLoop, hForm, hRest⟩,
      fun h => ⟨h.line, h.comment, h.trimmed, h.loop, h.form, h.rest⟩⟩

theorem framed (h : Chainable t) : Framed t := by
  refine framed_of_trim_eq h.trimmed ?_
  rintro rfl
  cases h.form

theorem semicolon (h : Chainable t) : t.getLast? = some ';' := by
  obtain ⟨front, tail, hText, hRest⟩ := (Form.reads_classify t).semicolon h.form
  have hFramed := h.framed
  rw [hText, ← List.singleton_append, ← List.append_assoc] at hFramed
  have hNil := eq_nil_of_framed_append _ hFramed (allBlank_of_trim_eq_nil (hRest.symm.trans h.rest))
  rw [hText, hNil, List.getLast?_append]
  rfl

theorem classify_append (h : Chainable t) (s : Text) :
    Form.classify (t ++ s) = ((Form.classify t).1, trim s) := by
  have hClassify : Form.classify t = ((Form.classify t).1, (Form.classify t).2) := rfl
  obtain ⟨tail, hRest, hMore⟩ := Form.classify_append hClassify h.form s
  rw [h.rest] at hRest
  rw [hMore, trim_allBlank_append (allBlank_of_trim_eq_nil hRest.symm)]

theorem closedLine (h : Chainable t) : ClosedLine t := by
  refine ⟨h.line, h.comment, h.framed, h.semicolon, ?_⟩
  cases hLoop : Header.containsLoop t with
  | false => rfl
  | true =>
    obtain ⟨front, w, back, -, rfl⟩ := Header.exists_of_containsLoop hLoop
    exact absurd ⟨front, w ++ '(' :: back, by simp; rfl⟩ h.loop

theorem chain_append (h : Chainable t) (s : Text) :
    Fragment.chain (t ++ s) = ⟨t ++ s, (Form.classify t).1⟩ :: Fragment.chain (trim s) := by
  have hNe : t ++ s ≠ [] := List.append_ne_nil_of_left_ne_nil h.framed.ne_nil s
  have hCloses := (Fragment.brackets_of_isSimple (t := t) h.form).1
  rw [Fragment.chain_of_ne_nil hNe, Fragment.first_of_not_closer (h.classify_append s) hCloses]

theorem chain_self (h : Chainable t) : Fragment.chain t = [⟨t, (Form.classify t).1⟩] := by
  have hChain := h.chain_append []
  rwa [List.append_nil, trim_nil, Fragment.chain_nil] at hChain

end Chainable

section Chained

variable {ss : List Text} (hChainable : ∀ s ∈ ss, Chainable s)

include hChainable

theorem closedLine_intercalate (hNe : ss ≠ []) : ClosedLine ([' '].intercalate ss) := by
  induction ss with
  | nil => exact absurd rfl hNe
  | cons s ss ih =>
    obtain ⟨hFirst, hRest⟩ := List.forall_mem_cons.mp hChainable
    cases ss with
    | nil =>
      rw [List.intercalate_singleton]
      exact hFirst.closedLine
    | cons t ss =>
      rw [List.intercalate_cons_cons, List.append_assoc, List.singleton_append]
      exact hFirst.closedLine.append (ih hRest (List.cons_ne_nil t ss))

theorem newline_notMem_intercalate : '\n' ∉ [' '].intercalate ss := by
  cases ss with
  | nil => exact List.not_mem_nil
  | cons s ss => exact (closedLine_intercalate hChainable (List.cons_ne_nil s ss)).line

theorem form_chain_intercalate :
    (Fragment.chain ([' '].intercalate ss)).map Fragment.form = ss.map fun s => (Form.classify s).1 := by
  induction ss with
  | nil =>
    rw [List.intercalate_nil, Fragment.chain_nil]
    rfl
  | cons s ss ih =>
    obtain ⟨hFirst, hRest⟩ := List.forall_mem_cons.mp hChainable
    cases ss with
    | nil =>
      rw [List.intercalate_singleton, hFirst.chain_self]
      rfl
    | cons t ss =>
      -- The blank between two statements is trimmed off before the second one is read.
      have hFramed := (closedLine_intercalate hRest (List.cons_ne_nil t ss)).framed
      rw [List.intercalate_cons_cons, List.append_assoc, List.singleton_append, hFirst.chain_append,
        trim_cons_of_framed (by decide) hFramed, List.map_cons, ih hRest, List.map_cons (l := t :: ss)]

end Chained

namespace Check

/-- The diagnostics of lists of messages, each list on a line of its own. -/
def onLines (lines : List Nat) (raised : List (List Text)) : List Diagnostic :=
  (List.zipWith (fun line messages => messages.map (Diagnostic.mk line)) lines raised).flatten

namespace State

/-- The messages that simple forms raise in turn, one list for each. -/
def raised (rules : Rules) : State → List Form → List (List Text)
  | _, [] => []
  | s, form :: forms =>
    (s.reported rules ⟨[], form⟩).map Defect.message :: raised rules ⟨bound s.symbols form, s.blocks⟩ forms

theorem length_raised (rules : Rules) (s : State) (forms : List Form) : (s.raised rules forms).length = forms.length := by
  induction forms generalizing s with
  | nil => rfl
  | cons form forms ih => rw [raised, List.length_cons, ih, List.length_cons]

theorem reported_of_isSimple (rules : Rules) (s : State) {form : Form} (h : form.isSimple = true) (t : Text) :
    s.reported rules ⟨t, form⟩ = s.reported rules ⟨[], form⟩ := by
  cases form with
  | declaration | assignment | io => rfl
  | _ => cases h

theorem next_of_isSimple (rules : Rules) (s : State) {form : Form} (h : form.isSimple = true) (line : Nat) (t : Text) :
    s.next rules ⟨line, t, form⟩ = ⟨bound s.symbols form, s.blocks⟩ := by
  cases form with
  | declaration | assignment | io => rfl
  | _ => cases h

/-- A run over simple forms keeps the open blocks, and nothing but the forms decides what is raised. -/
theorem run_of_isSimple (rules : Rules) (s : State) {run : List Step}
    (h : ∀ step ∈ run, step.fragment.form.isSimple = true) :
    (s.run rules run).1.map Finding.diagnostic =
        onLines (run.map Step.line) (s.raised rules (run.map (·.fragment.form))) ∧
      (s.run rules run).2 = ⟨(run.map (·.fragment.form)).foldl bound s.symbols, s.blocks⟩ := by
  induction run generalizing s with
  | nil => exact ⟨rfl, rfl⟩
  | cons step rest ih =>
    obtain ⟨line, t, form⟩ := step
    obtain ⟨hFirst, hRest⟩ := List.forall_mem_cons.mp h
    -- The next state has the same open blocks, so a place in an unbound body stays one.
    obtain ⟨hFindings, hState⟩ := ih (s.next rules ⟨line, t, form⟩) hRest
    have hHere : (s.findings rules ⟨line, t, form⟩).map Finding.diagnostic =
        ((s.reported rules ⟨[], form⟩).map Defect.message).map (Diagnostic.mk line) := by
      rw [findings, reported_of_isSimple rules s hFirst t, List.map_map, List.map_map]
      rfl
    rw [next_of_isSimple rules s hFirst] at hFindings hState
    refine ⟨?_, ?_⟩
    · rw [run_cons_fst, List.map_append, hHere, next_of_isSimple rules s hFirst, hFindings]
      rfl
    · rw [run_cons_snd, next_of_isSimple rules s hFirst, hState]
      rfl

end State

/-- The steps of lines that stand alone. -/
def lineSteps (line : Nat) (ls : List Text) : List Step :=
  (LogicalStatement.group none (CodeLine.ofLines line ls)).flatMap stepsOf

theorem steps_joinLines_append {ps ls : List Text} (hFront : ∀ p ∈ ps, '\n' ∉ p) (hBack : ∀ l ∈ ls, '\n' ∉ l)
    (hSettled : LogicalStatement.Settled (joinLines ps)) :
    steps (joinLines (ps ++ ls)) = steps (joinLines ps) ++ lineSteps (ps.length + 1) ls := by
  have hAll : ∀ l ∈ ps ++ ls, '\n' ∉ l := fun l hl => (List.mem_append.mp hl).elim (hFront l) (hBack l)
  have hPending := (LogicalStatement.settled_iff _).mp hSettled
  rw [CodeLine.ofSource_joinLines hFront] at hPending
  rw [steps, LogicalStatement.ofSource, CodeLine.ofSource_joinLines hAll, CodeLine.ofLines_append,
    LogicalStatement.group_append hPending, List.flatMap_append, steps, LogicalStatement.ofSource,
    CodeLine.ofSource_joinLines hFront, Nat.add_comm 1]
  rfl

theorem stepsOf_chainable {t : Text} (h : Chainable t) (line : Nat) :
    stepsOf ⟨t, line⟩ = [⟨line, t, (Form.classify t).1⟩] := by
  rw [stepsOf, Fragment.ofStatement, h.trimmed, h.chain_self]
  rfl

theorem lineSteps_own {ss : List Text} (h : ∀ s ∈ ss, Chainable s) (line : Nat) :
    lineSteps line ss = (ss.zipIdx line).map fun p => ⟨p.2, p.1, (Form.classify p.1).1⟩ := by
  rw [lineSteps, ClosedLine.group_ofLines fun s hs => (h s hs).closedLine, List.flatMap_map, List.map_eq_flatMap]
  exact List.flatMap_congr fun p hp => stepsOf_chainable (h p.1 (List.fst_mem_of_mem_zipIdx hp)) p.2

theorem lineSteps_chained {ss : List Text} (h : ∀ s ∈ ss, Chainable s) (line : Nat) :
    lineSteps line [[' '].intercalate ss] = (Fragment.chain ([' '].intercalate ss)).map (⟨line, ·⟩) := by
  cases ss with
  | nil =>
    rw [List.intercalate_nil, Fragment.chain_nil]
    rfl
  | cons s ss =>
    have hClosed := closedLine_intercalate h (List.cons_ne_nil s ss)
    rw [lineSteps, ClosedLine.group_ofLines (List.forall_mem_singleton.mpr hClosed), List.zipIdx_singleton,
      List.map_singleton, List.flatMap_singleton, stepsOf, Fragment.ofStatement, trim_of_framed hClosed.framed]

section Statements

variable {ss : List Text} (hChainable : ∀ s ∈ ss, Chainable s) (line : Nat)

include hChainable

theorem line_lineSteps_own : (lineSteps line ss).map Step.line = List.range' line ss.length := by
  rw [lineSteps_own hChainable, List.map_map]
  exact List.zipIdx_map_snd line ss

theorem form_lineSteps_own :
    (lineSteps line ss).map (·.fragment.form) = ss.map fun s => (Form.classify s).1 := by
  have hTexts := congrArg (List.map fun s => (Form.classify s).1) (List.zipIdx_map_fst line ss)
  rw [List.map_map] at hTexts
  rw [lineSteps_own hChainable, List.map_map]
  exact hTexts

theorem form_lineSteps_chained :
    (lineSteps line [[' '].intercalate ss]).map (·.fragment.form) = ss.map fun s => (Form.classify s).1 := by
  rw [lineSteps_chained hChainable, List.map_map]
  exact form_chain_intercalate hChainable

theorem line_lineSteps_chained :
    (lineSteps line [[' '].intercalate ss]).map Step.line = List.replicate ss.length line := by
  have hLength := congrArg List.length (form_chain_intercalate hChainable)
  rw [List.length_map, List.length_map] at hLength
  rw [lineSteps_chained hChainable, List.map_map, ← hLength]
  exact List.map_const'

end Statements

theorem line_le_of_mem_check {strictness : Strictness} {ps : List Text} (hLines : ∀ p ∈ ps, '\n' ∉ p)
    {d : Diagnostic} (h : d ∈ (check strictness (joinLines ps)).1) : d.line ≤ ps.length := by
  obtain ⟨s, hStatement, hLine⟩ := exists_statement_of_mem_check h
  obtain ⟨l, hCode, hNumber⟩ := LogicalStatement.exists_codeLine_of_mem_ofSource hStatement
  rw [CodeLine.ofSource_joinLines hLines] at hCode
  obtain ⟨k, p, hPhysical, hPlace, -⟩ := CodeLine.exists_physical_of_mem_ofLines hCode
  have hLength := (List.getElem?_eq_some_iff.mp hPhysical).1
  omega

theorem check_joinLines_append (strictness : Strictness) {ps ls : List Text} (hFront : ∀ p ∈ ps, '\n' ∉ p)
    (hBack : ∀ l ∈ ls, '\n' ∉ l) (hSettled : LogicalStatement.Settled (joinLines ps)) {lines : List Nat}
    {forms : List Form} (hLine : (lineSteps (ps.length + 1) ls).map Step.line = lines)
    (hForm : (lineSteps (ps.length + 1) ls).map (·.fragment.form) = forms)
    (hSimple : ∀ form ∈ forms, form.isSimple = true) :
    let rules := Rules.ofStrictness strictness
    let before := State.start.run rules (steps (joinLines ps))
    check strictness (joinLines (ps ++ ls)) =
      (before.1.map Finding.diagnostic ++ onLines lines (before.2.raised rules forms) ++
        before.2.unclosed.map Finding.diagnostic, forms.foldl State.bound before.2.symbols) := by
  intro rules before
  have hSteps : ∀ step ∈ lineSteps (ps.length + 1) ls, step.fragment.form.isSimple = true := by
    intro step hStep
    apply hSimple
    rw [← hForm]
    exact List.mem_map_of_mem hStep
  obtain ⟨hRaised, hState⟩ := State.run_of_isSimple rules before.2 hSteps
  rw [hLine, hForm] at hRaised
  rw [hForm] at hState
  apply Prod.ext
  · rw [State.check_fst, steps_joinLines_append hFront hBack hSettled, State.run_append, List.map_append, hRaised,
      hState]
    rfl
  · rw [check, program, steps_joinLines_append hFront hBack hSettled, State.run_append, hState]

end Check

/-- Behind a program with no pending statement, simple statements on one line raise what they raise on lines of
their own, each list of messages on the one line or on the line of its statement. -/
theorem check_chained (strictness : Strictness) {ps ss : List Text} (hLines : ∀ p ∈ ps, '\n' ∉ p)
    (hSettled : LogicalStatement.Settled (joinLines ps)) (hChainable : ∀ s ∈ ss, Chainable s) :
    ∃ (found unclosed : List Diagnostic) (raised : List (List Text)) (symbols : SymbolTable),
      (check strictness (joinLines ps)).1 = found ++ unclosed ∧
      (∀ d ∈ found ++ unclosed, d.line ≤ ps.length) ∧ raised.length = ss.length ∧
      check strictness (joinLines (ps ++ [[' '].intercalate ss])) =
        (found ++ onLines (List.replicate ss.length (ps.length + 1)) raised ++ unclosed, symbols) ∧
      check strictness (joinLines (ps ++ ss)) =
        (found ++ onLines (List.range' (ps.length + 1) ss.length) raised ++ unclosed, symbols) := by
  let rules := Rules.ofStrictness strictness
  let before := State.start.run rules (steps (joinLines ps))
  have hSimple : ∀ form ∈ ss.map fun s => (Form.classify s).1, form.isSimple = true := by
    intro form hForm
    obtain ⟨s, hs, rfl⟩ := List.mem_map.mp hForm
    exact (hChainable s hs).form
  refine ⟨before.1.map Finding.diagnostic, before.2.unclosed.map Finding.diagnostic,
    before.2.raised rules (ss.map fun s => (Form.classify s).1),
    (ss.map fun s => (Form.classify s).1).foldl State.bound before.2.symbols, State.check_fst strictness _,
    ?bound, ?length, ?chained, ?own⟩
  case bound =>
    intro d hd
    rw [← State.check_fst] at hd
    exact line_le_of_mem_check hLines hd
  case length => rw [State.length_raised, List.length_map]
  case chained =>
    refine check_joinLines_append strictness hLines ?_ hSettled (line_lineSteps_chained hChainable _)
      (form_lineSteps_chained hChainable _) hSimple
    exact List.forall_mem_singleton.mpr (newline_notMem_intercalate hChainable)
  case own =>
    exact check_joinLines_append strictness hLines (fun s hs => (hChainable s hs).line) hSettled
      (line_lineSteps_own hChainable _) (form_lineSteps_own hChainable _) hSimple

/-- A declaration, an assignment of a wrong type and a print of an unknown name, in a block left open. -/
theorem check_chained_block :
    LogicalStatement.Settled "PADAM a:ANKHE;\nELAITHE (a == 1) [".toList ∧
      (∀ s ∈ ["PADAM b:VARTTAI;".toList, "b = 5;".toList, "CHATIMPU(c);".toList], Chainable s) ∧
      ∃ (found unclosed : List Diagnostic) (raised : List (List Text)) (symbols : SymbolTable),
        raised.length = 3 ∧
        check .strict "PADAM a:ANKHE;\nELAITHE (a == 1) [\nPADAM b:VARTTAI; b = 5; CHATIMPU(c);".toList =
          (found ++ onLines [3, 3, 3] raised ++ unclosed, symbols) ∧
        check .strict "PADAM a:ANKHE;\nELAITHE (a == 1) [\nPADAM b:VARTTAI;\nb = 5;\nCHATIMPU(c);".toList =
          (found ++ onLines [3, 4, 5] raised ++ unclosed, symbols) := by
  let ps := ["PADAM a:ANKHE;".toList, "ELAITHE (a == 1) [".toList]
  let ss := ["PADAM b:VARTTAI;".toList, "b = 5;".toList, "CHATIMPU(c);".toList]
  have hProgram : joinLines ps = "PADAM a:ANKHE;\nELAITHE (a == 1) [".toList := by decide +kernel
  have hChainedText : joinLines (ps ++ [[' '].intercalate ss]) =
      "PADAM a:ANKHE;\nELAITHE (a == 1) [\nPADAM b:VARTTAI; b = 5; CHATIMPU(c);".toList := by
    decide +kernel
  have hOwnText : joinLines (ps ++ ss) =
      "PADAM a:ANKHE;\nELAITHE (a == 1) [\nPADAM b:VARTTAI;\nb = 5;\nCHATIMPU(c);".toList := by
    decide +kernel
  have hLines : ∀ p ∈ ps, '\n' ∉ p := by decide +kernel
  have hSettled : LogicalStatement.Settled (joinLines ps) := by decide +kernel
  have hChainable : ∀ s ∈ ss, Chainable s := by decide +kernel
  obtain ⟨found, unclosed, raised, symbols, -, -, hLength, hChained, hOwn⟩ :=
    check_chained .strict hLines hSettled hChainable
  rw [hChainedText] at hChained
  rw [hOwnText] at hOwn
  rw [hProgram] at hSettled
  exact ⟨hSettled, hChainable, found, unclosed, raised, symbols, hLength, hChained, hOwn⟩

end LessonCheck
