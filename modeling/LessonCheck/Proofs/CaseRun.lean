import LessonCheck.Proofs.CaseFile
import Mathlib.Data.List.TakeWhile

/-!
# Running case files

What stands in a case file is said without reading it line by line: lines between the cases, and for each case a
header, perhaps a line for the mode, and parts that go on up to a mark or to the end of the file. Every file has
this form, a truncated one as well. The run of its cases gives each of them the verdict that it earns by what
stands in it, counts every verdict once, and lists those that failed or are malformed, in the order of the file.
-/

namespace LessonCheck

open Text

namespace CaseFile

/-! ## What stands in a file -/

/-- The line has the label in front of the value, with blanks around either. -/
def Labelled (label : Text) (l : NumberedLine) (value : Text) : Prop :=
  ∃ r, trim l.1 = label ++ r ∧ trim r = value

def IsHeader : NumberedLine → Text → Prop := Labelled "# test:".toList

def IsMode : NumberedLine → Text → Prop := Labelled "# mode:".toList

/-- The lines in front of the first mark, and those behind it; without a mark the part goes on to the end. -/
inductive UpTo (mark : Text) : List NumberedLine → List NumberedLine → List NumberedLine → Prop
  | marked {part rest : List NumberedLine} {l : NumberedLine} (hPart : ∀ p ∈ part, trim p.1 ≠ mark)
      (hMark : trim l.1 = mark) : UpTo mark (part ++ l :: rest) part rest
  | cut {part : List NumberedLine} (hPart : ∀ p ∈ part, trim p.1 ≠ mark) : UpTo mark part part []

inductive ModeLine : List NumberedLine → Option Text → List NumberedLine → Prop
  | given {l : NumberedLine} {rest : List NumberedLine} {m : Text} (hMode : IsMode l m) :
      ModeLine (l :: rest) (some m) rest
  | absent {ls : List NumberedLine} (hMode : ∀ l ∈ ls.head?, ∀ m, ¬IsMode l m) : ModeLine ls none ls

structure Entry where
  name : Text
  line : Nat
  mode : Option Text
  source : List Text
  expectations : List Text

/-- The parts of the case, without its header, stand in front of the rest. -/
inductive Entry.Stands (e : Entry) : List NumberedLine → List NumberedLine → Prop
  | intro {ls behindMode lead inside source behind expectations rest : List NumberedLine}
      (hMode : ModeLine ls e.mode behindMode) (hOpening : UpTo fence behindMode lead inside)
      (hSource : UpTo fence inside source behind) (hSourceText : source.map (·.1) = e.source)
      (hExpectations : UpTo endMark behind expectations rest)
      (hExpectationsText : expectations.map (·.1) = e.expectations) : e.Stands ls rest

/-- The lines are the entries in order, with lines that are no headers between them. -/
inductive Laid : List NumberedLine → List Entry → Prop
  | done {between : List NumberedLine} (hBetween : ∀ l ∈ between, ∀ name, ¬IsHeader l name) : Laid between []
  | entry {between ls rest : List NumberedLine} {header : NumberedLine} {e : Entry} {es : List Entry}
      (hBetween : ∀ l ∈ between, ∀ name, ¬IsHeader l name) (hHeader : IsHeader header e.name)
      (hLine : header.2 = e.line) (hStands : e.Stands ls rest) (hRest : Laid rest es) :
      Laid (between ++ header :: ls) (e :: es)

/-! ## What a case asks for -/

/-- Digits, perhaps with a plus sign in front, whose value is a number of 64 bits. -/
def Numbers (t : Text) (n : Nat) : Prop :=
  ∃ digits, (t = digits ∨ t = '+' :: digits) ∧ digits ≠ [] ∧ (∀ c ∈ digits, c.isDigit = true) ∧
    Nat.ofDigitChars 10 digits 0 = n ∧ n < Nat.pow 2 64

/-- The line is a number, a colon and a message. -/
def Expects (l : Text) (d : Diagnostic) : Prop :=
  ∃ number message, l = number ++ ':' :: message ∧ ':' ∉ number ∧ Numbers (trim number) d.line ∧
    trim message = d.message

namespace Entry

/-- The lines of the expectations that are not blank, without the blanks around them. -/
def wanted (e : Entry) : List Text := (e.expectations.map trim).filter (· ≠ [])

def code (e : Entry) : Text := joinLines e.source

/-- The strictness of the case: strict without a mode, else the one that the mode names. -/
def Asks (e : Entry) (s : Strictness) : Prop :=
  e.mode = none ∧ s = .strict ∨ ∃ m, e.mode = some m ∧ Strictness.ofText m = .ok s

/-- A mode that is none, or a line of the expectations that is none. -/
def Malformed (e : Entry) : Prop :=
  (∃ m, e.mode = some m ∧ ∀ s, Strictness.ofText m ≠ .ok s) ∨ ∃ l ∈ e.wanted, ∀ d, ¬Expects l d

/-- What is said about a malformed case: the first thing wrong with it. -/
inductive Problem (e : Entry) : Text → Prop
  | mode {m w : Text} (hMode : e.mode = some m) (hWord : Strictness.ofText m = .error w) :
      e.Problem (Strictness.unknownMessage w)
  | expectation {s : Strictness} {front back : List Text} {l : Text} (hMode : e.Asks s)
      (hSplit : e.wanted = front ++ l :: back) (hFront : ∀ k ∈ front, ∃ d, Expects k d) (hLine : ∀ d, ¬Expects l d) :
      e.Problem ("bad expectation line: ".toList ++ l)

def Differs (e : Entry) : Prop :=
  ∃ s ds, e.Asks s ∧ List.Forall₂ Expects e.wanted ds ∧ (check s e.code).1 ≠ ds

inductive Earns (skipped : List Text) (e : Entry) : Verdict → Prop
  | skip (hName : e.name ∈ skipped) : Earns skipped e (.skip "listed as known failing".toList)
  | error {problem : Text} (hName : e.name ∉ skipped) (hProblem : e.Problem problem) : Earns skipped e (.error problem)
  | fail {s : Strictness} {ds : List Diagnostic} (hName : e.name ∉ skipped) (hMode : e.Asks s)
      (hWanted : List.Forall₂ Expects e.wanted ds) (hDiffers : (check s e.code).1 ≠ ds) :
      Earns skipped e (.fail (Case.listing ds) (Case.listing (check s e.code).1))
  | pass {s : Strictness} (hName : e.name ∉ skipped) (hMode : e.Asks s)
      (hWanted : List.Forall₂ Expects e.wanted (check s e.code).1) : Earns skipped e .pass

/-- The case is to be run, and is malformed or has other diagnostics than it expects. -/
def Fails (skipped : List Text) (e : Entry) : Prop := e.name ∉ skipped ∧ (e.Malformed ∨ e.Differs)

structure ReadAs (e : Entry) (c : Case) : Prop where
  name : c.name = e.name
  line : c.line = e.line
  source : c.source = e.code
  flaw : ∀ f, c.flaw = some f → e.Problem f.message
  sound : c.flaw = none → e.Asks c.strictness ∧ List.Forall₂ Expects e.wanted c.expected

structure Settles (skipped : List Text) (e : Entry) (o : Outcome) : Prop where
  name : o.name = e.name
  line : o.line = e.line
  verdict : e.Earns skipped o.verdict

/-- A malformed case is an error and any other failing case is a failure. -/
structure Recorded (e : Entry) (o : Outcome) : Prop where
  name : o.name = e.name
  line : o.line = e.line
  error : e.Malformed → ∃ problem, o.verdict = .error problem ∧ e.Problem problem
  fail : ¬e.Malformed → ∃ expected actual, o.verdict = .fail expected actual

end Entry

/-! ## Lines read -/

theorem labelled?_eq_some_iff {label : Text} {l : NumberedLine} {value : Text} :
    labelled? label l = some value ↔ Labelled label l value := by
  simp [labelled?, Labelled, after?_eq_some_iff]

theorem labelled?_eq_none_iff {label : Text} {l : NumberedLine} :
    labelled? label l = none ↔ ∀ value, ¬Labelled label l value := by
  rw [Option.eq_none_iff_forall_ne_some]
  exact forall_congr' fun value => labelled?_eq_some_iff.not

theorem upTo_eq_iff {mark : Text} {ls part rest : List NumberedLine} :
    upTo mark ls = (part, rest) ↔ UpTo mark ls part rest := by
  constructor
  · intro h
    obtain ⟨hPart, hRest⟩ := Prod.mk.inj h
    have hPass : ∀ p ∈ part, trim p.1 ≠ mark := by
      intro p hp
      rw [← hPart] at hp
      simpa using List.mem_takeWhile_imp hp
    have hSplit := List.takeWhile_append_dropWhile (p := fun l : NumberedLine => decide (trim l.1 ≠ mark)) (l := ls)
    cases hStop : ls.dropWhile (trim ·.1 ≠ mark) with
    | nil =>
      rw [hStop, List.append_nil, hPart] at hSplit
      rw [hStop] at hRest
      subst hSplit hRest
      exact .cut hPass
    | cons l tail =>
      have hMark : trim l.1 = mark := by
        have hHead := List.head?_dropWhile_not (fun l : NumberedLine => decide (trim l.1 ≠ mark)) ls
        rw [hStop] at hHead
        simpa using hHead
      rw [hStop, hPart] at hSplit
      rw [hStop] at hRest
      subst hSplit hRest
      exact .marked hPass hMark
  · intro h
    cases h with
    | marked hPart hMark => exact upTo_append hPart hMark
    | cut hPart =>
      have hPass : ∀ p ∈ ls, decide (trim p.1 ≠ mark) = true := fun p hp => decide_eq_true (hPart p hp)
      rw [upTo, List.takeWhile_eq_self_iff.mpr hPass, List.dropWhile_eq_nil_iff.mpr hPass]
      rfl

theorem splitMode_eq_iff {ls rest : List NumberedLine} {mode : Option Text} :
    splitMode ls = (mode, rest) ↔ ModeLine ls mode rest := by
  constructor
  · intro h
    cases ls with
    | nil =>
      obtain ⟨rfl, rfl⟩ := Prod.mk.inj h
      exact .absent (by simp)
    | cons l ls =>
      rw [splitMode] at h
      split at h
      · next m hMode =>
        obtain ⟨rfl, rfl⟩ := Prod.mk.inj h
        exact .given (labelled?_eq_some_iff.mp hMode)
      · next hMode =>
        obtain ⟨rfl, rfl⟩ := Prod.mk.inj h
        refine .absent fun k hk => ?_
        obtain rfl := Option.some.inj hk
        exact labelled?_eq_none_iff.mp hMode
  · intro h
    cases h with
    | given hMode =>
      have hRead : mode? _ = some _ := labelled?_eq_some_iff.mpr hMode
      rw [splitMode, hRead]
    | absent hMode =>
      cases ls with
      | nil => rfl
      | cons l ls =>
        have hRead : mode? l = none := labelled?_eq_none_iff.mpr (hMode l rfl)
        rw [splitMode, hRead]

def Entry.block (e : Entry) : Block := ⟨e.mode, e.source, e.wanted⟩

theorem Entry.splitBlock_of_stands {e : Entry} {ls rest : List NumberedLine} (h : e.Stands ls rest) :
    splitBlock ls = (e.block, rest) := by
  obtain ⟨hMode, hOpening, hSource, hSourceText, hExpectations, hExpectationsText⟩ := h
  simp only [splitBlock, splitMode_eq_iff.mpr hMode, upTo_eq_iff.mpr hOpening, upTo_eq_iff.mpr hSource,
    upTo_eq_iff.mpr hExpectations, block, wanted, hSourceText, ← hExpectationsText, List.map_map]
  rfl

theorem exists_stands (name : Text) (line : Nat) (ls : List NumberedLine) :
    ∃ e : Entry, e.name = name ∧ e.line = line ∧ e.Stands ls (splitBlock ls).2 := by
  refine ⟨⟨name, line, (splitMode ls).1, (upTo fence (upTo fence (splitMode ls).2).2).1.map (·.1),
    (upTo endMark (upTo fence (upTo fence (splitMode ls).2).2).2).1.map (·.1)⟩, rfl, rfl, ?_⟩
  exact ⟨splitMode_eq_iff.mp rfl, upTo_eq_iff.mp rfl, upTo_eq_iff.mp rfl, rfl, upTo_eq_iff.mp rfl, rfl⟩

/-! ## The cases of a file -/

def Entry.case (e : Entry) : Case := caseOf e.name e.line e.block

theorem casesOf_append_of_no_header {between : List NumberedLine} (h : ∀ l ∈ between, ∀ name, ¬IsHeader l name)
    (ls : List NumberedLine) : casesOf (between ++ ls) = casesOf ls := by
  induction between with
  | nil => rfl
  | cons l between ih =>
    obtain ⟨hFirst, hRest⟩ := List.forall_mem_cons.mp h
    have hHeader : header? l = none := labelled?_eq_none_iff.mpr hFirst
    rw [List.cons_append, casesOf, hHeader]
    exact ih hRest

/-- Every layout of the lines has the cases that are read. -/
theorem casesOf_of_laid {ls : List NumberedLine} {es : List Entry} (h : Laid ls es) :
    casesOf ls = es.map Entry.case := by
  induction h with
  | @done between hBetween =>
    have hEmpty := casesOf_append_of_no_header hBetween []
    rw [List.append_nil, casesOf] at hEmpty
    exact hEmpty
  | @entry between ls rest header e es hBetween hHeader hLine hStands _ ih =>
    have hRead : header? header = some e.name := labelled?_eq_some_iff.mpr hHeader
    rw [casesOf_append_of_no_header hBetween, casesOf, hRead]
    simp only [Entry.splitBlock_of_stands hStands, ih, hLine]
    rfl

theorem Laid.cons_of_no_header {l : NumberedLine} {ls : List NumberedLine} {es : List Entry} (h : Laid ls es)
    (hFirst : ∀ name, ¬IsHeader l name) : Laid (l :: ls) es := by
  cases h with
  | done hBetween => exact .done (List.forall_mem_cons.mpr ⟨hFirst, hBetween⟩)
  | entry hBetween hHeader hLine hStands hRest =>
    rw [← List.cons_append]
    exact .entry (List.forall_mem_cons.mpr ⟨hFirst, hBetween⟩) hHeader hLine hStands hRest

theorem exists_laid (ls : List NumberedLine) : ∃ es, Laid ls es := by
  fun_induction casesOf ls with
  | case1 => exact ⟨[], .done (List.forall_mem_nil _)⟩
  | case2 l ls hHeader ih =>
    obtain ⟨es, hLaid⟩ := ih
    exact ⟨es, hLaid.cons_of_no_header (labelled?_eq_none_iff.mp hHeader)⟩
  | case3 l ls name hHeader ih =>
    obtain ⟨es, hLaid⟩ := ih
    obtain ⟨e, rfl, hLine, hStands⟩ := exists_stands name l.2 ls
    have hEntry : Laid ([] ++ l :: ls) (e :: es) :=
      .entry (List.forall_mem_nil _) (labelled?_eq_some_iff.mp hHeader) hLine.symm hStands hLaid
    exact ⟨e :: es, hEntry⟩

theorem UpTo.suffix {mark : Text} {ls part rest : List NumberedLine} (h : UpTo mark ls part rest) : rest <:+ ls := by
  cases h with
  | @marked part rest l hPart hMark => exact ⟨part ++ [l], by simp⟩
  | cut => exact List.nil_suffix

theorem ModeLine.suffix {ls rest : List NumberedLine} {mode : Option Text} (h : ModeLine ls mode rest) :
    rest <:+ ls := by
  cases h with
  | given => exact List.suffix_cons _ _
  | absent => exact List.suffix_rfl

theorem Entry.Stands.suffix {e : Entry} {ls rest : List NumberedLine} (h : e.Stands ls rest) : rest <:+ ls := by
  obtain ⟨hMode, hOpening, hSource, -, hExpectations, -⟩ := h
  exact hExpectations.suffix.trans (hSource.suffix.trans (hOpening.suffix.trans hMode.suffix))

theorem Laid.sublist_line {ls : List NumberedLine} {es : List Entry} (h : Laid ls es) :
    (es.map Entry.line).Sublist (ls.map (·.2)) := by
  induction h with
  | done => exact List.nil_sublist _
  | @entry between ls rest header e es _ _ hLine hStands _ ih =>
    rw [List.map_append, List.map_cons, List.map_cons, ← hLine]
    have hTail := ih.trans (hStands.suffix.sublist.map (·.2))
    exact (hTail.cons_cons header.2).trans (List.sublist_append_right _ _)

theorem pairwise_line_of_laid {ls : List Text} {n : Nat} {es : List Entry} (h : Laid (ls.zipIdx n) es) :
    (es.map Entry.line).Pairwise (· < ·) := by
  have hNumbers : ((ls.zipIdx n).map (·.2)).Pairwise (· < ·) := by
    have hRange : (ls.zipIdx n).map (·.2) = List.range' n ls.length := List.zipIdx_map_snd n ls
    rw [hRange]
    exact List.pairwise_lt_range'
  exact hNumbers.sublist h.sublist_line

/-! ## The reading of expectations -/

theorem lineNumber?_eq_some_iff {t : Text} {n : Nat} : lineNumber? t = some n ↔ Numbers t n := by
  have hRead (digits : Text) : (nat? digits).filter (· < lineNumberBound) = some n ↔
      digits ≠ [] ∧ (∀ c ∈ digits, c.isDigit = true) ∧ Nat.ofDigitChars 10 digits 0 = n ∧ n < Nat.pow 2 64 := by
    simp only [Option.filter_eq_some_iff, nat?_eq_some_iff, decide_eq_true_eq, and_assoc]
    rfl
  unfold lineNumber?
  simp only
  rw [hRead]
  constructor
  · intro h
    split at h
    · next r => exact ⟨r, .inr rfl, h⟩
    · exact ⟨t, .inl rfl, h⟩
  · rintro ⟨digits, rfl | rfl, h⟩
    · split
      · next r =>
        have hPlus := h.2.1 '+' List.mem_cons_self
        cases hPlus
      · exact h
    · exact h

theorem expectation?_eq_some_iff {l : Text} {d : Diagnostic} : expectation? l = some d ↔ Expects l d := by
  obtain ⟨line, message⟩ := d
  simp only [expectation?, Option.bind_eq_bind, Option.bind_eq_some_iff, Prod.exists, cut?_eq_some_iff,
    lineNumber?_eq_some_iff, Option.some.injEq, Diagnostic.mk.injEq, Expects]
  constructor
  · rintro ⟨number, rest, ⟨rfl, hColon⟩, n, hNumber, rfl, hMessage⟩
    exact ⟨number, rest, rfl, hColon, hNumber, hMessage⟩
  · rintro ⟨number, rest, rfl, hColon, hNumber, hMessage⟩
    exact ⟨number, rest, ⟨rfl, hColon⟩, line, hNumber, rfl, hMessage⟩

theorem expectation?_eq_none_iff {l : Text} : expectation? l = none ↔ ∀ d, ¬Expects l d := by
  rw [Option.eq_none_iff_forall_ne_some]
  exact forall_congr' fun d => expectation?_eq_some_iff.not

theorem forall₂_expects_iff {ls : List Text} {ds : List Diagnostic} :
    List.Forall₂ Expects ls ds ↔ ls.map expectation? = ds.map some := by
  rw [← List.forall₂_eq_eq_eq, List.forall₂_map_left_iff, List.forall₂_map_right_iff]
  exact ⟨fun h => h.imp fun _ _ => expectation?_eq_some_iff.mpr, fun h => h.imp fun _ _ => expectation?_eq_some_iff.mp⟩

theorem exists_expects {l : Text} (h : (expectation? l).isSome) : ∃ d, Expects l d := by
  obtain ⟨d, hRead⟩ := Option.isSome_iff_exists.mp h
  exact ⟨d, expectation?_eq_some_iff.mp hRead⟩

theorem forall₂_expects_filterMap {ls : List Text} (h : ∀ l ∈ ls, ∃ d, Expects l d) :
    List.Forall₂ Expects ls (ls.filterMap expectation?) := by
  induction ls with
  | nil => exact .nil
  | cons l ls ih =>
    obtain ⟨⟨d, hFirst⟩, hRest⟩ := List.forall_mem_cons.mp h
    rw [List.filterMap_cons_some (expectation?_eq_some_iff.mpr hFirst)]
    exact .cons hFirst (ih hRest)

theorem expects_unique {ls : List Text} {ds es : List Diagnostic} (h : List.Forall₂ Expects ls ds)
    (h' : List.Forall₂ Expects ls es) : ds = es := by
  have hMap := (forall₂_expects_iff.mp h).symm.trans (forall₂_expects_iff.mp h')
  exact List.map_injective_iff.mpr (fun _ _ => Option.some.inj) hMap

/-! ## The verdict on a case -/

namespace Entry

variable {e : Entry} {skipped : List Text} {s : Strictness} {ds : List Diagnostic}

theorem asks_unique {s' : Strictness} (h : e.Asks s) (h' : e.Asks s') : s = s' := by
  obtain ⟨hMode, rfl⟩ | ⟨m, hMode, hWord⟩ := h
  · obtain ⟨-, rfl⟩ | ⟨m', hMode', -⟩ := h'
    · rfl
    · cases hMode.symm.trans hMode'
  · obtain ⟨hMode', -⟩ | ⟨m', hMode', hWord'⟩ := h'
    · cases hMode.symm.trans hMode'
    · obtain rfl := Option.some.inj (hMode.symm.trans hMode')
      exact Except.ok.inj (hWord.symm.trans hWord')

theorem strictnessOf_mode (e : Entry) :
    (∃ s, e.Asks s ∧ strictnessOf e.mode = (s, none)) ∨
      ∃ w, e.Problem (Strictness.unknownMessage w) ∧ strictnessOf e.mode = (.strict, some (.unknownMode w)) := by
  cases hMode : e.mode with
  | none => exact .inl ⟨.strict, .inl ⟨hMode, rfl⟩, rfl⟩
  | some m =>
    rw [strictnessOf]
    cases hWord : Strictness.ofText m with
    | ok s => exact .inl ⟨s, .inr ⟨m, hMode, hWord⟩, rfl⟩
    | error w => exact .inr ⟨w, .mode hMode hWord, rfl⟩

theorem flaw_case {flaw : Option Flaw} (h : strictnessOf e.mode = (s, flaw)) : e.case.strictness = s ∧
    e.case.flaw = (flaw <|> (e.wanted.find? fun l => (expectation? l).isNone).map .badExpectation) := by
  simp only [case, caseOf, block, h, and_self]

theorem readAs_case (e : Entry) : e.ReadAs e.case := by
  -- A mode that is none comes before any line of the expectations, so these count only behind a mode that is read.
  obtain ⟨s, hAsks, hMode⟩ | ⟨w, hProblem, hMode⟩ := e.strictnessOf_mode
  · obtain ⟨hStrictness, hUnread⟩ := flaw_case hMode
    refine ⟨rfl, rfl, rfl, fun f hFlaw => ?_, fun hFlaw => ⟨hStrictness ▸ hAsks, ?_⟩⟩
    · obtain ⟨l, hFind, rfl⟩ := Option.map_eq_some_iff.mp (hUnread.symm.trans hFlaw)
      obtain ⟨hLine, front, back, hSplit, hFront⟩ := List.find?_eq_some_iff_append.mp hFind
      have hRead : ∀ k ∈ front, ∃ d, Expects k d := fun k hk => exists_expects (by simpa using hFront k hk)
      exact .expectation hAsks hSplit hRead (expectation?_eq_none_iff.mp (Option.isNone_iff_eq_none.mp hLine))
    · have hFind := Option.map_eq_none_iff.mp (hUnread.symm.trans hFlaw)
      refine forall₂_expects_filterMap fun l hl => exists_expects (Option.isSome_iff_ne_none.mpr fun hNone => ?_)
      exact List.find?_eq_none.mp hFind l hl (Option.isNone_iff_eq_none.mpr hNone)
  · obtain ⟨-, hUnread⟩ := flaw_case hMode
    refine ⟨rfl, rfl, rfl, fun f hFlaw => ?_, fun hFlaw => ?_⟩
    · obtain rfl := Option.some.inj (hUnread.symm.trans hFlaw)
      exact hProblem
    · cases hUnread.symm.trans hFlaw

theorem malformed_of_problem {problem : Text} (h : e.Problem problem) : e.Malformed := by
  cases h with
  | mode hMode hWord =>
    refine .inl ⟨_, hMode, fun s hOk => ?_⟩
    cases hWord.symm.trans hOk
  | expectation _ hSplit _ hLine => exact .inr ⟨_, hSplit ▸ List.mem_append_cons_self, hLine⟩

theorem not_malformed (hAsks : e.Asks s) (hWanted : List.Forall₂ Expects e.wanted ds) : ¬e.Malformed := by
  rintro (⟨m, hMode, hWord⟩ | ⟨l, hl, hLine⟩)
  · obtain ⟨hMode', -⟩ | ⟨m', hMode', hOk⟩ := hAsks
    · cases hMode.symm.trans hMode'
    · obtain rfl := Option.some.inj (hMode.symm.trans hMode')
      exact hWord s hOk
  · have hRead := List.mem_map_of_mem (f := expectation?) hl
    rw [forall₂_expects_iff.mp hWanted, expectation?_eq_none_iff.mpr hLine] at hRead
    simp at hRead

theorem settles_outcome (skipped : List Text) (e : Entry) : e.Settles skipped (e.case.outcome skipped) := by
  refine ⟨rfl, rfl, ?_⟩
  have hRead := e.readAs_case
  change Earns skipped e (if skipped.contains e.name then .skip Case.skipReason else e.case.run)
  split
  · next hName => exact .skip (List.contains_iff_mem.mp hName)
  · next hName =>
    have hRuns : e.name ∉ skipped := fun hMem => hName (List.contains_iff_mem.mpr hMem)
    rw [Case.run]
    split
    · next f hFlaw => exact .error hRuns (hRead.flaw f hFlaw)
    · next hFlaw =>
      obtain ⟨hAsks, hWanted⟩ := hRead.sound hFlaw
      rw [hRead.source]
      simp only
      split
      · next hSame => exact .pass hRuns hAsks (hSame ▸ hWanted)
      · next hDiffers => exact .fail hRuns hAsks hWanted hDiffers

theorem Earns.isFailure_iff {v : Verdict} (h : Earns skipped e v) :
    (v.isFail || v.isError) = true ↔ e.Fails skipped := by
  cases h with
  | skip hName => exact ⟨by rintro ⟨⟩, fun hFails => absurd hName hFails.1⟩
  | error hName hProblem => exact ⟨fun _ => ⟨hName, .inl (malformed_of_problem hProblem)⟩, fun _ => rfl⟩
  | fail hName hMode hWanted hDiffers => exact ⟨fun _ => ⟨hName, .inr ⟨_, _, hMode, hWanted, hDiffers⟩⟩, fun _ => rfl⟩
  | pass _ hMode hWanted =>
    refine ⟨by rintro ⟨⟩, ?_⟩
    rintro ⟨-, hMalformed | ⟨s', ds, hMode', hWanted', hDiffers⟩⟩
    · exact absurd hMalformed (not_malformed hMode hWanted)
    · obtain rfl := asks_unique hMode hMode'
      exact absurd (expects_unique hWanted hWanted') hDiffers

theorem Settles.recorded {o : Outcome} (h : e.Settles skipped o) (hFails : e.Fails skipped) : e.Recorded o := by
  obtain ⟨name, line, v⟩ := o
  obtain ⟨hName, hLine, hVerdict⟩ := h
  have hFailure : (v.isFail || v.isError) = true := hVerdict.isFailure_iff.mpr hFails
  refine ⟨hName, hLine, fun hMalformed => ?_, fun hSound => ?_⟩
  · cases hVerdict with
    | error _ hProblem => exact ⟨_, rfl, hProblem⟩
    | fail _ hMode hWanted => exact absurd hMalformed (not_malformed hMode hWanted)
    | skip => cases hFailure
    | pass => cases hFailure
  · cases hVerdict with
    | error _ hProblem => exact absurd (malformed_of_problem hProblem) hSound
    | fail => exact ⟨_, _, rfl⟩
    | skip => cases hFailure
    | pass => cases hFailure

instance (skipped : List Text) : DecidablePred (Fails skipped) := fun e =>
  decidable_of_iff _ (e.settles_outcome skipped).verdict.isFailure_iff

end Entry
end CaseFile

/-! ## The run -/

namespace CaseFile

structure Accounts (skipped : List Text) (es : List Entry) (cs : List Case) (t : Tally) : Prop where
  cases : List.Forall₂ Entry.ReadAs es cs
  increasing : (cs.map Case.line).Pairwise (· < ·)
  counted : t.passed + t.failed + t.skipped + t.errors = cs.length
  verdicts : ∃ os, List.Forall₂ (Entry.Settles skipped) es os ∧ t.Counts os
  failures : List.Forall₂ Entry.Recorded (es.filter (Entry.Fails skipped)) t.failures
  allPassed : t.allPassed = true ↔ t.failures = []

theorem accounts_cases (skipped : List Text) {es : List Entry}
    (hIncreasing : (es.map Entry.line).Pairwise (· < ·)) :
    Accounts skipped es (es.map Entry.case) (Case.runAll skipped (es.map Entry.case)) := by
  have hCounts := Case.counts_runAll skipped (es.map Entry.case)
  rw [List.map_map] at hCounts
  refine ⟨?cases, ?increasing, ?counted, ⟨_, ?verdicts, hCounts⟩, ?failures, hCounts.allPassed_iff⟩
  case cases => exact List.forall₂_map_right_iff.mpr (List.forall₂_same.mpr fun e _ => e.readAs_case)
  case increasing => rwa [List.map_map]
  case counted =>
    have hTotal := hCounts.total
    rwa [List.length_map, ← List.length_map Entry.case] at hTotal
  case verdicts => exact List.forall₂_map_right_iff.mpr (List.forall₂_same.mpr fun e _ => e.settles_outcome skipped)
  case failures =>
    have hFails : ∀ e ∈ es, (e.case.outcome skipped).isFailure = decide (e.Fails skipped) := by
      intro e _
      rw [Bool.eq_iff_iff, decide_eq_true_iff]
      exact (e.settles_outcome skipped).verdict.isFailure_iff
    have hFilter : (es.map (Case.outcome skipped ∘ Entry.case)).filter Outcome.isFailure =
        (es.filter (Entry.Fails skipped)).map (Case.outcome skipped ∘ Entry.case) := by
      rw [List.filter_map]
      exact congrArg _ (List.filter_congr hFails)
    rw [hCounts.failures, hFilter]
    refine List.forall₂_map_right_iff.mpr (List.forall₂_same.mpr fun e he => ?_)
    exact (e.settles_outcome skipped).recorded (of_decide_eq_true (List.mem_filter.mp he).2)

/-- Whatever the content, it is laid out as entries, and these are the cases that are run. -/
theorem run_accounts (content : Text) (skipped : List Text) :
    (∃ es, Laid ((Text.lines content).zipIdx 1) es) ∧
      ∀ es, Laid ((Text.lines content).zipIdx 1) es →
        Accounts skipped es (read content) (Case.runAll skipped (read content)) := by
  refine ⟨exists_laid _, fun es hLaid => ?_⟩
  rw [read, casesOf_of_laid hLaid]
  exact accounts_cases skipped (pairwise_line_of_laid hLaid)

/-- A file that breaks off behind a mode that is none still holds its case. -/
example : (Case.runAll [] (read "# test: cut\n# mode: odd".toList)).failures =
    [⟨"cut".toList, 1, .error (Strictness.unknownMessage "odd".toList)⟩] := by
  decide +kernel

end CaseFile
end LessonCheck
