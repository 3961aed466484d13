import LessonCheck.Check.Run
import LessonCheck.Tally

/-!
# Case files

A case file holds programs together with the diagnostics they must give. A case starts with a line that
names it and perhaps one for the strictness; the program stands between two fences, and the expected
diagnostics follow up to the end mark. Reading never fails: what is wrong with a case is kept in it as a flaw,
and a case with a flaw is not run. The lemmas say that reading a case uses up lines.
-/

namespace LessonCheck

inductive Flaw
  | unknownMode (word : Text)
  | badExpectation (line : Text)
  deriving DecidableEq, Repr

def Flaw.message : Flaw → Text
  | unknownMode word => Strictness.unknownMessage word
  | badExpectation line => "bad expectation line: ".toList ++ line

structure Case where
  name : Text
  line : Nat
  strictness : Strictness
  source : Text
  expected : List Diagnostic
  flaw : Option Flaw
  deriving DecidableEq, Repr

namespace CaseFile

abbrev NumberedLine := Text × Nat

def fence : Text := "---".toList

def endMark : Text := "===".toList

/-- The rest of a line after its label, without blanks around either. -/
def labelled? (label : Text) (l : NumberedLine) : Option Text :=
  (Text.after? label (Text.trim l.1)).map Text.trim

def header? : NumberedLine → Option Text := labelled? "# test:".toList

def mode? : NumberedLine → Option Text := labelled? "# mode:".toList

def upTo (mark : Text) (ls : List NumberedLine) : List NumberedLine × List NumberedLine :=
  (ls.takeWhile (Text.trim ·.1 ≠ mark), (ls.dropWhile (Text.trim ·.1 ≠ mark)).tail)

/-! ## Expectations -/

def lineNumberBound : Nat := Nat.pow 2 64

def lineNumber? (t : Text) : Option Nat :=
  let digits := match t with
    | '+' :: r => r
    | _ => t
  (Text.nat? digits).filter (· < lineNumberBound)

/-- A diagnostic from its line number, a colon and the message. -/
def expectation? (l : Text) : Option Diagnostic := do
  let (number, message) ← Text.cut? ':' l
  let line ← lineNumber? (Text.trim number)
  some ⟨line, Text.trim message⟩

/-! ## Cases -/

structure Block where
  mode : Option Text
  source : List Text
  expectations : List Text
  deriving DecidableEq, Repr

def splitMode : List NumberedLine → Option Text × List NumberedLine
  | [] => (none, [])
  | l :: ls =>
    match mode? l with
    | some m => (some m, ls)
    | none => (none, l :: ls)

/-- The parts of a case, and the lines behind it. -/
def splitBlock (ls : List NumberedLine) : Block × List NumberedLine :=
  let (mode, ls) := splitMode ls
  let (_, ls) := upTo fence ls
  let (source, ls) := upTo fence ls
  let (expectations, ls) := upTo endMark ls
  (⟨mode, source.map (·.1), (expectations.map fun l => Text.trim l.1).filter (· ≠ [])⟩, ls)

/-- The strictness that a case asks for; a word that is none leaves it as it is. -/
def strictnessOf : Option Text → Strictness × Option Flaw
  | none => (.strict, none)
  | some m =>
    match Strictness.ofText m with
    | .ok s => (s, none)
    | .error w => (.strict, some (.unknownMode w))

def caseOf (name : Text) (line : Nat) (b : Block) : Case :=
  let (strictness, flaw) := strictnessOf b.mode
  let unread := b.expectations.find? fun l => (expectation? l).isNone
  { name, line, strictness,
    source := Text.joinLines b.source,
    expected := b.expectations.filterMap expectation?,
    flaw := flaw <|> unread.map .badExpectation }

theorem length_upTo_le (mark : Text) (ls : List NumberedLine) : (upTo mark ls).2.length ≤ ls.length := by
  have h := (List.dropWhile_suffix (fun l : NumberedLine => decide (Text.trim l.1 ≠ mark)) (l := ls)).length_le
  simp only [upTo, List.length_tail]
  omega

theorem length_splitMode_le (ls : List NumberedLine) : (splitMode ls).2.length ≤ ls.length := by
  cases ls with
  | nil => simp [splitMode]
  | cons l ls =>
    rw [splitMode]
    split <;> simp

theorem length_splitBlock_le (ls : List NumberedLine) : (splitBlock ls).2.length ≤ ls.length := by
  simp only [splitBlock]
  have h₀ := length_splitMode_le ls
  have h₁ := length_upTo_le fence (splitMode ls).2
  have h₂ := length_upTo_le fence (upTo fence (splitMode ls).2).2
  have h₃ := length_upTo_le endMark (upTo fence (upTo fence (splitMode ls).2).2).2
  omega

/-- The cases in numbered lines; lines between cases are passed over. -/
def casesOf : List NumberedLine → List Case
  | [] => []
  | l :: ls =>
    match header? l with
    | none => casesOf ls
    | some name => caseOf name l.2 (splitBlock ls).1 :: casesOf (splitBlock ls).2
termination_by ls => ls.length
decreasing_by
  · simp
  · exact Nat.lt_succ_of_le (length_splitBlock_le ls)

def read (content : Text) : List Case := casesOf ((Text.lines content).zipIdx 1)

end CaseFile

namespace Case

def listing (ds : List Diagnostic) : Text :=
  if ds = [] then "(no diagnostics)".toList
  else Text.joinLines (ds.map fun d => Text.ofNat d.line ++ ": ".toList ++ d.message)

def run (c : Case) : Verdict :=
  match c.flaw with
  | some flaw => .error flaw.message
  | none =>
    let actual := (check c.strictness c.source).1
    if actual = c.expected then .pass else .fail (listing c.expected) (listing actual)

def skipReason : Text := "listed as known failing".toList

/-- The outcome of a case, which is only run if its name is not among those to be skipped. -/
def outcome (skipped : List Text) (c : Case) : Outcome :=
  ⟨c.name, c.line, if skipped.contains c.name then .skip skipReason else c.run⟩

/-- The cases are run in order, and what each of them comes to is recorded. -/
def runAll (skipped : List Text) (cs : List Case) : Tally :=
  cs.foldl (fun t c => t.record (c.outcome skipped)) .empty

end Case
end LessonCheck
