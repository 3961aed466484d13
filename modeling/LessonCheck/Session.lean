import LessonCheck.Check.Run
import LessonCheck.Rendering
import LessonCheck.Terminal
import LessonCheck.TypedLine

/-!
# Sessions

A session is a program typed line by line, with commands in between that check it, show it, and change how
it is checked. Blank lines belong to the program, so the lines of diagnostics are the lines as typed. Only
checking looks at the program, and the variables shown are those of the last check.
-/

namespace LessonCheck

structure Session where
  lines : List Text
  strictness : Strictness
  symbols : Option SymbolTable

inductive Reply
  | info (text : Text)
  | valid
  | invalid (rendering : Text)
  | quit
  deriving DecidableEq, Repr

namespace Reply

def display : Reply → Text
  | info text | invalid text => Text.trimEnd text
  | valid => "✓ no diagnostics".toList
  | quit => []

def styled (terminal : Terminal) (r : Reply) : Text :=
  match r with
  | valid => terminal.painted .green r.display
  | invalid _ => terminal.painted .red r.display
  | _ => r.display

def ofDiagnostics (source : Text) (diagnostics : List Diagnostic) : Reply :=
  if diagnostics = [] then valid else invalid (Rendering.render source diagnostics)

end Reply

namespace Session

inductive Command
  | quit | help | check | list | clear | variables
  | switch (strictness : Strictness)
  | unknown (word : Text)
  deriving DecidableEq, Repr

def commandWords : List (Text × Command) := [
  ("/quit".toList, .quit), ("/q".toList, .quit), ("/exit".toList, .quit),
  ("/help".toList, .help), ("/h".toList, .help), ("/?".toList, .help),
  ("/check".toList, .check), ("/c".toList, .check),
  ("/show".toList, .list), ("/s".toList, .list),
  ("/clear".toList, .clear),
  ("/strict".toList, .switch .strict), ("/relaxed".toList, .switch .relaxed),
  ("/vars".toList, .variables)]

def Command.ofWord (w : Text) : Command := (commandWords.lookup w).getD (.unknown w)

/-- A line is a command if it starts with a slash, which is then told by its first word, and otherwise a
line of the program. -/
inductive Entry
  | command (command : Command)
  | line (text : Text)
  deriving DecidableEq, Repr

def Entry.ofLine (t : Text) : Entry :=
  if (Text.trim t).head? = some '/' then .command (.ofWord ((Text.words t).headD []))
  else .line (Text.trimEnd t)

def start (strictness : Strictness) : Session := ⟨[], strictness, none⟩

def source (s : Session) : Text := Text.joinLines s.lines

def nextLine (s : Session) : Nat := s.lines.length + 1

def listing (s : Session) : Text :=
  if s.lines = [] then "(buffer is empty)".toList
  else Text.joinLines ((s.lines.zipIdx 1).map fun l => Text.padded 4 l.2 ++ " | ".toList ++ l.1)

def variableList (s : Session) : Text :=
  match s.symbols with
  | none => "(run /check first)".toList
  | some table =>
    if table.isEmpty then "(no variables declared)".toList
    else Text.joinLines ("Variables:".toList :: table.entries.map fun e =>
      "  ".toList ++ e.1 ++ ": ".toList ++ e.2.keyword.text)

def helpLines : List String := [
  "yantra: Yantrabhashi checker",
  "",
  "Commands:",
  "  /help, /h, /?     Show this help",
  "  /quit, /q, /exit  Exit the REPL",
  "  /check, /c        Validate the program typed so far",
  "  /show, /s         Print the program with line numbers",
  "  /clear            Discard the program",
  "  /strict           Check ELAITHE condition types (default)",
  "  /relaxed          Accept any ELAITHE condition",
  "  /vars             Variables declared as of the last /check",
  "",
  "Language:",
  "  PADAM x:ANKHE = 5;              Declare an integer",
  "  PADAM s:VARTTAI = \"hi\";         Declare a string",
  "  x = x + 1;                      Assign",
  "  CHATIMPU(x);  CHEPPU(x);        Print / read",
  "  ELAITHE (x > 3) [ ... ] ALAITHE [ ... ]",
  "  MALLI-MALLI (PADAM i:ANKHE = 0; i < 10; i = i + 1) [ ... ]"]

def helpText : Text := (helpLines.map String.toList).flatMap (· ++ ['\n'])

def run (s : Session) : Command → Reply × Session
  | .quit => (.quit, s)
  | .help => (.info helpText, s)
  | .check =>
    let (diagnostics, symbols) := LessonCheck.check s.strictness s.source
    (.ofDiagnostics s.source diagnostics, { s with symbols := some symbols })
  | .list => (.info s.listing, s)
  | .clear => (.info "Buffer cleared.".toList, { s with lines := [], symbols := none })
  | .variables => (.info s.variableList, s)
  | .switch strictness =>
    (.info ("Condition checking: ".toList ++ strictness.text), { s with strictness })
  | .unknown word =>
    (.info ("Unknown command: ".toList ++ word ++ "\nType /help for available commands.".toList), s)

/-- A program line is kept without a reply. -/
def enter (s : Session) (t : Text) : Option Reply × Session :=
  match Entry.ofLine t with
  | .command c => let (reply, next) := s.run c; (some reply, next)
  | .line l => (none, { s with lines := s.lines ++ [l] })

/-! ## Transcripts -/

def endMark : Text := "^D\n".toList

/-- What is shown in a session, which is broken off at a line that cannot be read. -/
structure Transcript where
  shown : Text
  isBroken : Bool
  deriving DecidableEq, Repr

namespace Transcript

def ended (shown : Text) : Transcript := ⟨shown, false⟩

def brokenOff : Transcript := ⟨[], true⟩

def after (shown : Text) (t : Transcript) : Transcript := { t with shown := shown ++ t.shown }

end Transcript

/-- What stands in front of a line on a terminal that has prompts. -/
def prompt (s : Session) (terminal : Terminal) : Text :=
  terminal.prompted (Text.padded 3 s.nextLine ++ "> ".toList)

/-- The transcript of the lines of an input, up to the command to quit or to the end of the input. -/
def transcript (terminal : Terminal) : Session → List Text → Transcript
  | s, [] => .ended (s.prompt terminal ++ endMark)
  | s, typed :: rest => .after (s.prompt terminal) <|
    match TypedLine.read? typed with
    | none => .brokenOff
    | some line =>
      match s.enter line with
      | (none, next) => transcript terminal next rest
      | (some .quit, _) => .ended []
      | (some reply, next) => .after (reply.styled terminal ++ ['\n']) (transcript terminal next rest)

end Session
end LessonCheck
