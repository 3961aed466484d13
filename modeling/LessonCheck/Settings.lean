import LessonCheck.Folder
import LessonCheck.Strictness
import LessonCheck.Json.Typed

/-!
# Settings

What a user can set, and where it comes from: an environment variable, a JSON document, or a flag. A
settings file replaces the variable and the flag overrules both, but only settings that can be read are
overruled.
-/

namespace LessonCheck
open Json

/-- Why the program gives up; the wording names the file or variable concerned. -/
inductive Failure
  | unreadableSettings (file : NativeText) (reason : ReadFailure)
  | invalidSettings (file : NativeText) (error : Json.Error)
  | invalidVariable (word : Text)
  | unreadableProgram (file : NativeText) (reason : ReadFailure)
  | unwritableReports
  deriving DecidableEq, Repr

structure Settings where
  strictness : Strictness
  deriving DecidableEq, Repr

namespace Settings

def initial : Settings := ⟨.strict⟩

def json (s : Settings) : Text := Layout.compact.object [("strictness".toList, Json.string s.strictness.text)]

def variableName : Text := "YANTRA_STRICTNESS".toList

/-- The settings for a value of the variable; a blank value is as good as none. -/
def ofVariable : Option Text → Except Text Settings
  | none => .ok initial
  | some value => if Text.trim value = [] then .ok initial else (Strictness.ofText value).map Settings.mk

/-! ## Reading a document -/

def typeName : Text := "struct ValidatorConfig".toList

/-- The strictness that a document names; here the word has to be exact. -/
def ofName (name : Text) : Except Error Strictness :=
  match Strictness.ofWord? name with
  | some s => .ok s
  | none => .error (.data (.unknownVariant name [Strictness.strict.text, Strictness.relaxed.text]))

/-- A strictness is a string, or an object whose only name is the strictness and whose value is null. -/
def readStrictness : Reader Strictness := fun t =>
  match skipSpace t with
  | [] => .error .truncated
  | '"' :: r => do
    let (name, r) ← readStringTail readScalar r
    .ok (← ofName name, r)
  | '\x7b' :: r => do
    let (name, r) ← readKey readScalar (skipSpace r)
    let s ← ofName name
    let (_, r) ← readValue readNull r
    .ok (s, ← expect '\x7d' r)
  | _ => .error .malformed

def enter (name : Text) (present : Option Strictness) : Reader (Option Strictness) := fun t => do
  if name = "strictness".toList then
    let (s, t) ← readOnce name present readStrictness t
    .ok (some s, t)
  else .error (.data (.unknownField name ["strictness".toList]))

def ofFields (present : Option Strictness) : Settings := ⟨present.getD initial.strictness⟩

def readFromObject : Reader Settings := fun t => do
  let (present, t) ← readMembers readScalar enter (t.length + 1) true none t
  .ok (ofFields present, t)

def readFromArray : Reader Settings := fun t => do
  match ← place ']' true t with
  | .closed r => .ok (initial, r)
  | .item t =>
    let (s, t) ← readStrictness t
    .ok (⟨s⟩, ← expect ']' t)

def read : Reader Settings := readRecord typeName readFromArray readFromObject

def ofJson (t : Text) : Except Error Settings := readDocument read t

def mismatchMessage (m : Mismatch) : Text := "invalid validator config: ".toList ++ m.message

/-! ## The settings of a run -/

def ofFile (source : FileSource) (file : NativeText) : Except Failure Settings := do
  let text ← (source file).mapError (.unreadableSettings file)
  (ofJson text).mapError (.invalidSettings file)

def resolve (source : FileSource) (file : Option NativeText) (value : Option Text) (relaxed : Bool) :
    Except Failure Settings := do
  let settings ← match file with
    | some file => ofFile source file
    | none => (ofVariable value).mapError .invalidVariable
  .ok (if relaxed then ⟨.relaxed⟩ else settings)

end Settings

namespace Failure

/-- What is said about a settings file behind its name. A mismatch is named once as what the settings suffer
from and once as the cause; of other offences nothing is said. -/
def settingsDetail : Json.Error → Text
  | .data m => ": ".toList ++ Settings.mismatchMessage m ++ ": ".toList ++ m.message
  | _ => []

def message : Failure → Text
  | unreadableSettings file reason =>
      "failed to read config ".toList ++ file.shown ++ ": ".toList ++ reason.message
  | invalidSettings file error => "invalid config ".toList ++ file.shown ++ settingsDetail error
  | invalidVariable word =>
      "invalid ".toList ++ Settings.variableName ++ ": ".toList ++ Strictness.unknownMessage word
  | unreadableProgram file reason => "failed to read ".toList ++ file.shown ++ ": ".toList ++ reason.message
  | unwritableReports => "failed to write JSON: path contains invalid UTF-8 characters".toList

end Failure
end LessonCheck
