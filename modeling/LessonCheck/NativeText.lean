import LessonCheck.Text.Utf8

/-!
# Native texts

Arguments and the names of files are bytes to the system. Those that encode a text are that text; the others can be
passed on and shown, but not written where a text has to stand.
-/

namespace LessonCheck

inductive NativeText
  | text (t : Text)
  | raw (bytes : List UInt8) (h : Text.ofUtf8? bytes.toByteArray = none)
  deriving DecidableEq, Repr

namespace NativeText

instance : Coe Text NativeText := ⟨text⟩

instance : Coe (List Text) (List NativeText) := ⟨List.map text⟩

def ofBytes (bytes : List UInt8) : NativeText :=
  match h : Text.ofUtf8? bytes.toByteArray with
  | some t => text t
  | none => raw bytes h

def isText : NativeText → Bool
  | text _ => true
  | raw .. => false

/-- What people are shown of it. -/
def shown : NativeText → Text
  | text t => t
  | raw bytes _ => Text.ofUtf8Lossy bytes

def byteSize : NativeText → Nat
  | text t => Text.byteSize t
  | raw bytes _ => bytes.length

def holdsNul : NativeText → Bool
  | text t => t.contains '\x00'
  | raw bytes _ => bytes.contains 0

/-- The steps of a name, parted by slashes. -/
def steps : NativeText → List NativeText
  | text t => (t.splitOn '/').map text
  | raw bytes _ => (bytes.splitOn 0x2F).map ofBytes

end NativeText
end LessonCheck
