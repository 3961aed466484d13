import LessonCheck.Json.Number
import LessonCheck.Json.Writer

/-!
# What can be wrong with a document

A document that cannot be read ends too early, is not JSON, or is JSON with other data than expected. The
last kind is a mismatch; its wording is in `Mismatch.message`.
-/

namespace LessonCheck.Json

/-- What stands where something else was expected; composites are not looked into. -/
inductive Found
  | null
  | bool (b : Bool)
  | number (n : Number)
  | string (t : Text)
  | map
  | sequence
  deriving DecidableEq, Repr

def Found.described : Found → Text
  | null => "null".toList
  | bool b => "boolean ".toList ++ Text.ticked (Json.bool b)
  | number n => n.described
  | string t => "string ".toList ++ Text.quoted t
  | map => "map".toList
  | sequence => "sequence".toList

inductive Mismatch
  | wrongType (found : Found) (expected : Text)
  | wrongValue (found : Number) (expected : Text)
  | wrongLength (length : Nat) (expected : Text)
  | unknownVariant (name : Text) (known : List Text)
  | unknownField (name : Text) (known : List Text)
  | duplicateField (name : Text)
  | missingField (name : Text)
  deriving DecidableEq, Repr

namespace Mismatch

def alternatives (names : List Text) : Text := " or ".toList.intercalate (names.map Text.ticked)

def message : Mismatch → Text
  | wrongType found expected => "invalid type: ".toList ++ found.described ++ ", expected ".toList ++ expected
  | wrongValue found expected => "invalid value: ".toList ++ found.described ++ ", expected ".toList ++ expected
  | wrongLength length expected =>
      "invalid length ".toList ++ Text.ofNat length ++ ", expected ".toList ++ expected
  | unknownVariant name known =>
      "unknown variant ".toList ++ Text.ticked name ++ ", expected ".toList ++ alternatives known
  | unknownField name known =>
      "unknown field ".toList ++ Text.ticked name ++ ", expected ".toList ++ alternatives known
  | duplicateField name => "duplicate field ".toList ++ Text.ticked name
  | missingField name => "missing field ".toList ++ Text.ticked name

end Mismatch

/-- A document may be truncated, malformed, or well-formed up to data of another shape. -/
inductive Error
  | truncated
  | malformed
  | data (mismatch : Mismatch)
  deriving DecidableEq, Repr

end LessonCheck.Json
