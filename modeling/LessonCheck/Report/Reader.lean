import LessonCheck.Report
import LessonCheck.Json.Typed

/-!
# Reading reports

A report is read back from JSON. Report and diagnostic are records: an object whose other members are
skipped, so a file report can be read as a report, or an array of the fields in order. The first field that
is missing in that order is the one complained about.
-/

namespace LessonCheck
open Json

namespace Diagnostic

structure Fields where
  line : Option Nat
  message : Option Text

def typeName : Text := "struct Diagnostic".toList

def enter (name : Text) (fields : Fields) : Reader Fields := fun t => do
  if name = "line".toList then
    let (n, t) ← readOnce name fields.line readNatural t
    .ok ({ fields with line := some n }, t)
  else if name = "message".toList then
    let (m, t) ← readOnce name fields.message readString t
    .ok ({ fields with message := some m }, t)
  else
    let (_, t) ← readValue skipValue t
    .ok (fields, t)

def ofFields (fields : Fields) : Except Error Diagnostic := do
  let line ← required "line".toList fields.line
  let message ← required "message".toList fields.message
  .ok ⟨line, message⟩

def readFromObject : Reader Diagnostic := fun t => do
  let (fields, t) ← readMembers readScalar enter (t.length + 1) true ⟨none, none⟩ t
  .ok (← ofFields fields, t)

def readFromArray : Reader Diagnostic := fun t => do
  let field {α : Type} := @readField α (typeName ++ " with 2 elements".toList)
  let (line, t) ← field 0 readNatural t
  let (message, t) ← field 1 readString t
  .ok (⟨line, message⟩, ← expect ']' t)

def read : Reader Diagnostic := readRecord typeName readFromArray readFromObject

end Diagnostic

namespace Report

structure Fields where
  code : Option Text
  isValid : Option Bool
  diagnostics : Option (List Diagnostic)

def typeName : Text := "struct ValidationReport".toList

def enter (name : Text) (fields : Fields) : Reader Fields := fun t => do
  if name = "code".toList then
    let (c, t) ← readOnce name fields.code readString t
    .ok ({ fields with code := some c }, t)
  else if name = "is_valid".toList then
    let (v, t) ← readOnce name fields.isValid readBool t
    .ok ({ fields with isValid := some v }, t)
  else if name = "diagnostics".toList then
    let (ds, t) ← readOnce name fields.diagnostics (readArray Diagnostic.read) t
    .ok ({ fields with diagnostics := some ds }, t)
  else
    let (_, t) ← readValue skipValue t
    .ok (fields, t)

def ofFields (fields : Fields) : Except Error Report := do
  let code ← required "code".toList fields.code
  let isValid ← required "is_valid".toList fields.isValid
  let diagnostics ← required "diagnostics".toList fields.diagnostics
  .ok ⟨code, isValid, diagnostics⟩

def readFromObject : Reader Report := fun t => do
  let (fields, t) ← readMembers readScalar enter (t.length + 1) true ⟨none, none, none⟩ t
  .ok (← ofFields fields, t)

def readFromArray : Reader Report := fun t => do
  let field {α : Type} := @readField α (typeName ++ " with 3 elements".toList)
  let (code, t) ← field 0 readString t
  let (isValid, t) ← field 1 readBool t
  let (diagnostics, t) ← field 2 (readArray Diagnostic.read) t
  .ok (⟨code, isValid, diagnostics⟩, ← expect ']' t)

def read : Reader Report := readRecord typeName readFromArray readFromObject

def ofJson (t : Text) : Except Error Report := readDocument read t

end Report
end LessonCheck
