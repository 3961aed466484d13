import LessonCheck.NativeText

/-!
# Folders

Files are read by name, and reading may fail. A folder is the value of all files below one place, where names
are relative to that place. A name is followed step by step; what lies outside the folder is not known, apart
from the directories above it.
-/

namespace LessonCheck

inductive ReadFailure
  | missing
  | isDirectory
  | notDirectory
  | notUtf8
  | invalidName
  | nameTooLong
  | other (reason : Text)
  deriving DecidableEq, Repr

def ReadFailure.message : ReadFailure → Text
  | missing => "No such file or directory (os error 2)".toList
  | isDirectory => "Is a directory (os error 21)".toList
  | notDirectory => "Not a directory (os error 20)".toList
  | notUtf8 => "stream did not contain valid UTF-8".toList
  | invalidName => "file name contained an unexpected NUL byte".toList
  | nameTooLong => "File name too long (os error 36)".toList
  | other reason => reason

abbrev FileSource := NativeText → Except ReadFailure Text

def decode (bytes : ByteArray) : Except ReadFailure Text :=
  match Text.ofUtf8? bytes with
  | some t => .ok t
  | none => .error .notUtf8

structure Folder where
  files : List (NativeText × ByteArray)

namespace Folder

inductive Entry
  | file (bytes : ByteArray)
  | directory

def isIdle (step : NativeText) : Bool := step = .text [] || step = .text ['.']

def isUp (step : NativeText) : Bool := step = .text ['.', '.']

def placeOf (name : NativeText) : List NativeText := name.steps.filter fun s => !isIdle s

/-- What is at a place: a file, or a directory that some file lies below. -/
def entry? (folder : Folder) (place : List NativeText) : Option Entry :=
  match folder.files.find? fun f => placeOf f.1 = place with
  | some f => some (.file f.2)
  | none =>
    if place = [] ∨ folder.files.any fun f => place.isPrefixOf (placeOf f.1) then some .directory else none

def stepLimit : Nat := 255

def nameLimit : Nat := 4095

/-- No directory holds a step of more bytes, whatever else it holds. -/
def isTooLong (step : NativeText) : Bool := stepLimit < step.byteSize

/-- Outside there are the directories above, and nothing else that a name could reach: the first step that
leads down from them decides. -/
def outside (rest : List NativeText) : ReadFailure :=
  match rest.find? fun s => !(isIdle s || isUp s) with
  | none => .isDirectory
  | some step => if isTooLong step then .nameTooLong else .missing

/-- Reads what the steps lead to from a place; only a directory can be left by a step. -/
def readFrom (folder : Folder) : List NativeText → List NativeText → Except ReadFailure Text
  | place, [] =>
    match folder.entry? place with
    | none => .error .missing
    | some .directory => .error .isDirectory
    | some (.file bytes) => decode bytes
  | place, step :: rest =>
    match folder.entry? place with
    | none => .error .missing
    | some (.file _) => .error .notDirectory
    | some .directory =>
      if isIdle step then readFrom folder place rest
      else if isUp step then
        if place = [] then .error (outside rest) else readFrom folder place.dropLast rest
      else if isTooLong step then .error .nameTooLong
      else readFrom folder (place ++ [step]) rest

def read (folder : Folder) : FileSource := fun name =>
  if name.holdsNul then .error .invalidName
  else if nameLimit < name.byteSize then .error .nameTooLong
  else match name.steps with
    | [.text []] => .error .missing
    | .text [] :: rest => .error (outside rest)
    | steps => folder.readFrom [] steps

end Folder
end LessonCheck
