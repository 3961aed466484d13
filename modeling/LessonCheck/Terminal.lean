import LessonCheck.Text.Numeral

/-!
# Terminals

How a session is shown, which is for the environment to say: neither the input nor the output is a screen, so
that there are prompts only where a terminal cannot edit lines, and colours only where they are asked for.
-/

namespace LessonCheck

abbrev Environment := Text → Option Text

structure Terminal where
  hasPrompts : Bool
  hasColours : Bool
  deriving DecidableEq, Repr

inductive Colour
  | red
  | green
  deriving DecidableEq, Repr

namespace Terminal

/-- The kinds of terminals that cannot edit lines, in lower case. -/
def plainKinds : List Text := ["dumb".toList, "cons25".toList, "emacs".toList]

def hasPlainKind (environment : Environment) : Bool :=
  (environment "TERM".toList).any fun kind => kind.map Char.toLower ∈ plainKinds

/-- A level asks for colours unless it is off or zero, also where it is no level at all. -/
def isColourLevel (level : Text) : Bool :=
  let digits := if level.head? = some '+' then level.tail else level
  level ≠ "false".toList && Text.nat? digits ≠ some 0

/-- The second variable counts only where the first is not set. -/
def asksForColours (environment : Environment) : Bool :=
  match environment "FORCE_COLOR".toList, environment "CLICOLOR_FORCE".toList with
  | some level, _ => isColourLevel level
  | none, some choice => choice ≠ ['0']
  | none, none => false

def ofEnvironment (environment : Environment) : Terminal :=
  ⟨hasPlainKind environment, asksForColours environment⟩

def variableNames : List Text := ["TERM".toList, "FORCE_COLOR".toList, "CLICOLOR_FORCE".toList]

def code : Colour → Text
  | .red => "31".toList
  | .green => "32".toList

def sequence (code : Text) : Text := '\x1b' :: '[' :: (code ++ ['m'])

/-- The text in the colour, and the usual colour behind it, where there are colours. -/
def painted (terminal : Terminal) (colour : Colour) (t : Text) : Text :=
  if terminal.hasColours then sequence (code colour) ++ t ++ sequence "39".toList else t

def prompted (terminal : Terminal) (t : Text) : Text := if terminal.hasPrompts then t else []

end Terminal
end LessonCheck
