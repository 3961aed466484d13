import LessonCheck.Text.Line
import LessonCheck.Text.Numeral

/-!
# Writing JSON

Strings, arrays and objects as text. Quotes, backslashes and control characters are escaped, the latter in
short form where one exists; every other character stands for itself. A layout says how a composite is
spread over lines: compactly on one, or indented by two spaces a level. Members are written at the next
deeper layout before they are put together. A value that cannot be written breaks the text off, behind all that
stands in front of it.
-/

namespace LessonCheck.Json

def escape (c : Char) : Text :=
  match c with
  | '"' => ['\\', '"']
  | '\\' => ['\\', '\\']
  | '\x08' => ['\\', 'b']
  | '\x0c' => ['\\', 'f']
  | '\n' => ['\\', 'n']
  | '\r' => ['\\', 'r']
  | '\t' => ['\\', 't']
  | _ =>
    if c.toNat < 0x20 then
      ['\\', 'u', '0', '0', Nat.digitChar (c.toNat / 16), Nat.digitChar (c.toNat % 16)]
    else [c]

def string (t : Text) : Text := '"' :: (t.flatMap escape ++ ['"'])

def bool : Bool → Text
  | true => "true".toList
  | false => "false".toList

def number (n : Nat) : Text := Text.ofNat n

inductive Layout
  | compact
  | indented (level : Nat)
  deriving DecidableEq, Repr

namespace Layout

def deeper : Layout → Layout
  | compact => compact
  | indented level => indented (level + 1)

/-- What stands between two members besides the comma, and inside the brackets. -/
def gap : Layout → Text
  | compact => []
  | indented level => '\n' :: List.replicate (2 * level) ' '

def colon : Layout → Text
  | compact => [':']
  | indented _ => [':', ' ']

/-- The items between brackets; none at all are written without a break. -/
def enclose (l : Layout) (opening closing : Char) (items : List Text) : Text :=
  if items = [] then [opening, closing]
  else opening :: (l.deeper.gap ++ (',' :: l.deeper.gap).intercalate items ++ l.gap ++ [closing])

def array (l : Layout) (items : List Text) : Text := l.enclose '[' ']' items

def object (l : Layout) (members : List (Text × Text)) : Text :=
  l.enclose '\x7b' '\x7d' (members.map fun m => string m.1 ++ l.colon ++ m.2)

end Layout

/-! ## Values that cannot be written -/

/-- What has been written, and whether it has come to its end. -/
structure Written where
  output : Text
  isWhole : Bool
  deriving DecidableEq, Repr

namespace Written

def whole (t : Text) : Written := ⟨t, true⟩

def brokenOff (t : Text) : Written := ⟨t, false⟩

/-- One part after the other, up to the first that breaks off. -/
def concat : List Written → Written
  | [] => whole []
  | w :: ws => if w.isWhole then ⟨w.output ++ (concat ws).output, (concat ws).isWhole⟩ else w

end Written

namespace Layout

/-- The items, each behind the bracket or the comma that opens its place. -/
def places (l : Layout) (opening : Char) : List Written → List Written
  | [] => []
  | item :: items => .whole (opening :: l.deeper.gap) :: item :: l.places ',' items

/-- An array as it is written item by item. -/
def writeArray (l : Layout) (items : List Written) : Written :=
  if items = [] then .whole (l.array [])
  else .concat (l.places '[' items ++ [.whole (l.gap ++ [']'])])

/-- An object that breaks off behind the name of its first member. -/
def brokenObject (l : Layout) (name : Text) : Written :=
  .brokenOff ('\x7b' :: (l.deeper.gap ++ string name ++ l.colon))

end Layout
end LessonCheck.Json
