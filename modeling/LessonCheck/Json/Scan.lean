import LessonCheck.Json.Mismatch
import LessonCheck.Text.Cut
import LessonCheck.Text.Utf8

/-!
# Scanning a JSON text

The tokens of JSON, read from the front of a text. Every reader returns what it read and the rest, or the
first thing that is wrong: a text that ends inside a value is truncated, any other offence is malformed.
Strings come in two readings. The exact one gives the characters meant and wants surrogate escapes in pairs;
the loose one only finds the end of the string.
-/

namespace LessonCheck.Json

abbrev Reader (α : Type) := Text → Except Error (α × Text)

def isSpace (c : Char) : Bool := c = ' ' || c = '\n' || c = '\t' || c = '\r'

def skipSpace (t : Text) : Text := t.dropWhile isSpace

/-- What follows a fixed word, compared character by character. -/
def expectWord : Text → Text → Except Error Text
  | [], t => .ok t
  | _ :: _, [] => .error .truncated
  | a :: w, c :: t => if a = c then expectWord w t else .error .malformed

/-- What follows the next token, which has to be the character. -/
def expect (c : Char) (t : Text) : Except Error Text := expectWord [c] (skipSpace t)

/-! ## Strings -/

def hexDigit? (c : Char) : Option Nat :=
  if c.isDigit then some (c.toNat - '0'.toNat)
  else if 'a' ≤ c ∧ c ≤ 'f' then some (c.toNat - 'a'.toNat + 10)
  else if 'A' ≤ c ∧ c ≤ 'F' then some (c.toNat - 'A'.toNat + 10)
  else none

/-- Four hexadecimal digits. A text of less than four bytes ends inside of them, whatever it holds. -/
def readUnit : Reader Nat
  | a :: b :: c :: d :: r =>
    match [a, b, c, d].mapM hexDigit? with
    | some ds => .ok (ds.foldl (16 * · + ·) 0, r)
    | none => .error .malformed
  | t => .error (if Text.byteSize t < 4 then .truncated else .malformed)

def isHighSurrogate (n : Nat) : Bool := 0xD800 ≤ n && n < 0xDC00

def isLowSurrogate (n : Nat) : Bool := 0xDC00 ≤ n && n < 0xE000

def readLowSurrogate (t : Text) : Except Error (Nat × Text) := do
  let (n, r) ← readUnit (← expectWord ['\\', 'u'] t)
  if isLowSurrogate n then .ok (n, r) else .error .malformed

/-- The character of a hexadecimal escape, or of two that form a surrogate pair. -/
def readScalar : Reader Char := fun t => do
  let (n, r) ← readUnit t
  if isLowSurrogate n then .error .malformed
  else if isHighSurrogate n then
    let (m, r) ← readLowSurrogate r
    .ok (Char.ofNat (0x10000 + (n - 0xD800) * 0x400 + (m - 0xDC00)), r)
  else .ok (Char.ofNat n, r)

/-- A hexadecimal escape whose character does not matter. -/
def readAnyUnit : Reader Char := fun t => do
  let (_, r) ← readUnit t
  .ok ('\ufffd', r)

def shortEscape? : Char → Option Char
  | '"' => some '"'
  | '\\' => some '\\'
  | '/' => some '/'
  | 'b' => some '\x08'
  | 'f' => some '\x0c'
  | 'n' => some '\n'
  | 'r' => some '\r'
  | 't' => some '\t'
  | _ => none

def readEscape (hex : Reader Char) : Reader Char
  | [] => .error .truncated
  | c :: r =>
    if c = 'u' then hex r
    else match shortEscape? c with
      | some d => .ok (d, r)
      | none => .error .malformed

/-- The characters up to the closing quote; every character takes one step. -/
def readCharacters (hex : Reader Char) : Nat → Reader Text
  | 0, _ | _ + 1, [] => .error .truncated
  | n + 1, c :: r =>
    if c = '"' then .ok ([], r)
    else if c = '\\' then do
      let (d, r) ← readEscape hex r
      let (s, r) ← readCharacters hex n r
      .ok (d :: s, r)
    else if c.toNat < 0x20 then .error .malformed
    else do
      let (s, r) ← readCharacters hex n r
      .ok (c :: s, r)

def readStringTail (hex : Reader Char) : Reader Text := fun t => readCharacters hex (t.length + 1) t

/-! ## Numerals -/

/-- A nonempty run of digits; `gap` says what a text is that ends where the first digit should stand. -/
def readDigits (gap : Error) : Reader Text := fun t =>
  match Text.run Char.isDigit t with
  | ([], []) => .error gap
  | ([], _ :: _) => .error .malformed
  | (ds, r) => .ok (ds, r)

def readWhole (gap : Error) : Reader Text := fun t => do
  let (ds, r) ← readDigits gap t
  if ds.head? = some '0' ∧ 1 < ds.length then .error .malformed else .ok (ds, r)

def readFraction (gap : Error) : Reader Text
  | '.' :: r => readDigits gap r
  | t => .ok ([], t)

def readExponent (gap : Error) : Reader (Option Exponent)
  | [] => .ok (none, [])
  | c :: r =>
    if c = 'e' ∨ c = 'E' then do
      let (negative, r) := match r with
        | '-' :: r => (true, r)
        | '+' :: r => (false, r)
        | r => (false, r)
      let (ds, r) ← readDigits gap r
      .ok (some ⟨negative, ds⟩, r)
    else .ok (none, c :: r)

def readNumeral (gap : Error) : Reader Numeral := fun t => do
  let (negative, t) := match t with
    | '-' :: r => (true, r)
    | t => (false, t)
  let (whole, t) ← readWhole gap t
  let (fraction, t) ← readFraction gap t
  let (exponent, t) ← readExponent gap t
  .ok (⟨negative, whole, fraction, exponent⟩, t)

def startsNumeral (c : Char) : Bool := c = '-' || c.isDigit

def readNumber : Reader Number := fun t => do
  let (n, r) ← readNumeral .truncated t
  match n.value? with
  | some v => .ok (v, r)
  | none => .error .malformed

end LessonCheck.Json
