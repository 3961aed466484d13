import LessonCheck.Text.Blank

/-!
# Texts as bytes

Positions in a text are counted in bytes of its UTF-8 encoding, and files hold such bytes. Bytes that encode no
text are still shown to people, with a replacement character wherever a character breaks off or none starts.
-/

namespace LessonCheck.Text

def byteSize (t : Text) : Nat := t.foldr (fun c n => c.utf8Size + n) 0

def ofUtf8? (bytes : ByteArray) : Option Text := (String.fromUTF8? bytes).map String.toList

/-! ## Bytes that are no text -/

/-- How many bytes a character has that starts with the byte; with some bytes none starts. -/
def width (first : UInt8) : Nat :=
  if first < 0x80 then 1
  else if 0xC2 ≤ first ∧ first ≤ 0xDF then 2
  else if 0xE0 ≤ first ∧ first ≤ 0xEF then 3
  else if 0xF0 ≤ first ∧ first ≤ 0xF4 then 4
  else 0

def isTail (b : UInt8) : Bool := 0x80 ≤ b && b ≤ 0xBF

/-- The second byte of a character has narrower bounds behind some first bytes: no character is spelled with more
bytes than it needs, surrogates are not spelled at all, and there is a last character. -/
def mayFollow (first second : UInt8) : Bool :=
  isTail second && !(first == 0xE0 && second < 0xA0 || first == 0xED && 0x9F < second ||
    first == 0xF0 && second < 0x90 || first == 0xF4 && 0x8F < second)

/-- The bytes behind a first one that go on with its character, perhaps not to the end of it. -/
def tailOf (first : UInt8) (rest : List UInt8) : List UInt8 :=
  match rest.take (width first - 1) with
  | [] => []
  | second :: more => if mayFollow first second then second :: more.takeWhile isTail else []

def replacement : Char := '\ufffd'

def ofUtf8Lossy : List UInt8 → Text
  | [] => []
  | first :: rest =>
    (ofUtf8? (first :: tailOf first rest).toByteArray).getD [replacement] ++
      ofUtf8Lossy (rest.drop (tailOf first rest).length)
termination_by bytes => bytes.length

/-- Two bytes of a character of three, and one that starts none, before a character of two. -/
example : ofUtf8Lossy [0xE2, 0x82, 0xFF, 0xC3, 0xA9] = "\ufffd\ufffdé".toList := by decide +kernel

/-! ## Sizes -/

@[simp] theorem byteSize_nil : byteSize [] = 0 := rfl

@[simp] theorem byteSize_cons (c : Char) (t : Text) : byteSize (c :: t) = c.utf8Size + byteSize t := rfl

@[simp] theorem byteSize_append (s t : Text) : byteSize (s ++ t) = byteSize s + byteSize t := by
  induction s with
  | nil => simp
  | cons c s ih => simp [ih, Nat.add_assoc]

end LessonCheck.Text
