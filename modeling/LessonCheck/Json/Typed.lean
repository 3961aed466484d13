import LessonCheck.Json.Scan

/-!
# Reading typed data

Readers for data of a known shape: strings, truth values, line numbers, arrays, and records, which may be
written as an object or as an array of the fields in order. A reader looks no further than to the first
offence, so a value of another type is reported before whatever is wrong behind it. Fields that nobody asks
for are skipped.
-/

namespace LessonCheck.Json

/-- The value at the front of the text, as far as a message shows it. -/
def found : Text → Except Error Found
  | [] => .error .truncated
  | c :: r =>
    if c = 'n' then (expectWord "null".toList (c :: r)).map fun _ => .null
    else if c = 't' then (expectWord (bool true) (c :: r)).map fun _ => .bool true
    else if c = 'f' then (expectWord (bool false) (c :: r)).map fun _ => .bool false
    else if c = '"' then (readStringTail readScalar r).map fun p => .string p.1
    else if c = '[' then .ok .sequence
    else if c = '\x7b' then .ok .map
    else if startsNumeral c then (readNumber (c :: r)).map fun p => .number p.1
    else .error .malformed

/-- Something else than expected stands at the front of the text. -/
def refuse {α : Type} (expected : Text) (t : Text) : Except Error α := do
  throw (.data (.wrongType (← found t) expected))

def readString : Reader Text := fun t =>
  match skipSpace t with
  | '"' :: r => readStringTail readScalar r
  | t => refuse "a string".toList t

def readBool : Reader Bool := fun t =>
  match skipSpace t with
  | 't' :: r => (expectWord (bool true) ('t' :: r)).map (true, ·)
  | 'f' :: r => (expectWord (bool false) ('f' :: r)).map (false, ·)
  | t => refuse "a boolean".toList t

def readNull : Reader Unit := fun t =>
  match skipSpace t with
  | 'n' :: r => (expectWord "null".toList ('n' :: r)).map ((), ·)
  | t => refuse "unit".toList t

def naturalExpected : Text := "usize".toList

def readNatural : Reader Nat := fun t =>
  match skipSpace t with
  | [] => .error .truncated
  | c :: r =>
    if startsNumeral c then do
      match ← readNumber (c :: r) with
      | (.natural n, r) => .ok (n, r)
      | (.negative n, _) => .error (.data (.wrongValue (.negative n) naturalExpected))
      | (.float b d, _) => .error (.data (.wrongType (.number (.float b d)) naturalExpected))
    else refuse naturalExpected (c :: r)

/-! ## Composites -/

/-- Inside a composite: its closing bracket with what follows it, or the next item. -/
inductive Place
  | closed (rest : Text)
  | item (rest : Text)

/-- The place after the opening bracket, or after an item, where a comma has to come first. -/
def place (closing : Char) (first : Bool) (t : Text) : Except Error Place :=
  match skipSpace t with
  | [] => .error .truncated
  | c :: r =>
    if c = closing then .ok (.closed r)
    else if first then .ok (.item (c :: r))
    else if c = ',' then
      match skipSpace r with
      | [] => .error .truncated
      | d :: r => if d = closing then .error .malformed else .ok (.item (d :: r))
    else .error .malformed

/-- The items up to the closing bracket; every item takes one step. -/
def readItems {α : Type} (read : Reader α) : Nat → Bool → Reader (List α)
  | 0, _, _ => .error .truncated
  | n + 1, first, t => do
    match ← place ']' first t with
    | .closed r => .ok ([], r)
    | .item t =>
      let (a, t) ← read t
      let (as, t) ← readItems read n false t
      .ok (a :: as, t)

def readArray {α : Type} (read : Reader α) : Reader (List α) := fun t =>
  match skipSpace t with
  | '[' :: r => readItems read (r.length + 1) true r
  | t => refuse "a sequence".toList t

/-- The name of a member, which can only be a string. -/
def readKey (hex : Reader Char) : Reader Text
  | [] => .error .truncated
  | '"' :: r => readStringTail hex r
  | _ => .error .malformed

/-- The members up to the closing bracket. `enter` takes a name and reads on behind it; it sees the state
that the members before have left, and may refuse the name before there is any value. -/
def readMembers {σ : Type} (hex : Reader Char) (enter : Text → σ → Reader σ) : Nat → Bool → σ → Reader σ
  | 0, _, _, _ => .error .truncated
  | n + 1, first, s, t => do
    match ← place '\x7d' first t with
    | .closed r => .ok (s, r)
    | .item t =>
      let (name, t) ← readKey hex t
      let (s, t) ← enter name s t
      readMembers hex enter n false s t

def readValue {α : Type} (read : Reader α) : Reader α := fun t => do read (← expect ':' t)

/-- The value of a member that may occur once. -/
def readOnce {α : Type} (name : Text) (present : Option α) (read : Reader α) : Reader α := fun t =>
  if present.isSome then .error (.data (.duplicateField name)) else readValue read t

def required {α : Type} (name : Text) : Option α → Except Error α
  | some a => .ok a
  | none => .error (.data (.missingField name))

/-- A record, after its opening bracket as an array or as an object. -/
def readRecord {α : Type} (expected : Text) (fromArray fromObject : Reader α) : Reader α := fun t =>
  match skipSpace t with
  | '[' :: r => fromArray r
  | '\x7b' :: r => fromObject r
  | t => refuse expected t

/-- The field at a position of a record that is written as an array. -/
def readField {α : Type} (expected : Text) (position : Nat) (read : Reader α) : Reader α := fun t => do
  match ← place ']' (position = 0) t with
  | .item t => read t
  | .closed _ => .error (.data (.wrongLength position expected))

/-! ## Skipping -/

/-- Skips a value of any shape; every level of nesting takes one step. -/
def skipWithin : Nat → Reader Unit
  | 0, _ => .error .truncated
  | n + 1, t =>
    match skipSpace t with
    | [] => .error .truncated
    | c :: r =>
      if c = 'n' then (expectWord "null".toList (c :: r)).map ((), ·)
      else if c = 't' then (expectWord (bool true) (c :: r)).map ((), ·)
      else if c = 'f' then (expectWord (bool false) (c :: r)).map ((), ·)
      else if c = '"' then (readStringTail readAnyUnit r).map fun p => ((), p.2)
      else if c = '[' then (readItems (skipWithin n) (r.length + 1) true r).map fun p => ((), p.2)
      else if c = '\x7b' then
        readMembers readAnyUnit (fun _ _ => readValue (skipWithin n)) (r.length + 1) true () r
      else if startsNumeral c then (readNumeral .malformed (c :: r)).map fun p => ((), p.2)
      else .error .malformed

def skipValue : Reader Unit := fun t => skipWithin (t.length + 1) t

def readDocument {α : Type} (read : Reader α) (t : Text) : Except Error α := do
  let (a, r) ← read t
  if skipSpace r = [] then .ok a else .error .malformed

end LessonCheck.Json
