import LessonCheck.ValueType

/-!
# Symbol tables

The variables of a program with their types, in the order of their names. There is one flat table: the
language has no scopes. The main lemma says what binding a name does to look-up; the order and uniqueness
of names are part of the type.
-/

namespace LessonCheck

abbrev Entries := List (Text × ValueType)

structure SymbolTable where
  entries : Entries
  sorted : entries.Pairwise fun a b => a.1 < b.1
  deriving DecidableEq

inductive Declared
  | inserted | reserved | duplicate
  deriving DecidableEq, Repr

namespace Entries

def lookup (name : Text) : Entries → Option ValueType
  | [] => none
  | (key, type) :: es => if name = key then some type else lookup name es

/-- Puts the pair in its place, or in the place of the pair with the same name. -/
def insert (name : Text) (type : ValueType) : Entries → Entries
  | [] => [(name, type)]
  | (key, old) :: es =>
    if name = key then (name, type) :: es
    else if name < key then (name, type) :: (key, old) :: es
    else (key, old) :: insert name type es

theorem eq_or_mem_of_mem_insert {name : Text} {type : ValueType} {es : Entries}
    {e : Text × ValueType} (h : e ∈ insert name type es) : e.1 = name ∨ e ∈ es := by
  induction es with
  | nil =>
    obtain rfl := List.mem_singleton.1 h
    exact .inl rfl
  | cons e' es ih =>
    obtain ⟨key, old⟩ := e'
    unfold insert at h
    split at h
    · rcases List.mem_cons.1 h with rfl | h
      · exact .inl rfl
      · exact .inr (List.mem_cons_of_mem _ h)
    · split at h
      · rcases List.mem_cons.1 h with rfl | h
        · exact .inl rfl
        · exact .inr h
      · rcases List.mem_cons.1 h with rfl | h
        · exact .inr List.mem_cons_self
        · exact (ih h).imp_right (List.mem_cons_of_mem _)

theorem pairwise_insert {name : Text} {type : ValueType} {es : Entries}
    (h : es.Pairwise fun a b => a.1 < b.1) : (insert name type es).Pairwise fun a b => a.1 < b.1 := by
  induction es with
  | nil => exact List.pairwise_singleton _ _
  | cons e es ih =>
    obtain ⟨key, old⟩ := e
    obtain ⟨hhead, htail⟩ := List.pairwise_cons.1 h
    unfold insert
    split
    · next heq => exact List.pairwise_cons.2 ⟨fun e he => heq ▸ hhead e he, htail⟩
    · next hne =>
      split
      · next hlt =>
        refine List.pairwise_cons.2 ⟨fun e he => ?_, h⟩
        rcases List.mem_cons.1 he with rfl | he
        · exact hlt
        · exact List.lt_trans hlt (hhead e he)
      · next hnlt =>
        refine List.pairwise_cons.2 ⟨fun e he => ?_, ih htail⟩
        rcases eq_or_mem_of_mem_insert he with heq | he
        · rcases Std.lt_trichotomy key name with hlt | rfl | hlt
          · exact heq ▸ hlt
          · exact absurd rfl hne
          · exact absurd hlt hnlt
        · exact hhead e he

theorem lookup_insert (name query : Text) (type : ValueType) (es : Entries) :
    lookup query (insert name type es) = if query = name then some type else lookup query es := by
  induction es with
  | nil => simp [insert, lookup]
  | cons e es ih =>
    obtain ⟨key, old⟩ := e
    unfold insert
    split
    · next heq =>
      subst heq
      by_cases hq : query = name <;> simp [lookup, hq]
    · next hne =>
      split
      · by_cases hq : query = name <;> simp [lookup, hq]
      · by_cases hq : query = key
        · subst hq
          simp [lookup, Ne.symm hne]
        · simp [lookup, hq, ih]

end Entries

namespace SymbolTable

def empty : SymbolTable := ⟨[], .nil⟩

/-- Binds a name whatever it was bound to before; only accepted loop headers do. -/
def affirm (s : SymbolTable) (name : Text) (type : ValueType) : SymbolTable :=
  ⟨Entries.insert name type s.entries, Entries.pairwise_insert s.sorted⟩

def get? (s : SymbolTable) (name : Text) : Option ValueType := Entries.lookup name s.entries

def contains (s : SymbolTable) (name : Text) : Bool := (s.get? name).isSome

def isType (s : SymbolTable) (name : Text) (type : ValueType) : Bool := s.get? name == some type

def size (s : SymbolTable) : Nat := s.entries.length

def isEmpty (s : SymbolTable) : Bool := s.entries.isEmpty

/-- What declaring the name comes to: reserved words and bound names are refused. -/
def judge (s : SymbolTable) (name : Text) : Declared :=
  if Word.isReserved name then .reserved else if s.contains name then .duplicate else .inserted

def declare (s : SymbolTable) (name : Text) (type : ValueType) : SymbolTable :=
  match s.judge name with
  | .inserted => s.affirm name type
  | .reserved | .duplicate => s

@[simp] theorem get?_empty (name : Text) : empty.get? name = none := rfl

@[simp] theorem get?_affirm (s : SymbolTable) (name query : Text) (type : ValueType) :
    (s.affirm name type).get? query = if query = name then some type else s.get? query :=
  Entries.lookup_insert name query type s.entries

end SymbolTable
end LessonCheck
