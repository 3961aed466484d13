/-!
# Open blocks

The blocks opened and not yet closed, innermost first. The body of a loop whose header was rejected is
unbound: its variable was never declared. The stack counts its unbound blocks, so that asking whether the
current place lies in one needs no search.
-/

namespace LessonCheck

inductive BlockKind
  | when | otherwise | loop | other
  deriving DecidableEq, Repr

structure Block where
  line : Nat
  kind : BlockKind
  unbound : Bool
  deriving DecidableEq, Repr

structure BlockStack where
  blocks : List Block
  unbound : Nat
  deriving DecidableEq, Repr

namespace BlockStack

def empty : BlockStack := ⟨[], 0⟩

def push (s : BlockStack) (b : Block) : BlockStack :=
  ⟨b :: s.blocks, if b.unbound then s.unbound + 1 else s.unbound⟩

def top? (s : BlockStack) : Option Block := s.blocks.head?

/-- Closes the innermost block; with nothing open nothing changes. -/
def pop (s : BlockStack) : BlockStack :=
  match s.blocks with
  | [] => s
  | b :: bs => ⟨bs, if b.unbound then s.unbound - 1 else s.unbound⟩

def depth (s : BlockStack) : Nat := s.blocks.length

def inUnbound (s : BlockStack) : Bool := 0 < s.unbound

def opened (s : BlockStack) : List Block := s.blocks.reverse

@[simp] theorem top?_push (s : BlockStack) (b : Block) : (s.push b).top? = some b := rfl

@[simp] theorem pop_push (s : BlockStack) (b : Block) : (s.push b).pop = s := by
  cases h : b.unbound <;> simp [push, pop, h]

end BlockStack
end LessonCheck
