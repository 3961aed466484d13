import LessonCheck.Proofs.Program.Tree

/-!
# Typed programs

The types of the variables before and after a program. There is one flat environment: a block sees what was
declared before it and leaves what it declares behind. A loop makes its counter an integer, whatever it was.
-/

namespace LessonCheck

abbrev Env := Text → Option ValueType

namespace Env

def empty : Env := fun _ => none

def bind (Γ : Env) (x : Program.Name) (type : ValueType) : Env := fun name =>
  if name = x.text then some type else Γ name

end Env

namespace Program

inductive Argument.HasType (Γ : Env) : Argument → ValueType → Prop
  | quoted (b : Body) : HasType Γ (.quoted b) .string
  | named {x : Name} {type : ValueType} (hName : Γ x.text = some type) : HasType Γ (.named x) type

/-- The names of a formula are integers; any other right-hand side is a string. -/
inductive RightHandSide.HasType (Γ : Env) : RightHandSide → ValueType → Prop
  | formula {e : Formula}
      (hNames : ∀ name, Arithmetic.Token.ident name ∈ e.pieces.map Prod.snd → Γ name = some .integer) :
      HasType Γ (.formula e) .integer
  | argument {a : Argument} (hArgument : a.HasType Γ .string) : HasType Γ (.argument a) .string

inductive Comparand.HasType (Γ : Env) : Comparand → ValueType → Prop
  | numeral (n : Numeral) : HasType Γ (.numeral n) .integer
  | argument {a : Argument} {type : ValueType} (hArgument : a.HasType Γ type) : HasType Γ (.argument a) type

/-- Both sides of a condition are of one type, and strings are not ordered. -/
inductive Condition.WellTyped (Γ : Env) : Condition → Prop
  | mk {c : Condition} {type : ValueType} (hSubject : Γ c.subject.text = some type)
      (hValue : c.value.HasType Γ type) (hRelation : type = .string → c.relation.isOrdering = false) :
      WellTyped Γ c

inductive Command.Types : Env → Command → Env → Prop
  | declare {Γ : Env} {x : Name} {type : ValueType} {value : Option Literal} (hFresh : Γ x.text = none)
      (hValue : ∀ l ∈ value, l.type = type) : Types Γ (.declare x type value) (Γ.bind x type)
  | assign {Γ : Env} {target : Name} {value : RightHandSide} {type : ValueType}
      (hTarget : Γ target.text = some type) (hValue : value.HasType Γ type) : Types Γ (.assign target value) Γ
  | io {Γ : Env} {kind : IoKind} {a : Argument} {type : ValueType} (hArgument : a.HasType Γ type) :
      Types Γ (.io kind a) Γ

inductive Types : Env → Program → Env → Prop
  | done {Γ : Env} : Types Γ .done Γ
  | command {Γ Δ Θ : Env} {c : Command} {rest : Program} (hCommand : c.Types Γ Δ) (hRest : Types Δ rest Θ) :
      Types Γ (.command c rest) Θ
  | branch {Γ Δ Θ : Env} {c : Condition} {body rest : Program} (hCondition : c.WellTyped Γ)
      (hBody : Types Γ body Δ) (hRest : Types Δ rest Θ) : Types Γ (.branch c body rest) Θ
  | choice {Γ Δ Θ Λ : Env} {c : Condition} {body alternative rest : Program} (hCondition : c.WellTyped Γ)
      (hBody : Types Γ body Δ) (hAlternative : Types Δ alternative Θ) (hRest : Types Θ rest Λ) :
      Types Γ (.choice c body alternative rest) Λ
  | loop {Γ Δ Θ : Env} {h : Counting} {body rest : Program} (hBody : Types (Γ.bind h.counter .integer) body Δ)
      (hRest : Types Δ rest Θ) : Types Γ (.loop h body rest) Θ

end Program
end LessonCheck
