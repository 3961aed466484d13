import LessonCheck.Proofs.Arithmetic.Reach

/-!
# Reading without a limit

A run of the grammar with nothing to stop its recursion, as a relation: which part of the grammar is read at which
list, how many parentheses are open at once at most, and what the run comes to. Every list has exactly one run. A
reader with a limit comes to the same if the limit is at least that number, and complains about the depth if it is
less. The number is never more than the depth that the scan finds, so behind the guard no limit makes a
difference.
-/

namespace LessonCheck.Arithmetic

/-- The two kinds of chains: factors between the operators of a term, summands between those of an expression. -/
inductive Link
  | factor | summand
  deriving DecidableEq, Repr

/-- What a run is about; the operands behind the first one of a chain are read by a loop of their own. -/
inductive Part
  | atom | unary | chain (link : Link) | more (link : Link)
  deriving DecidableEq, Repr

namespace Link

def isOperator : Link → Token → Bool
  | factor => isFactorOperator
  | summand => isTermOperator

def operand : Link → Part
  | factor => .unary
  | summand => .chain .factor

end Link

def Part.expr : Part := .chain .summand

/-- What is left behind a closing parenthesis. -/
def closing : Reader
  | .rightParen :: rest => .ok rest
  | rest => .error (stuck rest)

def startsAtom : Token → Bool
  | .int _ | .ident _ | .leftParen => true
  | _ => false

/-- The part, read at the list, comes to the result with at most the number of parentheses open at once. -/
inductive Runs : Part → List Token → Nat → Except Error (List Token) → Prop
  | int (digits : Text) (ts : List Token) : Runs .atom (.int digits :: ts) 0 (.ok ts)
  | ident (name : Text) (ts : List Token) : Runs .atom (.ident name :: ts) 0 (.ok ts)
  | group {ts : List Token} {d : Nat} {result : Except Error (List Token)} (inner : Runs .expr ts d result) :
      Runs .atom (.leftParen :: ts) (d + 1) (result.bind closing)
  | misfit {ts : List Token} (hStart : ∀ t ∈ ts.head?, startsAtom t = false) : Runs .atom ts 0 (.error (stuck ts))
  | sign {t : Token} {ts : List Token} {d : Nat} {result : Except Error (List Token)}
      (hSign : isTermOperator t = true) (operand : Runs .unary ts d result) : Runs .unary (t :: ts) d result
  | unsigned {ts : List Token} {d : Nat} {result : Except Error (List Token)}
      (hHead : ∀ t ∈ ts.head?, isTermOperator t = false) (operand : Runs .atom ts d result) : Runs .unary ts d result
  | chain {link : Link} {ts rest : List Token} {d e : Nat} {result : Except Error (List Token)}
      (first : Runs link.operand ts d (.ok rest)) (more : Runs (.more link) rest e result) :
      Runs (.chain link) ts (max d e) result
  | chainError {link : Link} {ts : List Token} {d : Nat} {error : Error}
      (first : Runs link.operand ts d (.error error)) : Runs (.chain link) ts d (.error error)
  | next {link : Link} {t : Token} {ts rest : List Token} {d e : Nat} {result : Except Error (List Token)}
      (hOperator : link.isOperator t = true) (operand : Runs link.operand ts d (.ok rest))
      (more : Runs (.more link) rest e result) : Runs (.more link) (t :: ts) (max d e) result
  | nextError {link : Link} {t : Token} {ts : List Token} {d : Nat} {error : Error}
      (hOperator : link.isOperator t = true) (operand : Runs link.operand ts d (.error error)) :
      Runs (.more link) (t :: ts) d (.error error)
  | stop {link : Link} {ts : List Token} (hHead : ∀ t ∈ ts.head?, link.isOperator t = false) :
      Runs (.more link) ts 0 (.ok ts)

/-! ## The readers with a limit -/

def Link.reader (n : Nat) : Link → Reader
  | factor => Arithmetic.unary (groupReader n)
  | summand => term (groupReader n)

/-- The reader of the part that opens at most `n` parentheses at once. -/
def Part.reader (n : Nat) : Part → Reader
  | atom => Arithmetic.atom (groupReader n)
  | unary => Arithmetic.unary (groupReader n)
  | chain link => Arithmetic.chain link.isOperator (link.reader n)
  | more link => fun ts => operands link.isOperator (link.reader n) ts.length ts

theorem Part.reader_expr (n : Nat) : Part.expr.reader n = Arithmetic.expr n := (expr_eq n).symm

theorem Link.reader_operand (n : Nat) (link : Link) : link.operand.reader n = link.reader n := by
  cases link <;> rfl

theorem Part.shortens_reader (n : Nat) (p : Part) : Shortens (p.reader n) := by
  have hLink (link : Link) : Shortens (link.reader n) := by
    cases link with
    | factor => exact shortens_unary (shortens_groupReader n)
    | summand => exact shortens_term (shortens_groupReader n)
  cases p with
  | atom => exact shortens_atom (shortens_groupReader n)
  | unary => exact shortens_unary (shortens_groupReader n)
  | chain link => exact shortens_chain (hLink link)
  | more link => exact fun ts => shortens_operands (hLink link) ts.length ts

theorem stuck_ne_tooDeep (ts : List Token) : stuck ts ≠ .tooDeep := by
  cases ts <;> nofun

theorem closing_ne_tooDeep (ts : List Token) : closing ts ≠ .error .tooDeep := by
  unfold closing
  split
  · nofun
  · exact fun hDeep => stuck_ne_tooDeep ts (Except.error.inj hDeep)

theorem atom_leftParen (group : Reader) (ts : List Token) :
    atom group (.leftParen :: ts) = (group ts).bind closing := by
  rw [atom]
  cases group ts with
  | error e => rfl
  | ok rest =>
    cases rest with
    | nil => rfl
    | cons t rest => cases t <;> rfl

theorem atom_of_misfit {ts : List Token} (h : ∀ t ∈ ts.head?, startsAtom t = false) (group : Reader) :
    atom group ts = .error (stuck ts) := by
  cases ts with
  | nil => rfl
  | cons t ts =>
    have ht : startsAtom t = false := h t rfl
    cases t with
    | int | ident | leftParen => cases ht
    | str | plus | minus | star | slash | rightParen => rfl

theorem unary_of_sign {t : Token} (h : isTermOperator t = true) (group : Reader) (ts : List Token) :
    unary group (t :: ts) = unary group ts := by
  rcases isTermOperator_iff.mp h with rfl | rfl <;> rw [unary]

theorem unary_of_unsigned {ts : List Token} (h : ∀ t ∈ ts.head?, isTermOperator t = false) (group : Reader) :
    unary group ts = atom group ts := by
  cases ts with
  | nil => rfl
  | cons t ts =>
    have ht : isTermOperator t = false := h t rfl
    cases t with
    | plus | minus => cases ht
    | int | ident | str | star | slash | leftParen | rightParen => rfl

/-- What a reader with the limit comes to when so many parentheses have to be open at once for the result. -/
def within (n d : Nat) (result : Except Error (List Token)) : Except Error (List Token) :=
  if d ≤ n then result else .error .tooDeep

theorem within_zero (n : Nat) (result : Except Error (List Token)) : within n 0 result = result :=
  if_pos (Nat.zero_le n)

theorem within_succ (n d : Nat) (result : Except Error (List Token)) :
    within (n + 1) (d + 1) result = within n d result := by
  simp only [within, Nat.add_le_add_iff_right]

theorem within_bind (n d : Nat) (result : Except Error (List Token)) (f : Reader) :
    (within n d result).bind f = within n d (result.bind f) := by
  unfold within
  split <;> rfl

theorem within_ok_bind {n d e : Nat} {rest : List Token} {result : Except Error (List Token)} {f : Reader}
    (h : f rest = within n e result) : (within n d (.ok rest)).bind f = within n (max d e) result := by
  rw [within_bind, Except.bind, h]
  by_cases hd : d ≤ n
  · simp only [within, Nat.max_le, hd, true_and, if_true]
  · simp only [within, Nat.max_le, hd, false_and, if_false]

namespace Runs

variable {p : Part} {link : Link} {t : Token} {ts rest : List Token} {d n : Nat} {result : Except Error (List Token)}

theorem reader_more_cons (hOperator : link.isOperator t = true) (n : Nat) (ts : List Token) :
    (Part.more link).reader n (t :: ts) = (link.operand.reader n ts).bind ((Part.more link).reader n) := by
  have hShortens : Shortens (link.reader n) := by
    rw [← link.reader_operand]
    exact link.operand.shortens_reader n
  have hStep : (Part.more link).reader n (t :: ts) =
      (link.reader n ts).bind (operands link.isOperator (link.reader n) ts.length) := if_pos hOperator
  rw [link.reader_operand, hStep]
  cases hRead : link.reader n ts with
  | error e => rfl
  | ok rest => exact operands_fuel hShortens (hShortens _ _ hRead) (Nat.le_refl _)

theorem reader_chain (link : Link) (n : Nat) (ts : List Token) :
    (Part.chain link).reader n ts = (link.operand.reader n ts).bind ((Part.more link).reader n) := by
  rw [link.reader_operand]
  rfl

/-- A reader with a limit comes to what the run comes to, within that limit. -/
theorem reader_eq (h : Runs p ts d result) (n : Nat) : p.reader n ts = within n d result := by
  -- `n` varies: the reader inside a parenthesis has one level less than the reader around it.
  induction h generalizing n with
  | int | ident => exact (within_zero n _).symm
  | @group ts d result inner ih =>
    rw [Part.reader, atom_leftParen]
    cases n with
    | zero => rfl
    | succ n =>
      have hInner := ih n
      rw [Part.reader_expr] at hInner
      rw [groupReader, hInner, within_bind, within_succ]
  | misfit hStart => exact (atom_of_misfit hStart _).trans (within_zero n _).symm
  | sign hSign operand ih =>
    rw [Part.reader, unary_of_sign hSign]
    exact ih n
  | unsigned hHead operand ih =>
    rw [Part.reader, unary_of_unsigned hHead]
    exact ih n
  | chain first more ihFirst ihMore => rw [reader_chain, ihFirst, within_ok_bind (ihMore n)]
  | chainError first ih =>
    rw [reader_chain, ih, within_bind]
    rfl
  | next hOperator operand more ihOperand ihMore =>
    rw [reader_more_cons hOperator, ihOperand, within_ok_bind (ihMore n)]
  | nextError hOperator operand ih =>
    rw [reader_more_cons hOperator, ih, within_bind]
    rfl
  | stop hHead => exact (operands_stop hHead).trans (within_zero n _).symm

theorem reader_self (h : Runs p ts d result) : p.reader d ts = result :=
  (h.reader_eq d).trans (if_pos (Nat.le_refl d))

theorem reader_eq_tooDeep (h : Runs p ts d result) (hn : n < d) : p.reader n ts = .error .tooDeep :=
  (h.reader_eq n).trans (if_neg (Nat.not_le.mpr hn))

theorem result_ne (h : Runs p ts d result) : result ≠ .error .tooDeep := by
  induction h with
  | int | ident | stop => nofun
  | @group ts d result inner ih =>
    cases result with
    | error e => exact ih
    | ok rest => exact closing_ne_tooDeep rest
  | misfit => exact fun hDeep => stuck_ne_tooDeep _ (Except.error.inj hDeep)
  | sign _ _ ih | unsigned _ _ ih | chain _ _ _ ih | chainError _ ih | next _ _ _ _ ih | nextError _ _ ih => exact ih

theorem unique {d' : Nat} {result' : Except Error (List Token)} (h : Runs p ts d result) (h' : Runs p ts d' result') :
    d' = d ∧ result' = result := by
  have hLower {d d' : Nat} {result result' : Except Error (List Token)} (h : Runs p ts d result)
      (h' : Runs p ts d' result') : ¬d < d' := by
    intro hd
    exact h.result_ne (h.reader_self.symm.trans (h'.reader_eq_tooDeep hd))
  obtain rfl := Nat.le_antisymm (Nat.not_lt.mp (hLower h h')) (Nat.not_lt.mp (hLower h' h))
  exact ⟨rfl, h'.reader_self.symm.trans h.reader_self⟩

theorem shortens (h : Runs p ts d (.ok rest)) : rest.length ≤ ts.length :=
  p.shortens_reader d ts rest h.reader_self

end Runs

/-! ## Every list has a run -/

theorem exists_runs_chain {link : Link} {ts : List Token} (hOperand : ∃ d result, Runs link.operand ts d result)
    (hMore : ∀ rest, rest.length ≤ ts.length → ∃ d result, Runs (.more link) rest d result) :
    ∃ d result, Runs (.chain link) ts d result := by
  obtain ⟨d, result, hFirst⟩ := hOperand
  cases result with
  | error e => exact ⟨d, _, .chainError hFirst⟩
  | ok rest =>
    obtain ⟨e, result, hRest⟩ := hMore rest hFirst.shortens
    exact ⟨_, result, .chain hFirst hRest⟩

/-- The recursion ends: each parenthesis and each operator takes a token off the list. -/
theorem exists_runs (p : Part) (ts : List Token) : ∃ d result, Runs p ts d result := by
  induction hLength : ts.length using Nat.strongRecOn generalizing p ts with
  | ind n ih =>
    subst hLength
    have hShorter (p : Part) {us : List Token} (hus : us.length < ts.length) : ∃ d result, Runs p us d result :=
      ih us.length hus p us rfl
    have hAtom : ∃ d result, Runs .atom ts d result := by
      cases ts with
      | nil => exact ⟨0, _, .misfit (by simp)⟩
      | cons t ts =>
        cases t with
        | int digits => exact ⟨0, _, .int digits ts⟩
        | ident name => exact ⟨0, _, .ident name ts⟩
        | leftParen =>
          obtain ⟨d, result, hInner⟩ := hShorter .expr (Nat.lt_succ_self ts.length)
          exact ⟨d + 1, _, .group hInner⟩
        | str | plus | minus | star | slash | rightParen => exact ⟨0, _, .misfit (by simp [startsAtom])⟩
    have hUnary : ∃ d result, Runs .unary ts d result := by
      by_cases hHead : ∀ t ∈ ts.head?, isTermOperator t = false
      · obtain ⟨d, result, hOperand⟩ := hAtom
        exact ⟨d, result, .unsigned hHead hOperand⟩
      · cases ts with
        | nil => exact absurd (by simp) hHead
        | cons t ts =>
          obtain ⟨d, result, hOperand⟩ := hShorter .unary (Nat.lt_succ_self ts.length)
          exact ⟨d, result, .sign (by simpa using hHead) hOperand⟩
    have hMore (link : Link) (us : List Token) (hus : us.length ≤ ts.length) :
        ∃ d result, Runs (.more link) us d result := by
      by_cases hHead : ∀ t ∈ us.head?, link.isOperator t = false
      · exact ⟨0, _, .stop hHead⟩
      · cases us with
        | nil => exact absurd (by simp) hHead
        | cons t us =>
          have hOperator : link.isOperator t = true := by simpa using hHead
          obtain ⟨d, result, hOperand⟩ := hShorter link.operand hus
          cases result with
          | error e => exact ⟨d, _, .nextError hOperator hOperand⟩
          | ok rest =>
            obtain ⟨e, result, hRest⟩ := hShorter (.more link) (Nat.lt_of_le_of_lt hOperand.shortens hus)
            exact ⟨_, result, .next hOperator hOperand hRest⟩
    have hFactors : ∃ d result, Runs (.chain .factor) ts d result := exists_runs_chain hUnary (hMore .factor)
    cases p with
    | atom => exact hAtom
    | unary => exact hUnary
    | chain link =>
      cases link with
      | factor => exact hFactors
      | summand => exact exists_runs_chain hFactors (hMore .summand)
    | more link => exact hMore link ts (Nat.le_refl _)

/-! ## The guard -/

/-- No more parentheses are open at once than the scan finds levels. -/
theorem Runs.le_nestingDepth {ts : List Token} {d : Nat} {result : Except Error (List Token)}
    (h : Runs .expr ts d result) : d ≤ nestingDepth ts := by
  cases d with
  | zero => exact Nat.zero_le _
  | succ n =>
    have hDeep := h.reader_eq_tooDeep (Nat.lt_succ_self n)
    rw [Part.reader_expr] at hDeep
    exact lt_nestingDepth_of_refuses ((follows_expr n).refuses _ _ hDeep)

/-- The whole list has to be read. -/
def atEnd : List Token → Except Error Unit
  | [] => .ok ()
  | rest => .error (stuck rest)

theorem checkGrammar_of_runs {ts : List Token} {d : Nat} {result : Except Error (List Token)}
    (h : Runs .expr ts d result) (hDeep : nestingDepth ts ≤ maxDepth) : checkGrammar ts = result.bind atEnd := by
  have hRead : Part.expr.reader maxDepth ts = result :=
    (h.reader_eq maxDepth).trans (if_pos (Nat.le_trans h.le_nestingDepth hDeep))
  rw [Part.reader_expr] at hRead
  rw [checkGrammar, if_neg (Nat.not_lt.mpr hDeep), hRead]
  cases result with
  | error e => rfl
  | ok rest => cases rest <;> rfl

/-- On every list, the level of the scan is the sum of its groups all along, so that a closer takes back what its group
added and no more. The run without a limit never has more parentheses open at once than the scan finds levels, and
every limit from that number on gives its result: behind the guard, 256 is such a limit. -/
theorem guard_bounds_run (ts : List Token) :
    (∀ front, front <+: ts →
      let s := front.foldl DepthScan.step .start
      s.base = s.groups.sum ∧ s.closeGroup.base + s.groups.head?.getD 0 = s.base) ∧
      ∃ opened result, Runs .expr ts opened result ∧
        (∀ opened' result', Runs .expr ts opened' result' → opened' = opened ∧ result' = result) ∧
        opened ≤ nestingDepth ts ∧
        (∀ n, expr n ts = if opened ≤ n then result else .error .tooDeep) ∧
        (nestingDepth ts ≤ 256 → opened ≤ 256 ∧ expr 256 ts = result ∧ checkGrammar ts = result.bind atEnd) := by
  refine ⟨fun front _ => ?scan, ?run⟩
  case scan =>
    have hConsistent := DepthScan.consistent_start.foldl front
    exact ⟨hConsistent.base_eq, hConsistent.closeGroup_add⟩
  case run =>
    obtain ⟨opened, result, hRun⟩ := exists_runs .expr ts
    have hLimit (n : Nat) : expr n ts = if opened ≤ n then result else .error .tooDeep := by
      rw [← Part.reader_expr]
      exact hRun.reader_eq n
    refine ⟨opened, result, hRun, fun _ _ hOther => hRun.unique hOther, hRun.le_nestingDepth, hLimit, fun hDeep => ?_⟩
    have hOpened := Nat.le_trans hRun.le_nestingDepth hDeep
    exact ⟨hOpened, by rw [hLimit, if_pos hOpened], checkGrammar_of_runs hRun hDeep⟩

end LessonCheck.Arithmetic
