import LessonCheck.Proofs.Program.Opener
import LessonCheck.Proofs.Program.Reading
import LessonCheck.Proofs.Statement
import Mathlib.Data.List.Forall2

/-!
# Grouping the lines of a program

A line of a program is a statement of its own, unless a loop header seems to start in its string literal. Such a
command keeps its statement open up to the next header or to the end. The lines it takes in are still read one
by one, but for an alternative.
-/

namespace LessonCheck.Program

open Text LogicalStatement

namespace Line

def isHeader : Line → Bool
  | condition _ | loop _ => true
  | command _ | close | otherwise => false

def isOtherwise : Line → Bool
  | otherwise => true
  | command _ | condition _ | loop _ | close => false

/-- Whether the statement is open behind the line; `isOpen` says whether it was open in front of it. -/
def keepsOpen (isOpen : Bool) : Line → Bool
  | command c => isOpen || c.body?.any fun b => Header.containsLoop b.text
  | condition _ | loop _ => false
  | close | otherwise => isOpen

end Line

/-- Whether an alternative stands in a statement that is still open. -/
def swallows : Bool → List Line → Bool
  | _, [] => false
  | isOpen, l :: ls => isOpen && l.isOtherwise || swallows (l.keepsOpen isOpen) ls

/-- The lines that a pending statement holds so far. -/
inductive Holds : Option Pending → List Line → Prop
  | none : Holds none []
  | some {p : Pending} {front : List Line} (hFront : front ≠ []) (hText : p.text = joined front)
      (hLoop : p.inLoopHeader = true) : Holds (some p) front

section Extend

variable {pending : Option Pending} {front : List Line} {code : CodeLine} {l : Line}

theorem text_extend (hPending : Holds pending front) (hCode : code.text = l.text) :
    (extend pending code).text = joined (front ++ [l]) := by
  cases hPending with
  | none => exact hCode
  | some hFront hText hLoop =>
    rw [joined_concat hFront, ← hText, ← hCode]
    rfl

theorem inLoopHeader_extend (hPending : Holds pending front) (hCode : code.text = l.text) :
    (extend pending code).inLoopHeader = (pending.isSome || Header.containsLoop l.text) := by
  cases hPending with
  | none => rw [← hCode]; rfl
  | some hFront hText hLoop => simp [extend, Pending.push, hLoop]

theorem beforeBracket?_eq_none {t : Text} (h : t.getLast? ≠ some '[') : Header.beforeBracket? t = none := by
  cases hPart : Header.beforeBracket? t with
  | none => rfl
  | some part => exact absurd (Form.getLast?_of_beforeBracket? hPart) h

theorem isSome_beforeBracket?_headerText (front : Text) (k : Keyword) (part : Text) :
    (Header.beforeBracket? (front ++ headerText k part)).isSome = true := by
  have hPart := beforeBracket?_append (front ++ (k.text ++ ' ' :: '(' :: part))
  have hEq : front ++ headerText k part = front ++ (k.text ++ ' ' :: '(' :: part) ++ [')', ' ', '['] := by
    simp [headerText]
  rw [hEq, hPart]
  rfl

/-- A statement that waits for the end of a header ends with a line that is one. -/
theorem isSome_beforeBracket?_append (front : Text) (l : Line) :
    (Header.beforeBracket? (front ++ l.text)).isSome = l.isHeader := by
  cases l with
  | command c =>
    have hLast : (front ++ c.text).getLast? = some ';' := by
      cases c <;> simp [Command.text, List.getLast?_cons, List.getLast?_append]
    rw [Line.text, beforeBracket?_eq_none (by rw [hLast]; decide)]
    rfl
  | condition c => exact isSome_beforeBracket?_headerText front .when c.text
  | loop h => exact isSome_beforeBracket?_headerText front .loop h.text
  | close =>
    rw [beforeBracket?_eq_none (by simp [Line.text])]
    rfl
  | otherwise =>
    have hKeyword : Line.otherwise.text = ("] ALAITH".toList) ++ ['E', ' ', '['] := by decide
    rw [hKeyword, ← List.append_assoc]
    simp [Header.beforeBracket?, after?, trimStart, isBlank, Line.isHeader]

theorem closes_line (l : Line) (n : Nat) : (Pending.mk l.text n false).closes = true := by
  cases l with
  | command c =>
    cases c <;> simp [Pending.closes, Line.text, Command.text, List.getLast?_cons, List.getLast?_append]
  | condition c => simp [Pending.closes, Line.text, headerText, List.getLast?_cons, List.getLast?_append]
  | loop h => simp [Pending.closes, Line.text, headerText, List.getLast?_cons, List.getLast?_append]
  | close | otherwise => rfl

theorem exists_append_joined_concat (front : List Line) (l : Line) :
    ∃ s, joined (front ++ [l]) = s ++ l.text := by
  cases front with
  | nil => exact ⟨[], rfl⟩
  | cons m front => exact ⟨_, by rw [joined_concat (List.cons_ne_nil m front), ← List.append_cons]⟩

theorem closes_extend (hPending : Holds pending front) (hCode : code.text = l.text) :
    (extend pending code).closes = !l.keepsOpen pending.isSome := by
  have hLoop := inLoopHeader_extend hPending hCode
  have hKeeps : l.keepsOpen pending.isSome = (!l.isHeader && (extend pending code).inLoopHeader) := by
    rw [hLoop]
    cases l with
    | command c => rw [Line.text, containsLoop_command]; rfl
    | condition c | loop h => rfl
    | close | otherwise => exact (Bool.or_false _).symm
  rw [hKeeps]
  cases hOpen : (extend pending code).inLoopHeader with
  | true =>
    obtain ⟨s, hJoined⟩ := exists_append_joined_concat front l
    rw [Pending.closes, if_pos hOpen, text_extend hPending hCode, hJoined, isSome_beforeBracket?_append,
      Bool.and_true, Bool.not_not]
  | false =>
    cases hPending with
    | none =>
      have hEq : extend none code = ⟨l.text, code.number, false⟩ := by
        rw [← hOpen, ← hCode]
        rfl
      rw [hEq, closes_line l code.number, Bool.and_false, Bool.not_false]
    | some hFront hText hInLoop =>
      rw [hOpen] at hLoop
      cases hLoop

theorem holds_extend (hPending : Holds pending front) (hCode : code.text = l.text)
    (hOpen : l.keepsOpen pending.isSome = true) : Holds (some (extend pending code)) (front ++ [l]) := by
  refine .some (by simp) (text_extend hPending hCode) ?_
  rw [inLoopHeader_extend hPending hCode]
  cases l with
  | command c => rwa [Line.text, containsLoop_command]
  | condition c | loop h => cases hOpen
  | close | otherwise => simpa using .inl hOpen

theorem forall_isPlain {isOpen : Bool} (hFront : ∀ m ∈ front, m.isPlain = true)
    (hOpen : l.keepsOpen isOpen = true) (hKept : (isOpen && l.isOtherwise) = false) :
    ∀ m ∈ front ++ [l], m.isPlain = true := by
  intro m hm
  rcases List.mem_append.mp hm with hm | hm
  · exact hFront m hm
  · obtain rfl := List.mem_singleton.mp hm
    cases m with
    | command | close => rfl
    | condition | loop => cases hOpen
    | otherwise =>
      rw [show isOpen = true from hOpen] at hKept
      cases hKept

end Extend

/-! ## Reading the statements of a program -/

section Group

variable {pending : Option Pending} {front : List Line} {codes : List CodeLine} {ls : List Line}

theorem ofStatement_joined (h : front ≠ []) :
    Fragment.ofStatement (joined front) = Fragment.chain (joined front) := by
  rw [Fragment.ofStatement, trim_of_framed (framed_joined h)]

/-- Where no alternative is swallowed, the fragments are the lines. -/
theorem forall₂_readsAs_group (hPending : Holds pending front) (hFront : ∀ l ∈ front, l.isPlain = true)
    (hCodes : codes.map CodeLine.text = ls.map Line.text) (hKept : swallows pending.isSome ls = false) :
    List.Forall₂ (fun l f => ReadsAs l (Fragment.form f)) (front ++ ls)
      ((group pending codes).flatMap fun s => Fragment.ofStatement s.text) := by
  induction ls generalizing pending front codes with
  | nil =>
    obtain rfl : codes = [] := List.map_eq_nil_iff.mp hCodes
    rw [List.append_nil]
    cases hPending with
    | none => exact .nil
    | @some p front hne hText hLoop =>
      obtain ⟨init, last, rfl⟩ := (List.eq_nil_or_concat front).resolve_left hne
      rw [List.concat_eq_append] at hne hText hFront ⊢
      have hRead := forall₂_readsAs_chain (fun l hl => hFront l (List.mem_append_left [last] hl)) last
      rw [← ofStatement_joined hne, ← hText] at hRead
      simpa [group, Pending.statement] using hRead
  | cons l ls ih =>
    obtain ⟨code, codes, rfl, hCode, hLater⟩ := List.map_eq_cons_iff.mp hCodes
    obtain ⟨hLine, hRest⟩ := Bool.or_eq_false_iff.mp hKept
    rw [group_cons, closes_extend hPending hCode]
    cases hOpen : l.keepsOpen pending.isSome with
    | true =>
      rw [hOpen] at hRest
      have hPlain := forall_isPlain hFront hOpen hLine
      have hRead := ih (holds_extend hPending hCode hOpen) hPlain hLater hRest
      rw [List.append_assoc, List.singleton_append] at hRead
      simpa using hRead
    | false =>
      rw [hOpen] at hRest
      have hFirst := forall₂_readsAs_chain hFront l
      rw [← ofStatement_joined (by simp), ← text_extend hPending hCode] at hFirst
      have hRead := ih .none (by simp) hLater hRest
      rw [List.append_cons]
      simpa [Pending.statement] using List.rel_append hFirst hRead

/-- A pending statement becomes a statement of its lines and some of those that follow. -/
theorem exists_mem_group {p : Pending} (hPending : Holds (some p) front)
    (hCodes : codes.map CodeLine.text = ls.map Line.text) :
    ∃ more, ∃ s ∈ group (some p) codes, s.text = joined (front ++ more) ∧ (ls ≠ [] → more ≠ []) := by
  induction ls generalizing p front codes with
  | nil =>
    obtain rfl : codes = [] := List.map_eq_nil_iff.mp hCodes
    cases hPending with
    | some hne hText hLoop =>
      refine ⟨[], p.statement, by simp [group], ?_, id⟩
      rw [List.append_nil]
      exact hText
  | cons l ls ih =>
    obtain ⟨code, codes, rfl, hCode, hLater⟩ := List.map_eq_cons_iff.mp hCodes
    have hText := text_extend hPending hCode
    rw [group_cons, closes_extend hPending hCode]
    cases hOpen : l.keepsOpen (some p).isSome with
    | true =>
      obtain ⟨more, s, hMem, hJoined, -⟩ := ih (holds_extend hPending hCode hOpen) hLater
      exact ⟨l :: more, s, by simpa using hMem, by rw [hJoined, ← List.append_cons], by simp⟩
    | false => exact ⟨[l], _, List.mem_cons_self, hText, by simp⟩

/-- A swallowed alternative leaves a fragment of no known form. -/
theorem exists_unknown_group (hPending : Holds pending front) (hFront : ∀ l ∈ front, l.isPlain = true)
    (hCodes : codes.map CodeLine.text = ls.map Line.text) (hSwallows : swallows pending.isSome ls = true)
    (hLast : ls.getLast?.all (!·.isOtherwise) = true) :
    ∃ s ∈ group pending codes, ∃ f ∈ Fragment.ofStatement s.text, f.form = .unknown := by
  induction ls generalizing pending front codes with
  | nil => cases hSwallows
  | cons l ls ih =>
    obtain ⟨code, codes, rfl, hCode, hLater⟩ := List.map_eq_cons_iff.mp hCodes
    have hEnd : ls.getLast?.all (!·.isOtherwise) = true := by
      cases ls with
      | nil => rfl
      | cons m ls => rwa [List.getLast?_cons_cons] at hLast
    rw [group_cons, closes_extend hPending hCode]
    cases hLost : pending.isSome && l.isOtherwise with
    | true =>
      obtain ⟨hSome, hOtherwise⟩ := Bool.and_eq_true _ _ |>.mp hLost
      obtain rfl : l = .otherwise := by
        cases l with
        | otherwise => rfl
        | command | condition | loop | close => cases hOtherwise
      -- The statement goes on behind the alternative, since no program ends with one.
      have hne : ls ≠ [] := by
        rintro rfl
        cases hLast
      obtain ⟨more, s, hMem, hText, hMore⟩ := exists_mem_group (holds_extend hPending hCode hSome) hLater
      obtain ⟨f, hFragment, hUnknown⟩ := exists_unknown_chain hFront (hMore hne)
      rw [← List.append_cons] at hText
      rw [← ofStatement_joined (by simp), ← hText] at hFragment
      refine ⟨s, ?_, f, hFragment, hUnknown⟩
      rw [show Line.otherwise.keepsOpen pending.isSome = true from hSome]
      simpa using hMem
    | false =>
      rw [swallows, hLost, Bool.false_or] at hSwallows
      cases hOpen : l.keepsOpen pending.isSome with
      | true =>
        rw [hOpen] at hSwallows
        have hPlain := forall_isPlain hFront hOpen hLost
        have hRead := ih (holds_extend hPending hCode hOpen) hPlain hLater hSwallows hEnd
        simpa using hRead
      | false =>
        rw [hOpen] at hSwallows
        obtain ⟨s, hMem, hFragment⟩ := ih .none (by simp) hLater hSwallows hEnd
        refine ⟨s, ?_, hFragment⟩
        simpa using .inr hMem

end Group

end LessonCheck.Program
