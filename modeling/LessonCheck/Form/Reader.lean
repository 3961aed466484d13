import LessonCheck.Form.Basic
import LessonCheck.Header

/-!
# Recognising forms

One reader for each form, tried in a fixed order. A reader gives the form and what follows it; the forms
that end a statement leave nothing. The last lemma is the progress of every reader: what follows is shorter
than the text.
-/

namespace LessonCheck.Form

abbrev Reader := Text → Option (Form × Text)

def closer? : Reader := fun t => (Text.after? [']'] t).map fun r => (closer (Text.trim r), [])

/-- A declared name is an identifier or the one reserved word that is none. -/
def declaredName? (t : Text) : Option (Text × Text) :=
  match Text.after? Keyword.loop.text t with
  | some r => some (Keyword.loop.text, r)
  | none => Word.identifier? t

/-- The name and type of a declaration, and what follows the type. -/
def declarationHead? (t : Text) : Option (Text × ValueType × Text) := do
  let afterKeyword ← Text.after? Keyword.declare.text t
  let afterGap ← Text.afterBlanks? afterKeyword
  let (name, afterName) ← declaredName? afterGap
  let afterColon ← Text.after? [':'] (Text.trimStart afterName)
  let (type, rest) ← ValueType.leading? (Text.trimStart afterColon)
  some (name, type, rest)

/-- The value of a declaration, if it has one, and what follows the semicolon. A value is on one line. -/
def initializer? (t : Text) : Option (Option Text × Text) :=
  match Text.trimStart t with
  | ';' :: rest => some (none, rest)
  | '=' :: r => do
    let (body, rest) ← Text.cut? ';' r
    if (Text.trim body).contains '\n' then none else some (some (Text.trim body), rest)
  | _ => none

def declaration? : Reader := fun t => do
  let (name, type, afterType) ← declarationHead? t
  let (value, rest) ← initializer? afterType
  some (declaration name type value, Text.trim rest)

/-- Whether a line that declares a name stops before its semicolon. -/
def stopsEarly (afterType : Text) : Bool :=
  afterType.isEmpty ||
  match Text.trimStart afterType with
  | '=' :: v => !v.isEmpty && !v.contains ';'
  | _ => false

def unterminatedDeclaration? : Reader := fun t => do
  let (first, _) ← Text.cut? '\n' t
  let (_, _, afterType) ← declarationHead? first
  if stopsEarly afterType then some (unterminatedDeclaration, []) else none

/-- The right-hand side between the equals sign and the semicolon; of blanks alone the last one stays. -/
def rightHandSide (body : Text) : Text :=
  if Text.trim body = [] then body.getLast?.toList else Text.trim body

def assignment? : Reader := fun t => do
  let (target, afterTarget) ← Word.identifier? t
  let afterEquals ← Text.after? ['='] (Text.trimStart afterTarget)
  let (body, rest) ← Text.cut? ';' afterEquals
  if body = [] then none else some (assignment target (rightHandSide body), Text.trim rest)

/-- The parts before the first closing parenthesis that blanks and a semicolon follow, and after it all. -/
def cutClosing? : Text → Option (Text × Text)
  | [] => none
  | c :: r =>
    match if c = ')' then Text.after? [';'] (Text.trimStart r) else none with
    | some rest => some ([], rest)
    | none => (cutClosing? r).map fun p => (c :: p.1, p.2)

def io? (kind : IoKind) : Reader := fun t => do
  let afterOpening ← Header.afterParenthesis? kind.keyword t
  let (part, rest) ← cutClosing? afterOpening
  if (Text.trim part).contains '\n' then none else some (io kind (Text.trim part), Text.trim rest)

def ifHeader? : Reader := fun t => (Header.inside? .when t).map fun part => (ifHeader part, [])

def afterOtherwise? (t : Text) : Option Text :=
  (Text.after? Keyword.otherwise.text t).map Text.trimStart

/-- Whether an alternative is spelled with nothing but blanks before its bracket. -/
def isElse (t : Text) : Bool := afterOtherwise? t == some ['[']

/-- Whether an alternative is spelled with one semicolon before its bracket. -/
def isElseSemicolon (t : Text) : Bool :=
  ((afterOtherwise? t).bind (Text.after? [';'])).map Text.trimStart == some ['[']

def elseHeader? : Reader := fun t => if isElse t then some (elseHeader, []) else none

def elseSemicolon? : Reader := fun t => if isElseSemicolon t then some (elseSemicolon, []) else none

def loopHeader? : Reader := fun t => (Header.inside? .loop t).map fun part => (loopHeader part, [])

def readers : List Reader :=
  [closer?, declaration?, unterminatedDeclaration?, assignment?, io? .print, io? .scan, ifHeader?, elseHeader?,
    elseSemicolon?, loopHeader?]

/-- The form of a trimmed fragment and what follows it. -/
def classify (t : Text) : Form × Text := (readers.findSome? (· t)).getD (unknown, [])

/-- Both what follows a form and what a closing bracket keeps are shorter than the text. -/
def Shortens (t : Text) (p : Form × Text) : Prop :=
  p.2.length < t.length ∧ ∀ rest, p.1 = closer rest → rest.length < t.length

theorem length_declaredName? {t n r : Text} (h : declaredName? t = some (n, r)) : r.length < t.length := by
  unfold declaredName? at h
  split at h
  · next hk =>
    obtain ⟨rfl, rfl⟩ := Prod.mk.inj (Option.some.inj h)
    have hl := Text.length_after? hk
    have hp : 0 < Keyword.loop.text.length := by decide
    omega
  · exact Word.length_identifier? h

theorem length_declarationHead? {t n r : Text} {type : ValueType}
    (h : declarationHead? t = some (n, type, r)) : r.length < t.length := by
  simp only [declarationHead?, Option.bind_eq_bind, Option.bind_eq_some_iff, Prod.exists, Option.some.injEq,
    Prod.mk.injEq] at h
  obtain ⟨a, ha, b, hb, name, c, hc, d, hd, type', e, he, -, -, rfl⟩ := h
  have h1 := Text.length_after? ha
  have h2 := Text.length_afterBlanks? hb
  have h3 := length_declaredName? hc
  have h4 := Text.length_after? hd
  have h5 := Text.length_trimStart_le c
  have h6 := ValueType.length_leading? he
  have h7 := Text.length_trimStart_le d
  omega

theorem length_initializer? {t r : Text} {v : Option Text} (h : initializer? t = some (v, r)) :
    r.length < t.length := by
  have ht := Text.length_trimStart_le t
  unfold initializer? at h
  split at h
  · next heq =>
    obtain ⟨-, rfl⟩ := Prod.mk.inj (Option.some.inj h)
    simp only [heq, List.length_cons] at ht
    omega
  · next heq =>
    simp only [Option.bind_eq_bind, Option.bind_eq_some_iff, Prod.exists] at h
    obtain ⟨body, rest, hcut, h⟩ := h
    have hl := Text.length_cut? hcut
    split at h
    · cases h
    · obtain ⟨-, rfl⟩ := Prod.mk.inj (Option.some.inj h)
      simp only [heq, List.length_cons] at ht
      omega
  · cases h

theorem length_cutClosing? {t p r : Text} (h : cutClosing? t = some (p, r)) : r.length < t.length := by
  induction t generalizing p with
  | nil => simp [cutClosing?] at h
  | cons c t ih =>
    unfold cutClosing? at h
    split at h
    · next rest heq =>
      obtain ⟨-, rfl⟩ := Prod.mk.inj (Option.some.inj h)
      split at heq
      · have h1 := Text.length_after? heq
        have h2 := Text.length_trimStart_le t
        simp only [List.length_cons]
        omega
      · cases heq
    · obtain ⟨q, hq, heq⟩ := Option.map_eq_some_iff.1 h
      obtain ⟨-, rfl⟩ := Prod.mk.inj heq
      have := ih (p := q.1) hq
      simp only [List.length_cons]
      omega

theorem shortens_of_forall {t r : Text} {f : Form} (hr : r.length < t.length) (hf : ∀ rest, f ≠ closer rest) :
    Shortens t (f, r) :=
  ⟨hr, fun rest h => absurd h (hf rest)⟩

theorem closer?_shortens {t : Text} {p : Form × Text} (h : closer? t = some p) : Shortens t p := by
  obtain ⟨r, hr, rfl⟩ := Option.map_eq_some_iff.1 h
  have hl := Text.length_after? hr
  have ht := Text.length_trim_le r
  simp only [List.length_singleton] at hl
  refine ⟨by simp only [List.length_nil]; omega, fun rest heq => ?_⟩
  obtain rfl := Form.closer.inj heq
  omega

theorem declaration?_shortens {t : Text} {p : Form × Text} (h : declaration? t = some p) : Shortens t p := by
  simp only [declaration?, Option.bind_eq_bind, Option.bind_eq_some_iff, Prod.exists, Option.some.injEq] at h
  obtain ⟨name, type, a, ha, value, b, hb, rfl⟩ := h
  have h1 := length_declarationHead? ha
  have h2 := length_initializer? hb
  have h3 := Text.length_trim_le b
  exact shortens_of_forall (by omega) (by simp)

theorem assignment?_shortens {t : Text} {p : Form × Text} (h : assignment? t = some p) : Shortens t p := by
  simp only [assignment?, Option.bind_eq_bind, Option.bind_eq_some_iff, Prod.exists] at h
  obtain ⟨target, a, ha, b, hb, body, rest, hcut, h⟩ := h
  split at h
  · cases h
  · obtain rfl := Option.some.inj h
    have h1 := Word.length_identifier? ha
    have h2 := Text.length_after? hb
    have h3 := Text.length_trimStart_le a
    have h4 := Text.length_cut? hcut
    have h5 := Text.length_trim_le rest
    exact shortens_of_forall (by omega) (by simp)

theorem io?_shortens {kind : IoKind} {t : Text} {p : Form × Text} (h : io? kind t = some p) :
    Shortens t p := by
  simp only [io?, Option.bind_eq_bind, Option.bind_eq_some_iff, Prod.exists] at h
  obtain ⟨a, ha, part, rest, hcut, h⟩ := h
  split at h
  · cases h
  · obtain rfl := Option.some.inj h
    have h1 := Header.length_afterParenthesis? ha
    have h2 := length_cutClosing? hcut
    have h3 := Text.length_trim_le rest
    exact shortens_of_forall (by omega) (by simp)

theorem unterminatedDeclaration?_eq {t : Text} {p : Form × Text} (h : unterminatedDeclaration? t = some p) :
    p = (unterminatedDeclaration, []) := by
  simp only [unterminatedDeclaration?, Option.bind_eq_bind, Option.bind_eq_some_iff, Prod.exists] at h
  obtain ⟨_, _, _, _, _, _, _, h⟩ := h
  split at h
  · exact (Option.some.inj h).symm
  · cases h

theorem classify_shortens {t : Text} (ht : t ≠ []) : Shortens t (classify t) := by
  have hpos : ([] : Text).length < t.length := List.length_pos_iff.2 ht
  unfold classify
  cases hf : readers.findSome? (· t) with
  | none => exact shortens_of_forall hpos (by simp)
  | some p =>
    obtain ⟨reader, hmem, hp⟩ := List.exists_of_findSome?_eq_some hf
    simp only [readers, List.mem_cons, List.not_mem_nil, or_false] at hmem
    rcases hmem with rfl | rfl | rfl | rfl | rfl | rfl | rfl | rfl | rfl | rfl
    · exact closer?_shortens hp
    · exact declaration?_shortens hp
    · obtain rfl := unterminatedDeclaration?_eq hp
      exact shortens_of_forall hpos (by simp)
    · exact assignment?_shortens hp
    · exact io?_shortens hp
    · exact io?_shortens hp
    · obtain ⟨_, -, rfl⟩ := Option.map_eq_some_iff.1 hp
      exact shortens_of_forall hpos (by simp)
    · obtain rfl := Option.some.inj (Option.ite_none_right_eq_some.1 hp).2
      exact shortens_of_forall hpos (by simp)
    · obtain rfl := Option.some.inj (Option.ite_none_right_eq_some.1 hp).2
      exact shortens_of_forall hpos (by simp)
    · obtain ⟨_, -, rfl⟩ := Option.map_eq_some_iff.1 hp
      exact shortens_of_forall hpos (by simp)

end LessonCheck.Form
