import LessonCheck.Form.Reader
import LessonCheck.Proofs.Text.Trim

/-!
# What a form says about its text

A closing bracket stands in front; a simple form, which opens and closes nothing, ends with a semicolon and
leaves the trimmed rest; a header ends with the bracket that it opens. The name of a declaration is an
identifier or the one keyword that is none.
-/

namespace LessonCheck.Form

/-- Whether the form is a statement with a semicolon at its end. -/
def isSimple : Form → Bool
  | declaration .. | assignment .. | io .. => true
  | _ => false

/-- Whether the form is well-formed and opens a block. -/
def isHeader : Form → Bool
  | ifHeader _ | elseHeader | elseSemicolon | loopHeader _ => true
  | _ => false

/-- How the form takes its text apart, and what it leaves. -/
inductive Reads (t : Text) : Form → Text → Prop
  | closer {rest : Text} (hText : t = ']' :: rest) : Reads t (closer (Text.trim rest)) []
  | simple {form : Form} {rest : Text} (hForm : form.isSimple = true)
      (hText : ∃ front, t = front ++ ';' :: rest) : Reads t form (Text.trim rest)
  | header {form : Form} (hForm : form.isHeader = true) (hEnd : t.getLast? = some '[') : Reads t form []
  | unterminated : Reads t unterminatedDeclaration []
  | unknown : Reads t unknown []

/-! ## The reader of a form -/

/-- The reader that gives forms of this kind. -/
def reader : Form → Reader
  | closer _ => closer?
  | declaration .. => declaration?
  | unterminatedDeclaration => unterminatedDeclaration?
  | assignment .. => assignment?
  | io kind _ => io? kind
  | ifHeader _ => ifHeader?
  | elseHeader => elseHeader?
  | elseSemicolon => elseSemicolon?
  | loopHeader _ => loopHeader?
  | unknown => fun _ => none

theorem exists_io_of_io? {kind : IoKind} {t : Text} {p : Form × Text} (h : io? kind t = some p) :
    ∃ arg, p.1 = io kind arg := by
  simp only [io?, Option.bind_eq_bind, Option.bind_eq_some_iff, Prod.exists] at h
  obtain ⟨_, _, part, _, _, h⟩ := h
  split at h
  · cases h
  · obtain rfl := Option.some.inj h
    exact ⟨Text.trim part, rfl⟩

theorem exists_assignment_of_assignment? {t : Text} {p : Form × Text} (h : assignment? t = some p) :
    ∃ target expr, p.1 = assignment target expr := by
  simp only [assignment?, Option.bind_eq_bind, Option.bind_eq_some_iff, Prod.exists] at h
  obtain ⟨target, _, _, _, _, body, _, _, h⟩ := h
  split at h
  · cases h
  · obtain rfl := Option.some.inj h
    exact ⟨target, rightHandSide body, rfl⟩

theorem exists_declaration_of_declaration? {t : Text} {p : Form × Text} (h : declaration? t = some p) :
    ∃ name type value, p.1 = declaration name type value := by
  simp only [declaration?, Option.bind_eq_bind, Option.bind_eq_some_iff, Prod.exists, Option.some.injEq] at h
  obtain ⟨name, type, _, _, value, _, _, rfl⟩ := h
  exact ⟨name, type, value, rfl⟩

theorem reader_of_mem {read : Reader} (hReader : read ∈ readers) {t : Text} {p : Form × Text}
    (h : read t = some p) : reader p.1 t = some p := by
  simp only [readers, List.mem_cons, List.not_mem_nil, or_false] at hReader
  rcases hReader with rfl | rfl | rfl | rfl | rfl | rfl | rfl | rfl | rfl | rfl
  · obtain ⟨rest, -, rfl⟩ := Option.map_eq_some_iff.mp h
    exact h
  · obtain ⟨name, type, value, hForm⟩ := exists_declaration_of_declaration? h
    rwa [hForm]
  · obtain rfl := unterminatedDeclaration?_eq h
    exact h
  · obtain ⟨target, expr, hForm⟩ := exists_assignment_of_assignment? h
    rwa [hForm]
  · obtain ⟨arg, hForm⟩ := exists_io_of_io? h
    rwa [hForm]
  · obtain ⟨arg, hForm⟩ := exists_io_of_io? h
    rwa [hForm]
  · obtain ⟨part, -, rfl⟩ := Option.map_eq_some_iff.mp h
    exact h
  · obtain rfl := Option.some.inj (Option.ite_none_right_eq_some.mp h).2
    exact h
  · obtain rfl := Option.some.inj (Option.ite_none_right_eq_some.mp h).2
    exact h
  · obtain ⟨part, -, rfl⟩ := Option.map_eq_some_iff.mp h
    exact h

/-- A text is unknown, or was read by the reader of its form. -/
theorem classify_cases (t : Text) : classify t = (unknown, []) ∨ reader (classify t).1 t = some (classify t) := by
  unfold classify
  cases hFound : readers.findSome? (· t) with
  | none => exact .inl rfl
  | some p =>
    obtain ⟨read, hReader, hRead⟩ := List.exists_of_findSome?_eq_some hFound
    exact .inr (reader_of_mem hReader hRead)

theorem reader_of_classify {t rest : Text} {form : Form} (h : classify t = (form, rest)) (hKnown : form ≠ unknown) :
    reader form t = some (form, rest) := by
  rcases classify_cases t with hUnknown | hRead
  · rw [h] at hUnknown
    exact absurd (Prod.mk.inj hUnknown).1 hKnown
  · rwa [h] at hRead

/-! ## What the readers take -/

theorem exists_append_afterBlanks? {t rest : Text} (h : Text.afterBlanks? t = some rest) :
    ∃ w, t = w ++ rest := by
  cases t with
  | nil => cases h
  | cons c t =>
    obtain ⟨hBlank, hEq⟩ := Option.ite_none_right_eq_some.mp h
    obtain rfl := Option.some.inj hEq
    obtain ⟨w, -, hEq⟩ := Text.exists_append_trimStart t
    exact ⟨c :: w, by rw [List.cons_append, ← hEq]⟩

theorem exists_append_trimStart {t s rest : Text} (h : Text.trimStart t = s ++ rest) : ∃ w, t = w ++ rest := by
  obtain ⟨w, -, hEq⟩ := Text.exists_append_trimStart t
  exact ⟨w ++ s, by rw [hEq, h, List.append_assoc]⟩

theorem exists_append_declaredName? {t name rest : Text} (h : declaredName? t = some (name, rest)) :
    ∃ w, t = w ++ rest := by
  unfold declaredName? at h
  split at h
  · next hKeyword =>
    obtain ⟨-, rfl⟩ := Prod.mk.inj (Option.some.inj h)
    exact ⟨_, Text.after?_eq_some_iff.mp hKeyword⟩
  · exact ⟨name, (Word.identifier?_append h).symm⟩

theorem exists_append_declarationHead? {t name rest : Text} {type : ValueType}
    (h : declarationHead? t = some (name, type, rest)) : ∃ w, t = w ++ rest := by
  simp only [declarationHead?, Option.bind_eq_bind, Option.bind_eq_some_iff, Prod.exists, Option.some.injEq,
    Prod.mk.injEq] at h
  obtain ⟨a, hKeyword, b, hGap, name', c, hName, d, hColon, type', e, hType, -, -, rfl⟩ := h
  obtain ⟨u, rfl⟩ := exists_append_afterBlanks? hGap
  obtain ⟨v, rfl⟩ := exists_append_declaredName? hName
  obtain ⟨w, rfl⟩ := exists_append_trimStart (Text.after?_eq_some_iff.mp hColon)
  obtain ⟨x, rfl⟩ := exists_append_trimStart (ValueType.leading?_append hType)
  rw [Text.after?_eq_some_iff.mp hKeyword]
  exact ⟨Keyword.declare.text ++ (u ++ (v ++ (w ++ x))), by simp⟩

theorem exists_append_initializer? {t rest : Text} {value : Option Text}
    (h : initializer? t = some (value, rest)) : ∃ front, t = front ++ ';' :: rest := by
  unfold initializer? at h
  split at h
  · next tail hStart =>
    obtain ⟨-, rfl⟩ := Prod.mk.inj (Option.some.inj h)
    obtain ⟨w, -, hEq⟩ := Text.exists_append_trimStart t
    exact ⟨w, by rw [← hStart, ← hEq]⟩
  · next tail hStart =>
    simp only [Option.bind_eq_bind, Option.bind_eq_some_iff, Prod.exists] at h
    obtain ⟨body, rest', hCut, h⟩ := h
    split at h
    · cases h
    · obtain ⟨-, rfl⟩ := Prod.mk.inj (Option.some.inj h)
      rw [(Text.cut?_eq_some_iff.mp hCut).1] at hStart
      obtain ⟨w, -, hEq⟩ := Text.exists_append_trimStart t
      exact ⟨w ++ '=' :: body, by rw [hEq, hStart]; simp⟩
  · cases h

theorem exists_append_cutClosing? {t part rest : Text} (h : cutClosing? t = some (part, rest)) :
    ∃ front, t = front ++ ';' :: rest := by
  induction t generalizing part with
  | nil => cases h
  | cons c t ih =>
    unfold cutClosing? at h
    split at h
    · next tail hHere =>
      obtain ⟨-, rfl⟩ := Prod.mk.inj (Option.some.inj h)
      obtain ⟨rfl, hSemicolon⟩ := Option.ite_none_right_eq_some.mp hHere
      obtain ⟨w, -, hEq⟩ := Text.exists_append_trimStart t
      have hStart : Text.trimStart t = [';'] ++ tail := Text.after?_eq_some_iff.mp hSemicolon
      exact ⟨')' :: w, by rw [hEq, hStart]; rfl⟩
    · obtain ⟨pair, hLater, hEq⟩ := Option.map_eq_some_iff.mp h
      obtain ⟨-, rfl⟩ := Prod.mk.inj hEq
      obtain ⟨front, rfl⟩ := @ih pair.1 hLater
      exact ⟨c :: front, rfl⟩

theorem getLast?_of_trimStart {t : Text} {c : Char} (h : (Text.trimStart t).getLast? = some c) :
    t.getLast? = some c := by
  obtain ⟨w, -, hEq⟩ := Text.exists_append_trimStart t
  rw [hEq, List.getLast?_append, h, Option.some_or]

theorem getLast?_of_afterOtherwise? {t r : Text} {c : Char} (h : afterOtherwise? t = some r)
    (hLast : r.getLast? = some c) : t.getLast? = some c := by
  obtain ⟨u, hKeyword, rfl⟩ := Option.map_eq_some_iff.mp h
  rw [Text.after?_eq_some_iff.mp hKeyword, List.getLast?_append, getLast?_of_trimStart hLast, Option.some_or]

theorem getLast?_of_isElse {t : Text} (h : isElse t = true) : t.getLast? = some '[' :=
  getLast?_of_afterOtherwise? (beq_iff_eq.mp h) rfl

theorem getLast?_of_isElseSemicolon {t : Text} (h : isElseSemicolon t = true) : t.getLast? = some '[' := by
  obtain ⟨u, hSemicolon, hStart⟩ := Option.map_eq_some_iff.mp (beq_iff_eq.mp h)
  obtain ⟨v, hKeyword, hAfter⟩ := Option.bind_eq_some_iff.mp hSemicolon
  have hLast : u.getLast? = some '[' := getLast?_of_trimStart (by rw [hStart]; rfl)
  apply getLast?_of_afterOtherwise? hKeyword
  rw [Text.after?_eq_some_iff.mp hAfter, List.getLast?_append, hLast, Option.some_or]

theorem getLast?_of_beforeBracket? {t part : Text} (h : Header.beforeBracket? t = some part) :
    t.getLast? = some '[' := by
  obtain ⟨r, hBracket, -⟩ := Option.bind_eq_some_iff.mp h
  have hRev : t.reverse = ['['] ++ r := Text.after?_eq_some_iff.mp hBracket
  rw [← List.head?_reverse, hRev]
  rfl

theorem getLast?_of_inside? {k : Keyword} {t part : Text} (h : Header.inside? k t = some part) :
    t.getLast? = some '[' := by
  obtain ⟨r, hOpening, h⟩ := Option.bind_eq_some_iff.mp h
  obtain ⟨inner, hBracket, -⟩ := Option.bind_eq_some_iff.mp h
  obtain ⟨u, hKeyword, hParen⟩ := Option.bind_eq_some_iff.mp hOpening
  obtain ⟨w, rfl⟩ := exists_append_trimStart (Text.after?_eq_some_iff.mp hParen)
  rw [Text.after?_eq_some_iff.mp hKeyword]
  simp [getLast?_of_beforeBracket? hBracket]

theorem reads_declaration? {t : Text} {p : Form × Text} (h : declaration? t = some p) : Reads t p.1 p.2 := by
  simp only [declaration?, Option.bind_eq_bind, Option.bind_eq_some_iff, Prod.exists, Option.some.injEq] at h
  obtain ⟨name, type, afterType, hHead, value, rest, hInit, rfl⟩ := h
  obtain ⟨front, rfl⟩ := exists_append_initializer? hInit
  obtain ⟨w, rfl⟩ := exists_append_declarationHead? hHead
  exact .simple rfl ⟨w ++ front, by simp⟩

theorem reads_assignment? {t : Text} {p : Form × Text} (h : assignment? t = some p) : Reads t p.1 p.2 := by
  simp only [assignment?, Option.bind_eq_bind, Option.bind_eq_some_iff, Prod.exists] at h
  obtain ⟨target, afterTarget, hTarget, afterEquals, hEquals, body, rest, hCut, h⟩ := h
  split at h
  · cases h
  · obtain rfl := Option.some.inj h
    obtain ⟨w, rfl⟩ := exists_append_trimStart (Text.after?_eq_some_iff.mp hEquals)
    refine .simple rfl ⟨target ++ (w ++ body), ?_⟩
    rw [← Word.identifier?_append hTarget, (Text.cut?_eq_some_iff.mp hCut).1]
    simp

theorem reads_io? {kind : IoKind} {t : Text} {p : Form × Text} (h : io? kind t = some p) :
    Reads t p.1 p.2 := by
  simp only [io?, Option.bind_eq_bind, Option.bind_eq_some_iff, Prod.exists] at h
  obtain ⟨afterOpening, hOpening, part, rest, hCut, h⟩ := h
  split at h
  · cases h
  · obtain rfl := Option.some.inj h
    obtain ⟨u, hKeyword, hParen⟩ := Option.bind_eq_some_iff.mp hOpening
    obtain ⟨w, rfl⟩ := exists_append_trimStart (Text.after?_eq_some_iff.mp hParen)
    obtain ⟨front, rfl⟩ := exists_append_cutClosing? hCut
    refine .simple rfl ⟨kind.keyword.text ++ (w ++ front), ?_⟩
    rw [Text.after?_eq_some_iff.mp hKeyword]
    simp

theorem reads_classify (t : Text) : Reads t (classify t).1 (classify t).2 := by
  rcases classify_cases t with hUnknown | hRead
  · rw [hUnknown]
    exact .unknown
  · generalize classify t = p at hRead ⊢
    obtain ⟨form, rest⟩ := p
    cases form with
    | closer =>
      obtain ⟨r, hBracket, hEq⟩ := Option.map_eq_some_iff.mp hRead
      obtain ⟨hForm, rfl⟩ := Prod.mk.inj hEq
      obtain rfl := closer.inj hForm
      exact .closer (Text.after?_eq_some_iff.mp hBracket)
    | declaration => exact reads_declaration? hRead
    | unterminatedDeclaration =>
      obtain ⟨-, rfl⟩ := Prod.mk.inj (unterminatedDeclaration?_eq hRead)
      exact .unterminated
    | assignment => exact reads_assignment? hRead
    | io => exact reads_io? hRead
    | ifHeader | loopHeader =>
      obtain ⟨part, hInside, hEq⟩ := Option.map_eq_some_iff.mp hRead
      obtain ⟨-, rfl⟩ := Prod.mk.inj hEq
      exact .header rfl (getLast?_of_inside? hInside)
    | elseHeader =>
      obtain ⟨hElse, hEq⟩ := Option.ite_none_right_eq_some.mp hRead
      obtain ⟨-, rfl⟩ := Prod.mk.inj (Option.some.inj hEq)
      exact .header rfl (getLast?_of_isElse hElse)
    | elseSemicolon =>
      obtain ⟨hElse, hEq⟩ := Option.ite_none_right_eq_some.mp hRead
      obtain ⟨-, rfl⟩ := Prod.mk.inj (Option.some.inj hEq)
      exact .header rfl (getLast?_of_isElseSemicolon hElse)
    | unknown => cases hRead

theorem reads_of_classify {t left : Text} {form : Form} (h : classify t = (form, left)) :
    Reads t form left := by
  have hReads := reads_classify t
  rwa [h] at hReads

end LessonCheck.Form
