import LessonCheck.Proofs.Form
import LessonCheck.Proofs.Program.Written

/-!
# Shapes of simple statements

A declaration, an assignment, a print and a scan are each recognised by one shape of the text, whatever stands
behind their semicolon: fixed words and marks with blanks between them, and a part that goes up to the first
place where the statement can end. No text has two of these shapes, and the order of the readers decides nothing
among them.
-/

namespace LessonCheck

namespace Text

theorem after?_append (w t : Text) : after? w (w ++ t) = some t := after?_eq_some_iff.mpr rfl

theorem trim_cons_of_framed {c : Char} (hc : isBlank c = true) {t : Text} (h : Framed t) : trim (c :: t) = t := by
  rw [trim_cons_of_blank hc, trim_of_framed h]

theorem after?_trimStart_iff {c : Char} (hc : isBlank c = false) {t r : Text} :
    after? [c] (trimStart t) = some r ↔ ∃ w, AllBlank w ∧ t = w ++ c :: r := by
  constructor
  · intro h
    obtain ⟨w, hw, hEq⟩ := exists_append_trimStart t
    rw [after?_eq_some_iff.mp h] at hEq
    exact ⟨w, hw, hEq⟩
  · rintro ⟨w, hw, rfl⟩
    rw [trimStart_append_of_allBlank hw, trimStart_cons_of_not_blank hc]
    exact after?_eq_some_iff.mpr rfl

theorem trimStart_append_framed {w : Text} (hw : AllBlank w) {t : Text} (ht : Framed t) (s : Text) :
    trimStart (w ++ (t ++ s)) = t ++ s := by
  obtain ⟨c, hFirst, hc⟩ := ht.first
  rw [trimStart_append_of_allBlank hw]
  exact trimStart_of_head? (by simp [hFirst]) hc

theorem exists_of_afterBlanks? {t r : Text} (h : afterBlanks? t = some r) :
    ∃ w, w ≠ [] ∧ AllBlank w ∧ t = w ++ r := by
  cases t with
  | nil => cases h
  | cons c t =>
    obtain ⟨hBlank, hEq⟩ := Option.ite_none_right_eq_some.mp h
    obtain rfl := Option.some.inj hEq
    obtain ⟨w, hw, hSplit⟩ := exists_append_trimStart t
    refine ⟨c :: w, List.cons_ne_nil c w, List.forall_mem_cons.mpr ⟨hBlank, hw⟩, ?_⟩
    rw [List.cons_append, ← hSplit]

theorem afterBlanks?_append {w : Text} (hNe : w ≠ []) (hw : AllBlank w) {t : Text} (ht : Framed t) (s : Text) :
    afterBlanks? (w ++ (t ++ s)) = some (t ++ s) := by
  obtain ⟨c, w, rfl⟩ := List.exists_cons_of_ne_nil hNe
  obtain ⟨hc, hRest⟩ := List.forall_mem_cons.mp hw
  rw [List.cons_append, afterBlanks?, if_pos hc, trimStart_append_framed hRest ht]

theorem isNameChar_eq_false_of_isBlank {c : Char} (h : isBlank c = true) : Word.isNameChar c = false := by
  cases hName : Word.isNameChar c with
  | false => rfl
  | true =>
    rw [Program.isBlank_eq_false_of_isNameChar hName] at h
    cases h

theorem isNameChar_head_blanks {w : Text} (hw : AllBlank w) {c : Char} (hc : Word.isNameChar c = false) (r : Text) :
    (w ++ c :: r).head?.all (!Word.isNameChar ·) = true := by
  cases w with
  | nil => simp [hc]
  | cons d w => simp [isNameChar_eq_false_of_isBlank (hw d List.mem_cons_self)]

end Text

namespace Word

theorem identifier?_of_isIdentifier {w r : Text} (hw : isIdentifier w = true)
    (hr : r.head?.all (!isNameChar ·) = true) : identifier? (w ++ r) = some (w, r) := by
  cases w with
  | nil => cases hw
  | cons c w =>
    obtain ⟨hStart, hAll⟩ := Bool.and_eq_true _ _ |>.mp hw
    rw [List.cons_append, identifier?, if_pos hStart, Arithmetic.run_of_all hAll hr]

theorem framed_of_isIdentifier {w : Text} (h : isIdentifier w = true) : Text.Framed w := by
  obtain ⟨hNe, hAll⟩ := Program.isNameChar_of_isIdentifier h
  obtain ⟨c, r, hFirst⟩ := List.exists_cons_of_ne_nil hNe
  refine ⟨⟨c, by rw [hFirst]; rfl, ?_⟩, ⟨w.getLast hNe, List.getLast?_eq_some_getLast hNe, ?_⟩⟩
  · exact Program.isBlank_eq_false_of_isNameChar (hAll c (by rw [hFirst]; exact List.mem_cons_self))
  · exact Program.isBlank_eq_false_of_isNameChar (hAll _ (List.getLast_mem hNe))

end Word

theorem ValueType.leading?_keyword (type : ValueType) (r : Text) :
    leading? (type.keyword.text ++ r) = some (type, r) := by
  cases type with
  | integer =>
    rw [leading?, show integer.keyword = .integer from rfl, Text.after?_append]
  | string => rfl

namespace Form

open Text

/-! ## Declarations -/

/-- An identifier, or the one reserved word that is none. -/
def IsDeclaredName (name : Text) : Prop := Word.isIdentifier name = true ∨ name = "MALLI-MALLI".toList

theorem IsDeclaredName.framed {name : Text} (h : IsDeclaredName name) : Framed name := by
  rcases h with hName | rfl
  · exact Word.framed_of_isIdentifier hName
  · exact Program.framed_keyword .loop

theorem isDeclaredName_of_declaredName? {t name r : Text} (h : declaredName? t = some (name, r)) :
    IsDeclaredName name ∧ t = name ++ r := by
  unfold declaredName? at h
  split at h
  · next s hLoop =>
    obtain ⟨rfl, rfl⟩ := Prod.mk.inj (Option.some.inj h)
    exact ⟨.inr rfl, after?_eq_some_iff.mp hLoop⟩
  · exact ⟨.inl (Word.isIdentifier_of_identifier? h), (Word.identifier?_append h).symm⟩

theorem declaredName?_blanks {name w : Text} (hName : IsDeclaredName name) (hw : AllBlank w) (r : Text) :
    declaredName? (name ++ (w ++ ':' :: r)) = some (name, w ++ ':' :: r) := by
  have hEnd := isNameChar_head_blanks hw (show Word.isNameChar ':' = false by decide) r
  rcases hName with hName | rfl
  · have hWord := Word.identifier?_of_isIdentifier hName hEnd
    unfold declaredName?
    split
    · next s hLoop =>
      -- The word with the hyphen would go on behind the identifier, but a blank or a colon stands there.
      rw [after?_eq_some_iff.mp hLoop] at hWord
      have hShort : Word.identifier? (Keyword.loop.text ++ s) = some ("MALLI".toList, "-MALLI".toList ++ s) :=
        @Word.identifier?_of_isIdentifier "MALLI".toList ("-MALLI".toList ++ s) (by decide) rfl
      rw [hShort] at hWord
      obtain ⟨-, hRest⟩ := Prod.mk.inj (Option.some.inj hWord)
      cases w with
      | nil => cases hRest
      | cons d w =>
        have hd : isBlank d = true := hw d List.mem_cons_self
        obtain ⟨rfl, -⟩ := List.cons.inj hRest
        cases hd
    · exact hWord
  · rw [declaredName?, show "MALLI-MALLI".toList = Keyword.loop.text from rfl, after?_append]

/-- What stands between the type and the semicolon, blanks in front of it apart. -/
def valuePart : Option Text → Text
  | none => []
  | some body => '=' :: body

/-- Keyword, name, colon and type with blanks between them, and then `rest`. -/
structure HeadShape (t name : Text) (type : ValueType) (rest : Text) : Prop where
  name_form : IsDeclaredName name
  text : ∃ gap u v, gap ≠ [] ∧ AllBlank gap ∧ AllBlank u ∧ AllBlank v ∧
    t = "PADAM".toList ++ (gap ++ (name ++ (u ++ ':' :: (v ++ (type.keyword.text ++ rest)))))

/-- Behind the head stands a value or none, and the first semicolon. -/
structure DeclarationShape (t name : Text) (type : ValueType) (body : Option Text) (tail : Text) : Prop where
  text : ∃ w, AllBlank w ∧ HeadShape t name type (w ++ (valuePart body ++ ';' :: tail))
  semicolon : ∀ b ∈ body, ';' ∉ b
  line : ∀ b ∈ body, '\n' ∉ trim b

theorem declarationHead?_iff {t name rest : Text} {type : ValueType} :
    declarationHead? t = some (name, type, rest) ↔ HeadShape t name type rest := by
  constructor
  · intro h
    simp only [declarationHead?, Option.bind_eq_bind, Option.bind_eq_some_iff, Prod.exists, Option.some.injEq,
      Prod.mk.injEq] at h
    obtain ⟨a, hKeyword, b, hGap, name', c, hName, d, hColon, type', e, hType, rfl, rfl, rfl⟩ := h
    obtain ⟨gap, hNe, hBlank, rfl⟩ := exists_of_afterBlanks? hGap
    obtain ⟨hForm, rfl⟩ := isDeclaredName_of_declaredName? hName
    obtain ⟨u, hu, rfl⟩ := (after?_trimStart_iff (by decide)).mp hColon
    obtain ⟨v, hv, hEq⟩ := Text.exists_append_trimStart d
    rw [ValueType.leading?_append hType] at hEq
    exact ⟨hForm, gap, u, v, hNe, hBlank, hu, hv, by rw [after?_eq_some_iff.mp hKeyword, hEq]; rfl⟩
  · rintro ⟨hForm, gap, u, v, hNe, hBlank, hu, hv, rfl⟩
    have hKeyword (s : Text) : after? Keyword.declare.text ("PADAM".toList ++ s) = some s := after?_append _ s
    have hColon : after? [':'] (trimStart (u ++ ':' :: (v ++ (type.keyword.text ++ rest)))) =
        some (v ++ (type.keyword.text ++ rest)) := (after?_trimStart_iff (by decide)).mpr ⟨u, hu, rfl⟩
    have hType := trimStart_append_framed hv (Program.framed_keyword type.keyword) rest
    simp only [declarationHead?, hKeyword, afterBlanks?_append hNe hBlank hForm.framed, declaredName?_blanks hForm hu,
      hColon, hType, ValueType.leading?_keyword, Option.bind_eq_bind, Option.bind_some]

theorem initializer?_iff {t rest : Text} {value : Option Text} :
    initializer? t = some (value, rest) ↔ ∃ body w, AllBlank w ∧ t = w ++ (valuePart body ++ ';' :: rest) ∧
      (∀ b ∈ body, ';' ∉ b ∧ '\n' ∉ trim b) ∧ value = body.map trim := by
  constructor
  · intro h
    obtain ⟨w, hw, hEq⟩ := Text.exists_append_trimStart t
    unfold initializer? at h
    split at h
    · next tail hStart =>
      obtain ⟨rfl, rfl⟩ := Prod.mk.inj (Option.some.inj h)
      exact ⟨none, w, hw, by rw [hEq, hStart]; rfl, by simp, rfl⟩
    · next r hStart =>
      simp only [Option.bind_eq_bind, Option.bind_eq_some_iff, Prod.exists] at h
      obtain ⟨body, tail, hCut, h⟩ := h
      obtain ⟨rfl, hBody⟩ := cut?_eq_some_iff.mp hCut
      split at h
      · cases h
      · next hLine =>
        obtain ⟨rfl, rfl⟩ := Prod.mk.inj (Option.some.inj h)
        refine ⟨some body, w, hw, by rw [hEq, hStart]; rfl, ?_, rfl⟩
        intro b hb
        obtain rfl := Option.some.inj hb
        exact ⟨hBody, by simpa using hLine⟩
    · cases h
  · rintro ⟨body, w, hw, rfl, hBody, rfl⟩
    cases body with
    | none =>
      have hStart : trimStart (w ++ (valuePart none ++ ';' :: rest)) = ';' :: rest :=
        trimStart_append_of_allBlank hw _
      rw [initializer?, hStart]
      rfl
    | some body =>
      obtain ⟨hSemicolon, hLine⟩ := hBody body rfl
      have hStart : trimStart (w ++ (valuePart (some body) ++ ';' :: rest)) = '=' :: (body ++ ';' :: rest) :=
        trimStart_append_of_allBlank hw _
      have hCut : cut? ';' (body ++ ';' :: rest) = some (body, rest) := cut?_eq_some_iff.mpr ⟨rfl, hSemicolon⟩
      rw [initializer?, hStart]
      simp [hCut, hLine]

theorem declaration?_iff {t name rest : Text} {type : ValueType} {value : Option Text} :
    declaration? t = some (declaration name type value, rest) ↔
      ∃ body tail, DeclarationShape t name type body tail ∧ value = body.map trim ∧ rest = trim tail := by
  constructor
  · intro h
    simp only [declaration?, Option.bind_eq_bind, Option.bind_eq_some_iff, Prod.exists, Option.some.injEq,
      Prod.mk.injEq, declaration.injEq] at h
    obtain ⟨name', type', a, hHead, value', b, hInit, ⟨rfl, rfl, rfl⟩, rfl⟩ := h
    obtain ⟨body, w, hw, rfl, hBody, rfl⟩ := initializer?_iff.mp hInit
    have hShape := declarationHead?_iff.mp hHead
    exact ⟨body, b, ⟨⟨w, hw, hShape⟩, fun c hc => (hBody c hc).1, fun c hc => (hBody c hc).2⟩, rfl, rfl⟩
  · rintro ⟨body, tail, ⟨⟨w, hw, hHead⟩, hSemicolon, hLine⟩, rfl, rfl⟩
    have hInit : initializer? (w ++ (valuePart body ++ ';' :: tail)) = some (body.map trim, tail) :=
      initializer?_iff.mpr ⟨body, w, hw, rfl, fun c hc => ⟨hSemicolon c hc, hLine c hc⟩, rfl⟩
    simp only [declaration?, declarationHead?_iff.mpr hHead, hInit, Option.bind_eq_bind, Option.bind_some]

/-! ## Assignments -/

/-- A target, blanks, an equals sign, and a right-hand side up to the first semicolon. -/
structure AssignmentShape (t target body tail : Text) : Prop where
  target_form : Word.isIdentifier target = true
  text : ∃ w, AllBlank w ∧ t = target ++ (w ++ '=' :: (body ++ ';' :: tail))
  ne_nil : body ≠ []
  semicolon : ';' ∉ body

theorem AssignmentShape.identifier? {t target body tail : Text} (h : AssignmentShape t target body tail) :
    ∃ r, Word.identifier? t = some (target, r) ∧ trimStart r = '=' :: (body ++ ';' :: tail) := by
  obtain ⟨w, hw, rfl⟩ := h.text
  have hEnd := isNameChar_head_blanks hw (show Word.isNameChar '=' = false by decide) (body ++ ';' :: tail)
  refine ⟨_, Word.identifier?_of_isIdentifier h.target_form hEnd, ?_⟩
  rw [trimStart_append_of_allBlank hw]
  exact trimStart_cons_of_not_blank (by decide) _

theorem assignment?_iff {t target expr rest : Text} :
    assignment? t = some (assignment target expr, rest) ↔
      ∃ body tail, AssignmentShape t target body tail ∧ expr = rightHandSide body ∧ rest = trim tail := by
  constructor
  · intro h
    simp only [assignment?, Option.bind_eq_bind, Option.bind_eq_some_iff, Prod.exists] at h
    obtain ⟨target', a, hTarget, b, hEquals, body, tail, hCut, h⟩ := h
    split at h
    · cases h
    · next hNe =>
      simp only [Option.some.injEq, Prod.mk.injEq, assignment.injEq] at h
      obtain ⟨⟨rfl, rfl⟩, rfl⟩ := h
      obtain ⟨rfl, hBody⟩ := cut?_eq_some_iff.mp hCut
      obtain ⟨w, hw, rfl⟩ := (after?_trimStart_iff (by decide)).mp hEquals
      exact ⟨body, tail, ⟨Word.isIdentifier_of_identifier? hTarget, ⟨w, hw, (Word.identifier?_append hTarget).symm⟩,
        hNe, hBody⟩, rfl, rfl⟩
  · rintro ⟨body, tail, hShape, rfl, rfl⟩
    obtain ⟨r, hWord, hStart⟩ := hShape.identifier?
    have hEquals : after? ['='] ('=' :: (body ++ ';' :: tail)) = some (body ++ ';' :: tail) := rfl
    have hCut : cut? ';' (body ++ ';' :: tail) = some (body, tail) := cut?_eq_some_iff.mpr ⟨rfl, hShape.semicolon⟩
    simp only [assignment?, hWord, hStart, hEquals, hCut, Option.bind_eq_bind, Option.bind_some,
      if_neg hShape.ne_nil]

theorem trim_rightHandSide (body : Text) : trim (rightHandSide body) = trim body := by
  unfold rightHandSide
  split
  · next hNil =>
    rw [hNil]
    refine trim_of_allBlank fun c hc => allBlank_of_trim_eq_nil hNil c ?_
    exact List.mem_of_getLast? (Option.mem_toList.mp hc)
  · exact trim_trim body

/-! ## Printing and scanning -/

/-- Whether a closing parenthesis, blanks and a semicolon stand behind `part`, and `tail` behind them. -/
def ClosesBehind (t part tail : Text) : Prop := ∃ w, AllBlank w ∧ t = part ++ ')' :: (w ++ ';' :: tail)

/-- The keyword, blanks, and a part in parentheses that goes up to the first closing one with a semicolon. -/
structure IoShape (kind : IoKind) (t part tail : Text) : Prop where
  text : ∃ v r, AllBlank v ∧ t = kind.keyword.text ++ (v ++ '(' :: r) ∧ ClosesBehind r part tail ∧
    ∀ other rest, ClosesBehind r other rest → part.length ≤ other.length
  line : '\n' ∉ trim part

theorem cutClosing?_iff {t part tail : Text} :
    cutClosing? t = some (part, tail) ↔
      ClosesBehind t part tail ∧ ∀ other rest, ClosesBehind t other rest → part.length ≤ other.length := by
  have hHere {c : Char} {t tail : Text} :
      (if c = ')' then after? [';'] (trimStart t) else none) = some tail ↔ ClosesBehind (c :: t) [] tail := by
    constructor
    · intro h
      obtain ⟨rfl, hSemicolon⟩ := Option.ite_none_right_eq_some.mp h
      obtain ⟨w, hw, rfl⟩ := (after?_trimStart_iff (by decide)).mp hSemicolon
      exact ⟨w, hw, rfl⟩
    · rintro ⟨w, hw, hEq⟩
      obtain ⟨rfl, rfl⟩ := List.cons.inj hEq
      rw [if_pos rfl]
      exact (after?_trimStart_iff (by decide)).mpr ⟨w, hw, rfl⟩
  have hLater {c d : Char} {t part tail : Text} :
      ClosesBehind (c :: t) (d :: part) tail ↔ d = c ∧ ClosesBehind t part tail := by
    constructor
    · rintro ⟨w, hw, hEq⟩
      obtain ⟨rfl, rfl⟩ := List.cons.inj hEq
      exact ⟨rfl, w, hw, rfl⟩
    · rintro ⟨rfl, w, hw, rfl⟩
      exact ⟨w, hw, rfl⟩
  -- The first character closes, or the first place to close is the first one behind it.
  induction t generalizing part with
  | nil =>
    refine iff_of_false (by simp [cutClosing?]) ?_
    rintro ⟨⟨w, -, hEq⟩, -⟩
    simp at hEq
  | cons c t ih =>
    unfold cutClosing?
    split
    · next rest hFirst =>
      have hClose := hHere.mp hFirst
      constructor
      · intro h
        obtain ⟨rfl, rfl⟩ := Prod.mk.inj (Option.some.inj h)
        exact ⟨hClose, fun _ _ _ => Nat.zero_le _⟩
      · rintro ⟨hPart, hFirstClose⟩
        obtain rfl := List.length_eq_zero_iff.mp (Nat.le_zero.mp (hFirstClose [] rest hClose))
        rw [hHere.mpr hPart] at hFirst
        rw [Option.some.inj hFirst]
    · next hNone =>
      have hNotHere (rest : Text) : ¬ClosesBehind (c :: t) [] rest := by
        intro hClose
        rw [hHere.mpr hClose] at hNone
        cases hNone
      rw [Option.map_eq_some_iff]
      constructor
      · rintro ⟨⟨front, rest⟩, hCut, hEq⟩
        obtain ⟨rfl, rfl⟩ := Prod.mk.inj hEq
        obtain ⟨hClose, hFirstClose⟩ := ih.mp hCut
        refine ⟨hLater.mpr ⟨rfl, hClose⟩, ?_⟩
        intro other rest' hOther
        cases other with
        | nil => exact absurd hOther (hNotHere rest')
        | cons d other => exact Nat.succ_le_succ (hFirstClose other rest' (hLater.mp hOther).2)
      · rintro ⟨hClose, hFirstClose⟩
        cases part with
        | nil => exact absurd hClose (hNotHere tail)
        | cons d part =>
          obtain ⟨rfl, hBehind⟩ := hLater.mp hClose
          refine ⟨(part, tail), ih.mpr ⟨hBehind, ?_⟩, rfl⟩
          intro other rest hOther
          exact Nat.le_of_succ_le_succ (hFirstClose (d :: other) rest (hLater.mpr ⟨rfl, hOther⟩))

theorem io?_iff {kind : IoKind} {t arg rest : Text} :
    io? kind t = some (io kind arg, rest) ↔
      ∃ part tail, IoShape kind t part tail ∧ arg = trim part ∧ rest = trim tail := by
  have hOpening {r : Text} : Header.afterParenthesis? kind.keyword t = some r ↔
      ∃ v, AllBlank v ∧ t = kind.keyword.text ++ (v ++ '(' :: r) := by
    simp only [Header.afterParenthesis?, Option.bind_eq_some_iff, after?_eq_some_iff (w := kind.keyword.text),
      after?_trimStart_iff (show isBlank '(' = false by decide)]
    constructor
    · rintro ⟨_, rfl, v, hv, rfl⟩
      exact ⟨v, hv, rfl⟩
    · rintro ⟨v, hv, rfl⟩
      exact ⟨_, rfl, v, hv, rfl⟩
  constructor
  · intro h
    simp only [io?, Option.bind_eq_bind, Option.bind_eq_some_iff, Prod.exists] at h
    obtain ⟨r, hAfter, part, tail, hCut, h⟩ := h
    split at h
    · cases h
    · next hLine =>
      simp only [Option.some.injEq, Prod.mk.injEq, io.injEq, true_and] at h
      obtain ⟨rfl, rfl⟩ := h
      obtain ⟨v, hv, hEq⟩ := hOpening.mp hAfter
      obtain ⟨hClose, hFirst⟩ := cutClosing?_iff.mp hCut
      exact ⟨part, tail, ⟨⟨v, r, hv, hEq, hClose, hFirst⟩, by simpa using hLine⟩, rfl, rfl⟩
  · rintro ⟨part, tail, ⟨⟨v, r, hv, hEq, hClose, hFirst⟩, hLine⟩, rfl, rfl⟩
    have hAfter := hOpening.mpr ⟨v, hv, hEq⟩
    have hCut := cutClosing?_iff.mpr ⟨hClose, hFirst⟩
    have hContains : (trim part).contains '\n' = false := by simpa using hLine
    simp only [io?, hAfter, hCut, hContains, Option.bind_eq_bind, Option.bind_some, Bool.false_eq_true, if_false]

/-! ## One shape at a time -/

theorem IsDeclaredName.head?_ne {name : Text} (h : IsDeclaredName name) (s : Text) :
    (name ++ s).head? ≠ some '=' := by
  rcases h with hName | rfl
  · cases name with
    | nil => cases hName
    | cons c name =>
      have hStart : Word.isNameStart c = true := (Bool.and_eq_true _ _ |>.mp hName).1
      intro hHead
      obtain rfl := Option.some.inj hHead
      cases hStart
  · intro hHead
    cases hHead

theorem HeadShape.append {t name rest : Text} {type : ValueType} (h : HeadShape t name type rest) (s : Text) :
    HeadShape (t ++ s) name type (rest ++ s) := by
  obtain ⟨hName, gap, u, v, hNe, hGap, hu, hv, rfl⟩ := h
  exact ⟨hName, gap, u, v, hNe, hGap, hu, hv, by simp⟩

theorem HeadShape.identifier? {t name rest : Text} {type : ValueType} (h : HeadShape t name type rest) :
    ∃ r, Word.identifier? t = some (Keyword.declare.text, r) ∧ (trimStart r).head? ≠ some '=' := by
  obtain ⟨hName, gap, u, v, hNe, hGap, -, -, rfl⟩ := h
  refine ⟨_, Word.identifier?_of_isIdentifier (by decide) ?_, ?_⟩
  · obtain ⟨c, gap, rfl⟩ := List.exists_cons_of_ne_nil hNe
    simp [isNameChar_eq_false_of_isBlank (hGap c List.mem_cons_self)]
  · rw [trimStart_append_framed hGap hName.framed]
    exact hName.head?_ne _

/-- Behind the keyword of a declaration stands its name, behind a target the equals sign. -/
theorem AssignmentShape.not_headShape {t target body tail name rest : Text} {type : ValueType}
    (h : AssignmentShape t target body tail) : ¬HeadShape t name type rest := by
  intro hHead
  obtain ⟨r, hTarget, hEquals⟩ := h.identifier?
  obtain ⟨s, hDeclare, hNe⟩ := hHead.identifier?
  rw [hTarget] at hDeclare
  obtain ⟨-, rfl⟩ := Prod.mk.inj (Option.some.inj hDeclare)
  rw [hEquals] at hNe
  exact hNe rfl

theorem IoShape.identifier? {kind : IoKind} {t part tail : Text} (h : IoShape kind t part tail) :
    ∃ r, Word.identifier? t = some (kind.keyword.text, r) ∧ (trimStart r).head? ≠ some '=' := by
  obtain ⟨v, r, hv, rfl, -⟩ := h.text
  have hEnd := isNameChar_head_blanks hv (show Word.isNameChar '(' = false by decide) r
  refine ⟨v ++ '(' :: r, Word.identifier?_of_isIdentifier (by cases kind <;> decide) hEnd, ?_⟩
  rw [trimStart_append_of_allBlank hv, trimStart_cons_of_not_blank (by decide)]
  simp

/-! ## The order of the readers -/

theorem exists_headShape_of_declaration? {t : Text} {p : Form × Text} (h : declaration? t = some p) :
    ∃ name type rest, HeadShape t name type rest := by
  simp only [declaration?, Option.bind_eq_bind, Option.bind_eq_some_iff, Prod.exists] at h
  obtain ⟨name, type, rest, hHead, -⟩ := h
  exact ⟨name, type, rest, declarationHead?_iff.mp hHead⟩

theorem exists_headShape_of_unterminatedDeclaration? {t : Text} {p : Form × Text}
    (h : unterminatedDeclaration? t = some p) : ∃ name type rest, HeadShape t name type rest := by
  simp only [unterminatedDeclaration?, Option.bind_eq_bind, Option.bind_eq_some_iff, Prod.exists] at h
  obtain ⟨first, back, hCut, name, type, rest, hHead, -⟩ := h
  refine ⟨name, type, rest ++ '\n' :: back, ?_⟩
  rw [(cut?_eq_some_iff.mp hCut).1]
  exact (declarationHead?_iff.mp hHead).append _

section FirstWord

variable {t w r : Text} (hWord : Word.identifier? t = some (w, r))

include hWord

theorem closer?_eq_none : closer? t = none := by
  cases t with
  | nil => rfl
  | cons c t =>
    have hStart : Word.isNameStart c = true := (Option.ite_none_right_eq_some.mp hWord).1
    have hc : ']' ≠ c := by
      rintro rfl
      cases hStart
    rw [closer?, after?, if_neg hc]
    rfl

theorem assignment?_eq_none (hr : (trimStart r).head? ≠ some '=') : assignment? t = none := by
  have hEquals : after? ['='] (trimStart r) = none := by
    cases hAfter : after? ['='] (trimStart r) with
    | none => rfl
    | some s =>
      rw [after?_eq_some_iff.mp hAfter] at hr
      exact absurd rfl hr
  simp only [assignment?, hWord, Option.bind_eq_bind, Option.bind_some, hEquals, Option.bind_none]

/-- A text with no head of a declaration is left to the later readers. -/
theorem classify_of_not_headShape (h : ∀ name type rest, ¬HeadShape t name type rest) : classify t =
    ([assignment?, io? .print, io? .scan, ifHeader?, elseHeader?, elseSemicolon?, loopHeader?].findSome?
      (· t)).getD (unknown, []) := by
  have hDeclaration : declaration? t = none := by
    cases hRead : declaration? t with
    | none => rfl
    | some p =>
      obtain ⟨name, type, rest, hHead⟩ := exists_headShape_of_declaration? hRead
      exact absurd hHead (h name type rest)
  have hUnterminated : unterminatedDeclaration? t = none := by
    cases hRead : unterminatedDeclaration? t with
    | none => rfl
    | some p =>
      obtain ⟨name, type, rest, hHead⟩ := exists_headShape_of_unterminatedDeclaration? hRead
      exact absurd hHead (h name type rest)
  rw [classify, readers, List.findSome?_cons, closer?_eq_none hWord, List.findSome?_cons, hDeclaration,
    List.findSome?_cons, hUnterminated]

theorem classify_eq_of_firstWord (hw : w ≠ Keyword.declare.text) : classify t =
    ([assignment?, io? .print, io? .scan, ifHeader?, elseHeader?, elseSemicolon?, loopHeader?].findSome?
      (· t)).getD (unknown, []) := by
  refine classify_of_not_headShape hWord ?_
  intro name type rest hHead
  obtain ⟨s, hDeclare, -⟩ := hHead.identifier?
  rw [hWord] at hDeclare
  exact hw (Prod.mk.inj (Option.some.inj hDeclare)).1

end FirstWord

theorem classify_of_declaration? {t : Text} {p : Form × Text} (h : declaration? t = some p) : classify t = p := by
  obtain ⟨name, type, rest, hHead⟩ := exists_headShape_of_declaration? h
  obtain ⟨r, hWord, -⟩ := hHead.identifier?
  rw [classify, readers, List.findSome?_cons, closer?_eq_none hWord, List.findSome?_cons, h]
  rfl

theorem classify_of_assignment? {t : Text} {p : Form × Text} (h : assignment? t = some p) : classify t = p := by
  obtain ⟨target, expr, hForm⟩ := exists_assignment_of_assignment? h
  obtain ⟨body, tail, hShape, -, -⟩ := assignment?_iff.mp (h.trans (congrArg (fun f => some (f, p.2)) hForm))
  obtain ⟨r, hWord, -⟩ := hShape.identifier?
  rw [classify_of_not_headShape hWord fun _ _ _ => hShape.not_headShape, List.findSome?_cons, h]
  rfl

theorem classify_of_io? {kind : IoKind} {t : Text} {p : Form × Text} (h : io? kind t = some p) : classify t = p := by
  have hShape {kind : IoKind} {p : Form × Text} (h : io? kind t = some p) :
      ∃ r, Word.identifier? t = some (kind.keyword.text, r) ∧ (trimStart r).head? ≠ some '=' := by
    obtain ⟨arg, hForm⟩ := exists_io_of_io? h
    obtain ⟨part, tail, hIo, -, -⟩ := io?_iff.mp (h.trans (congrArg (fun f => some (f, p.2)) hForm))
    exact hIo.identifier?
  obtain ⟨r, hWord, hNe⟩ := hShape h
  have hDeclare : kind.keyword.text ≠ Keyword.declare.text := by cases kind <;> decide
  rw [classify_eq_of_firstWord hWord hDeclare, List.findSome?_cons, assignment?_eq_none hWord hNe]
  cases kind with
  | print => rw [List.findSome?_cons, h, Option.getD_some]
  | scan =>
    have hPrint : io? .print t = none := by
      cases hRead : io? .print t with
      | none => rfl
      | some q =>
        -- The two keywords are different words.
        obtain ⟨s, hOther, -⟩ := hShape hRead
        rw [hWord] at hOther
        cases (Prod.mk.inj (Option.some.inj hOther)).1
    rw [List.findSome?_cons, hPrint, List.findSome?_cons, h, Option.getD_some]

/-- What the three shapes say of the form of a text and of what is left behind it. -/
structure Recognised (t : Text) : Prop where
  declaration (name : Text) (type : ValueType) (value : Option Text) (rest : Text) :
    classify t = (.declaration name type value, rest) ↔
      ∃ body tail, DeclarationShape t name type body tail ∧ value = body.map trim ∧ rest = trim tail
  assignment (target expr rest : Text) :
    classify t = (.assignment target expr, rest) ↔
      ∃ body tail, AssignmentShape t target body tail ∧ expr = rightHandSide body ∧ trim expr = trim body ∧
        rest = trim tail
  io (kind : IoKind) (arg rest : Text) :
    classify t = (.io kind arg, rest) ↔ ∃ part tail, IoShape kind t part tail ∧ arg = trim part ∧ rest = trim tail

theorem recognised_classify (t : Text) : Recognised t := by
  refine ⟨?declaration, ?assignment, ?io⟩
  case declaration =>
    intro name type value rest
    exact Iff.trans ⟨fun h => reader_of_classify h nofun, classify_of_declaration?⟩ declaration?_iff
  case assignment =>
    intro target expr rest
    have hRead : classify t = (.assignment target expr, rest) ↔ assignment? t = some (.assignment target expr, rest) :=
      ⟨fun h => reader_of_classify h nofun, classify_of_assignment?⟩
    rw [hRead, assignment?_iff]
    constructor
    · rintro ⟨body, tail, hShape, rfl, rfl⟩
      exact ⟨body, tail, hShape, rfl, trim_rightHandSide body, rfl⟩
    · rintro ⟨body, tail, hShape, hExpr, -, hRest⟩
      exact ⟨body, tail, hShape, hExpr, hRest⟩
  case io =>
    intro kind arg rest
    exact Iff.trans ⟨fun h => reader_of_classify h nofun, classify_of_io?⟩ io?_iff

end Form
end LessonCheck
