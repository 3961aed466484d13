import LessonCheck.Json.Typed
import LessonCheck.Proofs.Arithmetic.Spelling
import LessonCheck.Proofs.Text.Numeral
import Mathlib.Data.List.Forall2

/-!
# Reading written strings, truth values and numbers

What is written stands in a document between blanks and a delimiter, and its reader finds it there. For strings
this is a law for one character: reading the escape of a character and what follows gives the character and what
follows. A hexadecimal escape is read in two ways, and the loose one only has to come to the same end.
-/

namespace LessonCheck.Json

open Text

/-! ## Where a value stands -/

def Spaces (w : Text) : Prop := ∀ c ∈ w, isSpace c = true

def isDelimiter (c : Char) : Bool := isSpace c || c = ',' || c = ']' || c = '\x7d'

/-- Nothing follows, or a character that ends every value. -/
def Delimited (rest : Text) : Prop := ∀ c ∈ rest.head?, isDelimiter c = true

/-- The text is no space and no closing bracket, and the reader finds the value in it wherever it stands. -/
structure Reads {α : Type} (read : Reader α) (text : Text) (a : α) : Prop where
  starts : ∃ c r, text = c :: r ∧ isDelimiter c = false
  read : ∀ w rest, Spaces w → Delimited rest → read (w ++ text ++ rest) = .ok (a, rest)

theorem spaces_nil : Spaces [] := by
  intro c hc
  cases hc

theorem spaces_singleton {c : Char} (h : isSpace c = true) : Spaces [c] := by
  intro d hd
  rwa [List.mem_singleton.mp hd]

theorem isSpace_eq_false_of_isDelimiter {c : Char} (h : isDelimiter c = false) : isSpace c = false := by
  simp only [isDelimiter, Bool.or_eq_false_iff] at h
  exact h.1.1.1

theorem skipSpace_append {w : Text} (hw : Spaces w) (t : Text) : skipSpace (w ++ t) = skipSpace t :=
  List.dropWhile_append_of_pos hw

theorem skipSpace_cons {c : Char} (h : isSpace c = false) (t : Text) : skipSpace (c :: t) = c :: t :=
  List.dropWhile_cons_of_neg (by simp [h])

theorem skipSpace_spaces_cons {w : Text} (hw : Spaces w) {c : Char} (h : isSpace c = false) (t : Text) :
    skipSpace (w ++ c :: t) = c :: t := by
  rw [skipSpace_append hw, skipSpace_cons h]

theorem expectWord_append (w t : Text) : expectWord w (w ++ t) = .ok t := by
  induction w with
  | nil => rfl
  | cons c w ih => rw [List.cons_append, expectWord, if_pos rfl, ih]

/-! ## Strings -/

/-- Reading the escape of one character gives another and what follows. -/
def Unescapes (hex : Reader Char) (c d : Char) : Prop :=
  ∀ n rest, readCharacters hex (n + 1) (escape c ++ rest) =
    (readCharacters hex n rest).map fun p => (d :: p.1, p.2)

/-- The digits of a hexadecimal escape of a control character. -/
def hexDigits (c : Char) : Text := ['0', '0', Nat.digitChar (c.toNat / 16), Nat.digitChar (c.toNat % 16)]

theorem hexDigit?_digitChar {n : Nat} (h : n < 16) : hexDigit? (Nat.digitChar n) = some n := by
  have hAll : ∀ n < 16, hexDigit? (Nat.digitChar n) = some n := by decide
  exact hAll n h

theorem readUnit_hexDigits {c : Char} (h : c.toNat < 0x20) (rest : Text) :
    readUnit (hexDigits c ++ rest) = .ok (c.toNat, rest) := by
  have hHigh := hexDigit?_digitChar (n := c.toNat / 16) (by omega)
  have hLow := hexDigit?_digitChar (n := c.toNat % 16) (by omega)
  have hZero : hexDigit? '0' = some 0 := rfl
  have hValue : 16 * (c.toNat / 16) + c.toNat % 16 = c.toNat := Nat.div_add_mod c.toNat 16
  simp [hexDigits, readUnit, hHigh, hLow, hZero, hValue]

theorem readScalar_hexDigits {c : Char} (h : c.toNat < 0x20) (rest : Text) :
    readScalar (hexDigits c ++ rest) = .ok (c, rest) := by
  have hLow : isLowSurrogate c.toNat = false := by
    rw [isLowSurrogate, Bool.and_eq_false_iff]
    left
    exact decide_eq_false (by omega)
  have hHigh : isHighSurrogate c.toNat = false := by
    rw [isHighSurrogate, Bool.and_eq_false_iff]
    left
    exact decide_eq_false (by omega)
  simp [readScalar, readUnit_hexDigits h, hLow, hHigh, Except.bind, bind]

theorem readAnyUnit_hexDigits {c : Char} (h : c.toNat < 0x20) (rest : Text) :
    readAnyUnit (hexDigits c ++ rest) = .ok ('\ufffd', rest) := by
  simp [readAnyUnit, readUnit_hexDigits h, Except.bind, bind]

theorem readCharacters_backslash (hex : Reader Char) (n : Nat) (t : Text) :
    readCharacters hex (n + 1) ('\\' :: t) =
      (readEscape hex t).bind fun p => (readCharacters hex n p.2).map fun q => (p.1 :: q.1, q.2) := by
  rw [readCharacters]
  simp only [Char.reduceEq, if_false, if_true]
  cases readEscape hex t with
  | error e => rfl
  | ok p =>
    obtain ⟨d, r⟩ := p
    cases readCharacters hex n r <;> rfl

theorem unescapes_short {hex : Reader Char} {c e : Char} (hEscape : escape c = ['\\', e]) (hu : e ≠ 'u')
    (hShort : shortEscape? e = some c) : Unescapes hex c c := by
  intro n rest
  rw [hEscape, List.cons_append, List.singleton_append, readCharacters_backslash, readEscape, if_neg hu, hShort]
  rfl

theorem unescapes_hex {hex : Reader Char} {c d : Char} (hEscape : escape c = '\\' :: 'u' :: hexDigits c)
    (hHex : ∀ rest, hex (hexDigits c ++ rest) = .ok (d, rest)) : Unescapes hex c d := by
  intro n rest
  rw [hEscape, List.cons_append, List.cons_append, readCharacters_backslash, readEscape, if_pos rfl, hHex]
  rfl

theorem unescapes_plain {hex : Reader Char} {c : Char} (hEscape : escape c = [c]) (hQuote : c ≠ '"')
    (hBackslash : c ≠ '\\') (hControl : ¬c.toNat < 0x20) : Unescapes hex c c := by
  intro n rest
  rw [hEscape, List.singleton_append, readCharacters, if_neg hQuote, if_neg hBackslash, if_neg hControl]
  cases readCharacters hex n rest <;> rfl

/-- A character is written in one of three ways. -/
theorem escape_cases (c : Char) :
    (∃ e, escape c = ['\\', e] ∧ e ≠ 'u' ∧ shortEscape? e = some c) ∨
      (escape c = '\\' :: 'u' :: hexDigits c ∧ c.toNat < 0x20) ∨
      (escape c = [c] ∧ c ≠ '"' ∧ c ≠ '\\' ∧ ¬c.toNat < 0x20) := by
  unfold escape
  split
  case h_8 hQuote hBackslash _ _ _ _ _ =>
    split
    · next hControl => exact .inr (.inl ⟨rfl, hControl⟩)
    · next hControl => exact .inr (.inr ⟨rfl, hQuote, hBackslash, hControl⟩)
  all_goals exact .inl ⟨_, rfl, by decide, rfl⟩

theorem unescapes_readScalar (c : Char) : Unescapes readScalar c c := by
  rcases escape_cases c with ⟨e, hEscape, hu, hShort⟩ | ⟨hEscape, hControl⟩ | ⟨hEscape, hQuote, hBackslash, hControl⟩
  · exact unescapes_short hEscape hu hShort
  · exact unescapes_hex hEscape (readScalar_hexDigits hControl)
  · exact unescapes_plain hEscape hQuote hBackslash hControl

theorem exists_unescapes_readAnyUnit (c : Char) : ∃ d, Unescapes readAnyUnit c d := by
  rcases escape_cases c with ⟨e, hEscape, hu, hShort⟩ | ⟨hEscape, hControl⟩ | ⟨hEscape, hQuote, hBackslash, hControl⟩
  · exact ⟨c, unescapes_short hEscape hu hShort⟩
  · exact ⟨'\ufffd', unescapes_hex hEscape (readAnyUnit_hexDigits hControl)⟩
  · exact ⟨c, unescapes_plain hEscape hQuote hBackslash hControl⟩

theorem escape_ne_nil (c : Char) : escape c ≠ [] := by
  rcases escape_cases c with ⟨e, hEscape, -⟩ | ⟨hEscape, -⟩ | ⟨hEscape, -⟩
  all_goals
    rw [hEscape]
    simp

theorem length_le_flatMap_escape (t : Text) : t.length ≤ (t.flatMap escape).length := by
  induction t with
  | nil => exact Nat.le_refl 0
  | cons c t ih =>
    have hFirst := List.length_pos_iff.mpr (escape_ne_nil c)
    rw [List.flatMap_cons, List.length_append, List.length_cons]
    omega

theorem readCharacters_of_forall₂ {hex : Reader Char} {t s : Text} (h : List.Forall₂ (Unescapes hex) t s) {n : Nat}
    (hSteps : t.length < n) (rest : Text) :
    readCharacters hex n (t.flatMap escape ++ '"' :: rest) = .ok (s, rest) := by
  induction h generalizing n with
  | nil =>
    obtain ⟨n, rfl⟩ := Nat.exists_eq_add_one_of_ne_zero (Nat.ne_zero_of_lt hSteps)
    rw [List.flatMap_nil, List.nil_append, readCharacters, if_pos rfl]
  | @cons c d t s hFirst _ ih =>
    obtain ⟨n, rfl⟩ := Nat.exists_eq_add_one_of_ne_zero (Nat.ne_zero_of_lt hSteps)
    rw [List.flatMap_cons, List.append_assoc, hFirst, ih (Nat.lt_of_succ_lt_succ hSteps)]
    rfl

theorem readStringTail_of_forall₂ {hex : Reader Char} {t s : Text} (h : List.Forall₂ (Unescapes hex) t s)
    (rest : Text) : readStringTail hex (t.flatMap escape ++ '"' :: rest) = .ok (s, rest) := by
  apply readCharacters_of_forall₂ h
  have hLength := length_le_flatMap_escape t
  rw [List.length_append]
  omega

/-- The exact reading gives the characters that were written. -/
theorem readStringTail_string (t rest : Text) :
    readStringTail readScalar (t.flatMap escape ++ '"' :: rest) = .ok (t, rest) :=
  readStringTail_of_forall₂ (List.forall₂_same.mpr fun c _ => unescapes_readScalar c) rest

/-- The loose reading finds the same end. -/
theorem exists_readStringTail_string (t rest : Text) :
    ∃ s, readStringTail readAnyUnit (t.flatMap escape ++ '"' :: rest) = .ok (s, rest) := by
  obtain ⟨heard, hHeard⟩ := Classical.axiomOfChoice exists_unescapes_readAnyUnit
  refine ⟨t.map heard, readStringTail_of_forall₂ ?_ rest⟩
  exact List.forall₂_map_right_iff.mpr (List.forall₂_same.mpr fun c _ => hHeard c)

theorem string_append (t rest : Text) : string t ++ rest = '"' :: (t.flatMap escape ++ '"' :: rest) := by
  simp [string]

theorem reads_string (t : Text) : Reads readString (string t) t where
  starts := ⟨'"', t.flatMap escape ++ ['"'], rfl, by decide⟩
  read w rest hw _ := by
    have hSkip := skipSpace_spaces_cons hw (c := '"') (by decide) (t.flatMap escape ++ '"' :: rest)
    rw [List.append_assoc, string_append, readString, hSkip]
    exact readStringTail_string t rest

theorem reads_skipped_string (t : Text) : Reads skipValue (string t) () where
  starts := (reads_string t).starts
  read w rest hw _ := by
    obtain ⟨s, hString⟩ := exists_readStringTail_string t rest
    have hSkip := skipSpace_spaces_cons hw (c := '"') (by decide) (t.flatMap escape ++ '"' :: rest)
    rw [List.append_assoc, string_append, skipValue, skipWithin, hSkip]
    simp [hString, Except.map]

/-! ## Truth values -/

theorem reads_bool (b : Bool) : Reads readBool (bool b) b where
  starts := by
    cases b with
    | true => exact ⟨'t', _, rfl, by decide⟩
    | false => exact ⟨'f', _, rfl, by decide⟩
  read w rest hw _ := by
    have hWord := expectWord_append (bool b) rest
    have hSkip : skipSpace (w ++ (bool b ++ rest)) = bool b ++ rest := by
      cases b <;> exact skipSpace_spaces_cons hw (by decide) _
    rw [List.append_assoc, readBool, hSkip]
    cases b with
    | true =>
      change (expectWord (bool true) (bool true ++ rest)).map (true, ·) = _
      rw [hWord]
      rfl
    | false =>
      change (expectWord (bool false) (bool false ++ rest)).map (false, ·) = _
      rw [hWord]
      rfl

/-! ## Numbers -/

theorem le_ofDigitChars (ds : Text) (n : Nat) : n ≤ Nat.ofDigitChars 10 ds n := by
  induction ds generalizing n with
  | nil => exact Nat.le_refl n
  | cons c ds ih =>
    rw [Nat.ofDigitChars_cons]
    have hRest := ih (10 * n + (c.toNat - '0'.toNat))
    omega

/-- A significand that fits takes in all digits. -/
theorem absorb_of_lt {ds : Text} {s : Nat} (h : Nat.ofDigitChars 10 ds s < Numeral.significandBound) :
    Numeral.absorb s ds = (Nat.ofDigitChars 10 ds s, 0) := by
  induction ds generalizing s with
  | nil => rfl
  | cons c ds ih =>
    have hSplit : Nat.ofDigitChars 10 (c :: ds) s = Nat.ofDigitChars 10 ds (Nat.ofDigitChars 10 [c] s) := rfl
    have hNext := le_ofDigitChars ds (Nat.ofDigitChars 10 [c] s)
    rw [hSplit] at h ⊢
    rw [Numeral.absorb, if_pos (Nat.lt_of_le_of_lt hNext h), ih h]

theorem value?_ofNat {n : Nat} (h : n < Numeral.significandBound) :
    Numeral.value? ⟨false, ofNat n, [], none⟩ = some (.natural n) := by
  have hValue : Nat.ofDigitChars 10 (ofNat n) 0 = n := Nat.ofDigitChars_toDigits (by decide) (by decide)
  have hFits : Nat.ofDigitChars 10 (ofNat n) 0 < Numeral.significandBound := by rwa [hValue]
  have hAbsorb := absorb_of_lt hFits
  rw [hValue] at hAbsorb
  simp [Numeral.value?, hAbsorb, Numeral.integer]

theorem isDigit_eq_false_of_isDelimiter {c : Char} (h : isDelimiter c = true) :
    c.isDigit = false ∧ c ≠ '.' ∧ ¬(c = 'e' ∨ c = 'E') := by
  simp only [isDelimiter, isSpace, Bool.or_eq_true, decide_eq_true_eq] at h
  rcases h with (((((rfl | rfl) | rfl) | rfl) | rfl) | rfl) | rfl
  all_goals decide

theorem readWhole_ofNat {rest : Text} (hRest : Delimited rest) (gap : Error) (n : Nat) :
    readWhole gap (ofNat n ++ rest) = .ok (ofNat n, rest) := by
  obtain ⟨c, w, hEq, -⟩ := exists_ofNat_cons n
  have hDigits : (ofNat n).all Char.isDigit = true := List.all_eq_true.mpr fun d hd => isDigit_of_mem_ofNat hd
  have hStop : rest.head?.all (fun d => !d.isDigit) = true := by
    cases hHead : rest.head? with
    | none => rfl
    | some d => simp [(isDigit_eq_false_of_isDelimiter (hRest d hHead)).1]
  have hRun : readDigits gap (ofNat n ++ rest) = .ok (ofNat n, rest) := by
    rw [readDigits, Arithmetic.run_of_all hDigits hStop, hEq]
  -- A zero in front of further digits would be refused.
  have hLeading : ¬((ofNat n).head? = some '0' ∧ 1 < (ofNat n).length) := by
    rintro ⟨hZero, hLength⟩
    obtain rfl := eq_zero_of_head?_ofNat hZero
    exact absurd hLength (by decide)
  rw [readWhole, hRun]
  exact if_neg hLeading

theorem readNumber_ofNat {n : Nat} (h : n < Numeral.significandBound) {rest : Text} (hRest : Delimited rest) :
    readNumber (ofNat n ++ rest) = .ok (.natural n, rest) := by
  obtain ⟨c, w, hEq, hc⟩ := exists_ofNat_cons n
  have hSign : c ≠ '-' := by
    rintro rfl
    cases hc
  have hWhole := readWhole_ofNat hRest .truncated n
  have hFraction : readFraction .truncated rest = .ok ([], rest) := by
    unfold readFraction
    split
    · next r => exact absurd rfl (isDigit_eq_false_of_isDelimiter (hRest '.' rfl)).2.1
    · rfl
  have hExponent : readExponent .truncated rest = .ok (none, rest) := by
    cases rest with
    | nil => rfl
    | cons d r => exact if_neg (isDigit_eq_false_of_isDelimiter (hRest d rfl)).2.2
  have hNumeral : readNumeral .truncated (ofNat n ++ rest) = .ok (⟨false, ofNat n, [], none⟩, rest) := by
    rw [hEq] at hWhole ⊢
    unfold readNumeral
    split
    next negative r hSplit =>
    obtain ⟨rfl, rfl⟩ : false = negative ∧ c :: w ++ rest = r := by
      split at hSplit
      · next hMinus => exact absurd (List.cons.inj hMinus).1 hSign
      · exact Prod.mk.inj hSplit
    simp only [hWhole, hFraction, hExponent, bind, Except.bind]
  rw [readNumber, hNumeral]
  simp only [bind, Except.bind, value?_ofNat h]

theorem isDelimiter_eq_false_of_isDigit {c : Char} (h : c.isDigit = true) : isDelimiter c = false := by
  cases hDelimiter : isDelimiter c with
  | false => rfl
  | true =>
    rw [(isDigit_eq_false_of_isDelimiter hDelimiter).1] at h
    cases h

theorem reads_number {n : Nat} (h : n < Numeral.significandBound) : Reads readNatural (number n) n where
  starts := by
    obtain ⟨c, w, hEq, hc⟩ := exists_ofNat_cons n
    exact ⟨c, w, hEq, isDelimiter_eq_false_of_isDigit hc⟩
  read w rest hw hRest := by
    obtain ⟨c, v, hEq, hc⟩ := exists_ofNat_cons n
    have hSpace := isSpace_eq_false_of_isDelimiter (isDelimiter_eq_false_of_isDigit hc)
    have hStarts : startsNumeral c = true := by simp [startsNumeral, hc]
    have hNumber := readNumber_ofNat h hRest
    rw [hEq, List.cons_append] at hNumber
    rw [number, List.append_assoc, hEq, List.cons_append, readNatural, skipSpace_spaces_cons hw hSpace]
    simp only [hStarts, if_true, hNumber]
    rfl

end LessonCheck.Json
