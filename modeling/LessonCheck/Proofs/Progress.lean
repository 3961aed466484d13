import LessonCheck.Proofs.Bindings
import LessonCheck.Proofs.Brackets
import LessonCheck.Proofs.Shapes
import LessonCheck.Proofs.Text.Infix

/-!
# Progress through a statement

Checking a statement goes on in turns: a turn reads the text that is left, acts on the state and leaves what it did
not take. A turn that leaves anything has taken a closing bracket, or a simple statement up to and with its
semicolon, and then blanks; any other form takes all there is. So every turn works on a shorter text, no text is
looked at twice or passed over, and there are at most as many turns as semicolons and closing brackets, and one more.
-/

namespace LessonCheck

open Check Text

/-! ## Texts up to blanks -/

namespace Text

/-- The text is the parts one after the other, with blanks in front of them, between them and behind them. -/
inductive SpelledBy : Text → List Text → Prop
  | blank {w : Text} (hw : AllBlank w) : SpelledBy w []
  | part {w part t : Text} {parts : List Text} (hw : AllBlank w) (h : SpelledBy t parts) :
      SpelledBy (w ++ (part ++ t)) (part :: parts)

theorem spelledBy_singleton (t : Text) : SpelledBy t [t] := by
  have h : SpelledBy ([] ++ (t ++ [])) [t] := .part allBlank_nil (.blank allBlank_nil)
  rwa [List.nil_append, List.append_nil] at h

namespace SpelledBy

variable {t : Text} {parts : List Text}

theorem blanks_append (h : SpelledBy t parts) {v : Text} (hv : AllBlank v) : SpelledBy (v ++ t) parts := by
  cases h with
  | blank hw => exact .blank (hv.append hw)
  | part hw hRest =>
    rw [← List.append_assoc]
    exact .part (hv.append hw) hRest

theorem append_blanks (h : SpelledBy t parts) {v : Text} (hv : AllBlank v) : SpelledBy (t ++ v) parts := by
  induction h with
  | blank hw => exact .blank (hw.append hv)
  | part hw _ ih =>
    rw [List.append_assoc, List.append_assoc]
    exact .part hw ih

theorem of_trim (h : SpelledBy (trim t) parts) : SpelledBy t parts := by
  obtain ⟨v, w, hv, hw, hText⟩ := exists_blanks_around_trim t
  rw [hText]
  exact (h.blanks_append hv).append_blanks hw

end SpelledBy
end Text

/-! ## The front that a simple form takes -/

namespace Form

/-- The head of a declaration is a front of its text, whatever stands behind it. -/
theorem HeadShape.exists_front {t name rest : Text} {type : ValueType} (h : HeadShape t name type rest) :
    ∃ front, t = front ++ rest ∧ ∀ other, HeadShape (front ++ other) name type other := by
  obtain ⟨hName, gap, u, v, hNe, hGap, hu, hv, rfl⟩ := h
  refine ⟨"PADAM".toList ++ (gap ++ (name ++ (u ++ ':' :: (v ++ type.keyword.text)))), by simp, ?_⟩
  intro other
  exact ⟨hName, gap, u, v, hNe, hGap, hu, hv, by simp⟩

theorem DeclarationShape.exists_front {t name tail : Text} {type : ValueType} {body : Option Text}
    (h : DeclarationShape t name type body tail) :
    ∃ front, t = front ++ ';' :: tail ∧ DeclarationShape (front ++ [';']) name type body [] := by
  obtain ⟨w, hw, hHead⟩ := h.text
  obtain ⟨head, rfl, hFront⟩ := hHead.exists_front
  refine ⟨head ++ (w ++ valuePart body), by simp, ⟨w, hw, ?_⟩, h.semicolon, h.line⟩
  have hAlone := hFront (w ++ (valuePart body ++ [';']))
  simpa using hAlone

theorem AssignmentShape.exists_front {t target body tail : Text} (h : AssignmentShape t target body tail) :
    ∃ front, t = front ++ ';' :: tail ∧ AssignmentShape (front ++ [';']) target body [] := by
  obtain ⟨w, hw, rfl⟩ := h.text
  exact ⟨target ++ (w ++ '=' :: body), by simp, h.target_form, ⟨w, hw, by simp⟩, h.ne_nil, h.semicolon⟩

theorem IoShape.exists_front {kind : IoKind} {t part tail : Text} (h : IoShape kind t part tail) :
    ∃ front, t = front ++ ';' :: tail ∧ IoShape kind (front ++ [';']) part [] := by
  obtain ⟨v, r, hv, rfl, ⟨w, hw, rfl⟩, hFirst⟩ := h.text
  refine ⟨kind.keyword.text ++ (v ++ '(' :: (part ++ ')' :: w)), by simp, ?_, h.line⟩
  refine ⟨v, part ++ ')' :: (w ++ [';']), hv, by simp, ⟨w, hw, rfl⟩, ?_⟩
  -- A place to close in the front is one in the whole text.
  rintro other rest ⟨u, hu, hEq⟩
  refine hFirst other (rest ++ tail) ⟨u, hu, ?_⟩
  have hWhole := congrArg (· ++ tail) hEq
  simpa using hWhole

/-- A simple form is read off the front of its text that ends with its semicolon, and leaves the rest. -/
theorem exists_front_of_classify {t left : Text} {form : Form} (h : classify t = (form, left))
    (hSimple : form.isSimple = true) :
    ∃ front tail, t = front ++ ';' :: tail ∧ left = trim tail ∧ classify (front ++ [';']) = (form, []) := by
  have hReader := reader_of_classify h
  cases form with
  | declaration name type value =>
    obtain ⟨body, tail, hShape, hValue, hLeft⟩ := declaration?_iff.mp (hReader nofun)
    obtain ⟨front, hText, hFront⟩ := hShape.exists_front
    have hRead := declaration?_iff.mpr ⟨body, [], hFront, hValue, rfl⟩
    exact ⟨front, tail, hText, hLeft, classify_of_declaration? hRead⟩
  | assignment target expr =>
    obtain ⟨body, tail, hShape, hExpr, hLeft⟩ := assignment?_iff.mp (hReader nofun)
    obtain ⟨front, hText, hFront⟩ := hShape.exists_front
    have hRead := assignment?_iff.mpr ⟨body, [], hFront, hExpr, rfl⟩
    exact ⟨front, tail, hText, hLeft, classify_of_assignment? hRead⟩
  | io kind arg =>
    obtain ⟨part, tail, hShape, hArg, hLeft⟩ := io?_iff.mp (hReader nofun)
    obtain ⟨front, hText, hFront⟩ := hShape.exists_front
    have hRead := io?_iff.mpr ⟨part, [], hFront, hArg, rfl⟩
    exact ⟨front, tail, hText, hLeft, classify_of_io? hRead⟩
  | _ => cases hSimple

end Form

/-! ## What one turn takes -/

namespace Fragment

/-- What a form takes of its text when another fragment stands behind it: a closing bracket, or a simple statement up
to and with its semicolon. -/
inductive Takes : Form → Text → Prop
  | closer (rest : Text) : Takes (.closer rest) [']']
  | simple {form : Form} {front : Text} (hForm : form.isSimple = true)
      (hRead : Form.classify (front ++ [';']) = (form, [])) : Takes form (front ++ [';'])

namespace Takes

variable {form : Form} {taken : Text}

theorem getLast? (h : Takes form taken) : ∃ c, taken.getLast? = some c ∧ isBlank c = false := by
  cases h with
  | closer => exact ⟨']', rfl, by decide⟩
  | @simple _ front => exact ⟨';', List.getLast?_concat, by decide⟩

theorem goesOn (h : Takes form taken) : State.closes form = true ∨ form.isSimple = true := by
  cases h with
  | closer => exact .inl rfl
  | simple hForm => exact .inr hForm

theorem ne_nil (h : Takes form taken) : taken ≠ [] := by
  obtain ⟨c, hLast, -⟩ := h.getLast?
  rintro rfl
  cases hLast

/-- Something is taken that the bound on the turns counts. -/
theorem one_le_count (h : Takes form taken) : 1 ≤ taken.count ';' + taken.count ']' := by
  cases h with
  | closer => decide
  | simple =>
    rw [List.count_append]
    simp
    omega

end Takes

/-- The text is what the form takes, blanks, and the rest, which needs no trimming. -/
structure HandsOver (form : Form) (t rest : Text) : Prop where
  left : Framed rest
  text : ∃ taken gap, Takes form taken ∧ AllBlank gap ∧ t = taken ++ (gap ++ rest)

theorem Takes.handsOver {form : Form} {taken tail : Text} (hTakes : Takes form taken) (h : Framed (taken ++ tail)) :
    trim tail = [] ∨ HandsOver form (taken ++ tail) (trim tail) := by
  obtain ⟨gap, hGap, hTail⟩ := exists_append_trim_of_framed h
  refine (trim_eq_nil_or_framed tail).imp_right fun hFramed => ⟨hFramed, taken, gap, hTakes, hGap, ?_⟩
  rw [← hTail]

theorem handsOver_first {t : Text} (h : Framed t) : (first t).2 = [] ∨ HandsOver (first t).1.form t (first t).2 := by
  obtain ⟨⟨form, left⟩, hClassify⟩ : ∃ p, Form.classify t = p := ⟨_, rfl⟩
  cases Form.reads_of_classify hClassify with
  | @closer tail hText =>
    rw [first_of_closer hClassify]
    subst hText
    have hOver : trim tail = [] ∨ HandsOver (.closer (trim tail)) (']' :: tail) (trim tail) :=
      (Takes.closer (trim tail)).handsOver h
    have hCases := Continuation.ofText_cases (trim tail)
    rw [trim_trim] at hCases
    rcases hCases with ⟨-, hNext⟩ | ⟨-, hNext⟩ | ⟨-, hNext⟩
    · exact .inl (by rw [hNext]; rfl)
    · exact .inl (Continuation.text_of_isAlternative hNext)
    · rw [hNext]
      exact hOver
  | simple hForm =>
    obtain ⟨front, tail, hText, hLeft, hRead⟩ := Form.exists_front_of_classify hClassify hForm
    rw [first_of_not_closer hClassify (brackets_of_isSimple (t := t) hForm).1, hLeft]
    rw [← List.singleton_append, ← List.append_assoc] at hText
    rw [hText] at h ⊢
    exact (Takes.simple hForm hRead).handsOver h
  | header hForm =>
    rw [first_of_not_closer hClassify (brackets_of_isHeader (t := t) hForm).1]
    exact .inl rfl
  | unterminated | unknown =>
    rw [first_of_not_closer hClassify rfl]
    exact .inl rfl

/-! ## What the chain takes -/

/-- What the fragment takes of its text in front of the other one. -/
def takenBefore (f g : Fragment) : Text := trimEnd (f.text.take (f.text.length - g.text.length))

/-- The second fragment is what the first one leaves: its text goes on behind what the first one takes and blanks. -/
structure Follows (f g : Fragment) : Prop where
  trimmed : trim g.text = g.text
  back : g.text <:+ f.text
  proper : g.text ≠ f.text
  takes : Takes f.form (takenBefore f g)
  between : ∃ gap, AllBlank gap ∧ f.text = takenBefore f g ++ (gap ++ g.text)

theorem takenBefore_eq {f g : Fragment} {taken gap : Text} (hTakes : Takes f.form taken) (hGap : AllBlank gap)
    (hText : f.text = taken ++ (gap ++ g.text)) : takenBefore f g = taken := by
  obtain ⟨c, hLast, hc⟩ := hTakes.getLast?
  rw [← List.append_assoc] at hText
  have hFront : f.text.take (f.text.length - g.text.length) = taken ++ gap := by
    rw [hText, List.length_append, Nat.add_sub_cancel, List.take_left]
  rw [takenBefore, hFront, trimEnd_append_of_allBlank hGap, trimEnd_of_getLast? hLast hc]

theorem HandsOver.follows {f g : Fragment} (h : HandsOver f.form f.text g.text) : Follows f g := by
  obtain ⟨taken, gap, hTakes, hGap, hText⟩ := h.text
  have hTaken := takenBefore_eq hTakes hGap hText
  refine ⟨trim_of_framed h.left, ⟨taken ++ gap, ?back⟩, ?proper, hTaken ▸ hTakes, ⟨gap, hGap, hTaken ▸ hText⟩⟩
  case back => rw [hText, List.append_assoc]
  case proper =>
    intro hSame
    have hLength := congrArg List.length hText
    have hPos := List.length_pos_iff.mpr hTakes.ne_nil
    rw [← hSame, List.length_append, List.length_append] at hLength
    omega

/-- What the fragments take in turn; the last one takes all of its text. -/
def parts : List Fragment → List Text
  | [] => []
  | [f] => [f.text]
  | f :: g :: rest => takenBefore f g :: parts (g :: rest)

/-- The first fragment has the text, and each one hands over what it leaves to the next. -/
inductive HandedOn : Text → List Fragment → Prop
  | none : HandedOn [] []
  | last (f : Fragment) : HandedOn f.text [f]
  | next {f g : Fragment} {fs : List Fragment} (hOver : HandsOver f.form f.text g.text)
      (hRest : HandedOn g.text (g :: fs)) : HandedOn f.text (f :: g :: fs)

theorem handedOn_chain {t : Text} (h : trim t = t) : HandedOn t (chain t) := by
  induction t using chain.induct with
  | case1 =>
    rw [chain_nil]
    exact .none
  | case2 t ht _ ih =>
    have hText := (form_first t).2
    rw [chain_of_ne_nil ht]
    rcases handsOver_first (framed_of_trim_eq h ht) with hNil | hOver
    · have hLast := HandedOn.last (first t).1
      rw [hText] at hLast
      rwa [hNil, chain_nil]
    · have hRest := ih (trim_of_framed hOver.left)
      have hNextText := (form_first (first t).2).2
      rw [chain_of_ne_nil hOver.left.ne_nil] at hRest ⊢
      have hNext : HandedOn (first t).1.text ((first t).1 :: (first (first t).2).1 :: _) :=
        .next (by rwa [hText, hNextText]) (by rwa [hNextText])
      rwa [hText] at hNext

namespace HandedOn

variable {t : Text} {fs : List Fragment}

theorem text_head? (h : HandedOn t fs) {f : Fragment} (hf : f ∈ fs.head?) : f.text = t := by
  cases h with
  | none => cases hf
  | last | next =>
    obtain rfl := Option.some.inj hf
    rfl

theorem isChain (h : HandedOn t fs) : fs.IsChain Follows := by
  induction h with
  | none => exact .nil
  | last f => exact .singleton f
  | next hOver _ ih => exact .cons_cons hOver.follows ih

/-- Only a closing bracket or a simple statement leaves anything to a next fragment. -/
theorem goesOn (h : HandedOn t fs) {f : Fragment} (hf : f ∈ fs.dropLast) :
    State.closes f.form = true ∨ f.form.isSimple = true := by
  induction h with
  | none | last => cases hf
  | next hOver _ ih =>
    rcases List.mem_cons.mp hf with rfl | hf
    · obtain ⟨taken, -, hTakes, -⟩ := hOver.text
      exact hTakes.goesOn
    · exact ih hf

theorem spelledBy (h : HandedOn t fs) : SpelledBy t (parts fs) := by
  induction h with
  | none => exact .blank allBlank_nil
  | last f => exact spelledBy_singleton f.text
  | @next f g fs hOver _ ih =>
    obtain ⟨taken, gap, hTakes, hGap, hText⟩ := hOver.text
    have hSpelled : SpelledBy ([] ++ (taken ++ (gap ++ g.text))) (taken :: parts (g :: fs)) :=
      .part allBlank_nil (ih.blanks_append hGap)
    rw [List.nil_append, ← hText] at hSpelled
    rw [parts, takenBefore_eq hTakes hGap hText]
    exact hSpelled

/-- Every fragment but the last one takes a semicolon or a closing bracket. -/
theorem length_le (h : HandedOn t fs) : fs.length ≤ 1 + t.count ';' + t.count ']' := by
  induction h with
  | none => exact Nat.zero_le _
  | last f =>
    rw [List.length_singleton]
    omega
  | @next f g fs hOver _ ih =>
    obtain ⟨taken, gap, hTakes, -, hText⟩ := hOver.text
    have hTaken := hTakes.one_le_count
    have hCount (c : Char) : f.text.count c = taken.count c + (gap.count c + g.text.count c) := by
      rw [hText, List.count_append, List.count_append]
    rw [hCount, hCount, List.length_cons]
    omega

end HandedOn
end Fragment

/-! ## The loop -/

namespace Check

open Fragment

/-- The loop over the text of a statement that is left: with no text it stops, else it checks the first fragment and
goes on with the next state and what that fragment leaves. It yields the fragments, the findings and the state. -/
inductive Turns (rules : Rules) (line : Nat) : State → Text → List Fragment → List Finding × State → Prop
  | stop (s : State) : Turns rules line s [] [] ([], s)
  | turn {s : State} {t : Text} {fs : List Fragment} {r : List Finding × State} (ht : t ≠ [])
      (hNext : Turns rules line (s.next rules ⟨line, (first t).1⟩) (first t).2 fs r) :
      Turns rules line s t ((first t).1 :: fs) (s.findings rules ⟨line, (first t).1⟩ ++ r.1, r.2)

/-- The loop stops from every state, after one turn for each fragment of the chain. -/
theorem turns_chain (rules : Rules) (line : Nat) (s : State) (t : Text) :
    Turns rules line s t (chain t) (s.run rules ((chain t).map (⟨line, ·⟩))) := by
  induction t using chain.induct generalizing s with
  | case1 =>
    rw [chain_nil]
    exact .stop s
  | case2 t ht _ ih =>
    rw [chain_of_ne_nil ht]
    exact .turn ht (ih _)

theorem Turns.unique {rules : Rules} {line : Nat} {s : State} {t : Text} {fs gs : List Fragment}
    {r q : List Finding × State} (h : Turns rules line s t fs r) (h' : Turns rules line s t gs q) :
    fs = gs ∧ r = q := by
  induction h generalizing gs q with
  | stop s =>
    cases h' with
    | stop => exact ⟨rfl, rfl⟩
    | turn hNe => exact absurd rfl hNe
  | turn hNe _ ih =>
    cases h' with
    | stop => exact absurd rfl hNe
    | turn _ hNext =>
      obtain ⟨rfl, rfl⟩ := ih hNext
      exact ⟨rfl, rfl⟩

/-- What the loop over a statement does, from any state. -/
structure Progresses (rules : Rules) (s : State) (st : LogicalStatement) : Prop where
  stops : ∀ fs r, Turns rules st.line s (trim st.text) fs r ↔
    fs = ofStatement st.text ∧ r = s.run rules (stepsOf st)
  first : ∀ f ∈ (ofStatement st.text).head?, f.text = trim st.text
  reads : ∀ f ∈ ofStatement st.text, f.form = (Form.classify f.text).1
  follows : (ofStatement st.text).IsChain Follows
  goesOn : ∀ f ∈ (ofStatement st.text).dropLast, State.closes f.form = true ∨ f.form.isSimple = true
  bound : (ofStatement st.text).length ≤ 1 + st.text.count ';' + st.text.count ']'
  spelled : SpelledBy st.text (parts (ofStatement st.text))

theorem progresses (rules : Rules) (s : State) (st : LogicalStatement) : Progresses rules s st := by
  have hHanded : HandedOn (trim st.text) (ofStatement st.text) := handedOn_chain (trim_trim st.text)
  refine ⟨?stops, fun f => hHanded.text_head?, fun f => form_of_mem_chain, hHanded.isChain, fun f => hHanded.goesOn,
    ?bound, hHanded.spelledBy.of_trim⟩
  case stops =>
    intro fs r
    have hTurns := turns_chain rules st.line s (trim st.text)
    constructor
    · exact fun h => h.unique hTurns
    · rintro ⟨rfl, rfl⟩
      exact hTurns
  case bound =>
    have hLength := hHanded.length_le
    have hCount (c : Char) : (trim st.text).count c ≤ st.text.count c := (isInfix_trim st.text).sublist.count_le c
    have hSemicolons := hCount ';'
    have hClosers := hCount ']'
    omega

/-- Two closing brackets and two simple statements in front of what is left. -/
example : (ofStatement "] ]a = 1;\u2003CHATIMPU(a); b ".toList).map Fragment.text =
    ["] ]a = 1;\u2003CHATIMPU(a); b", "]a = 1;\u2003CHATIMPU(a); b", "a = 1;\u2003CHATIMPU(a); b",
      "CHATIMPU(a); b", "b"].map String.toList := by
  decide +kernel

end Check
end LessonCheck
