import SchemaGraph.Proofs.Graph.Naming

/-! Camel case of camel case.

The name of a text forgets what separated its words, so the words of a name need not be
the words of the text: `a.b` gives `AB`, and `AB` is one word. What is kept is the
sequence of letters and digits (`spelling`). A name in camel case is cased
(`IsCased`): in it small letters follow letters, so converting it again can only lower
capitals, and lowers none exactly if every capital that follows a capital comes before a
small letter (`typeName_typeName_iff`). -/
namespace SchemaGraph.Name

/-- The letters and digits of a name, before a leading digit is guarded. -/
def stem (text : String) : List Char := camel none text.toList

/-- The two neighbours on the left are capitals, letters or digits alike. -/
def SameSort (first second : Option Char) : Prop :=
  first.any Char.isUpper = second.any Char.isUpper ∧
    first.any Char.isAlpha = second.any Char.isAlpha ∧
      first.any Char.isDigit = second.any Char.isDigit

theorem camel_congr {first second : Option Char} (h : SameSort first second)
    (text : List Char) : camel first text = camel second text := by
  obtain ⟨hupper, halpha, hdigit⟩ := h
  cases text with
  | nil => rfl
  | cons c rest =>
    have hstart : startsWord first c rest.head? = startsWord second c rest.head? := by
      simp only [startsWord, hupper, halpha, hdigit]
    rw [camel, camel, hstart]

theorem sameSort_separator {c : Char} (h : c.isAlphanum = false) : SameSort (some c) none := by
  obtain ⟨hupper, hlower, hdigit⟩ := isAlphanum_eq_false_iff.1 h
  simp [SameSort, isAlpha_eq, hupper, hlower, hdigit]

/-! ### Joining texts -/

theorem camel_append {first second : List Char}
    (h : second.head?.any Char.isLower = false) (previous : Option Char) :
    camel previous (first ++ second) =
      camel previous first ++ camel (first.getLast?.or previous) second := by
  induction first generalizing previous with
  | nil => rfl
  | cons c rest ih =>
    have hstart : startsWord previous c (rest ++ second).head? =
        startsWord previous c rest.head? := by
      cases rest with
      | nil => simp [startsWord, h]
      | cons _ _ => rfl
    have hlast : ((c :: rest).getLast?.or previous) = rest.getLast?.or (some c) := by
      simp [List.getLast?_cons, Option.or_some]
    rw [List.cons_append, camel, camel, hstart, ih (some c), hlast]
    split <;> rfl

/-- A separator ends the text before it and starts the text behind it. -/
theorem camel_append_separator {c : Char} (h : c.isAlphanum = false) (previous : Option Char)
    (first second : List Char) :
    camel previous (first ++ c :: second) = camel previous first ++ camel none second := by
  have hlower : (c :: second).head?.any Char.isLower = false := (isAlphanum_eq_false_iff.1 h).2.1
  rw [camel_append hlower, camel, if_neg (by simp [h]), camel_congr (sameSort_separator h)]

theorem toList_typeName (text : String) : (typeName text).toList = guardDigit (stem text) := by
  simp [typeName, stem]

theorem camel_guardDigit (name : List Char) : camel none (guardDigit name) = camel none name := by
  unfold guardDigit
  split
  · rw [camel, if_neg (by decide), camel_congr (sameSort_separator (by decide))]
  · rfl

theorem isAlphanum_of_mem_stem {text : String} {c : Char} (h : c ∈ stem text) :
    c.isAlphanum = true := isAlphanum_of_mem_camel h

theorem guardDigit_inj {first second : List Char} (hfirst : ∀ c ∈ first, c.isAlphanum = true)
    (hsecond : ∀ c ∈ second, c.isAlphanum = true) (h : guardDigit first = guardDigit second) :
    first = second := by
  have hguard : ∀ name : List Char, (∀ c ∈ name, c.isAlphanum = true) →
      (guardDigit name).filter Char.isAlphanum = name := by
    intro name hname
    unfold guardDigit
    split
    · rw [List.filter_cons_of_neg (by decide), List.filter_eq_self.2 hname]
    · exact List.filter_eq_self.2 hname
  rw [← hguard first hfirst, h, hguard second hsecond]

/-- Names are the same just if they are so before leading digits are guarded. -/
theorem typeName_eq_iff {first second : String} :
    typeName first = typeName second ↔ stem first = stem second := by
  constructor
  · intro h
    have hlist := congrArg String.toList h
    rw [toList_typeName, toList_typeName] at hlist
    exact guardDigit_inj (fun _ => isAlphanum_of_mem_stem) (fun _ => isAlphanum_of_mem_stem) hlist
  · intro h
    rw [typeName, typeName, show camel none first.toList = camel none second.toList from h]

theorem stem_typeName (text : String) : stem (typeName text) = camel none (stem text) := by
  rw [stem, toList_typeName, camel_guardDigit]

/-! ### Spelling -/

/-- The letters and digits of a text, all of them small. -/
def spelling (text : List Char) : List Char := (text.filter Char.isAlphanum).map Char.toLower

theorem spelling_append (first second : List Char) :
    spelling (first ++ second) = spelling first ++ spelling second := by
  simp [spelling]

theorem spelling_camel (previous : Option Char) (text : List Char) :
    (camel previous text).map Char.toLower = spelling text := by
  induction text generalizing previous with
  | nil => rfl
  | cons c rest ih =>
    rw [camel, spelling]
    by_cases hc : c.isAlphanum = true
    · have hfirst : (if startsWord previous c rest.head? = true then c.toUpper
          else c.toLower).toLower = c.toLower := by
        split
        · exact toLower_toUpper c
        · exact toLower_toLower c
      rw [if_pos hc, List.filter_cons_of_pos hc, List.map_cons, List.map_cons, ih, hfirst]
      rfl
    · rw [if_neg hc, List.filter_cons_of_neg hc, ih]
      rfl

theorem spelling_stem (text : String) : spelling (stem text) = spelling text.toList := by
  have hfilter : (stem text).filter Char.isAlphanum = stem text :=
    List.filter_eq_self.2 fun _ => isAlphanum_of_mem_stem
  rw [spelling, hfilter, stem, spelling_camel]

/-- A name keeps the spelling of its text. -/
theorem spelling_typeName (text : String) :
    spelling (typeName text).toList = spelling text.toList := by
  rw [← spelling_stem (typeName text), stem_typeName, ← spelling_stem text]
  have hfilter : (camel none (stem text)).filter Char.isAlphanum = camel none (stem text) :=
    List.filter_eq_self.2 fun _ => isAlphanum_of_mem_camel
  rw [spelling, hfilter, spelling_camel]

/-! ### Cased names -/

/-- Letters and digits in which every small letter follows a letter. -/
def IsCased (previous : Option Char) : List Char → Prop
  | [] => True
  | c :: rest =>
    c.isAlphanum = true ∧ (c.isLower = true → previous.any Char.isAlpha = true) ∧
      IsCased (some c) rest

theorem IsCased.mono {first second : Option Char}
    (h : first.any Char.isAlpha = true → second.any Char.isAlpha = true) {name : List Char}
    (hname : IsCased first name) : IsCased second name := by
  cases name with
  | nil => trivial
  | cons c rest =>
    obtain ⟨hc, hlower, hrest⟩ := hname
    exact ⟨hc, fun hc' => h (hlower hc'), hrest⟩

theorem IsCased.append {previous : Option Char} {first second : List Char}
    (hfirst : IsCased previous first) (hsecond : IsCased none second) :
    IsCased previous (first ++ second) := by
  induction first generalizing previous with
  | nil => exact hsecond.mono (by simp)
  | cons c rest ih =>
    obtain ⟨hc, hlower, hrest⟩ := hfirst
    exact ⟨hc, hlower, ih hrest⟩

/-- A letter that does not start a word follows a letter. -/
theorem any_isAlpha_of_startsWord {previous next : Option Char} {c : Char}
    (hc : c.isAlpha = true) (h : startsWord previous c next = false) :
    previous.any Char.isAlpha = true := by
  have hor : c.isUpper = true ∨ c.isLower = true := by simpa [isAlpha_eq] using hc
  cases previous with
  | none => rcases hor with hupper | hlower <;> simp_all [startsWord]
  | some last =>
    show last.isAlpha = true
    cases hupper : c.isUpper with
    | true =>
      have hlast : last.isUpper = true := by
        simp [startsWord, hupper] at h
        exact h.1
      exact isAlpha_of_isUpper hlast
    | false => simp_all [startsWord]

/-- Small letters in camel case follow letters. -/
theorem isCased_camel {first second : Option Char}
    (h : first.any Char.isAlpha = true → second.any Char.isAlpha = true) (text : List Char) :
    IsCased second (camel first text) := by
  induction text generalizing first second with
  | nil => trivial
  | cons c rest ih =>
    rw [camel]
    by_cases hc : c.isAlphanum = true
    · rw [if_pos hc]
      cases hstart : startsWord first c rest.head? with
      | true =>
        refine ⟨isAlphanum_toUpper hc, fun hlower => ?_, ih (isAlpha_toUpper c).trans⟩
        rw [if_pos rfl, not_isLower_toUpper] at hlower
        cases hlower
      | false =>
        refine ⟨isAlphanum_toLower hc, fun hlower => ?_, ih (isAlpha_toLower c).trans⟩
        have hletter : c.isAlpha = true := by
          cases hupper : c.isUpper with
          | true => exact isAlpha_of_isUpper hupper
          | false =>
            rw [if_neg (by simp), toLower_of_not_isUpper hupper] at hlower
            exact isAlpha_of_isLower hlower
        exact h (any_isAlpha_of_startsWord hletter hstart)
    · rw [if_neg hc]
      refine ih fun halpha => ?_
      exact absurd (isAlphanum_of_isAlpha halpha) hc

theorem isCased_stem (text : String) : IsCased none (stem text) := isCased_camel id text.toList

theorem IsCased.head?_not_isLower {name : List Char} (h : IsCased none name) :
    name.head?.any Char.isLower = false := by
  cases name with
  | nil => rfl
  | cons c rest =>
    obtain ⟨-, hlower, -⟩ := h
    cases hc : c.isLower with
    | true => simp at hlower; simp [hlower] at hc
    | false => simpa using hc

/-! ### Lowering capitals -/

/-- The first name is the second with some capitals lowered. -/
def Lowers : List Char → List Char → Prop :=
  List.Forall₂ fun lowered c => lowered = c ∨ lowered = c.toLower

theorem Lowers.refl (name : List Char) : Lowers name name :=
  List.forall₂_same.2 fun _ _ => .inl rfl

theorem Lowers.append {a b c d : List Char} (h : Lowers a b) (h' : Lowers c d) :
    Lowers (a ++ c) (b ++ d) := List.rel_append h h'

theorem Lowers.trans {a b c : List Char} (h : Lowers a b) (h' : Lowers b c) : Lowers a c := by
  induction h generalizing c with
  | nil => exact h'
  | cons hhead _ ih =>
    cases h' with
    | cons hhead' hrest' =>
      refine .cons ?_ (ih hrest')
      rcases hhead with rfl | rfl <;> rcases hhead' with rfl | rfl
      · exact .inl rfl
      · exact .inr rfl
      · exact .inr rfl
      · exact .inr (toLower_toLower _)

theorem Lowers.antisymm {a b : List Char} (h : Lowers a b) (h' : Lowers b a) : a = b := by
  induction h with
  | nil => rfl
  | cons hhead _ ih =>
    cases h' with
    | cons hhead' hrest' =>
      rw [ih hrest']
      rcases hhead with rfl | rfl
      · rfl
      · rcases hhead' with heq | heq
        · rw [← heq]
        · rw [toLower_toLower] at heq
          rw [← heq]

/-- Where small letters follow letters, no small letter starts a word. -/
theorem toUpper_of_startsWord {previous next : Option Char} {c : Char}
    (h : c.isLower = true → previous.any Char.isAlpha = true)
    (hstart : startsWord previous c next = true) : c.toUpper = c := by
  cases hlower : c.isLower with
  | true => simp [startsWord, not_isUpper_of_isLower hlower, hlower, h hlower] at hstart
  | false => exact toUpper_of_not_isLower hlower

/-- Converting a cased name again lowers some of its capitals. -/
theorem lowers_camel {first second : Option Char} {name : List Char} (hname : IsCased second name)
    (h : second.any Char.isAlpha = true → first.any Char.isAlpha = true) :
    Lowers (camel first name) name := by
  induction name generalizing first second with
  | nil => exact .nil
  | cons c rest ih =>
    obtain ⟨hc, hlower, hrest⟩ := hname
    rw [camel, if_pos hc]
    refine .cons ?_ (ih hrest id)
    cases hstart : startsWord first c rest.head? with
    | true => exact .inl (toUpper_of_startsWord (fun hc' => h (hlower hc')) hstart)
    | false => exact .inr rfl

/-! ### Steady names -/

/-- Every capital that follows a capital comes before a small letter. -/
def keepsCapitals (previous : Option Char) : List Char → Bool
  | [] => true
  | c :: rest =>
    (!(c.isUpper && previous.any Char.isUpper) || rest.head?.any Char.isLower) &&
      keepsCapitals (some c) rest

/-- Read once more, the capitals of the name are the same. -/
def IsSteady (name : String) : Prop := keepsCapitals none name.toList = true

instance (name : String) : Decidable (IsSteady name) := by
  unfold IsSteady
  infer_instance

/-- A character stays as it is unless it is a capital that starts no word. -/
theorem capitalized_eq_self_iff {previous next : Option Char} {c : Char}
    (h : c.isLower = true → previous.any Char.isAlpha = true) :
    (if startsWord previous c next = true then c.toUpper else c.toLower) = c ↔
      (!(c.isUpper && previous.any Char.isUpper) || next.any Char.isLower) = true := by
  cases hupper : c.isUpper with
  | true =>
    have hstart : startsWord previous c next =
        (!(true && previous.any Char.isUpper) || next.any Char.isLower) := by
      simp [startsWord, hupper]
    rw [← hstart]
    cases hword : startsWord previous c next with
    | true => simp [toUpper_of_startsWord h hword]
    | false =>
      have hne : c.toLower ≠ c := by
        intro heq
        have hlower := not_isUpper_toLower c
        rw [heq, hupper] at hlower
        cases hlower
      simp [hne]
  | false =>
    cases hword : startsWord previous c next with
    | true => simp [toUpper_of_startsWord h hword]
    | false => simp [toLower_of_not_isUpper hupper]

theorem camel_eq_self_iff {first second : Option Char} {name : List Char}
    (hname : IsCased second name)
    (h : second.any Char.isAlpha = true → first.any Char.isAlpha = true) :
    camel first name = name ↔ keepsCapitals first name = true := by
  induction name generalizing first second with
  | nil => exact ⟨fun _ => rfl, fun _ => rfl⟩
  | cons c rest ih =>
    obtain ⟨hc, hlower, hrest⟩ := hname
    rw [camel, if_pos hc, List.cons.injEq, ih hrest id, keepsCapitals, Bool.and_eq_true,
      capitalized_eq_self_iff fun hc' => h (hlower hc')]

/-- **A name is converted to itself exactly if it is steady.** -/
theorem typeName_typeName_iff (text : String) :
    typeName (typeName text) = typeName text ↔ IsSteady (typeName text) := by
  have hguard : keepsCapitals none (guardDigit (stem text)) = keepsCapitals none (stem text) := by
    unfold guardDigit
    split
    · cases hstem : stem text with
      | nil => rfl
      | cons c rest => simp [keepsCapitals]
    · rfl
  rw [typeName_eq_iff, stem_typeName, camel_eq_self_iff (isCased_stem text) id, IsSteady,
    toList_typeName, hguard]

end SchemaGraph.Name
