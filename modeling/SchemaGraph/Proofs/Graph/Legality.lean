import SchemaGraph.Name.Plural
import SchemaGraph.Proofs.Graph.Naming

/-! Which names are legal.

A graph takes its names from texts that can be anything: positions, properties, literals
and identifiers (`Naming`). Almost all names that are made of them are legal. What is left
is told by `Naming.fault?_eq_none_iff`: a type name may be empty or reserved, a query field
has no name if the identifier has no letter and no digit, and a text that is a legal name
but for a line feed at its end passes for a field or a value as it is. -/
namespace SchemaGraph
namespace Name

/-! ### Legal names -/

theorem isPart_of_isStart {c : Char} (h : isStart c = true) : isPart c = true := by
  simp only [isStart, isPart, isAlphanum_eq, Bool.or_eq_true] at h ⊢
  exact h.imp_left .inl

theorem isPart_of_mem {name : List Char} (h : isLegal name = true) {c : Char} (hc : c ∈ name) :
    isPart c = true := by
  cases name with
  | nil => cases hc
  | cons first rest =>
    rw [isLegal, Bool.and_eq_true] at h
    rcases List.mem_cons.1 hc with rfl | hc
    · exact isPart_of_isStart h.1
    · exact List.all_eq_true.1 h.2 c hc

theorem isPart_of_isAlpha {c : Char} (h : c.isAlpha = true) : isPart c = true := by
  rw [isPart, isAlphanum_eq, h]
  rfl

/-! ### Names of fields and values -/

/-- A legal name with a line feed after it. -/
def EndsLine (text : List Char) : Prop := ∃ name, isLegal name = true ∧ text = name ++ ['\n']

theorem passes_iff {text : List Char} :
    passes text = true ↔ isLegal text = true ∨ EndsLine text := by
  simp only [passes, Bool.or_eq_true, Bool.and_eq_true, beq_iff_eq]
  refine or_congr_right ⟨fun ⟨hlast, hlegal⟩ => ?_, ?_⟩
  · obtain ⟨name, rfl⟩ := List.getLast?_eq_some_iff.1 hlast
    rw [List.dropLast_concat] at hlegal
    exact ⟨name, hlegal, rfl⟩
  · rintro ⟨name, hlegal, rfl⟩
    rw [List.getLast?_concat, List.dropLast_concat]
    exact ⟨rfl, hlegal⟩

theorem EndsLine.isLegal_eq_false {text : List Char} (h : EndsLine text) :
    isLegal text = false := by
  obtain ⟨name, -, rfl⟩ := h
  refine Bool.eq_false_iff.2 fun hlegal => ?_
  have hfeed : isPart '\n' = true :=
    isPart_of_mem hlegal (List.mem_append_right _ List.mem_cons_self)
  exact absurd hfeed (by decide)

/-- The field name for a text is legal, except where the text passes for a name and is none. -/
theorem isLegal_safeChars_iff {text : List Char} :
    isLegal (safeChars text) = true ↔ ¬ EndsLine text := by
  by_cases hpasses : passes text = true
  · rw [safeChars, if_pos hpasses]
    refine ⟨fun hlegal hends => ?_, (passes_iff.1 hpasses).resolve_right⟩
    rw [hends.isLegal_eq_false] at hlegal
    cases hlegal
  · refine iff_of_true ?_ fun hends => hpasses (passes_iff.2 (.inr hends))
    rw [safeChars, if_neg hpasses]
    simp only
    generalize hname : ((Text.strip text).map fun c => if isPart c then c else '_') = name
    have hparts : name.all isPart = true := by
      rw [← hname, List.all_map, List.all_eq_true]
      intro c _
      by_cases hc : isPart c = true
      · simp [hc]
      · simp only [Function.comp, hc, Bool.false_eq_true, if_false]
        decide
    cases name with
    | nil => rfl
    | cons c rest =>
      cases hdigit : c.isDigit with
      | true =>
        rw [List.head?_cons, Option.all_some, hdigit, if_pos rfl, isLegal, hparts]
        decide
      | false =>
        rw [List.head?_cons, Option.all_some, hdigit, if_neg Bool.false_ne_true]
        simp only [List.all_cons, Bool.and_eq_true, isPart, isAlphanum_eq, hdigit,
          Bool.or_false] at hparts
        rw [isLegal, Bool.and_eq_true]
        exact hparts

theorem flaw?_safe_eq_none_iff {text : String} :
    flaw? (safe text) = none ↔ ¬ EndsLine text.toList := by
  rw [flaw?_eq_none_iff, safe, String.toList_ofList, isLegal_safeChars_iff]

theorem valueFlaw?_enumKey_eq_none_iff {literal : Json} :
    valueFlaw? (enumKey literal) = none ↔ ¬ EndsLine literal.display.toList := by
  rw [← flaw?_safe_eq_none_iff, enumKey]
  generalize safe literal.display = key
  by_cases hkey : literals.contains key = true
  · rw [if_pos hkey]
    rw [List.contains_iff_mem, literals] at hkey
    simp only [List.mem_cons, List.not_mem_nil, or_false] at hkey
    rcases hkey with rfl | rfl | rfl <;> decide
  · rw [if_neg hkey, valueFlaw?, if_neg hkey, Option.or_none]

/-! ### Plurals -/

theorem toNat_of_isPart {c : Char} (h : isPart c = true) : 48 ≤ c.toNat ∧ c.toNat ≤ 122 := by
  simp only [isPart, isAlphanum_eq, isAlpha_eq, Bool.or_eq_true, isUpper_iff, isLower_iff,
    isDigit_iff, beq_iff_eq] at h
  rcases h with h | rfl
  · omega
  · decide

theorem isStart_toLower {c : Char} (h : isStart c = true) : isStart c.toLower = true := by
  simp only [isStart, Bool.or_eq_true, beq_iff_eq] at h ⊢
  rcases h with h | rfl
  · left
    rwa [isAlpha_toLower]
  · right
    decide

theorem isBlank_eq_false {c : Char} (h : isPart c = true) : Text.isBlank c = false := by
  have hblank : ∀ code ∈ Text.blanks, code < 48 ∨ 122 < code := by decide
  have hrange := toNat_of_isPart h
  refine Bool.eq_false_iff.2 fun hc => ?_
  rw [Text.isBlank, List.contains_iff_mem] at hc
  have := hblank _ hc
  omega

theorem strip_eq {text : List Char} (h : ∀ c ∈ text, Text.isBlank c = false) :
    Text.strip text = text := by
  have hdrop (part : List Char) (hpart : ∀ c ∈ part, Text.isBlank c = false) :
      part.dropWhile Text.isBlank = part := by
    cases part with
    | nil => rfl
    | cons c rest => rw [List.dropWhile_cons, if_neg (by simp [hpart c List.mem_cons_self])]
  rw [Text.strip, hdrop text h, hdrop _ fun c hc => h c (List.mem_reverse.1 hc),
    List.reverse_reverse]

/-- What begins like a name and ends in letters. -/
def Inflects (name word : List Char) : Prop :=
  ∃ start letters, start <+: name ∧ letters.all Char.isAlpha = true ∧ letters ≠ [] ∧
    word = start ++ letters

/-- Letters may follow any part of a legal name that starts it, and stand alone. -/
theorem Inflects.isLegal {name word : List Char} (hword : Inflects name word)
    (h : isLegal name = true) : isLegal word = true := by
  obtain ⟨start, letters, hstart, hletters, hne, rfl⟩ := hword
  have hparts : ∀ c ∈ letters, isPart c = true := fun c hc =>
    isPart_of_isAlpha (List.all_eq_true.1 hletters c hc)
  cases start with
  | nil =>
    cases letters with
    | nil => exact absurd rfl hne
    | cons c rest =>
      have hc : c.isAlpha = true := List.all_eq_true.1 hletters c List.mem_cons_self
      rw [List.nil_append, Name.isLegal, isStart, hc, Bool.true_or, Bool.true_and]
      exact List.all_eq_true.2 fun d hd => hparts d (List.mem_cons_of_mem _ hd)
  | cons c rest =>
    obtain ⟨tail, rfl⟩ := hstart
    rw [List.cons_append, Name.isLegal, Bool.and_eq_true] at h ⊢
    refine ⟨h.1, List.all_eq_true.2 fun d hd => ?_⟩
    rcases List.mem_append.1 hd with hd | hd
    · exact List.all_eq_true.1 h.2 d (List.mem_append_left _ hd)
    · exact hparts d hd

/-- What stands in front of the last word starts the name. -/
theorem cutLastWord_start (name : List Char) : (cutLastWord name).1 <+: name := by
  have htake (n : Nat) : name.take n <+: name := List.take_prefix n name
  have hdrop (n : Nat) : (name.take n).dropLast <+: name := by
    refine List.IsPrefix.trans ?_ (htake n)
    exact List.dropLast_prefix _
  unfold cutLastWord
  simp only
  split
  · exact List.prefix_refl name
  · split
    · split
      · exact hdrop _
      · exact htake _
    · exact htake _

/-- A word with the case of another has the same letters, but for the first one's case. -/
theorem withCaseOf_eq (model word : List Char) :
    withCaseOf model word = word ∨ withCaseOf model word = word.modifyHead Char.toUpper := by
  unfold withCaseOf
  split
  · split
    · exact .inr rfl
    · exact .inl rfl
  · exact .inl rfl

theorem inflects_irregular {name plural : List Char} (hplural : irregular? name = some plural) :
    Inflects name plural := by
  have hletters : ∀ entry ∈ irregularPlurals, entry.2 ≠ [] ∧ entry.2.all Char.isAlpha = true ∧
      (entry.2.modifyHead Char.toUpper).all Char.isAlpha = true := by
    decide +kernel
  simp only [irregular?, Option.map_eq_some_iff] at hplural
  obtain ⟨word, hword, rfl⟩ := hplural
  obtain ⟨before, rest, hentries, -⟩ := List.lookup_eq_some_iff.1 hword
  have hentry : ((cutLastWord name).2.map Char.toLower, word) ∈ irregularPlurals := by
    simp [hentries]
  obtain ⟨hne, hplain, hupper⟩ := hletters _ hentry
  rcases withCaseOf_eq (cutLastWord name).2 word with hcase | hcase <;> rw [hcase]
  · exact ⟨_, _, cutLastWord_start name, hplain, hne, rfl⟩
  · refine ⟨_, _, cutLastWord_start name, hupper, fun hnil => hne ?_, rfl⟩
    cases word with
    | nil => rfl
    | cons => cases hnil

theorem inflects_regular (name : List Char) : Inflects name (regular name) := by
  unfold regular
  split
  all_goals try split
  all_goals
    refine ⟨_, _, ?_, ?_, ?_, rfl⟩
    · first | exact List.prefix_refl name | exact List.dropLast_prefix name
    · decide
    · decide

theorem inflects_pluralChars {name : List Char} (h : name ≠ []) :
    Inflects name (pluralChars name) := by
  rw [pluralChars, if_neg (by simpa using h)]
  cases hplural : irregular? name with
  | none => exact inflects_regular name
  | some plural => exact inflects_irregular hplural

theorem ne_nil_of_isLegal {name : List Char} (h : isLegal name = true) : name ≠ [] := by
  rintro rfl
  cases h

theorem isLegal_pluralChars {name : List Char} (h : isLegal name = true) :
    isLegal (pluralChars name) = true :=
  (inflects_pluralChars (ne_nil_of_isLegal h)).isLegal h

/-- A legal name is in ASCII, and so is its first character in lower case. -/
theorem toList_lowerFirst {text : String} (h : isLegal text.toList = true) :
    (lowerFirst text).toList = text.toList.modifyHead Char.toLower := by
  unfold lowerFirst
  split
  · rename_i hnil
    rw [hnil]
    rfl
  · rename_i c rest hcons
    rw [hcons, isLegal, Bool.and_eq_true] at h
    have hascii : c.toNat < 128 := by
      have := toNat_of_isPart (isPart_of_isStart h.1)
      omega
    rw [String.toList_ofList, Text.lowercase, if_pos hascii, List.singleton_append, hcons]
    rfl

theorem isLegal_lowerFirst {text : String} (h : isLegal text.toList = true) :
    isLegal (lowerFirst text).toList = true := by
  rw [toList_lowerFirst h]
  cases hchars : text.toList with
  | nil => exact absurd hchars (ne_nil_of_isLegal h)
  | cons c rest =>
    rw [hchars, isLegal, Bool.and_eq_true] at h
    rw [List.modifyHead_cons, isLegal, isStart_toLower h.1, h.2]
    rfl

theorem toList_plural {name : String} (h : isLegal name.toList = true) :
    (plural name).toList = pluralChars name.toList := by
  rw [plural, String.toList_ofList, strip_eq fun c hc => isBlank_eq_false (isPart_of_mem h hc)]

/-- The name of a query field is legal if there is one. -/
theorem flaw?_rootName_eq_none_iff {text : String} :
    flaw? (lowerFirst (plural (typeName text))) = none ↔ typeName text ≠ "" := by
  constructor
  · intro h hempty
    rw [hempty] at h
    cases h
  · intro hne
    have hlegal := (flaw?_eq_none_iff _).1 (flaw?_typeName hne)
    rw [flaw?_eq_none_iff]
    refine isLegal_lowerFirst ?_
    rw [toList_plural hlegal]
    exact isLegal_pluralChars hlegal

end Name

/-! ### Names that are called for -/

/-- A name that a graph calls for, by what it is made of. -/
inductive Naming where
  | type (position : String)
  | field (property : String)
  | value (literal : Json)
  /-- The query field for an identifier. -/
  | root (id : String)

/-- What is wrong with a name for a type. -/
def typeFault? (name : String) : Option Fault :=
  if reservedNames.contains name then some (.reservedType name)
  else (Name.flaw? name).map .badName

namespace Naming

/-- What is wrong with the name. -/
def fault? : Naming → Option Fault
  | type position => typeFault? (Name.typeName position)
  | field property => (Name.flaw? (Name.safe property)).map .badName
  | value literal => (Name.valueFlaw? (Name.enumKey literal)).map .badName
  | root id => (Name.flaw? (Name.lowerFirst (Name.plural (Name.typeName id)))).map .badName

/-- What it takes for the name to be legal. -/
def IsClean : Naming → Prop
  | type position => Name.IsFree (Name.typeName position)
  | field property => ¬ Name.EndsLine property.toList
  | value literal => ¬ Name.EndsLine literal.display.toList
  | root id => Name.typeName id ≠ ""

/-- **Which names are legal.** -/
theorem fault?_eq_none_iff (naming : Naming) : naming.fault? = none ↔ naming.IsClean := by
  cases naming with
  | type position =>
    rw [fault?, IsClean, Name.IsFree, typeFault?]
    by_cases hreserved : Name.typeName position ∈ reservedNames
    · simp [hreserved]
    · by_cases hempty : Name.typeName position = ""
      · rw [hempty]
        decide
      · simp [hreserved, hempty, Name.flaw?_typeName hempty]
  | field property =>
    rw [fault?, Option.map_eq_none_iff]
    exact Name.flaw?_safe_eq_none_iff
  | value literal =>
    rw [fault?, Option.map_eq_none_iff]
    exact Name.valueFlaw?_enumKey_eq_none_iff
  | root id =>
    rw [fault?, Option.map_eq_none_iff]
    exact Name.flaw?_rootName_eq_none_iff

end Naming

/-- A text is refused as the name of a type for what is wrong with it. -/
theorem checkName_error {name : String} {fault : Fault}
    (h : checkName false (.str name) = .error fault) : typeFault? name = some fault := by
  have hkey : (Json.str name).isKey = true := rfl
  simp only [checkName, hkey, Bool.not_true] at h
  rw [typeFault?]
  by_cases hreserved : reservedNames.contains name = true
  · rw [if_pos hreserved]
    rw [hreserved] at h
    cases h
    rfl
  · rw [if_neg hreserved]
    rw [Bool.not_eq_true] at hreserved
    rw [hreserved] at h
    cases hflaw : Name.flaw? name <;> rw [hflaw] at h <;> cases h
    rfl

end SchemaGraph
