import SchemaGraph.Proofs.Batch.Positions

/-! Nothing lost and nothing invented.

A name is empty just if its text has no letter and no digit. Any other name starts with a
capital, or with a digit behind an underscore, and goes on with letters and digits
(`IsTypeName`); without the underscore, and in small letters, it reads as the letters and
digits of the text do (`reading_typeName`). Names are made of names along a path, but as
every step keeps all letters and digits, the name of a position reads as the identifier of
its document and the steps down (`reading_position`), however far down it is
(`Build.compileAll_letters`). -/
namespace SchemaGraph
namespace Name

/-- The form of a name that is not empty. -/
inductive IsTypeName : List Char → Prop where
  | capital {c rest} (hc : c.isUpper = true) (hrest : ∀ d ∈ rest, d.isAlphanum = true) :
      IsTypeName (c :: rest)
  | guarded {c rest} (hc : c.isDigit = true) (hrest : ∀ d ∈ rest, d.isAlphanum = true) :
      IsTypeName ('_' :: c :: rest)

/-- A name in small letters, without the underscore in front. -/
def reading : List Char → List Char
  | '_' :: rest => rest.map Char.toLower
  | name => name.map Char.toLower

/-- What a step down adds to the path, without the signs around it. -/
def Segment.word : Segment → String
  | property name => name
  | case key => "oneOf" ++ key

/-! ### One text -/

theorem guardDigit_eq_nil_iff {name : List Char} : guardDigit name = [] ↔ name = [] := by
  unfold guardDigit
  split
  · rename_i hdigit
    cases name with
    | nil => cases hdigit
    | cons c rest => simp
  · rfl

/-- A name is empty just if its text has no letter and no digit. -/
theorem typeName_eq_empty_iff (text : String) :
    typeName text = "" ↔ ∀ c ∈ text.toList, c.isAlphanum = false := by
  have hstem : stem text = [] ↔ spelling text.toList = [] := by
    rw [← spelling_camel none, List.map_eq_nil_iff, stem]
  rw [← String.toList_inj, toList_typeName, String.toList_empty, guardDigit_eq_nil_iff, hstem,
    spelling, List.map_eq_nil_iff, List.filter_eq_nil_iff]
  simp only [Bool.not_eq_true]

theorem isTypeName_typeName {text : String} (h : typeName text ≠ "") :
    IsTypeName (typeName text).toList := by
  rw [← String.toList_inj.ne, toList_typeName, String.toList_empty, ne_eq,
    guardDigit_eq_nil_iff] at h
  have halnum : ∀ c ∈ stem text, c.isAlphanum = true := fun _ => isAlphanum_of_mem_stem
  have hlower := (isCased_stem text).head?_not_isLower
  rw [toList_typeName]
  cases hstem : stem text with
  | nil => exact absurd hstem h
  | cons c rest =>
    rw [hstem] at halnum hlower
    obtain ⟨hc, hrest⟩ := List.forall_mem_cons.1 halnum
    have hlower : c.isLower = false := hlower
    unfold guardDigit
    split
    · rename_i hdigit
      exact .guarded hdigit hrest
    · rename_i hdigit
      refine .capital ?_ hrest
      have hdigit : c.isDigit = false := by simpa using hdigit
      simpa [Name.isAlphanum_eq, Name.isAlpha_eq, hlower, hdigit] using hc

/-- A name reads as the letters and digits of its text. -/
theorem reading_typeName (text : String) :
    reading (typeName text).toList = spelling text.toList := by
  rw [toList_typeName, ← spelling_camel none]
  have halnum : ∀ c ∈ stem text, c.isAlphanum = true := fun _ => isAlphanum_of_mem_stem
  unfold guardDigit
  split
  · rfl
  · unfold reading
    split
    · rename_i rest hguard
      exact absurd (halnum '_' (hguard ▸ List.mem_cons_self)) (by decide)
    · rfl

/-! ### A path -/

theorem Segment.spelling_eq (segment : Segment) :
    segment.spelling = Name.spelling segment.word.toList := by
  cases segment with
  | property name =>
    show Name.spelling ("." ++ name).toList = _
    rw [String.toList_append, spelling_append]
    rfl
  | case key =>
    show Name.spelling (".oneOf[" ++ key ++ "]").toList = Name.spelling ("oneOf" ++ key).toList
    simp only [String.toList_append, spelling_append]
    rw [show Name.spelling "]".toList = [] by decide, List.append_nil]
    rfl

theorem spelling_flatMap_word (path : List Segment) :
    spelling (path.flatMap fun segment => segment.word.toList) = spellingOf path := by
  induction path with
  | nil => rfl
  | cons segment path ih =>
    rw [List.flatMap_cons, spelling_append, ih, ← segment.spelling_eq]
    rfl

/-- The name of a position reads as its path, at every depth. -/
theorem reading_position (root : String) (path : List Segment) :
    reading (typeName (position root path)).toList =
      spelling (root.toList ++ path.flatMap fun segment => segment.word.toList) := by
  rw [reading_typeName, ← spelling_typeName, spelling_position, spelling_append,
    spelling_flatMap_word]

end Name

/-! ### A batch -/

namespace Build

/-- The edition of a document, whose names start from its identifier. -/
structure IsEditionOf (document : Json) (edition : Edition) : Prop where
  identifier : document.present? "$id" = some edition.source.id
  position : positionOf edition.source.id = .ok edition.source.position
  shape : Shape.ofJson "#" document = .ok edition.source.shape

theorem isEditionOf {document : Json} {edition : Edition}
    (h : Source.ofJson document = .ok edition.source) : IsEditionOf document edition := by
  obtain ⟨id, hid, h⟩ := bind_ok h
  obtain ⟨shape, hshape, h⟩ := bind_ok h
  obtain ⟨position, hposition, h⟩ := bind_ok h
  obtain ⟨number, source, type⟩ := edition
  cases h
  refine ⟨?_, hposition, hshape⟩
  unfold identifierOf at hid
  split at hid
  · split at hid
    · cases hid
      assumption
    · cases hid
  · cases hid

/-- **Names lose nothing and invent nothing.** A name is empty just if its text has no letter and
no digit, has the form of a name otherwise, and reads as the letters and digits of the text. So
does the name of every position along its path; in a batch that compiles, that is the name of
every type. -/
theorem compileAll_letters :
    (∀ text : String,
      (Name.typeName text = "" ↔ ∀ c ∈ text.toList, c.isAlphanum = false) ∧
      (Name.typeName text ≠ "" → Name.IsTypeName (Name.typeName text).toList) ∧
      Name.reading (Name.typeName text).toList = Name.spelling text.toList) ∧
    (∀ (root : String) (path : List Name.Segment),
      Name.reading (Name.typeName (Name.position root path)).toList =
        Name.spelling (root.toList ++ path.flatMap fun segment => segment.word.toList)) ∧
    ∀ (config : Config) (customize? : Option Customizer) (documents : List Json)
      (after : Registry), (config.setting customize?).KeepsNames →
      (compileAll config customize? documents).on .empty = (.ok (), after) →
      ∃ editions, List.Forall₂ IsEditionOf documents editions ∧
        ∀ edition ∈ editions, ∀ trail inner, edition.source.shape.At trail inner →
          inner.IsNamed → ∃ type name, Shown after edition trail inner type ∧
            type.name? = some name ∧
            Name.reading name.toList =
              Name.spelling (edition.source.position.toList ++
                (pathOf trail).flatMap fun segment => segment.word.toList) := by
  refine ⟨fun text => ⟨Name.typeName_eq_empty_iff text, Name.isTypeName_typeName,
    Name.reading_typeName text⟩, Name.reading_position, ?_⟩
  intro config customize? documents after hkeeps hrun
  obtain ⟨editions, ledger, rfl, -, hrecorded⟩ :=
    compileAll_records List.nodup_range List.length_range hrun
  refine ⟨editions, ?_, fun edition hedition trail inner hat hnamed => ?_⟩
  · exact (List.forall₂_map_right_iff.1 hrecorded.passes).imp fun _ _ h => isEditionOf h.source_eq
  · obtain ⟨type, hshown, hname⟩ := hrecorded.exists_named hkeeps hedition hat hnamed
    exact ⟨type, _, hshown, hname, Name.reading_position _ _⟩

/-- The objects under `b`, and under `c` in that one, have names that read `ab` and `abc`. -/
theorem compileAll_letters_nested :
    let config : Config := { checkMode := .off }
    let registry := ((compileAll config none [nestedDocument]).on .empty).2
    Name.IsTypeName (Name.typeName "3d-model").toList ∧
    ∃ edition type type' name name', IsEditionOf nestedDocument edition ∧
      Shown registry edition [.property 0 "b"] middleShape type ∧ type.name? = some name ∧
      Shown registry edition [.property 0 "b", .property 0 "c"] innerShape type' ∧
      type'.name? = some name' ∧ Name.reading name.toList = ['a', 'b'] ∧
      Name.reading name'.toList = ['a', 'b', 'c'] := by
  intro config registry
  have hrun : (compileAll config none [nestedDocument]).on .empty = (.ok (), registry) :=
    on_eq_of_isOk (by decide +kernel)
  obtain ⟨htext, -, hbatch⟩ := compileAll_letters
  obtain ⟨editions, heditions, hnames⟩ :=
    hbatch config none _ _ (Setting.keepsNames_plain config.emptyField) hrun
  obtain ⟨edition, _, hedition, -, rfl⟩ := List.forall₂_cons_left_iff.1 heditions
  have hroot : edition.source.position = "a" := by
    have hid := hedition.identifier
    have hposition := hedition.position
    rw [← Option.some.inj hid] at hposition
    exact (Except.ok.inj hposition).symm
  have hshape : edition.source.shape = outerShape := by
    have houter : Shape.ofJson "#" nestedDocument = .ok outerShape := by with_unfolding_all rfl
    exact Except.ok.inj (hedition.shape.symm.trans houter)
  have hnames := hnames edition List.mem_cons_self
  rw [hroot, hshape] at hnames
  obtain ⟨type, name, hshown, hname, hreading⟩ :=
    hnames [.property 0 "b"] middleShape (.property rfl .here) trivial
  obtain ⟨type', name', hshown', hname', hreading'⟩ :=
    hnames [.property 0 "b", .property 0 "c"] innerShape (.property rfl (.property rfl .here))
      trivial
  refine ⟨(htext "3d-model").2.1 (by decide +kernel), edition, type, type', name, name', hedition,
    hshown, hname, hshown', hname', hreading.trans ?_, hreading'.trans ?_⟩
  all_goals decide +kernel

end Build
end SchemaGraph
