import SchemaGraph.Proofs.Batch.Shown
import SchemaGraph.Proofs.Graph.Naming

/-! The names that positions get.

In a batch that compiles, every object, enum and union of every document has a type, and
its name is that of its position, unless the customizer gave another
(`compileAll_names`). The name is made step by step, so it is the name of the full path
just where no capitals were lost on the way, which can be read off the path.

Two positions of a document can get one name. Then their paths are spelled alike, so this
cannot happen where the keys below every object and every union are spelled apart
(`compileAll_names_ne`). -/
namespace SchemaGraph

/-- The customizer, if there is one, gives no names. -/
def Setting.KeepsNames (setting : Setting) : Prop :=
  ∀ form? name site draft, setting.draft form? name site = .ok draft → draft.name = .str name

theorem Setting.keepsNames_plain (emptyField : Json) :
    ({ emptyField } : Setting).KeepsNames := by
  intro form? name site draft hdraft
  rw [draft_plain] at hdraft
  cases hdraft
  rfl

theorem checkName_eq {hasUnknown : Bool} {text name : String}
    (h : checkName hasUnknown (.str text) = .ok name) : name = text := by
  cases hasUnknown with
  | false => exact (checkName_iff.1 h).2
  | true =>
    have hkey : (Json.str text).isKey = true := rfl
    by_cases hreserved : text ∈ reservedNames <;>
      simp [checkName, hkey, hreserved, throw, throwThe, MonadExceptOf.throw, bind,
        Except.bind] at h

theorem Build.checkName_of_checkDraft {draft : Draft} {name : String}
    (h : checkDraft draft = .ok name) : checkName draft.hasUnknown draft.name = .ok name := by
  unfold checkDraft at h
  cases hunnamed : draft.hasUnnamed with
  | true =>
    rw [hunnamed] at h
    cases h
  | false =>
    rw [hunnamed] at h
    obtain ⟨checked, hchecked, h⟩ := bind_ok h
    cases hadditions : draft.additions.truthy && draft.additions.elements?.isNone with
    | true =>
      rw [hadditions] at h
      cases h
    | false =>
      rw [hadditions] at h
      cases h
      exact hchecked

/-- A type goes by the name of its draft. -/
theorem Draft.info_name {draft : Draft} {key : Nat} {info : TypeInfo} {text : String}
    (h : draft.info key = .ok info) (htext : draft.name = .str text) : info.name = text := by
  obtain ⟨name, hname, h⟩ := bind_ok h
  cases h
  have hchecked := Build.checkName_of_checkDraft hname
  rw [htext] at hchecked
  exact checkName_eq hchecked

namespace Setting

variable {setting : Setting} {name : String} {site : Site} {key : Nat}

theorem KeepsNames.info_name (h : setting.KeepsNames) {form? : Option TypeForm}
    {info : TypeInfo} (hinfo : setting.info form? name site key = .ok info) :
    info.name = name := by
  obtain ⟨draft, hdraft, hinfo⟩ := bind_ok hinfo
  exact Draft.info_name hinfo (h _ _ _ _ hdraft)

theorem KeepsNames.enumOf_name (h : setting.KeepsNames) {literals : List Json} {base : Json}
    {info : TypeInfo} {values : ValueMap}
    (henum : setting.enumOf name site literals base key = .ok (.enum info values)) :
    info.name = name := by
  obtain ⟨_, -, henum⟩ := bind_ok henum
  obtain ⟨draft, hdraft, henum⟩ := bind_ok henum
  obtain ⟨info', hinfo, henum⟩ := bind_ok henum
  cases henum
  exact Draft.info_name hinfo (h _ _ _ _ hdraft)

end Setting

/-- A type that stands for an object, an enum or a union has the name of its position. -/
theorem Ledger.Stands.name?_eq {setting : Setting} {ledger : Ledger} {place : Place}
    {position : String} {shape : Shape} {type : GraphType} (hkeeps : setting.KeepsNames)
    (h : ledger.Stands setting place position shape type) (hnamed : shape.IsNamed) :
    type.name? = some (Name.typeName position) := by
  cases h with
  | union hinfo => exact congrArg some (hkeeps.info_name hinfo)
  | object hinfo => exact congrArg some (hkeeps.info_name hinfo)
  | enum henum => exact congrArg some (hkeeps.enumOf_name henum)
  | array => cases hnamed
  | reference => cases hnamed
  | primitive => cases hnamed

namespace Build

variable {config : Config} {customize? : Option Customizer} {documents : List Json}
  {editions : List Edition} {ledger : Ledger}

/-- Every object, enum and union of an edition has a type of the name of its position. -/
theorem Recorded.exists_named (h : Recorded config customize? documents editions ledger)
    (hkeeps : (config.setting customize?).KeepsNames) {edition : Edition}
    (hedition : edition ∈ editions) {trail : List Turn} {inner : Shape}
    (hat : edition.source.shape.At trail inner) (hnamed : inner.IsNamed) :
    ∃ type, Shown ledger.registry edition trail inner type ∧
      type.name? =
        some (Name.typeName (Name.position edition.source.position (pathOf trail))) := by
  obtain ⟨type, hshown⟩ := h.exists_shown hedition hat
  obtain ⟨before, rest, heditions⟩ := List.append_of_mem hedition
  exact ⟨type, hshown, (h.records.stands_of_shown heditions hshown).name?_eq hkeeps hnamed⟩

/-- **Every object, enum and union gets the name of its position.** That is the name of the full
path exactly if the position is the root or the name of the full path above is steady. -/
theorem compileAll_names {after : Registry} (hkeeps : (config.setting customize?).KeepsNames)
    (hrun : (compileAll config customize? documents).on .empty = (.ok (), after)) :
    ∃ editions ledger, ledger.registry = after ∧
      Recorded config customize? documents editions ledger ∧
      ∀ edition ∈ editions, ∀ trail inner, edition.source.shape.At trail inner →
        inner.IsNamed → ∃ type name, Shown after edition trail inner type ∧
          type.name? = some name ∧
          name = Name.typeName (Name.position edition.source.position (pathOf trail)) ∧
          (name = Name.typeName (Name.fullPath edition.source.position (pathOf trail)) ↔
            pathOf trail = [] ∨ Name.IsSteady
              (Name.typeName (Name.fullPath edition.source.position (pathOf trail).dropLast))) := by
  obtain ⟨editions, ledger, rfl, -, hrecorded⟩ :=
    compileAll_records List.nodup_range List.length_range hrun
  refine ⟨editions, ledger, rfl, hrecorded, fun edition hedition trail inner hat hnamed => ?_⟩
  obtain ⟨type, hshown, hname⟩ := hrecorded.exists_named hkeeps hedition hat hnamed
  exact ⟨type, _, hshown, hname, rfl, Name.typeName_position_eq_iff _ _⟩

/-- An object under `b` in the document `a`, and in it another one under `c`. -/
def nestedDocument : Json :=
  .obj [("$id", .str "a"), ("type", .str "object"), ("properties", .obj [("b",
    .obj [("type", .str "object"), ("properties", .obj [("c", .obj [("type", .str "object")])])])])]

def innerShape : Shape := .object { path := "#/properties/b/properties/c" } [] []

def middleShape : Shape := .object { path := "#/properties/b" } [] [("c", innerShape)]

def outerShape : Shape := .object { path := "#" } [] [("b", middleShape)]

theorem ofJson_nestedDocument :
    Source.ofJson nestedDocument = .ok ⟨.str "a", "a", outerShape⟩ := by with_unfolding_all rfl

/-- The object under `b` has the name of its path. The name `AB` is not steady, so the object
under `c` has another one. -/
theorem compileAll_names_nested :
    let config : Config := { checkMode := .off }
    let registry := ((compileAll config none [nestedDocument]).on .empty).2
    ∃ edition type type' shape shape',
      Shown registry edition [.property 0 "b"] shape type ∧ type.name? = some "AB" ∧
      "AB" = Name.typeName "a.b" ∧
      Shown registry edition [.property 0 "b", .property 0 "c"] shape' type' ∧
      type'.name? = some "AbC" ∧ "AbC" ≠ Name.typeName "a.b.c" := by
  intro config registry
  have hrun : (compileAll config none [nestedDocument]).on .empty = (.ok (), registry) :=
    on_eq_of_isOk (by decide +kernel)
  obtain ⟨editions, ledger, -, hrecorded, hnames⟩ :=
    compileAll_names (Setting.keepsNames_plain config.emptyField) hrun
  obtain ⟨edition, hmem, hedition⟩ :=
    hrecorded.exists_edition List.mem_cons_self ofJson_nestedDocument
  have hmiddle := hnames edition hmem [.property 0 "b"] middleShape
  have hinner := hnames edition hmem [.property 0 "b", .property 0 "c"] innerShape
  rw [hedition] at hmiddle hinner
  obtain ⟨type, name, hshown, hname, rfl, -⟩ := hmiddle (.property rfl .here) trivial
  obtain ⟨type', name', hshown', hname', rfl, -⟩ :=
    hinner (.property rfl (.property rfl .here)) trivial
  refine ⟨edition, type, type', _, _, hshown, hname.trans ?_, ?_, hshown', hname'.trans ?_, ?_⟩
  all_goals decide +kernel

/-! ### Positions of one name -/

/-- **Two positions of a document have one name only if their paths are spelled alike**, which
cannot be where keys are spelled apart. -/
theorem compileAll_names_ne {document : Json} {after : Registry}
    (hkeeps : (config.setting customize?).KeepsNames)
    (hrun : (compileAll config customize? [document]).on .empty = (.ok (), after)) :
    ∃ edition ledger, ledger.registry = after ∧
      Recorded config customize? [document] [edition] ledger ∧
      ∀ trail trail' inner inner', edition.source.shape.At trail inner →
        edition.source.shape.At trail' inner' → inner.IsNamed → inner'.IsNamed → trail ≠ trail' →
        ∃ type type' name name', Shown after edition trail inner type ∧
          Shown after edition trail' inner' type' ∧ type.name? = some name ∧
          type'.name? = some name' ∧
          (name = name' → Name.spellingOf (pathOf trail) = Name.spellingOf (pathOf trail')) ∧
          ((∀ further part, edition.source.shape.At further part → part.SpellsApart) →
            name ≠ name') := by
  obtain ⟨editions, ledger, rfl, hnumbers, hrecorded⟩ :=
    compileAll_records (List.nodup_singleton 0) rfl hrun
  obtain ⟨edition, rfl⟩ : ∃ edition, editions = [edition] := by
    obtain ⟨edition, rfl, -⟩ := List.map_eq_singleton_iff.1 hnumbers
    exact ⟨edition, rfl⟩
  refine ⟨edition, ledger, rfl, hrecorded, ?_⟩
  intro trail trail' inner inner' hat hat' hnamed hnamed' hne
  obtain ⟨type, hshown, hname⟩ := hrecorded.exists_named hkeeps List.mem_cons_self hat hnamed
  obtain ⟨type', hshown', hname'⟩ := hrecorded.exists_named hkeeps List.mem_cons_self hat' hnamed'
  refine ⟨type, type', _, _, hshown, hshown', hname, hname',
    Name.spellingOf_eq_of_typeName_eq, fun hapart heq => hne ?_⟩
  exact hat.eq_of_spelling hat' hnamed hnamed' hapart (Name.spellingOf_eq_of_typeName_eq heq)

theorem spellsApart_nestedDocument {trail : List Turn} {part : Shape}
    (h : outerShape.At trail part) : part.SpellsApart := by
  have hsingle (name : String) (shape : Shape)
      (hname : (Name.Segment.property name).spelling ≠ []) :
      (Shape.object { path := "" } [] [(name, shape)]).SpellsApart :=
    ⟨List.pairwise_singleton _ _, fun entry hentry => by rwa [List.mem_singleton.1 hentry]⟩
  cases h with
  | here => exact hsingle "b" middleShape (by decide +kernel)
  | property hproperty h =>
    cases List.mem_singleton.1 (List.mem_of_getElem? hproperty)
    cases h with
    | here => exact hsingle "c" innerShape (by decide +kernel)
    | property hproperty h =>
      cases List.mem_singleton.1 (List.mem_of_getElem? hproperty)
      cases h with
      | here => exact ⟨.nil, fun _ hentry => nomatch hentry⟩
      | property hproperty _ => cases hproperty

/-- The keys `b` and `c` are spelled apart, so the two objects of the nested document get
different names. -/
theorem compileAll_names_ne_nested :
    let config : Config := { checkMode := .off }
    let registry := ((compileAll config none [nestedDocument]).on .empty).2
    ∃ edition type type' name name',
      Shown registry edition [.property 0 "b"] middleShape type ∧
      Shown registry edition [.property 0 "b", .property 0 "c"] innerShape type' ∧
      type.name? = some name ∧ type'.name? = some name' ∧ name ≠ name' := by
  intro config registry
  have hrun : (compileAll config none [nestedDocument]).on .empty = (.ok (), registry) :=
    on_eq_of_isOk (by decide +kernel)
  obtain ⟨edition, ledger, -, hrecorded, hnames⟩ :=
    compileAll_names_ne (Setting.keepsNames_plain config.emptyField) hrun
  obtain ⟨other, hmem, hedition⟩ :=
    hrecorded.exists_edition List.mem_cons_self ofJson_nestedDocument
  rw [List.mem_singleton.1 hmem] at hedition
  rw [hedition] at hnames
  obtain ⟨type, type', name, name', hshown, hshown', hname, hname', -, hne⟩ :=
    hnames [.property 0 "b"] [.property 0 "b", .property 0 "c"] middleShape innerShape
      (.property rfl .here) (.property rfl (.property rfl .here)) trivial trivial (by simp)
  exact ⟨edition, type, type', name, name', hshown, hshown', hname, hname',
    hne fun _ _ => spellsApart_nestedDocument⟩

/-- Where keys are not spelled apart, two objects of one document can get one name, though no
object repeats a key and the full paths have different names. -/
theorem compileAll_names_clash :
    let config : Config := { checkMode := .off }
    let document : Json := .obj [("$id", .str "ab"), ("type", .str "object"), ("properties", .obj [
      ("c", .obj [("type", .str "object"), ("properties", .obj [
        ("d", .obj [("type", .str "object"), ("properties", .obj [
          ("ef", .obj [("type", .str "object")])])])])]),
      ("cd_ef", .obj [("type", .str "object")])])]
    let registry := ((compileAll config none [document]).on .empty).2
    (compileAll config none [document]).on .empty = (.ok (), registry) ∧
      ∃ edition type type' shape shape',
        Shown registry edition [.property 0 "c", .property 0 "d", .property 0 "ef"] shape type ∧
        Shown registry edition [.property 1 "cd_ef"] shape' type' ∧
        shape.IsNamed ∧ shape'.IsNamed ∧ type.name? = type'.name? ∧
        Name.typeName "ab.c.d.ef" ≠ Name.typeName "ab.cd_ef" := by
  intro config document registry
  have hrun : (compileAll config none [document]).on .empty = (.ok (), registry) :=
    on_eq_of_isOk (by decide +kernel)
  obtain ⟨editions, ledger, heq, -, hrecorded⟩ :=
    compileAll_records (List.nodup_singleton 0) rfl hrun
  let first : Shape := .object { path := "#/properties/c/properties/d/properties/ef" } [] []
  let second : Shape := .object { path := "#/properties/cd_ef" } [] []
  have hsource : Source.ofJson document = .ok ⟨.str "ab", "ab", .object { path := "#" } [] [
      ("c", .object { path := "#/properties/c" } [] [
        ("d", .object { path := "#/properties/c/properties/d" } [] [("ef", first)])]),
      ("cd_ef", second)]⟩ := by with_unfolding_all rfl
  obtain ⟨edition, hmem, hedition⟩ := hrecorded.exists_edition List.mem_cons_self hsource
  have hkeeps := Setting.keepsNames_plain config.emptyField
  have hfirst : edition.source.shape.At
      [.property 0 "c", .property 0 "d", .property 0 "ef"] first := by
    rw [hedition]
    exact .property rfl (.property rfl (.property rfl .here))
  have hsecond : edition.source.shape.At [.property 1 "cd_ef"] second := by
    rw [hedition]
    exact .property rfl .here
  obtain ⟨type, hshown, hname⟩ := hrecorded.exists_named hkeeps hmem hfirst trivial
  obtain ⟨type', hshown', hname'⟩ := hrecorded.exists_named hkeeps hmem hsecond trivial
  rw [heq] at hshown hshown'
  rw [hedition] at hname hname'
  refine ⟨hrun, edition, type, type', first, second, hshown, hshown', trivial, trivial, ?_, ?_⟩
  · rw [hname, hname']
    decide +kernel
  · decide +kernel

end Build
end SchemaGraph
