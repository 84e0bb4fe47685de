import Mathlib.Data.List.Find
import SchemaGraph.Proofs.Batch.Sources
import SchemaGraph.Proofs.Graph.Isomorphism
import SchemaGraph.Proofs.Json.Equality

/-! Where a type stands in its batch.

A graph can be read along the documents that it was compiled from (`Located`): an entry
stands at its document, and the parts of a type stand at the parts of its shape. Reading
stops at references, since the type there is another document's
(`Ledger.Holds.find?_located`).

A place holds one type (`Ledger.Holds.located_unique`), and every type that can be
reached is at a place whose shape is no reference (`Ledger.Holds.sits_of_reaches`). -/
namespace SchemaGraph

/-- The type that is found by reading along the documents down to the place. -/
inductive Located (registry : Registry) (sources : List Source) :
    Place → String → Shape → GraphType → Prop where
  | document {source type} (hsource : source ∈ sources)
      (hfind : registry.find? source.id = some type) :
      Located registry sources (.document source.id) source.position source.shape type
  | member {place position site cases info members key shape member} {index : Nat}
      (h : Located registry sources place position (.union site cases) (.union info members))
      (hcase : cases[index]? = some (key, shape)) (hmember : members[index]? = some member) :
      Located registry sources (place.case index) s!"{Name.typeName position}.oneOf[{key}]"
        shape member
  | item {place position site items key item}
      (h : Located registry sources place position (.array site items)
        (.list key (.nonNull item))) :
      Located registry sources place.item position items item
  | field {place position site required properties info plan fields property shape type}
      {index : Nat}
      (h : Located registry sources place position (.object site required properties)
        (.object info plan))
      (hplanned : info.fields? = none)
      (hbuilt : registry.built.lookup plan.key = some (.ofProperties fields))
      (hproperty : properties[index]? = some (property, shape))
      (hfield : fields[index]? = some (.ofProperty required property shape type)) :
      Located registry sources (place.property index) s!"{Name.typeName position}.{property}"
        shape type

theorem Field.ofProperty_inj {required : List Json} {property : String} {shape : Shape}
    {a b : GraphType} (h : Field.ofProperty required property shape a =
      Field.ofProperty required property shape b) : a = b := by
  have htype := congrArg Field.type h
  simp only [Field.ofProperty] at htype
  split at htype
  · exact GraphType.nonNull.inj htype
  · exact htype

/-! ### Finding sources -/

namespace Ledger.Holds

variable {setting : Setting} {ledger : Ledger} {sources : List Source}

/-- The type of an entry stands at the document of a source. -/
theorem find?_stands (h : ledger.Holds setting sources) {target : Json} {type : GraphType}
    (hfind : ledger.registry.find? target = some type) :
    ∃ source ∈ sources, Json.same source.id target = true ∧
      ledger.Stands setting (.document source.id) source.position source.shape type := by
  obtain ⟨⟨id, type⟩, hentry, rfl⟩ := Option.map_eq_some_iff.1 hfind
  have hsame := List.find?_some hentry
  obtain ⟨source, hsource, rfl, hstands⟩ :=
    forall₂_exists h.entries.flip (List.mem_of_find?_eq_some hentry)
  exact ⟨source, hsource, hsame, hstands⟩

/-- No two sources go by one target. -/
theorem source_eq (h : ledger.Holds setting sources) {a b : Source} {target : Json}
    (ha : a ∈ sources) (hb : b ∈ sources) (hsame : Json.same a.id target = true)
    (hsame' : Json.same b.id target = true) : a = b := by
  have hka := h.isKey a ha
  have hkb := h.isKey b hb
  have hmeasure : a.id.measure? = b.id.measure? :=
    ((Json.same_key_iff hka).1 hsame).trans ((Json.same_key_iff hkb).1 hsame').symm
  obtain ⟨i, hi, rfl⟩ := List.getElem_of_mem ha
  obtain ⟨j, hj, rfl⟩ := List.getElem_of_mem hb
  have hdistinct := List.pairwise_iff_getElem.1 h.distinct
  rcases Nat.lt_trichotomy i j with hlt | rfl | hgt
  · have := hdistinct i j hi hj hlt
    rw [(Json.same_key_iff hka).2 hmeasure] at this
    cases this
  · rfl
  · have := hdistinct j i hj hi hgt
    rw [(Json.same_key_iff hkb).2 hmeasure.symm] at this
    cases this

/-- A source is found under every target that it goes by. -/
theorem find?_eq (h : ledger.Holds setting sources) {source : Source} {target : Json}
    (hsource : source ∈ sources) (hsame : Json.same source.id target = true) :
    ledger.registry.find? source.id = ledger.registry.find? target := by
  have hkey := h.isKey source hsource
  have hmeasure := (Json.same_key_iff hkey).1 hsame
  have hids : ∀ entry ∈ ledger.registry.entries,
      Json.same entry.1 source.id = Json.same entry.1 target := by
    intro entry hentry
    obtain ⟨other, hother, hid, -⟩ := forall₂_exists h.entries.flip hentry
    have hentryKey : entry.1.isKey = true := hid ▸ h.isKey other hother
    rw [Bool.eq_iff_iff, Json.same_key_iff hentryKey, Json.same_key_iff hentryKey, hmeasure]
  rw [Registry.find?, Registry.find?, List.find?_congr hids]

theorem exists_find? (h : ledger.Holds setting sources) {source : Source}
    (hsource : source ∈ sources) : ∃ type, ledger.registry.find? source.id = some type := by
  rw [Registry.exists_find?_iff, h.ids_eq]
  exact ⟨source.id, List.mem_map_of_mem hsource, Json.same_refl_of_isKey (h.isKey source hsource)⟩

/-- Every entry is found under its own identifier. -/
theorem find?_of_mem (h : ledger.Holds setting sources) {entry : Json × GraphType}
    (hentry : entry ∈ ledger.registry.entries) :
    ledger.registry.find? entry.1 = some entry.2 := by
  have hapart : ledger.registry.ids.Pairwise fun a b => Json.same a b = false := by
    rw [h.ids_eq, List.pairwise_map]
    exact h.distinct
  obtain ⟨source, hsource, hid, -⟩ := forall₂_exists h.entries.flip hentry
  refine Registry.find?_of_mem hapart hentry ?_
  rw [hid]
  exact Json.same_refl_of_isKey (h.isKey source hsource)

/-! ### What is located -/

theorem stands_of_located (h : ledger.Holds setting sources) {place : Place} {position : String}
    {shape : Shape} {type : GraphType}
    (hlocated : Located ledger.registry sources place position shape type) :
    ledger.Stands setting place position shape type := by
  induction hlocated with
  | @document source type hsource hfind =>
    obtain ⟨other, hother, hsame, hstands⟩ := h.find?_stands hfind
    have hself := Json.same_refl_of_isKey (h.isKey source hsource)
    rwa [h.source_eq hother hsource hsame hself] at hstands
  | member _ hcase hmember ih =>
    cases ih with
    | union _ _ _ hmembers => exact hmembers _ _ _ _ hcase hmember
  | item _ ih =>
    cases ih with
    | array _ hitem => exact hitem
  | field _ hplanned hbuilt hproperty hfield ih =>
    cases ih with
    | object _ _ hplan hplanKey =>
      cases h.sound.fills _ hplan _ _ hbuilt hplanKey with
      | ofProperties _ _ _ hfields =>
        obtain ⟨type, heq, hstands⟩ := hfields _ _ _ _ hproperty hfield
        rwa [Field.ofProperty_inj heq]

/-- A place holds one type. -/
theorem located_unique (h : ledger.Holds setting sources) {place : Place}
    {position position' : String} {shape shape' : Shape} {type type' : GraphType}
    (hlocated : Located ledger.registry sources place position shape type)
    (hlocated' : Located ledger.registry sources place position' shape' type') :
    position = position' ∧ shape = shape' ∧ type = type' := by
  induction hlocated generalizing position' shape' type' with
  | @document source type hsource hfind =>
    generalize hplace : Place.document source.id = place at hlocated'
    cases hlocated' with
    | @document source' type' hsource' hfind' =>
      have hid : source.id = source'.id := Place.document.inj hplace
      have hself := Json.same_refl_of_isKey (h.isKey source' hsource')
      obtain rfl : source = source' := h.source_eq hsource hsource' (hid ▸ hself) hself
      rw [hfind] at hfind'
      exact ⟨rfl, rfl, Option.some.inj hfind'⟩
    | _ => cases hplace
  | member h' hcase hmember ih =>
    cases hlocated' with
    | member h'' hcase' hmember' =>
      obtain ⟨rfl, hshape, htype⟩ := ih h''
      cases hshape
      cases htype
      rw [hcase] at hcase'
      rw [hmember] at hmember'
      cases hcase'
      cases hmember'
      exact ⟨rfl, rfl, rfl⟩
  | item h' ih =>
    cases hlocated' with
    | item h'' =>
      obtain ⟨rfl, hshape, htype⟩ := ih h''
      cases hshape
      cases htype
      exact ⟨rfl, rfl, rfl⟩
  | field h' hplanned hbuilt hproperty hfield ih =>
    cases hlocated' with
    | field h'' hplanned' hbuilt' hproperty' hfield' =>
      obtain ⟨rfl, hshape, htype⟩ := ih h''
      cases hshape
      cases htype
      rw [hbuilt] at hbuilt'
      cases hbuilt'
      rw [hproperty] at hproperty'
      cases hproperty'
      rw [hfield] at hfield'
      exact ⟨rfl, rfl, Field.ofProperty_inj (Option.some.inj hfield')⟩

end Ledger.Holds

/-! ### Following references -/

/-- No type is made for the shape. -/
def Shape.isReference : Shape → Bool
  | .reference _ _ => true
  | _ => false

/-- The source that a target leads to in the end, through sources that are references
themselves. -/
inductive Ends (sources : List Source) : Json → Source → Prop where
  | here {source target} (hsource : source ∈ sources)
      (hsame : Json.same source.id target = true) (hshape : source.shape.isReference = false) :
      Ends sources target source
  | there {source target site next last} (hsource : source ∈ sources)
      (hsame : Json.same source.id target = true)
      (hshape : source.shape = .reference site next) (h : Ends sources next last) :
      Ends sources target last

theorem Ends.mem {sources : List Source} {target : Json} {source : Source}
    (h : Ends sources target source) : source ∈ sources := by
  induction h with
  | here hsource => exact hsource
  | there _ _ _ _ ih => exact ih

theorem Ends.isReference_eq {sources : List Source} {target : Json} {source : Source}
    (h : Ends sources target source) : source.shape.isReference = false := by
  induction h with
  | here _ _ hshape => exact hshape
  | there _ _ _ _ ih => exact ih

namespace Ledger.Holds

variable {setting : Setting} {ledger : Ledger} {sources : List Source}

/-- A document that is itself a reference leads to an earlier one. -/
theorem exists_earlier (h : ledger.Holds setting sources) {before rest : List Source}
    {source : Source} {site : Site} {target : Json} (hsources : sources = before ++ source :: rest)
    (hshape : source.shape = .reference site target) :
    ∃ other ∈ before, Json.same other.id target = true := by
  obtain ⟨earlier, -, hids, type, hstands⟩ := h.stood before source rest hsources
  rw [hshape] at hstands
  cases hstands with
  | reference _ hfind =>
    obtain ⟨id, hid, hsame⟩ := Registry.exists_find?_iff.1 ⟨_, hfind⟩
    rw [hids] at hid
    obtain ⟨other, hother, rfl⟩ := List.mem_map.1 hid
    exact ⟨other, hother, hsame⟩

/-- References at the roots of documents cannot go round in circles. -/
theorem exists_ends (h : ledger.Holds setting sources) {source : Source} {target : Json}
    (hsource : source ∈ sources) (hsame : Json.same source.id target = true) :
    ∃ last, Ends sources target last := by
  obtain ⟨before, rest, hsources⟩ := List.append_of_mem hsource
  -- The number of sources before goes down with every reference.
  induction hn : before.length using Nat.strong_induction_on
    generalizing before rest source target with
  | _ n ih =>
    cases hshape : source.shape with
    | reference site next =>
      obtain ⟨other, hother, hsame'⟩ := h.exists_earlier hsources hshape
      obtain ⟨before', rest', rfl⟩ := List.append_of_mem hother
      have hlt : before'.length < n := by
        rw [← hn, List.length_append, List.length_cons]
        omega
      have hmem : other ∈ sources := hsources ▸ List.mem_append_left _ hother
      obtain ⟨last, hlast⟩ := ih _ hlt hmem hsame' before' (rest' ++ source :: rest)
        (by rw [hsources, List.append_assoc, List.cons_append]) rfl
      exact ⟨last, .there hsource hsame hshape hlast⟩
    | _ => exact ⟨source, .here hsource hsame (by rw [hshape]; rfl)⟩

/-- A target has the type of the source that it leads to in the end. -/
theorem find?_ends (h : ledger.Holds setting sources) {source : Source} {target : Json}
    {type : GraphType} (hends : Ends sources target source)
    (hfind : ledger.registry.find? target = some type) :
    ledger.registry.find? source.id = some type := by
  induction hends with
  | here hsource hsame => rwa [h.find?_eq hsource hsame]
  | there hsource hsame hshape _ ih =>
    rw [← h.find?_eq hsource hsame] at hfind
    have hstands := h.stands_of_located (.document hsource hfind)
    rw [hshape] at hstands
    cases hstands with
    | reference _ hnext => exact ih hnext

/-- The type of an entry stands at a document that is no reference. -/
theorem find?_located (h : ledger.Holds setting sources) {target : Json} {type : GraphType}
    (hfind : ledger.registry.find? target = some type) : ∃ source,
      Ends sources target source ∧ Located ledger.registry sources (.document source.id)
        source.position source.shape type := by
  obtain ⟨source, hsource, hsame, -⟩ := h.find?_stands hfind
  obtain ⟨last, hlast⟩ := h.exists_ends hsource hsame
  exact ⟨last, hlast, .document hlast.mem (h.find?_ends hlast hfind)⟩

end Ledger.Holds

/-! ### What can be reached -/

theorem Located.reaches {registry : Registry} {sources : List Source} {place : Place}
    {position : String} {shape : Shape} {type : GraphType}
    (h : Located registry sources place position shape type) : registry.Reaches type := by
  induction h with
  | document _ hfind => exact .entry hfind
  | member _ _ hmember ih => exact .member ih (List.mem_of_getElem? hmember)
  | item _ ih => exact .inner (.item ih)
  | @field _ _ _ required _ _ _ _ property _ _ _ _ hplanned hbuilt _ hfield ih =>
    have hreaches := Registry.Reaches.field ih hplanned hbuilt (List.mem_of_getElem? hfield)
    simp only [Field.ofProperty] at hreaches
    split at hreaches
    · exact .inner hreaches
    · exact hreaches

/-- The type stands somewhere, and not at a reference. -/
def Sits (registry : Registry) (sources : List Source) (type : GraphType) : Prop :=
  ∃ place position shape, Located registry sources place position shape type ∧
    shape.isReference = false

namespace Ledger.Holds

variable {setting : Setting} {ledger : Ledger} {sources : List Source}

/-- A type that stands at a reference stands elsewhere too. -/
theorem sits_of_located (h : ledger.Holds setting sources) {place : Place} {position : String}
    {shape : Shape} {type : GraphType}
    (hlocated : Located ledger.registry sources place position shape type) :
    Sits ledger.registry sources type := by
  cases shape with
  | reference site target =>
    cases h.stands_of_located hlocated with
    | reference _ hfind =>
      obtain ⟨source, hends, hsits⟩ := h.find?_located hfind
      exact ⟨_, _, _, hsits, hends.isReference_eq⟩
  | _ => exact ⟨_, _, _, hlocated, rfl⟩

/-- Every type that can be reached stands somewhere, but for the wrapper of what is never
null. -/
theorem sits_of_reaches (h : ledger.Holds setting sources) {type : GraphType}
    (hreaches : ledger.registry.Reaches type) : Sits ledger.registry sources type ∨
      ∃ item, type = .nonNull item ∧ Sits ledger.registry sources item := by
  induction hreaches with
  | entry hfind =>
    obtain ⟨source, hends, hlocated⟩ := h.find?_located hfind
    exact .inl ⟨_, _, _, hlocated, hends.isReference_eq⟩
  | member _ hmember ih =>
    obtain ⟨place, position, shape, hlocated, hshape⟩ :=
      ih.resolve_right fun ⟨_, heq, _⟩ => nomatch heq
    cases h.stands_of_located hlocated with
    | reference => cases hshape
    | union _ _ hlength _ =>
      obtain ⟨index, hindex, rfl⟩ := List.getElem_of_mem hmember
      exact .inl (h.sits_of_located (.member hlocated
        (List.getElem?_eq_getElem (hlength ▸ hindex)) (List.getElem?_eq_getElem hindex)))
  | item _ ih =>
    obtain ⟨place, position, shape, hlocated, hshape⟩ :=
      ih.resolve_right fun ⟨_, heq, _⟩ => nomatch heq
    cases h.stands_of_located hlocated with
    | reference => cases hshape
    | array _ _ => exact .inr ⟨_, rfl, h.sits_of_located (.item hlocated)⟩
  | inner _ ih =>
    rcases ih with ⟨place, position, shape, hlocated, hshape⟩ | ⟨item, heq, hsits⟩
    · cases h.stands_of_located hlocated with
      | reference => cases hshape
    · cases heq
      exact .inl hsits
  | field _ hplanned hbuilt hfield ih =>
    obtain ⟨place, position, shape, hlocated, hshape⟩ :=
      ih.resolve_right fun ⟨_, heq, _⟩ => nomatch heq
    cases h.stands_of_located hlocated with
    | reference => cases hshape
    | object _ _ hplan hplanKey =>
      cases h.sound.fills _ hplan _ _ hbuilt hplanKey with
      | ofProperties _ _ hlength hfields =>
        obtain ⟨index, hindex, rfl⟩ := List.getElem_of_mem hfield
        have hproperty := List.getElem?_eq_getElem (hlength ▸ hindex)
        obtain ⟨type, heq, -⟩ := hfields index _ _ _ hproperty (List.getElem?_eq_getElem hindex)
        have hget := (List.getElem?_eq_getElem hindex).trans (congrArg some heq)
        have hsits := h.sits_of_located (.field hlocated hplanned hbuilt hproperty hget)
        rw [heq]
        simp only [Field.ofProperty]
        split
        · exact .inr ⟨type, rfl, hsits⟩
        · exact .inl hsits

/-- The plan of an object that can be reached is known. -/
theorem mem_plans (h : ledger.Holds setting sources) {info : TypeInfo} {plan : FieldPlan}
    (hreaches : ledger.registry.Reaches (.object info plan)) : plan ∈ ledger.registry.plans := by
  obtain ⟨place, position, shape, hlocated, hshape⟩ :=
    (h.sits_of_reaches hreaches).resolve_right fun ⟨_, heq, _⟩ => nomatch heq
  cases h.stands_of_located hlocated with
  | reference => cases hshape
  | object _ _ hplan _ => exact hplan

theorem isSettled (h : ledger.Holds setting sources) (hbuilt : ledger.registry.IsBuilt) :
    ledger.registry.IsSettled :=
  fun _ _ hreaches _ => hbuilt _ (h.mem_plans hreaches)

end Ledger.Holds
end SchemaGraph
