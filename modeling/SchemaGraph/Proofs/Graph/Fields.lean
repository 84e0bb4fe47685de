import SchemaGraph.Graph.Catalog
import SchemaGraph.Proofs.Graph.Bare
import SchemaGraph.Proofs.Graph.Place
import SchemaGraph.Proofs.Shape.Inversion
import SchemaGraph.Shape.Reading

/-! What fields read.

A field whose property goes by another name has a resolver that reads the property; every
other one is read by its own name, which is that of its property (`Field.read_ofProperty`).
The fields of an object are made of its properties one by one, in order, and none is made
under a name that is taken, so fields and properties go together (`buildFields_made`). On
the way only two things can go wrong: a property's schema, and a name that is taken. Types
that are built before leave the entries of the registry alone, so a schema that can be
built at first can be built in its turn, and then the fields are refused just if two
properties share a field (`buildFields_of_builds`). -/
namespace SchemaGraph

/-- A value that fields are read from: a mapping, or an object with attributes. -/
inductive Record where
  | mapping (members : List (String × Json))
  | object (attribute? : String → Option Json)

/-- What the record has under a name; null if it has nothing. -/
def Record.get (name : String) : Record → Json
  | mapping members => (Json.obj members).member name
  | object attribute? => (attribute? name).getD .null

namespace Field

/-- What reads a field whose property goes by another name. -/
def resolver? (field : Field) : Option (Record → Json) :=
  if field.isRenamed then field.property?.map Record.get else none

/-- What the field is on a record: by its resolver, or by its name if it has none. -/
def read (field : Field) (record : Record) : Json :=
  match field.resolver? with
  | some resolve => resolve record
  | none => record.get field.name

/-- Just the renamed fields have a resolver. -/
theorem isSome_resolver? (field : Field) : field.resolver?.isSome = field.isRenamed := by
  rw [resolver?]
  cases hrenamed : field.isRenamed with
  | false => rfl
  | true =>
    obtain ⟨property, hproperty, -⟩ := Option.any_eq_true _ _ |>.1 hrenamed
    rw [hproperty]
    rfl

/-- On a mapping, a renamed field is what it resolves to. -/
theorem read_mapping_of_isRenamed {field : Field} (h : field.isRenamed = true)
    (members : List (String × Json)) :
    field.read (.mapping members) = field.resolve (.obj members) := by
  rw [read, resolver?, resolve, if_pos h]
  obtain ⟨property, hproperty, -⟩ := Option.any_eq_true _ _ |>.1 h
  simp only [hproperty, Option.map_some, if_pos h, Record.get]

/-- **The field of a property reads the property.** -/
theorem read_ofProperty (required : List Json) (property : String) (shape : Shape)
    (type : GraphType) (record : Record) :
    (ofProperty required property shape type).read record = record.get property := by
  rw [read, resolver?]
  cases hrenamed : (ofProperty required property shape type).isRenamed with
  | true => rfl
  | false =>
    have hname : (property != Name.safe property) = false := hrenamed
    show record.get (Name.safe property) = record.get property
    rw [← bne_eq_false_iff_eq.1 hname]

end Field

/-! ### Properties that share a field -/

namespace FieldPlan

/-- A property and a later one with the same field name. -/
structure SharesField (properties : List (String × Shape)) (first second : String) : Prop where
  inOrder : [first, second].Sublist (properties.map Prod.fst)
  name : Name.safe first = Name.safe second

theorem isClear_iff {properties : List (String × Shape)} :
    IsClear properties ↔ ¬ ∃ first second, SharesField properties first second := by
  have hmap : IsClear properties ↔
      (properties.map Prod.fst).Pairwise fun a b => Name.safe a ≠ Name.safe b := by
    rw [List.pairwise_map]
    rfl
  rw [hmap, List.pairwise_iff_forall_sublist]
  constructor
  · rintro h ⟨first, second, hshares⟩
    exact h hshares.inOrder hshares.name
  · intro h first second hsub hname
    exact h ⟨first, second, hsub, hname⟩

end FieldPlan

namespace Build

/-- The field was made of the property. -/
def IsFieldOf (required : List Json) (entry : String × Shape) (field : Field) : Prop :=
  ∃ type, field = .ofProperty required entry.1 entry.2 type

section Made

variable {required : List Json} {properties : List (String × Shape)} {fields : List Field}

theorem names_of_made (h : List.Forall₂ (IsFieldOf required) properties fields) :
    fields.map (·.name) = properties.map fun entry => Name.safe entry.1 := by
  induction h with
  | nil => rfl
  | cons hhead _ ih =>
    obtain ⟨type, rfl⟩ := hhead
    rw [List.map_cons, List.map_cons, ih]
    rfl

/-- A name that is taken is that of a property before. -/
theorem exists_of_find? (h : List.Forall₂ (IsFieldOf required) properties fields) {name : String}
    {field : Field} (hfield : fields.find? (·.name == name) = some field) :
    ∃ entry ∈ properties, field.property? = some entry.1 ∧ Name.safe entry.1 = name := by
  obtain ⟨entry, hentry, type, rfl⟩ := forall₂_exists h.flip (List.mem_of_find?_eq_some hfield)
  have hname := List.find?_some hfield
  exact ⟨entry, hentry, rfl, beq_iff_eq.1 hname⟩

theorem ne_of_find? (h : List.Forall₂ (IsFieldOf required) properties fields) {name : String}
    (hnone : fields.find? (·.name == name) = none) :
    ∀ entry ∈ properties, Name.safe entry.1 ≠ name := by
  intro entry hentry hname
  obtain ⟨field, hfield, type, rfl⟩ := forall₂_exists h hentry
  exact List.find?_eq_none.1 hnone _ hfield (beq_iff_eq.2 hname)

end Made

/-! ### Fields one by one -/

variable {setting : Setting} {owner : String} {required : List Json}

/-- **Fields that were built go with the properties**, none of which share a field. -/
theorem buildFields_made {built properties : List (String × Shape)} {done fields : List Field}
    {registry after : Registry} (hdone : List.Forall₂ (IsFieldOf required) built done)
    (hclear : FieldPlan.IsClear built)
    (hrun : (buildFields setting owner required done properties).on registry =
      (.ok fields, after)) :
    List.Forall₂ (IsFieldOf required) (built ++ properties) fields ∧
      FieldPlan.IsClear (built ++ properties) := by
  induction properties generalizing built done registry with
  | nil =>
    cases hrun
    rw [List.append_nil]
    exact ⟨hdone, hclear⟩
  | cons head rest ih =>
    obtain ⟨property, shape⟩ := head
    rw [buildFields] at hrun
    cases hfind : done.find? (·.name == Name.safe property) with
    | some first =>
      rw [hfind] at hrun
      cases hrun
    | none =>
      rw [hfind] at hrun
      obtain ⟨type, middle, -, hrun⟩ := on_bind_ok hrun
      rw [List.append_cons]
      exact ih (List.rel_append hdone (.cons ⟨type, rfl⟩ .nil))
        (hclear.concat (ne_of_find? hdone hfind)) hrun

/-- The schema at the position can be built. -/
def Builds (setting : Setting) (registry : Registry) (position : String) (shape : Shape) : Prop :=
  ∃ type after, (buildType setting position shape).on registry = (.ok type, after)

/-- Whether a schema can be built depends on the entries alone, and building it leaves them. -/
theorem Builds.of_bareEntries {first second : Registry} {position : String} {shape : Shape}
    (h : Builds setting first position shape) (hentries : first.bareEntries = second.bareEntries) :
    ∃ type after, (buildType setting position shape).on second = (.ok type, after) ∧
      first.bareEntries = after.bareEntries := by
  obtain ⟨type, after, hrun⟩ := h
  obtain ⟨added, more, -, hextends, -, hresult⟩ :=
    (buildType_matches setting position shape).runs first second hentries
  rcases hrun' : (buildType setting position shape).on second with ⟨fault | type', after'⟩
  · rw [hrun, hrun'] at hresult
    cases hresult
  · rw [hrun'] at hextends
    refine ⟨type', after', rfl, ?_⟩
    rw [hentries, Registry.bareEntries, Registry.bareEntries, hextends.entries]

/-- **Where all schemas can be built, fields are refused for nothing but a shared name.** -/
theorem buildFields_of_builds {built properties : List (String × Shape)} {done : List Field}
    {start registry : Registry} (hdone : List.Forall₂ (IsFieldOf required) built done)
    (hbuilds : ∀ entry ∈ properties, Builds setting start s!"{owner}.{entry.1}" entry.2)
    (hentries : start.bareEntries = registry.bareEntries) :
    (∃ fields after, (buildFields setting owner required done properties).on registry =
      (.ok fields, after)) ∨
    ∃ first second after, FieldPlan.SharesField (built ++ properties) first second ∧
      (buildFields setting owner required done properties).on registry =
        (.error (.propertyClash first second (Name.safe second) owner), after) := by
  induction properties generalizing built done registry with
  | nil => exact .inl ⟨done, registry, rfl⟩
  | cons head rest ih =>
    obtain ⟨property, shape⟩ := head
    obtain ⟨hbuild, hbuilds⟩ := List.forall_mem_cons.1 hbuilds
    rw [buildFields]
    cases hfind : done.find? (·.name == Name.safe property) with
    | some first =>
      obtain ⟨entry, hentry, hproperty, hname⟩ := exists_of_find? hdone hfind
      refine .inr ⟨entry.1, property, registry, ⟨?_, hname⟩, ?_⟩
      · rw [List.map_append, List.map_cons]
        exact (List.singleton_sublist.2 (List.mem_map_of_mem hentry)).append
          (.cons_cons _ (List.nil_sublist _))
      · simp only [hproperty]
        rfl
    | none =>
      -- The registry goes on from field to field, but its entries are those of the start.
      obtain ⟨type, after, hrun, hafter⟩ := hbuild.of_bareEntries hentries
      have hfield :
          IsFieldOf required (property, shape) (.ofProperty required property shape type) :=
        ⟨type, rfl⟩
      simp only [on_bind, hrun]
      rw [List.append_cons built]
      exact ih (List.rel_append hdone (.cons hfield .nil)) hbuilds hafter

end Build

/-! ### Properties of a schema -/

namespace Shape

/-- The property of a shape is that of the schema. -/
def IsPropertyOf (member : String × Json) (property : String × Shape) : Prop :=
  property.1 = member.1 ∧ ∃ path, ofJson path member.2 = .ok property.2

/-- An object has the properties of its schema, in order. -/
theorem ofJson_properties {path : String} {schema : Json} {site : Site} {required : List Json}
    {properties : List (String × Shape)}
    (h : ofJson path schema = .ok (.object site required properties)) :
    ∃ members, propertiesOf (schema.present? "properties") = .ok members ∧
      List.Forall₂ IsPropertyOf members properties := by
  cases reads_of_ofJson h with
  | object hmark _ hentries hproperties =>
    refine ⟨_, (Marker.of_object hmark).symm ▸ hentries, (ofProperties_made hproperties).imp ?_⟩
    exact fun _ _ ⟨hname, hread⟩ => ⟨hname, _, hread⟩

end Shape

/-! ### All fields of an object -/

namespace Build

variable {plan : FieldPlan} {registry : Registry}

theorem buildPlan_of_ne_nil (h : plan.properties ≠ []) :
    buildPlan plan = do
      return .ofProperties
        (← buildFields plan.setting plan.owner plan.required [] plan.properties) := by
  unfold buildPlan
  split
  · contradiction
  · rfl

theorem buildPlan_of_nil (h : plan.properties = []) {name : String}
    (hname : plan.setting.emptyField = .str name) :
    (buildPlan plan).on registry = (.ok (.placeholder (.str name)), registry) := by
  unfold buildPlan
  rw [h, hname]
  rfl

/-- The fields that were built for properties. -/
theorem buildPlan_made (h : plan.properties ≠ []) {built : FieldMap} {after : Registry}
    (hrun : (buildPlan plan).on registry = (.ok built, after)) :
    ∃ fields, built = .ofProperties fields ∧
      List.Forall₂ (IsFieldOf plan.required) plan.properties fields ∧
      FieldPlan.IsClear plan.properties := by
  rw [buildPlan_of_ne_nil h] at hrun
  obtain ⟨fields, middle, hfields, hrun⟩ := on_bind_ok hrun
  cases hrun
  exact ⟨fields, rfl, buildFields_made .nil .nil hfields⟩

/-- What becomes of properties whose schemas can be built. -/
theorem buildPlan_of_builds (h : plan.properties ≠ [])
    (hbuilds : ∀ entry ∈ plan.properties,
      Builds plan.setting registry s!"{plan.owner}.{entry.1}" entry.2) :
    (∃ built after, (buildPlan plan).on registry = (.ok built, after)) ∨
    ∃ first second, FieldPlan.SharesField plan.properties first second ∧
      ((buildPlan plan).on registry).1 =
        .error (.propertyClash first second (Name.safe second) plan.owner) := by
  rw [buildPlan_of_ne_nil h, on_bind]
  have hnone : List.Forall₂ (IsFieldOf plan.required) [] [] := .nil
  rcases buildFields_of_builds hnone hbuilds rfl with
    ⟨fields, after, hrun⟩ | ⟨first, second, after, hshares, hrun⟩
  · rw [hrun]
    exact .inl ⟨_, _, rfl⟩
  · rw [hrun]
    exact .inr ⟨first, second, hshares, rfl⟩

/-- Fields that were made of properties read them, and no two have one name or one property. -/
theorem reads_of_made {required : List Json} {properties : List (String × Shape)}
    {fields : List Field} (h : List.Forall₂ (IsFieldOf required) properties fields)
    (hclear : FieldPlan.IsClear properties) :
    (properties.map Prod.fst).Nodup ∧ (fields.map (·.name)).Nodup ∧
      List.Forall₂ (fun name field => field.name = Name.safe name ∧
        ∀ record, field.read record = record.get name) (properties.map Prod.fst) fields := by
  have hnames : (properties.map fun entry => Name.safe entry.1).Nodup :=
    List.pairwise_map.2 hclear
  refine ⟨.of_map Name.safe ?_, ?_, List.forall₂_map_left_iff.2 (h.imp ?_)⟩
  · rwa [List.map_map]
  · rwa [names_of_made h]
  · rintro entry _ ⟨type, rfl⟩
    exact ⟨rfl, Field.read_ofProperty _ _ _ _⟩

/-- The fields of properties whose schemas can be built are refused just for shared names. -/
theorem buildPlan_error_iff (h : plan.properties ≠ [])
    (hbuilds : ∀ entry ∈ plan.properties,
      Builds plan.setting registry s!"{plan.owner}.{entry.1}" entry.2) :
    ((∃ fault, ((buildPlan plan).on registry).1 = .error fault) ↔
      ∃ first second, FieldPlan.SharesField plan.properties first second) ∧
    ∀ fault, ((buildPlan plan).on registry).1 = .error fault →
      ∃ first second, FieldPlan.SharesField plan.properties first second ∧
        fault = .propertyClash first second (Name.safe second) plan.owner := by
  rcases buildPlan_of_builds h hbuilds with
    ⟨built, after, hrun⟩ | ⟨first, second, hshares, hrun⟩
  · obtain ⟨-, -, -, hclear⟩ := buildPlan_made h hrun
    rw [hrun]
    exact ⟨iff_of_false (fun ⟨_, h⟩ => nomatch h) (FieldPlan.isClear_iff.1 hclear),
      fun _ h => nomatch h⟩
  · rw [hrun]
    refine ⟨iff_of_true ⟨_, rfl⟩ ⟨first, second, hshares⟩, fun fault h => ?_⟩
    cases h
    exact ⟨first, second, hshares, rfl⟩

/-- **Renamed fields still read their own property.** The properties of an object are those of its
schema. Its fields, once they are built, go with the properties one by one and in order: each is
named after its property and reads it from every record, and no two have one name or one property.
If the schemas of all properties can be built, then the fields are refused just if two properties
share a name, and for that. An object without properties has one field that reads its own name. -/
theorem buildPlan_reads (plan : FieldPlan) (registry : Registry) :
    let names := plan.properties.map Prod.fst
    let run := (buildPlan plan).on registry
    (∀ path schema site,
      Shape.ofJson path schema = .ok (.object site plan.required plan.properties) →
      ∃ members, Shape.propertiesOf (schema.present? "properties") = .ok members ∧
        List.Forall₂ Shape.IsPropertyOf members plan.properties) ∧
    (names ≠ [] → ∀ built after, run = (.ok built, after) →
      ∃ fields, built = .ofProperties fields ∧ names.Nodup ∧ (fields.map (·.name)).Nodup ∧
        List.Forall₂ (fun name field => field.name = Name.safe name ∧
          ∀ record, field.read record = record.get name) names fields) ∧
    (names ≠ [] →
      (∀ entry ∈ plan.properties,
        Builds plan.setting registry s!"{plan.owner}.{entry.1}" entry.2) →
      ((∃ fault, run.1 = .error fault) ↔
        ∃ first second, FieldPlan.SharesField plan.properties first second) ∧
      ∀ fault, run.1 = .error fault →
        ∃ first second, FieldPlan.SharesField plan.properties first second ∧
          fault = .propertyClash first second (Name.safe second) plan.owner) ∧
    (names = [] → ∀ name, plan.setting.emptyField = .str name →
      run = (.ok (.placeholder (.str name)), registry) ∧
      ∀ field, (FieldMap.placeholder (.str name)).checked = .ok [field] →
        ∀ record, field.read record = record.get name) := by
  intro names run
  have hnil : names = [] ↔ plan.properties = [] := List.map_eq_nil_iff
  refine ⟨fun path schema site => Shape.ofJson_properties, fun hne built after hrun => ?_,
    fun hne => buildPlan_error_iff (hnil.not.1 hne), fun hempty name hname =>
      ⟨buildPlan_of_nil (hnil.1 hempty) hname, fun field hfield record => ?_⟩⟩
  · obtain ⟨fields, rfl, hmade, hclear⟩ := buildPlan_made (hnil.not.1 hne) hrun
    exact ⟨fields, rfl, reads_of_made hmade hclear⟩
  · obtain ⟨text, htext, h⟩ := bind_ok hfield
    cases h
    rw [checkFieldName] at htext
    split at htext <;> cases htext
    rfl

/-- The properties `a-b` and `ok` have fields of their own, and the first one is renamed; `a-b` and
`a_b` would share one. -/
theorem buildPlan_reads_renamed :
    let properties (second : String) : List (String × Shape) :=
      [("a-b", .primitive { path := "#/properties/a-b" } .string),
        (second, .primitive { path := s!"#/properties/{second}" } .integer)]
    let plan (second : String) : FieldPlan :=
      { key := 0, owner := "A", required := [], properties := properties second, setting := {} }
    (∃ members, List.Forall₂ Shape.IsPropertyOf members (properties "ok")) ∧
    (∃ fields after, (buildPlan (plan "ok")).on .empty = (.ok (.ofProperties fields), after) ∧
      List.Forall₂ (fun name field => field.name = Name.safe name ∧
        ∀ record, field.read record = record.get name) ["a-b", "ok"] fields) ∧
    ∃ fault, ((buildPlan (plan "a_b")).on .empty).1 = .error fault := by
  intro properties plan
  have hbuilds (second : String) : ∀ entry ∈ (plan second).properties,
      Builds (plan second).setting .empty s!"{(plan second).owner}.{entry.1}" entry.2 := by
    intro entry hentry
    rcases List.mem_pair.1 hentry with rfl | rfl <;> exact ⟨_, _, rfl⟩
  obtain ⟨hschema, hreads, -, -⟩ := buildPlan_reads (plan "ok") .empty
  obtain ⟨-, -, hfails, -⟩ := buildPlan_reads (plan "a_b") .empty
  refine ⟨?_, ?_, ?_⟩
  · obtain ⟨members, -, hmembers⟩ := hschema "#"
      (.obj [("type", .str "object"), ("properties", .obj [
        ("a-b", .obj [("type", .str "string")]), ("ok", .obj [("type", .str "integer")])])])
      { path := "#" } (by with_unfolding_all rfl)
    exact ⟨members, hmembers⟩
  · have hrun : ((buildPlan (plan "ok")).on .empty).1.isOk = true := by decide +kernel
    rcases hplan : (buildPlan (plan "ok")).on .empty with ⟨fault | built, after⟩
    · rw [hplan] at hrun
      cases hrun
    · obtain ⟨fields, rfl, -, -, hfields⟩ := hreads (by simp [plan, properties]) built after hplan
      exact ⟨fields, after, rfl, hfields⟩
  · refine (hfails (by simp [plan, properties]) (hbuilds "a_b")).1.2 ⟨"a-b", "a_b", .refl _, ?_⟩
    decide +kernel

/-- An object without properties has a field all the same. -/
theorem buildPlan_placeholder :
    let plan : FieldPlan :=
      { key := 0, owner := "A", required := [], properties := [], setting := {} }
    Shape.ofJson "#" (.obj [("type", .str "object")]) =
      .ok (.object { path := "#" } plan.required plan.properties) ∧
    ∃ built fields, (buildPlan plan).on .empty = (.ok built, .empty) ∧
      built.checked = .ok fields ∧ fields.length ≠ plan.properties.length := by
  intro plan
  exact ⟨by with_unfolding_all rfl, _, _, buildPlan_of_nil rfl rfl, rfl, by decide⟩

end Build
end SchemaGraph
