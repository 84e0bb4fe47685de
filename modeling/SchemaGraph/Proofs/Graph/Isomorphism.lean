import Mathlib.Data.List.Forall2
import SchemaGraph.Graph.Catalog
import SchemaGraph.Proofs.Graph.Work

/-! Graphs that are the same but for their keys.

Two registries number their types independently, so what is the same in both is said with
a relation between their types. An `Isomorphism` relates types of one form whose
properties are equal, leads from related types to related ones, and is one-to-one on
identities. So a type that is met twice in one graph is met twice in the other.

The graph of a registry is what can be reached from its entries (`Registry.Reaches`):
through members, items and the fields that an object has. It is all there once the
fields of these objects are built (`Registry.IsSettled`). -/
namespace SchemaGraph

namespace Registry

/-- The type can be reached from an entry. -/
inductive Reaches (registry : Registry) : GraphType → Prop where
  | entry {id type} (hfind : registry.find? id = some type) : Reaches registry type
  | member {info members member} (h : Reaches registry (.union info members))
      (hmember : member ∈ members) : Reaches registry member
  | item {key item} (h : Reaches registry (.list key item)) : Reaches registry item
  | inner {item} (h : Reaches registry (.nonNull item)) : Reaches registry item
  | field {info plan fields field} (h : Reaches registry (.object info plan))
      (hplanned : info.fields? = none)
      (hbuilt : registry.built.lookup plan.key = some (.ofProperties fields))
      (hfield : field ∈ fields) : Reaches registry field.type

/-- The fields of all objects that can be reached are there. -/
def IsSettled (registry : Registry) : Prop :=
  ∀ info plan, registry.Reaches (.object info plan) → info.fields? = none →
    (registry.built.lookup plan.key).isSome

end Registry

/-- The common parts of two types, equal but for the key. -/
def TypeInfo.Alike (a b : TypeInfo) : Prop := { a with key := b.key } = b

/-- Fields that are equal but for their types. -/
structure Field.Alike (R : GraphType → GraphType → Prop) (a b : Field) : Prop where
  name : a.name = b.name
  type : R a.type b.type
  description : a.description = b.description
  property? : a.property? = b.property?

/-- The same fields in the same order. -/
inductive FieldMap.Alike (R : GraphType → GraphType → Prop) : FieldMap → FieldMap → Prop where
  | placeholder {name} : Alike R (.placeholder name) (.placeholder name)
  | ofProperties {fields others} (hfields : List.Forall₂ (Field.Alike R) fields others) :
      Alike R (.ofProperties fields) (.ofProperties others)

/-- Types of one form that say the same about themselves and lead to related types. Fields that
were given take the place of planned ones. -/
inductive GraphType.Alike (first second : Registry) (R : GraphType → GraphType → Prop) :
    GraphType → GraphType → Prop where
  | scalar {kind} : Alike first second R (.scalar kind) (.scalar kind)
  | object {info other plan plan'} (hinfo : info.Alike other)
      (hfields : info.fields? = none → ∃ fields fields',
        first.built.lookup plan.key = some fields ∧
        second.built.lookup plan'.key = some fields' ∧ FieldMap.Alike R fields fields') :
      Alike first second R (.object info plan) (.object other plan')
  | union {info other members members'} (hinfo : info.Alike other)
      (hmembers : List.Forall₂ R members members') :
      Alike first second R (.union info members) (.union other members')
  | enum {info other values} (hinfo : info.Alike other) :
      Alike first second R (.enum info values) (.enum other values)
  | list {key key' item item'} (hitem : R item item') :
      Alike first second R (.list key item) (.list key' item')
  | nonNull {item item'} (hitem : R item item') :
      Alike first second R (.nonNull item) (.nonNull item')

/-- A relation under which the types of two registries make up the same graph. -/
structure Isomorphism (first second : Registry) (R : GraphType → GraphType → Prop) : Prop where
  alike : ∀ a b, R a b → GraphType.Alike first second R a b
  identity_iff : ∀ a b a' b', R a b → R a' b' →
    (a.identity = a'.identity ↔ b.identity = b'.identity)

/-- Types that are made alike and told apart alike make up the same graph, together with their
wrappers that are never null. -/
theorem Isomorphism.of_bare {first second : Registry} {M R : GraphType → GraphType → Prop}
    (hwraps : ∀ x y, R x y ↔ M x y ∨ ∃ a b, x = .nonNull a ∧ y = .nonNull b ∧ M a b)
    (halike : ∀ x y, M x y → GraphType.Alike first second R x y)
    (hidentity : ∀ x y z w, M x y → M z w → (x.identity = z.identity ↔ y.identity = w.identity))
    (hbare : ∀ x y item, M x y → x.identity ≠ .nonNull item ∧ y.identity ≠ .nonNull item) :
    Isomorphism first second R where
  alike x y hxy := by
    rcases (hwraps x y).1 hxy with hxy | ⟨a, b, rfl, rfl, hab⟩
    · exact halike x y hxy
    · exact .nonNull ((hwraps a b).2 (.inl hab))
  identity_iff x y z w hxy hzw := by
    rcases (hwraps x y).1 hxy with hxy | ⟨a, b, rfl, rfl, hab⟩ <;>
      rcases (hwraps z w).1 hzw with hzw | ⟨c, d, rfl, rfl, hcd⟩
    · exact hidentity x y z w hxy hzw
    · exact iff_of_false (hbare x y _ hxy).1 (hbare x y _ hxy).2
    · exact iff_of_false ((hbare z w _ hzw).1 ·.symm) ((hbare z w _ hzw).2 ·.symm)
    · simp only [GraphType.identity, GraphType.Identity.nonNull.injEq]
      exact hidentity a b c d hab hcd

/-- The registries hold the same graph under the same identifiers, in whatever order. -/
def Registry.SameGraph (first second : Registry) : Prop :=
  ∃ R, Isomorphism first second R ∧ ∃ entries, entries.Perm second.entries ∧
    List.Forall₂ (fun entry other => Json.same entry.1 other.1 = true ∧ R entry.2 other.2)
      first.entries entries

/-! ### Reading what is alike -/

/-- Reading fields is building them, unless they were given, and then checking their names. -/
theorem Build.readFields_on (info : TypeInfo) (plan : FieldPlan) (registry : Registry) :
    (readFields info plan).on registry = match info.fields? with
      | some given => (givenFields given, registry)
      | none => match (fieldsOf plan).on registry with
        | (.ok fields, after) => (fields.checked, after)
        | (.error fault, after) => (.error (.unreadableFields info.name fault), after) := by
  unfold readFields
  cases info.fields? with
  | some given => rfl
  | none =>
    simp only [on_bind, on_tryCatch]
    rcases (fieldsOf plan).on registry with ⟨fault | fields, after⟩ <;> rfl

/-- Names of fields are checked one by one. -/
theorem mapM_checkFieldName {fields others : List Field}
    (h : fields.map Field.name = others.map Field.name) :
    (fields.mapM fun field => checkFieldName (.str field.name)) =
      others.mapM fun field => checkFieldName (.str field.name) := by
  have hmap (fields : List Field) : (fields.mapM fun field => checkFieldName (.str field.name)) =
      (fields.map Field.name).mapM fun name => checkFieldName (.str name) := by
    rw [List.mapM_map]
    rfl
  rw [hmap, hmap, h]

theorem FieldMap.Alike.checked_eq {R : GraphType → GraphType → Prop} {a b : FieldMap}
    (h : Alike R a b) :
    a.checked.map (·.map Field.name) = b.checked.map (·.map Field.name) := by
  cases h with
  | placeholder => rfl
  | @ofProperties fields others hfields =>
    have hnames : fields.map Field.name = others.map Field.name := by
      have hmap : List.Forall₂ (· = ·) (fields.map Field.name) (others.map Field.name) := by
        rw [List.forall₂_map_left_iff, List.forall₂_map_right_iff]
        exact hfields.imp fun _ _ hfield => hfield.name
      exact List.forall₂_eq_eq_eq ▸ hmap
    simp only [checked]
    rw [mapM_checkFieldName hnames]
    cases others.mapM fun field => checkFieldName (.str field.name) with
    | error fault => rfl
    | ok names => exact congrArg Except.ok hnames

/-- Objects that an isomorphism relates have fields of the same names to their readers, or the
readers find the same fault. -/
theorem Isomorphism.readFields_eq {first second : Registry} {R : GraphType → GraphType → Prop}
    (h : Isomorphism first second R) {info info' : TypeInfo} {plan plan' : FieldPlan}
    (hobjects : R (.object info plan) (.object info' plan')) :
    ((Build.readFields info plan).on first).1.map (·.map Field.name) =
      ((Build.readFields info' plan').on second).1.map (·.map Field.name) := by
  cases h.alike _ _ hobjects with
  | object hinfo hfields =>
    rw [Build.readFields_on, Build.readFields_on,
      show info'.fields? = info.fields? from (congrArg TypeInfo.fields? hinfo).symm]
    cases hgiven : info.fields? with
    | some given => rfl
    | none =>
      obtain ⟨fields, fields', hbuilt, hbuilt', halike⟩ := hfields hgiven
      simp only [Build.fieldsOf_on, hbuilt, hbuilt']
      exact halike.checked_eq

end SchemaGraph
