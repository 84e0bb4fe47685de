import SchemaGraph.Proofs.Graph.Work

/-! Places, and the types that stand at them.

A place is a document's identifier and a way down from its root: through cases,
items and properties. Every type is made for one place, but a registry does not
write down for which. A `Ledger` does: it goes with a registry and says for each
key at what place it was given out.

`Ledger.Stands` relates a shape at a place to the type that was made for it there.
It looks no further than the objects on the way: what the fields of an object are
is a question about its plan (`Ledger.Fills`). A reference makes nothing, and the
type of the registry stands in its place. -/
namespace SchemaGraph

/-- Where a shape stands. Cases and properties are counted from zero. -/
inductive Place where
  | document (id : Json)
  | case (union : Place) (index : Nat)
  | item (array : Place)
  | property (object : Place) (index : Nat)

/-- The field of a property that has a type. A property that its object requires is never null. -/
def Field.ofProperty (required : List Json) (property : String) (shape : Shape)
    (type : GraphType) : Field where
  name := Name.safe property
  type := if Shape.isRequired required property then .nonNull type else type
  description := describe shape.site.title shape.site.description
  property? := some property

namespace FieldPlan

/-- No two properties get the same field name. -/
def IsClear (properties : List (String × Shape)) : Prop :=
  properties.Pairwise fun a b => Name.safe a.1 ≠ Name.safe b.1

theorem IsClear.concat {properties : List (String × Shape)} {property : String} {shape : Shape}
    (h : IsClear properties) (hnew : ∀ entry ∈ properties, Name.safe entry.1 ≠ Name.safe property) :
    IsClear (properties ++ [(property, shape)]) :=
  List.pairwise_append.2 ⟨h, List.pairwise_singleton _ _, fun entry hentry other hother => by
    rw [List.mem_singleton.1 hother]
    exact hnew entry hentry⟩

end FieldPlan

/-- A registry, and the places that its keys were given out for. -/
structure Ledger where
  registry : Registry
  place? : Nat → Option Place

namespace Ledger

/-- The type was made for the shape at the place. -/
inductive Stands (setting : Setting) (ledger : Ledger) :
    Place → String → Shape → GraphType → Prop where
  | union {place position site cases info members}
      (hinfo : setting.info none (Name.typeName position) site info.key = .ok info)
      (hkey : ledger.place? info.key = some place)
      (hlength : members.length = cases.length)
      (hmembers : ∀ (index : Nat) key shape member, cases[index]? = some (key, shape) →
        members[index]? = some member → Stands setting ledger (place.case index)
          s!"{Name.typeName position}.oneOf[{key}]" shape member) :
      Stands setting ledger place position (.union site cases) (.union info members)
  | object {place position site required properties info key}
      (hinfo : setting.info (some .object) (Name.typeName position) site info.key = .ok info)
      (hkey : ledger.place? info.key = some place)
      (hplan : { key, owner := Name.typeName position, required, properties, setting } ∈
        ledger.registry.plans)
      (hplanKey : ledger.place? key = some place) :
      Stands setting ledger place position (.object site required properties)
        (.object info { key, owner := Name.typeName position, required, properties, setting })
  | array {place position site items key item}
      (hkey : ledger.place? key = some place)
      (hitem : Stands setting ledger place.item position items item) :
      Stands setting ledger place position (.array site items) (.list key (.nonNull item))
  | enum {place position site literals base info values}
      (henum : setting.enumOf (Name.typeName position) site literals base info.key =
        .ok (.enum info values))
      (hkey : ledger.place? info.key = some place) :
      Stands setting ledger place position (.enum site literals base) (.enum info values)
  | reference {place position site target type} (htarget : target.isKey = true)
      (hfind : ledger.registry.find? target = some type) :
      Stands setting ledger place position (.reference site target) type
  | primitive {place position site kind} :
      Stands setting ledger place position (.primitive site kind) (.scalar kind)

/-- The fields are those of the first properties of the plan, whose object is at the place. -/
def FillsUpTo (setting : Setting) (ledger : Ledger) (place : Place) (plan : FieldPlan)
    (fields : List Field) : Prop :=
  ∀ (index : Nat) property shape field, plan.properties[index]? = some (property, shape) →
    fields[index]? = some field → ∃ type,
      field = .ofProperty plan.required property shape type ∧
        ledger.Stands setting (place.property index) s!"{plan.owner}.{property}" shape type

/-- The fields are those of the plan, whose object is at the place. -/
inductive Fills (setting : Setting) (ledger : Ledger) (place : Place) (plan : FieldPlan) :
    FieldMap → Prop where
  | placeholder (hempty : plan.properties = []) (hkey : setting.emptyField.isKey = true) :
      Fills setting ledger place plan (.placeholder setting.emptyField)
  | ofProperties {fields} (hnonempty : plan.properties ≠ [])
      (hclear : FieldPlan.IsClear plan.properties)
      (hlength : fields.length = plan.properties.length)
      (hfields : FillsUpTo setting ledger place plan fields) :
      Fills setting ledger place plan (.ofProperties fields)

/-! ### Ledgers that go on -/

/-- What the ledger `before` says, `after` says too: nothing is lost and no key changes its
place. -/
structure Le (before after : Ledger) : Prop where
  find? : ∀ id type, before.registry.find? id = some type → after.registry.find? id = some type
  plans : ∀ plan ∈ before.registry.plans, plan ∈ after.registry.plans
  place? : ∀ key place, before.place? key = some place → after.place? key = some place

namespace Le

theorem refl (ledger : Ledger) : ledger.Le ledger :=
  ⟨fun _ _ h => h, fun _ h => h, fun _ _ h => h⟩

theorem trans {first second third : Ledger} (h : first.Le second) (h' : second.Le third) :
    first.Le third where
  find? id type hfind := h'.find? id type (h.find? id type hfind)
  plans plan hplan := h'.plans plan (h.plans plan hplan)
  place? key place hkey := h'.place? key place (h.place? key place hkey)

end Le

theorem Stands.mono {setting : Setting} {before after : Ledger} (hle : before.Le after)
    {place : Place} {position : String} {shape : Shape} {type : GraphType}
    (h : before.Stands setting place position shape type) :
    after.Stands setting place position shape type := by
  induction h with
  | union hinfo hkey hlength _ ih => exact .union hinfo (hle.place? _ _ hkey) hlength ih
  | object hinfo hkey hplan hplanKey =>
    exact .object hinfo (hle.place? _ _ hkey) (hle.plans _ hplan) (hle.place? _ _ hplanKey)
  | array hkey _ ih => exact .array (hle.place? _ _ hkey) ih
  | enum henum hkey => exact .enum henum (hle.place? _ _ hkey)
  | reference htarget hfind => exact .reference htarget (hle.find? _ _ hfind)
  | primitive => exact .primitive

theorem FillsUpTo.mono {setting : Setting} {before after : Ledger} (hle : before.Le after)
    {place : Place} {plan : FieldPlan} {fields : List Field}
    (h : before.FillsUpTo setting place plan fields) :
    after.FillsUpTo setting place plan fields := by
  intro index property shape field hproperty hfield
  obtain ⟨type, heq, hstands⟩ := h index property shape field hproperty hfield
  exact ⟨type, heq, hstands.mono hle⟩

theorem Fills.mono {setting : Setting} {before after : Ledger} (hle : before.Le after)
    {place : Place} {plan : FieldPlan} {fields : FieldMap}
    (h : before.Fills setting place plan fields) : after.Fills setting place plan fields := by
  cases h with
  | placeholder hempty hkey => exact .placeholder hempty hkey
  | ofProperties hnonempty hclear hlength hfields =>
    exact .ofProperties hnonempty hclear hlength (hfields.mono hle)

/-! ### Sound ledgers -/

/-- The ledger is true of its registry: every key in use has its place, plans go by their
keys, and the fields that were built are those of their plans. -/
structure Sound (setting : Setting) (ledger : Ledger) : Prop where
  place_lt : ∀ key place, ledger.place? key = some place → key < ledger.registry.nextKey
  built_lt : ∀ key fields, ledger.registry.built.lookup key = some fields →
    key < ledger.registry.nextKey
  setting_eq : ∀ plan ∈ ledger.registry.plans, plan.setting = setting
  place_plan : ∀ plan ∈ ledger.registry.plans, ∃ place, ledger.place? plan.key = some place
  plan_eq : ∀ a ∈ ledger.registry.plans, ∀ b ∈ ledger.registry.plans, a.key = b.key → a = b
  pending_plans : ∀ plan ∈ ledger.registry.pending, plan ∈ ledger.registry.plans
  fills : ∀ plan ∈ ledger.registry.plans, ∀ fields place,
    ledger.registry.built.lookup plan.key = some fields →
    ledger.place? plan.key = some place → ledger.Fills setting place plan fields

/-- Nothing was done and no key given out. -/
def empty : Ledger := { registry := .empty, place? := fun _ => none }

theorem empty_sound (setting : Setting) : empty.Sound setting := by
  constructor <;> simp [empty, Registry.empty]

variable {setting : Setting} {ledger : Ledger}

/-- Entries, the queue and the journal may change. -/
theorem Sound.of_le {after : Ledger} (h : ledger.Sound setting) (hle : ledger.Le after)
    (hplace : after.place? = ledger.place?)
    (hnextKey : after.registry.nextKey = ledger.registry.nextKey)
    (hbuilt : after.registry.built = ledger.registry.built)
    (hplans : after.registry.plans = ledger.registry.plans)
    (hpending : ∀ plan ∈ after.registry.pending, plan ∈ ledger.registry.plans) :
    after.Sound setting where
  place_lt := by rw [hplace, hnextKey]; exact h.place_lt
  built_lt := by rw [hbuilt, hnextKey]; exact h.built_lt
  setting_eq := by rw [hplans]; exact h.setting_eq
  place_plan := by rw [hplans, hplace]; exact h.place_plan
  plan_eq := by rw [hplans]; exact h.plan_eq
  pending_plans := by rw [hplans]; exact hpending
  fills := by
    rw [hplans, hbuilt, hplace]
    intro plan hplan fields place hfields hkey
    exact (h.fills plan hplan fields place hfields hkey).mono hle

/-! ### Giving out keys -/

/-- The ledger with the next key given out for a place. -/
def give (ledger : Ledger) (place : Place) : Ledger where
  registry := { ledger.registry with nextKey := ledger.registry.nextKey + 1 }
  place? key := if key = ledger.registry.nextKey then some place else ledger.place? key

theorem place?_give_self (ledger : Ledger) (place : Place) :
    (ledger.give place).place? ledger.registry.nextKey = some place := if_pos rfl

theorem Sound.le_give (h : ledger.Sound setting) (place : Place) :
    ledger.Le (ledger.give place) where
  find? _ _ hfind := hfind
  plans _ hplan := hplan
  place? key _ hkey := by
    have := h.place_lt key _ hkey
    simp only [give]
    rw [if_neg (by omega), hkey]

theorem Sound.give (h : ledger.Sound setting) (place : Place) :
    (ledger.give place).Sound setting where
  place_lt key other hkey := by
    simp only [Ledger.give] at hkey ⊢
    split at hkey
    · omega
    · have := h.place_lt key other hkey
      omega
  built_lt key fields hbuilt := Nat.lt_succ_of_lt (h.built_lt key fields hbuilt)
  setting_eq := h.setting_eq
  place_plan plan hplan :=
    let ⟨place', hplace⟩ := h.place_plan plan hplan
    ⟨place', (h.le_give place).place? _ _ hplace⟩
  plan_eq := h.plan_eq
  pending_plans := h.pending_plans
  fills plan hplan fields place' hbuilt hplace := by
    obtain ⟨old, hold⟩ := h.place_plan plan hplan
    have : old = place' := Option.some.inj (((h.le_give place).place? _ _ hold).symm.trans hplace)
    subst this
    exact (h.fills plan hplan fields old hbuilt hold).mono (h.le_give place)

end Ledger
end SchemaGraph
