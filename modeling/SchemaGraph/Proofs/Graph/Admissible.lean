import SchemaGraph.Proofs.Graph.Bookkeeping
import SchemaGraph.Proofs.Graph.Naming

/-! Which shapes can be built.

`Shape.Admissible` says what is asked of a shape and of its parts, in terms of the
documents that its references may lead to. There are two kinds of those: a
reference that is not below a property is looked up when the shape is built, and one
below a property when the fields of its object are. So the predicate has a set of
targets for each, and below a property the late one takes the place of the early one.

Nothing else is needed. A shape that is admissible builds in every registry that has
its early targets (`Build.buildType_ok`), and the plans that it queues build in every
registry that has the late ones (`Build.drain_ok`). The other way round, what stands at
a place is admissible once all fields are built (`Ledger.Stands.admits`). -/
namespace SchemaGraph

/-- What is asked of a shape at a position: `isNamed` of the names of its types, `hasEmpty` of
objects without properties, `late` of the targets below properties, and `early`, which comes
with the shape, of the other targets. -/
inductive Shape.Admissible (isNamed : Option TypeForm → String → Site → Prop) (hasEmpty : Prop)
    (late : Json → Prop) : (Json → Prop) → String → Shape → Prop where
  | primitive {early position site kind} :
      Admissible isNamed hasEmpty late early position (.primitive site kind)
  | reference {early position site target} (htarget : early target) :
      Admissible isNamed hasEmpty late early position (.reference site target)
  | array {early position site items}
      (hitems : Admissible isNamed hasEmpty late early position items) :
      Admissible isNamed hasEmpty late early position (.array site items)
  | enum {early position site literals} (hname : isNamed (some .enum) (Name.typeName position) site)
      (hliterals : HasClearValues literals) :
      Admissible isNamed hasEmpty late early position (.enum site literals (.str "string"))
  | union {early position site cases} (hname : isNamed none (Name.typeName position) site)
      (hcases : ∀ case ∈ cases, Admissible isNamed hasEmpty late early
        s!"{Name.typeName position}.oneOf[{case.1}]" case.2) :
      Admissible isNamed hasEmpty late early position (.union site cases)
  | object {early position site required properties}
      (hname : isNamed (some .object) (Name.typeName position) site)
      (hempty : properties = [] → hasEmpty) (hclear : FieldPlan.IsClear properties)
      (hproperties : ∀ property ∈ properties, Admissible isNamed hasEmpty late late
        s!"{Name.typeName position}.{property.1}" property.2) :
      Admissible isNamed hasEmpty late early position (.object site required properties)

/-- Less can be asked of a shape. -/
theorem Shape.Admissible.imp {isNamed isNamed' : Option TypeForm → String → Site → Prop}
    {hasEmpty hasEmpty' : Prop} {late late' early early' : Json → Prop} {position : String}
    {shape : Shape} (h : Admissible isNamed hasEmpty late early position shape)
    (hnamed : ∀ form? position site, isNamed form? (Name.typeName position) site →
      isNamed' form? (Name.typeName position) site)
    (hempty : hasEmpty → hasEmpty') (hlate : ∀ target, late target → late' target)
    (hearly : ∀ target, early target → early' target) :
    Admissible isNamed' hasEmpty' late' early' position shape := by
  induction h generalizing early' with
  | primitive => exact .primitive
  | reference htarget => exact .reference (hearly _ htarget)
  | array _ ih => exact .array (ih hearly)
  | enum hname hliterals => exact .enum (hnamed _ _ _ hname) hliterals
  | union hname _ ih =>
    exact .union (hnamed _ _ _ hname) fun case hcase => ih case hcase hearly
  | object hname hobject hclear _ ih =>
    exact .object (hnamed _ _ _ hname) (hempty ∘ hobject) hclear
      fun property hproperty => ih property hproperty hlate

/-- The shape is admissible for the setting. -/
def Setting.Admits (setting : Setting) (late early : Json → Prop) (position : String)
    (shape : Shape) : Prop :=
  shape.Admissible setting.Makes (setting.emptyField.isKey = true) late early position

/-- The fields of the plan can be built. -/
structure FieldPlan.Admits (late : Json → Prop) (plan : FieldPlan) : Prop where
  empty : plan.properties = [] → plan.setting.emptyField.isKey = true
  clear : IsClear plan.properties
  properties : ∀ property ∈ plan.properties,
    plan.setting.Admits late late s!"{plan.owner}.{property.1}" property.2

/-- The plans that an admissible shape queues can be built. -/
theorem Shape.Defers.admits {setting : Setting} {late early : Json → Prop} {position : String}
    {shape : Shape} {plan : FieldPlan} (h : Shape.Defers setting position shape plan)
    (hadmits : setting.Admits late early position shape) : plan.Admits late := by
  induction h with
  | object key =>
    cases hadmits with
    | object hname hempty hclear hproperties => exact ⟨hempty, hclear, hproperties⟩
  | case hcase _ ih =>
    cases hadmits with
    | union hname hcases =>
      have hadmits := hcases _ hcase
      exact ih hadmits
  | item _ ih =>
    cases hadmits with
    | array hitems => exact ih hitems

theorem FieldPlan.Defers.admits {late : Json → Prop} {plan inner : FieldPlan}
    (h : plan.Defers inner) (hadmits : plan.Admits late) : inner.Admits late :=
  let ⟨property, hproperty, hdefers⟩ := h
  Shape.Defers.admits hdefers (hadmits.properties property hproperty)

/-- The registry has a type for the target. -/
def Registry.Has (registry : Registry) (target : Json) : Prop :=
  target.isKey = true ∧ ∃ type, registry.find? target = some type

theorem Registry.Has.of_entries {before after : Registry} {target : Json}
    (h : before.Has target) (hentries : after.entries = before.entries) : after.Has target := by
  rwa [Has, find?, hentries]

/-! ### Building what is admissible -/

namespace Build

variable {setting : Setting} {late early : Json → Prop}

theorem buildCases_ok {owner : String} {cases : List (String × Shape)} {registry : Registry}
    (h : ∀ case ∈ cases, ∀ other : Registry, other.entries = registry.entries →
      ∃ type after, (buildType setting s!"{owner}.oneOf[{case.1}]" case.2).on other =
        (.ok type, after)) :
    ∃ members after, (buildCases setting owner cases).on registry = (.ok members, after) := by
  induction cases generalizing registry with
  | nil => exact ⟨[], registry, rfl⟩
  | cons head rest ih =>
    obtain ⟨key, shape⟩ := head
    obtain ⟨type, middle, htype⟩ := h (key, shape) List.mem_cons_self registry rfl
    have hentries := buildType_entries setting s!"{owner}.oneOf[{key}]" shape registry
    rw [htype] at hentries
    obtain ⟨members, after, hmembers⟩ := ih fun case hcase other hother =>
      h case (List.mem_cons_of_mem _ hcase) other (hother.trans hentries)
    refine ⟨type :: members, after, ?_⟩
    simp only [buildCases, on_bind, htype, hmembers]
    rfl

/-- An admissible shape builds in a registry that has its early targets. -/
theorem buildType_ok {position : String} {shape : Shape} {registry : Registry}
    (h : setting.Admits late early position shape)
    (hearly : ∀ target, early target → registry.Has target) :
    ∃ type after, (buildType setting position shape).on registry = (.ok type, after) := by
  induction shape generalizing position registry with
  | union site cases ih =>
    cases h with
    | union hname hcases =>
      have hbuild : ∃ members after,
          (buildCases setting (Name.typeName position) cases).on registry = (.ok members, after) :=
        buildCases_ok fun case hcase other hother => ih case hcase (hcases case hcase)
          fun target htarget => (hearly target htarget).of_entries hother
      obtain ⟨members, after, hmembers⟩ := hbuild
      obtain ⟨journal, hrun⟩ := buildUnion_on setting position site cases registry
      obtain ⟨info, hinfo⟩ := hname.info_eq after.nextKey
      rw [hrun, hmembers]
      simp only [hinfo]
      exact ⟨_, _, rfl⟩
  | object site required properties ih =>
    cases h with
    | object hname hempty hclear hproperties =>
      obtain ⟨journal, hrun⟩ := buildObject_on setting (Name.typeName position) site required
        properties registry
      obtain ⟨info, hinfo⟩ := hname.info_eq (registry.nextKey + 1)
      simp only [planned, hinfo] at hrun
      exact ⟨_, _, hrun⟩
  | array site items ih =>
    cases h with
    | array hitems =>
      obtain ⟨item, after, hitem⟩ := ih hitems hearly
      simp only [buildType, on_bind, hitem, freshKey_on]
      exact ⟨_, _, rfl⟩
  | bareArray site => cases h
  | enum site literals base =>
    cases h with
    | enum hname hliterals =>
      have hvalues : ∃ values, Setting.valuesOf (Name.typeName position) literals (.str "string") =
          .ok values := Setting.valuesOf_ok_iff.2 ⟨rfl, hliterals⟩
      obtain ⟨type, htype⟩ := Setting.enumOf_ok_iff.2 ⟨hvalues, hname⟩
      obtain ⟨journal, hrun⟩ := buildEnum_on setting (Name.typeName position) site literals
        (.str "string") registry
      rw [htype] at hrun
      exact ⟨_, _, hrun⟩
  | reference site target =>
    cases h with
    | reference htarget =>
      obtain ⟨hkey, type, hfind⟩ := hearly target htarget
      refine ⟨type, registry, ?_⟩
      simp only [buildType, on_bind, find?_on, hkey, if_true, hfind]
      rfl
  | primitive site kind => exact ⟨_, _, rfl⟩
  | unrecognized site type => cases h

/-- The fields of properties that are admissible and clear of each other and of the fields
before them. -/
theorem buildFields_ok {owner : String} {required : List Json} {done : List Field}
    {properties : List (String × Shape)} {registry : Registry}
    (h : ∀ property ∈ properties,
      setting.Admits late late s!"{owner}.{property.1}" property.2)
    (hclear : FieldPlan.IsClear properties)
    (hdone : ∀ field ∈ done, ∀ property ∈ properties, field.name ≠ Name.safe property.1)
    (hlate : ∀ target, late target → registry.Has target) :
    ∃ fields after, (buildFields setting owner required done properties).on registry =
      (.ok fields, after) := by
  induction properties generalizing done registry with
  | nil => exact ⟨done, registry, rfl⟩
  | cons head rest ih =>
    obtain ⟨property, shape⟩ := head
    obtain ⟨hhead, hrest⟩ := List.pairwise_cons.1 hclear
    have hfind : done.find? (·.name == Name.safe property) = none := by
      rw [List.find?_eq_none]
      intro field hfield
      simpa using hdone field hfield (property, shape) List.mem_cons_self
    obtain ⟨type, middle, htype⟩ := buildType_ok (h (property, shape) List.mem_cons_self) hlate
    have hentries := buildType_entries setting s!"{owner}.{property}" shape registry
    rw [htype] at hentries
    simp only [buildFields, hfind, on_bind, htype]
    refine ih (fun other hother => h other (List.mem_cons_of_mem _ hother)) hrest ?_
      fun target htarget => (hlate target htarget).of_entries hentries
    intro field hfield other hother
    rcases List.mem_append.1 hfield with hfield | hfield
    · exact hdone field hfield other (List.mem_cons_of_mem _ hother)
    · rw [List.mem_singleton.1 hfield]
      exact hhead other hother

theorem buildPlan_ok {plan : FieldPlan} {registry : Registry} (h : plan.Admits late)
    (hlate : ∀ target, late target → registry.Has target) :
    ∃ fields after, (buildPlan plan).on registry = (.ok fields, after) := by
  unfold buildPlan
  split
  · rename_i hempty
    simp only [on_bind, lift_on, keyOf, h.empty hempty, if_true]
    exact ⟨_, _, rfl⟩
  · have hfields : ∃ fields after,
        (buildFields plan.setting plan.owner plan.required [] plan.properties).on registry =
          (.ok fields, after) :=
      buildFields_ok h.properties h.clear (by simp) hlate
    obtain ⟨fields, after, hrun⟩ := hfields
    simp only [on_bind, hrun]
    exact ⟨_, _, rfl⟩

theorem fieldsOf_ok {plan : FieldPlan} {registry : Registry} (h : plan.Admits late)
    (hlate : ∀ target, late target → registry.Has target) :
    ∃ fields after, (fieldsOf plan).on registry = (.ok fields, after) := by
  rw [fieldsOf_on]
  split
  · exact ⟨_, _, rfl⟩
  · obtain ⟨fields, after, hrun⟩ := buildPlan_ok h hlate
    rw [hrun]
    exact ⟨_, _, rfl⟩

/-- A queue of admissible plans is drained without a fault, for all that are queued on the way
are admissible too. -/
theorem drain_ok {resolved : Nat} {registry : Registry}
    (h : ∀ plan ∈ registry.pending, plan.Admits late)
    (hlate : ∀ target, late target → registry.Has target) :
    ∃ after, drain resolved registry = (.ok (), after) := by
  fun_induction drain resolved registry with
  | case1 => exact ⟨_, rfl⟩
  | case2 resolved registry plan rest hpending popped hload hbuilt =>
    rename_i ih
    refine ih (fun other hother => h other ?_) hlate
    rw [hpending]
    exact List.mem_cons_of_mem _ hother
  | case3 resolved registry plan rest hpending popped hload hbuilt fields after =>
    rename_i hrun ih
    have hentries := fieldsOf_entries plan popped
    obtain ⟨added, hpending', -, hadded⟩ := fieldsOf_queues plan popped
    rw [hrun] at hentries hpending'
    refine ih (fun other hother => ?_) fun target htarget =>
      (hlate target htarget).of_entries hentries
    rw [show after.pending = rest ++ added from hpending'] at hother
    rcases List.mem_append.1 hother with hother | hother
    · exact h other (hpending ▸ List.mem_cons_of_mem _ hother)
    · exact (hadded other hother).admits (h plan (hpending ▸ List.mem_cons_self))
  | case4 resolved registry plan rest hpending popped hload hbuilt fault after =>
    rename_i hrun
    have hok : ∃ fields last, (fieldsOf plan).on popped = (.ok fields, last) :=
      fieldsOf_ok (h plan (hpending ▸ List.mem_cons_self)) hlate
    obtain ⟨fields, last, hok⟩ := hok
    rw [hrun] at hok
    cases hok

end Build

/-! ### What was built is admissible -/

/-- What stands at a place of an earlier ledger is admissible, once all fields are built: its
references found their targets in the earlier registry, those below properties in the last. -/
theorem Ledger.Stands.admits {setting : Setting} {earlier ledger : Ledger} {place : Place}
    {position : String} {shape : Shape} {type : GraphType}
    (h : earlier.Stands setting place position shape type) (hle : earlier.Le ledger)
    (hsound : ledger.Sound setting)
    (hbuilt : ledger.registry.IsBuilt) :
    setting.Admits ledger.registry.Has earlier.registry.Has position shape := by
  induction shape generalizing earlier place position type with
  | union site cases ih =>
    cases h with
    | union hinfo hkey hlength hmembers =>
      refine .union ⟨_, _, hinfo⟩ fun case hcase => ?_
      obtain ⟨index, hindex, rfl⟩ := List.getElem_of_mem hcase
      exact ih _ hcase (hmembers index _ _ _ (List.getElem?_eq_getElem hindex)
        (List.getElem?_eq_getElem (hlength ▸ hindex))) hle
  | object site required properties ih =>
    cases h with
    | object hinfo hkey hplan hplanKey =>
      have hplan := hle.plans _ hplan
      obtain ⟨fields, hfields⟩ := Option.isSome_iff_exists.1 (hbuilt _ hplan)
      cases hsound.fills _ hplan fields place hfields (hle.place? _ _ hplanKey) with
      | placeholder hempty hisKey =>
        obtain rfl : properties = [] := hempty
        exact .object ⟨_, _, hinfo⟩ (fun _ => hisKey) .nil (by simp)
      | ofProperties hnonempty hclear hlength hfill =>
        refine .object ⟨_, _, hinfo⟩ (absurd · hnonempty) hclear fun property hproperty => ?_
        obtain ⟨index, hindex, rfl⟩ := List.getElem_of_mem hproperty
        obtain ⟨type, -, hstands⟩ := hfill index _ _ _ (List.getElem?_eq_getElem hindex)
          (List.getElem?_eq_getElem (hlength ▸ hindex))
        exact ih _ hproperty hstands (.refl ledger)
  | array site items ih =>
    cases h with
    | array hkey hitem => exact .array (ih hitem hle)
  | bareArray site => cases h
  | enum site literals base =>
    cases h with
    | enum henum hkey =>
      obtain ⟨hvalues, hname⟩ := Setting.enumOf_ok_iff.1 ⟨_, henum⟩
      obtain ⟨rfl, hliterals⟩ := Setting.valuesOf_ok_iff.1 hvalues
      exact .enum hname hliterals
  | reference site target =>
    cases h with
    | reference htarget hfind => exact .reference ⟨htarget, _, hfind⟩
  | primitive site kind => exact .primitive
  | unrecognized site type => cases h

end SchemaGraph
