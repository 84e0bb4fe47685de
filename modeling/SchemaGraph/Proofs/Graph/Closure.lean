import SchemaGraph.Proofs.Graph.Isomorphism
import SchemaGraph.Proofs.Graph.Making

/-! The plans of the objects that can be met.

An object gets its plan when it is made, and the registry remembers every plan there
ever was. A registry is closed if it remembers the plans of all objects that can be met
in it (`Registry.IsClosed`). That types have their plans there is a law of making types
(`GraphType.plansIn_law`), so work keeps a registry closed, whether it succeeds or not. And
whatever is said about all plans of a registry is said about all objects that can be
reached in it (`Registry.IsClosed.of_reaches`). -/
namespace SchemaGraph

/-- The plans of all objects in the type are among `plans`. -/
inductive GraphType.PlansIn (plans : List FieldPlan) : GraphType → Prop where
  | scalar {kind} : PlansIn plans (.scalar kind)
  | object {info plan} (hplan : plan ∈ plans) : PlansIn plans (.object info plan)
  | union {info members} (hmembers : ∀ member ∈ members, PlansIn plans member) :
      PlansIn plans (.union info members)
  | enum {info values} : PlansIn plans (.enum info values)
  | foreign {value} : PlansIn plans (.foreign value)
  | list {key item} (hitem : PlansIn plans item) : PlansIn plans (.list key item)
  | nonNull {item} (hitem : PlansIn plans item) : PlansIn plans (.nonNull item)

theorem GraphType.PlansIn.mono {plans more : List FieldPlan} {type : GraphType}
    (h : type.PlansIn plans) (hmore : ∀ plan ∈ plans, plan ∈ more) : type.PlansIn more := by
  induction h with
  | scalar => exact .scalar
  | object hplan => exact .object (hmore _ hplan)
  | union _ ih => exact .union ih
  | enum => exact .enum
  | foreign => exact .foreign
  | list _ ih => exact .list ih
  | nonNull _ ih => exact .nonNull ih

theorem GraphType.plansIn_law : TypeLaw fun plans _ type => GraphType.PlansIn plans type where
  mono h hplans _ := h.mono hplans
  scalar := .scalar
  object hplan _ := .object hplan
  union hmembers := .union hmembers
  enum := .enum
  list hitem := .list hitem
  nonNull hitem := .nonNull hitem

/-- The plans of all objects among the fields are among `plans`. -/
def FieldMap.PlansIn (plans : List FieldPlan) : FieldMap → Prop
  | placeholder _ => True
  | ofProperties fields => ∀ field ∈ fields, field.type.PlansIn plans

theorem FieldMap.PlansIn.mono {plans more : List FieldPlan} {fields : FieldMap}
    (h : fields.PlansIn plans) (hmore : ∀ plan ∈ plans, plan ∈ more) : fields.PlansIn more := by
  cases fields with
  | placeholder => trivial
  | ofProperties fields => exact fun field hfield => (h field hfield).mono hmore

namespace Registry

/-- The registry remembers the plans of all objects that can be met in it. -/
structure IsClosed (registry : Registry) : Prop where
  entries : ∀ entry ∈ registry.entries, entry.2.PlansIn registry.plans
  built : ∀ key fields, registry.built.lookup key = some fields → fields.PlansIn registry.plans
  pending : ∀ plan ∈ registry.pending, plan ∈ registry.plans

theorem isClosed_empty : empty.IsClosed where
  entries _ hentry := nomatch hentry
  built _ _ hbuilt := nomatch hbuilt
  pending _ hplan := nomatch hplan

namespace IsClosed

variable {registry : Registry}

theorem grow {after : Registry} {added : List FieldPlan} (h : registry.IsClosed)
    (hextends : registry.Extends added after) : after.IsClosed where
  entries entry hentry := by
    rw [hextends.entries] at hentry
    exact (h.entries entry hentry).mono hextends.plans_subset
  built key fields hbuilt := by
    rw [hextends.built] at hbuilt
    exact (h.built key fields hbuilt).mono hextends.plans_subset
  pending plan hplan := by
    rw [hextends.pending] at hplan
    rw [hextends.plans]
    exact (List.mem_append.1 hplan).elim
      (fun hplan => List.mem_append_left _ (h.pending plan hplan)) (List.mem_append_right _)

theorem find? {id : Json} {type : GraphType} (h : registry.IsClosed)
    (hfind : registry.find? id = some type) : type.PlansIn registry.plans := by
  obtain ⟨entry, hentry, rfl⟩ := Option.map_eq_some_iff.1 hfind
  exact h.entries entry (List.mem_of_find?_eq_some hentry)

theorem noting (h : registry.IsClosed) (events : List Event) :
    (registry.noting events).IsClosed :=
  ⟨h.entries, h.built, h.pending⟩

theorem queueing {pending : List FieldPlan} (h : registry.IsClosed)
    (hpending : ∀ plan ∈ pending, plan ∈ registry.plans) : (registry.queueing pending).IsClosed :=
  ⟨h.entries, h.built, hpending⟩

/-- What can be reached has its plans in the registry. -/
theorem of_reaches {type : GraphType} (h : registry.IsClosed) (hreaches : registry.Reaches type) :
    type.PlansIn registry.plans := by
  induction hreaches with
  | entry hfind => exact h.find? hfind
  | member _ hmember ih =>
    cases ih with
    | union hmembers => exact hmembers _ hmember
  | item _ ih =>
    cases ih with
    | list hitem => exact hitem
  | inner _ ih =>
    cases ih with
    | nonNull hitem => exact hitem
  | field _ _ hbuilt hfield _ => exact h.built _ _ hbuilt _ hfield

theorem plan_mem {info : TypeInfo} {plan : FieldPlan} (h : registry.IsClosed)
    (hreaches : registry.Reaches (.object info plan)) : plan ∈ registry.plans := by
  cases h.of_reaches hreaches with
  | object hplan => exact hplan

end IsClosed

end Registry

namespace Build

/-- The objects in a type that was built have their plans in the registry. -/
theorem buildType_plansIn {setting : Setting} {position : String} {shape : Shape}
    {registry after : Registry} {type : GraphType} (h : registry.IsClosed)
    (hrun : (buildType setting position shape).on registry = (.ok type, after)) :
    type.PlansIn after.plans :=
  GraphType.plansIn_law.buildType h.entries hrun

theorem buildPlan_plansIn {plan : FieldPlan} {fields : FieldMap} {registry after : Registry}
    (h : registry.IsClosed) (hrun : (buildPlan plan).on registry = (.ok fields, after)) :
    fields.PlansIn after.plans := by
  have hfields := GraphType.plansIn_law.buildPlan h.entries hrun
  cases fields <;> exact hfields

/-- Building fields keeps a registry closed, whether it succeeds or not. -/
theorem fieldsOf_isClosed {registry : Registry} (plan : FieldPlan) (h : registry.IsClosed) :
    ((fieldsOf plan).on registry).2.IsClosed := by
  rw [fieldsOf_on]
  split
  · exact h
  · obtain ⟨_, hextends, -⟩ := (buildPlan_adds plan).adds registry
    rcases hrun : (buildPlan plan).on registry with ⟨fault | fields, after⟩ <;>
      rw [hrun] at hextends
    · exact h.grow hextends
    · have hafter : after.IsClosed := h.grow hextends
      have hfields : fields.PlansIn after.plans := buildPlan_plansIn h hrun
      refine ⟨hafter.entries, fun key found hfound => ?_, hafter.pending⟩
      rw [List.lookup_cons] at hfound
      split at hfound
      · cases hfound
        exact hfields
      · exact hafter.built key found hfound

theorem drain_isClosed {registry : Registry} (resolved : Nat) (h : registry.IsClosed) :
    (drain resolved registry).2.IsClosed := by
  refine drain_preserves ?_ ?_ ?_ resolved h
  · intro registry journal h
    exact ⟨h.entries, h.built, h.pending⟩
  · intro registry plan rest hqueue h
    exact h.queueing fun other hother => h.pending other (hqueue ▸ List.mem_cons_of_mem _ hother)
  · intro registry plan rest hqueue h
    exact fieldsOf_isClosed plan
      (h.queueing fun other hother => h.pending other (hqueue ▸ List.mem_cons_of_mem _ hother))

end Build
end SchemaGraph
