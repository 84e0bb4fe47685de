import SchemaGraph.Proofs.Graph.Draining

/-! What holds of every type that is made.

Types are made one on top of another: a union of its members, a list of its items, an object of
its plan, each with a key that was not used before, and a reference brings up a type that was
entered earlier. So what holds of scalars and of objects, and of everything made of types of
which it holds (`TypeLaw`), holds of every type that is built while it holds of the entries
(`TypeLaw.buildType`), and of the fields of objects as well (`TypeLaw.fieldsOf`). A law may say
how a type stands to the plans there are and to the next unused key. -/
namespace SchemaGraph

/-- What is said about types, in view of all plans and of the next unused key, and holds of
whatever is made of types of which it holds. -/
structure TypeLaw (p : List FieldPlan → Nat → GraphType → Prop) : Prop where
  mono {plans more next later type} (h : p plans next type) (hplans : ∀ plan ∈ plans, plan ∈ more)
    (hnext : next ≤ later) : p more later type
  scalar {plans next kind} : p plans next (.scalar kind)
  object {plans next info plan} (hplan : plan ∈ plans) (hkey : info.key < next) :
    p plans next (.object info plan)
  union {plans info members} (hmembers : ∀ member ∈ members, p plans info.key member) :
    p plans (info.key + 1) (.union info members)
  enum {plans info values} : p plans (info.key + 1) (.enum info values)
  list {plans key item} (hitem : p plans key item) : p plans (key + 1) (.list key item)
  nonNull {plans next item} (hitem : p plans next item) : p plans next (.nonNull item)

/-- The law holds of the types of all fields. -/
def FieldMap.Upholds (p : List FieldPlan → Nat → GraphType → Prop) (plans : List FieldPlan)
    (next : Nat) : FieldMap → Prop
  | placeholder _ => True
  | ofProperties fields => ∀ field ∈ fields, p plans next field.type

namespace Registry

/-- The law holds of all types that are entered. -/
def EntersBy (p : List FieldPlan → Nat → GraphType → Prop) (registry : Registry) : Prop :=
  ∀ entry ∈ registry.entries, p registry.plans registry.nextKey entry.2

/-- The law holds of all types that are entered, and of those of all fields that were built. -/
structure Upholds (p : List FieldPlan → Nat → GraphType → Prop) (registry : Registry) : Prop where
  entries : registry.EntersBy p
  built : ∀ entry ∈ registry.built, entry.2.Upholds p registry.plans registry.nextKey

theorem upholds_empty {p : List FieldPlan → Nat → GraphType → Prop} : empty.Upholds p where
  entries _ hentry := nomatch hentry
  built _ hentry := nomatch hentry

theorem Extends.plans_subset {before after : Registry} {added : List FieldPlan}
    (h : before.Extends added after) : ∀ plan ∈ before.plans, plan ∈ after.plans := by
  intro plan hplan
  rw [h.plans]
  exact List.mem_append_left _ hplan

end Registry

namespace TypeLaw

open Build

variable {p : List FieldPlan → Nat → GraphType → Prop} {registry after : Registry}
  {added : List FieldPlan}

/-! ### Growing registries -/

theorem grow (law : TypeLaw p) {type : GraphType} (h : p registry.plans registry.nextKey type)
    (hextends : registry.Extends added after) : p after.plans after.nextKey type :=
  law.mono h hextends.plans_subset hextends.nextKey

theorem entersBy (law : TypeLaw p) (h : registry.EntersBy p)
    (hextends : registry.Extends added after) : after.EntersBy p := by
  intro entry hentry
  rw [hextends.entries] at hentry
  exact law.grow (h entry hentry) hextends

theorem upholds (law : TypeLaw p) (h : registry.Upholds p)
    (hextends : registry.Extends added after) : after.Upholds p where
  entries := law.entersBy h.entries hextends
  built entry hentry := by
    rw [hextends.built] at hentry
    have hbuilt := h.built entry hentry
    match entry, hbuilt with
    | (_, .placeholder _), _ => trivial
    | (_, .ofProperties fields), hfields =>
      exact fun field hfield => law.grow (hfields field hfield) hextends

/-! ### Building types -/

theorem buildCases (law : TypeLaw p) {setting : Setting} {owner : String}
    {cases : List (String × Shape)} {members : List GraphType}
    (hshapes : ∀ entry ∈ cases, ∀ position (registry after : Registry) type,
      registry.EntersBy p → (buildType setting position entry.2).on registry = (.ok type, after) →
      p after.plans after.nextKey type)
    (h : registry.EntersBy p)
    (hrun : (Build.buildCases setting owner cases).on registry = (.ok members, after)) :
    ∀ member ∈ members, p after.plans after.nextKey member := by
  induction cases generalizing registry members with
  | nil =>
    cases hrun
    intro member hmember
    cases hmember
  | cons head rest ih =>
    obtain ⟨key, shape⟩ := head
    rw [Build.buildCases] at hrun
    obtain ⟨member, middle, hmember, hrun⟩ := on_bind_ok hrun
    obtain ⟨others, last, hothers, hrun⟩ := on_bind_ok hrun
    cases hrun
    have htype := hshapes (key, shape) List.mem_cons_self _ _ _ _ h hmember
    obtain ⟨_, hextends, -⟩ := (buildType_adds setting _ shape).adds registry
    rw [hmember] at hextends
    obtain ⟨_, hextends', -⟩ := (buildCases_adds setting owner rest
      fun entry _ position => buildType_adds setting position entry.2).adds middle
    rw [hothers] at hextends'
    refine List.forall_mem_cons.2 ⟨law.grow htype hextends', ?_⟩
    exact ih (fun entry hentry => hshapes entry (List.mem_cons_of_mem _ hentry))
      (law.entersBy h hextends) hothers

/-- **A type that is built** is made by the law, if the entries are. -/
theorem buildType (law : TypeLaw p) {setting : Setting} {position : String} {shape : Shape}
    {type : GraphType} (h : registry.EntersBy p)
    (hrun : (Build.buildType setting position shape).on registry = (.ok type, after)) :
    p after.plans after.nextKey type := by
  induction shape generalizing position registry after type with
  | union site cases ih =>
    obtain ⟨journal, hunion⟩ := buildUnion_on setting position site cases registry
    rw [hunion] at hrun
    rcases hcases : (Build.buildCases setting (Name.typeName position) cases).on registry with
      ⟨fault | members, middle⟩ <;> simp only [hcases] at hrun
    · cases hrun
    · have hmembers := law.buildCases (fun entry hentry _ _ _ _ => ih entry hentry) h hcases
      split at hrun
      · rename_i info hinfo
        cases hrun
        rw [← Setting.info_key hinfo] at hmembers ⊢
        exact law.union hmembers
      · cases hrun
  | object site required properties ih =>
    obtain ⟨journal, hobject⟩ :=
      buildObject_on setting (Name.typeName position) site required properties registry
    rw [show (Build.buildType setting position (.object site required properties)).on registry = _
      from hobject] at hrun
    simp only at hrun
    split at hrun
    · rename_i info hinfo
      cases hrun
      refine law.object (List.mem_append_right _ List.mem_cons_self) ?_
      rw [Setting.info_key hinfo]
      exact Nat.lt_succ_self _
    · cases hrun
  | array site items ih =>
    obtain ⟨item, middle, hitem, hrun⟩ := on_bind_ok hrun
    obtain ⟨key, last, hkey, hrun⟩ := on_bind_ok hrun
    cases hkey
    cases hrun
    exact law.list (law.nonNull (ih h hitem))
  | bareArray site => cases hrun
  | enum site literals base =>
    obtain ⟨journal, henum⟩ :=
      buildEnum_on setting (Name.typeName position) site literals base registry
    rw [show (Build.buildType setting position (.enum site literals base)).on registry = _ from
      henum] at hrun
    cases hmade : setting.enumOf (Name.typeName position) site literals base registry.nextKey with
    | error fault =>
      rw [hmade] at hrun
      cases hrun
    | ok made =>
      rw [hmade] at hrun
      obtain ⟨info, values, rfl, hkey⟩ := Setting.enumOf_ok hmade
      cases hrun
      rw [← hkey]
      exact law.enum
  | reference site target =>
    obtain ⟨found?, middle, hfind, hrun⟩ := on_bind_ok hrun
    rw [find?_on] at hfind
    cases found? with
    | none => cases hrun
    | some found =>
      cases hrun
      split at hfind
      · obtain ⟨hfound, rfl⟩ := Prod.mk.inj hfind
        obtain ⟨entry, hentry, rfl⟩ := Option.map_eq_some_iff.1 (Except.ok.inj hfound)
        exact h entry (List.mem_of_find?_eq_some hentry)
      · cases hfind
  | primitive site kind =>
    cases hrun
    exact law.scalar
  | unrecognized site type => cases hrun

/-! ### Building fields -/

theorem buildFields (law : TypeLaw p) {setting : Setting} {owner : String}
    {required : List Json} {properties : List (String × Shape)} {done fields : List Field}
    (h : registry.EntersBy p)
    (hdone : ∀ field ∈ done, p registry.plans registry.nextKey field.type)
    (hrun : (Build.buildFields setting owner required done properties).on registry =
      (.ok fields, after)) : ∀ field ∈ fields, p after.plans after.nextKey field.type := by
  induction properties generalizing done registry with
  | nil =>
    cases hrun
    exact hdone
  | cons head rest ih =>
    obtain ⟨property, shape⟩ := head
    rw [Build.buildFields] at hrun
    split at hrun
    · cases hrun
    · obtain ⟨type, middle, htype, hrun⟩ := on_bind_ok hrun
      obtain ⟨_, hextends, -⟩ := (buildType_adds setting _ shape).adds registry
      rw [htype] at hextends
      have hmade := law.buildType h htype
      refine ih (law.entersBy h hextends) ?_ hrun
      refine List.forall_mem_append.2 ⟨fun field hfield => ?_, List.forall_mem_singleton.2 ?_⟩
      · exact law.grow (hdone field hfield) hextends
      · by_cases hrequired : Shape.isRequired required property = true
        · simpa only [if_pos hrequired] using law.nonNull hmade
        · simpa only [if_neg hrequired] using hmade

theorem buildPlan (law : TypeLaw p) {plan : FieldPlan} {fields : FieldMap}
    (h : registry.EntersBy p) (hrun : (Build.buildPlan plan).on registry = (.ok fields, after)) :
    fields.Upholds p after.plans after.nextKey := by
  unfold Build.buildPlan at hrun
  split at hrun
  · obtain ⟨name, middle, -, hrun⟩ := on_bind_ok hrun
    cases hrun
    trivial
  · obtain ⟨fields, middle, hfields, hrun⟩ := on_bind_ok hrun
    cases hrun
    exact law.buildFields h (fun _ hfield => absurd hfield List.not_mem_nil) hfields

/-- **Building fields** keeps a registry to the law, whether it succeeds or not. -/
theorem fieldsOf (law : TypeLaw p) (plan : FieldPlan) (h : registry.Upholds p) :
    ((Build.fieldsOf plan).on registry).2.Upholds p := by
  rw [fieldsOf_on]
  split
  · exact h
  · obtain ⟨_, hextends, -⟩ := (buildPlan_adds plan).adds registry
    rcases hrun : (Build.buildPlan plan).on registry with ⟨fault | fields, after⟩ <;>
      rw [hrun] at hextends
    · exact law.upholds h hextends
    · have hafter : after.Upholds p := law.upholds h hextends
      have hfields : fields.Upholds p after.plans after.nextKey := law.buildPlan h.entries hrun
      exact ⟨hafter.entries, List.forall_mem_cons.2 ⟨hfields, hafter.built⟩⟩

theorem drain (law : TypeLaw p) (resolved : Nat) (h : registry.Upholds p) :
    (Build.drain resolved registry).2.Upholds p :=
  drain_preserves (fun _ _ h => ⟨h.entries, h.built⟩) (fun _ _ _ _ h => ⟨h.entries, h.built⟩)
    (fun _ plan _ _ h => law.fieldsOf plan ⟨h.entries, h.built⟩) resolved h

end TypeLaw
end SchemaGraph
