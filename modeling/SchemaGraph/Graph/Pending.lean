import SchemaGraph.Graph.Building

/-! Building the queued plans.

`Build.resolvePending` takes plans off the front of the queue and builds their
fields until the queue is empty. Building a plan may queue others, so the loop
needs a reason to end: the plans that are added call for fewer objects than the
plan that was taken off (`fieldsOf_grows`). A plan that fails is not queued again. -/
namespace SchemaGraph.Build

/-! ### Running work -/

theorem on_pure {α : Type} (value : α) (registry : Registry) :
    (pure value : Build α).on registry = (.ok value, registry) := rfl

theorem on_throw {α : Type} (fault : Fault) (registry : Registry) :
    (throw fault : Build α).on registry = (.error fault, registry) := rfl

theorem on_bind {α β : Type} (work : Build α) (next : α → Build β) (registry : Registry) :
    (work >>= next).on registry =
      match work.on registry with
      | (.ok value, after) => (next value).on after
      | (.error fault, after) => (.error fault, after) := by
  simp only [on, ExceptT.run_bind, StateT.run_bind, Id.run_bind]
  rcases (work.run.run registry).run with ⟨_ | _, _⟩ <;> rfl

/-! ### How much work adds to the queue -/

theorem load_cons (plan : FieldPlan) (rest : List FieldPlan) :
    Registry.load (plan :: rest) = plan.weight + Registry.load rest := rfl

theorem load_append (first second : List FieldPlan) :
    Registry.load (first ++ second) = Registry.load first + Registry.load second := by
  induction first with
  | nil => exact (Nat.zero_add _).symm
  | cons plan rest ih => rw [List.cons_append, load_cons, load_cons, ih, Nat.add_assoc]

/-- Adds at most `bound` to the queue, at its end, whether it succeeds or not. -/
structure Grows {α : Type} (bound : Nat) (work : Build α) : Prop where
  adds (registry : Registry) : ∃ added,
    (work.on registry).2.pending = registry.pending ++ added ∧ Registry.load added ≤ bound

namespace Grows

theorem mono {α : Type} {a b : Nat} {work : Build α} (h : Grows a work) (hab : a ≤ b) :
    Grows b work where
  adds registry :=
    let ⟨added, hp, hl⟩ := h.adds registry
    ⟨added, hp, Nat.le_trans hl hab⟩

/-- Work that leaves the queue alone. -/
theorem of_pending_eq {α : Type} {work : Build α}
    (h : ∀ registry, (work.on registry).2.pending = registry.pending) : Grows 0 work :=
  ⟨fun registry => ⟨[], by simp [h registry], Nat.le_refl _⟩⟩

theorem pure {α : Type} (value : α) : Grows 0 (Pure.pure value : Build α) :=
  of_pending_eq fun _ => rfl

theorem throw {α : Type} (fault : Fault) : Grows 0 (MonadExcept.throw fault : Build α) :=
  of_pending_eq fun _ => rfl

theorem bind {α β : Type} {a b : Nat} {work : Build α} {next : α → Build β} (h : Grows a work)
    (hnext : ∀ value, Grows b (next value)) : Grows (a + b) (work >>= next) := by
  refine ⟨fun registry => ?_⟩
  obtain ⟨added, hp, hl⟩ := h.adds registry
  rw [on_bind]
  rcases hrun : work.on registry with ⟨_ | value, after⟩ <;> rw [hrun] at hp
  · exact ⟨added, hp, by omega⟩
  · obtain ⟨more, hp', hl'⟩ := (hnext value).adds after
    refine ⟨added ++ more, ?_, ?_⟩
    · rw [hp', show after.pending = _ from hp, List.append_assoc]
    · rw [load_append]
      omega

/-- A step that leaves the queue alone, before others. -/
theorem after {α β : Type} {b : Nat} {work : Build α} {next : α → Build β} (h : Grows 0 work)
    (hnext : ∀ value, Grows b (next value)) : Grows b (work >>= next) := by
  simpa using bind h hnext

/-- A step before others that leave the queue alone. -/
theorem before {α β : Type} {a : Nat} {work : Build α} {next : α → Build β} (h : Grows a work)
    (hnext : ∀ value, Grows 0 (next value)) : Grows a (work >>= next) :=
  bind h hnext

end Grows

theorem lift_grows {α : Type} (result : Except Fault α) : Grows 0 (lift result) :=
  .of_pending_eq fun _ => rfl

theorem record_grows (event : Event) : Grows 0 (record event) :=
  .of_pending_eq fun _ => rfl

theorem freshKey_grows : Grows 0 freshKey := .of_pending_eq fun _ => rfl

theorem get_grows : Grows 0 (get : Build Registry) := .of_pending_eq fun _ => rfl

theorem defer_grows (plan : FieldPlan) : Grows plan.weight (defer plan) :=
  ⟨fun _ => ⟨[plan], rfl, by simp [Registry.load]⟩⟩

theorem find?_grows (id : Json) : Grows 0 (find? id) :=
  .after (lift_grows _) fun _ => .after get_grows fun _ => .pure _

theorem customize_grows (setting : Setting) (name : String) (form : TypeForm) (draft : Draft) :
    Grows 0 (customize setting name form draft) := by
  unfold customize
  split
  · exact .pure _
  · exact .after (record_grows _) fun _ => lift_grows _

theorem makeInfo_grows (draft : Draft) : Grows 0 (makeInfo draft) :=
  .after (lift_grows _) fun _ => .after freshKey_grows fun _ => .pure _

theorem buildEnum_grows (setting : Setting) (name : String) (site : Site) (literals : List Json)
    (base : Json) : Grows 0 (buildEnum setting name site literals base) :=
  .after (lift_grows _) fun _ => .after (customize_grows ..) fun _ => .after (record_grows _)
    fun _ => .after (makeInfo_grows _) fun _ => .pure _

theorem buildObject_grows (setting : Setting) (name : String) (site : Site)
    (required : List Json) (properties : List (String × Shape)) :
    Grows (1 + Shape.objectsIn properties)
      (buildObject setting name site required properties) :=
  .after freshKey_grows fun key =>
    .before (defer_grows ⟨key, name, required, properties, setting⟩) fun _ =>
      .after (customize_grows ..) fun _ => .after (record_grows _) fun _ =>
        .after (makeInfo_grows _) fun _ => .pure _

mutual

/-- Building a type queues no more objects than its shape has. -/
theorem buildType_grows (setting : Setting) (position : String) (shape : Shape) :
    Grows shape.objects (buildType setting position shape) := by
  match shape with
  | .union site cases =>
    rw [buildType, Shape.objects]
    exact .before (buildCases_grows setting _ cases) fun _ => .after (record_grows _) fun _ =>
      .after (makeInfo_grows _) fun _ => .pure _
  | .object site required properties =>
    rw [buildType, Shape.objects]
    exact buildObject_grows ..
  | .array _ items =>
    rw [buildType, Shape.objects]
    exact .before (buildType_grows setting position items) fun _ =>
      .after freshKey_grows fun _ => .pure _
  | .bareArray _ =>
    rw [buildType, Shape.objects]
    · exact .throw _
    all_goals simp
  | .enum site literals base =>
    rw [buildType, Shape.objects]
    · exact buildEnum_grows ..
    all_goals simp
  | .reference _ target =>
    rw [buildType, Shape.objects]
    · exact .after (find?_grows _) fun | some _ => .pure _ | none => .throw _
    all_goals simp
  | .primitive _ kind =>
    rw [buildType, Shape.objects]
    · exact .pure _
    all_goals simp
  | .unrecognized _ type =>
    rw [buildType, Shape.objects]
    · exact .throw _
    all_goals simp

theorem buildCases_grows (setting : Setting) (owner : String) (cases : List (String × Shape)) :
    Grows (Shape.objectsIn cases) (buildCases setting owner cases) := by
  match cases with
  | [] => exact .pure _
  | (key, shape) :: rest =>
    rw [buildCases, Shape.objectsIn]
    exact .bind (buildType_grows setting _ shape) fun _ =>
      .before (buildCases_grows setting owner rest) fun _ => .pure _

end

theorem buildFields_grows (setting : Setting) (owner : String) (required : List Json)
    (done : List Field) (properties : List (String × Shape)) :
    Grows (Shape.objectsIn properties) (buildFields setting owner required done properties) := by
  induction properties generalizing done with
  | nil => exact .pure _
  | cons head rest ih =>
    rw [buildFields, Shape.objectsIn]
    split
    · exact .mono (.throw _) (Nat.zero_le _)
    · exact .bind (buildType_grows ..) fun _ => ih _

/-- Building a plan queues fewer objects than it called for. -/
theorem buildPlan_grows (plan : FieldPlan) : Grows (plan.weight - 1) (buildPlan plan) := by
  unfold buildPlan FieldPlan.weight
  split
  · exact .mono (.after (lift_grows _) fun _ => .pure _) (Nat.zero_le _)
  · exact .mono (.before (buildFields_grows ..) fun _ => .pure _) (by omega)

theorem fieldsOf_grows (plan : FieldPlan) : Grows (plan.weight - 1) (fieldsOf plan) := by
  refine .after get_grows fun registry => ?_
  split
  · exact .mono (.pure _) (Nat.zero_le _)
  · exact .before (buildPlan_grows plan) fun _ =>
      .after (.of_pending_eq fun _ => rfl) fun _ => .pure _

/-! ### Draining the queue -/

theorem weight_pos (plan : FieldPlan) : 0 < plan.weight := by
  unfold FieldPlan.weight
  omega

/-- Taking a plan off the queue and building it leaves less work than there was. -/
theorem load_after_fieldsOf_lt (plan : FieldPlan) (popped after : Registry)
    (result : Except Fault FieldMap) (h : (fieldsOf plan).on popped = (result, after)) :
    Registry.load after.pending < Registry.load (plan :: popped.pending) := by
  obtain ⟨added, hadded, hload⟩ := (fieldsOf_grows plan).adds popped
  rw [h] at hadded
  rw [show after.pending = popped.pending ++ added from hadded, load_append, load_cons]
  have := weight_pos plan
  omega

/-- Builds the queued plans from the front, counting the ones built in `resolved`. -/
def drain (resolved : Nat) (registry : Registry) : Except Fault Unit × Registry :=
  match hpending : registry.pending with
  | [] => (record (.resolved resolved)).on registry
  | plan :: rest =>
    let popped := { registry with pending := rest }
    have hload : Registry.load registry.pending = plan.weight + Registry.load rest := by
      rw [hpending, load_cons]
    if (registry.built.lookup plan.key).isSome then drain resolved popped
    else
      match hrun : (fieldsOf plan).on popped with
      | (.ok _, after) => drain (resolved + 1) after
      | (.error fault, after) => (.error fault, after)
termination_by Registry.load registry.pending
decreasing_by
  · have := weight_pos plan
    simp only [hload]
    omega
  · have := load_after_fieldsOf_lt plan popped after _ hrun
    rwa [load_cons, ← hload] at this

/-- Builds every queued plan, the ones queued on the way included. -/
def resolvePending : Build Unit := ExceptT.mk fun registry => drain 0 registry

end SchemaGraph.Build
