import SchemaGraph.Proofs.Graph.Draining

/-! Registries that agree on what is looked up.

Work looks at the entries of a registry through single targets, and at its journal not at
all. So it does the same on two registries that agree on the targets that it heeds
(`Build.Heeds`), whatever else is entered in them, and leaves them in agreement. Building a
type heeds the targets of the references in its shape, but not of those below properties
(`Build.buildType_heeds`); draining the queue may heed any target
(`Registry.AgreesOn.drain`). -/
namespace SchemaGraph

/-- The registries differ in journals and entries at most, and hold the same under the targets
that are heeded. -/
structure Registry.AgreesOn (heeded : Json → Prop) (first second : Registry) : Prop where
  pending : first.pending = second.pending
  plans : first.plans = second.plans
  built : first.built = second.built
  nextKey : first.nextKey = second.nextKey
  find? : ∀ target, heeded target → first.find? target = second.find? target

namespace Registry.AgreesOn

variable {heeded fewer : Json → Prop} {first second : Registry}

theorem mono (h : first.AgreesOn heeded second) (hfewer : ∀ target, fewer target → heeded target) :
    first.AgreesOn fewer second :=
  ⟨h.pending, h.plans, h.built, h.nextKey, fun target ht => h.find? target (hfewer target ht)⟩

theorem noting (h : first.AgreesOn heeded second) (events events' : List Event) :
    (first.noting events).AgreesOn heeded (second.noting events') :=
  ⟨h.pending, h.plans, h.built, h.nextKey, h.find?⟩

theorem queueing (h : first.AgreesOn heeded second) (pending : List FieldPlan) :
    (first.queueing pending).AgreesOn heeded (second.queueing pending) :=
  ⟨rfl, h.plans, h.built, h.nextKey, h.find?⟩

end Registry.AgreesOn

namespace Build

/-- The work looks up heeded targets only: on registries that agree on these it ends alike, and
leaves them in agreement. -/
structure Heeds {α : Type} (heeded : Json → Prop) (work : Build α) : Prop where
  runs (first second : Registry) (h : first.AgreesOn heeded second) :
    (work.on first).1 = (work.on second).1 ∧
      (work.on first).2.AgreesOn heeded (work.on second).2

namespace Heeds

variable {α β : Type} {heeded : Json → Prop}

theorem pure (value : α) : Heeds heeded (Pure.pure value : Build α) := ⟨fun _ _ h => ⟨rfl, h⟩⟩

theorem throw (fault : Fault) : Heeds heeded (MonadExcept.throw fault : Build α) :=
  ⟨fun _ _ h => ⟨rfl, h⟩⟩

/-- What the work does on one registry, it does on every registry that agrees. -/
theorem exists_run {work : Build α} (h : Heeds heeded work) {first second after : Registry}
    {result : Except Fault α} (hagrees : first.AgreesOn heeded second)
    (hrun : work.on first = (result, after)) :
    ∃ after', work.on second = (result, after') ∧ after.AgreesOn heeded after' := by
  obtain ⟨hresult, hafter⟩ := h.runs first second hagrees
  rw [hrun] at hresult hafter
  exact ⟨(work.on second).2, Prod.ext hresult.symm rfl, hafter⟩

theorem bind {work : Build α} {next : α → Build β} (h : Heeds heeded work)
    (hnext : ∀ value, Heeds heeded (next value)) : Heeds heeded (work >>= next) := by
  refine ⟨fun first second hagrees => ?_⟩
  rcases hrun : work.on first with ⟨result, middle⟩
  obtain ⟨middle', hrun', hmiddle⟩ := h.exists_run hagrees hrun
  rw [on_bind, on_bind, hrun, hrun']
  cases result with
  | error fault => exact ⟨rfl, hmiddle⟩
  | ok value => exact (hnext value).runs middle middle' hmiddle

end Heeds

/-! ### Building types -/

variable {heeded : Json → Prop}

theorem lift_heeds {α : Type} (result : Except Fault α) : Heeds heeded (lift result) :=
  ⟨fun _ _ h => ⟨rfl, h⟩⟩

theorem record_heeds (event : Event) : Heeds heeded (record event) :=
  ⟨fun _ _ h => ⟨rfl, h.noting [event] [event]⟩⟩

theorem freshKey_heeds : Heeds heeded freshKey := by
  refine ⟨fun first second h => ⟨congrArg Except.ok h.nextKey, ?_⟩⟩
  exact ⟨h.pending, h.plans, h.built, congrArg (· + 1) h.nextKey, h.find?⟩

theorem defer_heeds (plan : FieldPlan) : Heeds heeded (defer plan) := by
  refine ⟨fun first second h => ⟨rfl, ?_⟩⟩
  exact ⟨congrArg (· ++ [plan]) h.pending, congrArg (· ++ [plan]) h.plans, h.built, h.nextKey,
    h.find?⟩

theorem find?_heeds {target : Json} (htarget : heeded target) : Heeds heeded (find? target) := by
  refine ⟨fun first second h => ?_⟩
  rw [find?_on, find?_on, h.find? target htarget]
  exact ⟨rfl, h⟩

theorem customize_heeds (setting : Setting) (name : String) (form : TypeForm) (draft : Draft) :
    Heeds heeded (customize setting name form draft) := by
  unfold customize
  split
  · exact .pure _
  · exact .bind (record_heeds _) fun _ => lift_heeds _

theorem makeInfo_heeds (draft : Draft) : Heeds heeded (makeInfo draft) :=
  .bind (lift_heeds _) fun _ => .bind freshKey_heeds fun _ => .pure _

theorem buildEnum_heeds (setting : Setting) (name : String) (site : Site) (literals : List Json)
    (base : Json) : Heeds heeded (buildEnum setting name site literals base) :=
  .bind (lift_heeds _) fun _ => .bind (customize_heeds ..) fun _ => .bind (record_heeds _)
    fun _ => .bind (makeInfo_heeds _) fun _ => .pure _

theorem buildObject_heeds (setting : Setting) (name : String) (site : Site)
    (required : List Json) (properties : List (String × Shape)) :
    Heeds heeded (buildObject setting name site required properties) :=
  .bind freshKey_heeds fun _ => .bind (defer_heeds _) fun _ => .bind (customize_heeds ..)
    fun _ => .bind (record_heeds _) fun _ => .bind (makeInfo_heeds _) fun _ => .pure _

theorem buildCases_heeds (setting : Setting) (owner : String) (cases : List (String × Shape))
    (h : ∀ entry ∈ cases, ∀ position, Heeds heeded (buildType setting position entry.2)) :
    Heeds heeded (buildCases setting owner cases) := by
  induction cases with
  | nil => exact .pure []
  | cons head rest ih =>
    rw [buildCases]
    refine .bind (h head List.mem_cons_self _) fun member => .bind (ih fun entry hentry => ?_)
      fun members => .pure _
    exact h entry (List.mem_cons_of_mem _ hentry)

end Build

/-- What is referred to outside of properties. -/
inductive Shape.TakesUp : Shape → Json → Prop where
  | reference {site target} : TakesUp (.reference site target) target
  | case {site cases entry target} (hcase : entry ∈ cases) (h : TakesUp entry.2 target) :
      TakesUp (.union site cases) target
  | item {site items target} (h : TakesUp items target) : TakesUp (.array site items) target

namespace Build

variable {heeded : Json → Prop}

/-- **Building a type** looks up the targets of the references outside of properties, and
nothing else. -/
theorem buildType_heeds (setting : Setting) (position : String) (shape : Shape)
    (h : ∀ target, shape.TakesUp target → heeded target) :
    Heeds heeded (buildType setting position shape) := by
  induction shape generalizing position with
  | union site cases ih =>
    rw [buildType]
    refine .bind (buildCases_heeds setting _ cases fun entry hentry position => ?_) fun members =>
      .bind (record_heeds _) fun _ => .bind (makeInfo_heeds _) fun _ => .pure _
    exact ih entry hentry position fun target htarget => h target (.case hentry htarget)
  | object site required properties ih =>
    rw [buildType]
    exact buildObject_heeds ..
  | array site items ih =>
    rw [buildType]
    exact .bind (ih position fun target htarget => h target (.item htarget)) fun item =>
      .bind freshKey_heeds fun _ => .pure _
  | bareArray site => exact .throw _
  | enum site literals base => exact buildEnum_heeds ..
  | reference site target =>
    refine .bind (find?_heeds (h target .reference)) fun found? => ?_
    cases found? with
    | some type => exact .pure type
    | none => exact .throw _
  | primitive site kind => exact .pure _
  | unrecognized site type => exact .throw _

/-! ### Building fields -/

/-- Any target is heeded. -/
def anyTarget (_ : Json) : Prop := True

theorem buildFields_heeds (setting : Setting) (owner : String) (required : List Json)
    (done : List Field) (properties : List (String × Shape)) :
    Heeds anyTarget (buildFields setting owner required done properties) := by
  induction properties generalizing done with
  | nil => exact .pure done
  | cons head rest ih =>
    rw [buildFields]
    split
    · exact .throw _
    · exact .bind (buildType_heeds setting _ head.2 fun _ _ => trivial) fun type => ih _

theorem buildPlan_heeds (plan : FieldPlan) : Heeds anyTarget (buildPlan plan) := by
  unfold buildPlan
  split
  · exact .bind (lift_heeds _) fun name => .pure _
  · exact .bind (buildFields_heeds ..) fun fields => .pure _

theorem fieldsOf_heeds (plan : FieldPlan) : Heeds anyTarget (fieldsOf plan) := by
  refine ⟨fun first second h => ?_⟩
  rw [fieldsOf_on, fieldsOf_on, ← h.built]
  cases first.built.lookup plan.key with
  | some fields => exact ⟨rfl, h⟩
  | none =>
    rcases hrun : (buildPlan plan).on first with ⟨result, after⟩
    obtain ⟨after', hrun', hafter⟩ := (buildPlan_heeds plan).exists_run h hrun
    simp only [hrun']
    cases result with
    | error fault => exact ⟨rfl, hafter⟩
    | ok fields => exact ⟨rfl, hafter.pending, hafter.plans, congrArg (_ :: ·) hafter.built,
        hafter.nextKey, hafter.find?⟩

end Build

/-- Draining the queue ends alike on registries that agree on everything. -/
theorem Registry.AgreesOn.drain {first second : Registry}
    (h : first.AgreesOn Build.anyTarget second) (resolved : Nat) :
    (Build.drain resolved first).1 = (Build.drain resolved second).1 ∧
      (Build.drain resolved first).2.AgreesOn Build.anyTarget (Build.drain resolved second).2 := by
  fun_induction Build.drain resolved first generalizing second with
  | case1 resolved first hpending =>
    have hpending' : second.pending = [] := h.pending.symm.trans hpending
    rw [Build.drain_nil resolved hpending']
    exact ⟨rfl, h.noting _ _⟩
  | case2 resolved first plan rest hpending popped hload hbuilt =>
    rename_i ih
    have hpending' : second.pending = plan :: rest := h.pending.symm.trans hpending
    rw [Build.drain_cons resolved hpending', ← h.built, if_pos hbuilt]
    exact ih (h.queueing rest)
  | case3 resolved first plan rest hpending popped hload hbuilt fields after =>
    rename_i hrun ih
    have hpending' : second.pending = plan :: rest := h.pending.symm.trans hpending
    obtain ⟨after', hrun', hafter⟩ :=
      (Build.fieldsOf_heeds plan).exists_run (h.queueing rest) hrun
    rw [Build.drain_cons resolved hpending', ← h.built, if_neg hbuilt, hrun']
    exact ih hafter
  | case4 resolved first plan rest hpending popped hload hbuilt fault after =>
    rename_i hrun
    have hpending' : second.pending = plan :: rest := h.pending.symm.trans hpending
    obtain ⟨after', hrun', hafter⟩ :=
      (Build.fieldsOf_heeds plan).exists_run (h.queueing rest) hrun
    rw [Build.drain_cons resolved hpending', ← h.built, if_neg hbuilt, hrun']
    exact ⟨rfl, hafter⟩

end SchemaGraph
