import SchemaGraph.Proofs.Graph.Work

/-! Draining the queue, plan by plan.

Draining takes one plan after the other off the front of the queue (`Draining`). A plan
that has its fields is passed over, and the fields of the others are built, until the
queue is empty or building fails. The plan that fails is off the queue by then
(`StopsAt`), and nothing puts it back. -/
namespace SchemaGraph

namespace Registry

/-- The registry with more in its journal. -/
def noting (registry : Registry) (events : List Event) : Registry :=
  { registry with journal := registry.journal ++ events }

theorem noting_nil (registry : Registry) : registry.noting [] = registry := by
  simp [noting]

theorem noting_append (registry : Registry) (first second : List Event) :
    (registry.noting first).noting second = registry.noting (first ++ second) := by
  simp [noting]

@[simp] theorem noting_entries (registry : Registry) (events : List Event) :
    (registry.noting events).entries = registry.entries := rfl

@[simp] theorem noting_find? (registry : Registry) (events : List Event) (id : Json) :
    (registry.noting events).find? id = registry.find? id := rfl

@[simp] theorem noting_pending (registry : Registry) (events : List Event) :
    (registry.noting events).pending = registry.pending := rfl

@[simp] theorem noting_plans (registry : Registry) (events : List Event) :
    (registry.noting events).plans = registry.plans := rfl

@[simp] theorem noting_built (registry : Registry) (events : List Event) :
    (registry.noting events).built = registry.built := rfl

@[simp] theorem noting_nextKey (registry : Registry) (events : List Event) :
    (registry.noting events).nextKey = registry.nextKey := rfl

@[simp] theorem noting_journal (registry : Registry) (events : List Event) :
    (registry.noting events).journal = registry.journal ++ events := rfl

/-- The registry with another queue. -/
def queueing (registry : Registry) (pending : List FieldPlan) : Registry :=
  { registry with pending }

end Registry

namespace Build

/-! ### One plan at a time -/

theorem drain_nil {registry : Registry} (resolved : Nat) (hpending : registry.pending = []) :
    drain resolved registry = (.ok (), registry.noting [.resolved resolved]) := by
  rw [drain]
  split
  · rfl
  · rename_i hcons
    rw [hpending] at hcons
    cases hcons

/-- What draining does with the first plan. -/
theorem drain_cons {registry : Registry} {plan : FieldPlan} {rest : List FieldPlan}
    (resolved : Nat) (hpending : registry.pending = plan :: rest) :
    drain resolved registry =
      if (registry.built.lookup plan.key).isSome then drain resolved (registry.queueing rest)
      else
        match (fieldsOf plan).on (registry.queueing rest) with
        | (.ok _, after) => drain (resolved + 1) after
        | (.error fault, after) => (.error fault, after) := by
  rw [drain]
  split
  · rename_i hnil
    rw [hpending] at hnil
    cases hnil
  · rename_i hcons
    rw [hpending] at hcons
    cases hcons
    split
    · rfl
    · rcases hrun : (fieldsOf plan).on (registry.queueing rest) with ⟨fault | fields, after⟩
      all_goals
        dsimp only
        split <;> rename_i hrun' <;> cases hrun.symm.trans hrun'
        rfl

/-! ### The whole queue -/

/-- The registries that draining the queue of `start` goes through. -/
inductive Draining (start : Registry) : Registry → Prop where
  | start : Draining start start
  | skip {registry plan rest} (h : Draining start registry)
      (hpending : registry.pending = plan :: rest)
      (hbuilt : (registry.built.lookup plan.key).isSome) :
      Draining start (registry.queueing rest)
  | build {registry plan rest fields after} (h : Draining start registry)
      (hpending : registry.pending = plan :: rest)
      (hrun : (fieldsOf plan).on (registry.queueing rest) = (.ok fields, after)) :
      Draining start after

/-- Draining the queue comes to `plan` and fails there, leaving `after`. -/
def StopsAt (start : Registry) (plan : FieldPlan) (fault : Fault) (after : Registry) : Prop :=
  ∃ registry rest, Draining start registry ∧ registry.pending = plan :: rest ∧
    (fieldsOf plan).on (registry.queueing rest) = (.error fault, after)

theorem Draining.trans {start middle registry : Registry} (h : Draining start middle)
    (h' : Draining middle registry) : Draining start registry := by
  induction h' with
  | start => exact h
  | skip _ hpending hbuilt ih => exact .skip ih hpending hbuilt
  | build _ hpending hrun ih => exact .build ih hpending hrun

/-- Where draining stops later on, it stops. -/
theorem Draining.stopsAt {start registry after : Registry} {plan : FieldPlan} {fault : Fault}
    (h : Draining start registry) (hstops : StopsAt registry plan fault after) :
    StopsAt start plan fault after := by
  obtain ⟨last, rest, hdraining, hlast⟩ := hstops
  exact ⟨last, rest, h.trans hdraining, hlast⟩

/-- **Draining ends in one of two ways**: with an empty queue, or with a plan that failed. -/
theorem drain_run {start registry : Registry} (resolved : Nat) (h : Draining start registry) :
    (∃ last plans, Draining start last ∧ last.pending = [] ∧
      drain resolved registry = (.ok (), last.noting [.resolved plans])) ∨
    ∃ plan fault after, StopsAt start plan fault after ∧
      drain resolved registry = (.error fault, after) := by
  fun_induction drain resolved registry with
  | case1 resolved registry hpending => exact .inl ⟨registry, resolved, h, hpending, rfl⟩
  | case2 resolved registry plan rest hpending popped hload hbuilt =>
    rename_i ih
    exact ih (.skip h hpending hbuilt)
  | case3 resolved registry plan rest hpending popped hload hbuilt fields after =>
    rename_i hrun ih
    exact ih (.build h hpending hrun)
  | case4 resolved registry plan rest hpending popped hload hbuilt fault after =>
    rename_i hrun
    exact .inr ⟨plan, fault, after, ⟨registry, rest, h, hpending, hrun⟩, rfl⟩

/-- Draining goes on from every registry on its way. -/
theorem Draining.drain_eq {start registry : Registry} (h : Draining start registry)
    (resolved : Nat) : ∃ more, drain resolved start = drain more registry := by
  induction h with
  | start => exact ⟨resolved, rfl⟩
  | skip _ hpending hbuilt ih =>
    obtain ⟨more, ih⟩ := ih
    exact ⟨more, by rw [ih, drain_cons more hpending, if_pos hbuilt]⟩
  | @build registry plan rest fields after _ hpending hrun ih =>
    obtain ⟨more, ih⟩ := ih
    rw [ih, drain_cons more hpending]
    by_cases hbuilt : (registry.built.lookup plan.key).isSome
    · rw [if_pos hbuilt]
      obtain ⟨found, hfound⟩ := Option.isSome_iff_exists.1 hbuilt
      rw [fieldsOf_on, show (registry.queueing rest).built = registry.built from rfl,
        hfound] at hrun
      cases hrun
      exact ⟨more, rfl⟩
    · rw [if_neg hbuilt, hrun]
      exact ⟨more + 1, rfl⟩

/-- A draining that stops at a plan fails. -/
theorem StopsAt.drain_eq {start after : Registry} {plan : FieldPlan} {fault : Fault}
    (h : StopsAt start plan fault after) (resolved : Nat) :
    drain resolved start = (.error fault, after) := by
  obtain ⟨registry, rest, hdraining, hpending, hrun⟩ := h
  obtain ⟨more, heq⟩ := hdraining.drain_eq resolved
  have hunbuilt : ¬ (registry.built.lookup plan.key).isSome := by
    intro hbuilt
    obtain ⟨found, hfound⟩ := Option.isSome_iff_exists.1 hbuilt
    rw [fieldsOf_on, show (registry.queueing rest).built = registry.built from rfl, hfound] at hrun
    cases hrun
  rw [heq, drain_cons more hpending, if_neg hunbuilt, hrun]

end Build
end SchemaGraph
