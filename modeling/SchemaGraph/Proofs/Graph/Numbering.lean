import Mathlib.Data.List.Nodup
import SchemaGraph.Proofs.Graph.Draining

/-! The keys of plans.

Every plan gets a key that no other has, and the fields that a registry holds are told
apart by these keys. So fields that are built for one plan are never taken for those of
another, and no plan has two sets of fields (`Registry.IsNumbered`). The plans that work
queues have keys between the next unused key before and the one after
(`Build.Numbers`), in order. -/
namespace SchemaGraph

namespace Registry

/-- No two plans have the same key, unused keys are larger, and nothing is built but the fields
of plans, once each. -/
structure IsNumbered (registry : Registry) : Prop where
  distinct : (registry.plans.map FieldPlan.key).Nodup
  lt : ∀ plan ∈ registry.plans, plan.key < registry.nextKey
  queue : registry.pending.Sublist registry.plans
  built : ∀ entry ∈ registry.built, ∃ plan ∈ registry.plans, plan.key = entry.1
  once : (registry.built.map Prod.fst).Nodup

theorem isNumbered_empty : empty.IsNumbered where
  distinct := .nil
  lt _ hplan := nomatch hplan
  queue := .slnil
  built _ hentry := nomatch hentry
  once := .nil

/-- The added plans have keys of their own. -/
structure Numbering (before : Registry) (added : List FieldPlan) (after : Registry) : Prop extends
    before.Extends added after where
  ordered : added.Pairwise fun a b => a.key < b.key
  fresh : ∀ plan ∈ added, before.nextKey ≤ plan.key ∧ plan.key < after.nextKey

namespace Numbering

variable {before after : Registry} {added : List FieldPlan}

theorem of_nil (h : before.Extends [] after) : before.Numbering [] after :=
  ⟨h, .nil, fun _ hplan => nomatch hplan⟩

theorem trans {last : Registry} {more : List FieldPlan} (h : before.Numbering added after)
    (h' : after.Numbering more last) : before.Numbering (added ++ more) last where
  toExtends := h.toExtends.trans h'.toExtends
  ordered := by
    refine List.pairwise_append.2 ⟨h.ordered, h'.ordered, fun a ha b hb => ?_⟩
    exact Nat.lt_of_lt_of_le (h.fresh a ha).2 (h'.fresh b hb).1
  fresh plan hplan := by
    have hmiddle := h.nextKey
    have hlast := h'.nextKey
    rcases List.mem_append.1 hplan with hplan | hplan
    · have := h.fresh plan hplan
      omega
    · have := h'.fresh plan hplan
      omega

end Numbering

namespace IsNumbered

variable {registry : Registry}

theorem grow {after : Registry} {added : List FieldPlan} (h : registry.IsNumbered)
    (hadded : registry.Numbering added after) : after.IsNumbered where
  distinct := by
    rw [hadded.plans, List.map_append, List.nodup_append]
    refine ⟨h.distinct, ?_, ?_⟩
    · exact List.pairwise_map.2 (hadded.ordered.imp Nat.ne_of_lt)
    · simp only [List.forall_mem_map]
      intro a ha b hb
      have hlt := h.lt a ha
      have hle := (hadded.fresh b hb).1
      omega
  lt plan hplan := by
    rw [hadded.plans] at hplan
    rcases List.mem_append.1 hplan with hplan | hplan
    · exact Nat.lt_of_lt_of_le (h.lt plan hplan) hadded.nextKey
    · exact (hadded.fresh plan hplan).2
  queue := by
    rw [hadded.pending, hadded.plans]
    exact h.queue.append (List.Sublist.refl added)
  built entry hentry := by
    rw [hadded.built] at hentry
    obtain ⟨plan, hplan, hkey⟩ := h.built entry hentry
    rw [hadded.plans]
    exact ⟨plan, List.mem_append_left _ hplan, hkey⟩
  once := by
    rw [hadded.built]
    exact h.once

theorem noting (h : registry.IsNumbered) (events : List Event) :
    (registry.noting events).IsNumbered :=
  ⟨h.distinct, h.lt, h.queue, h.built, h.once⟩

theorem queueing {pending : List FieldPlan} (h : registry.IsNumbered)
    (hpending : pending.Sublist registry.plans) : (registry.queueing pending).IsNumbered :=
  ⟨h.distinct, h.lt, hpending, h.built, h.once⟩

/-- Building the fields of a plan that has none. -/
theorem fill {plan : FieldPlan} (h : registry.IsNumbered) (hplan : plan ∈ registry.plans)
    (hunbuilt : registry.built.lookup plan.key = none) (fields : FieldMap) :
    { registry with built := (plan.key, fields) :: registry.built }.IsNumbered where
  distinct := h.distinct
  lt := h.lt
  queue := h.queue
  built := List.forall_mem_cons.2 ⟨⟨plan, hplan, rfl⟩, h.built⟩
  once := by
    refine List.nodup_cons.2 ⟨fun hmem => ?_, h.once⟩
    obtain ⟨entry, hentry, hkey⟩ := List.mem_map.1 hmem
    have hne := List.lookup_eq_none_iff.1 hunbuilt entry hentry
    exact bne_iff_ne.1 hne hkey.symm

/-- Plans are told apart by their keys. -/
theorem eq_of_key {a b : FieldPlan} (h : registry.IsNumbered) (ha : a ∈ registry.plans)
    (hb : b ∈ registry.plans) (hkey : a.key = b.key) : a = b :=
  List.inj_on_of_nodup_map h.distinct ha hb hkey

/-- A key that is not used yet has no fields. -/
theorem lookup_eq_none {key : Nat} (h : registry.IsNumbered) (hkey : registry.nextKey ≤ key) :
    registry.built.lookup key = none := by
  rw [List.lookup_eq_none_iff]
  intro entry hentry
  obtain ⟨plan, hplan, hsame⟩ := h.built entry hentry
  have hlt := h.lt plan hplan
  exact bne_iff_ne.2 (by omega)

end IsNumbered

end Registry

namespace Build

/-- Work that gives every plan it queues a key of its own. -/
structure Numbers {α : Type} (work : Build α) : Prop where
  adds (registry : Registry) : ∃ added, registry.Numbering added (work.on registry).2

namespace Numbers

variable {α β : Type}

/-- Work that queues nothing. -/
theorem of_adds {work : Build α} (h : Adds (fun _ => False) work) : Numbers work := by
  refine ⟨fun registry => ⟨[], .of_nil ?_⟩⟩
  obtain ⟨added, hextends, hadded⟩ := h.adds registry
  rwa [List.eq_nil_iff_forall_not_mem.2 hadded] at hextends

/-- The plans that are queued are numbered, whatever else is known about them. -/
theorem of_extends {work : Build α} {registry : Registry} {added : List FieldPlan}
    (h : Numbers work) (hextends : registry.Extends added (work.on registry).2) :
    registry.Numbering added (work.on registry).2 := by
  obtain ⟨numbered, hnumbered⟩ := h.adds registry
  obtain rfl : numbered = added :=
    List.append_cancel_left (hnumbered.plans.symm.trans hextends.plans)
  exact hnumbered

theorem bind {work : Build α} {next : α → Build β} (h : Numbers work)
    (hnext : ∀ value, Numbers (next value)) : Numbers (work >>= next) := by
  refine ⟨fun registry => ?_⟩
  obtain ⟨added, hadded⟩ := h.adds registry
  rw [on_bind]
  rcases hrun : work.on registry with ⟨_ | value, after⟩ <;> rw [hrun] at hadded
  · exact ⟨added, hadded⟩
  · obtain ⟨more, hmore⟩ := (hnext value).adds after
    exact ⟨added ++ more, hadded.trans hmore⟩

end Numbers

theorem makeInfo_adds {sort : FieldPlan → Prop} (draft : Draft) : Adds sort (makeInfo draft) := by
  refine .of_extends fun registry => ?_
  rw [makeInfo_on]
  cases draft.info registry.nextKey with
  | ok info => exact ⟨rfl, rfl, by simp, by simp, Nat.le_succ _⟩
  | error fault => exact .refl registry

theorem record_adds {sort : FieldPlan → Prop} (event : Event) : Adds sort (record event) :=
  .of_extends fun registry => by
    rw [record_on]
    exact ⟨rfl, rfl, by simp, by simp, Nat.le_refl _⟩

theorem buildObject_numbers (setting : Setting) (name : String) (site : Site)
    (required : List Json) (properties : List (String × Shape)) :
    Numbers (buildObject setting name site required properties) := by
  refine ⟨fun registry => ?_⟩
  obtain ⟨journal, hrun⟩ := buildObject_on setting name site required properties registry
  refine ⟨[{ key := registry.nextKey, owner := name, required, properties, setting }], ?_⟩
  rw [hrun]
  simp only [planned]
  cases setting.info (some .object) name site (registry.nextKey + 1) with
  | ok info =>
    refine ⟨⟨rfl, rfl, rfl, rfl, by simp only; omega⟩, List.pairwise_singleton _ _, ?_⟩
    refine List.forall_mem_singleton.2 ⟨Nat.le_refl _, ?_⟩
    show registry.nextKey < registry.nextKey + 1 + 1
    omega
  | error fault =>
    refine ⟨⟨rfl, rfl, rfl, rfl, by simp only; omega⟩, List.pairwise_singleton _ _, ?_⟩
    exact List.forall_mem_singleton.2 ⟨Nat.le_refl _, Nat.lt_succ_self _⟩

theorem buildCases_numbers (setting : Setting) (owner : String) (cases : List (String × Shape))
    (h : ∀ entry ∈ cases, ∀ position, Numbers (buildType setting position entry.2)) :
    Numbers (buildCases setting owner cases) := by
  induction cases with
  | nil => exact .of_adds (.pure [])
  | cons head rest ih =>
    obtain ⟨key, shape⟩ := head
    rw [buildCases]
    refine .bind (h (key, shape) List.mem_cons_self _) fun member => .bind ?_ fun members =>
      .of_adds (.pure _)
    exact ih fun entry hentry => h entry (List.mem_cons_of_mem _ hentry)

theorem buildType_numbers (setting : Setting) (position : String) (shape : Shape) :
    Numbers (buildType setting position shape) := by
  induction shape generalizing position with
  | union site cases ih =>
    rw [buildType]
    refine .bind (buildCases_numbers setting _ cases ih) fun members => .of_adds ?_
    exact .bind (record_adds _) fun _ => .bind (makeInfo_adds _) fun info => .pure _
  | object site required properties ih => exact buildObject_numbers ..
  | array site items ih =>
    refine .bind (ih position) fun item => .of_adds (.bind ?_ fun key => .pure _)
    exact .of_extends fun registry => ⟨rfl, rfl, by simp [freshKey_on], by simp [freshKey_on],
      Nat.le_succ _⟩
  | bareArray site => exact .of_adds (.throw _)
  | enum site literals base => exact .of_adds (buildEnum_adds ..)
  | reference site target =>
    refine .of_adds (.bind (.of_extends fun registry => ?_) fun found? => ?_)
    · rw [find?_on]
      exact .refl registry
    · cases found? with
      | some type => exact .pure type
      | none => exact .throw _
  | primitive site kind => exact .of_adds (.pure _)
  | unrecognized site type => exact .of_adds (.throw _)

theorem buildFields_numbers (setting : Setting) (owner : String) (required : List Json)
    (done : List Field) (properties : List (String × Shape)) :
    Numbers (buildFields setting owner required done properties) := by
  induction properties generalizing done with
  | nil => exact .of_adds (.pure done)
  | cons head rest ih =>
    rw [buildFields]
    split
    · exact .of_adds (.throw _)
    · exact .bind (buildType_numbers ..) fun type => ih _

theorem buildPlan_numbers (plan : FieldPlan) : Numbers (buildPlan plan) := by
  unfold buildPlan
  split
  · exact .of_adds (.bind (.of_extends fun registry => .refl registry) fun name => .pure _)
  · exact .bind (buildFields_numbers ..) fun fields => .of_adds (.pure _)

/-- Building the fields of a plan keeps the plans numbered, whether it succeeds or not. -/
theorem fieldsOf_isNumbered {plan : FieldPlan} {registry : Registry} (h : registry.IsNumbered)
    (hplan : plan ∈ registry.plans) : ((fieldsOf plan).on registry).2.IsNumbered := by
  rw [fieldsOf_on]
  split
  · exact h
  · rename_i hunbuilt
    obtain ⟨added, hadded⟩ := (buildPlan_numbers plan).adds registry
    rcases hrun : (buildPlan plan).on registry with ⟨fault | fields, after⟩ <;> rw [hrun] at hadded
    · exact h.grow hadded
    · have hafter : after.IsNumbered := h.grow hadded
      refine hafter.fill ?_ ?_ fields
      · rw [show after.plans = _ from hadded.plans]
        exact List.mem_append_left _ hplan
      · rwa [show after.built = _ from hadded.built]

theorem drain_isNumbered {registry : Registry} (resolved : Nat) (h : registry.IsNumbered) :
    (drain resolved registry).2.IsNumbered := by
  have htail {registry : Registry} {plan : FieldPlan} {rest : List FieldPlan}
      (hqueue : registry.pending = plan :: rest) (h : registry.IsNumbered) :
      plan ∈ registry.plans ∧ (registry.queueing rest).IsNumbered := by
    have hsublist := hqueue ▸ h.queue
    exact ⟨hsublist.subset List.mem_cons_self,
      h.queueing ((List.sublist_cons_self plan rest).trans hsublist)⟩
  refine drain_preserves ?_ ?_ ?_ resolved h
  · intro registry journal h
    exact ⟨h.distinct, h.lt, h.queue, h.built, h.once⟩
  · intro registry plan rest hqueue h
    exact (htail hqueue h).2
  · intro registry plan rest hqueue h
    exact fieldsOf_isNumbered (htail hqueue h).2 (htail hqueue h).1

end Build
end SchemaGraph
