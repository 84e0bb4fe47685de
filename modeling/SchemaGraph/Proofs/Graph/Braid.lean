import Mathlib.Data.List.Pairwise
import SchemaGraph.Proofs.Graph.Bare

/-! Registries that differ by stray plans.

A registry may hold plans of objects that belong to no entry. Such strays take keys and
places in the queue, and nothing else: with them and without them, the other plans are
built in the same order and get the same fields but for keys. A `Strand` pairs a plan of
the registry with strays with its counterpart in the one without, and `Braided` says
that this is all there is to the two registries. Draining both queues keeps them braided
and ends alike, unless it stops at a stray (`Braided.drain`). -/
namespace SchemaGraph

/-- A plan and its counterpart, if it has one. -/
structure Strand where
  counterpart? : Option FieldPlan
  plan : FieldPlan

/-- The second registry is the first one with stray plans: its other plans have counterparts of
the same bare form with the same bare fields, and both queues hold the same strands. -/
structure Braided (stray : FieldPlan → Prop) (strands queue : List Strand)
    (first second : Registry) : Prop where
  first_plans : first.plans = strands.filterMap Strand.counterpart?
  second_plans : second.plans = strands.map Strand.plan
  queue_sublist : queue.Sublist strands
  first_pending : first.pending = queue.filterMap Strand.counterpart?
  second_pending : second.pending = queue.map Strand.plan
  stray : ∀ strand ∈ strands, strand.counterpart? = none → stray strand.plan
  bare : ∀ strand ∈ strands, ∀ plan, strand.counterpart? = some plan →
    plan.bare = strand.plan.bare
  built : ∀ strand ∈ strands, ∀ plan, strand.counterpart? = some plan →
    (first.built.lookup plan.key).map FieldMap.bare =
      (second.built.lookup strand.plan.key).map FieldMap.bare
  first_isNumbered : first.IsNumbered
  second_isNumbered : second.IsNumbered

namespace Strand

/-- Plans of the same bare forms pair up. -/
theorem exists_of_map_bare {added more : List FieldPlan}
    (h : added.map FieldPlan.bare = more.map FieldPlan.bare) : ∃ strands : List Strand,
      strands.filterMap counterpart? = added ∧ strands.map plan = more ∧
      ∀ strand ∈ strands, ∃ plan, strand.counterpart? = some plan ∧
        plan.bare = strand.plan.bare := by
  induction added generalizing more with
  | nil =>
    obtain rfl : more = [] := List.map_eq_nil_iff.1 h.symm
    exact ⟨[], rfl, rfl, fun _ hstrand => nomatch hstrand⟩
  | cons plan added ih =>
    cases more with
    | nil => cases h
    | cons other more =>
      rw [List.map_cons, List.map_cons, List.cons.injEq] at h
      obtain ⟨strands, hfirst, hsecond, hbare⟩ := ih h.2
      refine ⟨⟨some plan, other⟩ :: strands, ?_, ?_, ?_⟩
      · rw [List.filterMap_cons, hfirst]
      · rw [List.map_cons, hsecond]
      · exact List.forall_mem_cons.2 ⟨⟨plan, rfl, h.1⟩, hbare⟩

end Strand

theorem eq_of_nodup_filterMap {α β : Type} {f : α → Option β} {items : List α} {a b : α} {x : β}
    (h : (items.filterMap f).Nodup) (ha : a ∈ items) (hb : b ∈ items) (hfa : f a = some x)
    (hfb : f b = some x) : a = b := by
  by_contra hne
  have hpairs := List.pairwise_filterMap.1 h
  have hsymm : Std.Symm fun a b => ∀ x, f a = some x → ∀ y, f b = some y → x ≠ y :=
    ⟨fun a b hab x hx y hy => (hab y hy x hx).symm⟩
  exact hpairs.forall ha hb hne x hfa x hfb rfl

namespace Braided

variable {stray : FieldPlan → Prop} {strands queue : List Strand} {first second : Registry}

theorem first_mem (h : Braided stray strands queue first second) {strand : Strand}
    {plan : FieldPlan} (hstrand : strand ∈ strands) (hplan : strand.counterpart? = some plan) :
    plan ∈ first.plans := by
  rw [h.first_plans]
  exact List.mem_filterMap.2 ⟨strand, hstrand, hplan⟩

theorem second_mem (h : Braided stray strands queue first second) {strand : Strand}
    (hstrand : strand ∈ strands) : strand.plan ∈ second.plans := by
  rw [h.second_plans]
  exact List.mem_map_of_mem hstrand

/-- What was built is the same on both sides. -/
theorem isSome_built (h : Braided stray strands queue first second) {strand : Strand}
    {plan : FieldPlan} (hstrand : strand ∈ strands) (hplan : strand.counterpart? = some plan) :
    (first.built.lookup plan.key).isSome = (second.built.lookup strand.plan.key).isSome := by
  rw [← Option.isSome_map, h.built strand hstrand plan hplan, Option.isSome_map]

theorem eq_of_key (h : Braided stray strands queue first second) {strand other : Strand}
    (hstrand : strand ∈ strands) (hother : other ∈ strands)
    (hkey : strand.plan.key = other.plan.key) : strand = other := by
  have hnodup : (strands.map fun strand => strand.plan.key).Nodup := by
    have hdistinct := h.second_isNumbered.distinct
    rw [h.second_plans, List.map_map] at hdistinct
    exact hdistinct
  exact List.inj_on_of_nodup_map hnodup hstrand hother hkey

/-- Strands are told apart by either of their plans. -/
theorem key_iff (h : Braided stray strands queue first second) {strand other : Strand}
    {plan plan' : FieldPlan} (hstrand : strand ∈ strands) (hother : other ∈ strands)
    (hplan : strand.counterpart? = some plan) (hplan' : other.counterpart? = some plan') :
    plan.key = plan'.key ↔ strand.plan.key = other.plan.key := by
  constructor
  · intro hkey
    obtain rfl : plan = plan' :=
      h.first_isNumbered.eq_of_key (h.first_mem hstrand hplan) (h.first_mem hother hplan') hkey
    have hnodup : (strands.filterMap Strand.counterpart?).Nodup := by
      rw [← h.first_plans]
      exact h.first_isNumbered.distinct.of_map _
    obtain rfl : strand = other :=
      eq_of_nodup_filterMap hnodup hstrand hother hplan hplan'
    rfl
  · intro hkey
    obtain rfl : strand = other := h.eq_of_key hstrand hother hkey
    rw [hplan] at hplan'
    cases hplan'
    rfl

/-! ### Growing -/

/-- Both registries get more strands. -/
theorem grow {fresh : List Strand} {first' second' : Registry}
    (h : Braided stray strands queue first second)
    (hfirst : first.Numbering (fresh.filterMap Strand.counterpart?) first')
    (hsecond : second.Numbering (fresh.map Strand.plan) second')
    (hstray : ∀ strand ∈ fresh, strand.counterpart? = none → stray strand.plan)
    (hbare : ∀ strand ∈ fresh, ∀ plan, strand.counterpart? = some plan →
      plan.bare = strand.plan.bare) :
    Braided stray (strands ++ fresh) (queue ++ fresh) first' second' where
  first_plans := by rw [hfirst.plans, h.first_plans, List.filterMap_append]
  second_plans := by rw [hsecond.plans, h.second_plans, List.map_append]
  queue_sublist := h.queue_sublist.append (List.Sublist.refl fresh)
  first_pending := by rw [hfirst.pending, h.first_pending, List.filterMap_append]
  second_pending := by rw [hsecond.pending, h.second_pending, List.map_append]
  stray := List.forall_mem_append.2 ⟨h.stray, hstray⟩
  bare := List.forall_mem_append.2 ⟨h.bare, hbare⟩
  built := by
    rw [hfirst.built, hsecond.built]
    refine List.forall_mem_append.2 ⟨h.built, fun strand hstrand plan hplan => ?_⟩
    have hnew := hfirst.fresh plan (List.mem_filterMap.2 ⟨strand, hstrand, hplan⟩)
    have hnew' := hsecond.fresh strand.plan (List.mem_map_of_mem hstrand)
    rw [h.first_isNumbered.lookup_eq_none hnew.1, h.second_isNumbered.lookup_eq_none hnew'.1]
  first_isNumbered := h.first_isNumbered.grow hfirst
  second_isNumbered := h.second_isNumbered.grow hsecond

/-- The second registry gets strays. -/
theorem grow_stray {added : List FieldPlan} {second' : Registry}
    (h : Braided stray strands queue first second) (hsecond : second.Numbering added second')
    (hstray : ∀ plan ∈ added, stray plan) : ∃ fresh,
      Braided stray (strands ++ fresh) (queue ++ fresh) first second' := by
  let fresh : List Strand := added.map fun plan => ⟨none, plan⟩
  have hfirst : fresh.filterMap Strand.counterpart? = [] := by
    simp [fresh, List.filterMap_map]
  have hplans : fresh.map Strand.plan = added := by
    simp [fresh, Function.comp_def]
  refine ⟨fresh, h.grow ?_ ?_ ?_ ?_⟩
  · rw [hfirst]
    exact .of_nil (.refl first)
  · rwa [hplans]
  · intro strand hstrand _
    obtain ⟨plan, hplan, rfl⟩ := List.mem_map.1 hstrand
    exact hstray plan hplan
  · intro strand hstrand plan hplan
    obtain ⟨_, _, rfl⟩ := List.mem_map.1 hstrand
    cases hplan

/-- A registry is braided with itself. -/
theorem refl {registry : Registry} (stray : FieldPlan → Prop) (h : registry.IsNumbered) :
    ∃ strands queue, Braided stray strands queue registry registry := by
  have hfirst (plans : List FieldPlan) :
      (plans.map fun plan => Strand.mk (some plan) plan).filterMap Strand.counterpart? = plans := by
    simp [List.filterMap_map]
  have hsecond (plans : List FieldPlan) :
      (plans.map fun plan => Strand.mk (some plan) plan).map Strand.plan = plans := by
    simp [Function.comp_def]
  refine ⟨registry.plans.map fun plan => ⟨some plan, plan⟩,
    registry.pending.map fun plan => ⟨some plan, plan⟩, (hfirst _).symm, (hsecond _).symm,
    h.queue.map _, (hfirst _).symm, (hsecond _).symm, ?_, ?_, ?_, h, h⟩
  all_goals
    intro strand hstrand
    obtain ⟨plan, -, rfl⟩ := List.mem_map.1 hstrand
  · intro hnone
    cases hnone
  · intro plan' hplan'
    cases hplan'
    rfl
  · intro plan' hplan'
    cases hplan'
    rfl

/-- Work that cannot be told apart keeps registries braided. -/
theorem of_matches {α γ : Type} {bare : α → γ} {work other : Build α}
    (h : Braided stray strands queue first second) (hmatches : Build.Matches bare work other)
    (hnumbers : Build.Numbers work) (hnumbers' : Build.Numbers other)
    (hentries : first.bareEntries = second.bareEntries) :
    (work.on first).1.map bare = (other.on second).1.map bare ∧ ∃ fresh,
      Braided stray (strands ++ fresh) (queue ++ fresh) (work.on first).2 (other.on second).2 := by
  obtain ⟨added, more, hfirst, hsecond, halike, hresult⟩ := hmatches.runs first second hentries
  obtain ⟨fresh, rfl, rfl, hbare⟩ := Strand.exists_of_map_bare halike
  refine ⟨hresult, fresh, h.grow (hnumbers.of_extends hfirst) (hnumbers'.of_extends hsecond) ?_ ?_⟩
  · intro strand hstrand hnone
    obtain ⟨plan, hplan, -⟩ := hbare strand hstrand
    rw [hnone] at hplan
    cases hplan
  · intro strand hstrand plan hplan
    obtain ⟨plan', hplan', hbare⟩ := hbare strand hstrand
    rw [hplan] at hplan'
    cases hplan'
    exact hbare

/-- What is written to the journals or entered keeps registries braided. -/
theorem of_eq {first' second' : Registry} (h : Braided stray strands queue first second)
    (hfirst : { first with entries := first'.entries, journal := first'.journal } = first')
    (hsecond : { second with entries := second'.entries, journal := second'.journal } = second') :
    Braided stray strands queue first' second' := by
  rw [← hfirst, ← hsecond]
  have hnumbered {registry : Registry} (h : registry.IsNumbered)
      (entries : List (Json × GraphType)) (journal : List Event) :
      { registry with entries, journal }.IsNumbered :=
    ⟨h.distinct, h.lt, h.queue, h.built, h.once⟩
  exact ⟨h.first_plans, h.second_plans, h.queue_sublist, h.first_pending, h.second_pending,
    h.stray, h.bare, h.built, hnumbered h.first_isNumbered _ _, hnumbered h.second_isNumbered _ _⟩

/-! ### Building fields -/

/-- Fields that are the same but for keys are built for a plan and its counterpart. -/
theorem fill (h : Braided stray strands queue first second) {strand : Strand} {plan : FieldPlan}
    {fields fields' : FieldMap} (hstrand : strand ∈ strands)
    (hplan : strand.counterpart? = some plan) (hunbuilt : first.built.lookup plan.key = none)
    (hfields : fields.bare = fields'.bare) : Braided stray strands queue
      { first with built := (plan.key, fields) :: first.built }
      { second with built := (strand.plan.key, fields') :: second.built } where
  first_plans := h.first_plans
  second_plans := h.second_plans
  queue_sublist := h.queue_sublist
  first_pending := h.first_pending
  second_pending := h.second_pending
  stray := h.stray
  bare := h.bare
  built other hother plan' hplan' := by
    have hkey := h.key_iff hother hstrand hplan' hplan
    rw [List.lookup_cons, List.lookup_cons]
    by_cases heq : plan'.key = plan.key
    · rw [beq_iff_eq.2 heq, beq_iff_eq.2 (hkey.1 heq)]
      exact congrArg some hfields
    · rw [beq_eq_false_iff_ne.2 heq, beq_eq_false_iff_ne.2 (mt hkey.2 heq)]
      exact h.built other hother plan' hplan'
  first_isNumbered := h.first_isNumbered.fill (h.first_mem hstrand hplan) hunbuilt fields
  second_isNumbered := by
    have hisSome := h.isSome_built hstrand hplan
    rw [hunbuilt, Option.isSome_none, eq_comm, Option.isSome_eq_false_iff,
      Option.isNone_iff_eq_none] at hisSome
    exact h.second_isNumbered.fill (h.second_mem hstrand) hisSome fields'

/-- Fields are built for a stray. -/
theorem fill_stray (h : Braided stray strands queue first second) {strand : Strand}
    (hstrand : strand ∈ strands) (hnone : strand.counterpart? = none)
    (hunbuilt : second.built.lookup strand.plan.key = none) (fields : FieldMap) :
    Braided stray strands queue first
      { second with built := (strand.plan.key, fields) :: second.built } where
  first_plans := h.first_plans
  second_plans := h.second_plans
  queue_sublist := h.queue_sublist
  first_pending := h.first_pending
  second_pending := h.second_pending
  stray := h.stray
  bare := h.bare
  built other hother plan' hplan' := by
    have hne : other.plan.key ≠ strand.plan.key := by
      intro hkey
      obtain rfl : other = strand := h.eq_of_key hother hstrand hkey
      rw [hnone] at hplan'
      cases hplan'
    rw [List.lookup_cons, beq_eq_false_iff_ne.2 hne]
    exact h.built other hother plan' hplan'
  first_isNumbered := h.first_isNumbered
  second_isNumbered := h.second_isNumbered.fill (h.second_mem hstrand) hunbuilt fields

/-- Building the fields of a plan and of its counterpart ends alike. -/
theorem fieldsOf (h : Braided stray strands queue first second) {strand : Strand}
    {plan : FieldPlan} (hstrand : strand ∈ strands) (hplan : strand.counterpart? = some plan)
    (hentries : first.bareEntries = second.bareEntries) :
    ((Build.fieldsOf plan).on first).1.map FieldMap.bare =
      ((Build.fieldsOf strand.plan).on second).1.map FieldMap.bare ∧
    ∃ fresh, Braided stray (strands ++ fresh) (queue ++ fresh)
      ((Build.fieldsOf plan).on first).2 ((Build.fieldsOf strand.plan).on second).2 := by
  have hbuilt := h.built strand hstrand plan hplan
  rw [Build.fieldsOf_on, Build.fieldsOf_on]
  cases hfirst : first.built.lookup plan.key with
  | some fields =>
    cases hsecond : second.built.lookup strand.plan.key with
    | some fields' =>
      rw [hfirst, hsecond] at hbuilt
      refine ⟨congrArg Except.ok (Option.some.inj hbuilt), [], ?_⟩
      rwa [List.append_nil, List.append_nil]
    | none =>
      rw [hfirst, hsecond] at hbuilt
      cases hbuilt
  | none =>
    cases hsecond : second.built.lookup strand.plan.key with
    | some fields' =>
      rw [hfirst, hsecond] at hbuilt
      cases hbuilt
    | none =>
      obtain ⟨hresult, fresh, hbraided⟩ :=
        h.of_matches (Build.buildPlan_matches (h.bare strand hstrand plan hplan))
          (Build.buildPlan_numbers plan) (Build.buildPlan_numbers strand.plan) hentries
      obtain ⟨_, hextends, -⟩ := (Build.buildPlan_adds plan).adds first
      simp only
      rcases hrun : (Build.buildPlan plan).on first with ⟨fault | fields, after⟩ <;>
        rcases hrun' : (Build.buildPlan strand.plan).on second with ⟨fault' | fields', after'⟩ <;>
        rw [hrun, hrun'] at hresult hbraided <;> rw [hrun] at hextends
      · exact ⟨hresult, fresh, hbraided⟩
      · cases hresult
      · cases hresult
      · refine ⟨hresult, fresh, hbraided.fill (List.mem_append_left _ hstrand) hplan ?_
          (Except.ok.inj hresult)⟩
        rwa [show after.built = first.built from hextends.built]

/-- Building the fields of a stray leaves the first registry alone, if strays lead to strays. -/
theorem fieldsOf_stray (h : Braided stray strands queue first second) {strand : Strand}
    (hdefers : ∀ plan inner, stray plan → plan.Defers inner → stray inner)
    (hstrand : strand ∈ strands) (hnone : strand.counterpart? = none) : ∃ fresh,
      Braided stray (strands ++ fresh) (queue ++ fresh) first
        ((Build.fieldsOf strand.plan).on second).2 := by
  rw [Build.fieldsOf_on]
  cases hbuilt : second.built.lookup strand.plan.key with
  | some fields => exact ⟨[], by rwa [List.append_nil, List.append_nil]⟩
  | none =>
    obtain ⟨added, hextends, hadded⟩ := (Build.buildPlan_adds strand.plan).adds second
    have hnumbering := (Build.buildPlan_numbers strand.plan).of_extends hextends
    obtain ⟨fresh, hbraided⟩ := h.grow_stray hnumbering fun plan hplan =>
      hdefers strand.plan plan (h.stray strand hstrand hnone) (hadded plan hplan)
    refine ⟨fresh, ?_⟩
    simp only
    rcases hrun : (Build.buildPlan strand.plan).on second with ⟨fault | fields, after⟩ <;>
      rw [hrun] at hbraided hextends
    · exact hbraided
    · refine hbraided.fill_stray (List.mem_append_left _ hstrand) hnone ?_ fields
      rwa [show after.built = second.built from hextends.built]

/-! ### Draining -/

/-- A plan is taken off both queues. -/
theorem pop {strand : Strand} {rest : List Strand}
    (h : Braided stray strands (strand :: rest) first second) :
    Braided stray strands rest (first.queueing (rest.filterMap Strand.counterpart?))
      (second.queueing (rest.map Strand.plan)) := by
  have hsublist : rest.Sublist strands := (List.sublist_cons_self strand rest).trans h.queue_sublist
  refine ⟨h.first_plans, h.second_plans, hsublist, rfl, rfl, h.stray, h.bare, h.built, ?_, ?_⟩
  · refine h.first_isNumbered.queueing ?_
    rw [h.first_plans]
    exact hsublist.filterMap _
  · refine h.second_isNumbered.queueing ?_
    rw [h.second_plans]
    exact hsublist.map _

/-- A stray is taken off the second queue. -/
theorem pop_stray {strand : Strand} {rest : List Strand}
    (h : Braided stray strands (strand :: rest) first second)
    (hnone : strand.counterpart? = none) :
    Braided stray strands rest first (second.queueing (rest.map Strand.plan)) := by
  have hpop := h.pop
  have hpending : rest.filterMap Strand.counterpart? = first.pending := by
    rw [h.first_pending, List.filterMap_cons, hnone]
  rwa [hpending] at hpop

theorem exists_head {plan : FieldPlan} {rest : List FieldPlan}
    (h : Braided stray strands queue first second) (hpending : second.pending = plan :: rest) :
    ∃ strand tail, queue = strand :: tail ∧ strand.plan = plan ∧ tail.map Strand.plan = rest :=
  List.map_eq_cons_iff.1 (h.second_pending.symm.trans hpending)

theorem head_mem {strand : Strand} {tail : List Strand}
    (h : Braided stray strands (strand :: tail) first second) : strand ∈ strands :=
  h.queue_sublist.subset List.mem_cons_self

theorem first_pending_cons {strand : Strand} {tail : List Strand} {plan : FieldPlan}
    (h : Braided stray strands (strand :: tail) first second)
    (hplan : strand.counterpart? = some plan) :
    first.pending = plan :: tail.filterMap Strand.counterpart? := by
  rw [h.first_pending, List.filterMap_cons, hplan]

/-- Where the plan at the head of the second queue is built, so is its counterpart at the head of
the first one, alike. -/
theorem drain_head {strand : Strand} {tail : List Strand} {plan : FieldPlan}
    {result : Except Fault FieldMap} {after : Registry}
    (h : Braided stray strands (strand :: tail) first second)
    (hplan : strand.counterpart? = some plan) (hentries : first.bareEntries = second.bareEntries)
    (hunbuilt : ¬ (second.built.lookup strand.plan.key).isSome)
    (hrun : (Build.fieldsOf strand.plan).on (second.queueing (tail.map Strand.plan)) =
      (result, after)) (resolved : Nat) :
    ∃ (result' : Except Fault FieldMap) (middle : Registry) (fresh : List Strand),
      result'.map FieldMap.bare = result.map FieldMap.bare ∧
      middle.bareEntries = first.bareEntries ∧
      Braided stray (strands ++ fresh) (tail ++ fresh) middle after ∧
      Build.drain resolved first = match result' with
        | .ok _ => Build.drain (resolved + 1) middle
        | .error fault => (.error fault, middle) := by
  have hunbuilt' : ¬ (first.built.lookup plan.key).isSome := by
    rwa [h.isSome_built h.head_mem hplan]
  obtain ⟨hresult, fresh, hbraided⟩ := h.pop.fieldsOf h.head_mem hplan hentries
  rw [hrun] at hresult hbraided
  have hmiddle := Build.fieldsOf_bareEntries plan
    (first.queueing (tail.filterMap Strand.counterpart?))
  refine ⟨_, _, fresh, hresult, hmiddle, hbraided, ?_⟩
  rw [Build.drain_cons resolved (h.first_pending_cons hplan), if_neg hunbuilt']
  rcases (Build.fieldsOf plan).on (first.queueing (tail.filterMap Strand.counterpart?)) with
    ⟨fault | fields, middle⟩ <;> rfl

/-- Draining the queue of `start` stops at a stray, and leaves `after`. -/
def StopsAtStray (stray : FieldPlan → Prop) (start after : Registry) : Prop :=
  ∃ plan fault, stray plan ∧ Build.StopsAt start plan fault after

theorem StopsAtStray.of_draining {start middle after : Registry}
    (h : StopsAtStray stray middle after) (hdraining : Build.Draining start middle) :
    StopsAtStray stray start after :=
  let ⟨plan, fault, hstray, hstops⟩ := h
  ⟨plan, fault, hstray, hdraining.stopsAt hstops⟩

/-- **Draining braided queues ends alike**, unless it stops at a stray. -/
theorem drain (h : Braided stray strands queue first second)
    (hdefers : ∀ plan inner, stray plan → plan.Defers inner → stray inner)
    (hentries : first.bareEntries = second.bareEntries) (resolved resolved' : Nat) :
    StopsAtStray stray second (Build.drain resolved' second).2 ∨
    ((Build.drain resolved first).1 = (Build.drain resolved' second).1 ∧
      ∃ strands queue, Braided stray strands queue (Build.drain resolved first).2
        (Build.drain resolved' second).2) := by
  fun_induction Build.drain resolved' second generalizing first strands queue resolved with
  | case1 resolved' second hpending =>
    have hqueue : queue = [] := List.map_eq_nil_iff.1 (h.second_pending.symm.trans hpending)
    have hfirst : first.pending = [] := by
      rw [h.first_pending, hqueue]
      rfl
    rw [Build.drain_nil resolved hfirst]
    exact .inr ⟨rfl, strands, queue, h.of_eq rfl rfl⟩
  | case2 resolved' second plan rest hpending popped hload hbuilt =>
    rename_i ih
    obtain ⟨strand, tail, rfl, rfl, rfl⟩ := h.exists_head hpending
    have hdraining : Build.Draining second popped := .skip .start hpending hbuilt
    cases hplan : strand.counterpart? with
    | none =>
      exact (ih (h.pop_stray hplan) hentries resolved).imp_left (·.of_draining hdraining)
    | some plan =>
      have hbuilt' : (first.built.lookup plan.key).isSome := by
        rwa [h.isSome_built h.head_mem hplan]
      rw [Build.drain_cons resolved (h.first_pending_cons hplan), if_pos hbuilt']
      exact (ih h.pop hentries resolved).imp_left (·.of_draining hdraining)
  | case3 resolved' second plan rest hpending popped hload hbuilt fields after =>
    rename_i hrun ih
    obtain ⟨strand, tail, rfl, rfl, rfl⟩ := h.exists_head hpending
    have hdraining : Build.Draining second after := .build .start hpending hrun
    have hafter : after.bareEntries = second.bareEntries := by
      have hsame := Build.fieldsOf_bareEntries strand.plan popped
      rwa [hrun] at hsame
    cases hplan : strand.counterpart? with
    | none =>
      obtain ⟨fresh, hbraided⟩ := (h.pop_stray hplan).fieldsOf_stray hdefers h.head_mem hplan
      rw [show (Build.fieldsOf strand.plan).on (second.queueing _) = _ from hrun] at hbraided
      exact (ih hbraided (hentries.trans hafter.symm) resolved).imp_left
        (·.of_draining hdraining)
    | some plan =>
      obtain ⟨_ | fields', middle, fresh, hresult, hmiddle, hbraided, hdrain⟩ :=
        h.drain_head hplan hentries hbuilt hrun resolved
      · cases hresult
      · rw [hdrain]
        have hentries' := hmiddle.trans (hentries.trans hafter.symm)
        exact (ih hbraided hentries' (resolved + 1)).imp_left (·.of_draining hdraining)
  | case4 resolved' second plan rest hpending popped hload hbuilt fault after =>
    rename_i hrun
    obtain ⟨strand, tail, rfl, rfl, rfl⟩ := h.exists_head hpending
    cases hplan : strand.counterpart? with
    | none =>
      exact .inl ⟨strand.plan, fault, h.stray strand h.head_mem hplan,
        second, tail.map Strand.plan, .start, hpending, hrun⟩
    | some plan =>
      obtain ⟨_ | fields', middle, fresh, hresult, -, hbraided, hdrain⟩ :=
        h.drain_head hplan hentries hbuilt hrun resolved
      · cases hresult
        rw [hdrain]
        exact .inr ⟨rfl, _, _, hbraided⟩
      · cases hresult

end Braided
end SchemaGraph
