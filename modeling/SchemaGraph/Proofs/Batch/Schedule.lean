import SchemaGraph.Proofs.Batch.Acceptance
import SchemaGraph.Proofs.Batch.Twins

/-! When fields are built makes no difference.

A registry need not be filled and drained in one go. Documents may be added one by one,
and at any time between the queue may be drained or the fields of a single object built
or read (`Step`). Such work may fail since a document is not there yet; what was queued
on the way stays queued, and a plan that failed is not queued again.

If a batch compiles, then every schedule that adds its documents in order is fine
(`Underway.run`): no addition fails, and at the end all fields can be built. Doing so one
by one is enough to have all of them at some time (`Underway.settle`), and then the graph
is the one of the batch (`schedule_unobservable`). -/
namespace SchemaGraph

theorem Build.on_discard {α : Type} (work : Build α) (registry : Registry) :
    ((do let _ ← work; return : Build Unit).on registry).2 = (work.on registry).2 := by
  rw [on_bind]
  rcases work.on registry with ⟨fault | value, after⟩ <;> rfl

/-- What can be done to a registry. -/
inductive Step where
  | add (document : Json)
  /-- The queue is drained. -/
  | resolve
  /-- The fields of an object are built. -/
  | force (plan : FieldPlan)
  /-- The fields of an object are read. -/
  | read (info : TypeInfo) (plan : FieldPlan)

namespace Step

/-- The work of a step. -/
def work (config : Config) (customize? : Option Customizer) : Step → Build Unit
  | add document => Build.compile config customize? document
  | resolve => Build.resolvePending
  | force plan => do
    let _ ← Build.fieldsOf plan
    return
  | read info plan => do
    let _ ← Build.readFields info plan
    return

/-- The registry after a step, whether it failed or not. -/
def after (config : Config) (customize? : Option Customizer) (registry : Registry)
    (step : Step) : Registry :=
  ((step.work config customize?).on registry).2

theorem after_force (config : Config) (customize? : Option Customizer) (registry : Registry)
    (plan : FieldPlan) : (force plan).after config customize? registry =
      ((Build.fieldsOf plan).on registry).2 :=
  Build.on_discard (Build.fieldsOf plan) registry

/-- Reading fields that were not given leaves behind what building them does. -/
theorem after_read (config : Config) (customize? : Option Customizer) (registry : Registry)
    (info : TypeInfo) (plan : FieldPlan) : (read info plan).after config customize? registry =
      match info.fields? with
      | some _ => registry
      | none => ((Build.fieldsOf plan).on registry).2 := by
  rw [after, work, Build.on_discard, Build.readFields_on]
  cases info.fields? with
  | some given => rfl
  | none => rcases (Build.fieldsOf plan).on registry with ⟨fault | fields, after⟩ <;> rfl

end Step

/-- The registry after a schedule, whatever failed on the way. -/
def run (config : Config) (customize? : Option Customizer) (registry : Registry)
    (steps : List Step) : Registry :=
  steps.foldl (Step.after config customize?) registry

theorem run_append (config : Config) (customize? : Option Customizer) (registry : Registry)
    (first second : List Step) :
    run config customize? registry (first ++ second) =
      run config customize? (run config customize? registry first) second :=
  List.foldl_append

/-- What holds of the additions among some steps, each after the steps before it. -/
theorem forall_add_cons {p : List Step → Json → Prop} {step : Step} {steps : List Step}
    (hhead : ∀ document, step = .add document → p [] document)
    (htail : ∀ before document after, steps = before ++ .add document :: after →
      p (step :: before) document) :
    ∀ before document after, step :: steps = before ++ .add document :: after →
      p before document := by
  intro before document after heq
  rcases List.cons_eq_append_iff.1 heq with ⟨rfl, hsteps⟩ | ⟨before, rfl, hsteps⟩
  · exact hhead document (List.cons.inj hsteps).1.symm
  · exact htail before document after hsteps

/-- A schedule from `registry` on that adds the documents in order, and builds and reads the fields
of objects only that were made before. -/
inductive IsSchedule (config : Config) (customize? : Option Customizer) :
    Registry → List Json → List Step → Prop where
  | nil {registry} : IsSchedule config customize? registry [] []
  | add {registry document documents steps}
      (h : IsSchedule config customize? ((Step.add document).after config customize? registry)
        documents steps) :
      IsSchedule config customize? registry (document :: documents) (.add document :: steps)
  | resolve {registry documents steps}
      (h : IsSchedule config customize? (Step.resolve.after config customize? registry)
        documents steps) :
      IsSchedule config customize? registry documents (.resolve :: steps)
  | force {registry plan documents steps} (hplan : plan ∈ registry.plans)
      (h : IsSchedule config customize? ((Step.force plan).after config customize? registry)
        documents steps) :
      IsSchedule config customize? registry documents (.force plan :: steps)
  | read {registry info plan documents steps} (hplan : plan ∈ registry.plans)
      (h : IsSchedule config customize? ((Step.read info plan).after config customize? registry)
        documents steps) :
      IsSchedule config customize? registry documents (.read info plan :: steps)

theorem IsSchedule.append {config : Config} {customize? : Option Customizer}
    {registry : Registry} {documents more : List Json} {steps later : List Step}
    (h : IsSchedule config customize? registry documents steps)
    (h' : IsSchedule config customize? (run config customize? registry steps) more later) :
    IsSchedule config customize? registry (documents ++ more) (steps ++ later) := by
  induction h with
  | nil => exact h'
  | add _ ih => exact .add (ih h')
  | resolve _ ih => exact .resolve (ih h')
  | force hplan _ ih => exact .force hplan (ih h')
  | read hplan _ ih => exact .read hplan (ih h')

/-! ### What steps leave behind -/

namespace Build

/-- The plans that building the fields of a plan adds are admissible if the others are. -/
theorem fieldsOf_admits {late : Json → Prop} {plan : FieldPlan} {registry : Registry}
    (h : ∀ plan ∈ registry.plans, plan.Admits late) (hplan : plan ∈ registry.plans) :
    ∀ other ∈ ((fieldsOf plan).on registry).2.plans, other.Admits late := by
  obtain ⟨added, -, hplans, hadded⟩ := fieldsOf_queues plan registry
  intro other hother
  rw [hplans] at hother
  rcases List.mem_append.1 hother with hother | hother
  · exact h other hother
  · exact (hadded other hother).admits (h plan hplan)

theorem drain_admits {late : Json → Prop} {resolved : Nat} {registry : Registry}
    (h : ∀ plan ∈ registry.plans, plan.Admits late)
    (hpending : ∀ plan ∈ registry.pending, plan ∈ registry.plans) :
    ∀ plan ∈ (drain resolved registry).2.plans, plan.Admits late := by
  refine (drain_preserves (p := fun registry => (∀ plan ∈ registry.plans, plan.Admits late) ∧
    ∀ plan ∈ registry.pending, plan ∈ registry.plans) ?_ ?_ ?_ resolved ⟨h, hpending⟩).1
  · exact fun _ _ h => h
  · intro registry plan rest hqueue ⟨hadmits, hpending⟩
    exact ⟨hadmits, fun other hother => hpending other (hqueue ▸ List.mem_cons_of_mem _ hother)⟩
  · intro registry plan rest hqueue ⟨hadmits, hpending⟩
    have hplan : plan ∈ registry.plans := hpending plan (hqueue ▸ List.mem_cons_self)
    let popped : Registry := { registry with pending := rest }
    have hpopped : ∀ other ∈ popped.plans, other.Admits late := hadmits
    refine ⟨fieldsOf_admits hpopped hplan, ?_⟩
    obtain ⟨added, hpending', hplans, -⟩ := fieldsOf_queues plan popped
    rw [hpending', hplans]
    intro other hother
    rcases List.mem_append.1 hother with hother | hother
    · exact List.mem_append_left _ (hpending other (hqueue ▸ List.mem_cons_of_mem _ hother))
    · exact List.mem_append_right _ hother

end Build

/-- The sources in `done` were added, and the plans of the registry can be built once all
sources are. -/
structure Underway (config : Config) (customize? : Option Customizer) (sources done : List Source)
    (ledger : Ledger) : Prop where
  holds : ledger.Holds (config.setting customize?) done
  admits : ∀ plan ∈ ledger.registry.plans, plan.Admits (Named sources)

namespace Underway

variable {config : Config} {customize? : Option Customizer} {sources done rest : List Source}
  {ledger : Ledger}

theorem empty (config : Config) (customize? : Option Customizer) (sources : List Source) :
    Underway config customize? sources [] .empty :=
  ⟨Ledger.empty_holds _, fun _ hplan => nomatch hplan⟩

/-- The next source can be added. -/
theorem add (h : Underway config customize? sources done ledger)
    (hadmits : (config.setting customize?).AdmitsAll sources) {source : Source} {document : Json}
    (hsources : sources = done ++ source :: rest)
    (hpasses : Build.Passes config document source) : ∃ last : Ledger,
      (Build.compile config customize? document).on ledger.registry = (.ok (), last.registry) ∧
        Underway config customize? sources (done ++ [source]) last := by
  obtain ⟨after, hrun, hcompiles⟩ :=
    Build.Compiles.of_admitsAll hadmits hsources hpasses h.holds.ids_eq
  obtain ⟨last, rfl, -, hholds⟩ := h.holds.compile hcompiles
  refine ⟨last, hrun, hholds, fun plan hplan => ?_⟩
  obtain ⟨added, -, hplans, -, hadded⟩ := hcompiles.adds
  rw [hplans] at hplan
  rcases List.mem_append.1 hplan with hplan | hplan
  · exact h.admits plan hplan
  · exact (hadded plan hplan).admits (hadmits.admits done source rest hsources)

/-- Building fields, with success or not. -/
theorem force (h : Underway config customize? sources done ledger) {plan : FieldPlan}
    (hplan : plan ∈ ledger.registry.plans) : ∃ last : Ledger,
      last.registry = ((Build.fieldsOf plan).on ledger.registry).2 ∧
        Underway config customize? sources done last := by
  obtain ⟨place, hplace⟩ := h.holds.sound.place_plan plan hplan
  obtain ⟨last, hlast, hle, hsound, -⟩ := Ledger.fieldsOf_yields h.holds.sound hplan hplace
  refine ⟨last, hlast, h.holds.of_le hle hsound ?_, ?_⟩
  · rw [hlast]
    exact Build.fieldsOf_entries plan ledger.registry
  · rw [hlast]
    exact Build.fieldsOf_admits h.admits hplan

/-- Reading fields, with success or not. -/
theorem read (h : Underway config customize? sources done ledger) (info : TypeInfo)
    {plan : FieldPlan} (hplan : plan ∈ ledger.registry.plans) : ∃ last : Ledger,
      last.registry = (Step.read info plan).after config customize? ledger.registry ∧
        Underway config customize? sources done last := by
  rw [Step.after_read]
  cases info.fields? with
  | some given => exact ⟨ledger, rfl, h⟩
  | none => exact h.force hplan

/-- Draining the queue, with success or not. -/
theorem resolve (h : Underway config customize? sources done ledger) : ∃ last : Ledger,
    last.registry = (Build.drain 0 ledger.registry).2 ∧
      Underway config customize? sources done last := by
  obtain ⟨last, hlast, hle, hsound⟩ := Ledger.drain_yields h.holds.sound 0
  refine ⟨last, hlast, h.holds.of_le hle hsound ?_, ?_⟩
  · rw [hlast]
    exact Build.drain_entries 0 ledger.registry
  · rw [hlast]
    exact Build.drain_admits h.admits h.holds.sound.pending_plans

/-- **A schedule goes through.** Every addition succeeds, and at the end all sources are there. -/
theorem run {registry : Registry} {documents : List Json} {steps : List Step}
    (hschedule : IsSchedule config customize? registry documents steps)
    (h : Underway config customize? sources done ledger) (hregistry : ledger.registry = registry)
    (hadmits : (config.setting customize?).AdmitsAll sources) (hsources : sources = done ++ rest)
    (hpasses : List.Forall₂ (Build.Passes config) documents rest) :
    (∃ last : Ledger, last.registry = SchemaGraph.run config customize? registry steps ∧
      Underway config customize? sources sources last) ∧
    ∀ before document after, steps = before ++ .add document :: after →
      ((Build.compile config customize? document).on
        (SchemaGraph.run config customize? registry before)).1 = .ok () := by
  induction hschedule generalizing ledger done rest with
  | nil =>
    cases hpasses
    rw [List.append_nil] at hsources
    refine ⟨⟨ledger, hregistry, hsources ▸ h⟩, fun before document after heq => ?_⟩
    simp at heq
  | @add registry document documents steps _ ih =>
    obtain ⟨source, rest', hhead, htail, rfl⟩ := List.forall₂_cons_left_iff.1 hpasses
    obtain ⟨middle, hrun, hmiddle⟩ := h.add hadmits hsources hhead
    rw [hregistry] at hrun
    have hafter : middle.registry = (Step.add document).after config customize? registry := by
      rw [Step.after, Step.work, hrun]
    obtain ⟨hlast, hadds⟩ := ih hmiddle hafter (hsources.trans (List.append_cons ..)) htail
    refine ⟨hlast, forall_add_cons (fun other heq => ?_) hadds⟩
    cases heq
    exact congrArg Prod.fst hrun
  | resolve _ ih =>
    obtain ⟨middle, hmiddle, hunderway⟩ := h.resolve
    rw [hregistry] at hmiddle
    obtain ⟨hlast, hadds⟩ := ih hunderway hmiddle hsources hpasses
    exact ⟨hlast, forall_add_cons (fun _ heq => nomatch heq) hadds⟩
  | force hplan _ ih =>
    obtain ⟨middle, hmiddle, hunderway⟩ := h.force (hregistry ▸ hplan)
    rw [hregistry, ← Step.after_force config customize?] at hmiddle
    obtain ⟨hlast, hadds⟩ := ih hunderway hmiddle hsources hpasses
    exact ⟨hlast, forall_add_cons (fun _ heq => nomatch heq) hadds⟩
  | @read registry info _ _ _ hplan _ ih =>
    obtain ⟨middle, hmiddle, hunderway⟩ := h.read info (hregistry ▸ hplan)
    rw [hregistry] at hmiddle
    obtain ⟨hlast, hadds⟩ := ih hunderway hmiddle hsources hpasses
    exact ⟨hlast, forall_add_cons (fun _ heq => nomatch heq) hadds⟩

/-! ### At the end -/

theorem fieldsOf_ok (h : Underway config customize? sources sources ledger) {plan : FieldPlan}
    (hplan : plan ∈ ledger.registry.plans) : ∃ fields after,
      (Build.fieldsOf plan).on ledger.registry = (.ok fields, after) :=
  Build.fieldsOf_ok (h.admits plan hplan) fun _ =>
    (Registry.has_iff h.holds.ids_eq h.holds.isKey).2

/-- Building fields one by one is enough to have all of them. -/
theorem settle {plans : List FieldPlan} (h : Underway config customize? sources sources ledger)
    (hplans : ∀ plan ∈ plans, plan ∈ ledger.registry.plans)
    (htracks : ledger.registry.Tracks plans) : ∃ (forced : List FieldPlan) (last : Ledger),
      IsSchedule config customize? ledger.registry [] (forced.map .force) ∧
      last.registry = SchemaGraph.run config customize? ledger.registry (forced.map .force) ∧
      Underway config customize? sources sources last ∧ last.registry.IsBuilt := by
  -- The load goes down, for the plans that are queued on the way weigh less than the forced one.
  induction hload : Registry.load plans using Nat.strong_induction_on
    generalizing plans ledger with
  | _ n ih =>
    cases plans with
    | nil => exact ⟨[], ledger, .nil, rfl, h, htracks.isBuilt⟩
    | cons plan rest =>
      have hplan := hplans plan List.mem_cons_self
      obtain ⟨fields, after, hfields⟩ := h.fieldsOf_ok hplan
      obtain ⟨middle, hmiddle, hunderway⟩ := h.force hplan
      obtain ⟨added, hqueue, hadded, -⟩ := Build.fieldsOf_queues plan ledger.registry
      obtain ⟨added', hqueue', hgrows⟩ := (Build.fieldsOf_grows plan).adds ledger.registry
      obtain rfl : added = added' := List.append_cancel_left (hqueue.symm.trans hqueue')
      have hweight := Build.weight_pos plan
      have hlt : Registry.load (rest ++ added) < n := by
        rw [← hload, Build.load_append, Build.load_cons]
        omega
      have hmem : ∀ other ∈ rest ++ added, other ∈ middle.registry.plans := by
        intro other hother
        rw [hmiddle, hadded]
        rcases List.mem_append.1 hother with hother | hother
        · exact List.mem_append_left _ (hplans other (List.mem_cons_of_mem _ hother))
        · exact List.mem_append_right _ hother
      have hrest : middle.registry.Tracks (rest ++ added) := by
        rw [hmiddle]
        rw [hfields] at hadded ⊢
        exact htracks.of_fieldsOf hfields hadded
      obtain ⟨forced, last, hschedule, hlast, hsettled⟩ := ih _ hlt hunderway hmem hrest rfl
      rw [hmiddle, ← Step.after_force config customize?] at hschedule hlast
      exact ⟨plan :: forced, last, .force hplan hschedule, hlast, hsettled⟩

end Underway

/-! ### The same graph -/

/-- All references of an admissible shape lead to targets below properties or others. -/
theorem Shape.Admissible.of_refersTo {isNamed : Option TypeForm → String → Site → Prop}
    {hasEmpty : Prop} {late early : Json → Prop} {position : String} {shape : Shape}
    {target : Json} (h : Admissible isNamed hasEmpty late early position shape)
    (hearly : ∀ target, early target → late target) (hrefers : shape.RefersTo target) :
    late target := by
  induction hrefers generalizing early position with
  | reference =>
    cases h with
    | reference htarget => exact hearly _ htarget
  | case hcase _ ih =>
    cases h with
    | union _ hcases => exact ih (hcases _ hcase) hearly
  | item _ ih =>
    cases h with
    | array hitems => exact ih hitems hearly
  | property hproperty _ ih =>
    cases h with
    | object _ _ _ hproperties => exact ih (hproperties _ hproperty) fun _ => id

/-- Every source that is named has its references named too. -/
theorem Setting.AdmitsAll.shares {setting : Setting} {sources : List Source}
    (h : setting.AdmitsAll sources) : Shares sources sources (Named sources) := by
  rintro target ⟨source, hsource, hsame⟩
  refine ⟨source, hsource, hsource, hsame, fun next hrefers => ?_⟩
  obtain ⟨before, rest, hsources⟩ := List.append_of_mem hsource
  refine (h.admits before source rest hsources).of_refersTo (fun target htarget => ?_) hrefers
  exact htarget.mono (hsources ▸ List.subset_append_left _ _)

/-- How a schedule for documents compares to compiling them in one go, which gave `plain`. -/
structure Agrees (config : Config) (customize? : Option Customizer) (documents : List Json)
    (steps : List Step) (plain : Registry) : Prop where
  /-- No document is refused. -/
  adds : ∀ before document after, steps = before ++ .add document :: after →
    ((Build.compile config customize? document).on (run config customize? .empty before)).1 =
      .ok ()
  /-- The fields of an object can be built, so that readers find no fault but with their names or
  with what was given in their place. -/
  reads : ∀ info plan, (run config customize? .empty steps).Reaches (.object info plan) →
    ∃ fields, ((Build.fieldsOf plan).on (run config customize? .empty steps)).1 = .ok fields ∧
      ((Build.readFields info plan).on (run config customize? .empty steps)).1 =
        match info.fields? with
        | some given => givenFields given
        | none => fields.checked
  /-- Building fields one by one is enough to have all of them. -/
  settles : ∃ plans : List FieldPlan,
    IsSchedule config customize? .empty documents (steps ++ plans.map .force) ∧
      (run config customize? .empty (steps ++ plans.map .force)).IsSettled
  /-- At a reference is the very type that the registry has for its target. -/
  refers : ∃ sources,
    List.Forall₂ (fun document source => Source.ofJson document = .ok source) documents sources ∧
      ∀ place position site target type,
        Located (run config customize? .empty steps) sources place position
          (.reference site target) type →
        (run config customize? .empty steps).find? target = some type
  /-- The graph is that of `plain`, once all fields are there that can be reached. -/
  isomorphic : (run config customize? .empty steps).IsSettled →
    ∃ R, Isomorphism plain (run config customize? .empty steps) R ∧
      List.Forall₂ (fun a b => a.1 = b.1 ∧ R a.2 b.2) plain.entries
        (run config customize? .empty steps).entries ∧
      ∀ info plan info' plan', R (.object info plan) (.object info' plan') →
        ((Build.readFields info plan).on plain).1.map (·.map Field.name) =
          ((Build.readFields info' plan').on (run config customize? .empty steps)).1.map
            (·.map Field.name)

/-- **When fields are built makes no difference.** If documents compile, then every schedule that
adds them in order goes through and ends with the same graph. -/
theorem schedule_unobservable {config : Config} {customize? : Option Customizer}
    {documents : List Json} {steps : List Step} {plain : Registry}
    (hdistinct : DistinctIds documents)
    (hrun : (Build.compileAll config customize? documents).on .empty = (.ok (), plain))
    (hschedule : IsSchedule config customize? .empty documents steps) :
    Agrees config customize? documents steps plain := by
  obtain ⟨sources, ledger, rfl, hcompiled⟩ :=
    Build.compileAll_holds (.inr ⟨hdistinct, fun _ _ _ _ => rfl⟩) hrun
  have hadmits := hcompiled.admitsAll
  have hshares := hadmits.shares
  obtain ⟨⟨last, hlast, hunderway⟩, hadds⟩ := Underway.run hschedule
    (.empty config customize? sources) rfl hadmits (List.nil_append _).symm hcompiled.passes
  have hholds := hunderway.holds
  refine ⟨hadds, ?_, ?_, ?_, ?_⟩
  · rw [← hlast]
    intro info plan hreaches
    obtain ⟨fields, after, hfields⟩ := hunderway.fieldsOf_ok (hholds.mem_plans hreaches)
    refine ⟨fields, congrArg Prod.fst hfields, ?_⟩
    rw [Build.readFields_on]
    cases info.fields? with
    | some given => rfl
    | none => rw [hfields]
  · obtain ⟨plans, settled, hmore, hsettled, hunderway', hbuilt⟩ :=
      hunderway.settle (fun _ hplan => hplan) fun _ hplan => .inl hplan
    refine ⟨plans, ?_, ?_⟩
    · rw [← List.append_nil documents]
      exact hschedule.append (hlast ▸ hmore)
    · rw [run_append, ← hlast, ← hsettled]
      exact hunderway'.holds.isSettled hbuilt
  · rw [← hlast]
    refine ⟨sources, hcompiled.passes.imp fun _ _ hpasses => hpasses.source_eq, ?_⟩
    intro place position site target type hlocated
    cases hholds.stands_of_located hlocated with
    | reference _ hfind => exact hfind
  · rw [← hlast]
    intro hsettled
    have hiso := hcompiled.holds.isomorphism hholds hshares
      (hcompiled.holds.isSettled hcompiled.isBuilt) hsettled
    have hentries := hcompiled.holds.twins_entries hholds hshares fun source hsource =>
      ⟨source, hsource, Json.same_refl_of_isKey (hholds.isKey source hsource)⟩
    exact ⟨_, hiso, hentries.imp fun a b hab => ⟨hab.1, .bare hab.2⟩,
      fun info plan info' plan' => hiso.readFields_eq⟩

/-- The fields of the tree are built, and the queue is drained, before the other document is
there. -/
theorem schedule_unobservable_forward :
    let config : Config := { checkMode := .off }
    let plain := ((Build.compileAll config none Build.forwardDocuments).on .empty).2
    let early := run config none .empty [.add Build.forwardTree]
    ∃ plan ∈ early.plans, ((Build.fieldsOf plan).on early).1.isOk = false ∧
      Agrees config none Build.forwardDocuments
        [.add Build.forwardTree, .force plan, .resolve, .add Build.forwardKind] plain := by
  intro config plain early
  have hany : (early.plans.any fun plan => !((Build.fieldsOf plan).on early).1.isOk) = true := by
    decide +kernel
  obtain ⟨plan, hplan, hearly⟩ := List.any_eq_true.1 hany
  have hdistinct : DistinctIds Build.forwardDocuments :=
    .of_ids [.str "tree", .str "kind"] rfl (by decide)
  have hrun : (Build.compileAll config none Build.forwardDocuments).on .empty = (.ok (), plain) :=
    Build.on_eq_of_isOk (by decide +kernel)
  exact ⟨plan, hplan, by simpa using hearly,
    schedule_unobservable hdistinct hrun (.add (.force hplan (.resolve (.add .nil))))⟩

/-- The name of a placeholder is not looked at before the fields are read. -/
theorem readFields_placeholder_error :
    let config : Config := { checkMode := .off, emptyField := .str "no name" }
    let document : Json := .obj [("$id", .str "Empty"), ("type", .str "object")]
    let steps : List Step := [.add document, .resolve]
    DistinctIds [document] ∧ ((Build.compileAll config none [document]).on .empty).1 = .ok () ∧
      IsSchedule config none .empty [document] steps ∧
      ∃ info plan, (run config none .empty steps).Reaches (.object info plan) ∧
        ((Build.readFields info plan).on (run config none .empty steps)).1.isOk = false := by
  intro config document steps
  have hread : ((run config none .empty steps).object? (.str "Empty")).any (fun object =>
      !((Build.readFields object.1 object.2).on (run config none .empty steps)).1.isOk) =
      true := by
    decide +kernel
  refine ⟨.of_ids [.str "Empty"] rfl (by decide), ?_, .add (.resolve .nil), ?_⟩
  · exact congrArg Prod.fst (Build.on_eq_of_isOk (by decide +kernel))
  · obtain ⟨object, hobject, hread⟩ := (Option.any_eq_true _ _).1 hread
    rw [Bool.not_eq_true'] at hread
    exact ⟨object.1, object.2, .entry (Registry.find?_of_object? hobject), hread⟩

end SchemaGraph
