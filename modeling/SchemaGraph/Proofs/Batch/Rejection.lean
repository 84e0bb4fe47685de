import SchemaGraph.Proofs.Batch.Session
import SchemaGraph.Proofs.Graph.Braid

/-! What a document leaves behind that was not compiled.

A document that is refused before anything is built leaves no trace but in the journal.
One whose type cannot be built may have queued plans by then: those of the objects that
were made before the fault. Nobody takes them back. They come up when the queue is
drained, and may fail then, though no entry refers to them (`resolve_leftover`).

That is all they do. A registry with such leftovers and the same registry without them
have the same entries but for keys ever after, and let the same documents in. All calls
end alike on both, up to a call that drains the queue and stops at a leftover
(`compile_rejected`). -/
namespace SchemaGraph

/-- The plans of the objects of a document, at any depth. -/
inductive Source.Owns (setting : Setting) (source : Source) : FieldPlan → Prop where
  | outer {plan} (h : Shape.Defers setting source.position source.shape plan) :
      Owns setting source plan
  | inner {plan other} (h : Owns setting source plan) (hdefers : plan.Defers other) :
      Owns setting source other

/-- The plans of a document that was let in. -/
def Config.Leaves (config : Config) (customize? : Option Customizer) (registry : Registry)
    (document : Json) (plan : FieldPlan) : Prop :=
  ∃ source, config.accept registry document = .ok source ∧
    source.Owns (config.setting customize?) plan

/-- The second registry is the first one but for keys and strays. -/
structure Registry.SameBut (stray : FieldPlan → Prop) (first second : Registry) : Prop where
  entries : first.bareEntries = second.bareEntries
  braided : ∃ strands queue, Braided stray strands queue first second

/-! ### One call on two registries -/

namespace Build

variable {stray : FieldPlan → Prop} {first second : Registry}

/-- On registries with the same bare entries a document fares alike: it is not let in, or its
type is built from the same source on both. -/
theorem compile_pair (hentries : first.bareEntries = second.bareEntries) (config : Config)
    (customize? : Option Customizer) (document : Json) : ∃ events events',
      (∃ fault,
        (compile config customize? document).on first = (.error fault, first.noting events) ∧
        (compile config customize? document).on second = (.error fault, second.noting events')) ∨
      ∃ source : Source,
        let work := buildType (config.setting customize?) source.position source.shape
        let after := (work.on (first.noting events)).2
        let after' := (work.on (second.noting events')).2
        (∃ fault,
          (compile config customize? document).on first = (.error fault, after) ∧
          (compile config customize? document).on second = (.error fault, after')) ∨
        ∃ type type' : GraphType, type.bare = type'.bare ∧
          (compile config customize? document).on first =
            (.ok (), after.entering source.id type) ∧
          (compile config customize? document).on second =
            (.ok (), after'.entering source.id type') := by
  obtain ⟨events, -, hrun⟩ := compile_run config customize? document first
  obtain ⟨events', -, hrun'⟩ := compile_run config customize? document second
  refine ⟨events, events', ?_⟩
  rw [hrun, hrun', config.accept_congr (Registry.isSome_find?_eq hentries)]
  cases config.accept second document with
  | error fault => exact .inl ⟨fault, rfl, rfl⟩
  | ok source =>
    refine .inr ⟨source, ?_⟩
    obtain ⟨_, _, -, -, -, hresult⟩ := (buildType_matches (config.setting customize?)
      source.position source.shape).runs (first.noting events) (second.noting events') hentries
    simp only
    rcases hbuild : (buildType (config.setting customize?) source.position source.shape).on
      (first.noting events) with ⟨fault | type, after⟩ <;>
      rcases hbuild' : (buildType (config.setting customize?) source.position source.shape).on
        (second.noting events') with ⟨fault' | type', after'⟩ <;>
      rw [hbuild, hbuild'] at hresult
    · cases hresult
      exact .inl ⟨fault, rfl, rfl⟩
    · cases hresult
    · cases hresult
    · exact .inr ⟨type, type', Except.ok.inj hresult, rfl, rfl⟩

theorem exists_of_isOk_eq_false {work : Build Unit} {registry : Registry}
    (h : (work.on registry).1.isOk = false) :
    ∃ fault, work.on registry = (.error fault, (work.on registry).2) := by
  rcases hrun : work.on registry with ⟨fault | value, after⟩
  · exact ⟨fault, rfl⟩
  · rw [hrun] at h
    cases h

theorem buildType_bareEntries (setting : Setting) (position : String) (shape : Shape)
    (registry : Registry) :
    ((buildType setting position shape).on registry).2.bareEntries = registry.bareEntries :=
  congrArg (List.map _) (buildType_entries setting position shape registry)

theorem bareEntries_entering (registry : Registry) (id : Json) (type : GraphType) :
    (registry.entering id type).bareEntries =
      Registry.setEntry id type.bare registry.bareEntries :=
  Registry.setEntry_map GraphType.bare id type registry.entries

/-- Compiling a document ends alike and leaves the same bare entries. -/
theorem compile_same (hentries : first.bareEntries = second.bareEntries) (config : Config)
    (customize? : Option Customizer) (document : Json) :
    ((compile config customize? document).on first).1 =
      ((compile config customize? document).on second).1 ∧
    ((compile config customize? document).on first).2.bareEntries =
      ((compile config customize? document).on second).2.bareEntries := by
  obtain ⟨events, events', ⟨fault, hrun, hrun'⟩ | ⟨source, hbuilds⟩⟩ :=
    compile_pair hentries config customize? document
  · rw [hrun, hrun']
    exact ⟨rfl, hentries⟩
  · have hafter := buildType_bareEntries (config.setting customize?) source.position source.shape
    rcases hbuilds with ⟨fault, hrun, hrun'⟩ | ⟨type, type', hbare, hrun, hrun'⟩
    · rw [hrun, hrun']
      exact ⟨rfl, (hafter (first.noting events)).trans
        (hentries.trans (hafter (second.noting events')).symm)⟩
    · rw [hrun, hrun', bareEntries_entering, bareEntries_entering, hafter, hafter, hbare]
      exact ⟨rfl, congrArg (Registry.setEntry source.id type'.bare) hentries⟩

/-- The type of a schema is the same but for keys. -/
theorem buildSchema_matches (setting : Setting) (name schema : Json) :
    Matches GraphType.bare (buildSchema setting name schema) (buildSchema setting name schema) :=
  .after (lift_matches _) fun shape => .after (lift_matches _) fun position =>
    buildType_matches setting position shape

/-- What ends alike item by item, ends alike for all items. -/
theorem forM_pair {α : Type} {R : Registry → Registry → Prop} {work : α → Build Unit}
    (hwork : ∀ item first second, R first second →
      ((work item).on first).1 = ((work item).on second).1 ∧
        R ((work item).on first).2 ((work item).on second).2) (items : List α)
    (h : R first second) :
    ((items.forM work).on first).1 = ((items.forM work).on second).1 ∧
      R ((items.forM work).on first).2 ((items.forM work).on second).2 := by
  induction items generalizing first second with
  | nil => exact ⟨rfl, h⟩
  | cons item items ih =>
    obtain ⟨hresult, hafter⟩ := hwork item first second h
    rw [show (item :: items).forM work = work item >>= fun _ => items.forM work from rfl, on_bind,
      on_bind]
    rcases hrun : (work item).on first with ⟨fault | value, middle⟩ <;>
      rcases hrun' : (work item).on second with ⟨fault' | value', middle'⟩ <;>
      rw [hrun, hrun'] at hresult hafter
    · cases hresult
      exact ⟨rfl, hafter⟩
    · cases hresult
    · cases hresult
    · exact ih hafter

end Build

namespace Registry.SameBut

variable {stray : FieldPlan → Prop} {first second : Registry}

theorem compile (h : SameBut stray first second) (config : Config)
    (customize? : Option Customizer) (document : Json) :
    ((Build.compile config customize? document).on first).1 =
      ((Build.compile config customize? document).on second).1 ∧
    SameBut stray ((Build.compile config customize? document).on first).2
      ((Build.compile config customize? document).on second).2 := by
  obtain ⟨strands, queue, hbraided⟩ := h.braided
  obtain ⟨hresult, hentries⟩ := Build.compile_same h.entries config customize? document
  refine ⟨hresult, hentries, ?_⟩
  obtain ⟨events, events', ⟨fault, hrun, hrun'⟩ | ⟨source, hbuilds⟩⟩ :=
    Build.compile_pair h.entries config customize? document
  · rw [hrun, hrun']
    exact ⟨strands, queue, hbraided.of_eq rfl rfl⟩
  · have hnoted : Braided stray strands queue (first.noting events) (second.noting events') :=
      hbraided.of_eq rfl rfl
    obtain ⟨-, fresh, hafter⟩ := hnoted.of_matches
      (Build.buildType_matches (config.setting customize?) source.position source.shape)
      (Build.buildType_numbers ..) (Build.buildType_numbers ..) h.entries
    rcases hbuilds with ⟨fault, hrun, hrun'⟩ | ⟨type, type', -, hrun, hrun'⟩
    · rw [hrun, hrun']
      exact ⟨_, _, hafter⟩
    · rw [hrun, hrun']
      exact ⟨_, _, hafter.of_eq rfl rfl⟩

/-- Draining the queue ends alike, or stops at a stray. -/
theorem drain (h : SameBut stray first second)
    (hdefers : ∀ plan inner, stray plan → plan.Defers inner → stray inner) :
    Braided.StopsAtStray stray second (Build.drain 0 second).2 ∨
      ((Build.drain 0 first).1 = (Build.drain 0 second).1 ∧
        SameBut stray (Build.drain 0 first).2 (Build.drain 0 second).2) := by
  obtain ⟨strands, queue, hbraided⟩ := h.braided
  refine (hbraided.drain hdefers h.entries 0 0).imp_right fun ⟨hresult, hafter⟩ =>
    ⟨hresult, ?_, hafter⟩
  rw [Build.drain_bareEntries, Build.drain_bareEntries, h.entries]

end Registry.SameBut

namespace Call

variable {stray : FieldPlan → Prop} {first second : Registry}

theorem outcome_build (setting : Setting) (name schema : Json) (registry : Registry) :
    (build setting name schema).outcome registry =
      ((Build.buildSchema setting name schema).on registry).1.map fun _ => () := by
  rw [outcome, work, Build.on_bind]
  rcases (Build.buildSchema setting name schema).on registry with ⟨fault | type, middle⟩ <;> rfl

/-- Building and adding end alike wherever the bare entries are the same. -/
theorem outcome_eq (hentries : first.bareEntries = second.bareEntries) {call : Call}
    (hdrains : call.drains = false) : call.outcome first = call.outcome second := by
  cases call with
  | build setting name schema =>
    obtain ⟨_, _, -, -, -, hresult⟩ :=
      (Build.buildSchema_matches setting name schema).runs first second hentries
    have hmap := congrArg (Except.map fun _ => ()) hresult
    rw [outcome_build, outcome_build]
    rcases hrun : (Build.buildSchema setting name schema).on first with ⟨fault | type, middle⟩ <;>
      rcases hrun' : (Build.buildSchema setting name schema).on second with
        ⟨fault' | type', middle'⟩ <;>
      rw [hrun, hrun'] at hmap <;> exact hmap
  | add config customize? document => exact (Build.compile_same hentries ..).1
  | reduce => cases hdrains
  | resolve => cases hdrains

/-- Every call leaves the same bare entries wherever they were the same. -/
theorem bareEntries_after (hentries : first.bareEntries = second.bareEntries) (call : Call) :
    (call.after first).bareEntries = (call.after second).bareEntries := by
  have hdrains {first second : Registry} (h : first.bareEntries = second.bareEntries) :
      (Build.drain 0 first).2.bareEntries = (Build.drain 0 second).2.bareEntries := by
    rw [Build.drain_bareEntries, Build.drain_bareEntries, h]
  cases call with
  | build setting name schema =>
    obtain ⟨_, _, hfirst, hsecond, -, -⟩ :=
      (Build.buildSchema_matches setting name schema).runs first second hentries
    rw [after_build, after_build, Registry.bareEntries, Registry.bareEntries, hfirst.entries,
      hsecond.entries]
    exact hentries
  | add config customize? document => exact (Build.compile_same hentries ..).2
  | resolve => exact hdrains hentries
  | reduce config customize? documents =>
    obtain ⟨hresult, hafter⟩ := Build.forM_pair
      (R := fun first second => first.bareEntries = second.bareEntries)
      (fun document _ _ hentries => Build.compile_same hentries config customize? document)
      documents hentries
    rw [after, after, work, Build.compileAll, Build.on_bind, Build.on_bind]
    rcases hrun : (documents.forM (Build.compile config customize?)).on first with
      ⟨fault | value, middle⟩ <;>
      rcases hrun' : (documents.forM (Build.compile config customize?)).on second with
        ⟨fault' | value', middle'⟩ <;>
      rw [hrun, hrun'] at hresult hafter
    · exact hafter
    · cases hresult
    · cases hresult
    · exact hdrains hafter

end Call

/-- **A call ends alike** with strays and without them, unless it stops at one. -/
theorem Registry.SameBut.call {stray : FieldPlan → Prop} {first second : Registry}
    (h : SameBut stray first second)
    (hdefers : ∀ plan inner, stray plan → plan.Defers inner → stray inner) (call : Call) :
    (∃ plan, stray plan ∧ call.StopsAt second plan) ∨
      (call.outcome first = call.outcome second ∧
        SameBut stray (call.after first) (call.after second)) := by
  cases call with
  | build setting name schema =>
    refine .inr ⟨Call.outcome_eq h.entries rfl, Call.bareEntries_after h.entries _, ?_⟩
    obtain ⟨strands, queue, hbraided⟩ := h.braided
    obtain ⟨-, fresh, hafter⟩ := hbraided.of_matches
      (Build.buildSchema_matches setting name schema) (Build.buildSchema_numbers ..)
      (Build.buildSchema_numbers ..) h.entries
    rw [Call.after_build, Call.after_build]
    exact ⟨_, _, hafter⟩
  | add config customize? document => exact .inr (h.compile config customize? document)
  | resolve =>
    rcases h.drain hdefers with ⟨plan, fault, hstray, hstops⟩ | hsame
    · exact .inl ⟨plan, hstray, second, fault, rfl, hstops⟩
    · exact .inr hsame
  | reduce config customize? documents =>
    obtain ⟨hresult, hafter⟩ := Build.forM_pair (R := SameBut stray)
      (fun document _ _ h => h.compile config customize? document) documents h
    simp only [Call.StopsAt, Call.drained?, Call.outcome, Call.after, Call.work, Build.compileAll,
      Build.on_bind]
    rcases hrun : (documents.forM (Build.compile config customize?)).on first with
      ⟨fault | value, middle⟩ <;>
      rcases hrun' : (documents.forM (Build.compile config customize?)).on second with
        ⟨fault' | value', middle'⟩ <;>
      rw [hrun, hrun'] at hresult hafter
    · cases hresult
      exact .inr ⟨rfl, hafter⟩
    · cases hresult
    · cases hresult
    · rcases hafter.drain hdefers with ⟨plan, fault, hstray, hstops⟩ | hsame
      · exact .inl ⟨plan, hstray, middle', fault, rfl, hstops⟩
      · exact .inr hsame

/-! ### Many calls -/

namespace Call

/-- The registry after calls, whatever failed on the way. -/
def afterAll (registry : Registry) (calls : List Call) : Registry :=
  calls.foldl (fun registry call => call.after registry) registry

/-- How calls end, one after the other. -/
def outcomes (registry : Registry) : List Call → List (Except Fault Unit)
  | [] => []
  | call :: calls => call.outcome registry :: outcomes (call.after registry) calls

/-- One of the calls drains the queue and stops at a stray. -/
def StopsAmong (stray : FieldPlan → Prop) (registry : Registry) : List Call → Prop
  | [] => False
  | call :: calls =>
    (∃ plan, stray plan ∧ call.StopsAt registry plan) ∨
      StopsAmong stray (call.after registry) calls

theorem bareEntries_afterAll {first second : Registry}
    (hentries : first.bareEntries = second.bareEntries) (calls : List Call) :
    (afterAll first calls).bareEntries = (afterAll second calls).bareEntries := by
  induction calls generalizing first second with
  | nil => exact hentries
  | cons call calls ih => exact ih (bareEntries_after hentries call)

end Call

/-- Calls end alike with strays and without them, as long as they stop at none. -/
theorem Registry.SameBut.calls {stray : FieldPlan → Prop} {first second : Registry}
    (h : SameBut stray first second)
    (hdefers : ∀ plan inner, stray plan → plan.Defers inner → stray inner) (calls : List Call)
    (hgoes : ¬ Call.StopsAmong stray second calls) :
    Call.outcomes first calls = Call.outcomes second calls ∧
      SameBut stray (Call.afterAll first calls) (Call.afterAll second calls) := by
  induction calls generalizing first second with
  | nil => exact ⟨rfl, h⟩
  | cons call calls ih =>
    rw [Call.StopsAmong, not_or] at hgoes
    obtain ⟨hresult, hafter⟩ := (h.call hdefers call).resolve_left hgoes.1
    obtain ⟨hresults, hlast⟩ := ih hafter hgoes.2
    refine ⟨?_, hlast⟩
    rw [Call.outcomes, Call.outcomes, hresult, hresults]

/-! ### A document that is not compiled -/

/-- Building a type adds the plans that its shape defers, as strays. -/
theorem Registry.IsNumbered.braided_buildType {registry : Registry} (h : registry.IsNumbered)
    (stray : FieldPlan → Prop) (setting : Setting) (position : String) (shape : Shape)
    (events : List Event) (hstray : ∀ plan, Shape.Defers setting position shape plan → stray plan) :
    ∃ strands queue, Braided stray strands queue registry
      ((Build.buildType setting position shape).on (registry.noting events)).2 := by
  obtain ⟨strands, queue, hself⟩ := Braided.refl stray h
  obtain ⟨added, hextends, hadded⟩ :=
    (Build.buildType_adds setting position shape).adds (registry.noting events)
  have hnumbering := (Build.buildType_numbers setting position shape).of_extends hextends
  have hnoted : Braided stray strands queue registry (registry.noting events) := hself.of_eq rfl rfl
  obtain ⟨fresh, hgrown⟩ := hnoted.grow_stray hnumbering fun plan hplan =>
    hstray plan (hadded plan hplan)
  exact ⟨_, _, hgrown⟩

/-- What compiling leaves, with a fault, is the registry with plans of the document as strays. -/
theorem Registry.IsNumbered.sameBut {registry left : Registry} {config : Config}
    {customize? : Option Customizer} {document : Json} {fault : Fault} (h : registry.IsNumbered)
    (hrejected : (Build.compile config customize? document).on registry = (.error fault, left)) :
    SameBut (config.Leaves customize? registry document) registry left := by
  refine ⟨(congrArg (List.map _) (Build.compile_error_entries hrejected)).symm, ?_⟩
  obtain ⟨events, -, hrun⟩ := Build.compile_run config customize? document registry
  rw [hrejected] at hrun
  cases haccept : config.accept registry document with
  | error fault =>
    rw [haccept] at hrun
    cases hrun
    obtain ⟨strands, queue, hself⟩ := Braided.refl (config.Leaves customize? registry document) h
    exact ⟨strands, queue, hself.of_eq rfl rfl⟩
  | ok source =>
    simp only [haccept] at hrun
    obtain ⟨strands, queue, hbraided⟩ := h.braided_buildType
      (config.Leaves customize? registry document) (config.setting customize?)
      source.position source.shape events fun plan hplan => ⟨source, haccept, .outer hplan⟩
    rcases hbuild : (Build.buildType (config.setting customize?) source.position source.shape).on
      (registry.noting events) with ⟨fault | type, after⟩ <;> rw [hbuild] at hrun hbraided
    · cases hrun
      exact ⟨_, _, hbraided⟩
    · cases hrun

/-- **A document that is not compiled** leaves the entries and all fields as they were, and the
queue as well, but for plans of its own objects at the end; one that was not let in leaves
nothing but remarks. Whatever is done later, the entries are the same as without it but for keys,
and further schemas and documents fare alike. All calls do, and all plans get the same fields but
for keys, until a call drains the queue and stops at a plan of the document. -/
theorem compile_rejected {registry left : Registry} {lost : List FieldPlan} {config : Config}
    {customize? : Option Customizer} {document : Json} {fault : Fault}
    (h : Session .empty registry lost)
    (hrejected : (Build.compile config customize? document).on registry = (.error fault, left)) :
    let stray := config.Leaves customize? registry document
    left.entries = registry.entries ∧ left.built = registry.built ∧
    (∀ cause, config.accept registry document = .error cause →
      ∃ events, left = registry.noting events) ∧
    (∃ added, left.pending = registry.pending ++ added ∧ left.plans = registry.plans ++ added ∧
      ∀ plan ∈ added, stray plan) ∧
    (∀ calls, (Call.afterAll registry calls).bareEntries = (Call.afterAll left calls).bareEntries ∧
      ∀ call : Call, call.drains = false →
        call.outcome (Call.afterAll registry calls) = call.outcome (Call.afterAll left calls)) ∧
    ∀ calls, ¬ Call.StopsAmong stray left calls →
      Call.outcomes registry calls = Call.outcomes left calls ∧
      ∃ strands queue,
        Braided stray strands queue (Call.afterAll registry calls) (Call.afterAll left calls) := by
  intro stray
  have hsame : Registry.SameBut stray registry left :=
    (h.isNumbered Registry.isNumbered_empty).sameBut hrejected
  obtain ⟨added, hpending, hplans, hbuilt, hadded⟩ :=
    Build.compile_adds config customize? document registry
  rw [hrejected] at hpending hplans hbuilt
  refine ⟨Build.compile_error_entries hrejected, hbuilt, ?_, ⟨added, hpending, hplans, ?_⟩, ?_, ?_⟩
  · intro cause hcause
    obtain ⟨events, -, hrun⟩ := Build.compile_run config customize? document registry
    rw [hrejected, hcause] at hrun
    exact ⟨events, congrArg Prod.snd hrun⟩
  · intro plan hplan
    obtain ⟨source, haccept, hdefers⟩ := hadded plan hplan
    exact ⟨source, haccept, .outer hdefers⟩
  · intro calls
    have hentries := Call.bareEntries_afterAll hsame.entries calls
    exact ⟨hentries, fun call hdrains => Call.outcome_eq hentries hdrains⟩
  · intro calls hgoes
    have hdefers (plan inner : FieldPlan) (hplan : stray plan) (hinner : plan.Defers inner) :
        stray inner :=
      let ⟨source, haccept, howns⟩ := hplan
      ⟨source, haccept, .inner howns hinner⟩
    obtain ⟨hresults, hlast⟩ := hsame.calls hdefers calls hgoes
    exact ⟨hresults, hlast.braided⟩

/-- Cases of a union, the second one with a fault: an array that says nothing of its items. -/
def Call.addUnion (first : Json) : Call :=
  .add { checkMode := .off } none (.obj [("$id", .str "A"),
    ("oneOf", .arr [first, .obj [("type", .str "array")]])])

/-- A leftover that has no references does no harm. -/
theorem compile_rejected_harmless :
    let left := (Call.addUnion (.obj [("type", .str "object")])).after .empty
    left.pending.length = 1 ∧ Call.outcomes .empty [.resolve] = Call.outcomes left [.resolve] ∧
      (Call.afterAll .empty [.resolve]).bareEntries = (Call.afterAll left [.resolve]).bareEntries := by
  intro left
  obtain ⟨fault, hrejected⟩ : ∃ fault,
      (Call.addUnion (.obj [("type", .str "object")])).work.on .empty = (.error fault, left) :=
    Build.exists_of_isOk_eq_false (by decide +kernel)
  obtain ⟨-, -, -, -, halways, hgoes⟩ := compile_rejected .start hrejected
  have hok : Call.resolve.outcome left = .ok () :=
    congrArg Prod.fst (Build.on_eq_of_isOk (by decide +kernel))
  refine ⟨by decide +kernel, (hgoes [.resolve] ?_).1, (halways [.resolve]).1⟩
  rintro (⟨plan, -, hstops⟩ | hnever)
  · exact Call.not_stopsAt hok hstops
  · exact hnever

/-- An object with a property that refers to a document that is not there. -/
def Call.addDangling : Call :=
  addUnion (.obj [("type", .str "object"), ("properties", .obj [("b", .obj [("$ref", .str "B")])])])

/-- A leftover with a reference that leads nowhere stays in the queue and makes draining fail,
which would succeed without it. -/
theorem resolve_leftover :
    (Call.addDangling.outcome .empty).isOk = false ∧ Registry.empty.pending.length = 0 ∧
      (Call.addDangling.after .empty).pending.length = 1 ∧
      (Call.resolve.outcome .empty).isOk = true ∧
      (Call.resolve.outcome (Call.addDangling.after .empty)).isOk = false := by
  decide +kernel

end SchemaGraph
