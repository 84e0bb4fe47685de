import SchemaGraph.Proofs.Batch.Admission
import SchemaGraph.Proofs.Batch.Sources
import SchemaGraph.Proofs.Graph.Census

/-! Everything is made once.

While a batch is compiled, its registry is in balance (`Registry.Balanced`): the objects
and enums of the documents so far are those whose types were made and those that queued
plans owe, none of them twice. Compiling a document adds the ones of its shape to the
balance, taking a plan off the queue and building its fields moves some from one side to
the other, and at the end nothing is owed. So a batch that compiles makes one type and one
field map for each object of its documents, one type for each enum, and asks the
customizer once for each of them (`compileAll_once`), also where a document took the place
of an earlier one. -/
namespace SchemaGraph

namespace Source

/-- The objects and enums of a document. -/
def occurrences (source : Source) : List Occurrence := source.shape.occurrences source.position

end Source

namespace Registry

/-- What was made, with what the queue owes, is `total`, and no plan in the queue is built. -/
structure Balanced (hooked : Bool) (total : List Occurrence) (registry : Registry) : Prop where
  isNumbered : registry.IsNumbered
  unbuilt : ∀ plan ∈ registry.pending, registry.built.lookup plan.key = none
  tally : ∃ met, Account hooked met registry.plans registry.journal ∧
    (met ++ registry.pending.flatMap FieldPlan.occurrences).Perm total

theorem balanced_empty (hooked : Bool) : empty.Balanced hooked [] where
  isNumbered := isNumbered_empty
  unbuilt _ hplan := nomatch hplan
  tally := ⟨[], .nil (fun _ hevent => nomatch hevent), .refl _⟩

namespace Balanced

variable {hooked : Bool} {total : List Occurrence} {registry : Registry}

theorem noting {events : List Event} (h : registry.Balanced hooked total)
    (hsilent : ∀ event ∈ events, event.isSilent = true) :
    (registry.noting events).Balanced hooked total where
  isNumbered := h.isNumbered.noting events
  unbuilt := h.unbuilt
  tally :=
    let ⟨met, haccount, hperm⟩ := h.tally
    ⟨met, haccount.silent hsilent, hperm⟩

/-- Work that owes something adds it to the balance. -/
theorem grow {α : Type} {work : Build α} {owed : List Occurrence} {value : α} {after : Registry}
    (h : registry.Balanced hooked total) (hnumbers : Build.Numbers work)
    (htallies : Build.Tallies hooked owed work) (hrun : work.on registry = (.ok value, after)) :
    after.Balanced hooked (total ++ owed) := by
  obtain ⟨added, events, met', hextends, hjournal, haccount', hperm'⟩ :=
    htallies.tallies _ _ _ hrun
  obtain ⟨met, haccount, hperm⟩ := h.tally
  have hnumbering : registry.Numbering added (work.on registry).2 :=
    hnumbers.of_extends (by rwa [hrun])
  rw [hrun] at hnumbering
  refine ⟨h.isNumbered.grow hnumbering, ?_, met ++ met', ?_, ?_⟩
  · rw [hextends.pending, hextends.built]
    refine List.forall_mem_append.2 ⟨h.unbuilt, fun plan hplan => ?_⟩
    exact h.isNumbered.lookup_eq_none (hnumbering.fresh plan hplan).1
  · rw [hextends.plans, hjournal]
    exact haccount.append haccount'
  · rw [hextends.pending, List.flatMap_append]
    refine List.Perm.trans ?_ (hperm.append hperm')
    simp only [List.append_assoc]
    exact (List.perm_append_comm_assoc _ _ _).append_left met

/-- A type is entered for a document. -/
theorem entering (h : registry.Balanced hooked total) (id : Json) (type : GraphType) :
    (registry.entering id type).Balanced hooked total where
  isNumbered := ⟨h.isNumbered.distinct, h.isNumbered.lt, h.isNumbered.queue, h.isNumbered.built,
    h.isNumbered.once⟩
  unbuilt := h.unbuilt
  tally :=
    let ⟨met, haccount, hperm⟩ := h.tally
    ⟨met, haccount.silent (List.forall_mem_singleton.2 rfl), hperm⟩

theorem of_perm {other : List Occurrence} (h : registry.Balanced hooked total)
    (hperm : total.Perm other) : registry.Balanced hooked other where
  isNumbered := h.isNumbered
  unbuilt := h.unbuilt
  tally :=
    let ⟨met, haccount, hmet⟩ := h.tally
    ⟨met, haccount, hmet.trans hperm⟩

variable {plan : FieldPlan} {rest : List FieldPlan}

theorem head_mem (h : registry.Balanced hooked total) (hpending : registry.pending = plan :: rest) :
    plan ∈ registry.plans :=
  h.isNumbered.queue.subset (hpending ▸ List.mem_cons_self)

theorem hook_eq (h : registry.Balanced hooked total) (hplan : plan ∈ registry.plans) :
    plan.setting.customize?.isSome = hooked :=
  let ⟨_, haccount, _⟩ := h.tally
  haccount.hooks plan hplan

/-- A plan that is taken off the queue is not owed any more. -/
theorem pop (h : registry.Balanced hooked total) (hpending : registry.pending = plan :: rest) :
    ∃ others, (registry.queueing rest).Balanced hooked others ∧
      (others ++ plan.occurrences).Perm total := by
  obtain ⟨met, haccount, hperm⟩ := h.tally
  refine ⟨met ++ rest.flatMap FieldPlan.occurrences, ⟨?_, ?_, met, haccount, .refl _⟩, ?_⟩
  · refine h.isNumbered.queueing ((List.sublist_cons_self plan rest).trans ?_)
    exact hpending ▸ h.isNumbered.queue
  · exact fun other hother => h.unbuilt other (hpending ▸ List.mem_cons_of_mem _ hother)
  · rw [hpending, List.flatMap_cons] at hperm
    refine List.Perm.trans ?_ hperm
    rw [List.append_assoc]
    exact List.perm_append_comm.append_left met

/-- The fields of a plan that is off the queue are built. -/
theorem fill (h : registry.Balanced hooked total) (hplan : plan ∈ registry.plans)
    (hunbuilt : registry.built.lookup plan.key = none)
    (hpending : ∀ other ∈ registry.pending, other.key ≠ plan.key) (fields : FieldMap) :
    { registry with built := (plan.key, fields) :: registry.built }.Balanced hooked total where
  isNumbered := h.isNumbered.fill hplan hunbuilt fields
  unbuilt other hother := by
    rw [List.lookup_cons, beq_eq_false_iff_ne.2 (hpending other hother)]
    exact h.unbuilt other hother
  tally := h.tally

/-- Building the fields of the first plan in the queue keeps the balance. -/
theorem fieldsOf {fields : FieldMap} {after : Registry} (h : registry.Balanced hooked total)
    (hpending : registry.pending = plan :: rest)
    (hrun : (Build.fieldsOf plan).on (registry.queueing rest) = (.ok fields, after)) :
    after.Balanced hooked total := by
  have hplan := h.head_mem hpending
  have hunbuilt : registry.built.lookup plan.key = none :=
    h.unbuilt plan (hpending ▸ List.mem_cons_self)
  obtain ⟨others, hothers, hperm⟩ := h.pop hpending
  rw [Build.fieldsOf_on, show (registry.queueing rest).built = registry.built from rfl, hunbuilt]
    at hrun
  simp only at hrun
  rcases hbuild : (Build.buildPlan plan).on (registry.queueing rest) with
    ⟨fault | fields, middle⟩ <;> rw [hbuild] at hrun <;> cases hrun
  have hmiddle := (hothers.grow (Build.buildPlan_numbers plan)
    (Build.buildPlan_tallies (h.hook_eq hplan)) hbuild).of_perm hperm
  obtain ⟨added, hadded⟩ := (Build.buildPlan_numbers plan).adds (registry.queueing rest)
  rw [hbuild] at hadded
  refine hmiddle.fill ?_ ?_ ?_ fields
  · rw [show middle.plans = _ from hadded.plans]
    exact List.mem_append_left _ hplan
  · rwa [show middle.built = _ from hadded.built]
  · rw [show middle.pending = _ from hadded.pending]
    refine List.forall_mem_append.2 ⟨fun other hother hkey => ?_, fun other hother => ?_⟩
    · have hqueue := h.isNumbered.queue
      rw [hpending] at hqueue
      have hnodup := h.isNumbered.distinct.sublist (hqueue.map FieldPlan.key)
      rw [List.map_cons, List.nodup_cons] at hnodup
      exact hnodup.1 (hkey ▸ List.mem_map_of_mem hother)
    · have hlt := h.isNumbered.lt plan hplan
      have hle : registry.nextKey ≤ other.key := (hadded.fresh other hother).1
      omega

/-- Draining the queue pays off what is owed. -/
theorem drain {resolved : Nat} {after : Registry} (h : registry.Balanced hooked total)
    (hrun : Build.drain resolved registry = (.ok (), after)) :
    after.Balanced hooked total ∧ after.pending = [] := by
  fun_induction Build.drain resolved registry with
  | case1 resolved registry hpending =>
    cases hrun
    exact ⟨h.noting (List.forall_mem_singleton.2 rfl), hpending⟩
  | case2 resolved registry plan rest hpending popped hload hbuilt =>
    rw [h.unbuilt plan (hpending ▸ List.mem_cons_self)] at hbuilt
    cases hbuilt
  | case3 resolved registry plan rest hpending popped hload hbuilt fields middle =>
    rename_i hfields ih
    exact ih (h.fieldsOf hpending hfields) hrun
  | case4 => cases hrun

end Balanced

end Registry

/-! ### Documents -/

theorem Event.isSilent_of_isRemark {event : Event} (h : event.isRemark = true) :
    event.isSilent = true := by
  cases event <;> first | rfl | cases h

namespace Registry

theorem setEntry_ids {α : Type} (id : Json) (value : α) (entries : List (Json × α)) :
    (setEntry id value entries).map Prod.fst =
      if entries.any fun entry => Json.same entry.1 id then entries.map Prod.fst
      else entries.map Prod.fst ++ [id] := by
  induction entries with
  | nil => rfl
  | cons head rest ih =>
    rw [setEntry, List.any_cons]
    cases hsame : Json.same head.1 id with
    | true => rfl
    | false =>
      rw [if_neg Bool.false_ne_true, Bool.false_or, List.map_cons, ih]
      split <;> rfl

/-- Identifiers with one more, unless it is there. -/
def withId (ids : List Json) (id : Json) : List Json :=
  if ids.any fun seen => Json.same seen id then ids else ids ++ [id]

theorem ids_entering (registry : Registry) (id : Json) (type : GraphType) :
    (registry.entering id type).ids = withId registry.ids id := by
  rw [ids, entering, setEntry_ids, withId, ids, List.any_map]
  rfl

/-- Taking up identifiers one by one gives the distinct ones in the order in which they first
occur. -/
theorem foldl_withId (ids more : List Json) :
    more.foldl withId ids = ids ++
      (more.filter fun id => !ids.any fun seen => Json.same seen id).eraseDupsBy
        fun id seen => Json.same seen id := by
  induction more generalizing ids with
  | nil => simp
  | cons id more ih =>
    rw [List.foldl_cons, ih, withId]
    cases hany : ids.any fun seen => Json.same seen id with
    | true => simp [hany]
    | false =>
      have hseen : (fun other => !(ids ++ [id]).any fun seen => Json.same seen other) =
          fun other => decide (Json.same id other = false) &&
            !ids.any fun seen => Json.same seen other := by
        funext other
        simp [List.any_append, Bool.and_comm]
      rw [if_neg Bool.false_ne_true, List.filter_cons, hany, Bool.not_false, if_pos rfl,
        List.eraseDupsBy_cons, List.append_assoc, List.singleton_append, List.filter_filter, hseen]

end Registry

namespace Build

/-- A document that was compiled adds its occurrences to the balance. -/
theorem compile_balanced {config : Config} {customize? : Option Customizer} {document : Json}
    {registry after : Registry} {total : List Occurrence}
    (h : registry.Balanced customize?.isSome total)
    (hrun : (compile config customize? document).on registry = (.ok (), after)) :
    ∃ source, Passes config document source ∧
      after.Balanced customize?.isSome (total ++ source.occurrences) ∧
      after.ids = Registry.withId registry.ids source.id := by
  obtain ⟨events, hremarks, hcompile⟩ := compile_run config customize? document registry
  rw [hrun] at hcompile
  cases haccept : config.accept registry document with
  | error fault =>
    rw [haccept] at hcompile
    cases hcompile
  | ok source =>
    simp only [haccept] at hcompile
    have hentries := buildType_entries (config.setting customize?) source.position source.shape
      (registry.noting events)
    rcases hbuild : (buildType (config.setting customize?) source.position source.shape).on
      (registry.noting events) with ⟨fault | type, middle⟩ <;> rw [hbuild] at hcompile hentries <;>
      cases hcompile
    have hnoted := h.noting fun event hevent => Event.isSilent_of_isRemark (hremarks event hevent)
    have hhook : (config.setting customize?).customize?.isSome = customize?.isSome := rfl
    have hmiddle := hnoted.grow (buildType_numbers ..) (buildType_tallies hhook ..) hbuild
    refine ⟨source, (Config.accept_ok haccept).1, hmiddle.entering source.id type, ?_⟩
    rw [Registry.ids_entering, Registry.ids, show middle.entries = registry.entries from hentries]
    rfl

theorem compile_forM_balanced {config : Config} {customize? : Option Customizer}
    {documents : List Json} {registry after : Registry} {total : List Occurrence}
    (h : registry.Balanced customize?.isSome total)
    (hrun : (documents.forM (compile config customize?)).on registry = (.ok (), after)) :
    ∃ sources, List.Forall₂ (Passes config) documents sources ∧
      after.Balanced customize?.isSome (total ++ sources.flatMap Source.occurrences) ∧
      after.ids = (sources.map Source.id).foldl Registry.withId registry.ids := by
  induction documents generalizing registry total with
  | nil =>
    cases hrun
    exact ⟨[], .nil, by simpa using h, rfl⟩
  | cons document documents ih =>
    have hrun : (compile config customize? document >>= fun _ =>
      documents.forM (compile config customize?)).on registry = (.ok (), after) := hrun
    obtain ⟨_, middle, hcompile, hrest⟩ := on_bind_ok hrun
    obtain ⟨source, hpasses, hmiddle, hids⟩ := compile_balanced h hcompile
    obtain ⟨sources, hsources, hafter, hlast⟩ := ih hmiddle hrest
    refine ⟨source :: sources, .cons hpasses hsources, ?_, ?_⟩
    · rwa [List.flatMap_cons, ← List.append_assoc]
    · rw [hlast, hids, List.map_cons, List.foldl_cons]

theorem compile_tracks (config : Config) (customize? : Option Customizer) (document : Json)
    (registry : Registry) (h : registry.Tracks registry.pending) :
    ((compile config customize? document).on registry).2.Tracks
      ((compile config customize? document).on registry).2.pending := by
  obtain ⟨added, hpending, hplans, hbuilt, -⟩ := compile_adds config customize? document registry
  rw [hpending]
  refine h.append hplans fun key hkey => ?_
  rwa [hbuilt]

end Build

namespace Registry

/-- These objects and enums were made, each of them once: types, requests to the customizer
if there is one, plans, and the fields of each plan. -/
structure HasMade (hooked : Bool) (occurrences : List Occurrence) (registry : Registry) : Prop where
  made : (registry.journal.filterMap Event.made?).Perm (occurrences.map Occurrence.entry)
  asked : (registry.journal.filterMap Event.asked?).Perm
    (if hooked then occurrences.map Occurrence.entry else [])
  declared : (registry.plans.map FieldPlan.declaration).Perm
    (occurrences.filterMap Occurrence.declaration?)
  distinct : (registry.plans.map FieldPlan.key).Nodup
  built : (registry.built.map Prod.fst).Perm (registry.plans.map FieldPlan.key)

/-- Nothing is owed and every plan has its fields. -/
theorem Balanced.hasMade {hooked : Bool} {total : List Occurrence} {registry : Registry}
    (h : registry.Balanced hooked total) (hpending : registry.pending = [])
    (hbuilt : registry.IsBuilt) : registry.HasMade hooked total := by
  obtain ⟨met, haccount, hperm⟩ := h.tally
  rw [hpending, List.flatMap_nil, List.append_nil] at hperm
  refine ⟨?_, ?_, ?_, h.isNumbered.distinct, ?_⟩
  · exact haccount.made ▸ hperm.map Occurrence.entry
  · rw [haccount.asked]
    cases hooked
    · exact .refl []
    · exact hperm.map Occurrence.entry
  · exact haccount.declared ▸ hperm.filterMap Occurrence.declaration?
  · refine (List.perm_ext_iff_of_nodup h.isNumbered.once h.isNumbered.distinct).2 fun key => ?_
    simp only [List.mem_map]
    constructor
    · rintro ⟨entry, hentry, rfl⟩
      exact h.isNumbered.built entry hentry
    · rintro ⟨plan, hplan, rfl⟩
      obtain ⟨fields, hfields⟩ := Option.isSome_iff_exists.1 (hbuilt plan hplan)
      obtain ⟨before, rest, hlist, -⟩ := List.lookup_eq_some_iff.1 hfields
      exact ⟨(plan.key, fields), by simp [hlist], rfl⟩

end Registry

namespace Build

/-- **Everything is made once.** A batch that compiles has the distinct identifiers of its
documents in the order in which they first occur and nothing in its queue, and it has made
every object and enum of its documents once. -/
theorem compileAll_once {config : Config} {customize? : Option Customizer}
    {documents : List Json} {after : Registry}
    (hrun : (compileAll config customize? documents).on .empty = (.ok (), after)) :
    ∃ sources, List.Forall₂ (Passes config) documents sources ∧
      after.ids = (sources.map Source.id).eraseDupsBy (fun id seen => Json.same seen id) ∧
      after.pending = [] ∧
      after.HasMade customize?.isSome (sources.flatMap Source.occurrences) := by
  obtain ⟨_, middle, hcompile, hresolve⟩ := on_bind_ok hrun
  have hdrain : drain 0 middle = (.ok (), after) := hresolve
  obtain ⟨sources, hsources, hmiddle, hids⟩ :=
    compile_forM_balanced (Registry.balanced_empty customize?.isSome) hcompile
  obtain ⟨hafter, hpending⟩ := hmiddle.drain hdrain
  have htracks : middle.Tracks middle.pending := by
    have hempty : Registry.empty.Tracks Registry.empty.pending := fun _ hplan => nomatch hplan
    have hforM := forM_preserves (p := fun registry => registry.Tracks registry.pending)
      (compile_tracks config customize?) documents hempty
    rwa [hcompile] at hforM
  refine ⟨sources, hsources, ?_, hpending, hafter.hasMade hpending (drain_isBuilt htracks hdrain)⟩
  have hentries := drain_entries 0 middle
  rw [hdrain] at hentries
  rw [Registry.ids, show after.entries = middle.entries from hentries]
  refine hids.trans ((Registry.foldl_withId [] _).trans ?_)
  simp

/-- A document that a second one replaces counts: it has an object in an object and an enum, the
second has no more than itself, and a customizer hears of all four. -/
theorem compileAll_once_replaced :
    let config : Config := { checkMode := .off, allowDuplicates := .bool true }
    let customize : Customizer := fun name _ => .obj [("description", .str name)]
    let documents : List Json := [
      .obj [("$id", .str "box"), ("type", .str "object"), ("properties", .obj [
        ("lid", .obj [("type", .str "object")]),
        ("color", .obj [("type", .str "string"), ("enum", .arr [.str "red"])])])],
      .obj [("$id", .str "box"), ("type", .str "object")]]
    ∃ after sources, (compileAll config (some customize) documents).on .empty = (.ok (), after) ∧
      List.Forall₂ (Passes config) documents sources ∧
      after.HasMade true (sources.flatMap Source.occurrences) ∧
      after.ids.map (Json.equal (.str "box")) = [true] ∧ after.pending = [] ∧
      after.journal.filterMap Event.asked? =
        [("Box", .object), ("Box", .object), ("BoxLid", .object), ("BoxColor", .enum)] ∧
      after.built.length = 3 := by
  intro config customize documents
  have hok : ((compileAll config (some customize) documents).on .empty).1.isOk = true := by
    decide +kernel
  obtain ⟨sources, hpasses, -, hpending, hmade⟩ := compileAll_once (on_eq_of_isOk hok)
  exact ⟨_, sources, on_eq_of_isOk hok, hpasses, hmade, by decide +kernel, hpending,
    by decide +kernel, by decide +kernel⟩

end Build
end SchemaGraph
