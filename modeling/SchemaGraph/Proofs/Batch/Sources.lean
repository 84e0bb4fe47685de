import Mathlib.Data.List.Forall2
import SchemaGraph.Proofs.Batch.Compiling

/-! What a registry holds of a batch.

A ledger `Holds` sources if its registry has an entry for each of them, in order, whose
type stands for the source's shape, and if that was so from the start: the references
outside the properties of objects led to sources before (`Holds.stood`). Compiling one
more document under a new identifier adds its source (`Holds.compile`), and building
fields changes nothing about it (`Holds.of_le`).

A batch that compiled leaves nothing to build (`compileAll_holds`): no plan is lost from
the queue before its fields are there (`Registry.Tracks`), and the queue is drained. -/
namespace SchemaGraph

theorem forall₂_comp {α β γ : Type} {r : α → β → Prop} {s : β → γ → Prop} {as : List α}
    {bs : List β} {cs : List γ} (h : List.Forall₂ r as bs) (h' : List.Forall₂ s bs cs) :
    List.Forall₂ (fun a c => ∃ b, r a b ∧ s b c) as cs := by
  induction h generalizing cs with
  | nil =>
    cases h'
    exact .nil
  | cons hhead _ ih =>
    cases h' with
    | cons hhead' htail => exact .cons ⟨_, hhead, hhead'⟩ (ih htail)

theorem forall₂_of_forall_exists {α β : Type} {r : α → β → Prop} {as : List α}
    (h : ∀ a ∈ as, ∃ b, r a b) : ∃ bs, List.Forall₂ r as bs := by
  induction as with
  | nil => exact ⟨[], .nil⟩
  | cons a as ih =>
    obtain ⟨⟨b, hab⟩, hrest⟩ := List.forall_mem_cons.1 h
    obtain ⟨bs, hbs⟩ := ih hrest
    exact ⟨b :: bs, .cons hab hbs⟩

/-- Where the left list is in two parts, so is the right one. -/
theorem forall₂_append_left {α β : Type} {r : α → β → Prop} {as more : List α} {bs : List β}
    (h : List.Forall₂ r (as ++ more) bs) : ∃ bs' more', bs = bs' ++ more' ∧
      List.Forall₂ r as bs' ∧ List.Forall₂ r more more' := by
  induction as generalizing bs with
  | nil => exact ⟨[], bs, rfl, .nil, h⟩
  | cons a as ih =>
    obtain ⟨b, rest, hab, hrest, rfl⟩ := List.forall₂_cons_left_iff.1 h
    obtain ⟨bs', more', rfl, has, hmore⟩ := ih hrest
    exact ⟨b :: bs', more', rfl, .cons hab has, hmore⟩

/-- What stands at one place on the left goes with what stands at that place on the right. -/
theorem forall₂_split {α β : Type} {r : α → β → Prop} {before rest : List α} {a : α}
    {bs : List β} (h : List.Forall₂ r (before ++ a :: rest) bs) : ∃ before' b rest',
      bs = before' ++ b :: rest' ∧ List.Forall₂ r before before' ∧ r a b ∧
        List.Forall₂ r rest rest' := by
  obtain ⟨before', _, rfl, hbefore, hmore⟩ := forall₂_append_left h
  obtain ⟨b, rest', hab, hrest, rfl⟩ := List.forall₂_cons_left_iff.1 hmore
  exact ⟨before', b, rest', rfl, hbefore, hab, hrest⟩

/-- The documents have different identifiers. -/
def DistinctIds (documents : List Json) : Prop :=
  documents.Pairwise fun a b => ∀ i j, identifierOf a = .ok i → identifierOf b = .ok j →
    Json.same i j = false

theorem DistinctIds.of_ids {documents : List Json} (ids : List Json)
    (h : documents.map identifierOf = ids.map .ok)
    (hids : ids.Pairwise fun a b => Json.same a b = false) : DistinctIds documents := by
  induction documents generalizing ids with
  | nil => exact .nil
  | cons document documents ih =>
    cases ids with
    | nil => cases h
    | cons id ids =>
      obtain ⟨hid, hrest⟩ := List.cons.inj h
      obtain ⟨hhead, htail⟩ := List.pairwise_cons.1 hids
      refine .cons (fun other hother i j hi hj => ?_) (ih ids hrest htail)
      rw [hid] at hi
      cases hi
      refine hhead j ?_
      have hmem : identifierOf other ∈ documents.map identifierOf := List.mem_map_of_mem hother
      rw [hrest, hj] at hmem
      simpa using hmem

/-- None of the documents takes the place of an entry or of another one of them. -/
def Config.KeepsAll (config : Config) (registry : Registry) (documents : List Json) : Prop :=
  config.allowDuplicates.truthy = false ∨ (DistinctIds documents ∧ ∀ document ∈ documents,
    ∀ id, identifierOf document = .ok id → registry.find? id = none)

namespace Registry

/-- Every plan there ever was is to be built or has its fields. -/
def Tracks (registry : Registry) (plans : List FieldPlan) : Prop :=
  ∀ plan ∈ registry.plans, plan ∈ plans ∨ (registry.built.lookup plan.key).isSome

theorem Tracks.isBuilt {registry : Registry} (h : registry.Tracks []) : registry.IsBuilt :=
  fun plan hplan => (h plan hplan).resolve_left List.not_mem_nil

/-- Plans that are new have to be built too. -/
theorem Tracks.append {before after : Registry} {plans added : List FieldPlan}
    (h : before.Tracks plans) (hplans : after.plans = before.plans ++ added)
    (hbuilt : ∀ key, (before.built.lookup key).isSome → (after.built.lookup key).isSome) :
    after.Tracks (plans ++ added) := by
  intro plan hplan
  rw [hplans] at hplan
  rcases List.mem_append.1 hplan with hplan | hplan
  · exact (h plan hplan).imp (List.mem_append_left _) (hbuilt plan.key)
  · exact .inl (List.mem_append_right _ hplan)

/-- A plan that has its fields need not be built. -/
theorem Tracks.tail {registry : Registry} {plan : FieldPlan} {rest : List FieldPlan}
    (h : registry.Tracks (plan :: rest)) (hbuilt : (registry.built.lookup plan.key).isSome) :
    registry.Tracks rest := by
  intro other hother
  rcases h other hother with hmem | hother
  · rcases List.mem_cons.1 hmem with rfl | hrest
    · exact .inr hbuilt
    · exact .inl hrest
  · exact .inr hother

/-- Building the fields of a plan leaves the plans that this queues to be built. -/
theorem Tracks.of_fieldsOf {registry after : Registry} {plan : FieldPlan}
    {rest added : List FieldPlan} {fields : FieldMap} (h : registry.Tracks (plan :: rest))
    (hrun : (Build.fieldsOf plan).on registry = (.ok fields, after))
    (hplans : after.plans = registry.plans ++ added) : after.Tracks (rest ++ added) := by
  obtain ⟨hplan, hmono⟩ := Build.fieldsOf_built hrun
  exact (h.append hplans hmono).tail hplan

end Registry

namespace Build

/-- A queue that was drained leaves no plan without its fields. -/
theorem drain_isBuilt {resolved : Nat} {registry after : Registry}
    (h : registry.Tracks registry.pending) (hrun : drain resolved registry = (.ok (), after)) :
    after.IsBuilt := by
  fun_induction drain resolved registry with
  | case1 resolved registry hpending =>
    rw [hpending] at h
    cases hrun
    exact h.isBuilt
  | case2 resolved registry plan rest hpending popped hload hbuilt =>
    rename_i ih
    rw [hpending] at h
    exact ih (h.tail hbuilt) hrun
  | case3 resolved registry plan rest hpending popped hload hbuilt fields middle =>
    rename_i hfields ih
    rw [hpending] at h
    have hpopped : popped.Tracks (plan :: rest) := h
    obtain ⟨added, hqueue, hplans, -⟩ := fieldsOf_queues plan popped
    rw [hfields] at hqueue hplans
    refine ih ?_ hrun
    rw [show middle.pending = rest ++ added from hqueue]
    exact hpopped.of_fieldsOf hfields hplans
  | case4 => cases hrun

end Build

namespace Ledger

/-- The registry holds the types of the sources, in order. -/
structure Holds (setting : Setting) (ledger : Ledger) (sources : List Source) : Prop where
  sound : ledger.Sound setting
  entries : List.Forall₂ (fun source entry => entry.1 = source.id ∧
    ledger.Stands setting (.document source.id) source.position source.shape entry.2)
    sources ledger.registry.entries
  distinct : sources.Pairwise fun a b => Json.same a.id b.id = false
  isKey : ∀ source ∈ sources, source.id.isKey = true
  stood : ∀ before source rest, sources = before ++ source :: rest → ∃ earlier : Ledger,
    earlier.Le ledger ∧ earlier.registry.ids = before.map Source.id ∧
    ∃ type, earlier.Stands setting (.document source.id) source.position source.shape type

variable {setting : Setting} {ledger : Ledger} {sources : List Source}

theorem empty_holds (setting : Setting) : empty.Holds setting [] where
  sound := empty_sound setting
  entries := .nil
  distinct := .nil
  isKey := by simp
  stood before source rest h := by simp at h

theorem Holds.of_le {after : Ledger} (h : ledger.Holds setting sources) (hle : ledger.Le after)
    (hsound : after.Sound setting) (hentries : after.registry.entries = ledger.registry.entries) :
    after.Holds setting sources where
  sound := hsound
  entries := by
    rw [hentries]
    exact h.entries.imp fun source entry hentry => ⟨hentry.1, hentry.2.mono hle⟩
  distinct := h.distinct
  isKey := h.isKey
  stood before source rest heq :=
    let ⟨earlier, hearlier, hids, hstands⟩ := h.stood before source rest heq
    ⟨earlier, hearlier.trans hle, hids, hstands⟩

theorem Holds.ids_eq (h : ledger.Holds setting sources) :
    ledger.registry.ids = sources.map Source.id := by
  have hmap : List.Forall₂ (fun id id' => id = id') (ledger.registry.entries.map (·.1))
      (sources.map Source.id) := by
    rw [List.forall₂_map_left_iff, List.forall₂_map_right_iff]
    exact h.entries.flip.imp fun entry source hentry => hentry.1
  exact List.forall₂_eq_eq_eq ▸ hmap

/-! ### One more document -/

/-- The ledger with an entry behind all others. -/
def enter (ledger : Ledger) (id : Json) (type : GraphType) (journal : List Event) : Ledger :=
  { ledger with
    registry := { ledger.registry with
      entries := ledger.registry.entries ++ [(id, type)], journal } }

theorem le_enter (ledger : Ledger) (id : Json) (type : GraphType) (journal : List Event) :
    ledger.Le (ledger.enter id type journal) :=
  ⟨fun _ _ h => Registry.find?_of_append rfl h, fun _ h => h, fun _ _ h => h⟩

theorem Sound.enter (h : ledger.Sound setting) (id : Json) (type : GraphType)
    (journal : List Event) : (ledger.enter id type journal).Sound setting :=
  h.of_le (le_enter ledger id type journal) rfl rfl rfl rfl h.pending_plans

theorem Holds.same_eq_false (h : ledger.Holds setting sources) {id : Json}
    (hunused : ledger.registry.find? id = none) {source : Source} (hsource : source ∈ sources) :
    Json.same source.id id = false := by
  have hid : source.id ∈ ledger.registry.ids := by
    rw [h.ids_eq]
    exact List.mem_map_of_mem hsource
  obtain ⟨entry, hentry, hkey⟩ := List.mem_map.1 hid
  rw [← hkey]
  exact Registry.find?_eq_none_iff.1 hunused entry hentry

/-- Entering what stands for one more source behind all others. -/
theorem Holds.enter (h : ledger.Holds setting sources) {source : Source} {type : GraphType}
    (hunused : ledger.registry.find? source.id = none) (hkey : source.id.isKey = true)
    (hstands : ledger.Stands setting (.document source.id) source.position source.shape type)
    (journal : List Event) :
    (ledger.enter source.id type journal).Holds setting (sources ++ [source]) where
  sound := h.sound.enter source.id type journal
  entries := by
    have hle := le_enter ledger source.id type journal
    refine List.rel_append (h.entries.imp fun other entry hentry => ?_) (.cons ⟨rfl, ?_⟩ .nil)
    · exact ⟨hentry.1, hentry.2.mono hle⟩
    · exact hstands.mono hle
  distinct := by
    refine List.pairwise_append.2 ⟨h.distinct, List.pairwise_singleton _ _, ?_⟩
    intro other hother last hlast
    rw [List.mem_singleton.1 hlast]
    exact h.same_eq_false hunused hother
  isKey other hother := by
    rcases List.mem_append.1 hother with hother | hother
    · exact h.isKey other hother
    · rw [List.mem_singleton.1 hother]
      exact hkey
  stood before other rest heq := by
    have hle := le_enter ledger source.id type journal
    rcases List.eq_nil_or_concat rest with rfl | ⟨rest, last, rfl⟩
    · obtain ⟨rfl, hsame⟩ := List.append_inj' heq rfl
      cases hsame
      exact ⟨ledger, hle, h.ids_eq, type, hstands⟩
    · rw [List.concat_eq_append, ← List.cons_append, ← List.append_assoc] at heq
      obtain ⟨heq, -⟩ := List.append_inj' heq rfl
      obtain ⟨earlier, hearlier, hids, hstood⟩ := h.stood before other rest heq
      exact ⟨earlier, hearlier.trans hle, hids, hstood⟩

/-- Compiling a document under a new identifier adds its source. -/
theorem Holds.compile {config : Config} {customize? : Option Customizer} {document : Json}
    {source : Source} {after : Registry} (h : ledger.Holds (config.setting customize?) sources)
    (hcompiles : Build.Compiles config customize? document source ledger.registry after) :
    ∃ last : Ledger, last.registry = after ∧ ledger.Le last ∧
      last.Holds (config.setting customize?) (sources ++ [source]) := by
  obtain ⟨journal, type, registry, hbuild, rfl⟩ := hcompiles.enters
  obtain ⟨middle, hmiddle, hle, hsound, hstands⟩ := buildType_yields (h.sound.write journal)
    (.document source.id) source.position source.shape
  have hentries := Build.buildType_entries (config.setting customize?) source.position source.shape
    (ledger.write journal).registry
  rw [show (ledger.write journal).registry = { ledger.registry with journal } from rfl, hbuild]
    at hmiddle hstands hentries
  obtain rfl : middle.registry = registry := hmiddle
  have hentries : middle.registry.entries = ledger.registry.entries := hentries
  have hle : ledger.Le middle := (le_write ledger journal).trans hle
  have hunused : middle.registry.find? source.id = none := by
    rw [Registry.find?, hentries]
    exact hcompiles.unused
  let written := middle.registry.journal ++ [.compiled source.id]
  refine ⟨middle.enter source.id type written, ?_, hle.trans (le_enter middle _ _ written),
    (h.of_le hle hsound hentries).enter hunused hcompiles.isKey (hstands type rfl) written⟩
  rw [← hentries]
  rfl

end Ledger

/-! ### A whole batch -/

namespace Build

theorem Compiles.tracks {config : Config} {customize? : Option Customizer} {document : Json}
    {source : Source} {before after : Registry}
    (h : Compiles config customize? document source before after)
    (htracks : before.Tracks before.pending) : after.Tracks after.pending := by
  obtain ⟨added, hpending, hplans, hbuilt, -⟩ := h.adds
  rw [hpending]
  refine htracks.append hplans fun key hkey => ?_
  rwa [hbuilt]

/-- An identifier that is not the one of the document is used after it just if it was before. -/
theorem Compiles.find?_eq_none {config : Config} {customize? : Option Customizer}
    {document : Json} {source : Source} {before after : Registry} {id : Json}
    (h : Compiles config customize? document source before after)
    (hother : Json.same source.id id = false) (hunused : before.find? id = none) :
    after.find? id = none := by
  obtain ⟨journal, type, middle, -, rfl⟩ := h.enters
  rw [Registry.find?_eq_none_iff] at hunused ⊢
  intro entry hentry
  rcases List.mem_append.1 hentry with hentry | hentry
  · exact hunused entry hentry
  · rw [List.mem_singleton.1 hentry]
    exact hother

theorem Compiles.keepsAll {config : Config} {customize? : Option Customizer}
    {document : Json} {source : Source} {before after : Registry} {documents : List Json}
    (h : Compiles config customize? document source before after)
    (hkeeps : config.KeepsAll before (document :: documents)) :
    config.KeepsAll after documents := by
  refine hkeeps.imp_right fun ⟨hdistinct, hunused⟩ => ?_
  obtain ⟨hhead, hrest⟩ := List.pairwise_cons.1 hdistinct
  refine ⟨hrest, fun other hother id hid => ?_⟩
  exact h.find?_eq_none (hhead other hother _ _ (Source.identifierOf_eq h.source_eq) hid)
    (hunused other (List.mem_cons_of_mem _ hother) id hid)

end Build

namespace Ledger

/-- Compiling documents adds their sources. -/
theorem Holds.compile_forM {config : Config} {customize? : Option Customizer}
    {ledger : Ledger} {sources : List Source} {documents : List Json} {after : Registry}
    (h : ledger.Holds (config.setting customize?) sources)
    (htracks : ledger.registry.Tracks ledger.registry.pending)
    (hkeeps : config.KeepsAll ledger.registry documents)
    (hrun : (documents.forM (Build.compile config customize?)).on ledger.registry =
      (.ok (), after)) :
    ∃ (last : Ledger) (added : List Source), last.registry = after ∧
      last.Holds (config.setting customize?) (sources ++ added) ∧ after.Tracks after.pending ∧
      List.Forall₂ (Build.Passes config) documents added := by
  induction documents generalizing ledger sources with
  | nil =>
    cases hrun
    exact ⟨ledger, [], rfl, by rwa [List.append_nil], htracks, .nil⟩
  | cons document documents ih =>
    have hrun : (Build.compile config customize? document >>= fun _ =>
      documents.forM (Build.compile config customize?)).on ledger.registry = (.ok (), after) := hrun
    obtain ⟨_, registry, hcompile, hrest⟩ := Build.on_bind_ok hrun
    obtain ⟨source, hcompiles⟩ := Build.Compiles.of_compile hcompile
      (hkeeps.imp_right fun hnew => hnew.2 document List.mem_cons_self)
    obtain ⟨middle, rfl, -, hmiddle⟩ := h.compile hcompiles
    obtain ⟨last, added, rfl, hlast, htracks, hadded⟩ :=
      ih hmiddle (hcompiles.tracks htracks) (hcompiles.keepsAll hkeeps) hrest
    refine ⟨last, source :: added, rfl, ?_, htracks, .cons hcompiles.toPasses hadded⟩
    rwa [List.append_cons]

end Ledger

namespace Build

/-- A batch that compiled: the registry holds the sources of its documents, and the fields of
every object are built. -/
structure Compiled (config : Config) (customize? : Option Customizer) (documents : List Json)
    (sources : List Source) (ledger : Ledger) : Prop where
  passes : List.Forall₂ (Passes config) documents sources
  holds : ledger.Holds (config.setting customize?) sources
  isBuilt : ledger.registry.IsBuilt

/-- **A batch compiles into a registry that holds its sources**, with nothing left to build. -/
theorem compileAll_holds {config : Config} {customize? : Option Customizer}
    {documents : List Json} {after : Registry} (hkeeps : config.KeepsAll .empty documents)
    (hrun : (compileAll config customize? documents).on .empty = (.ok (), after)) :
    ∃ sources ledger, ledger.registry = after ∧
      Compiled config customize? documents sources ledger := by
  obtain ⟨_, middle, hcompile, hresolve⟩ := on_bind_ok hrun
  obtain ⟨ledger, sources, rfl, hholds, htracks, hsources⟩ :=
    (Ledger.empty_holds (config.setting customize?)).compile_forM
      (fun plan hplan => nomatch hplan) hkeeps hcompile
  have hdrain : drain 0 ledger.registry = (.ok (), after) := hresolve
  obtain ⟨last, hlast, hle, hsound⟩ := Ledger.drain_yields hholds.sound 0
  have hentries := drain_entries 0 ledger.registry
  rw [hdrain] at hlast hentries
  obtain rfl : last.registry = after := hlast
  exact ⟨sources, last, rfl, hsources, hholds.of_le hle hsound hentries,
    drain_isBuilt htracks hdrain⟩

end Build
end SchemaGraph
