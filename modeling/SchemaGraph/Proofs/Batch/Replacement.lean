import SchemaGraph.Proofs.Batch.Abreast
import SchemaGraph.Proofs.Batch.Rejection

/-! Documents that are replaced.

Where identifiers may be used again, a document takes the place of an earlier one of its
identifier. The earlier one leaves two things: its entry, which stands until then, and the
plans of its objects, which stay in the queue for good. The entry matters to documents that
take it up at once, and to no other. The plans matter if draining stops at one of them
(`compileAll_replaced_dangling`). Apart from that, the batch ends as it would without the
earlier document (`Build.compileAll_replaced`). -/
namespace SchemaGraph

/-! ### What compiling adds -/

namespace Registry

/-- The identifiers of all entries are keys. -/
def HasKeys (registry : Registry) : Prop := ∀ entry ∈ registry.entries, entry.1.isKey = true

theorem HasKeys.of_entries_eq {before after : Registry} (h : before.HasKeys)
    (hentries : after.entries = before.entries) : after.HasKeys := by
  intro entry hentry
  rw [hentries] at hentry
  exact h entry hentry

/-- A document's type is found under its identifier, and under all others what was there. -/
theorem find?_entering {registry : Registry} (hkeys : registry.HasKeys) {id : Json}
    (hid : id.isKey = true) (type : GraphType) (target : Json) :
    (registry.entering id type).find? target =
      if Json.same id target = true then some type else registry.find? target :=
  find?_setEntry hid type hkeys target

theorem HasKeys.entering {registry : Registry} (h : registry.HasKeys) {id : Json}
    (hid : id.isKey = true) (type : GraphType) : (registry.entering id type).HasKeys :=
  isKey_of_mem_setEntry hid h

/-- Entering one type in both registries makes them agree on one more target. -/
theorem AgreesOn.entering {heeded : Json → Prop} {first second : Registry}
    (h : first.AgreesOn heeded second) (hkeys : first.HasKeys) (hkeys' : second.HasKeys)
    {id : Json} (hid : id.isKey = true) (type : GraphType) :
    (first.entering id type).AgreesOn (fun target => heeded target ∨ Json.same id target = true)
      (second.entering id type) := by
  refine ⟨h.pending, h.plans, h.built, h.nextKey, fun target htarget => ?_⟩
  rw [find?_entering hkeys hid, find?_entering hkeys' hid]
  by_cases hsame : Json.same id target = true
  · rw [if_pos hsame, if_pos hsame]
  · rw [if_neg hsame, if_neg hsame]
    exact h.find? target (htarget.resolve_right hsame)

/-- A registry agrees with the one that has an entry more on all other targets. -/
theorem agreesOn_entering {registry : Registry} (hkeys : registry.HasKeys) {id : Json}
    (hid : id.isKey = true) (type : GraphType) :
    registry.AgreesOn (fun target => Json.same id target = false) (registry.entering id type) := by
  refine ⟨rfl, rfl, rfl, rfl, fun target htarget => ?_⟩
  rw [find?_entering hkeys hid, if_neg (by simp [htarget])]

end Registry

/-- Where identifiers may be used again, those in use do not matter. -/
theorem Config.accept_eq {config : Config} (hallow : config.allowDuplicates.truthy = true)
    (first second : Registry) (document : Json) :
    config.accept first document = config.accept second document := by
  simp [accept, checkId, hallow]

namespace Build

variable {config : Config} {customize? : Option Customizer}

theorem compile_hasKeys (config : Config) (customize? : Option Customizer) (document : Json)
    {registry : Registry} (h : registry.HasKeys) :
    ((compile config customize? document).on registry).2.HasKeys := by
  refine compile_preserves (fun _ _ h => h) ?_ ?_ document h
  · exact fun position shape registry h =>
      h.of_entries_eq (buildType_entries (config.setting customize?) position shape registry)
  · exact fun position shape registry after type id hkey _ _ hafter => hafter.entering hkey type

/-- What a document leaves that was compiled: its entry, and strays, which are its plans. -/
theorem compile_leaves {document : Json} {registry after : Registry} (h : registry.IsNumbered)
    (hrun : (compile config customize? document).on registry = (.ok (), after)) :
    ∃ source type, Passes config document source ∧
      Registry.SameBut (source.Owns (config.setting customize?))
        (registry.entering source.id type) after := by
  obtain ⟨events, -, hsteps⟩ := compile_run config customize? document registry
  rw [hrun] at hsteps
  cases haccept : config.accept registry document with
  | error fault =>
    rw [haccept] at hsteps
    cases hsteps
  | ok source =>
    simp only [haccept] at hsteps
    have hentries := buildType_entries (config.setting customize?) source.position source.shape
      (registry.noting events)
    obtain ⟨strands, queue, hbraided⟩ := h.braided_buildType
      (source.Owns (config.setting customize?)) (config.setting customize?) source.position
      source.shape events fun plan hplan => .outer hplan
    rcases hbuild : (buildType (config.setting customize?) source.position source.shape).on
      (registry.noting events) with ⟨fault | type, middle⟩ <;>
      rw [hbuild] at hsteps hentries hbraided <;> cases hsteps
    have hentries : middle.entries = registry.entries := hentries
    refine ⟨source, type, (Config.accept_ok haccept).1, ?_, strands, queue, hbraided.of_eq rfl rfl⟩
    simp only [Registry.bareEntries, Registry.entering, hentries]

/-! ### Two runs side by side -/

/-- Run on related registries, the work ends alike, and if it succeeds it leaves registries that
are related by `R'`. -/
structure KeepsPace (R R' : Registry → Registry → Prop) (work : Build Unit) : Prop where
  runs (first second : Registry) (h : R first second) :
    (work.on first).1 = (work.on second).1 ∧
      ((work.on first).1 = .ok () → R' (work.on first).2 (work.on second).2)

namespace KeepsPace

variable {R R' R'' : Registry → Registry → Prop}

theorem mono {work : Build Unit} (h : KeepsPace R R' work)
    (hafter : ∀ first second, R' first second → R'' first second) : KeepsPace R R'' work :=
  ⟨fun first second hrelated =>
    let ⟨hresult, hrest⟩ := h.runs first second hrelated
    ⟨hresult, fun hok => hafter _ _ (hrest hok)⟩⟩

theorem bind {work next : Build Unit} (h : KeepsPace R R' work) (hnext : KeepsPace R' R'' next) :
    KeepsPace R R'' (work >>= fun _ => next) := by
  refine ⟨fun first second hrelated => ?_⟩
  obtain ⟨hresult, hafter⟩ := h.runs first second hrelated
  rw [on_bind, on_bind]
  rcases hrun : work.on first with ⟨fault | value, middle⟩ <;>
    rcases hrun' : work.on second with ⟨fault' | value', middle'⟩ <;>
    rw [hrun, hrun'] at hresult hafter <;> cases hresult
  · exact ⟨rfl, fun hok => nomatch hok⟩
  · exact hnext.runs middle middle' (hafter rfl)

theorem forM {α : Type} {work : α → Build Unit} {items : List α}
    (h : ∀ item ∈ items, KeepsPace R R (work item)) : KeepsPace R R (items.forM work) := by
  induction items with
  | nil => exact ⟨fun first second hrelated => ⟨rfl, fun _ => hrelated⟩⟩
  | cons item items ih =>
    obtain ⟨hitem, hitems⟩ := List.forall_mem_cons.1 h
    exact hitem.bind (ih hitems)

theorem append {α : Type} {work : α → Build Unit} {items more : List α}
    (h : KeepsPace R R' (items.forM work)) (hmore : KeepsPace R' R'' (more.forM work)) :
    KeepsPace R R'' ((items ++ more).forM work) := by
  rw [show (items ++ more).forM work = items.forM work >>= fun _ => more.forM work from
    List.forM_append]
  exact h.bind hmore

end KeepsPace

/-- Both registries go by keys, and agree on the targets. -/
def Concur (heeded : Json → Prop) (first second : Registry) : Prop :=
  first.AgreesOn heeded second ∧ first.HasKeys ∧ second.HasKeys

theorem Concur.mono {heeded fewer : Json → Prop} {first second : Registry}
    (h : Concur heeded first second) (hfewer : ∀ target, fewer target → heeded target) :
    Concur fewer first second := ⟨h.1.mono hfewer, h.2⟩

/-- A document that takes up heeded targets only is compiled alike. -/
theorem compile_keepsPace (hallow : config.allowDuplicates.truthy = true)
    (customize? : Option Customizer) {heeded : Json → Prop} {document : Json}
    (htakes : ∀ source, Source.ofJson document = .ok source →
      ∀ target, source.shape.TakesUp target → heeded target) :
    KeepsPace (Concur heeded) (Concur fun target => heeded target ∨
      ∃ id, identifierOf document = .ok id ∧ Json.same id target = true)
      (compile config customize? document) := by
  refine ⟨fun first second ⟨hagrees, hkeys, hkeys'⟩ => ?_⟩
  have hlast := compile_hasKeys config customize? document hkeys
  have hlast' := compile_hasKeys config customize? document hkeys'
  obtain ⟨events, -, hrun⟩ := compile_run config customize? document first
  obtain ⟨events', -, hrun'⟩ := compile_run config customize? document second
  rw [hrun] at hlast
  rw [hrun'] at hlast'
  rw [hrun, hrun']
  rw [Config.accept_eq hallow second first] at hlast' ⊢
  cases haccept : config.accept first document with
  | error fault => exact ⟨rfl, fun hok => nomatch hok⟩
  | ok source =>
    have hpasses := (Config.accept_ok haccept).1
    rcases hbuild : (buildType (config.setting customize?) source.position source.shape).on
      (first.noting events) with ⟨result, after⟩
    obtain ⟨after', hbuild', hafter⟩ := (buildType_heeds _ source.position source.shape
      (htakes source hpasses.source_eq)).exists_run (hagrees.noting events events') hbuild
    have hentries := buildType_entries (config.setting customize?) source.position source.shape
      (first.noting events)
    have hentries' := buildType_entries (config.setting customize?) source.position source.shape
      (second.noting events')
    rw [hbuild] at hentries
    rw [hbuild'] at hentries'
    simp only [haccept, hbuild, hbuild'] at hlast hlast' ⊢
    cases result with
    | error fault => exact ⟨rfl, fun hok => nomatch hok⟩
    | ok type =>
      refine ⟨rfl, fun _ => ⟨?_, hlast, hlast'⟩⟩
      refine (hafter.entering (hkeys.of_entries_eq hentries) (hkeys'.of_entries_eq hentries')
        hpasses.isKey type).mono fun target htarget => ?_
      refine htarget.imp_right fun ⟨id, hid, hsame⟩ => ?_
      cases (Source.identifierOf_eq hpasses.source_eq).symm.trans hid
      exact hsame

/-- Draining ends alike on registries that agree on everything. -/
theorem resolvePending_keepsPace : KeepsPace (Concur anyTarget) (fun _ _ => True) resolvePending :=
  ⟨fun _ _ hconcur => ⟨(hconcur.1.drain 0).1, fun _ => trivial⟩⟩

variable {middle after : List Json} {other : Json} {id id' : Json}

/-- If nothing takes up an identifier before a document of that identifier is compiled, then it
makes no difference what was entered under it. -/
theorem compileAll_keepsPace (hallow : config.allowDuplicates.truthy = true)
    (customize? : Option Customizer) (hkey : id.isKey = true)
    (hother : identifierOf other = .ok id') (hsame : Json.same id id' = true)
    (htakes : ∀ user ∈ middle ++ [other], ∀ source, Source.ofJson user = .ok source →
      ∀ target, source.shape.TakesUp target → Json.same id target = false) :
    KeepsPace (Concur fun target => Json.same id target = false) (fun _ _ => True)
      (compileAll config customize? (middle ++ other :: after)) := by
  have hmiddle : KeepsPace (Concur fun target => Json.same id target = false)
      (Concur fun target => Json.same id target = false)
      (middle.forM (compile config customize?)) := by
    refine .forM fun user huser => .mono (compile_keepsPace hallow customize? ?_)
      fun _ _ hconcur => hconcur.mono fun _ => .inl
    exact htakes user (List.mem_append_left _ huser)
  have hreplaced : KeepsPace (Concur fun target => Json.same id target = false)
      (Concur anyTarget) (compile config customize? other) := by
    refine .mono (compile_keepsPace hallow customize? (htakes other (by simp)))
      fun _ _ hconcur => hconcur.mono fun target _ => ?_
    cases htarget : Json.same id target with
    | true => exact .inr ⟨id', hother, Json.same_of_same_key hkey hsame htarget⟩
    | false => exact .inl rfl
  have hafter : KeepsPace (Concur anyTarget) (Concur anyTarget)
      (after.forM (compile config customize?)) :=
    .forM fun user _ => .mono (compile_keepsPace hallow customize? fun _ _ _ _ => trivial)
      fun _ _ hconcur => hconcur.mono fun _ => .inl
  exact .bind (hmiddle.append (hreplaced.bind hafter)) resolvePending_keepsPace

/-! ### The two outcomes -/

theorem forM_append_on {documents more : List Json} {start registry : Registry}
    (hrun : (documents.forM (compile config customize?)).on start = (.ok (), registry)) :
    ((documents ++ more).forM (compile config customize?)).on start =
      (more.forM (compile config customize?)).on registry := by
  rw [show (documents ++ more).forM (compile config customize?) =
    documents.forM (compile config customize?) >>= fun _ => more.forM (compile config customize?)
    from List.forM_append, on_bind, hrun]

/-- A batch goes on from where its first documents led. -/
theorem compileAll_append {documents more : List Json} {start registry : Registry}
    (hrun : (documents.forM (compile config customize?)).on start = (.ok (), registry)) :
    (compileAll config customize? (documents ++ more)).on start =
      (compileAll config customize? more).on registry := by
  unfold compileAll
  rw [on_bind, on_bind, forM_append_on hrun]

theorem stopsAt_append {documents more : List Json} {start registry : Registry} {plan : FieldPlan}
    (hrun : (documents.forM (compile config customize?)).on start = (.ok (), registry))
    (hstops : (Call.reduce config customize? more).StopsAt registry plan) :
    (Call.reduce config customize? (documents ++ more)).StopsAt start plan := by
  obtain ⟨drained, fault, hdrained, hstops⟩ := hstops
  refine ⟨drained, fault, ?_, ?_⟩
  · rw [← hdrained, Call.drained?, Call.drained?, forM_append_on hrun]
  · rw [Call.after, Call.work, compileAll_append hrun]
    exact hstops

/-- What happens to documents of which the last one compiles. -/
theorem forM_concat_ok {documents : List Json} {document : Json} {start last : Registry}
    (hrun : ((documents ++ [document]).forM (compile config customize?)).on start =
      (.ok (), last)) : ∃ registry,
      (documents.forM (compile config customize?)).on start = (.ok (), registry) ∧
        (compile config customize? document).on registry = (.ok (), last) := by
  rw [show (documents ++ [document]).forM (compile config customize?) =
    documents.forM (compile config customize?) >>= fun _ =>
      [document].forM (compile config customize?) from List.forM_append] at hrun
  obtain ⟨_, registry, hdocuments, hrest⟩ := on_bind_ok hrun
  obtain ⟨_, middle, hdocument, hnone⟩ := on_bind_ok
    (show (compile config customize? document >>= fun _ => pure ()).on registry = _ from hrest)
  cases hnone
  exact ⟨registry, hdocuments, hdocument⟩

/-- **A document that is replaced changes no outcome**, unless draining stops at one of its
plans. -/
theorem outcome_replaced (hallow : config.allowDuplicates.truthy = true) {before : List Json}
    {document : Json} (hid : identifierOf document = .ok id) (hother : identifierOf other = .ok id')
    (hsame : Json.same id id' = true)
    (haccepted : (((before ++ [document]).forM (compile config customize?)).on .empty).1 = .ok ())
    (htakes : ∀ user ∈ middle ++ [other], ∀ source, Source.ofJson user = .ok source →
      ∀ target, source.shape.TakesUp target → Json.same id target = false) :
    (∃ source plan, Source.ofJson document = .ok source ∧
      source.Owns (config.setting customize?) plan ∧
      (Call.reduce config customize? (before ++ document :: (middle ++ other :: after))).StopsAt
        .empty plan) ∨
    ((compileAll config customize? (before ++ document :: (middle ++ other :: after))).on
      .empty).1 =
      ((compileAll config customize? (before ++ (middle ++ other :: after))).on .empty).1 := by
  have hprefix : ((before ++ [document]).forM (compile config customize?)).on .empty =
      (.ok (), _) := Prod.ext haccepted rfl
  obtain ⟨registry, hbefore, hdocument⟩ := forM_concat_ok hprefix
  have hnumbered : registry.IsNumbered := by
    have hforM := forM_preserves (p := Registry.IsNumbered) (fun document _ h =>
      compile_isNumbered config customize? document h) before Registry.isNumbered_empty
    rwa [hbefore] at hforM
  have hkeys : registry.HasKeys := by
    have hempty : Registry.empty.HasKeys := fun _ hentry => nomatch hentry
    have hforM := forM_preserves (p := Registry.HasKeys) (fun document _ h =>
      compile_hasKeys config customize? document h) before hempty
    rwa [hbefore] at hforM
  obtain ⟨source, type, hpasses, hleft⟩ := compile_leaves hnumbered hdocument
  cases (Source.identifierOf_eq hpasses.source_eq).symm.trans hid
  -- The entry alone makes no difference, and neither do the plans that come with it.
  let entered := registry.entering source.id type
  have hconcur : Concur (fun target => Json.same source.id target = false) registry entered :=
    ⟨Registry.agreesOn_entering hkeys hpasses.isKey type, hkeys, hkeys.entering hpasses.isKey type⟩
  have hentry : ((compileAll config customize? (middle ++ other :: after)).on registry).1 =
      ((compileAll config customize? (middle ++ other :: after)).on entered).1 :=
    ((compileAll_keepsPace hallow customize? hpasses.isKey hother hsame htakes).runs _ _ hconcur).1
  have hplans := hleft.call (fun _ _ => .inner)
    (.reduce config customize? (middle ++ other :: after))
  rw [List.append_cons, compileAll_append hprefix, compileAll_append hbefore, hentry]
  rcases hplans with ⟨plan, howns, hstops⟩ | ⟨houtcome, -⟩
  · exact .inl ⟨source, plan, hpasses.source_eq, howns, stopsAt_append hprefix hstops⟩
  · exact .inr houtcome.symm

end Build

/-! ### The two graphs -/

/-- The batches with and without a document that is replaced run abreast. -/
theorem abreast_replaced {before middle after others : List Edition} {edition other : Edition}
    (halike : List.Forall₂ Edition.Alike (before ++ (middle ++ other :: after)) others)
    (hnumber : edition.number ∉ before.map Edition.number) (hkey : edition.source.id.isKey = true)
    (hsame : Json.same edition.source.id other.source.id = true)
    (htakes : ∀ user ∈ middle ++ [other], ∀ target, user.source.shape.TakesUp target →
      Json.same edition.source.id target = false) :
    Abreast (before ++ edition :: (middle ++ other :: after)) others ∧
      Coincide Build.anyTarget (before ++ edition :: (middle ++ other :: after)) others := by
  obtain ⟨before', rest', rfl, hbefore, hrest⟩ := forall₂_append_left halike
  obtain ⟨middle', other', after', rfl, hmiddle, hother, hafter⟩ := forall₂_split hrest
  have hnone : Coincide Build.anyTarget [] [] := fun _ _ => .none
  obtain ⟨habreast, hcurrent⟩ := Abreast.nil.append hnone hbefore fun _ _ _ _ => trivial
  rw [List.nil_append, List.nil_append] at habreast hcurrent
  have hnumbers : before.map Edition.number = before'.map Edition.number := by
    have hmap : List.Forall₂ (· = ·) (before.map Edition.number) (before'.map Edition.number) := by
      rw [List.forall₂_map_left_iff, List.forall₂_map_right_iff]
      exact hbefore.imp fun _ _ hab => hab.number
    exact List.forall₂_eq_eq_eq ▸ hmap
  rw [hnumbers] at hnumber
  have hwithout : Coincide (fun target => Json.same edition.source.id target = false)
      (before ++ [edition]) before' := hcurrent.first.mono fun _ htarget => ⟨trivial, htarget⟩
  obtain ⟨habreast, hcurrent⟩ := (habreast.first hnumber).append hwithout hmiddle
    fun user huser => htakes user (List.mem_append_left _ huser)
  have htakesOther := hcurrent.mono (htakes other (by simp))
  have hlast : Coincide Build.anyTarget (before ++ [edition] ++ middle ++ [other])
      (before' ++ middle' ++ [other']) := by
    refine (hcurrent.both hother).mono fun target _ => ?_
    cases htarget : Json.same edition.source.id target with
    | true => exact .inr (Json.same_of_same_key hkey hsame htarget)
    | false => exact .inl rfl
  have hall := (habreast.both hother htakesOther).append hlast hafter fun _ _ _ _ => trivial
  simpa using hall

/-- Editions that have the same numbers and sources are alike. -/
theorem forall₂_alike {editions others : List Edition}
    (hnumbers : editions.map Edition.number = others.map Edition.number)
    (hsources : editions.map Edition.source = others.map Edition.source) :
    List.Forall₂ Edition.Alike editions others := by
  induction editions generalizing others with
  | nil =>
    rw [List.map_nil, eq_comm, List.map_eq_nil_iff] at hnumbers
    rw [hnumbers]
    exact .nil
  | cons a editions ih =>
    cases others with
    | nil => cases hnumbers
    | cons b others =>
      obtain ⟨hnumber, hnumbers⟩ := List.cons.inj hnumbers
      obtain ⟨hsource, hsources⟩ := List.cons.inj hsources
      exact .cons ⟨hnumber, hsource⟩ (ih hnumbers hsources)

namespace Build

variable {config : Config} {customize? : Option Customizer}

/-- Documents have one source each. -/
theorem sources_unique {documents : List Json} {sources others : List Source}
    (h : List.Forall₂ (Passes config) documents sources)
    (h' : List.Forall₂ (Passes config) documents others) : sources = others := by
  refine List.right_unique_forall₂' (fun document a b ha hb => ?_) h h'
  exact Except.ok.inj (ha.source_eq.symm.trans hb.source_eq)

variable {before middle after : List Json} {document other : Json} {id id' : Json}

/-- If both batches compile, then they compile to the same graph. -/
theorem sameGraph_replaced (hid : identifierOf document = .ok id)
    (hother : identifierOf other = .ok id') (hsame : Json.same id id' = true)
    (htakes : ∀ user ∈ middle ++ [other], ∀ source, Source.ofJson user = .ok source →
      ∀ target, source.shape.TakesUp target → Json.same id target = false)
    {registry registry' : Registry}
    (hrun : (compileAll config customize? (before ++ document :: (middle ++ other :: after))).on
      .empty = (.ok (), registry))
    (hrun' : (compileAll config customize? (before ++ (middle ++ other :: after))).on .empty =
      (.ok (), registry')) : registry.SameGraph registry' := by
  obtain ⟨editions, ledger, rfl, hnumbers, hrecorded⟩ :=
    compileAll_records List.nodup_range List.length_range hrun
  have hnodup := hrecorded.records.numbers
  -- Every document goes with an edition.
  have hpasses := hrecorded.passes
  rw [List.forall₂_map_right_iff] at hpasses
  obtain ⟨earlier, edition, rest, rfl, hbefore, hdocument, hrest⟩ := forall₂_split hpasses
  obtain ⟨between, successor, later, rfl, hmiddle, hreplaced, hafter⟩ := forall₂_split hrest
  cases (Source.identifierOf_eq hdocument.source_eq).symm.trans hid
  cases (Source.identifierOf_eq hreplaced.source_eq).symm.trans hother
  have hcommon : List.Forall₂ (Passes config) (before ++ (middle ++ other :: after))
      ((earlier ++ (between ++ successor :: later)).map Edition.source) := by
    rw [List.forall₂_map_right_iff]
    exact List.rel_append hbefore (List.rel_append hmiddle (.cons hreplaced hafter))
  have hdistinct : ((earlier ++ (between ++ successor :: later)).map Edition.number).Nodup :=
    hnodup.sublist (((List.Sublist.refl earlier).append (List.sublist_cons_self edition _)).map _)
  obtain ⟨others, ledger', rfl, hnumbers', hrecorded'⟩ :=
    compileAll_records hdistinct (by simpa using hcommon.length_eq.symm) hrun'
  have halike : List.Forall₂ Edition.Alike (earlier ++ (between ++ successor :: later)) others :=
    forall₂_alike hnumbers'.symm (sources_unique hcommon hrecorded'.passes)
  have hnumber : edition.number ∉ earlier.map Edition.number := by
    rw [List.map_append, List.nodup_append] at hnodup
    exact fun hmem => hnodup.2.2 _ hmem _ (List.mem_map_of_mem List.mem_cons_self) rfl
  have htakes : ∀ user ∈ between ++ [successor], ∀ target, user.source.shape.TakesUp target →
      Json.same edition.source.id target = false := by
    have husers : List.Forall₂ (fun document user => Passes config document user.source)
        (middle ++ [other]) (between ++ [successor]) :=
      List.rel_append hmiddle (.cons hreplaced .nil)
    intro user huser
    obtain ⟨json, hjson, hpasses⟩ := forall₂_exists husers.flip huser
    exact htakes json hjson user.source hpasses.source_eq
  obtain ⟨habreast, hcurrent⟩ := abreast_replaced halike hnumber hdocument.isKey hsame htakes
  exact ⟨_, hrecorded.records.isomorphism_of_abreast hrecorded'.records habreast hcurrent
    hrecorded.isBuilt hrecorded'.isBuilt,
    hrecorded.records.entries_of_abreast hrecorded'.records habreast hcurrent⟩

/-- **A document that is replaced leaves no trace in the outcome**, if no document from there to
its replacement takes up its identifier: a batch fails with the same fault as without it, or
compiles to the same graph. The one exception is that draining stops at a plan of the document,
which is still in the queue. -/
theorem compileAll_replaced (hallow : config.allowDuplicates.truthy = true)
    (hid : identifierOf document = .ok id) (hother : identifierOf other = .ok id')
    (hsame : Json.same id id' = true)
    (haccepted : (((before ++ [document]).forM (compile config customize?)).on .empty).1 = .ok ())
    (htakes : ∀ user ∈ middle ++ [other], ∀ source, Source.ofJson user = .ok source →
      ∀ target, source.shape.TakesUp target → Json.same id target = false) :
    let documents := before ++ document :: (middle ++ other :: after)
    let whole := (compileAll config customize? documents).on .empty
    let rest := (compileAll config customize? (before ++ (middle ++ other :: after))).on .empty
    (∃ source plan, Source.ofJson document = .ok source ∧
      source.Owns (config.setting customize?) plan ∧
      (Call.reduce config customize? documents).StopsAt .empty plan) ∨
    (whole.1 = rest.1 ∧ (whole.1 = .ok () → whole.2.SameGraph rest.2)) := by
  intro documents whole rest
  refine (outcome_replaced hallow hid hother hsame haccepted htakes).imp_right fun houtcome =>
    ⟨houtcome, fun hok => ?_⟩
  have hrun : (compileAll config customize? documents).on .empty = (.ok (), whole.2) :=
    Prod.ext hok rfl
  have hrun' : (compileAll config customize? (before ++ (middle ++ other :: after))).on .empty =
      (.ok (), rest.2) := Prod.ext (houtcome.symm.trans hok) rfl
  exact sameGraph_replaced hid hother hsame htakes hrun hrun'

/-- An object that refers to the next document, which refers back to it below a property, and a
text in its place that is taken up at once. -/
theorem compileAll_replaced_object :
    let config : Config := { checkMode := .off, allowDuplicates := .bool true }
    let replaced : Json := .obj [("$id", .str "A"), ("type", .str "object"),
      ("properties", .obj [("b", .obj [("$ref", .str "B")])])]
    let user : Json := .obj [("$id", .str "B"), ("type", .str "object"),
      ("properties", .obj [("a", .obj [("$ref", .str "A")])])]
    let other : Json := .obj [("$id", .str "A"), ("type", .str "string")]
    let last : Json := .obj [("$id", .str "C"), ("$ref", .str "A")]
    let whole := (compileAll config none [replaced, user, other, last]).on .empty
    let rest := (compileAll config none [user, other, last]).on .empty
    whole.1 = .ok () ∧ whole.1 = rest.1 ∧ whole.2.SameGraph rest.2 := by
  intro config replaced user other last whole rest
  have hok : whole.1 = .ok () := congrArg Prod.fst (on_eq_of_isOk (by decide +kernel))
  have huser : Source.ofJson user = .ok ⟨.str "B", "B", .object { path := "#" } []
      [("a", .reference { path := "#/properties/a" } (.str "A"))]⟩ := by with_unfolding_all rfl
  have hother : Source.ofJson other = .ok ⟨.str "A", "A", .primitive { path := "#" } .string⟩ := by
    with_unfolding_all rfl
  have haccepted : ((([] ++ [replaced]).forM (compile config none)).on .empty).1 = .ok () :=
    congrArg Prod.fst (on_eq_of_isOk (by decide +kernel))
  have htakes : ∀ document ∈ [user] ++ [other], ∀ source, Source.ofJson document = .ok source →
      ∀ target, source.shape.TakesUp target → Json.same (.str "A") target = false := by
    intro document hdocument source hsource target htakes
    rcases List.mem_pair.1 hdocument with rfl | rfl
    · cases huser.symm.trans hsource
      cases htakes
    · cases hother.symm.trans hsource
      cases htakes
  have hreplaced : (∃ source plan, Source.ofJson replaced = .ok source ∧
      source.Owns (config.setting none) plan ∧
      (Call.reduce config none [replaced, user, other, last]).StopsAt .empty plan) ∨
      (whole.1 = rest.1 ∧ (whole.1 = .ok () → whole.2.SameGraph rest.2)) :=
    compileAll_replaced rfl rfl rfl rfl haccepted htakes
  rcases hreplaced with ⟨source, plan, -, -, hstops⟩ | ⟨houtcome, hgraph⟩
  · exact absurd hstops (Call.not_stopsAt hok)
  · exact ⟨hok, houtcome, hgraph hok⟩

/-- An object with a reference that leads nowhere makes the batch fail, though no other document
refers to it, and a text takes its place. Without it the batch compiles. -/
theorem compileAll_replaced_dangling :
    let config : Config := { checkMode := .off, allowDuplicates := .bool true }
    let replaced : Json := .obj [("$id", .str "A"), ("type", .str "object"),
      ("properties", .obj [("z", .obj [("$ref", .str "Z")])])]
    let other : Json := .obj [("$id", .str "A"), ("type", .str "string")]
    (([replaced].forM (compile config none)).on .empty).1 = .ok () ∧
      (∀ source, Source.ofJson other = .ok source → ∀ target, ¬ source.shape.RefersTo target) ∧
      ((compileAll config none [replaced, other]).on .empty).1.isOk = false ∧
      ((compileAll config none [other]).on .empty).1 = .ok () := by
  intro config replaced other
  have hother : Source.ofJson other = .ok ⟨.str "A", "A", .primitive { path := "#" } .string⟩ := by
    with_unfolding_all rfl
  refine ⟨congrArg Prod.fst (on_eq_of_isOk (by decide +kernel)), ?_, by decide +kernel,
    congrArg Prod.fst (on_eq_of_isOk (by decide +kernel))⟩
  intro source hsource target hrefers
  cases hother.symm.trans hsource
  cases hrefers

end Build
end SchemaGraph
