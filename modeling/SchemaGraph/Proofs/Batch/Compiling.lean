import SchemaGraph.Batch
import SchemaGraph.Proofs.Graph.Bookkeeping

/-! Compiling one document after another.

What the compiler takes from a document is its `Source`: an identifier, the position
that the identifier names, and a shape. If no entry goes by the identifier yet,
compiling is building the type for the source and entering it behind all others
(`compile_on`). -/
namespace SchemaGraph

/-- A document as the compiler sees it. -/
structure Source where
  id : Json
  position : String
  shape : Shape

/-- The source that a document is. -/
def Source.ofJson (document : Json) : Except Fault Source := do
  let id ← identifierOf document
  let shape ← Shape.ofJson "#" document
  let position ← positionOf id
  return { id, position, shape }

theorem Source.identifierOf_eq {document : Json} {source : Source}
    (h : Source.ofJson document = .ok source) : identifierOf document = .ok source.id := by
  obtain ⟨id, hid, h⟩ := bind_ok h
  obtain ⟨shape, -, h⟩ := bind_ok h
  obtain ⟨position, -, h⟩ := bind_ok h
  cases h
  exact hid

/-! ### Entries -/

namespace Registry

theorem setEntry_eq_append {α : Type} {id : Json} (value : α) {entries : List (Json × α)}
    (h : ∀ entry ∈ entries, Json.same entry.1 id = false) :
    setEntry id value entries = entries ++ [(id, value)] := by
  induction entries with
  | nil => rfl
  | cons head rest ih =>
    obtain ⟨hhead, hrest⟩ := List.forall_mem_cons.1 h
    rw [setEntry, if_neg (by simp [hhead]), ih hrest, List.cons_append]

theorem setEntry_ids_of_mem {α : Type} {id : Json} (value : α) {entries : List (Json × α)}
    (h : ∃ entry ∈ entries, Json.same entry.1 id = true) :
    (setEntry id value entries).map Prod.fst = entries.map Prod.fst := by
  induction entries with
  | nil => simp at h
  | cons head rest ih =>
    rw [setEntry]
    by_cases hsame : Json.same head.1 id = true
    · rw [if_pos hsame]
      rfl
    · rw [if_neg hsame, List.map_cons, List.map_cons, ih]
      obtain ⟨entry, hentry, hfound⟩ := h
      rcases List.mem_cons.1 hentry with rfl | hentry
      · exact absurd hfound hsame
      · exact ⟨entry, hentry, hfound⟩

/-- Entering keeps the identifiers apart. -/
theorem pairwise_setEntry {α : Type} (id : Json) (value : α) {entries : List (Json × α)}
    (h : (entries.map Prod.fst).Pairwise fun a b => Json.same a b = false) :
    ((setEntry id value entries).map Prod.fst).Pairwise fun a b => Json.same a b = false := by
  by_cases hnew : ∀ entry ∈ entries, Json.same entry.1 id = false
  · rw [setEntry_eq_append value hnew, List.map_append, List.pairwise_append]
    refine ⟨h, List.pairwise_singleton _ _, ?_⟩
    rintro _ hother last hlast
    obtain ⟨entry, hentry, rfl⟩ := List.mem_map.1 hother
    rw [List.map_singleton, List.mem_singleton] at hlast
    rw [hlast]
    exact hnew entry hentry
  · rw [setEntry_ids_of_mem value (by simpa using hnew)]
    exact h

/-- Where identifiers are apart, every entry is found under its own. -/
theorem find?_of_mem {registry : Registry}
    (hapart : registry.ids.Pairwise fun a b => Json.same a b = false)
    {entry : Json × GraphType} (hentry : entry ∈ registry.entries)
    (hself : Json.same entry.1 entry.1 = true) : registry.find? entry.1 = some entry.2 := by
  obtain ⟨before, rest, hentries⟩ := List.append_of_mem hentry
  rw [ids, List.pairwise_map, hentries] at hapart
  have hfind : registry.entries.find? (fun other => Json.same other.1 entry.1) = some entry := by
    refine List.find?_eq_some_iff_append.2 ⟨hself, before, rest, hentries, ?_⟩
    intro other hother
    have hother := (List.pairwise_append.1 hapart).2.2 other hother entry List.mem_cons_self
    rw [hother]
    rfl
  rw [find?, hfind]
  rfl

theorem find?_eq_none_iff {registry : Registry} {id : Json} :
    registry.find? id = none ↔ ∀ entry ∈ registry.entries, Json.same entry.1 id = false := by
  simp [find?]

theorem exists_find?_iff {registry : Registry} {target : Json} :
    (∃ type, registry.find? target = some type) ↔
      ∃ id ∈ registry.ids, Json.same id target = true := by
  rw [← Option.isSome_iff_exists, find?, Option.isSome_map, List.find?_isSome, ids]
  simp

/-- The object that is entered under the identifier. -/
def object? (registry : Registry) (id : Json) : Option (TypeInfo × FieldPlan) :=
  match registry.find? id with
  | some (.object info plan) => some (info, plan)
  | _ => none

theorem find?_of_object? {registry : Registry} {id : Json} {object : TypeInfo × FieldPlan}
    (h : registry.object? id = some object) :
    registry.find? id = some (.object object.1 object.2) := by
  unfold object? at h
  split at h
  · rename_i hfind
    cases h
    exact hfind
  · cases h

/-- A type that was found before is found after entries are added. -/
theorem find?_of_append {before after : Registry} {added : List (Json × GraphType)}
    (hentries : after.entries = before.entries ++ added) {id : Json} {type : GraphType}
    (h : before.find? id = some type) : after.find? id = some type := by
  simp only [find?, hentries, List.find?_append, Option.map_eq_some_iff] at h ⊢
  obtain ⟨entry, hentry, htype⟩ := h
  exact ⟨entry, by rw [hentry]; rfl, htype⟩

end Registry

namespace Build

theorem checkUnused_on (config : Config) (id : Json) (registry : Registry)
    (hkey : id.isKey = true) (hunused : registry.find? id = none) :
    (checkUnused config id).on registry = (.ok (), registry) := by
  unfold checkUnused
  rw [on_bind, find?_on, if_pos hkey, hunused]
  rfl

theorem buildSchema_on {setting : Setting} {document : Json} {source : Source}
    (hsource : Source.ofJson document = .ok source) (registry : Registry) :
    (buildSchema setting source.id document).on registry =
      (buildType setting source.position source.shape).on registry := by
  obtain ⟨id, hid, h⟩ := bind_ok hsource
  obtain ⟨shape, hshape, h⟩ := bind_ok h
  obtain ⟨position, hposition, h⟩ := bind_ok h
  cases h
  unfold buildSchema
  simp only [on_bind, lift_on, hshape, hposition]

/-- Building and entering the type of a document, once it was checked. -/
theorem enterSource_on (config : Config) (customize? : Option Customizer) {document : Json}
    {source : Source} (hsource : Source.ofJson document = .ok source)
    (hkey : source.id.isKey = true) (registry : Registry)
    (hunused : registry.find? source.id = none) :
    (do
      checkUnused config source.id
      let type ← buildSchema (config.setting customize?) source.id document
      enter source.id type
      record (.compiled source.id)).on registry =
        match (buildType (config.setting customize?) source.position source.shape).on registry with
        | (.ok type, after) => (.ok (),
          { after with
            entries := registry.entries ++ [(source.id, type)]
            journal := after.journal ++ [.compiled source.id] })
        | (.error fault, after) => (.error fault, after) := by
  simp only [on_bind, checkUnused_on config source.id registry hkey hunused,
    buildSchema_on hsource]
  have hentries := buildType_entries (config.setting customize?) source.position source.shape
    registry
  rcases hbuild : (buildType (config.setting customize?) source.position source.shape).on
    registry with ⟨fault | type, after⟩
  · rfl
  · rw [hbuild] at hentries
    have happend := Registry.setEntry_eq_append type (Registry.find?_eq_none_iff.1 hunused)
    rw [← show after.entries = registry.entries from hentries] at happend ⊢
    simp only [enter_on source.id type after hkey, record_on, happend]

/-- Compiling a document under a new identifier that the meta-schema lets pass. -/
theorem compile_on {config : Config} {document : Json} {source : Source}
    {problem? : Option String} {registry : Registry} (customize? : Option Customizer)
    (hsource : Source.ofJson document = .ok source) (hkey : source.id.isKey = true)
    (hcheck : checkDocument config.checkMode source.id document = .ok problem?)
    (hunused : registry.find? source.id = none) : ∃ journal,
      (compile config customize? document).on registry =
        match (buildType (config.setting customize?) source.position source.shape).on
          { registry with journal } with
        | (.ok type, after) => (.ok (),
          { after with
            entries := registry.entries ++ [(source.id, type)]
            journal := after.journal ++ [.compiled source.id] })
        | (.error fault, after) => (.error fault, after) := by
  have hid : identifierOf document = .ok source.id := Source.identifierOf_eq hsource
  have hrest := enterSource_on config customize? hsource hkey
  unfold compile
  cases problem? with
  | none =>
    refine ⟨registry.journal, ?_⟩
    rw [on_bind, lift_on, hid, ← hrest registry hunused]
    simp only [on_bind, lift_on, hcheck]
  | some problem =>
    let noted : Registry := { registry with
      journal := registry.journal ++ [.invalidDocument source.id problem] }
    refine ⟨noted.journal, ?_⟩
    rw [on_bind, lift_on, hid, ← hrest noted hunused]
    simp only [on_bind, lift_on, hcheck, record_on, noted]

/-- A document is the source, and nothing is wrong with it but perhaps its shape. -/
structure Passes (config : Config) (document : Json) (source : Source) : Prop where
  source_eq : Source.ofJson document = .ok source
  isKey : source.id.isKey = true
  check : ∃ problem?, checkDocument config.checkMode source.id document = .ok problem?

/-- What a document that was compiled under a new identifier left behind: its type was built
from its source and entered behind all others. -/
structure Compiles (config : Config) (customize? : Option Customizer) (document : Json)
    (source : Source) (before after : Registry) : Prop extends Passes config document source where
  unused : before.find? source.id = none
  enters : ∃ journal type middle,
    (buildType (config.setting customize?) source.position source.shape).on
      { before with journal } = (.ok type, middle) ∧
    after = { middle with
      entries := before.entries ++ [(source.id, type)]
      journal := middle.journal ++ [.compiled source.id] }

theorem Compiles.ids_eq {config : Config} {customize? : Option Customizer} {document : Json}
    {source : Source} {before after : Registry}
    (h : Compiles config customize? document source before after) :
    after.ids = before.ids ++ [source.id] := by
  obtain ⟨journal, type, middle, -, rfl⟩ := h.enters
  exact List.map_append

/-- Compiling a document queues the plans of its source, and builds no fields. -/
theorem Compiles.adds {config : Config} {customize? : Option Customizer} {document : Json}
    {source : Source} {before after : Registry}
    (h : Compiles config customize? document source before after) : ∃ added,
    after.pending = before.pending ++ added ∧ after.plans = before.plans ++ added ∧
      after.built = before.built ∧
      ∀ plan ∈ added,
        Shape.Defers (config.setting customize?) source.position source.shape plan := by
  obtain ⟨journal, type, middle, hbuild, rfl⟩ := h.enters
  obtain ⟨added, hextends, hadded⟩ := (buildType_adds (config.setting customize?)
    source.position source.shape).adds { before with journal }
  rw [hbuild] at hextends
  exact ⟨added, hextends.pending, hextends.plans, hextends.built, hadded⟩

/-- A document compiles under a new identifier just if its source does. -/
theorem Compiles.of_buildType {config : Config} {customize? : Option Customizer}
    {document : Json} {source : Source} {before : Registry}
    (hpasses : Passes config document source) (hunused : before.find? source.id = none)
    (hbuild : ∀ journal, ∃ type middle,
      (buildType (config.setting customize?) source.position source.shape).on
        { before with journal } = (.ok type, middle)) :
    ∃ after, (compile config customize? document).on before = (.ok (), after) ∧
      Compiles config customize? document source before after := by
  obtain ⟨problem?, hcheck⟩ := hpasses.check
  obtain ⟨journal, hrun⟩ :=
    compile_on customize? hpasses.source_eq hpasses.isKey hcheck hunused
  obtain ⟨type, middle, htype⟩ := hbuild journal
  rw [htype] at hrun
  exact ⟨_, hrun, hpasses, hunused, journal, type, middle, htype, rfl⟩

theorem checkUnused_ok {config : Config} {id : Json} {registry after : Registry}
    (h : (checkUnused config id).on registry = (.ok (), after)) :
    id.isKey = true ∧ (registry.find? id = none ∨ config.allowDuplicates.truthy = true) := by
  obtain ⟨found, middle, hfind, h⟩ := on_bind_ok h
  rw [find?_on] at hfind
  by_cases hkey : id.isKey = true
  · rw [if_pos hkey] at hfind
    cases hfind
    refine ⟨hkey, ?_⟩
    cases hfound : registry.find? id with
    | none => exact .inl rfl
    | some type =>
      rw [hfound] at h
      by_cases hallow : config.allowDuplicates.truthy = true
      · exact .inr hallow
      · rw [if_neg hallow] at h
        cases h
  · rw [if_neg hkey] at hfind
    cases hfind

theorem buildSchema_ok {setting : Setting} {id document : Json} {registry after : Registry}
    {type : GraphType} (hid : identifierOf document = .ok id)
    (h : (buildSchema setting id document).on registry = (.ok type, after)) :
    ∃ source, Source.ofJson document = .ok source ∧ source.id = id := by
  obtain ⟨shape, middle, hshape, h⟩ := on_bind_ok h
  obtain ⟨position, middle', hposition, -⟩ := on_bind_ok h
  refine ⟨⟨id, position, shape⟩, ?_, rfl⟩
  unfold Source.ofJson
  simp only [hid, (lift_ok hshape).1, (lift_ok hposition).1, bind, Except.bind]
  rfl

/-- The steps that a compilation that succeeded went through before it built anything. -/
theorem compile_steps {config : Config} {customize? : Option Customizer} {document : Json}
    {before after : Registry}
    (h : (compile config customize? document).on before = (.ok (), after)) :
    ∃ source, Passes config document source ∧
      (before.find? source.id = none ∨ config.allowDuplicates.truthy = true) := by
  obtain ⟨id, middle, hread, hchecked⟩ := on_bind_ok h
  obtain ⟨hid, rfl⟩ := lift_ok hread
  obtain ⟨problem?, middle', hread', hrest⟩ := on_bind_ok hchecked
  obtain ⟨hcheck, rfl⟩ := lift_ok hread'
  -- Noting a problem changes the journal only.
  obtain ⟨noted, hentries, hnoted⟩ : ∃ noted : Registry, noted.entries = middle'.entries ∧
      (do
        checkUnused config id
        let type ← buildSchema (config.setting customize?) id document
        enter id type
        record (.compiled id)).on noted = (.ok (), after) := by
    cases problem? with
    | none => exact ⟨middle', rfl, hrest⟩
    | some problem =>
      obtain ⟨_, noted, hrecord, hnoted⟩ := on_bind_ok hrest
      cases hrecord
      refine ⟨_, ?_, hnoted⟩
      rfl
  obtain ⟨_, unused, hunused, hbuilds⟩ := on_bind_ok hnoted
  obtain ⟨hkey, hunused⟩ := checkUnused_ok hunused
  obtain ⟨type, last, hbuild, -⟩ := on_bind_ok hbuilds
  obtain ⟨source, hsource, rfl⟩ := buildSchema_ok hid hbuild
  refine ⟨source, ⟨hsource, hkey, problem?, hcheck⟩, ?_⟩
  rwa [Registry.find?, hentries] at hunused

/-- A document compiles under a new identifier only if its source does. -/
theorem Compiles.of_compile {config : Config} {customize? : Option Customizer}
    {document : Json} {before after : Registry}
    (h : (compile config customize? document).on before = (.ok (), after))
    (hnew : config.allowDuplicates.truthy = false ∨
      ∀ id, identifierOf document = .ok id → before.find? id = none) :
    ∃ source, Compiles config customize? document source before after := by
  obtain ⟨source, hpasses, hunused⟩ := compile_steps h
  obtain ⟨problem?, hcheck⟩ := hpasses.check
  have hunused : before.find? source.id = none := by
    rcases hnew with hnever | hnew
    · exact hunused.resolve_right (by simp [hnever])
    · exact hnew _ (Source.identifierOf_eq hpasses.source_eq)
  obtain ⟨journal, hrun⟩ :=
    compile_on customize? hpasses.source_eq hpasses.isKey hcheck hunused
  rw [h] at hrun
  rcases hbuild : (buildType (config.setting customize?) source.position source.shape).on
    { before with journal } with ⟨fault | type, middle⟩ <;> rw [hbuild] at hrun
  · cases hrun
  · cases hrun
    exact ⟨source, hpasses, hunused, journal, type, middle, hbuild, rfl⟩

end Build
end SchemaGraph
