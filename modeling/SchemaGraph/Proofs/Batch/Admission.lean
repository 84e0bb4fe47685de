import SchemaGraph.Proofs.Batch.Compiling
import SchemaGraph.Proofs.Graph.Draining

/-! Documents that are let in.

Before the type of a document is built, the document is read and checked
(`Config.accept`). That depends on the registry for nothing but the identifiers in use,
and leaves remarks in the journal at most. So compiling a document does one of three
things: it does not let the document in, it fails to build its type, or it builds the
type and enters it (`compile_run`). Entries change in the last case only
(`compile_error_entries`), while plans may be queued in the last two (`compile_adds`). -/
namespace SchemaGraph

/-- An event that says something about a document, and not that something was made. -/
def Event.isRemark : Event → Bool
  | invalidDocument _ _ => true
  | redeclared _ => true
  | _ => false

namespace Registry

/-- The registry with the type of a document that was compiled. -/
def entering (registry : Registry) (id : Json) (type : GraphType) : Registry :=
  { registry with
    entries := setEntry id type registry.entries
    journal := registry.journal ++ [.compiled id] }

end Registry

namespace Config

/-- Whether a document may go by `id`: by one that is not in use, unless that is allowed. -/
def checkId (config : Config) (registry : Registry) (id : Json) : Except Fault Unit := do
  let id ← Build.keyOf id
  if (registry.find? id).isSome && !config.allowDuplicates.truthy then
    .error (.duplicateIdentifier id)
  else .ok ()

/-- A document as it is compiled, if it is let in. -/
def accept (config : Config) (registry : Registry) (document : Json) : Except Fault Source := do
  let id ← identifierOf document
  let _ ← checkDocument config.checkMode id document
  let _ ← config.checkId registry id
  let shape ← Shape.ofJson "#" document
  let position ← positionOf id
  return { id, position, shape }

/-- Whether a document is let in depends on the identifiers in use only. -/
theorem accept_congr (config : Config) {first second : Registry}
    (h : ∀ id, (first.find? id).isSome = (second.find? id).isSome) (document : Json) :
    config.accept first document = config.accept second document := by
  unfold accept checkId
  simp only [h]

theorem checkId_ok {config : Config} {registry : Registry} {id : Json}
    (h : config.checkId registry id = .ok ()) :
    id.isKey = true ∧ (registry.find? id = none ∨ config.allowDuplicates.truthy = true) := by
  unfold checkId Build.keyOf at h
  by_cases hkey : id.isKey = true
  · refine ⟨hkey, ?_⟩
    rw [if_pos hkey] at h
    cases hfind : registry.find? id with
    | none => exact .inl rfl
    | some type =>
      cases hallow : config.allowDuplicates.truthy with
      | true => exact .inr rfl
      | false => simp [hfind, hallow, bind, Except.bind] at h
  · rw [if_neg hkey] at h
    cases h

theorem accept_ok {config : Config} {registry : Registry} {document : Json} {source : Source}
    (h : config.accept registry document = .ok source) :
    Build.Passes config document source ∧
      (registry.find? source.id = none ∨ config.allowDuplicates.truthy = true) := by
  obtain ⟨id, hid, h⟩ := bind_ok h
  obtain ⟨problem?, hcheck, h⟩ := bind_ok h
  obtain ⟨_, hunused, h⟩ := bind_ok h
  obtain ⟨shape, hshape, h⟩ := bind_ok h
  obtain ⟨position, hposition, h⟩ := bind_ok h
  cases h
  obtain ⟨hkey, hunused⟩ := checkId_ok hunused
  refine ⟨⟨?_, hkey, problem?, hcheck⟩, hunused⟩
  unfold Source.ofJson
  simp only [hid, hshape, hposition, bind, Except.bind]
  rfl

end Config

namespace Build

theorem checkUnused_run (config : Config) (id : Json) (registry : Registry) : ∃ events,
    (∀ event ∈ events, event.isRemark = true) ∧
      (checkUnused config id).on registry =
        (config.checkId registry id, registry.noting events) := by
  unfold checkUnused Config.checkId keyOf
  rw [on_bind, find?_on]
  by_cases hkey : id.isKey = true
  · rw [if_pos hkey, if_pos hkey]
    cases hfind : registry.find? id with
    | none => exact ⟨[], by simp, by simp [Registry.noting_nil, hfind, on_pure, bind, Except.bind]⟩
    | some type =>
      cases hallow : config.allowDuplicates.truthy with
      | true =>
        refine ⟨[.redeclared id], by simp [Event.isRemark], ?_⟩
        simp [hfind, record_on, Registry.noting, bind, Except.bind]
      | false =>
        exact ⟨[], by simp, by simp [Registry.noting_nil, hfind, on_throw, bind, Except.bind]⟩
  · rw [if_neg hkey, if_neg hkey]
    exact ⟨[], by simp, by rw [Registry.noting_nil]; rfl⟩

/-- What is done to a document once the meta-schema let it pass. -/
theorem enterDocument_run (config : Config) (customize? : Option Customizer) (id document : Json)
    (registry : Registry) : ∃ events, (∀ event ∈ events, event.isRemark = true) ∧
      (do
        checkUnused config id
        let type ← buildSchema (config.setting customize?) id document
        enter id type
        record (.compiled id)).on registry =
          match (do
            let _ ← config.checkId registry id
            let shape ← Shape.ofJson "#" document
            let position ← positionOf id
            return { id, position, shape } : Except Fault Source) with
          | .error fault => (.error fault, registry.noting events)
          | .ok source =>
            match (buildType (config.setting customize?) source.position source.shape).on
                (registry.noting events) with
            | (.ok type, after) => (.ok (), after.entering source.id type)
            | (.error fault, after) => (.error fault, after) := by
  obtain ⟨events, hevents, hunused⟩ := checkUnused_run config id registry
  refine ⟨events, hevents, ?_⟩
  rw [on_bind, hunused]
  cases hcheck : config.checkId registry id with
  | error fault => rfl
  | ok _ =>
    unfold buildSchema
    simp only [on_bind, lift_on]
    cases Shape.ofJson "#" document with
    | error fault => rfl
    | ok shape =>
      cases positionOf id with
      | error fault => rfl
      | ok position =>
        simp only [bind, Except.bind, pure, Except.pure]
        rcases (buildType (config.setting customize?) position shape).on (registry.noting events)
          with ⟨fault | type, after⟩
        · rfl
        · simp only [enter_on id type after (Config.checkId_ok hcheck).1, record_on,
            Registry.entering]

/-- **Compiling a document** is letting it in, building its type and entering that. -/
theorem compile_run (config : Config) (customize? : Option Customizer) (document : Json)
    (registry : Registry) : ∃ events, (∀ event ∈ events, event.isRemark = true) ∧
      (compile config customize? document).on registry =
        match config.accept registry document with
        | .error fault => (.error fault, registry.noting events)
        | .ok source =>
          match (buildType (config.setting customize?) source.position source.shape).on
              (registry.noting events) with
          | (.ok type, after) => (.ok (), after.entering source.id type)
          | (.error fault, after) => (.error fault, after) := by
  unfold compile Config.accept
  rw [on_bind, lift_on]
  cases identifierOf document with
  | error fault => exact ⟨[], by simp, by rw [Registry.noting_nil]; rfl⟩
  | ok id =>
    simp only [on_bind, lift_on, ok_bind]
    cases checkDocument config.checkMode id document with
    | error fault => exact ⟨[], by simp, by rw [Registry.noting_nil]; rfl⟩
    | ok problem? =>
      cases problem? with
      | none => exact enterDocument_run config customize? id document registry
      | some problem =>
        obtain ⟨events, hevents, hrun⟩ := enterDocument_run config customize? id document
          (registry.noting [.invalidDocument id problem])
        rw [Registry.noting_append] at hrun
        exact ⟨.invalidDocument id problem :: events,
          List.forall_mem_cons.2 ⟨rfl, hevents⟩, hrun⟩

/-! ### What compiling leaves behind -/

/-- Compiling a document queues plans that its shape defers, if it was let in, and builds no
fields. -/
theorem compile_adds (config : Config) (customize? : Option Customizer) (document : Json)
    (registry : Registry) : ∃ added,
      ((compile config customize? document).on registry).2.pending = registry.pending ++ added ∧
      ((compile config customize? document).on registry).2.plans = registry.plans ++ added ∧
      ((compile config customize? document).on registry).2.built = registry.built ∧
      ∀ plan ∈ added, ∃ source, config.accept registry document = .ok source ∧
        Shape.Defers (config.setting customize?) source.position source.shape plan := by
  obtain ⟨events, -, hrun⟩ := compile_run config customize? document registry
  rw [hrun]
  cases config.accept registry document with
  | error fault => exact ⟨[], by simp⟩
  | ok source =>
    obtain ⟨added, hextends, hadded⟩ := (buildType_adds (config.setting customize?)
      source.position source.shape).adds (registry.noting events)
    refine ⟨added, ?_⟩
    simp only
    rcases hbuild : (buildType (config.setting customize?) source.position source.shape).on
      (registry.noting events) with ⟨fault | type, after⟩ <;> rw [hbuild] at hextends
    all_goals
      exact ⟨hextends.pending, hextends.plans, hextends.built, fun plan hplan =>
        ⟨source, rfl, hadded plan hplan⟩⟩

/-- A document that was not compiled leaves no entry. -/
theorem compile_error_entries {config : Config} {customize? : Option Customizer}
    {document : Json} {registry after : Registry} {fault : Fault}
    (h : (compile config customize? document).on registry = (.error fault, after)) :
    after.entries = registry.entries := by
  obtain ⟨events, -, hrun⟩ := compile_run config customize? document registry
  rw [h] at hrun
  cases haccept : config.accept registry document with
  | error fault =>
    rw [haccept] at hrun
    cases hrun
    rfl
  | ok source =>
    simp only [haccept] at hrun
    have hentries := buildType_entries (config.setting customize?) source.position source.shape
      (registry.noting events)
    rcases hbuild : (buildType (config.setting customize?) source.position source.shape).on
      (registry.noting events) with ⟨fault | type, middle⟩ <;> rw [hbuild] at hrun hentries
    · cases hrun
      exact hentries
    · cases hrun

/-- What remarks, building types and entering what was built preserve, compiling a document
preserves, whether it succeeds or not. -/
theorem compile_preserves {p : Registry → Prop} {customize? : Option Customizer} {config : Config}
    (hnoting : ∀ registry events, p registry → p (registry.noting events))
    (hbuild : ∀ position shape registry, p registry →
      p ((buildType (config.setting customize?) position shape).on registry).2)
    (henter : ∀ position shape registry after type id, id.isKey = true → p registry →
      (buildType (config.setting customize?) position shape).on registry = (.ok type, after) →
      p after → p (after.entering id type))
    (document : Json) {registry : Registry} (h : p registry) :
    p ((compile config customize? document).on registry).2 := by
  obtain ⟨events, -, hrun⟩ := compile_run config customize? document registry
  have hnoted := hnoting registry events h
  rw [hrun]
  cases haccept : config.accept registry document with
  | error fault => exact hnoted
  | ok source =>
    have hkey := (Config.accept_ok haccept).1.isKey
    have hafter := hbuild source.position source.shape _ hnoted
    simp only
    rcases hbuilt : (buildType (config.setting customize?) source.position source.shape).on
      (registry.noting events) with ⟨fault | type, after⟩ <;> rw [hbuilt] at hafter
    · exact hafter
    · exact henter source.position source.shape _ after type source.id hkey hnoted hbuilt hafter

/-- What work on every item preserves, working on one item after another preserves. -/
theorem forM_preserves {α : Type} {p : Registry → Prop} {work : α → Build Unit}
    (hwork : ∀ item registry, p registry → p ((work item).on registry).2) (items : List α)
    {registry : Registry} (h : p registry) : p ((items.forM work).on registry).2 := by
  induction items generalizing registry with
  | nil => exact h
  | cons item items ih =>
    have hitem := hwork item registry h
    rw [show (item :: items).forM work = work item >>= fun _ => items.forM work from rfl, on_bind]
    rcases hrun : (work item).on registry with ⟨fault | value, middle⟩ <;> rw [hrun] at hitem
    · exact hitem
    · exact ih hitem

end Build
end SchemaGraph
