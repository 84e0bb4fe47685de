import SchemaGraph.Proofs.Batch.Admission
import SchemaGraph.Proofs.Failure.Accident
import SchemaGraph.Proofs.Graph.Agreement

/-! What the check of documents can change.

Before a document is compiled it is checked against its meta-schema, and the mode of the
check says what comes of a problem. The check looks at the document alone and leaves nothing
but a remark. So compiling a document that is not refused by the check ends as it would
without it (`Build.compile_unchecked`), and a whole batch ends so, or with the fault by which
the check refuses one of its documents (`Build.compileAll_unchecked`).

In the strict mode that fault may be the problem that was found. Otherwise it is an accident:
the check came to no verdict. Accidents are not caught in the lenient mode either
(`Build.compileAll_warn_breaks`); apart from them that mode changes nothing
(`Build.compileAll_modes`). -/
namespace SchemaGraph

/-! ### Registries without their journals -/

namespace Registry

variable {first second : Registry}

def unlogged (registry : Registry) : Registry := { registry with journal := [] }

theorem entries_of_unlogged (h : first.unlogged = second.unlogged) :
    first.entries = second.entries :=
  (congrArg entries h :)

theorem find?_of_unlogged (h : first.unlogged = second.unlogged) (id : Json) :
    first.find? id = second.find? id :=
  (congrArg (find? · id) h :)

theorem entering_of_unlogged (h : first.unlogged = second.unlogged) (id : Json)
    (type : GraphType) : (first.entering id type).unlogged = (second.entering id type).unlogged :=
  (congrArg (fun registry => (registry.entering id type).unlogged) h :)

theorem agreesOn_of_unlogged (h : first.unlogged = second.unlogged) :
    first.AgreesOn Build.anyTarget second where
  pending := (congrArg pending h :)
  plans := (congrArg plans h :)
  built := (congrArg built h :)
  nextKey := (congrArg nextKey h :)
  find? target _ := find?_of_unlogged h target

theorem AgreesOn.unlogged_eq (h : first.AgreesOn Build.anyTarget second)
    (hentries : first.entries = second.entries) : first.unlogged = second.unlogged := by
  obtain ⟨hpending, hplans, hbuilt, hnextKey, -⟩ := h
  cases first
  cases second
  subst hentries hpending hplans hbuilt hnextKey
  rfl

end Registry

namespace Build

/-- Two runs have the same outcome, and leave registries that differ in their journals at most. -/
def EndsAlike {α : Type} (first second : Except Fault α × Registry) : Prop :=
  first.1 = second.1 ∧ first.2.unlogged = second.2.unlogged

theorem EndsAlike.exists_result {α : Type} {first second : Except Fault α × Registry}
    (h : EndsAlike first second) : ∃ result after after',
      first = (result, after) ∧ second = (result, after') ∧ after.unlogged = after'.unlogged :=
  ⟨first.1, first.2, second.2, rfl, Prod.ext h.1.symm rfl, h.2⟩

theorem EndsAlike.bind {α β : Type} {work work' : Build α} {next next' : α → Build β}
    {first second : Registry} (h : EndsAlike (work.on first) (work'.on second))
    (hnext : ∀ value after after', after.unlogged = after'.unlogged →
      EndsAlike ((next value).on after) ((next' value).on after')) :
    EndsAlike ((work >>= next).on first) ((work' >>= next').on second) := by
  obtain ⟨result, after, after', hrun, hrun', hafter⟩ := h.exists_result
  rw [on_bind, on_bind, hrun, hrun']
  cases result with
  | error fault => exact ⟨rfl, hafter⟩
  | ok value => exact hnext value after after' hafter

theorem on_bind_fst_error {α β : Type} {work : Build α} {next : α → Build β} {registry : Registry}
    {fault : Fault} (h : (work.on registry).1 = .error fault) :
    ((work >>= next).on registry).1 = .error fault := by
  rw [on_bind]
  rcases hrun : work.on registry with ⟨found | value, after⟩ <;> rw [hrun] at h <;> cases h
  rfl

/-- Building a type looks at everything but the journal. -/
theorem buildType_unlogged (setting : Setting) (position : String) (shape : Shape)
    {first second : Registry} (h : first.unlogged = second.unlogged) :
    EndsAlike ((buildType setting position shape).on first)
      ((buildType setting position shape).on second) := by
  have hheeds : Heeds anyTarget (buildType setting position shape) :=
    buildType_heeds setting position shape fun _ _ => trivial
  obtain ⟨hresult, hagrees⟩ := hheeds.runs first second (Registry.agreesOn_of_unlogged h)
  refine ⟨hresult, hagrees.unlogged_eq ?_⟩
  rw [buildType_entries, buildType_entries]
  exact Registry.entries_of_unlogged h

/-- Draining the queue looks at everything but the journal. -/
theorem resolvePending_unlogged {first second : Registry} (h : first.unlogged = second.unlogged) :
    EndsAlike (resolvePending.on first) (resolvePending.on second) := by
  obtain ⟨hresult, hagrees⟩ := (Registry.agreesOn_of_unlogged h).drain 0
  refine ⟨hresult, hagrees.unlogged_eq ?_⟩
  show (drain 0 first).2.entries = (drain 0 second).2.entries
  rw [drain_entries, drain_entries]
  exact Registry.entries_of_unlogged h

end Build

/-! ### Documents that the check refuses -/

namespace Config

/-- The configuration under which documents are not checked. -/
def unchecked (config : Config) : Config := { config with checkMode := .off }

/-- The check ends the compilation of the document. -/
def Refuses (config : Config) (document : Json) (fault : Fault) : Prop :=
  ∃ id, identifierOf document = .ok id ∧ checkDocument config.checkMode id document = .error fault

variable {config : Config} {document : Json}

theorem accept_of_refuses {fault : Fault} (h : config.Refuses document fault)
    (registry : Registry) : config.accept registry document = .error fault := by
  obtain ⟨id, hid, hcheck⟩ := h
  unfold accept
  rw [hid, ok_bind, hcheck]
  rfl

/-- Apart from documents that it refuses, the check has no say in what is let in. -/
theorem accept_unchecked (h : ∀ fault, ¬ config.Refuses document fault) {first second : Registry}
    (hfind : ∀ id, (first.find? id).isSome = (second.find? id).isSome) :
    config.accept first document = config.unchecked.accept second document := by
  rw [accept_congr config hfind]
  unfold accept
  cases hid : identifierOf document with
  | error fault => rfl
  | ok id =>
    rw [ok_bind, ok_bind]
    cases hcheck : checkDocument config.checkMode id document with
    | error fault => exact absurd ⟨id, hid, hcheck⟩ (h fault)
    | ok problem? => rfl

end Config

namespace Build

variable {config : Config}

theorem compile_refused {document : Json} {fault : Fault} (h : config.Refuses document fault)
    (customize? : Option Customizer) (registry : Registry) :
    ((compile config customize? document).on registry).1 = .error fault := by
  obtain ⟨events, -, hrun⟩ := compile_run config customize? document registry
  rw [hrun, Config.accept_of_refuses h registry]

/-- **Compiling a document** that the check does not refuse ends as it would without it. -/
theorem compile_unchecked {document : Json} (h : ∀ fault, ¬ config.Refuses document fault)
    (customize? : Option Customizer) {first second : Registry}
    (hsame : first.unlogged = second.unlogged) :
    EndsAlike ((compile config customize? document).on first)
      ((compile config.unchecked customize? document).on second) := by
  obtain ⟨events, -, hrun⟩ := compile_run config customize? document first
  obtain ⟨events', -, hrun'⟩ := compile_run config.unchecked customize? document second
  have haccept : config.accept first document = config.unchecked.accept second document :=
    Config.accept_unchecked h fun id =>
      congrArg Option.isSome (Registry.find?_of_unlogged hsame id)
  rw [hrun, hrun', haccept]
  cases config.unchecked.accept second document with
  | error fault => exact ⟨rfl, hsame⟩
  | ok source =>
    have hnoted : (first.noting events).unlogged = (second.noting events').unlogged := hsame
    obtain ⟨result, after, after', hbuild, hbuild', hafter⟩ := (buildType_unlogged
      (config.setting customize?) source.position source.shape hnoted).exists_result
    dsimp only
    rw [show config.unchecked.setting customize? = config.setting customize? from rfl, hbuild,
      hbuild']
    cases result with
    | error fault => exact ⟨rfl, hafter⟩
    | ok type => exact ⟨rfl, Registry.entering_of_unlogged hafter source.id type⟩

/-! ### Batches -/

/-- In a batch that compiles, the check lets every document pass. -/
theorem passes_of_forM_ok {customize? : Option Customizer} {documents : List Json}
    {registry after : Registry}
    (h : (documents.forM (compile config customize?)).on registry = (.ok (), after)) :
    ∀ document ∈ documents, ∃ source, Passes config document source := by
  induction documents generalizing registry with
  | nil => exact fun _ hdocument => nomatch hdocument
  | cons document rest ih =>
    obtain ⟨_, middle, hfirst, hrest⟩ := on_bind_ok h
    obtain ⟨source, hpasses, -⟩ := compile_steps hfirst
    exact List.forall_mem_cons.2 ⟨⟨source, hpasses⟩, ih hrest⟩

theorem compile_forM_unchecked (config : Config) (customize? : Option Customizer)
    (documents : List Json) {first second : Registry} (hsame : first.unlogged = second.unlogged) :
    EndsAlike ((documents.forM (compile config customize?)).on first)
        ((documents.forM (compile config.unchecked customize?)).on second) ∨
      ∃ document ∈ documents, ∃ fault, config.Refuses document fault ∧
        ((documents.forM (compile config customize?)).on first).1 = .error fault := by
  induction documents generalizing first second with
  | nil => exact .inl ⟨rfl, hsame⟩
  | cons document rest ih =>
    simp only [show ∀ config, (document :: rest).forM (compile config customize?) =
      compile config customize? document >>= fun _ => rest.forM (compile config customize?)
      from fun _ => rfl]
    by_cases hrefuses : ∃ fault, config.Refuses document fault
    · obtain ⟨fault, hrefuses⟩ := hrefuses
      refine .inr ⟨document, List.mem_cons_self, fault, hrefuses, ?_⟩
      exact on_bind_fst_error (compile_refused hrefuses customize? first)
    · obtain ⟨result, after, after', hrun, hrun', hafter⟩ :=
        (compile_unchecked (not_exists.1 hrefuses) customize? hsame).exists_result
      rw [on_bind, on_bind, hrun, hrun']
      cases result with
      | error fault => exact .inl ⟨rfl, hafter⟩
      | ok _ =>
        refine (ih hafter).imp_right fun ⟨other, hother, h⟩ => ?_
        exact ⟨other, List.mem_cons_of_mem _ hother, h⟩

/-- **A batch** ends as it would without the check, or with the fault by which the check refuses
one of its documents. -/
theorem compileAll_unchecked (config : Config) (customize? : Option Customizer)
    (documents : List Json) (registry : Registry) :
    EndsAlike ((compileAll config customize? documents).on registry)
        ((compileAll config.unchecked customize? documents).on registry) ∨
      ∃ document ∈ documents, ∃ fault, config.Refuses document fault ∧
        ((compileAll config customize? documents).on registry).1 = .error fault := by
  have hsame : registry.unlogged = registry.unlogged := rfl
  rcases compile_forM_unchecked config customize? documents hsame with
    halike | ⟨document, hdocument, fault, hrefuses, hfails⟩
  · exact .inl (halike.bind fun _ _ _ => resolvePending_unlogged)
  · exact .inr ⟨document, hdocument, fault, hrefuses, on_bind_fst_error hfails⟩

/-! ### The three modes -/

/-- The batch ended by the fault with which the check of one of its documents broke off. -/
def EndsByAccident (documents : List Json) (result : Except Fault Unit) : Prop :=
  ∃ document ∈ documents, ∃ fault, MetaSchema.Accident document fault ∧
    MetaSchema.problem? document = .error fault ∧ result = .error fault

/-- The batch ended by a problem that the check found with one of its documents. -/
def EndsByProblem (documents : List Json) (result : Except Fault Unit) : Prop :=
  ∃ document ∈ documents, ∃ problem id, MetaSchema.problem? document = .ok (some problem) ∧
    identifierOf document = .ok id ∧ result = .error (.invalidDocument problem id)

theorem EndsByAccident.intro {documents : List Json} {document id : Json} {fault : Fault}
    {result : Except Fault Unit} (hdocument : document ∈ documents)
    (hid : identifierOf document = .ok id) (h : MetaSchema.problem? document = .error fault)
    (hresult : result = .error fault) : EndsByAccident documents result := by
  -- Only objects have identifiers.
  cases document with
  | obj members => exact ⟨_, hdocument, fault, MetaSchema.problem?_error h, h, hresult⟩
  | _ => cases hid

/-- In the strict mode a document passes just if nothing is wrong with it. -/
theorem checkDocument_error_ok {id document : Json} {problem? : Option String}
    (h : checkDocument .error id document = .ok problem?) :
    MetaSchema.problem? document = .ok none := by
  obtain ⟨found, hfound, h⟩ := bind_ok h
  cases found with
  | none => exact hfound
  | some problem => cases h

/-- A batch that compiles would do so without the check. -/
theorem ok_unchecked {customize? : Option Customizer} {documents : List Json}
    {registry : Registry}
    (h : ((compileAll config customize? documents).on registry).1 = .ok ()) :
    ((compileAll config.unchecked customize? documents).on registry).1 = .ok () ∧
      ∀ document ∈ documents, ∃ source, Passes config document source := by
  obtain ⟨_, middle, hforM, -⟩ := on_bind_ok (Prod.ext h rfl :
    (compileAll config customize? documents).on registry = (.ok (), _))
  refine ⟨?_, passes_of_forM_ok hforM⟩
  rcases compileAll_unchecked config customize? documents registry with
    halike | ⟨document, -, fault, -, hfails⟩
  · exact halike.1.symm.trans h
  · cases hfails.symm.trans h

/-- **The check is advice** but for the strict mode and for accidents. The lenient mode changes
nothing, unless the check of a document breaks off; the strict mode changes nothing, unless that
happens or a problem is found with a document. -/
theorem compileAll_modes (config : Config) (customize? : Option Customizer)
    (documents : List Json) (registry : Registry) :
    let run mode := (compileAll { config with checkMode := mode } customize? documents).on registry
    (EndsAlike (run .warn) (run .off) ∨ EndsByAccident documents (run .warn).1) ∧
    (EndsAlike (run .error) (run .off) ∨ EndsByProblem documents (run .error).1 ∨
      EndsByAccident documents (run .error).1) ∧
    ((run .warn).1 = .ok () ↔ (run .off).1 = .ok () ∧
      ∀ document ∈ documents, ∃ problem?, MetaSchema.problem? document = .ok problem?) ∧
    ((run .error).1 = .ok () ↔ (run .off).1 = .ok () ∧
      ∀ document ∈ documents, MetaSchema.problem? document = .ok none) := by
  intro run
  have hwarn := compileAll_unchecked { config with checkMode := .warn } customize? documents
    registry
  have herror := compileAll_unchecked { config with checkMode := .error } customize? documents
    registry
  refine ⟨?warn, ?strict, ⟨fun h => ?warnOk, fun ⟨hoff, hpass⟩ => ?okWarn⟩,
    ⟨fun h => ?strictOk, fun ⟨hoff, hpass⟩ => ?okStrict⟩⟩
  case warn =>
    refine hwarn.imp_right fun ⟨document, hdocument, fault, ⟨id, hid, hcheck⟩, hfails⟩ => ?_
    exact .intro hdocument hid hcheck hfails
  case strict =>
    refine herror.imp_right fun ⟨document, hdocument, fault, ⟨id, hid, hcheck⟩, hfails⟩ => ?_
    rcases bind_error hcheck with hbreaks | ⟨problem?, hproblem, hthrow⟩
    · exact .inr (.intro hdocument hid hbreaks hfails)
    · cases problem? with
      | none => cases hthrow
      | some problem =>
        cases hthrow
        exact .inl ⟨document, hdocument, problem, id, hproblem, hid, hfails⟩
  case warnOk =>
    obtain ⟨hoff, hpasses⟩ := ok_unchecked h
    refine ⟨hoff, fun document hdocument => ?_⟩
    obtain ⟨source, hpasses⟩ := hpasses document hdocument
    exact hpasses.check
  case okWarn =>
    rcases hwarn with halike | ⟨document, hdocument, fault, ⟨id, -, hcheck⟩, -⟩
    · exact halike.1.trans hoff
    · obtain ⟨problem?, hok⟩ := hpass document hdocument
      cases hok.symm.trans hcheck
  case strictOk =>
    obtain ⟨hoff, hpasses⟩ := ok_unchecked h
    refine ⟨hoff, fun document hdocument => ?_⟩
    obtain ⟨source, hpasses⟩ := hpasses document hdocument
    obtain ⟨problem?, hcheck⟩ := hpasses.check
    exact checkDocument_error_ok hcheck
  case okStrict =>
    rcases herror with halike | ⟨document, hdocument, fault, ⟨id, -, hcheck⟩, -⟩
    · exact halike.1.trans hoff
    · unfold checkDocument at hcheck
      rw [hpass document hdocument] at hcheck
      cases hcheck

/-- A document whose meta-schema is named by a number. -/
def misaddressedDocument : Json :=
  .obj [("$id", .str "A"), ("$schema", .int 5), ("type", .str "string")]

/-- Without the check the document is compiled. In the lenient mode the check breaks off just as
in the strict one, where it does not report a problem either. -/
theorem compileAll_warn_breaks :
    (∃ members, misaddressedDocument = .obj members) ∧
    ((compileAll { checkMode := .off } none [misaddressedDocument]).on .empty).1 = .ok () ∧
    ((compileAll { checkMode := .warn } none [misaddressedDocument]).on .empty).1 =
      .error (.wrongKind .object) ∧
    ((compileAll { checkMode := .error } none [misaddressedDocument]).on .empty).1 =
      .error (.wrongKind .object) := by
  refine ⟨⟨_, rfl⟩, ?_, rfl, rfl⟩
  exact congrArg Prod.fst (on_eq_of_isOk (by decide +kernel))

end Build
end SchemaGraph
