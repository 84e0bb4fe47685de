import Mathlib.Data.List.Infix
import SchemaGraph.Proofs.Batch.Session

/-! Entries are only added, and only at the end.

Whatever is done to a registry, what it holds under an identifier is settled once it is
there, as long as no document may take the place of another. Calls that fail make no
difference to that, and neither do fields that are built late (`Act`).

A batch enters its documents one by one (`Build.Enters`). It stops at the first one that
cannot be compiled, and the documents before that one stay entered; if all are compiled,
all stay entered, whether their fields can be built or not (`entries_appended`). -/
namespace SchemaGraph

namespace Call

/-- The call lets no document take the place of another. -/
def KeepsApart : Call → Prop
  | add config _ _ => config.allowDuplicates.truthy = false
  | reduce config _ _ => config.allowDuplicates.truthy = false
  | _ => True

end Call

/-- What can be done to a registry: a call, or the fields of a single object built or read. -/
inductive Act where
  | call (call : Call)
  | force (plan : FieldPlan)
  | read (info : TypeInfo) (plan : FieldPlan)

namespace Act

def KeepsApart : Act → Prop
  | .call request => request.KeepsApart
  | _ => True

/-- The registry after an act, whether it failed or not. -/
def after (registry : Registry) : Act → Registry
  | .call request => request.after registry
  | force plan => ((Build.fieldsOf plan).on registry).2
  | read info plan => ((Build.readFields info plan).on registry).2

/-- The registry after acts, whatever failed on the way. -/
def afterAll (registry : Registry) (acts : List Act) : Registry := acts.foldl after registry

end Act

/-! ### The documents of a batch -/

namespace Build

/-- Documents that were compiled one after the other, and the entries that they made. -/
inductive Enters (config : Config) (customize? : Option Customizer) :
    Registry → List Json → List (Json × GraphType) → Registry → Prop where
  | nil {registry} : Enters config customize? registry [] [] registry
  | cons {before middle after document documents source type entries}
      (h : Compiles config customize? document source before middle)
      (hmiddle : middle.entries = before.entries ++ [(source.id, type)])
      (hrest : Enters config customize? middle documents entries after) :
      Enters config customize? before (document :: documents) ((source.id, type) :: entries) after

variable {config : Config} {customize? : Option Customizer}

theorem Enters.entries_eq {before after : Registry} {documents : List Json}
    {entries : List (Json × GraphType)}
    (h : Enters config customize? before documents entries after) :
    after.entries = before.entries ++ entries := by
  induction h with
  | nil => rw [List.append_nil]
  | cons _ hmiddle _ ih => rw [ih, hmiddle, List.append_assoc, List.singleton_append]

theorem Enters.length_eq {before after : Registry} {documents : List Json}
    {entries : List (Json × GraphType)}
    (h : Enters config customize? before documents entries after) :
    entries.length = documents.length := by
  induction h with
  | nil => rfl
  | cons _ _ _ ih => rw [List.length_cons, List.length_cons, ih]

/-- A document that was compiled made an entry behind all others. -/
theorem Compiles.exists_entry {document : Json} {source : Source} {before after : Registry}
    (h : Compiles config customize? document source before after) :
    ∃ type, after.entries = before.entries ++ [(source.id, type)] := by
  obtain ⟨journal, type, middle, -, rfl⟩ := h.enters
  exact ⟨type, rfl⟩

/-- Compiling documents in order goes through all of them, or up to the first one that is
refused. -/
theorem forM_enters (hapart : config.allowDuplicates.truthy = false)
    (customize? : Option Customizer) (documents : List Json) (registry : Registry) :
    ∃ done entries middle,
      Enters config customize? registry done entries middle ∧
      ((done = documents ∧
          (documents.forM (compile config customize?)).on registry = (.ok (), middle)) ∨
        ∃ document rest fault after, documents = done ++ document :: rest ∧
          (compile config customize? document).on middle = (.error fault, after) ∧
          (documents.forM (compile config customize?)).on registry = (.error fault, after)) := by
  induction documents generalizing registry with
  | nil => exact ⟨[], [], registry, .nil, .inl ⟨rfl, rfl⟩⟩
  | cons document documents ih =>
    rw [show (document :: documents).forM (compile config customize?) =
      compile config customize? document >>= fun _ => documents.forM (compile config customize?)
      from rfl, on_bind]
    rcases hrun : (compile config customize? document).on registry with ⟨fault | value, next⟩
    · exact ⟨[], [], registry, .nil, .inr ⟨document, documents, fault, next, rfl, hrun, rfl⟩⟩
    · obtain ⟨source, hcompiles⟩ := Compiles.of_compile hrun (.inl hapart)
      obtain ⟨type, hentry⟩ := hcompiles.exists_entry
      obtain ⟨done, entries, middle, henters, hends⟩ := ih next
      refine ⟨document :: done, (source.id, type) :: entries, middle,
        .cons hcompiles hentry henters, hends.imp ?_ ?_⟩
      · rintro ⟨rfl, hall⟩
        exact ⟨rfl, hall⟩
      · rintro ⟨other, rest, fault, after, rfl, hother, hall⟩
        exact ⟨other, rest, fault, after, rfl, hother, hall⟩

end Build

/-! ### Every act -/

namespace Call

/-- What a batch has entered when it ends: the documents before the one that it stopped at, or
all of them. -/
theorem reduce_enters {config : Config} (hapart : config.allowDuplicates.truthy = false)
    (customize? : Option Customizer) (documents : List Json) (registry : Registry) :
    let call := reduce config customize? documents
    ∃ done entries middle, Build.Enters config customize? registry done entries middle ∧
      (call.after registry).entries = registry.entries ++ entries ∧
      ((done = documents ∧ call.work.on registry = Build.drain 0 middle) ∨
        ∃ document rest fault, documents = done ++ document :: rest ∧
          call.outcome registry = .error fault ∧
          (Build.compile config customize? document).on middle =
            (.error fault, call.after registry)) := by
  intro call
  obtain ⟨done, entries, middle, henters, hends⟩ :=
    Build.forM_enters hapart customize? documents registry
  refine ⟨done, entries, middle, henters, ?_⟩
  rw [← henters.entries_eq, after, outcome, work, Build.compileAll, Build.on_bind]
  rcases hends with ⟨hdone, hall⟩ | ⟨document, rest, fault, after, hdocuments, hrun, hall⟩
  · rw [hall]
    exact ⟨Build.drain_entries 0 middle, .inl ⟨hdone, rfl⟩⟩
  · rw [hall]
    exact ⟨Build.compile_error_entries hrun, .inr ⟨document, rest, fault, hdocuments, rfl, hrun⟩⟩

theorem entries_after {call : Call} (h : call.KeepsApart) (registry : Registry) :
    registry.entries <+: (call.after registry).entries := by
  cases call with
  | build setting name schema =>
    obtain ⟨_, hadded⟩ := (Build.buildSchema_numbers setting name schema).adds registry
    rw [after_build, hadded.toExtends.entries]
  | add config customize? document =>
    show _ <+: ((Build.compile config customize? document).on registry).2.entries
    rcases hrun : (Build.compile config customize? document).on registry with ⟨fault | value, after⟩
    · rw [Build.compile_error_entries hrun]
    · obtain ⟨source, hcompiles⟩ := Build.Compiles.of_compile hrun (.inl h)
      obtain ⟨type, hentry⟩ := hcompiles.exists_entry
      exact ⟨_, hentry.symm⟩
  | reduce config customize? documents =>
    obtain ⟨_, _, _, -, hentries, -⟩ := reduce_enters h customize? documents registry
    exact ⟨_, hentries.symm⟩
  | resolve =>
    have hentries : (resolve.after registry).entries = registry.entries :=
      Build.drain_entries 0 registry
    rw [hentries]

end Call

namespace Act

theorem entries_after {act : Act} (h : act.KeepsApart) (registry : Registry) :
    registry.entries <+: (act.after registry).entries := by
  cases act with
  | call request => exact request.entries_after h registry
  | force plan =>
    rw [after, Build.fieldsOf_entries]
  | read info plan =>
    rw [after, Build.readFields_after]
    cases info.fields? with
    | some given => exact List.prefix_rfl
    | none => rw [Build.fieldsOf_entries]

theorem entries_afterAll {acts : List Act} (h : ∀ act ∈ acts, act.KeepsApart)
    (registry : Registry) : registry.entries <+: (afterAll registry acts).entries := by
  induction acts generalizing registry with
  | nil => exact List.prefix_rfl
  | cons act acts ih =>
    obtain ⟨hact, hacts⟩ := List.forall_mem_cons.1 h
    exact (entries_after hact registry).trans (ih hacts (act.after registry))

end Act

/-- **Entries are only added, at the end.** Of two moments of a run, all entries of the first one
stand in front of those of the second, as long as what is done in between lets no document take
the place of another. A batch that is done to any registry adds the entries of the documents
before the one that it stops at, or those of all documents if it comes to building fields. -/
theorem entries_appended {config : Config} (hapart : config.allowDuplicates.truthy = false)
    {first later : List Act} (hlater : ∀ act ∈ later, act.KeepsApart)
    (customize? : Option Customizer) (documents : List Json) (registry : Registry) :
    (Act.afterAll registry first).entries <+: (Act.afterAll registry (first ++ later)).entries ∧
    let call := Call.reduce config customize? documents
    ∃ done entries middle, Build.Enters config customize? registry done entries middle ∧
      (call.after registry).entries = registry.entries ++ entries ∧
      ((done = documents ∧ call.work.on registry = Build.drain 0 middle) ∨
        ∃ document rest fault, documents = done ++ document :: rest ∧
          call.outcome registry = .error fault ∧
          (Build.compile config customize? document).on middle =
            (.error fault, call.after registry)) := by
  refine ⟨?_, Call.reduce_enters hapart customize? documents registry⟩
  rw [Act.afterAll, Act.afterAll, List.foldl_append]
  exact Act.entries_afterAll hlater _

/-- An object that refers to a document that is not there, a document that is the same type, and
an array that says nothing of its items. -/
def brokenDocuments : List Json :=
  [.obj [("$id", .str "A"), ("type", .str "object"),
      ("properties", .obj [("z", .obj [("$ref", .str "Z")])])],
    .obj [("$id", .str "B"), ("$ref", .str "A")],
    .obj [("$id", .str "C"), ("type", .str "array")]]

/-- The batch stops at the array, with two entries made. They stay when the queue is drained, which
fails as well. -/
theorem entries_appended_broken :
    let config : Config := { checkMode := .off }
    let call := Call.reduce config none brokenDocuments
    let registry := call.after .empty
    config.allowDuplicates.truthy = false ∧ (call.outcome .empty).isOk = false ∧
    (Call.resolve.outcome registry).isOk = false ∧
    registry.entries <+: (Call.resolve.after registry).entries ∧
    ∃ middle, Build.Enters config none .empty (brokenDocuments.take 2) registry.entries middle := by
  intro config call registry
  have hapart : config.allowDuplicates.truthy = false := rfl
  have hlater : ∀ act ∈ [Act.call .resolve], act.KeepsApart := by
    simp [Act.KeepsApart, Call.KeepsApart]
  have hcount : registry.entries.length = 2 := by decide +kernel
  obtain ⟨hbefore, done, entries, middle, henters, hentries, hends⟩ :=
    @entries_appended config hapart [.call call] [.call .resolve] hlater none brokenDocuments .empty
  have hregistry : registry.entries = entries := hentries
  have hdone : done.length = 2 := by rw [← henters.length_eq, ← hregistry, hcount]
  refine ⟨hapart, by decide +kernel, by decide +kernel, hbefore, middle, ?_⟩
  obtain ⟨rest, hrest⟩ : ∃ rest, brokenDocuments = done ++ rest := by
    rcases hends with ⟨rfl, -⟩ | ⟨document, rest, -, hdocuments, -⟩
    · exact ⟨[], (List.append_nil _).symm⟩
    · exact ⟨_, hdocuments⟩
  rw [hregistry, hrest, List.take_left' hdone]
  exact henters

end SchemaGraph
