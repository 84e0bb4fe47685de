import SchemaGraph.Proofs.Batch.Sources
import SchemaGraph.Proofs.Graph.Admissible
import SchemaGraph.Proofs.Shape.Kinds

/-! Which batches are accepted.

A reference leads to a source if it is the same as the source's identifier (`Named`). A
batch compiles just if every document has an identifier of its own and a shape that is
admissible, where references below properties may lead to any document of the batch
and all others only to documents before their own. -/
namespace SchemaGraph

/-- Some source goes by the target. -/
def Named (sources : List Source) (target : Json) : Prop :=
  ∃ source ∈ sources, Json.same source.id target = true

theorem Named.mono {sources more : List Source} {target : Json} (h : Named sources target)
    (hsub : sources ⊆ more) : Named more target :=
  let ⟨source, hsource, hsame⟩ := h
  ⟨source, hsub hsource, hsame⟩

theorem Registry.has_iff {registry : Registry} {sources : List Source} {target : Json}
    (hids : registry.ids = sources.map Source.id)
    (hkeys : ∀ source ∈ sources, source.id.isKey = true) :
    registry.Has target ↔ Named sources target := by
  rw [Has, exists_find?_iff, hids]
  constructor
  · rintro ⟨-, id, hid, hsame⟩
    obtain ⟨source, hsource, rfl⟩ := List.mem_map.1 hid
    exact ⟨source, hsource, hsame⟩
  · rintro ⟨source, hsource, hsame⟩
    exact ⟨Json.isKey_of_same hsame (hkeys source hsource), source.id,
      List.mem_map_of_mem hsource, hsame⟩

/-- The sources can be compiled one after another, and all fields built at the end. -/
structure Setting.AdmitsAll (setting : Setting) (sources : List Source) : Prop where
  isKey : ∀ source ∈ sources, source.id.isKey = true
  distinct : sources.Pairwise fun a b => Json.same a.id b.id = false
  admits : ∀ before source rest, sources = before ++ source :: rest →
    setting.Admits (Named sources) (Named before) source.position source.shape

namespace Build

variable {config : Config} {customize? : Option Customizer}

/-- The sources of a batch that compiled are admissible. -/
theorem Compiled.admitsAll {documents : List Json} {sources : List Source} {ledger : Ledger}
    (h : Compiled config customize? documents sources ledger) :
    (config.setting customize?).AdmitsAll sources where
  isKey := h.holds.isKey
  distinct := h.holds.distinct
  admits before source rest hsources := by
    obtain ⟨earlier, hle, hids, type, hstands⟩ := h.holds.stood before source rest hsources
    have hkeys : ∀ other ∈ before, other.id.isKey = true := fun other hother =>
      h.holds.isKey other (hsources ▸ List.mem_append_left _ hother)
    refine (hstands.admits hle h.holds.sound h.isBuilt).imp (fun _ _ _ => id) id ?_ ?_
    · exact fun target => (Registry.has_iff h.holds.ids_eq h.holds.isKey).1
    · exact fun target => (Registry.has_iff hids hkeys).1

/-! ### Compiling what is admissible -/

/-- The next of the sources compiles in a registry of the ones before. -/
theorem Compiles.of_admitsAll {sources before rest : List Source} {source : Source}
    {document : Json} {registry : Registry}
    (h : (config.setting customize?).AdmitsAll sources)
    (hsources : sources = before ++ source :: rest) (hpasses : Passes config document source)
    (hids : registry.ids = before.map Source.id) :
    ∃ after, (compile config customize? document).on registry = (.ok (), after) ∧
      Compiles config customize? document source registry after := by
  have hmem : ∀ other ∈ before, other ∈ sources := fun other hother =>
    hsources ▸ List.mem_append_left _ hother
  refine Compiles.of_buildType hpasses ?_ fun journal => ?_
  · rw [Registry.find?_eq_none_iff]
    intro entry hentry
    have hid : entry.1 ∈ before.map Source.id := hids ▸ List.mem_map_of_mem hentry
    obtain ⟨other, hother, heq⟩ := List.mem_map.1 hid
    rw [← heq]
    have hdistinct := h.distinct
    rw [hsources] at hdistinct
    exact (List.pairwise_append.1 hdistinct).2.2 other hother source List.mem_cons_self
  · refine buildType_ok (h.admits before source rest hsources) fun target htarget => ?_
    have hids' : ({ registry with journal } : Registry).ids = before.map Source.id := hids
    exact (Registry.has_iff hids' fun other hother => h.isKey other (hmem other hother)).2 htarget

/-- The rest of the sources compile in a registry of the ones before. -/
theorem compile_forM_ok {sources before rest : List Source} {documents : List Json}
    {registry : Registry} (h : (config.setting customize?).AdmitsAll sources)
    (hsources : sources = before ++ rest)
    (hpasses : List.Forall₂ (Passes config) documents rest)
    (hids : registry.ids = before.map Source.id)
    (hpending : ∀ plan ∈ registry.pending, plan.Admits (Named sources)) :
    ∃ after, (documents.forM (compile config customize?)).on registry = (.ok (), after) ∧
      after.ids = sources.map Source.id ∧
      ∀ plan ∈ after.pending, plan.Admits (Named sources) := by
  induction hpasses generalizing before registry with
  | nil =>
    rw [List.append_nil] at hsources
    exact ⟨registry, rfl, hsources ▸ hids, hpending⟩
  | @cons document source documents rest hhead _ ih =>
    obtain ⟨middle, hrun, hcompiles⟩ := Compiles.of_admitsAll h hsources hhead hids
    obtain ⟨added, hpending', -, -, hadded⟩ := hcompiles.adds
    have hids' : middle.ids = (before ++ [source]).map Source.id := by
      rw [hcompiles.ids_eq, hids, List.map_append, List.map_singleton]
    have hmiddle : ∀ plan ∈ middle.pending, plan.Admits (Named sources) := by
      intro plan hplan
      rw [hpending'] at hplan
      rcases List.mem_append.1 hplan with hplan | hplan
      · exact hpending plan hplan
      · exact (hadded plan hplan).admits (h.admits before source rest hsources)
    obtain ⟨after, hrest, hafter⟩ := ih (hsources.trans (List.append_cons ..)) hids' hmiddle
    refine ⟨after, ?_, hafter⟩
    show (compile config customize? document >>= fun _ =>
      documents.forM (compile config customize?)).on registry = _
    rw [on_bind, hrun]
    exact hrest

/-- Sources that are admissible compile. -/
theorem compileAll_ok {sources : List Source} {documents : List Json}
    (h : (config.setting customize?).AdmitsAll sources)
    (hpasses : List.Forall₂ (Passes config) documents sources) :
    ∃ after, (compileAll config customize? documents).on .empty = (.ok (), after) := by
  have hids : Registry.empty.ids = ([] : List Source).map Source.id := rfl
  obtain ⟨middle, hrun, hids, hpending⟩ :=
    compile_forM_ok h rfl hpasses hids fun plan hplan => nomatch hplan
  obtain ⟨after, hdrain⟩ : ∃ after, drain 0 middle = (.ok (), after) :=
    drain_ok hpending fun target => (Registry.has_iff hids h.isKey).2
  refine ⟨after, ?_⟩
  rw [compileAll, on_bind, hrun]
  exact hdrain

end Build

/-! ### Batches of well-kinded documents -/

/-- An object whose identifier, if it has one, is a text, and whose keywords are of the right
kinds. -/
structure IsDocument (document : Json) : Prop where
  isObject : ∃ members, document = .obj members
  id : ∀ id, document.present? "$id" = some id → ∃ text, id = .str text
  isWellKinded : document.IsWellKinded

/-- Some document has the target for its identifier. -/
def NamedBy (documents : List Json) (target : Json) : Prop :=
  ∃ document ∈ documents, ∃ id, identifierOf document = .ok id ∧ Json.same id target = true

/-- Every document has an identifier of its own and is of an admissible shape: the references
below its properties lead to documents of the batch, the others to documents before it, and the
names of its types are free. -/
structure Acceptable (documents : List Json) : Prop where
  hasIds : ∀ document ∈ documents, ∃ id, identifierOf document = .ok id
  distinct : DistinctIds documents
  admissible : ∀ before document rest, documents = before ++ document :: rest →
    ∀ source, Source.ofJson document = .ok source →
      source.shape.Admissible (fun _ name _ => Name.IsFree name) True (NamedBy documents)
        (NamedBy before) source.position

theorem IsDocument.id_eq {document id : Json} (h : IsDocument document)
    (hid : identifierOf document = .ok id) : ∃ text, id = .str text := by
  obtain ⟨members, rfl⟩ := h.isObject
  unfold identifierOf at hid
  simp only at hid
  split at hid <;> cases hid
  exact h.id _ ‹_›

/-- A document with an identifier is a source, and no meta-schema has to be asked. -/
theorem IsDocument.passes {config : Config} {document id : Json} (h : IsDocument document)
    (hcheck : config.checkMode = .off) (hid : identifierOf document = .ok id) :
    ∃ source, Build.Passes config document source := by
  obtain ⟨text, rfl⟩ := h.id_eq hid
  obtain ⟨shape, hshape⟩ := h.isWellKinded.ofJson_ok "#"
  refine ⟨⟨.str text, text, shape⟩, ?_, rfl, none, ?_⟩
  · unfold Source.ofJson
    rw [hid, hshape]
    rfl
  · rw [hcheck]
    rfl

theorem namedBy_iff {documents : List Json} {sources : List Source} {target : Json}
    (h : List.Forall₂ (fun document source => Source.ofJson document = .ok source)
      documents sources) : NamedBy documents target ↔ Named sources target := by
  induction h with
  | nil => simp [NamedBy, Named]
  | @cons document source documents sources hhead _ ih =>
    have hid := Source.identifierOf_eq hhead
    unfold NamedBy Named at ih ⊢
    simp only [List.exists_mem_cons_iff, ih, hid, Except.ok.injEq, exists_eq_left']

theorem distinctIds_iff {documents : List Json} {sources : List Source}
    (h : List.Forall₂ (fun document source => Source.ofJson document = .ok source)
      documents sources) :
    DistinctIds documents ↔ sources.Pairwise fun a b => Json.same a.id b.id = false := by
  induction h with
  | nil => exact iff_of_true .nil .nil
  | @cons document source documents sources hhead hrest ih =>
    have hid := Source.identifierOf_eq hhead
    rw [DistinctIds] at ih ⊢
    rw [List.pairwise_cons, List.pairwise_cons, ih]
    refine and_congr_left fun _ => ⟨fun hdistinct other hother => ?_, ?_⟩
    · obtain ⟨document', hdocument', hsource'⟩ := forall₂_exists hrest.flip hother
      exact hdistinct document' hdocument' _ _ hid (Source.identifierOf_eq hsource')
    · intro hdistinct document' hdocument' i j hi hj
      obtain ⟨source', hsource', heq⟩ := forall₂_exists hrest hdocument'
      rw [hid] at hi
      rw [Source.identifierOf_eq heq] at hj
      cases hi
      cases hj
      exact hdistinct source' hsource'

namespace Build

/-- **Which batches compile.** If nothing is checked against meta-schemas and identifiers may not
be used twice, then the documents compile just if they are acceptable. -/
theorem compileAll_ok_iff {config : Config} {documents : List Json}
    (hdocuments : ∀ document ∈ documents, IsDocument document)
    (hcheck : config.checkMode = .off) (hallow : config.allowDuplicates.truthy = false)
    (hempty : config.emptyField.isKey = true) :
    (∃ registry, (compileAll config none documents).on .empty = (.ok (), registry)) ↔
      Acceptable documents := by
  constructor
  · rintro ⟨registry, hrun⟩
    obtain ⟨sources, ledger, -, hcompiled⟩ := compileAll_holds (.inl hallow) hrun
    have hsources := hcompiled.passes.imp fun document source hpasses => hpasses.source_eq
    refine ⟨fun document hdocument => ?_, ?_, ?_⟩
    · obtain ⟨source, -, hsource⟩ := forall₂_exists hsources hdocument
      exact ⟨source.id, Source.identifierOf_eq hsource⟩
    · exact (distinctIds_iff hsources).2 hcompiled.holds.distinct
    · rintro before document rest rfl source hsource
      obtain ⟨before', source', rest', rfl, hbefore, hsource', -⟩ := forall₂_split hsources
      obtain rfl : source' = source := Except.ok.inj (hsource'.symm.trans hsource)
      refine (hcompiled.admitsAll.admits before' source' rest' rfl).imp ?_ ?_ ?_ ?_
      · exact fun form? position site => Setting.makes_plain_iff.1
      · exact fun _ => trivial
      · exact fun target => (namedBy_iff hsources).2
      · exact fun target => (namedBy_iff hbefore).2
  · intro h
    obtain ⟨sources, hpasses⟩ := forall₂_of_forall_exists fun document hdocument =>
      let ⟨_, hid⟩ := h.hasIds document hdocument
      (hdocuments document hdocument).passes hcheck hid
    have hsources := hpasses.imp fun document source hpasses => hpasses.source_eq
    refine compileAll_ok ⟨?_, (distinctIds_iff hsources).1 h.distinct, ?_⟩ hpasses
    · intro source hsource
      obtain ⟨document, -, hpasses⟩ := forall₂_exists hpasses.flip hsource
      exact hpasses.isKey
    · rintro before source rest rfl
      obtain ⟨before', document, rest', rfl, hbefore, hsource, -⟩ := forall₂_split hsources.flip
      have hadmissible := h.admissible before' document rest' rfl source hsource
      refine hadmissible.imp ?_ ?_ ?_ ?_
      · exact fun form? position site => Setting.makes_plain_iff.2
      · exact fun _ => hempty
      · exact fun target => (namedBy_iff hsources).1
      · exact fun target => (namedBy_iff hbefore.flip).1

def forwardTree : Json :=
  .obj [("$id", .str "tree"), ("type", .str "object"),
    ("properties", .obj [("kind", .obj [("$ref", .str "kind")])])]

def forwardKind : Json :=
  .obj [("$id", .str "kind"), ("type", .str "string"), ("enum", .arr [.str "a", .str "b"])]

/-- An object with a property whose type is declared after it. -/
def forwardDocuments : List Json := [forwardTree, forwardKind]

theorem isDocument_forwardDocuments : ∀ document ∈ forwardDocuments, IsDocument document := by
  intro document hdocument
  simp only [forwardDocuments, List.mem_cons, List.not_mem_nil, or_false] at hdocument
  rcases hdocument with rfl | rfl
  · refine ⟨⟨_, rfl⟩, fun id hid => ?_, .intro ?_ fun part hpart => ?_⟩
    · cases hid
      exact ⟨_, rfl⟩
    · constructor <;> intro value hvalue <;> cases hvalue
      exact ⟨_, rfl⟩
    · rcases hpart with ⟨hmark, -, -⟩ | ⟨hmark, hpart⟩ | ⟨hmark⟩ <;> cases hmark
      cases List.mem_singleton.1 hpart
      refine .intro ?_ fun part hpart => ?_
      · constructor <;> intro value hvalue <;> cases hvalue
        exact ⟨_, rfl⟩
      · rcases hpart with ⟨hmark, -, -⟩ | ⟨hmark, -⟩ | ⟨hmark⟩ <;> cases hmark
  · refine ⟨⟨_, rfl⟩, fun id hid => ?_, .intro ?_ fun part hpart => ?_⟩
    · cases hid
      exact ⟨_, rfl⟩
    · constructor <;> intro value hvalue <;> cases hvalue
      exact ⟨_, rfl⟩
    · rcases hpart with ⟨hmark, -, -⟩ | ⟨hmark, -⟩ | ⟨hmark⟩ <;> cases hmark

theorem compileAll_ok_forward :
    (∃ registry, (compileAll { checkMode := .off } none forwardDocuments).on .empty =
      (.ok (), registry)) ∧ Acceptable forwardDocuments := by
  have hrun : ∃ registry, (compileAll { checkMode := .off } none forwardDocuments).on .empty =
      (.ok (), registry) := ⟨_, on_eq_of_isOk (by decide +kernel)⟩
  exact ⟨hrun, (compileAll_ok_iff isDocument_forwardDocuments rfl rfl rfl).1 hrun⟩

end Build
end SchemaGraph
