import SchemaGraph.Proofs.Batch.Twins

/-! What a document compiles to does not depend on the others.

A document's graph is made of the documents that its references lead to, directly or
through one another (`Leads`). If two batches have these documents in common and both
compile, then the graph is the same in both registries, whatever else the batches
contain and in whatever order (`compileAll_local`). The order decides only whether a
batch compiles. -/
namespace SchemaGraph

/-- References of the documents lead from the one identifier to the other. -/
inductive Leads (documents : List Json) (start : Json) : Json → Prop where
  | refl : Leads documents start start
  | step {target next document source} (h : Leads documents start target)
      (hdocument : document ∈ documents) (hsource : Source.ofJson document = .ok source)
      (hsame : Json.same source.id target = true) (hrefers : source.shape.RefersTo next) :
      Leads documents start next

/-- Both batches contain the same document for the target. -/
def HaveInCommon (first second : List Json) (target : Json) : Prop :=
  ∃ document ∈ first, document ∈ second ∧
    ∃ id, identifierOf document = .ok id ∧ Json.same id target = true

namespace Build

variable {config : Config} {customize? : Option Customizer} {first second : List Json}
  {sources sources' : List Source} {ledger ledger' : Ledger}

/-- The sources that the documents are share what the documents have in common. -/
theorem Compiled.shares (h : Compiled config customize? first sources ledger)
    (h' : Compiled config customize? second sources' ledger') {start : Json}
    (hcommon : ∀ target, Leads first start target → HaveInCommon first second target) :
    Shares sources sources' (Leads first start) := by
  intro target htarget
  obtain ⟨document, hdocument, hdocument', id, hid, hsame⟩ := hcommon target htarget
  obtain ⟨source, hsource, hpasses⟩ := forall₂_exists h.passes hdocument
  obtain ⟨source', hsource', hpasses'⟩ := forall₂_exists h'.passes hdocument'
  obtain rfl := Except.ok.inj (hpasses.source_eq.symm.trans hpasses'.source_eq)
  obtain rfl := Except.ok.inj ((Source.identifierOf_eq hpasses.source_eq).symm.trans hid)
  exact ⟨source, hsource, hsource', hsame, fun next hrefers =>
    .step htarget hdocument hpasses.source_eq hsame hrefers⟩

theorem Compiled.exists_find? (h : Compiled config customize? first sources ledger)
    {document id target : Json} (hdocument : document ∈ first)
    (hid : identifierOf document = .ok id) (hsame : Json.same id target = true) :
    ∃ type, ledger.registry.find? target = some type := by
  obtain ⟨source, hsource, hpasses⟩ := forall₂_exists h.passes hdocument
  obtain rfl := Except.ok.inj ((Source.identifierOf_eq hpasses.source_eq).symm.trans hid)
  obtain ⟨type, htype⟩ := h.holds.exists_find? hsource
  exact ⟨type, (h.holds.find?_eq hsource hsame).symm.trans htype⟩

/-- **Compilation is local.** Two batches that both compile, and that contain the same documents
for an identifier and for all that its references lead to, compile it to the same graph. -/
theorem compileAll_local {registry registry' : Registry} {start : Json}
    (hdistinct : DistinctIds first) (hdistinct' : DistinctIds second)
    (hrun : (compileAll config customize? first).on .empty = (.ok (), registry))
    (hrun' : (compileAll config customize? second).on .empty = (.ok (), registry'))
    (hcommon : ∀ target, Leads first start target → HaveInCommon first second target) :
    ∃ type type' R, registry.find? start = some type ∧ registry'.find? start = some type' ∧
      Isomorphism registry registry' R ∧ R type type' := by
  obtain ⟨sources, ledger, rfl, h⟩ :=
    compileAll_holds (.inr ⟨hdistinct, fun _ _ _ _ => rfl⟩) hrun
  obtain ⟨sources', ledger', rfl, h'⟩ :=
    compileAll_holds (.inr ⟨hdistinct', fun _ _ _ _ => rfl⟩) hrun'
  have hshares := h.shares h' hcommon
  obtain ⟨document, hdocument, hdocument', id, hid, hsame⟩ := hcommon start .refl
  obtain ⟨type, htype⟩ := h.exists_find? hdocument hid hsame
  obtain ⟨type', htype'⟩ := h'.exists_find? hdocument' hid hsame
  exact ⟨type, type', _, htype, htype',
    h.holds.isomorphism h'.holds hshares (h.holds.isSettled h.isBuilt)
      (h'.holds.isSettled h'.isBuilt),
    .bare (h.holds.twins_of_find? h'.holds hshares .refl htype htype')⟩

/-- A list that refers to itself and to what it holds. -/
def listDocument : Json :=
  .obj [("$id", .str "list"), ("type", .str "object"), ("properties",
    .obj [("head", .obj [("$ref", .str "item")]), ("rest", .obj [("$ref", .str "list")])])]

def itemDocument : Json := .obj [("$id", .str "item"), ("type", .str "string")]

/-- A document that the list does not refer to. -/
def pileDocument : Json :=
  .obj [("$id", .str "pile"), ("type", .str "array"), ("items", .obj [("$ref", .str "item")])]

theorem leads_listDocument {target : Json}
    (h : Leads [listDocument, itemDocument] (.str "list") target) :
    target = .str "list" ∨ target = .str "item" := by
  have hlist : Source.ofJson listDocument = .ok ⟨.str "list", "list", .object { path := "#" } []
      [("head", .reference { path := "#/properties/head" } (.str "item")),
        ("rest", .reference { path := "#/properties/rest" } (.str "list"))]⟩ := by
    with_unfolding_all rfl
  have hitem : Source.ofJson itemDocument =
      .ok ⟨.str "item", "item", .primitive { path := "#" } .string⟩ := by with_unfolding_all rfl
  cases h with
  | refl => exact .inl rfl
  | step _ hdocument hsource _ hrefers =>
    rcases List.mem_pair.1 hdocument with rfl | rfl
    · cases hlist.symm.trans hsource
      cases hrefers with
      | property hproperty hrefers =>
        rcases List.mem_pair.1 hproperty with hproperty | hproperty <;> cases hproperty <;>
          cases hrefers
        · exact .inr rfl
        · exact .inl rfl
    · cases hitem.symm.trans hsource
      cases hrefers

theorem compileAll_local_list :
    let config : Config := { checkMode := .off }
    let first := [listDocument, itemDocument]
    let second := [itemDocument, pileDocument, listDocument]
    let registry := ((compileAll config none first).on .empty).2
    let registry' := ((compileAll config none second).on .empty).2
    ∃ type type' R, registry.find? (.str "list") = some type ∧
      registry'.find? (.str "list") = some type' ∧ Isomorphism registry registry' R ∧
      R type type' := by
  intro config first second registry registry'
  have hrun : (compileAll config none first).on .empty = (.ok (), registry) :=
    on_eq_of_isOk (by decide +kernel)
  have hrun' : (compileAll config none second).on .empty = (.ok (), registry') :=
    on_eq_of_isOk (by decide +kernel)
  have hdistinct : DistinctIds first := .of_ids [.str "list", .str "item"] rfl (by decide)
  have hdistinct' : DistinctIds second :=
    .of_ids [.str "item", .str "pile", .str "list"] rfl (by decide)
  refine compileAll_local hdistinct hdistinct' hrun hrun' fun target htarget => ?_
  rcases leads_listDocument htarget with rfl | rfl
  · exact ⟨listDocument, by simp [first], by simp [second], .str "list", rfl, by decide⟩
  · exact ⟨itemDocument, by simp [first], by simp [second], .str "item", rfl, by decide⟩

end Build
end SchemaGraph
