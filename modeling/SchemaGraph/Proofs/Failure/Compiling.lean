import SchemaGraph.Proofs.Batch.Acceptance
import SchemaGraph.Proofs.Batch.Admission
import SchemaGraph.Proofs.Batch.Location
import SchemaGraph.Proofs.Failure.Assembling

/-! Why a batch does not compile.

A document calls for the names of its shape and of all parts, and for one of a query field
(`Source.CallsFor`). A batch of documents whose keywords are of the right kinds compiles,
or one of these names is illegal, or the meta-schema of a document cannot be checked, or a
document cannot be converted (`Hindrance`). What has compiled can be read but for illegal
names (`Compiled.isReadable`). -/
namespace SchemaGraph

/-- The names that a document calls for. -/
inductive Source.CallsFor (source : Source) : Naming → Prop where
  | root : CallsFor source (.root source.position)
  | part {position shape naming}
      (hpart : Shape.Part (source.position, source.shape) (position, shape))
      (hnaming : naming ∈ shape.namings position) : CallsFor source naming

/-- The faults that stand in the way of documents. -/
inductive Hindrance (documents : List Json) : Fault → Prop where
  | document {fault} (h : Command.isConversionFault fault = true) : Hindrance documents fault
  | check {document fault} (hdocument : document ∈ documents)
      (h : MetaSchema.problem? document = .error fault) : Hindrance documents fault
  | name {document source naming fault} (hdocument : document ∈ documents)
      (hsource : Source.ofJson document = .ok source) (hcalls : source.CallsFor naming)
      (hunclean : ¬ naming.IsClean) (h : naming.fault? = some fault) : Hindrance documents fault

/-! ### One document -/

theorem Source.shape_eq {document : Json} {source : Source}
    (h : Source.ofJson document = .ok source) :
    Shape.ofJson "#" document = .ok source.shape ∧ positionOf source.id = .ok source.position := by
  obtain ⟨id, -, h⟩ := bind_ok h
  obtain ⟨shape, hshape, h⟩ := bind_ok h
  obtain ⟨position, hposition, h⟩ := bind_ok h
  cases h
  exact ⟨hshape, hposition⟩

variable {documents : List Json}

theorem Hindrance.of_name {document : Json} {source : Source} {naming : Naming} {fault : Fault}
    (hdocument : document ∈ documents) (hsource : Source.ofJson document = .ok source)
    (hcalls : source.CallsFor naming) (h : naming.fault? = some fault) :
    Hindrance documents fault := by
  refine .name hdocument hsource hcalls (fun hclean => ?_) h
  rw [(Naming.fault?_eq_none_iff naming).2 hclean] at h
  cases h

theorem IsDocument.spares {document : Json} {source : Source} (h : IsDocument document)
    (hdocument : document ∈ documents) (hsource : Source.ofJson document = .ok source) :
    source.shape.Spares (Hindrance documents) source.position where
  names _ hpart _ hnaming _ hfault := .of_name hdocument hsource (.part hpart hnaming) hfault
  keys _ _ _ hpart := by
    obtain ⟨text, rfl⟩ := h.isWellKinded.target_eq (Source.shape_eq hsource).1 hpart
    rfl

/-- A document is not let in for its own fault, or its meta-schema cannot be checked. -/
theorem IsDocument.accept_error {document : Json} {registry : Registry} {fault : Fault}
    (h : IsDocument document) (hdocument : document ∈ documents)
    (hfault : ({} : Config).accept registry document = .error fault) :
    Hindrance documents fault := by
  unfold Config.accept at hfault
  rcases bind_error hfault with hid | ⟨id, hid, hfault⟩
  · obtain ⟨members, rfl⟩ := h.isObject
    unfold identifierOf at hid
    simp only at hid
    split at hid <;> cases hid
    exact .document rfl
  obtain ⟨text, rfl⟩ := h.id_eq hid
  rcases bind_error hfault with hcheck | ⟨_, -, hfault⟩
  · exact .check hdocument hcheck
  rcases bind_error hfault with hunused | ⟨_, -, hfault⟩
  · have hkey : Build.keyOf (.str text) = .ok (.str text) := rfl
    simp only [Config.checkId, hkey, ok_bind] at hunused
    split at hunused <;> cases hunused
    exact .document rfl
  rcases bind_error hfault with hshape | ⟨_, -, hfault⟩
  · obtain ⟨shape, hok⟩ := h.isWellKinded.ofJson_ok "#"
    rw [hok] at hshape
    cases hshape
  · cases hfault

namespace Build

/-- Every plan in the queue is spared. -/
def Queued (bad : Fault → Prop) (registry : Registry) : Prop :=
  ∀ plan ∈ registry.pending, plan.Spares bad

theorem compile_meets {document : Json} (h : IsDocument document)
    (hdocument : document ∈ documents) :
    Meets (Queued (Hindrance documents)) (Hindrance documents)
      (fun _ => Queued (Hindrance documents)) (compile {} none document) where
  ok registry after _ hqueued hrun := by
    obtain ⟨added, hpending, -, -, hadded⟩ := compile_adds {} none document registry
    rw [hrun] at hpending
    intro plan hplan
    rw [show after.pending = registry.pending ++ added from hpending] at hplan
    rcases List.mem_append.1 hplan with hplan | hplan
    · exact hqueued plan hplan
    · obtain ⟨source, haccept, hdefers⟩ := hadded plan hplan
      have hsource := (Config.accept_ok haccept).1.source_eq
      exact hdefers.spares rfl rfl (h.spares hdocument hsource)
  error registry after fault _ hrun := by
    obtain ⟨events, -, hcompile⟩ := compile_run {} none document registry
    rw [hrun] at hcompile
    cases haccept : ({} : Config).accept registry document with
    | error first =>
      rw [haccept] at hcompile
      cases hcompile
      exact h.accept_error hdocument haccept
    | ok source =>
      simp only [haccept] at hcompile
      have hsource := (Config.accept_ok haccept).1.source_eq
      rcases hbuild : (buildType (({} : Config).setting none) source.position source.shape).on
        (registry.noting events) with ⟨first | type, middle⟩ <;> rw [hbuild] at hcompile <;>
        cases hcompile
      have hplain : (({} : Config).setting none).customize? = none := rfl
      have hfails := buildType_failsBy (fun _ => .document) hplain (h.spares hdocument hsource)
      exact hfails.error _ _ _ trivial hbuild

theorem Meets.forM {α : Type} {inv : Registry → Prop} {bad : Fault → Prop} {work : α → Build Unit}
    {items : List α} (h : ∀ item ∈ items, Meets inv bad (fun _ => inv) (work item)) :
    Meets inv bad (fun _ => inv) (items.forM work) := by
  induction items with
  | nil => exact .pure fun _ hinv => hinv
  | cons item items ih =>
    exact .bind (h item List.mem_cons_self) fun _ =>
      ih fun other hother => h other (List.mem_cons_of_mem _ hother)

/-- The registry that documents were compiled into. -/
def HoldsAll (documents : List Json) (registry : Registry) : Prop :=
  ∃ sources ledger, ledger.registry = registry ∧ Compiled {} none documents sources ledger

/-- A batch compiles, or something stands in its way. -/
theorem compileAll_meets (hdocuments : ∀ document ∈ documents, IsDocument document) :
    Meets (· = .empty) (Hindrance documents) (fun _ => HoldsAll documents)
      (compileAll {} none documents) where
  ok _ _ _ hempty hrun := by
    subst hempty
    exact compileAll_holds (.inl rfl) hrun
  error registry after fault hempty hrun := by
    subst hempty
    have hforM := Meets.forM fun document hdocument =>
      compile_meets (hdocuments document hdocument) hdocument
    have hqueued : Queued (Hindrance documents) .empty := fun _ hplan => nomatch hplan
    rw [compileAll, on_bind] at hrun
    rcases hcompile : (documents.forM (compile {} none)).on .empty with ⟨first | _, middle⟩ <;>
      rw [hcompile] at hrun
    · cases hrun
      exact hforM.error _ _ _ hqueued hcompile
    · exact drain_error (fun _ => .document) (hforM.ok _ _ _ hqueued hcompile) hrun

end Build

/-! ### What has compiled -/

theorem checkFieldName_error {name : String} {fault : Fault}
    (h : checkFieldName (.str name) = .error fault) :
    (Name.flaw? name).map .badName = some fault := by
  rw [checkFieldName] at h
  split at h <;> cases h
  rename_i hflaw
  rw [hflaw]
  rfl

theorem checkValueName_error {name : String} {fault : Fault}
    (h : checkValueName name = .error fault) :
    (Name.valueFlaw? name).map .badName = some fault := by
  rw [checkValueName] at h
  split at h <;> cases h
  rename_i hflaw
  rw [hflaw]
  rfl

/-- The values of an enum go by the keys of its literals. -/
theorem enumValues_keys {owner : String} {literals : List Json} {values : List (String × Json)}
    (h : enumValues owner literals = .ok values) :
    ∀ entry ∈ values, ∃ literal ∈ literals, entry.1 = Name.enumKey literal := by
  refine foldlM_preserves (p := fun values => ∀ entry ∈ values, ∃ literal ∈ literals,
    entry.1 = Name.enumKey literal) (fun literal hliteral values next hvalues hnext => ?_)
    (List.forall_mem_nil _) h
  simp only [addValue] at hnext
  split at hnext
  · cases hnext
    exact List.forall_mem_append.2
      ⟨hvalues, List.forall_mem_singleton.2 ⟨literal, hliteral, rfl⟩⟩
  · split at hnext <;> cases hnext
    intro entry hentry
    obtain ⟨old, hold, rfl⟩ := List.mem_map.1 hentry
    split
    · exact hvalues old hold
    · exact hvalues old hold

/-- Where a type is located, there is a part of a source. -/
theorem Located.part {registry : Registry} {sources : List Source} {place : Place}
    {position : String} {shape : Shape} {type : GraphType}
    (h : Located registry sources place position shape type) : ∃ source ∈ sources,
      Shape.Part (source.position, source.shape) (position, shape) := by
  induction h with
  | document hsource => exact ⟨_, hsource, .refl⟩
  | member _ hcase _ ih =>
    obtain ⟨source, hsource, hpart⟩ := ih
    exact ⟨source, hsource, hpart.tail (.case (List.mem_of_getElem? hcase))⟩
  | item _ ih =>
    obtain ⟨source, hsource, hpart⟩ := ih
    exact ⟨source, hsource, hpart.tail .item⟩
  | field _ _ _ hproperty _ ih =>
    obtain ⟨source, hsource, hpart⟩ := ih
    exact ⟨source, hsource, hpart.tail (.property (List.mem_of_getElem? hproperty))⟩

namespace Build

/-- The names that a type calls for where it is located, a document calls for. -/
theorem Compiled.hindrance {sources : List Source} {ledger : Ledger}
    (h : Compiled {} none documents sources ledger) {place : Place} {position : String}
    {shape : Shape} {type : GraphType} {naming : Naming} {fault : Fault}
    (hlocated : Located ledger.registry sources place position shape type)
    (hnaming : naming ∈ shape.namings position) (hfault : naming.fault? = some fault) :
    Hindrance documents fault := by
  obtain ⟨source, hsource, hpart⟩ := hlocated.part
  obtain ⟨document, hdocument, hpasses⟩ := forall₂_exists h.passes.flip hsource
  exact .of_name hdocument hpasses.source_eq (.part hpart hnaming) hfault

/-- What has compiled can be read but for illegal names. -/
theorem Compiled.isReadable {sources : List Source} {ledger : Ledger}
    (h : Compiled {} none documents sources ledger) :
    ledger.registry.IsReadable (Hindrance documents) where
  object info plan hreaches := by
    obtain ⟨place, position, shape, hlocated, hshape⟩ :=
      (h.holds.sits_of_reaches hreaches).resolve_right fun ⟨_, heq, _⟩ => nomatch heq
    cases h.holds.stands_of_located hlocated with
    | reference => cases hshape
    | object hinfo hkey hplan hplanKey =>
      obtain ⟨-, hplain⟩ := Setting.info_plain_iff.1 hinfo
      obtain ⟨fields, hbuilt⟩ := Option.isSome_iff_exists.1 (h.isBuilt _ hplan)
      refine ⟨by rw [hplain]; rfl, fields, hbuilt, fun fault hfault => ?_⟩
      cases h.holds.sound.fills _ hplan _ _ hbuilt hplanKey with
      | placeholder => cases hfault
      | ofProperties _ _ hlength hfields =>
        rcases bind_error hfault with hname | ⟨_, -, hrest⟩
        · obtain ⟨field, hfield, hname⟩ := mapM_error hname
          obtain ⟨index, hindex, rfl⟩ := List.getElem_of_mem hfield
          have hproperty := List.getElem?_eq_getElem (hlength ▸ hindex)
          obtain ⟨type, heq, -⟩ := hfields index _ _ _ hproperty (List.getElem?_eq_getElem hindex)
          rw [heq] at hname
          refine h.hindrance hlocated (List.mem_cons_of_mem _ (List.mem_map_of_mem ?_))
            (checkFieldName_error hname)
          exact List.mem_of_getElem? hproperty
        · cases hrest
  enum info values hreaches fault hfault := by
    obtain ⟨place, position, shape, hlocated, hshape⟩ :=
      (h.holds.sits_of_reaches hreaches).resolve_right fun ⟨_, heq, _⟩ => nomatch heq
    cases h.holds.stands_of_located hlocated with
    | reference => cases hshape
    | enum henum hkey =>
      obtain ⟨given, hgiven, heq⟩ := Setting.enumOf_plain henum
      obtain ⟨-, rfl⟩ := GraphType.enum.inj heq
      obtain ⟨pair, hpair, hvalue⟩ := mapM_error hfault
      obtain ⟨entry, hentry, rfl⟩ := List.mem_map.1 hpair
      rcases bind_error hvalue with hname | ⟨_, -, hrest⟩
      · obtain ⟨literal, hliteral, hkey⟩ := enumValues_keys hgiven entry hentry
        rw [hkey] at hname
        exact h.hindrance hlocated (List.mem_cons_of_mem _ (List.mem_map_of_mem hliteral))
          (checkValueName_error hname)
      · cases hrest

end Build
end SchemaGraph
