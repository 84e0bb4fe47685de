import SchemaGraph.Proofs.Failure.Checking
import SchemaGraph.Proofs.Failure.Compiling

/-! What converting documents can fail for.

Converting is to compile the batch, to make the query root, to assemble the schema and to
validate it. Only the third step words the faults of types as an invalid schema. So a
command that reports no other faults than those of documents
(`Command.isConversionFault`) reports all, unless a name is illegal or a meta-schema cannot
be checked (`convert_fault`). -/
namespace SchemaGraph

variable {documents : List Json}

namespace Build

/-- The journal says nothing about what was compiled. -/
theorem HoldsAll.write {registry : Registry} (h : HoldsAll documents registry)
    (journal : List Event) : HoldsAll documents { registry with journal } := by
  obtain ⟨sources, ledger, rfl, hcompiled⟩ := h
  have hholds := hcompiled.holds
  refine ⟨sources, ledger.write journal, rfl, hcompiled.passes, ?_, hcompiled.isBuilt⟩
  exact hholds.of_le (Ledger.le_write ledger journal) (hholds.sound.write journal) rfl

theorem HoldsAll.isReadable {registry : Registry} (h : HoldsAll documents registry) :
    registry.IsReadable (Hindrance documents) :=
  let ⟨_, _, heq, hcompiled⟩ := h
  heq ▸ hcompiled.isReadable

/-- Every entry is that of a document. -/
theorem HoldsAll.entry {registry : Registry} (h : HoldsAll documents registry)
    {entry : Json × GraphType} (hentry : entry ∈ registry.entries) : registry.Reaches entry.2 ∧
      ∃ document ∈ documents, ∃ source, Source.ofJson document = .ok source ∧
        positionOf entry.1 = .ok source.position := by
  obtain ⟨sources, ledger, rfl, hcompiled⟩ := h
  refine ⟨.entry (hcompiled.holds.find?_of_mem hentry), ?_⟩
  obtain ⟨source, hsource, hid, -⟩ := forall₂_exists hcompiled.holds.entries.flip hentry
  obtain ⟨document, hdocument, hpasses⟩ := forall₂_exists hcompiled.passes.flip hsource
  rw [hid]
  exact ⟨document, hdocument, source, hpasses.source_eq, (Source.shape_eq hpasses.source_eq).2⟩

/-! ### The query root -/

/-- The field is the default one for an entry. -/
def IsQueryField (entries : List (Json × GraphType)) (field : RootField) : Prop :=
  ∃ entry ∈ entries, ∃ position, positionOf entry.1 = .ok position ∧ field.type = entry.2 ∧
    field.name = .str (Name.lowerFirst (Name.plural (Name.typeName position)))

theorem defaultFields_ok {entries : List (Json × GraphType)} {exclude : Json}
    {fields : List RootField} (h : defaultFields entries exclude = .ok fields) :
    ∀ field ∈ fields, IsQueryField entries field := by
  refine foldlM_preserves (p := fun fields => ∀ field ∈ fields, IsQueryField entries field)
    (fun entry hentry fields next hfields hnext => ?_) (List.forall_mem_nil _) h
  obtain ⟨excluded, -, hnext⟩ := bind_ok hnext
  split at hnext
  · cases hnext
    exact hfields
  · obtain ⟨name, hname, hnext⟩ := bind_ok hnext
    obtain ⟨position, hposition, hname⟩ := bind_ok hname
    obtain rfl := Except.ok.inj hname
    split at hnext
    · cases hnext
    obtain rfl := Except.ok.inj hnext
    exact List.forall_mem_append.2 ⟨hfields,
      List.forall_mem_singleton.2 ⟨entry, hentry, position, hposition, rfl, rfl⟩⟩

theorem defaultFields_error {entries : List (Json × GraphType)} {fault : Fault}
    (h : defaultFields entries (.arr []) = .error fault) :
    Command.isConversionFault fault = true ∨
      ∃ entry ∈ entries, positionOf entry.1 = .error fault := by
  obtain ⟨entry, hentry, fields, hstep⟩ := foldlM_error h
  rcases bind_error hstep with hexcluded | ⟨excluded, -, hstep⟩
  · cases hexcluded
  split at hstep
  · cases hstep
  rcases bind_error hstep with hname | ⟨name, -, hstep⟩
  · rcases bind_error hname with hposition | ⟨_, -, hname⟩
    · exact .inr ⟨entry, hentry, hposition⟩
    · cases hname
  · split at hstep <;> cases hstep
    exact .inl rfl

/-- The query root is made of the fields once there are fields. -/
theorem defaultQuery_on (queryName exclude : Json) (registry : Registry) :
    (defaultQuery queryName exclude).on registry =
      match defaultFields registry.entries exclude with
      | .error fault => (.error fault, registry)
      | .ok fields => (RootType.make queryName fields,
          { registry with journal := registry.journal ++ [.queryFields fields.length] }) := by
  unfold defaultQuery
  rw [on_bind, get_on]
  simp only [on_bind, lift_on]
  cases defaultFields registry.entries exclude with
  | error fault => rfl
  | ok fields => rfl

/-- The query root can be made unless two documents share a field name, and read unless that of
a field is illegal. -/
theorem defaultQuery_meets : Meets (HoldsAll documents) (Hindrance documents)
    (fun root after => HoldsAll documents after ∧ root.IsReadable (Hindrance documents) after)
    (defaultQuery (.str "Query") (.arr [])) where
  ok registry after root hholds hrun := by
    rw [defaultQuery_on] at hrun
    cases hfields : defaultFields registry.entries (.arr []) with
    | error fault =>
      rw [hfields] at hrun
      cases hrun
    | ok fields =>
      rw [hfields] at hrun
      cases hrun
      have hafter := hholds.write (registry.journal ++ [.queryFields fields.length])
      refine ⟨hafter, fun field hfield => ?_⟩
      obtain ⟨entry, hentry, position, hposition, htype, hname⟩ :=
        defaultFields_ok hfields field hfield
      obtain ⟨hreaches, document, hdocument, source, hsource, hsame⟩ := hafter.entry hentry
      obtain rfl := Except.ok.inj (hsame.symm.trans hposition)
      refine ⟨.inl (htype ▸ hreaches), fun fault hfault => ?_⟩
      rw [hname] at hfault
      have hroot : (Naming.root source.position).fault? = some fault := by
        rw [Naming.fault?]
        exact checkFieldName_error hfault
      exact .of_name hdocument hsource .root hroot
  error registry after fault hholds hrun := by
    rw [defaultQuery_on] at hrun
    cases hfields : defaultFields registry.entries (.arr []) with
    | error first =>
      rw [hfields] at hrun
      cases hrun
      rcases defaultFields_error hfields with hconversion | ⟨entry, hentry, hposition⟩
      · exact .document hconversion
      · obtain ⟨-, _, -, _, -, hok⟩ := hholds.entry hentry
        rw [hok] at hposition
        cases hposition
    | ok fields =>
      rw [hfields] at hrun
      cases hrun

/-! ### The whole way -/

theorem documentsOf_eq (hdocuments : ∀ document ∈ documents, IsDocument document) :
    documentsOf (.arr documents) = .ok documents := by
  show documents.mapM documentOf = .ok documents
  induction documents with
  | nil => rfl
  | cons document rest ih =>
    obtain ⟨members, rfl⟩ := (hdocuments document List.mem_cons_self).isObject
    rw [List.mapM_cons, ih fun other hother => hdocuments other (List.mem_cons_of_mem _ hother)]
    rfl

/-- A fault of the types is worded as an invalid schema, which documents can be refused for. -/
theorem Hindrance.asInvalid {fault : Fault} (h : IsWorse (Hindrance documents) fault) :
    Hindrance documents fault.asInvalid := by
  unfold Fault.asInvalid
  split
  · exact .document rfl
  · exact h.resolve_left ‹_›

/-- Faults may be worded anew. -/
theorem Meets.reworded {α : Type} {before : Registry → Prop} {bad worse : Fault → Prop}
    {good : α → Registry → Prop} {work : Build α} {word : Fault → Fault}
    (h : Meets before worse good work) (hword : ∀ fault, worse fault → bad (word fault)) :
    Meets before bad good (tryCatch work fun fault => MonadExcept.throw (word fault)) where
  ok registry after value hbefore hrun := by
    rw [on_tryCatch] at hrun
    rcases hwork : work.on registry with ⟨fault | result, middle⟩ <;> rw [hwork] at hrun <;>
      cases hrun
    exact h.ok _ _ _ hbefore hwork
  error registry after fault hbefore hrun := by
    rw [on_tryCatch] at hrun
    rcases hwork : work.on registry with ⟨first | result, middle⟩ <;> rw [hwork] at hrun <;>
      cases hrun
    exact hword first (h.error _ _ _ hbefore hwork)

/-- What was compiled, and roots that can be read. -/
def IsRooted (documents : List Json) (roots : Roots) (registry : Registry) : Prop :=
  HoldsAll documents registry ∧
    ∀ root ∈ [roots.query?, roots.mutation?, roots.subscription?].filterMap id,
      root.IsReadable (Hindrance documents) registry

theorem convert_meets (hdocuments : ∀ document ∈ documents, IsDocument document) :
    Meets (· = .empty) (Hindrance documents) (fun _ _ => True)
      (convert {} none .default [] (.arr documents)) := by
  have hroots : roots {} .default =
      .ok (do return { query? := some (← defaultQuery (.str "Query") (.arr [])) }) := rfl
  unfold convert
  rw [hroots, documentsOf_eq hdocuments, lift_ok_bind, lift_ok_bind]
  refine .bind (compileAll_meets hdocuments) fun _ => ?_
  have hquery : Meets (HoldsAll documents) (Hindrance documents) (IsRooted documents)
      (do return { query? := some (← defaultQuery (.str "Query") (.arr [])) }) :=
    .bind defaultQuery_meets fun root => .pure fun registry ⟨hholds, hroot⟩ =>
      ⟨hholds, List.forall_mem_singleton.2 hroot⟩
  refine .bind hquery fun roots => .of_forall fun registry ⟨hholds, hrooted⟩ => ?_
  have htypes : ∀ type ∈ registry.namedTypes, registry.Shows type := by
    intro type htype
    obtain ⟨entry, hentry, rfl⟩ := List.mem_map.1 htype
    exact .inl (hholds.entry hentry).1.named
  have hget : Meets (· = registry) (Hindrance documents)
      (fun value after => after = registry ∧ value = registry) (get : Build Registry) :=
    .of_on get_on fun _ heq => ⟨heq, heq⟩
  refine .bind hget fun _ => .assume ?_
  rintro rfl
  refine .bind ((assemble_meets hholds.isReadable htypes hrooted).reworded
    fun _ => Hindrance.asInvalid) fun schema => .assume fun hlegible => ?_
  have hvalidate : FailsBy (Hindrance documents) (lift schema.validate) :=
    .lift fun _ => Schema.validate_error (fun _ => .document) hlegible
  have hend : FailsBy (Hindrance documents) (do
      lift schema.validate
      record (.converted (← get).entries.length schema.allNames.length)
      return schema) :=
    .bind hvalidate fun _ => .bind get_failsBy fun _ => .bind (record_failsBy _) fun _ => .pure _
  rw [List.foldlM_nil]
  show Meets _ _ _ (lift (.ok schema) >>= _)
  rw [lift_ok_bind]
  exact hend.weaken fun _ _ => trivial

/-- **Converting fails for what a document says, or for a name.** The other faults of a batch
whose keywords are of the right kinds are those of its illegal names, and those that keep a
meta-schema from being checked. -/
theorem convert_fault {fault : Fault} {after : Registry}
    (hdocuments : ∀ document ∈ documents, IsDocument document)
    (hrun : (convert {} none .default [] (.arr documents)).on .empty = (.error fault, after)) :
    Command.isConversionFault fault = true ∨
      (∃ document ∈ documents, MetaSchema.problem? document = .error fault) ∨
      ∃ document ∈ documents, ∃ source, Source.ofJson document = .ok source ∧
        ∃ naming, source.CallsFor naming ∧ ¬ naming.IsClean ∧ naming.fault? = some fault := by
  cases (convert_meets hdocuments).error _ _ _ rfl hrun with
  | document h => exact .inl h
  | check hdocument h => exact .inr (.inl ⟨_, hdocument, h⟩)
  | name hdocument hsource hcalls hunclean h =>
    exact .inr (.inr ⟨_, hdocument, _, hsource, _, hcalls, hunclean, h⟩)

/-! ### Objects without properties -/

/-- An object that has an identifier and nothing else. -/
def emptyObject (id : String) : Json := .obj [("$id", .str id), ("type", .str "object")]

theorem isDocument_emptyObject (id : String) : IsDocument (emptyObject id) := by
  refine ⟨⟨_, rfl⟩, fun found hfound => ?_, .intro ?_ fun part hpart => ?_⟩
  · cases hfound
    exact ⟨_, rfl⟩
  · constructor <;> intro value hvalue <;> cases hvalue
  · rcases hpart with ⟨hmark, -, -⟩ | ⟨hmark, -⟩ | ⟨hmark⟩ <;> cases hmark

theorem problem?_emptyObject (id : String) : MetaSchema.problem? (emptyObject id) = .ok none := by
  refine MetaSchema.problem?_eq_none rfl ?_
  simp only [List.forall_mem_cons]
  refine ⟨?id, ?type, List.forall_mem_nil _⟩ <;> intro rule hrule
  case id =>
    obtain rfl : rule = .string := by
      simpa [MetaSchema.draft7, MetaSchema.limits, MetaSchema.branches] using hrule
    exact MetaSchema.check_string ..
  case type =>
    obtain rfl : rule = .typeNames := by
      simpa [MetaSchema.draft7, MetaSchema.limits, MetaSchema.branches] using hrule
    exact MetaSchema.check_typeNames _ (by decide)

/-- The check has nothing against an empty object, and what else converting does can be run. -/
theorem convert_emptyObject (id : String) :
    convert {} none .default [] (.arr [emptyObject id]) =
      convert { checkMode := .off } none .default [] (.arr [emptyObject id]) :=
  convert_off {} none .default [] rfl (List.forall_mem_singleton.2 (problem?_emptyObject id))

/-- The outcome is a fault, and it is one of those. -/
def failsWith {α : Type} (isOne : Fault → Bool) : Except Fault α → Bool
  | .error fault => isOne fault
  | .ok _ => false

/-- An identifier without letters and digits leaves a type without a name. -/
theorem convert_fault_nameless : ∃ fault after,
    (convert {} none .default [] (.arr [emptyObject "!"])).on .empty = (.error fault, after) ∧
      Command.isConversionFault fault = false ∧
      ∃ source, Source.ofJson (emptyObject "!") = .ok source ∧
        ∃ naming, source.CallsFor naming ∧ ¬ naming.IsClean ∧ naming.fault? = some fault := by
  have hfails : failsWith (!Command.isConversionFault ·)
      ((convert {} none .default [] (.arr [emptyObject "!"])).on .empty).1 = true := by
    rw [convert_emptyObject]
    decide +kernel
  rcases hrun : (convert {} none .default [] (.arr [emptyObject "!"])).on .empty with
    ⟨fault | schema, after⟩ <;> rw [hrun] at hfails
  · have hfault : Command.isConversionFault fault = false := by simpa [failsWith] using hfails
    refine ⟨fault, after, rfl, hfault, ?_⟩
    rcases convert_fault (List.forall_mem_singleton.2 (isDocument_emptyObject "!")) hrun with
      hreported | ⟨document, hmem, hbroken⟩ | ⟨document, hmem, hname⟩
    · rw [hfault] at hreported
      cases hreported
    · rw [List.mem_singleton.1 hmem, problem?_emptyObject] at hbroken
      cases hbroken
    · rwa [List.mem_singleton.1 hmem] at hname
  · cases hfails

/-- An identifier may turn into the name of a type that every schema has, and a command that
reports the faults of documents does not report that. -/
theorem convert_unreported : ∃ documents, (∀ document ∈ documents, IsDocument document) ∧
    ∃ fault after, (convert {} none .default [] (.arr documents)).on .empty =
      (.error fault, after) ∧ Command.isConversionFault fault = false ∧
      fault.message = "Redefinition of reserved type 'String'" := by
  have hfails : failsWith (fun fault => !Command.isConversionFault fault &&
        fault.message == "Redefinition of reserved type 'String'")
      ((convert {} none .default [] (.arr [emptyObject "string"])).on .empty).1 = true := by
    rw [convert_emptyObject]
    decide +kernel
  refine ⟨[emptyObject "string"],
    List.forall_mem_singleton.2 (isDocument_emptyObject "string"), ?_⟩
  rcases hrun : (convert {} none .default [] (.arr [emptyObject "string"])).on .empty with
    ⟨fault | schema, after⟩ <;> rw [hrun] at hfails
  · obtain ⟨hfault, hmessage⟩ : Command.isConversionFault fault = false ∧
        fault.message = "Redefinition of reserved type 'String'" := by
      simpa [failsWith] using hfails
    exact ⟨fault, after, rfl, hfault, hmessage⟩
  · cases hfails

end Build
end SchemaGraph
