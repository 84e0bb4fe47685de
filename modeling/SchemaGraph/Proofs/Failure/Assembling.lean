import SchemaGraph.Proofs.Failure.Building
import SchemaGraph.Proofs.Graph.Isomorphism

/-! Why a schema cannot be assembled.

Assembling reads the fields of every object that can be reached. Where all of them are built
(`Registry.IsReadable`), reading leaves the registry as it is, and all it can run into are
the names of fields. What else goes wrong is a fault of the types, which is worded as an
invalid schema (`assemble_meets`); the names of values are not looked at before the schema
is validated (`validate_error`). -/
namespace SchemaGraph

namespace Registry

/-- Every object that can be reached has its fields, and what is wrong with the names of fields
and values is bad. -/
structure IsReadable (bad : Fault → Prop) (registry : Registry) : Prop where
  object : ∀ info plan, registry.Reaches (.object info plan) → info.fields? = none ∧
    ∃ fields, registry.built.lookup plan.key = some fields ∧
      ∀ fault, fields.checked = .error fault → bad fault
  enum : ∀ info values, registry.Reaches (.enum info values) →
    ∀ fault, values.checked = .error fault → bad fault

/-- The type can be reached, or is a scalar. -/
def Shows (registry : Registry) (type : GraphType) : Prop :=
  registry.Reaches type ∨ ∃ kind, type = .scalar kind

theorem Reaches.named {registry : Registry} {type : GraphType} (h : registry.Reaches type) :
    registry.Reaches type.named := by
  fun_induction GraphType.named type with
  | case1 key item ih => exact ih h.item
  | case2 item ih => exact ih h.inner
  | case3 => exact h

theorem Shows.named {registry : Registry} {type : GraphType} (h : registry.Shows type) :
    registry.Shows type.named :=
  match h with
  | .inl hreaches => .inl hreaches.named
  | .inr ⟨kind, heq⟩ => .inr ⟨kind, by rw [heq]; rfl⟩

end Registry

/-- The enum says nothing of its values that is worse than bad. -/
def Gathered.IsLegible (bad : Fault → Prop) (gathered : Gathered) : Prop :=
  ∀ name description values, gathered.definition? = some (.enum name description values) →
    ∀ fault, values.checked = .error fault → bad fault

/-- The fields of a map are of its own types, but for a placeholder's. -/
theorem FieldMap.checked_ok {fields : FieldMap} {checked : List Field}
    (h : fields.checked = .ok checked) : ∀ field ∈ checked, (∃ kind, field.type = .scalar kind) ∨
      ∃ given, fields = .ofProperties given ∧ field ∈ given := by
  intro field hfield
  cases fields with
  | placeholder name =>
    obtain ⟨name, -, h⟩ := bind_ok h
    cases h
    rw [List.mem_singleton.1 hfield]
    exact .inl ⟨_, rfl⟩
  | ofProperties given =>
    obtain ⟨_, -, h⟩ := bind_ok h
    cases h
    exact .inr ⟨_, rfl, hfield⟩

namespace Build

variable {bad : Fault → Prop} {registry : Registry}

theorem readFields_meets (h : registry.IsReadable bad) {info : TypeInfo} {plan : FieldPlan}
    (hreaches : registry.Reaches (.object info plan)) :
    Meets (· = registry) bad
      (fun fields after => after = registry ∧ ∀ field ∈ fields, registry.Shows field.type)
      (readFields info plan) := by
  obtain ⟨hplanned, fields, hbuilt, hbad⟩ := h.object info plan hreaches
  have hrun : (readFields info plan).on registry = (fields.checked, registry) := by
    rw [readFields_on, hplanned]
    simp only [fieldsOf_on, hbuilt]
  constructor
  · rintro _ after value rfl hok
    obtain ⟨hchecked, rfl⟩ := Prod.mk.inj (hrun.symm.trans hok)
    refine ⟨rfl, fun field hfield => ?_⟩
    rcases FieldMap.checked_ok hchecked field hfield with hscalar | ⟨given, rfl, hgiven⟩
    · exact .inr hscalar
    · exact .inl (.field hreaches hplanned hbuilt hgiven)
  · rintro _ after fault rfl herror
    exact hbad fault (Prod.mk.inj (hrun.symm.trans herror)).1

/-- What work keeps that goes from one item to the next, going through all of them keeps. -/
theorem Meets.foldlM {α β : Type} {good : β → Prop} {step : β → α → Build β} {items : List α}
    (hstep : ∀ item ∈ items, ∀ value, good value →
      Meets (· = registry) bad (fun value after => after = registry ∧ good value)
        (step value item)) {start : β} (hstart : good start) :
    Meets (· = registry) bad (fun value after => after = registry ∧ good value)
      (items.foldlM step start) := by
  induction items generalizing start with
  | nil => exact .pure fun _ heq => ⟨heq, hstart⟩
  | cons item items ih =>
    rw [List.foldlM_cons]
    refine .bind (hstep item List.mem_cons_self start hstart) fun value => .assume fun hvalue => ?_
    exact ih (fun other hother => hstep other (List.mem_cons_of_mem _ hother)) hvalue

/-! ### Gathering -/

/-- A fault of the types, or a bad one. -/
def IsWorse (bad : Fault → Prop) (fault : Fault) : Prop := fault.isTypeFault = true ∨ bad fault

/-- Nothing gathered is worse than bad. -/
def AreLegible (bad : Fault → Prop) (gathered : List Gathered) : Prop :=
  ∀ one ∈ gathered, one.IsLegible bad

/-- On the registry, which it leaves as it is, the work gathers types that are legible. -/
abbrev Gathers (bad : Fault → Prop) (registry : Registry) (work : Build (List Gathered)) : Prop :=
  Meets (· = registry) (IsWorse bad)
    (fun gathered after => after = registry ∧ AreLegible bad gathered) work

theorem interfaceList_error {info : TypeInfo} {fault : Fault}
    (h : info.interfaceList = .error fault) : fault.isTypeFault = true := by
  unfold TypeInfo.interfaceList at h
  split at h
  · cases h
  · split at h <;> cases h
    rfl

theorem ofForeign_error {value : Json} {fault : Fault}
    (h : Gathered.ofForeign value = .error fault) : fault.isTypeFault = true := by
  unfold Gathered.ofForeign at h
  split at h
  · cases h
  · split at h <;> cases h
    rfl

theorem ofForeign_areLegible {value : Json} {gathered : List Gathered}
    (h : Gathered.ofForeign value = .ok gathered) : AreLegible bad gathered := by
  unfold Gathered.ofForeign at h
  intro one hone name description values hdefinition
  split at h
  · cases h
    cases hone
  · split at h <;> cases h
    rw [List.mem_singleton.1 hone] at hdefinition
    cases hdefinition

theorem ofForeign_meets (value : Json) :
    Gathers bad registry (lift (Gathered.ofForeign value)) :=
  .lift (fun _ hfault => .inl (ofForeign_error hfault))
    fun _ _ hforeign heq => ⟨heq, ofForeign_areLegible hforeign⟩

theorem mapM_ofForeign_meets (values : List Json) : Meets (· = registry) (IsWorse bad)
    (fun foreign after => after = registry ∧ AreLegible bad foreign.flatten)
    (lift (values.mapM Gathered.ofForeign)) := by
  refine .lift (fun fault hfault => .inl ?_) fun foreign _ hforeign heq => ⟨heq, fun one hone => ?_⟩
  · obtain ⟨value, -, hvalue⟩ := mapM_error hfault
    exact ofForeign_error hvalue
  · obtain ⟨list, hlist, hone⟩ := List.mem_flatten.1 hone
    obtain ⟨value, -, hvalue⟩ := mapM_mem hforeign list hlist
    exact ofForeign_areLegible hvalue one hone

theorem get_meets {before : Registry → Prop} {bad : Fault → Prop} :
    Meets before bad (fun _ after => before after) (get : Build Registry) :=
  .of_on get_on fun _ hbefore => hbefore

/-- Gathering what can be reached. -/
theorem gather_meets (h : registry.IsReadable bad) {later : List GraphType.Identity} {fuel : Nat}
    {gathered : List Gathered} {type : GraphType} (hshows : registry.Shows type)
    (hgathered : AreLegible bad gathered) :
    Gathers bad registry (gather later fuel gathered type) := by
  induction fuel generalizing gathered type with
  | zero => exact .pure fun _ heq => ⟨heq, hgathered⟩
  | succ fuel ih =>
    rw [gather]
    simp only
    split
    · exact .pure fun _ heq => ⟨heq, hgathered⟩
    · have hnamed := hshows.named
      have hreaches (hno : ∀ kind, type.named ≠ .scalar kind) : registry.Reaches type.named :=
        hnamed.resolve_right fun ⟨kind, heq⟩ => hno kind heq
      have hadd (definition : Definition) (hone : Gathered.IsLegible bad
          ⟨some type.named.identity, some definition⟩) : AreLegible bad
            (gathered ++ [⟨some type.named.identity, some definition⟩]) :=
        List.forall_mem_append.2 ⟨hgathered, List.forall_mem_singleton.2 hone⟩
      cases htype : type.named with
      | object info plan =>
        rw [htype] at hreaches hadd
        simp only
        have hfields := (readFields_meets h (hreaches fun _ heq => nomatch heq)).mono
          fun _ hbad => (.inr hbad : IsWorse bad _)
        have hinterfaces : Meets (· = registry) (IsWorse bad) (fun _ after => after = registry)
            (lift info.interfaceList) :=
          .lift (fun _ hfault => .inl (interfaceList_error hfault)) fun _ _ _ heq => heq
        refine .bind hinterfaces fun interfaces => .bind (mapM_ofForeign_meets interfaces)
          fun foreign => .assume fun hforeign => .bind hfields fun fields =>
            .assume fun hshown => ?_
        refine Meets.foldlM (fun item hitem value hvalue => ih ?_ hvalue) ?_
        · obtain ⟨field, hfield, rfl⟩ := List.mem_map.1 hitem
          exact hshown field hfield
        · exact List.forall_mem_append.2 ⟨hadd _ fun _ _ _ heq => (nomatch heq), hforeign⟩
      | union info members =>
        rw [htype] at hreaches hadd
        refine Meets.foldlM (fun member hmember value hvalue => ih (.inl ?_) hvalue) ?_
        · exact (hreaches fun _ heq => nomatch heq).member hmember
        · exact hadd _ fun _ _ _ heq => (nomatch heq)
      | enum info values =>
        rw [htype] at hreaches hadd
        refine .pure fun _ heq => ⟨heq, hadd _ fun _ _ _ henum fault => ?_⟩
        cases henum
        exact h.enum info values (hreaches fun _ heq => nomatch heq) fault
      | scalar kind =>
        rw [htype] at hadd
        exact .pure fun _ heq => ⟨heq, hadd _ fun _ _ _ henum => nomatch henum⟩
      | foreign value =>
        exact .bind (ofForeign_meets value) fun foreign => .assume fun hforeign =>
          .pure fun _ heq => ⟨heq, List.forall_mem_append.2 ⟨hgathered, hforeign⟩⟩
      | list => exact .pure fun _ heq => ⟨heq, hgathered⟩
      | nonNull => exact .pure fun _ heq => ⟨heq, hgathered⟩

theorem gatherEntries_meets (h : registry.IsReadable bad) {types : List GraphType}
    (hshows : ∀ type ∈ types, registry.Shows type) {gathered : List Gathered}
    (hgathered : AreLegible bad gathered) :
    Gathers bad registry (gatherEntries gathered types) := by
  induction types generalizing gathered with
  | nil => exact .pure fun _ heq => ⟨heq, hgathered⟩
  | cons type rest ih =>
    rw [gatherEntries]
    refine .bind get_meets fun current => .bind (gather_meets h (hshows type List.mem_cons_self) ?_)
      fun value => .assume fun hvalue => ih (fun other hother => ?_) hvalue
    · exact fun one hone => hgathered one (List.mem_of_mem_filter hone)
    · exact hshows other (List.mem_cons_of_mem _ hother)

end Build

/-- What the fields of the root lead to can be read, and what is wrong with their names is bad. -/
def RootType.IsReadable (bad : Fault → Prop) (registry : Registry) (root : RootType) : Prop :=
  ∀ field ∈ root.fields, registry.Shows field.type ∧
    ∀ fault, checkFieldName field.name = .error fault → bad fault

/-- The values of the schema's enums have no faults that are worse than bad. -/
def Schema.IsLegible (bad : Fault → Prop) (schema : Schema) : Prop :=
  ∀ name description values, .enum name description values ∈ schema.definitions →
    ∀ fault, values.checked = .error fault → bad fault

namespace Build

variable {bad : Fault → Prop} {registry : Registry}

theorem gatherRoot_meets (h : registry.IsReadable bad) {root : RootType}
    (hroot : root.IsReadable bad registry) {gathered : List Gathered}
    (hgathered : AreLegible bad gathered) :
    Gathers bad registry (gatherRoot gathered root) := by
  refine .bind (.lift (fun fault hfault => .inr ?_) fun _ _ _ heq => heq) fun names =>
    .bind get_meets fun current => Meets.foldlM (fun type htype value hvalue => ?_) ?_
  · obtain ⟨field, hfield, hcheck⟩ := mapM_error hfault
    exact (hroot field hfield).2 fault hcheck
  · obtain ⟨field, hfield, rfl⟩ := List.mem_map.1 htype
    exact gather_meets h (hroot field hfield).1 hvalue
  · refine List.forall_mem_append.2 ⟨hgathered, List.forall_mem_singleton.2 ?_⟩
    exact fun _ _ _ heq => nomatch heq

theorem nameFault?_isTypeFault {before : List String} {gathered : List Gathered} {fault : Fault}
    (h : Gathered.nameFault? before gathered = some fault) : fault.isTypeFault = true := by
  induction gathered generalizing before with
  | nil => cases h
  | cons one rest ih =>
    rw [Gathered.nameFault?] at h
    split at h
    · cases h
      rfl
    · split at h
      · cases h
        rfl
      · exact ih h

/-- Assembling fails for a fault of the types or a bad one. -/
theorem assemble_meets (h : registry.IsReadable bad) {types : List GraphType} {roots : Roots}
    (htypes : ∀ type ∈ types, registry.Shows type)
    (hroots : ∀ root ∈ [roots.query?, roots.mutation?, roots.subscription?].filterMap id,
      root.IsReadable bad registry) :
    Meets (· = registry) (IsWorse bad)
      (fun schema after => after = registry ∧ schema.IsLegible bad) (assemble types roots) := by
  refine .bind (gatherEntries_meets h htypes fun _ hone => nomatch hone) fun entries =>
    .assume fun hentries => .bind (Meets.foldlM (fun root hroot value hvalue =>
      gatherRoot_meets h (hroots root hroot) hvalue) hentries) fun gathered =>
        .assume fun hgathered => ?_
  split
  · rename_i fault hfault
    exact .throw (.inl (nameFault?_isTypeFault hfault))
  · refine .pure fun _ heq => ⟨heq, fun name description values hdefinition => ?_⟩
    obtain ⟨one, hone, hdefinition⟩ := List.mem_filterMap.1 hdefinition
    exact hgathered one hone name description values hdefinition

end Build

/-! ### Validating -/

/-- Validating fails because the schema is invalid, or for a bad name. -/
theorem Schema.validate_error {bad : Fault → Prop}
    (hbad : ∀ fault, Command.isConversionFault fault = true → bad fault) {schema : Schema}
    (h : schema.IsLegible bad) {fault : Fault} (hfault : schema.validate = .error fault) :
    bad fault := by
  rcases bind_error hfault with hproblems | ⟨problems, -, hrest⟩
  · rcases bind_error hproblems with hdefinitions | ⟨_, -, hrest⟩
    · obtain ⟨definition, hdefinition, hproblem⟩ := mapM_error hdefinitions
      cases definition with
      | enum name description values =>
        rcases bind_error hproblem with hvalues | ⟨_, -, hrest⟩
        · exact h name description values hdefinition fault hvalues
        · cases hrest
      | _ => cases hproblem
    · cases hrest
  · split at hrest <;> cases hrest
    exact hbad _ rfl

end SchemaGraph
