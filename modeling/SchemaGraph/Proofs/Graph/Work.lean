import SchemaGraph.Graph.Pending
import SchemaGraph.Proofs.Failure.Steps

/-! What work leaves behind.

Building types touches a registry in few ways: it uses up keys, it writes the
journal, and it queues plans. It enters nothing, and the fields built before stay
as they are (`Registry.Extends`). Whether it fails on the way makes no difference
to that. `buildType_adds` says so for the types of shapes, together with what the
queued plans are: the plans of the objects that a shape has outside the properties
of other objects (`Shape.Defers`).

Making a named type depends on the registry for nothing but its key, so what is
made is a function of the key (`Setting.info`, `Setting.enumOf`). -/
namespace SchemaGraph

namespace Shape

/-- A statement about all shapes follows shape by shape. -/
@[elab_as_elim, induction_eliminator]
theorem induct {motive : Shape → Prop}
    (union : ∀ site cases, (∀ entry ∈ cases, motive entry.2) → motive (union site cases))
    (object : ∀ site required properties, (∀ entry ∈ properties, motive entry.2) →
      motive (object site required properties))
    (array : ∀ site items, motive items → motive (array site items))
    (bareArray : ∀ site, motive (bareArray site))
    (enum : ∀ site values base, motive (enum site values base))
    (reference : ∀ site target, motive (reference site target))
    (primitive : ∀ site kind, motive (primitive site kind))
    (unrecognized : ∀ site type, motive (unrecognized site type)) (shape : Shape) :
    motive shape := by
  refine Shape.rec (motive_1 := motive)
    (motive_2 := fun entries => ∀ entry ∈ entries, motive entry.2)
    (motive_3 := fun entry => motive entry.2) union object array bareArray enum reference
    primitive unrecognized ?_ ?_ ?_ shape
  · intro entry h
    cases h
  · intro head rest hhead hrest
    exact List.forall_mem_cons.2 ⟨hhead, hrest⟩
  · intro _ _ h
    exact h

/-- The plans that building a shape queues: those of its objects, but not of the objects
among their properties. -/
inductive Defers (setting : Setting) : String → Shape → FieldPlan → Prop where
  | object {position site required properties} (key : Nat) :
    Defers setting position (.object site required properties)
      { key, owner := Name.typeName position, required, properties, setting }
  | case {position site cases key shape plan} (hcase : (key, shape) ∈ cases)
      (h : Defers setting s!"{Name.typeName position}.oneOf[{key}]" shape plan) :
    Defers setting position (.union site cases) plan
  | item {position site items plan} (h : Defers setting position items plan) :
    Defers setting position (.array site items) plan

end Shape

/-- The plans that building the fields of `plan` queues. -/
def FieldPlan.Defers (plan inner : FieldPlan) : Prop :=
  ∃ entry ∈ plan.properties,
    Shape.Defers plan.setting s!"{plan.owner}.{entry.1}" entry.2 inner

/-! ### Growth -/

namespace Registry

/-- The registry `before` with more plans queued, keys used up and the journal written on. -/
structure Extends (before : Registry) (added : List FieldPlan) (after : Registry) : Prop where
  entries : after.entries = before.entries
  built : after.built = before.built
  plans : after.plans = before.plans ++ added
  pending : after.pending = before.pending ++ added
  nextKey : before.nextKey ≤ after.nextKey

namespace Extends

theorem refl (registry : Registry) : registry.Extends [] registry :=
  ⟨rfl, rfl, (List.append_nil _).symm, (List.append_nil _).symm, Nat.le_refl _⟩

theorem trans {first second third : Registry} {added more : List FieldPlan}
    (h : first.Extends added second) (h' : second.Extends more third) :
    first.Extends (added ++ more) third where
  entries := h'.entries.trans h.entries
  built := h'.built.trans h.built
  plans := by rw [h'.plans, h.plans, List.append_assoc]
  pending := by rw [h'.pending, h.pending, List.append_assoc]
  nextKey := Nat.le_trans h.nextKey h'.nextKey

end Extends

/-- Every plan there ever was has its fields. -/
def IsBuilt (registry : Registry) : Prop :=
  ∀ plan ∈ registry.plans, (registry.built.lookup plan.key).isSome

end Registry

namespace Build

/-- Work that extends every registry by plans of one sort, whether it succeeds or not. -/
structure Adds {α : Type} (sort : FieldPlan → Prop) (work : Build α) : Prop where
  adds (registry : Registry) : ∃ added,
    registry.Extends added (work.on registry).2 ∧ ∀ plan ∈ added, sort plan

namespace Adds

variable {α β : Type} {sort : FieldPlan → Prop}

theorem mono {wider : FieldPlan → Prop} {work : Build α} (h : Adds sort work)
    (hsort : ∀ plan, sort plan → wider plan) : Adds wider work where
  adds registry :=
    let ⟨added, hextends, hadded⟩ := h.adds registry
    ⟨added, hextends, fun plan hplan => hsort plan (hadded plan hplan)⟩

/-- Work that queues nothing. -/
theorem of_extends {work : Build α}
    (h : ∀ registry : Registry, registry.Extends [] (work.on registry).2) : Adds sort work :=
  ⟨fun registry => ⟨[], h registry, by simp⟩⟩

theorem pure (value : α) : Adds sort (Pure.pure value : Build α) :=
  of_extends fun registry => .refl registry

theorem throw (fault : Fault) : Adds sort (MonadExcept.throw fault : Build α) :=
  of_extends fun registry => .refl registry

theorem bind {work : Build α} {next : α → Build β} (h : Adds sort work)
    (hnext : ∀ value, Adds sort (next value)) : Adds sort (work >>= next) := by
  refine ⟨fun registry => ?_⟩
  obtain ⟨added, hextends, hadded⟩ := h.adds registry
  rw [on_bind]
  rcases hrun : work.on registry with ⟨_ | value, after⟩ <;> rw [hrun] at hextends
  · exact ⟨added, hextends, hadded⟩
  · obtain ⟨more, hextends', hmore⟩ := (hnext value).adds after
    refine ⟨added ++ more, hextends.trans hextends', fun plan hplan => ?_⟩
    exact (List.mem_append.1 hplan).elim (hadded plan) (hmore plan)

end Adds

/-! ### Single steps -/

theorem lift_on {α : Type} (result : Except Fault α) (registry : Registry) :
    (lift result).on registry = (result, registry) := rfl

theorem lift_ok {α : Type} {result : Except Fault α} {value : α} {registry after : Registry}
    (h : (lift result).on registry = (.ok value, after)) :
    result = .ok value ∧ after = registry :=
  ⟨congrArg Prod.fst h, (congrArg Prod.snd h).symm⟩

theorem record_on (event : Event) (registry : Registry) :
    (record event).on registry =
      (.ok (), { registry with journal := registry.journal ++ [event] }) := rfl

theorem freshKey_on (registry : Registry) :
    freshKey.on registry =
      (.ok registry.nextKey, { registry with nextKey := registry.nextKey + 1 }) := rfl

theorem defer_on (plan : FieldPlan) (registry : Registry) :
    (defer plan).on registry = (.ok (),
      { registry with
        pending := registry.pending ++ [plan], plans := registry.plans ++ [plan] }) := rfl

theorem get_on (registry : Registry) :
    (get : Build Registry).on registry = (.ok registry, registry) := rfl

theorem find?_on (id : Json) (registry : Registry) :
    (find? id).on registry =
      (if id.isKey then .ok (registry.find? id) else .error (.wrongKind .key), registry) := by
  unfold find? keyOf
  cases id.isKey <;> rfl

theorem enter_on (id : Json) (type : GraphType) (registry : Registry) (hid : id.isKey = true) :
    (enter id type).on registry =
      (.ok (), { registry with entries := Registry.setEntry id type registry.entries }) := by
  unfold enter keyOf
  rw [if_pos hid]
  rfl

theorem on_tryCatch {α : Type} (work : Build α) (handle : Fault → Build α)
    (registry : Registry) : (tryCatch work handle : Build α).on registry =
      match work.on registry with
      | (.ok value, after) => (.ok value, after)
      | (.error fault, after) => (handle fault).on after := by
  simp only [on, tryCatch, tryCatchThe, MonadExceptOf.tryCatch, ExceptT.tryCatch,
    ExceptT.run_mk, StateT.run_bind, Id.run_bind]
  rcases hrun : (StateT.run work.run registry).run with ⟨fault | value, after⟩ <;>
    rw [show (StateT.run (work : StateM Registry (Except Fault α)) registry).run = _ from hrun] <;>
    rfl

/-- Work without a fault is work with a result. -/
theorem on_eq_of_isOk {work : Build Unit} {registry : Registry}
    (h : (work.on registry).1.isOk = true) :
    work.on registry = (.ok (), (work.on registry).2) := by
  rcases hrun : work.on registry with ⟨fault | value, after⟩
  · rw [hrun] at h
    cases h
  · rfl

/-- Work that succeeded did so step by step. -/
theorem on_bind_ok {α β : Type} {work : Build α} {next : α → Build β}
    {registry after : Registry} {result : β}
    (h : (work >>= next).on registry = (.ok result, after)) : ∃ value middle,
      work.on registry = (.ok value, middle) ∧ (next value).on middle = (.ok result, after) := by
  rw [on_bind] at h
  rcases hrun : work.on registry with ⟨_ | value, middle⟩ <;> rw [hrun] at h
  · cases h
  · exact ⟨value, middle, rfl, h⟩

end Build

/-! ### Making named types -/

/-- What a draft makes of a key: the common part of a named type. -/
def Draft.info (draft : Draft) (key : Nat) : Except Fault TypeInfo := do
  let name ← Build.checkDraft draft
  return {
    key, name, description := draft.description, extensions := draft.extensions
    interfaces := draft.interfaces, fields? := draft.fields? }

theorem Draft.info_key {draft : Draft} {key : Nat} {info : TypeInfo}
    (h : draft.info key = .ok info) : info.key = key := by
  obtain ⟨name, -, h⟩ := bind_ok h
  cases h
  rfl

namespace Setting

/-- The draft of a named type. Types of no form are not customized. -/
def draft (setting : Setting) (form? : Option TypeForm) (name : String) (site : Site) :
    Except Fault Draft :=
  let plain : Draft := { name := .str name, description := describe site.title site.description }
  match form?, setting.customize? with
  | some form, some customize => plain.updated form (customize name form)
  | _, _ => .ok plain

/-- The common part of a named type. -/
def info (setting : Setting) (form? : Option TypeForm) (name : String) (site : Site)
    (key : Nat) : Except Fault TypeInfo := do
  (← setting.draft form? name site).info key

theorem info_key {setting : Setting} {form? : Option TypeForm} {name : String} {site : Site}
    {key : Nat} {info : TypeInfo} (h : setting.info form? name site key = .ok info) :
    info.key = key := by
  obtain ⟨draft, -, h⟩ := bind_ok h
  exact Draft.info_key h

/-- The values of an enum by key, if its base type is the text type. -/
def valuesOf (name : String) (literals : List Json) (base : Json) :
    Except Fault (List (String × Json)) :=
  if base.equal (.str "string") then enumValues name literals
  else .error (.unsupportedEnum name)

/-- An enum of checked values. -/
def enumOf (setting : Setting) (name : String) (site : Site) (literals : List Json)
    (base : Json) (key : Nat) : Except Fault GraphType := do
  let values ← valuesOf name literals base
  let draft ← setting.draft (some .enum) name site
  let info ← draft.info key
  return .enum info ((draft.values?.map .ofJson).getD (.ofValues values))

theorem enumOf_ok {setting : Setting} {name : String} {site : Site} {literals : List Json}
    {base : Json} {key : Nat} {type : GraphType}
    (h : setting.enumOf name site literals base key = .ok type) :
    ∃ info values, type = .enum info values ∧ info.key = key := by
  obtain ⟨values, -, h⟩ := bind_ok h
  obtain ⟨draft, -, h⟩ := bind_ok h
  obtain ⟨info, hinfo, h⟩ := bind_ok h
  cases h
  exact ⟨info, _, rfl, Draft.info_key hinfo⟩

end Setting

namespace Build

theorem makeInfo_on (draft : Draft) (registry : Registry) :
    (makeInfo draft).on registry = match draft.info registry.nextKey with
      | .ok info => (.ok info, { registry with nextKey := registry.nextKey + 1 })
      | .error fault => (.error fault, registry) := by
  unfold makeInfo Draft.info
  cases checkDraft draft <;> rfl

theorem customize_on (setting : Setting) (name : String) (form : TypeForm) (site : Site)
    (registry : Registry) : ∃ journal,
      (customize setting name form
        { name := .str name, description := describe site.title site.description }).on registry =
        (setting.draft (some form) name site, { registry with journal }) := by
  unfold customize Setting.draft
  cases setting.customize? with
  | none => exact ⟨registry.journal, rfl⟩
  | some customize => exact ⟨registry.journal ++ [.customized name form], rfl⟩

theorem buildEnum_on (setting : Setting) (name : String) (site : Site) (literals : List Json)
    (base : Json) (registry : Registry) : ∃ journal,
      (buildEnum setting name site literals base).on registry =
        match setting.enumOf name site literals base registry.nextKey with
        | .ok type => (.ok type, { registry with nextKey := registry.nextKey + 1, journal })
        | .error fault => (.error fault, { registry with journal }) := by
  unfold buildEnum Setting.enumOf
  rw [on_bind, lift_on, ← Setting.valuesOf]
  rcases Setting.valuesOf name literals base with fault | values
  · exact ⟨registry.journal, rfl⟩
  obtain ⟨journal, hcustomize⟩ := customize_on setting name .enum site registry
  simp only [on_bind, hcustomize, record_on, makeInfo_on]
  rcases setting.draft (some .enum) name site with fault | draft
  · exact ⟨journal, rfl⟩
  refine ⟨journal ++ [.builtEnum name values.length], ?_⟩
  simp only [bind, Except.bind]
  cases draft.info registry.nextKey <;> rfl

/-- A union, whose members are already there. -/
theorem buildUnion_on (setting : Setting) (position : String) (site : Site)
    (cases : List (String × Shape)) (registry : Registry) : ∃ journal,
      (buildType setting position (.union site cases)).on registry =
        match (buildCases setting (Name.typeName position) cases).on registry with
        | (.ok members, after) =>
          match setting.info none (Name.typeName position) site after.nextKey with
          | .ok info =>
            (.ok (.union info members), { after with nextKey := after.nextKey + 1, journal })
          | .error fault => (.error fault, { after with journal })
        | (.error fault, after) => (.error fault, after) := by
  simp only [buildType, on_bind, record_on, makeInfo_on]
  rcases (buildCases setting (Name.typeName position) cases).on registry with
    ⟨fault | members, after⟩
  · exact ⟨registry.journal, rfl⟩
  refine ⟨after.journal ++ [.builtUnion (Name.typeName position) members.length], ?_⟩
  simp only [Setting.info, Setting.draft, bind, Except.bind]
  cases Draft.info _ after.nextKey <;> rfl

/-- The registry after a plan got the next key and its place in the queue. -/
def planned (registry : Registry) (plan : FieldPlan) : Registry :=
  { registry with
    nextKey := registry.nextKey + 1
    pending := registry.pending ++ [plan]
    plans := registry.plans ++ [plan] }

/-- An object, whose plan is queued before anything is checked. -/
theorem buildObject_on (setting : Setting) (name : String) (site : Site) (required : List Json)
    (properties : List (String × Shape)) (registry : Registry) : ∃ journal,
      (buildObject setting name site required properties).on registry =
        let plan : FieldPlan :=
          { key := registry.nextKey, owner := name, required, properties, setting }
        let after := planned registry plan
        match setting.info (some .object) name site after.nextKey with
        | .ok info =>
          (.ok (.object info plan), { after with nextKey := after.nextKey + 1, journal })
        | .error fault => (.error fault, { after with journal }) := by
  unfold buildObject
  simp only [on_bind, freshKey_on, defer_on]
  obtain ⟨journal, hcustomize⟩ := customize_on setting name .object site
    (planned registry { key := registry.nextKey, owner := name, required, properties, setting })
  simp only [planned] at hcustomize
  simp only [hcustomize, record_on, makeInfo_on, Setting.info]
  rcases setting.draft (some .object) name site with fault | draft
  · exact ⟨journal, rfl⟩
  refine ⟨journal ++ [.builtObject name], ?_⟩
  simp only [planned, bind, Except.bind]
  cases draft.info (registry.nextKey + 1) <;> rfl

/-! ### What building adds -/

theorem buildEnum_adds {sort : FieldPlan → Prop} (setting : Setting) (name : String)
    (site : Site) (literals : List Json) (base : Json) :
    Adds sort (buildEnum setting name site literals base) := by
  refine .of_extends fun registry => ?_
  obtain ⟨journal, hrun⟩ := buildEnum_on setting name site literals base registry
  rw [hrun]
  cases setting.enumOf name site literals base registry.nextKey with
  | ok type => exact ⟨rfl, rfl, by simp, by simp, Nat.le_succ _⟩
  | error fault => exact ⟨rfl, rfl, by simp, by simp, Nat.le_refl _⟩

theorem buildObject_adds (setting : Setting) (position : String) (site : Site)
    (required : List Json) (properties : List (String × Shape)) :
    Adds (Shape.Defers setting position (.object site required properties))
      (buildObject setting (Name.typeName position) site required properties) := by
  refine ⟨fun registry => ?_⟩
  obtain ⟨journal, hrun⟩ :=
    buildObject_on setting (Name.typeName position) site required properties registry
  refine ⟨[_], ?_, List.forall_mem_singleton.2 (.object registry.nextKey)⟩
  rw [hrun]
  simp only [planned]
  cases setting.info (some .object) (Name.typeName position) site (registry.nextKey + 1) with
  | ok info => exact ⟨rfl, rfl, rfl, rfl, by simp only; omega⟩
  | error fault => exact ⟨rfl, rfl, rfl, rfl, by simp only; omega⟩

theorem buildCases_adds (setting : Setting) (owner : String) (cases : List (String × Shape))
    (h : ∀ entry ∈ cases, ∀ position,
      Adds (Shape.Defers setting position entry.2) (buildType setting position entry.2)) :
    Adds (fun plan => ∃ entry ∈ cases,
      Shape.Defers setting s!"{owner}.oneOf[{entry.1}]" entry.2 plan)
      (buildCases setting owner cases) := by
  induction cases with
  | nil => exact .pure []
  | cons head rest ih =>
    obtain ⟨key, shape⟩ := head
    rw [buildCases]
    refine .bind (.mono (h (key, shape) List.mem_cons_self _) fun plan hplan =>
      ⟨(key, shape), List.mem_cons_self, hplan⟩) fun member => .bind ?_ fun members => .pure _
    refine .mono (ih fun entry hentry => h entry (List.mem_cons_of_mem _ hentry)) ?_
    rintro plan ⟨entry, hentry, hplan⟩
    exact ⟨entry, List.mem_cons_of_mem _ hentry, hplan⟩

/-- Building a type queues the plans of the objects that its shape has outside the properties
of other objects, and does nothing else that lasts. -/
theorem buildType_adds (setting : Setting) (position : String) (shape : Shape) :
    Adds (Shape.Defers setting position shape) (buildType setting position shape) := by
  induction shape generalizing position with
  | union site cases ih =>
    refine ⟨fun registry => ?_⟩
    obtain ⟨added, hextends, hadded⟩ := (buildCases_adds setting (Name.typeName position) cases
      fun entry hentry position => ih entry hentry position).adds registry
    refine ⟨added, ?_, fun plan hplan => ?_⟩
    · obtain ⟨journal, hrun⟩ := buildUnion_on setting position site cases registry
      rw [hrun]
      rcases hcases : (buildCases setting (Name.typeName position) cases).on registry with
        ⟨fault | members, after⟩ <;> rw [hcases] at hextends
      · exact hextends
      · simp only
        cases setting.info none (Name.typeName position) site after.nextKey with
        | ok info => exact ⟨hextends.entries, hextends.built, hextends.plans, hextends.pending,
            Nat.le_succ_of_le hextends.nextKey⟩
        | error fault => exact ⟨hextends.entries, hextends.built, hextends.plans,
            hextends.pending, hextends.nextKey⟩
    · obtain ⟨⟨key, shape⟩, hentry, hdefers⟩ := hadded plan hplan
      exact .case hentry hdefers
  | object site required properties ih =>
    exact buildObject_adds setting position site required properties
  | array site items ih =>
    refine .bind (.mono (ih position) fun plan => .item) fun item => .bind ?_ fun key => .pure _
    exact .of_extends fun registry => ⟨rfl, rfl, by simp [freshKey_on], by simp [freshKey_on],
      Nat.le_succ _⟩
  | bareArray site => exact .throw _
  | enum site literals base => exact buildEnum_adds ..
  | reference site target =>
    refine .bind (.of_extends fun registry => ?_) fun found? => ?_
    · rw [find?_on]
      exact .refl registry
    · cases found? with
      | some type => exact .pure type
      | none => exact .throw _
  | primitive site kind => exact .pure _
  | unrecognized site type => exact .throw _

theorem buildFields_adds (setting : Setting) (owner : String) (required : List Json)
    (done : List Field) (properties : List (String × Shape)) :
    Adds (fun plan => ∃ entry ∈ properties,
      Shape.Defers setting s!"{owner}.{entry.1}" entry.2 plan)
      (buildFields setting owner required done properties) := by
  induction properties generalizing done with
  | nil => exact .pure done
  | cons head rest ih =>
    obtain ⟨property, shape⟩ := head
    rw [buildFields]
    split
    · exact .throw _
    · refine .bind (.mono (buildType_adds setting _ shape) fun plan hplan =>
        ⟨(property, shape), List.mem_cons_self, hplan⟩) fun type => .mono (ih _) ?_
      rintro plan ⟨entry, hentry, hplan⟩
      exact ⟨entry, List.mem_cons_of_mem _ hentry, hplan⟩

theorem buildPlan_adds (plan : FieldPlan) : Adds plan.Defers (buildPlan plan) := by
  unfold buildPlan FieldPlan.Defers
  split
  · exact .bind (.of_extends fun registry => .refl registry) fun name => .pure _
  · exact .bind (buildFields_adds ..) fun fields => .pure _

/-- Fields are built at most once, and kept only if nothing failed. -/
theorem fieldsOf_on (plan : FieldPlan) (registry : Registry) :
    (fieldsOf plan).on registry = match registry.built.lookup plan.key with
      | some fields => (.ok fields, registry)
      | none => match (buildPlan plan).on registry with
        | (.ok fields, after) =>
          (.ok fields, { after with built := (plan.key, fields) :: after.built })
        | (.error fault, after) => (.error fault, after) := by
  simp only [fieldsOf, on_bind, get_on]
  cases hbuilt : registry.built.lookup plan.key with
  | some fields => rfl
  | none =>
    simp only [on_bind]
    rcases (buildPlan plan).on registry with ⟨_ | _, _⟩ <;> rfl

/-- Whether the fields of a plan are built or not, the plans that they defer are all that is
queued. -/
theorem fieldsOf_queues (plan : FieldPlan) (registry : Registry) : ∃ added,
    ((fieldsOf plan).on registry).2.pending = registry.pending ++ added ∧
      ((fieldsOf plan).on registry).2.plans = registry.plans ++ added ∧
        ∀ inner ∈ added, plan.Defers inner := by
  obtain ⟨added, hextends, hadded⟩ := (buildPlan_adds plan).adds registry
  rw [fieldsOf_on]
  split
  · exact ⟨[], (List.append_nil _).symm, (List.append_nil _).symm, by simp⟩
  · split <;> rename_i hrun <;> rw [hrun] at hextends <;>
      exact ⟨added, hextends.pending, hextends.plans, hadded⟩

/-- Fields that are built for one plan take nothing away from another. -/
theorem isSome_lookup_cons {key : Nat} {built : List (Nat × FieldMap)} (other : Nat)
    (fields : FieldMap) (h : (built.lookup key).isSome) :
    (((other, fields) :: built).lookup key).isSome := by
  rw [List.lookup_cons]
  split
  · rfl
  · exact h

/-- Once its fields are there, a plan is built, and so are all that were before. -/
theorem fieldsOf_built {plan : FieldPlan} {fields : FieldMap} {registry after : Registry}
    (hrun : (fieldsOf plan).on registry = (.ok fields, after)) :
    (after.built.lookup plan.key).isSome ∧
      ∀ key, (registry.built.lookup key).isSome → (after.built.lookup key).isSome := by
  rw [fieldsOf_on] at hrun
  split at hrun
  · rename_i hbuilt
    cases hrun
    exact ⟨by rw [hbuilt]; rfl, fun key hkey => hkey⟩
  · obtain ⟨added, hextends, -⟩ := (buildPlan_adds plan).adds registry
    split at hrun <;> rename_i hplan <;> rw [hplan] at hextends <;> cases hrun
    refine ⟨by rw [List.lookup_cons_self]; rfl, fun key hkey => isSome_lookup_cons _ _ ?_⟩
    rw [hextends.built]
    exact hkey

/-! ### No entries are made -/

theorem buildType_entries (setting : Setting) (position : String) (shape : Shape)
    (registry : Registry) :
    ((buildType setting position shape).on registry).2.entries = registry.entries :=
  let ⟨_, hextends, _⟩ := (buildType_adds setting position shape).adds registry
  hextends.entries

theorem buildPlan_entries (plan : FieldPlan) (registry : Registry) :
    ((buildPlan plan).on registry).2.entries = registry.entries :=
  let ⟨_, hextends, _⟩ := (buildPlan_adds plan).adds registry
  hextends.entries

theorem fieldsOf_entries (plan : FieldPlan) (registry : Registry) :
    ((fieldsOf plan).on registry).2.entries = registry.entries := by
  have hentries := buildPlan_entries plan registry
  rw [fieldsOf_on]
  split
  · rfl
  · split <;> rename_i hrun <;> rw [hrun] at hentries <;> exact hentries

/-- What taking plans off the queue and building their fields preserve, draining the queue
preserves, whether it succeeds or not. -/
theorem drain_preserves {p : Registry → Prop}
    (hjournal : ∀ registry journal, p registry → p { registry with journal })
    (hpop : ∀ registry plan rest, registry.pending = plan :: rest → p registry →
      p { registry with pending := rest })
    (hfieldsOf : ∀ registry plan rest, registry.pending = plan :: rest → p registry →
      p ((fieldsOf plan).on { registry with pending := rest }).2)
    (resolved : Nat) {registry : Registry} (h : p registry) : p (drain resolved registry).2 := by
  fun_induction drain resolved registry with
  | case1 resolved registry hpending => exact hjournal registry _ h
  | case2 resolved registry plan rest hpending popped hload hbuilt =>
    rename_i ih
    exact ih (hpop registry plan rest hpending h)
  | case3 resolved registry plan rest hpending popped hload hbuilt fields middle =>
    rename_i hrun ih
    have hmiddle := hfieldsOf registry plan rest hpending h
    rw [hrun] at hmiddle
    exact ih hmiddle
  | case4 resolved registry plan rest hpending popped hload hbuilt fault middle =>
    rename_i hrun
    have hmiddle := hfieldsOf registry plan rest hpending h
    rw [hrun] at hmiddle
    exact hmiddle

theorem drain_entries (resolved : Nat) (registry : Registry) :
    (drain resolved registry).2.entries = registry.entries :=
  drain_preserves (p := fun after => after.entries = registry.entries) (fun _ _ h => h)
    (fun _ _ _ _ h => h) (fun _ plan _ _ h => (fieldsOf_entries plan _).trans h) resolved rfl

end Build
end SchemaGraph
