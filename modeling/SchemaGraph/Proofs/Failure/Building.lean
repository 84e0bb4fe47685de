import SchemaGraph.Command.Run
import SchemaGraph.Proofs.Graph.Legality
import SchemaGraph.Proofs.Graph.Parts

/-! Why types cannot be built.

Building stops with a fault, and some faults are the documents' own: an unknown type, a
reference that leads nowhere, two properties with one field name
(`Command.isConversionFault`). The others come from names. `Shape.namings` lists the names
that a shape calls for. If what is wrong with the names in a shape and its parts is bad,
then whatever goes wrong with building its type is the document's own or bad
(`buildType_failsBy`), and so it is for the fields of its objects (`drain_error`). -/
namespace SchemaGraph

/-! ### What work gives -/

namespace Build

/-- On a registry with `before`, the work gives a result with `good` or a fault with `bad`. -/
structure Meets {α : Type} (before : Registry → Prop) (bad : Fault → Prop)
    (good : α → Registry → Prop) (work : Build α) : Prop where
  ok (registry after : Registry) (value : α) (h : before registry)
    (hrun : work.on registry = (.ok value, after)) : good value after
  error (registry after : Registry) (fault : Fault) (h : before registry)
    (hrun : work.on registry = (.error fault, after)) : bad fault

/-- Whatever the registry, the work has no fault without `bad`. -/
abbrev FailsBy {α : Type} (bad : Fault → Prop) (work : Build α) : Prop :=
  Meets (fun _ => True) bad (fun _ _ => True) work

namespace Meets

variable {α β : Type} {before : Registry → Prop} {bad : Fault → Prop}

theorem pure {good : α → Registry → Prop} {value : α}
    (h : ∀ registry, before registry → good value registry) :
    Meets before bad good (Pure.pure value) where
  ok _ _ _ hbefore hrun := by
    cases hrun
    exact h _ hbefore
  error _ _ _ _ hrun := nomatch hrun

theorem throw {good : α → Registry → Prop} {fault : Fault} (h : bad fault) :
    Meets before bad good (MonadExcept.throw fault) where
  ok _ _ _ _ hrun := nomatch hrun
  error _ _ _ _ hrun := by
    cases hrun
    exact h

theorem lift {good : α → Registry → Prop} {result : Except Fault α}
    (herror : ∀ fault, result = .error fault → bad fault)
    (hok : ∀ value registry, result = .ok value → before registry → good value registry) :
    Meets before bad good (Build.lift result) where
  ok _ _ _ hbefore hrun := by
    rw [lift_on] at hrun
    cases hrun
    exact hok _ _ rfl hbefore
  error _ _ _ _ hrun := by
    rw [lift_on] at hrun
    cases hrun
    exact herror _ rfl

theorem bind {middle : α → Registry → Prop} {good : β → Registry → Prop} {work : Build α}
    {next : α → Build β} (h : Meets before bad middle work)
    (hnext : ∀ value, Meets (middle value) bad good (next value)) :
    Meets before bad good (work >>= next) where
  ok registry after value hbefore hrun := by
    obtain ⟨_, _, hfirst, hsecond⟩ := on_bind_ok hrun
    exact (hnext _).ok _ _ _ (h.ok _ _ _ hbefore hfirst) hsecond
  error registry after fault hbefore hrun := by
    rw [on_bind] at hrun
    rcases hfirst : work.on registry with ⟨first | value, between⟩ <;> rw [hfirst] at hrun
    · cases hrun
      exact h.error _ _ _ hbefore hfirst
    · exact (hnext value).error _ _ _ (h.ok _ _ _ hbefore hfirst) hrun

/-- More may be known before. -/
theorem weaken {weaker : Registry → Prop} {good : α → Registry → Prop} {work : Build α}
    (h : Meets weaker bad good work) (hbefore : ∀ registry, before registry → weaker registry) :
    Meets before bad good work where
  ok _ _ _ hregistry hrun := h.ok _ _ _ (hbefore _ hregistry) hrun
  error _ _ _ hregistry hrun := h.error _ _ _ (hbefore _ hregistry) hrun

/-- What is known of the work before it starts may be used. -/
theorem assume {good : α → Registry → Prop} {work : Build α} {p : Prop}
    (h : p → Meets before bad good work) :
    Meets (fun registry => before registry ∧ p) bad good work where
  ok _ _ _ hbefore hrun := (h hbefore.2).ok _ _ _ hbefore.1 hrun
  error _ _ _ hbefore hrun := (h hbefore.2).error _ _ _ hbefore.1 hrun

/-- Work may be looked at on one registry at a time. -/
theorem of_forall {good : α → Registry → Prop} {work : Build α}
    (h : ∀ registry, before registry → Meets (· = registry) bad good work) :
    Meets before bad good work where
  ok registry _ _ hbefore hrun := (h registry hbefore).ok _ _ _ rfl hrun
  error registry _ _ hbefore hrun := (h registry hbefore).error _ _ _ rfl hrun

/-- More faults may be bad. -/
theorem mono {worse : Fault → Prop} {good : α → Registry → Prop} {work : Build α}
    (h : Meets before bad good work) (hbad : ∀ fault, bad fault → worse fault) :
    Meets before worse good work where
  ok := h.ok
  error _ _ _ hbefore hrun := hbad _ (h.error _ _ _ hbefore hrun)

/-- Work without faults. -/
theorem of_on {good : α → Registry → Prop} {work : Build α} {value : Registry → α}
    {after : Registry → Registry}
    (hrun : ∀ registry, work.on registry = (.ok (value registry), after registry))
    (h : ∀ registry, before registry → good (value registry) (after registry)) :
    Meets before bad good work where
  ok registry _ _ hbefore hok := by
    rw [hrun] at hok
    cases hok
    exact h _ hbefore
  error registry _ _ _ herror := by
    rw [hrun] at herror
    cases herror

end Meets

namespace FailsBy

variable {α β : Type} {bad : Fault → Prop}

theorem pure (value : α) : FailsBy bad (Pure.pure value) := Meets.pure fun _ _ => trivial

theorem throw {fault : Fault} (h : bad fault) : FailsBy bad (MonadExcept.throw fault : Build α) :=
  Meets.throw h

theorem lift {result : Except Fault α} (h : ∀ fault, result = .error fault → bad fault) :
    FailsBy bad (Build.lift result) :=
  Meets.lift h fun _ _ _ _ => trivial

theorem bind {work : Build α} {next : α → Build β} (h : FailsBy bad work)
    (hnext : ∀ value, FailsBy bad (next value)) : FailsBy bad (work >>= next) :=
  Meets.bind h hnext

end FailsBy

variable {bad : Fault → Prop}

theorem record_failsBy (event : Event) : FailsBy bad (record event) :=
  .of_on (record_on event) fun _ _ => trivial

theorem freshKey_failsBy : FailsBy bad freshKey :=
  .of_on freshKey_on fun _ _ => trivial

theorem defer_failsBy (plan : FieldPlan) : FailsBy bad (defer plan) :=
  .of_on (defer_on plan) fun _ _ => trivial

theorem get_failsBy : FailsBy bad (get : Build Registry) :=
  .of_on get_on fun _ _ => trivial

end Build

/-! ### The names that a shape calls for -/

namespace Shape

/-- The names that a shape calls for, those of its parts left out. -/
def namings (position : String) : Shape → List Naming
  | union _ _ => [.type position]
  | object _ _ properties => .type position :: properties.map (.field ·.1)
  | enum _ literals _ => .type position :: literals.map .value
  | _ => []

/-- The faults in the names of a shape and its parts are all bad, and its references can be
looked up. -/
structure Spares (bad : Fault → Prop) (position : String) (shape : Shape) : Prop where
  names : ∀ part, Part (position, shape) part → ∀ naming ∈ part.2.namings part.1, ∀ fault,
    naming.fault? = some fault → bad fault
  keys : ∀ place site target, Part (position, shape) (place, .reference site target) →
    target.isKey = true

namespace Spares

variable {bad : Fault → Prop} {position : String} {shape : Shape}

theorem child {place : String} {part : Shape} (h : shape.Spares bad position)
    (hchild : Child (position, shape) (place, part)) : part.Spares bad place where
  names inner hinner := h.names inner (.head hchild hinner)
  keys inner site target hinner := h.keys inner site target (.head hchild hinner)

theorem naming {naming : Naming} {fault : Fault} (h : shape.Spares bad position)
    (hnaming : naming ∈ shape.namings position) (hfault : naming.fault? = some fault) : bad fault :=
  h.names (position, shape) .refl naming hnaming fault hfault

end Spares

end Shape

/-! ### Building types -/

namespace Build

variable {bad : Fault → Prop} {setting : Setting}

theorem customize_plain (hplain : setting.customize? = none) (name : String) (form : TypeForm)
    (draft : Draft) : customize setting name form draft = pure draft := by
  rw [customize, hplain]

theorem makeInfo_failsBy {position : String} {description : Json}
    (h : ∀ fault, (Naming.type position).fault? = some fault → bad fault) :
    FailsBy bad (makeInfo { name := .str (Name.typeName position), description }) := by
  refine .bind (.lift fun fault hfault => h fault ?_) fun _ =>
    .bind freshKey_failsBy fun _ => .pure _
  rcases bind_error hfault with hcheck | ⟨name, -, hrest⟩
  · exact checkName_error hcheck
  · cases hrest

variable (hbad : ∀ fault, Command.isConversionFault fault = true → bad fault)

include hbad in
theorem buildEnum_failsBy (hplain : setting.customize? = none) {position : String} {site : Site}
    {literals : List Json} {base : Json}
    (h : (Shape.enum site literals base).Spares bad position) :
    FailsBy bad (buildEnum setting (Name.typeName position) site literals base) := by
  unfold buildEnum
  refine .bind (.lift fun fault hfault => hbad fault ?_) fun values => ?_
  · split at hfault
    · obtain ⟨literal, -, values, hstep⟩ := foldlM_error hfault
      simp only [addValue] at hstep
      split at hstep
      · cases hstep
      · split at hstep <;> cases hstep
        rfl
    · cases hfault
      rfl
  · rw [customize_plain hplain, pure_bind]
    refine .bind (record_failsBy _) fun _ => .bind (makeInfo_failsBy ?_) fun _ => .pure _
    exact fun fault => h.naming List.mem_cons_self

theorem buildObject_failsBy (hplain : setting.customize? = none) {position : String} {site : Site}
    {required : List Json} {properties : List (String × Shape)}
    (h : (Shape.object site required properties).Spares bad position) :
    FailsBy bad (buildObject setting (Name.typeName position) site required properties) := by
  unfold buildObject
  refine .bind freshKey_failsBy fun key => .bind (defer_failsBy _) fun _ => ?_
  rw [customize_plain hplain, pure_bind]
  refine .bind (record_failsBy _) fun _ => .bind (makeInfo_failsBy ?_) fun _ => .pure _
  exact fun fault => h.naming List.mem_cons_self

theorem buildCases_failsBy {owner : String} {cases : List (String × Shape)}
    (h : ∀ case ∈ cases, FailsBy bad (buildType setting s!"{owner}.oneOf[{case.1}]" case.2)) :
    FailsBy bad (buildCases setting owner cases) := by
  induction cases with
  | nil => exact .pure []
  | cons head rest ih =>
    refine .bind (h head List.mem_cons_self) fun member => .bind (ih fun case hcase => ?_) fun _ =>
      .pure _
    exact h case (List.mem_cons_of_mem _ hcase)

include hbad in
/-- A shape that is spared builds, or a document is to blame. -/
theorem buildType_failsBy (hplain : setting.customize? = none) {position : String} {shape : Shape}
    (h : shape.Spares bad position) : FailsBy bad (buildType setting position shape) := by
  induction shape generalizing position with
  | union site cases ih =>
    rw [buildType]
    refine .bind (buildCases_failsBy fun case hcase => ih case hcase (h.child (.case hcase)))
      fun members => .bind (record_failsBy _) fun _ => .bind (makeInfo_failsBy ?_) fun _ => .pure _
    exact fun fault => h.naming List.mem_cons_self
  | object site required properties ih =>
    rw [buildType]
    exact buildObject_failsBy hplain h
  | array site items ih =>
    rw [buildType]
    exact .bind (ih (h.child .item)) fun item => .bind freshKey_failsBy fun key => .pure _
  | bareArray site =>
    rw [buildType]
    exact .throw (hbad _ rfl)
  | enum site literals base =>
    rw [buildType]
    exact buildEnum_failsBy hbad hplain h
  | reference site target =>
    have hkey : target.isKey = true := h.keys position site target .refl
    rw [buildType]
    refine .bind (.bind (.lift fun fault hfault => ?_) fun id => ?_) fun found? => ?_
    · rw [keyOf, if_pos hkey] at hfault
      cases hfault
    · exact .bind get_failsBy fun registry => .pure _
    · cases found? with
      | some type => exact .pure type
      | none => exact .throw (hbad _ rfl)
  | primitive site kind =>
    rw [buildType]
    exact .pure _
  | unrecognized site type =>
    rw [buildType]
    exact .throw (hbad _ rfl)

end Build

/-! ### Building fields -/

/-- The shapes of the plan's properties are spared, and so is its placeholder. -/
structure FieldPlan.Spares (bad : Fault → Prop) (plan : FieldPlan) : Prop where
  plain : plan.setting.customize? = none
  empty : plan.setting.emptyField.isKey = true
  properties : ∀ property ∈ plan.properties,
    property.2.Spares bad s!"{plan.owner}.{property.1}"

/-- The plans that a spared shape queues are spared. -/
theorem Shape.Defers.spares {bad : Fault → Prop} {setting : Setting} {position : String}
    {shape : Shape} {plan : FieldPlan} (h : Shape.Defers setting position shape plan)
    (hplain : setting.customize? = none) (hempty : setting.emptyField.isKey = true)
    (hspares : shape.Spares bad position) : plan.Spares bad := by
  induction h with
  | object key =>
    exact ⟨hplain, hempty, fun property hproperty => hspares.child (.property hproperty)⟩
  | case hcase _ ih => exact ih (hspares.child (.case hcase))
  | item _ ih => exact ih (hspares.child .item)

theorem FieldPlan.Defers.spares {bad : Fault → Prop} {plan inner : FieldPlan}
    (h : plan.Defers inner) (hspares : plan.Spares bad) : inner.Spares bad :=
  let ⟨property, hproperty, hdefers⟩ := h
  Shape.Defers.spares hdefers hspares.plain hspares.empty (hspares.properties property hproperty)

namespace Build

variable {bad : Fault → Prop} (hbad : ∀ fault, Command.isConversionFault fault = true → bad fault)

include hbad in
theorem buildFields_failsBy {setting : Setting} (hplain : setting.customize? = none)
    {owner : String} {required : List Json} {done : List Field}
    {properties : List (String × Shape)}
    (h : ∀ property ∈ properties, property.2.Spares bad s!"{owner}.{property.1}") :
    FailsBy bad (buildFields setting owner required done properties) := by
  induction properties generalizing done with
  | nil => exact .pure done
  | cons head rest ih =>
    rw [buildFields]
    split
    · exact .throw (hbad _ rfl)
    · refine .bind (buildType_failsBy hbad hplain (h head List.mem_cons_self)) fun type => ih ?_
      exact fun property hproperty => h property (List.mem_cons_of_mem _ hproperty)

include hbad in
theorem buildPlan_failsBy {plan : FieldPlan} (h : plan.Spares bad) :
    FailsBy bad (buildPlan plan) := by
  unfold buildPlan
  split
  · refine .bind (.lift fun fault hfault => ?_) fun _ => .pure _
    rw [keyOf, if_pos h.empty] at hfault
    cases hfault
  · exact .bind (buildFields_failsBy hbad h.plain h.properties) fun fields => .pure _

include hbad in
theorem fieldsOf_failsBy {plan : FieldPlan} (h : plan.Spares bad) :
    FailsBy bad (fieldsOf plan) := by
  refine .bind get_failsBy fun registry => ?_
  split
  · exact .pure _
  · refine .bind (buildPlan_failsBy hbad h) fun fields => .bind ?_ fun _ => .pure _
    exact .of_on (fun _ => rfl) fun _ _ => trivial

include hbad in
/-- Draining a queue of spared plans fails by a bad fault, if it fails. -/
theorem drain_error {resolved : Nat} {registry after : Registry} {fault : Fault}
    (h : ∀ plan ∈ registry.pending, plan.Spares bad)
    (hrun : drain resolved registry = (.error fault, after)) : bad fault := by
  fun_induction drain resolved registry with
  | case1 => cases hrun
  | case2 resolved registry plan rest hpending popped hload hbuilt =>
    rename_i ih
    refine ih (fun other hother => h other ?_) hrun
    rw [hpending]
    exact List.mem_cons_of_mem _ hother
  | case3 resolved registry plan rest hpending popped hload hbuilt fields middle =>
    rename_i hfields ih
    obtain ⟨added, hqueue, -, hadded⟩ := fieldsOf_queues plan popped
    rw [hfields] at hqueue
    refine ih (fun other hother => ?_) hrun
    rw [show middle.pending = rest ++ added from hqueue] at hother
    rcases List.mem_append.1 hother with hother | hother
    · exact h other (hpending ▸ List.mem_cons_of_mem _ hother)
    · exact (hadded other hother).spares (h plan (hpending ▸ List.mem_cons_self))
  | case4 resolved registry plan rest hpending popped hload hbuilt first middle =>
    rename_i hfields
    cases hrun
    have hplan := h plan (hpending ▸ List.mem_cons_self)
    exact (fieldsOf_failsBy hbad hplan).error _ _ _ trivial hfields

end Build
end SchemaGraph
