import Mathlib.Data.List.Perm.Basic
import SchemaGraph.Proofs.Graph.Numbering

/-! What is made of a shape, counted.

A shape has objects and enums at every depth (`Shape.occurrences`). Building its type
meets the ones outside the properties of objects, and the plans that it queues owe the
rest. An `Account` says what is on record of the occurrences that were met: one event a
type that was made, one call of the customizer for each if there is one, and a plan for
each object. `Build.Tallies` says that what a work met and what its plans owe is,
together and up to order, all there is in its shape. -/
namespace SchemaGraph

/-- An object or an enum of a document, by the name of its position. -/
inductive Occurrence where
  | object (name : String) (required : List Json) (properties : List (String × Shape))
  | enum (name : String)

namespace Occurrence

/-- The name and the form of the type that is made of it. -/
def entry : Occurrence → String × TypeForm
  | object name _ _ => (name, .object)
  | enum name => (name, .enum)

/-- What the plan of an object says. -/
def declaration? : Occurrence → Option (String × List Json × List (String × Shape))
  | object name required properties => some (name, required, properties)
  | enum _ => none

end Occurrence

namespace Shape

mutual

/-- The objects and enums of a shape, at any depth. -/
def occurrences (position : String) : Shape → List Occurrence
  | union _ cases => caseOccurrences (Name.typeName position) cases
  | object _ required properties =>
    .object (Name.typeName position) required properties ::
      propertyOccurrences (Name.typeName position) properties
  | array _ items => occurrences position items
  | enum _ _ _ => [.enum (Name.typeName position)]
  | _ => []

def caseOccurrences (owner : String) : List (String × Shape) → List Occurrence
  | [] => []
  | (key, shape) :: rest =>
    occurrences s!"{owner}.oneOf[{key}]" shape ++ caseOccurrences owner rest

def propertyOccurrences (owner : String) : List (String × Shape) → List Occurrence
  | [] => []
  | (property, shape) :: rest =>
    occurrences s!"{owner}.{property}" shape ++ propertyOccurrences owner rest

end

end Shape

namespace FieldPlan

/-- What a plan says of its object. -/
def declaration (plan : FieldPlan) : String × List Json × List (String × Shape) :=
  (plan.owner, plan.required, plan.properties)

/-- The objects and enums that building the plan's fields, and then the fields of those, leads
to. -/
def occurrences (plan : FieldPlan) : List Occurrence :=
  Shape.propertyOccurrences plan.owner plan.properties

end FieldPlan

namespace Event

/-- The name and the form of a type that was made, of a form that can be customized. -/
def made? : Event → Option (String × TypeForm)
  | builtObject name => some (name, .object)
  | builtEnum name _ => some (name, .enum)
  | _ => none

/-- What a customizer was asked for. -/
def asked? : Event → Option (String × TypeForm)
  | customized name form => some (name, form)
  | _ => none

/-- An event that says nothing of types of these forms. -/
def isSilent (event : Event) : Bool := event.made?.isNone && event.asked?.isNone

theorem filterMap_silent {events : List Event} (h : ∀ event ∈ events, event.isSilent = true) :
    events.filterMap made? = [] ∧ events.filterMap asked? = [] := by
  constructor <;>
  · refine List.filterMap_eq_nil_iff.2 fun event hevent => ?_
    have hsilent := h event hevent
    rw [isSilent, Bool.and_eq_true, Option.isNone_iff_eq_none, Option.isNone_iff_eq_none] at hsilent
    first | exact hsilent.1 | exact hsilent.2

end Event

/-- What is on record of the occurrences that were met, with a customizer or without. -/
structure Account (hooked : Bool) (met : List Occurrence) (plans : List FieldPlan)
    (events : List Event) : Prop where
  made : events.filterMap Event.made? = met.map Occurrence.entry
  asked : events.filterMap Event.asked? = if hooked then met.map Occurrence.entry else []
  declared : plans.map FieldPlan.declaration = met.filterMap Occurrence.declaration?
  hooks : ∀ plan ∈ plans, plan.setting.customize?.isSome = hooked

namespace Account

variable {hooked : Bool} {met : List Occurrence} {plans : List FieldPlan} {events : List Event}

theorem nil (h : ∀ event ∈ events, event.isSilent = true) : Account hooked [] [] events where
  made := (Event.filterMap_silent h).1
  asked := by
    rw [(Event.filterMap_silent h).2]
    cases hooked <;> rfl
  declared := rfl
  hooks _ hplan := nomatch hplan

theorem append {met' : List Occurrence} {plans' : List FieldPlan} {events' : List Event}
    (h : Account hooked met plans events) (h' : Account hooked met' plans' events') :
    Account hooked (met ++ met') (plans ++ plans') (events ++ events') where
  made := by rw [List.filterMap_append, h.made, h'.made, List.map_append]
  asked := by
    rw [List.filterMap_append, h.asked, h'.asked]
    cases hooked
    · rfl
    · exact List.map_append.symm
  declared := by rw [List.map_append, h.declared, h'.declared, List.filterMap_append]
  hooks := List.forall_mem_append.2 ⟨h.hooks, h'.hooks⟩

/-- Silent events change nothing. -/
theorem silent {more : List Event} (h : Account hooked met plans events)
    (hmore : ∀ event ∈ more, event.isSilent = true) :
    Account hooked met plans (events ++ more) := by
  have happend := h.append (.nil hmore)
  rwa [List.append_nil, List.append_nil] at happend

end Account

namespace Build

/-- Work that meets occurrences and queues plans that owe others, all in all the owed ones. -/
structure Tallies {α : Type} (hooked : Bool) (owed : List Occurrence) (work : Build α) : Prop where
  tallies (registry after : Registry) (value : α) (hrun : work.on registry = (.ok value, after)) :
    ∃ added events met, registry.Extends added after ∧
      after.journal = registry.journal ++ events ∧ Account hooked met added events ∧
      (met ++ added.flatMap FieldPlan.occurrences).Perm owed

namespace Tallies

variable {α β : Type} {hooked : Bool} {owed more : List Occurrence}

/-- Work that queues nothing and keeps silent. -/
theorem of_extends {work : Build α} (h : ∀ registry : Registry, ∃ events,
    (∀ event ∈ events, event.isSilent = true) ∧ registry.Extends [] (work.on registry).2 ∧
      (work.on registry).2.journal = registry.journal ++ events) : Tallies hooked [] work := by
  refine ⟨fun registry after value hrun => ?_⟩
  obtain ⟨events, hsilent, hextends, hjournal⟩ := h registry
  rw [hrun] at hextends hjournal
  exact ⟨[], events, [], hextends, hjournal, .nil hsilent, .refl _⟩

theorem pure (value : α) : Tallies hooked [] (Pure.pure value : Build α) :=
  of_extends fun registry => ⟨[], by simp, .refl registry, (List.append_nil _).symm⟩

theorem throw (fault : Fault) : Tallies hooked owed (MonadExcept.throw fault : Build α) :=
  ⟨fun _ _ _ hrun => nomatch hrun⟩

theorem lift (result : Except Fault α) : Tallies hooked [] (Build.lift result) :=
  of_extends fun registry => ⟨[], by simp, .refl registry, (List.append_nil _).symm⟩

theorem bind {work : Build α} {next : α → Build β} (h : Tallies hooked owed work)
    (hnext : ∀ value, Tallies hooked more (next value)) :
    Tallies hooked (owed ++ more) (work >>= next) := by
  refine ⟨fun registry after result hrun => ?_⟩
  obtain ⟨value, middle, hfirst, hsecond⟩ := on_bind_ok hrun
  obtain ⟨added, events, met, hextends, hjournal, haccount, hperm⟩ := h.tallies _ _ _ hfirst
  obtain ⟨added', events', met', hextends', hjournal', haccount', hperm'⟩ :=
    (hnext value).tallies _ _ _ hsecond
  refine ⟨added ++ added', events ++ events', met ++ met', hextends.trans hextends', ?_,
    haccount.append haccount', ?_⟩
  · rw [hjournal', hjournal, List.append_assoc]
  · rw [List.flatMap_append]
    refine List.Perm.trans ?_ (hperm.append hperm')
    simp only [List.append_assoc]
    exact (List.perm_append_comm_assoc _ _ _).append_left met

/-- A silent step before others. -/
theorem after {work : Build α} {next : α → Build β} (h : Tallies hooked [] work)
    (hnext : ∀ value, Tallies hooked owed (next value)) : Tallies hooked owed (work >>= next) :=
  bind h hnext

/-- A step before silent ones. -/
theorem before {work : Build α} {next : α → Build β} (h : Tallies hooked owed work)
    (hnext : ∀ value, Tallies hooked [] (next value)) : Tallies hooked owed (work >>= next) := by
  simpa using bind h hnext

end Tallies

theorem record_tallies {hooked : Bool} {event : Event} (h : event.isSilent = true) :
    Tallies hooked [] (record event) := by
  refine .of_extends fun registry => ⟨[event], List.forall_mem_singleton.2 h, ?_, rfl⟩
  rw [record_on]
  exact ⟨rfl, rfl, by simp, by simp, Nat.le_refl _⟩

theorem freshKey_tallies {hooked : Bool} : Tallies hooked [] freshKey := by
  refine .of_extends fun registry => ⟨[], by simp, ?_, by rw [freshKey_on]; simp⟩
  rw [freshKey_on]
  exact ⟨rfl, rfl, by simp, by simp, Nat.le_succ _⟩

theorem makeInfo_tallies {hooked : Bool} (draft : Draft) : Tallies hooked [] (makeInfo draft) :=
  .after (.lift _) fun _ => .before freshKey_tallies fun _ => .pure _

/-! ### Types of forms that can be customized -/

/-- Making a type asks the customizer for it and puts it on record. -/
theorem make_on {α : Type} {setting : Setting} {name : String} {form : TypeForm} {draft : Draft}
    {event : Event} {make : Draft → TypeInfo → α} {registry after : Registry} {value : α}
    (hrun : (do
      let draft ← customize setting name form draft
      record event
      let info ← makeInfo draft
      return make draft info : Build α).on registry = (.ok value, after)) :
    registry.Extends [] after ∧ after.journal = registry.journal ++
      ((if setting.customize?.isSome then [.customized name form] else []) ++ [event]) := by
  obtain ⟨draft, middle, hcustomize, hrun⟩ := on_bind_ok hrun
  obtain ⟨_, recorded, hrecord, hrun⟩ := on_bind_ok hrun
  cases hrecord
  obtain ⟨info, last, hinfo, hrun⟩ := on_bind_ok hrun
  cases hrun
  have hmiddle : middle = registry.noting
      (if setting.customize?.isSome then [.customized name form] else []) := by
    unfold customize at hcustomize
    cases hhook : setting.customize? with
    | none =>
      rw [hhook] at hcustomize
      cases hcustomize
      exact (Registry.noting_nil registry).symm
    | some customize =>
      rw [hhook] at hcustomize
      obtain ⟨_, asked, hasked, hcustomize⟩ := on_bind_ok hcustomize
      cases hasked
      exact (lift_ok hcustomize).2
  rw [makeInfo_on] at hinfo
  split at hinfo <;> cases hinfo
  subst hmiddle
  refine ⟨⟨rfl, rfl, ?_, ?_, Nat.le_succ _⟩, ?_⟩
  · exact (List.append_nil _).symm
  · exact (List.append_nil _).symm
  · exact List.append_assoc ..

/-- The record of one type that was made. -/
theorem account_make {hooked : Bool} (met : Occurrence) {plans : List FieldPlan} {event : Event}
    (hmade : event.made? = some met.entry) (hasked : event.asked? = none)
    (hplans : plans.map FieldPlan.declaration = [met].filterMap Occurrence.declaration?)
    (hhooks : ∀ plan ∈ plans, plan.setting.customize?.isSome = hooked) :
    Account hooked [met] plans
      ((if hooked then [.customized met.entry.1 met.entry.2] else []) ++ [event]) where
  made := by
    have hasking : (Event.customized met.entry.1 met.entry.2).made? = none := rfl
    cases hooked <;> simp [hmade, hasking]
  asked := by
    have hasking : (Event.customized met.entry.1 met.entry.2).asked? = some met.entry := rfl
    cases hooked <;> simp [hasked, hasking]
  declared := hplans
  hooks := hhooks

theorem buildEnum_tallies {setting : Setting} {hooked : Bool}
    (hhooked : setting.customize?.isSome = hooked) (name : String) (site : Site)
    (literals : List Json) (base : Json) :
    Tallies hooked [.enum name] (buildEnum setting name site literals base) := by
  refine .after (.lift _) fun values => ⟨fun registry after type hrun => ?_⟩
  obtain ⟨hextends, hjournal⟩ := make_on hrun
  rw [hhooked] at hjournal
  exact ⟨[], _, [.enum name], hextends, hjournal,
    account_make (.enum name) rfl rfl rfl (fun _ hplan => nomatch hplan), .refl _⟩

theorem buildObject_tallies {setting : Setting} {hooked : Bool}
    (hhooked : setting.customize?.isSome = hooked) (name : String) (site : Site)
    (required : List Json) (properties : List (String × Shape)) :
    Tallies hooked (.object name required properties :: Shape.propertyOccurrences name properties)
      (buildObject setting name site required properties) := by
  refine .after freshKey_tallies fun key => ⟨fun registry after type hrun => ?_⟩
  let plan : FieldPlan := { key, owner := name, required, properties, setting }
  obtain ⟨_, queued, hdefer, hrun⟩ := on_bind_ok hrun
  cases hdefer
  obtain ⟨hextends, hjournal⟩ := make_on hrun
  rw [hhooked] at hjournal
  have hqueued : registry.Extends [plan]
      { registry with
        pending := registry.pending ++ [plan], plans := registry.plans ++ [plan] } :=
    ⟨rfl, rfl, rfl, rfl, Nat.le_refl _⟩
  refine ⟨[plan], _, [.object name required properties], hqueued.trans hextends, hjournal,
    account_make (.object name required properties) rfl rfl rfl
      (List.forall_mem_singleton.2 hhooked), ?_⟩
  rw [List.flatMap_singleton]
  exact .refl _

/-! ### All shapes -/

theorem buildCases_tallies {setting : Setting} {hooked : Bool} (owner : String)
    (cases : List (String × Shape))
    (h : ∀ entry ∈ cases, ∀ position, Tallies hooked (entry.2.occurrences position)
      (buildType setting position entry.2)) :
    Tallies hooked (Shape.caseOccurrences owner cases) (buildCases setting owner cases) := by
  induction cases with
  | nil => exact .pure []
  | cons head rest ih =>
    obtain ⟨key, shape⟩ := head
    rw [buildCases, Shape.caseOccurrences]
    refine .bind (h (key, shape) List.mem_cons_self _) fun member => .before ?_ fun _ => .pure _
    exact ih fun entry hentry => h entry (List.mem_cons_of_mem _ hentry)

/-- Building a type meets the occurrences in its shape or queues plans that owe them. -/
theorem buildType_tallies {setting : Setting} {hooked : Bool}
    (hhooked : setting.customize?.isSome = hooked) (position : String) (shape : Shape) :
    Tallies hooked (shape.occurrences position) (buildType setting position shape) := by
  induction shape generalizing position with
  | union site cases ih =>
    rw [buildType, Shape.occurrences]
    refine .before (buildCases_tallies _ cases ih) fun members => ?_
    exact .after (record_tallies rfl) fun _ => .before (makeInfo_tallies _) fun _ => .pure _
  | object site required properties ih =>
    rw [Shape.occurrences]
    exact buildObject_tallies hhooked ..
  | array site items ih =>
    rw [buildType, Shape.occurrences]
    exact .before (ih position) fun item => .before freshKey_tallies fun key => .pure _
  | bareArray site => exact .throw _
  | enum site literals base =>
    rw [Shape.occurrences]
    exact buildEnum_tallies hhooked ..
  | reference site target =>
    refine .after (.of_extends fun registry => ⟨[], by simp, ?_, ?_⟩) fun found? => ?_
    · rw [find?_on]
      exact .refl registry
    · rw [find?_on, List.append_nil]
    · cases found? with
      | some type => exact .pure type
      | none => exact .throw _
  | primitive site kind => exact .pure _
  | unrecognized site type => exact .throw _

theorem buildFields_tallies {setting : Setting} {hooked : Bool}
    (hhooked : setting.customize?.isSome = hooked) (owner : String) (required : List Json)
    (done : List Field) (properties : List (String × Shape)) :
    Tallies hooked (Shape.propertyOccurrences owner properties)
      (buildFields setting owner required done properties) := by
  induction properties generalizing done with
  | nil => exact .pure done
  | cons head rest ih =>
    obtain ⟨property, shape⟩ := head
    rw [buildFields, Shape.propertyOccurrences]
    split
    · exact .throw _
    · exact .bind (buildType_tallies hhooked ..) fun type => ih _

/-- Building the fields of a plan meets what the plan owes, or queues plans that owe it. -/
theorem buildPlan_tallies {plan : FieldPlan} {hooked : Bool}
    (hhooked : plan.setting.customize?.isSome = hooked) :
    Tallies hooked plan.occurrences (buildPlan plan) := by
  unfold buildPlan FieldPlan.occurrences
  split
  · rename_i hnil
    rw [hnil]
    exact .after (.lift _) fun name => .pure _
  · exact .before (buildFields_tallies hhooked ..) fun fields => .pure _

end Build
end SchemaGraph
