import SchemaGraph.Proofs.Graph.Place

/-! Building with a ledger.

Work on a registry can be followed in the registry's ledger: whenever a key is used
up, the place that it is for is noted. `Ledger.Yields` says that this can be done
from a given ledger so that the ledger goes on, stays sound whether the work
succeeds or not, and holds of the result what one wants of it. Steps are put
together with `Yields.bind`.

What building a type yields is a type that stands at its place
(`buildType_yields`), and what building the fields of a plan yields are fields that
fill it (`fieldsOf_yields`). So a ledger stays sound through all that is done to its
registry; nothing has to be known about the order in which it is done. -/
namespace SchemaGraph
namespace Ledger

/-- The work can be noted in the ledger. The ledger afterwards is sound, and if there is a
result it satisfies `result`. -/
def Yields {α : Type} (setting : Setting) (ledger : Ledger) (work : Build α)
    (result : Ledger → α → Prop) : Prop :=
  ∃ after : Ledger, after.registry = (work.on ledger.registry).2 ∧ ledger.Le after ∧
    after.Sound setting ∧
    ∀ value, (work.on ledger.registry).1 = .ok value → result after value

namespace Yields

variable {α β : Type} {setting : Setting} {ledger : Ledger}

theorem pure {value : α} {result : Ledger → α → Prop} (h : ledger.Sound setting)
    (hresult : result ledger value) : ledger.Yields setting (Pure.pure value) result := by
  refine ⟨ledger, rfl, .refl ledger, h, fun value' heq => ?_⟩
  cases heq
  exact hresult

theorem throw {fault : Fault} {result : Ledger → α → Prop} (h : ledger.Sound setting) :
    ledger.Yields setting (MonadExcept.throw fault) result := by
  refine ⟨ledger, rfl, .refl ledger, h, fun value heq => ?_⟩
  cases heq

theorem lift {result : Except Fault α} (h : ledger.Sound setting) :
    ledger.Yields setting (Build.lift result) fun after value =>
      after = ledger ∧ result = .ok value :=
  ⟨ledger, rfl, .refl ledger, h, fun _ heq => ⟨rfl, heq⟩⟩

theorem bind {work : Build α} {next : α → Build β} {middle : Ledger → α → Prop}
    {result : Ledger → β → Prop} (h : ledger.Yields setting work middle)
    (hnext : ∀ after value, ledger.Le after → after.Sound setting → middle after value →
      after.Yields setting (next value) result) :
    ledger.Yields setting (work >>= next) result := by
  obtain ⟨after, hregistry, hle, hsound, hmiddle⟩ := h
  unfold Yields
  rw [Build.on_bind]
  rcases hrun : work.on ledger.registry with ⟨fault | value, registry⟩ <;>
    rw [hrun] at hregistry hmiddle
  · refine ⟨after, hregistry, hle, hsound, fun value heq => ?_⟩
    cases heq
  · obtain ⟨last, hlast, hle', hsound', hresult⟩ :=
      hnext after value hle hsound (hmiddle value rfl)
    rw [hregistry] at hlast hresult
    exact ⟨last, hlast, hle.trans hle', hsound', hresult⟩

end Yields

/-! ### The steps that a ledger notes -/

/-- The ledger with another journal; no key is used. -/
def write (ledger : Ledger) (journal : List Event) : Ledger :=
  { ledger with registry := { ledger.registry with journal } }

/-- The ledger with a plan queued under the next key, for an object at the place. -/
def plan (ledger : Ledger) (place : Place) (plan : FieldPlan) : Ledger :=
  { ledger.give place with registry := Build.planned ledger.registry plan }

/-- The ledger with fields built for a plan. -/
def fill (ledger : Ledger) (plan : FieldPlan) (fields : FieldMap) : Ledger :=
  { ledger with
    registry := { ledger.registry with built := (plan.key, fields) :: ledger.registry.built } }

variable {setting : Setting} {ledger : Ledger}

theorem le_write (ledger : Ledger) (journal : List Event) : ledger.Le (ledger.write journal) :=
  ⟨fun _ _ h => h, fun _ h => h, fun _ _ h => h⟩

theorem Sound.write (h : ledger.Sound setting) (journal : List Event) :
    (ledger.write journal).Sound setting :=
  h.of_le (le_write ledger journal) rfl rfl rfl rfl h.pending_plans

theorem Sound.le_plan (h : ledger.Sound setting) (place : Place) (plan : FieldPlan) :
    ledger.Le (ledger.plan place plan) where
  find? _ _ hfind := hfind
  plans _ hplan := List.mem_append_left _ hplan
  place? := (h.le_give place).place?

theorem Sound.plan_key_lt (h : ledger.Sound setting) {plan : FieldPlan}
    (hplan : plan ∈ ledger.registry.plans) : plan.key < ledger.registry.nextKey :=
  let ⟨_, hplace⟩ := h.place_plan plan hplan
  h.place_lt _ _ hplace

/-- A new plan is under a key that no other plan has and that nothing was built for. -/
theorem Sound.plan (h : ledger.Sound setting) (place : Place) {plan : FieldPlan}
    (hkey : plan.key = ledger.registry.nextKey) (hsetting : plan.setting = setting) :
    (ledger.plan place plan).Sound setting where
  place_lt := (h.give place).place_lt
  built_lt := (h.give place).built_lt
  setting_eq other hother := by
    rcases List.mem_append.1 hother with hother | hother
    · exact h.setting_eq other hother
    · rw [List.mem_singleton.1 hother, hsetting]
  place_plan other hother := by
    rcases List.mem_append.1 hother with hother | hother
    · exact (h.give place).place_plan other hother
    · rw [List.mem_singleton.1 hother, hkey]
      exact ⟨place, place?_give_self ledger place⟩
  plan_eq a ha b hb hab := by
    rcases List.mem_append.1 ha with ha | ha <;> rcases List.mem_append.1 hb with hb | hb
    · exact h.plan_eq a ha b hb hab
    · rw [List.mem_singleton.1 hb, hkey] at hab
      exact absurd hab (Nat.ne_of_lt (h.plan_key_lt ha))
    · rw [List.mem_singleton.1 ha, hkey] at hab
      exact absurd hab.symm (Nat.ne_of_lt (h.plan_key_lt hb))
    · rw [List.mem_singleton.1 ha, List.mem_singleton.1 hb]
  pending_plans other hother := by
    rcases List.mem_append.1 hother with hother | hother
    · exact List.mem_append_left _ (h.pending_plans other hother)
    · exact List.mem_append_right _ hother
  fills other hother fields place' hbuilt hplace := by
    rcases List.mem_append.1 hother with hother | hother
    · obtain ⟨old, hold⟩ := h.place_plan other hother
      have hsame := (h.le_plan place plan).place? _ _ hold
      rw [hsame] at hplace
      cases hplace
      exact (h.fills other hother fields place' hbuilt hold).mono (h.le_plan place plan)
    · have hlt := h.built_lt other.key fields hbuilt
      rw [List.mem_singleton.1 hother, hkey] at hlt
      exact absurd hlt (Nat.lt_irrefl _)

theorem le_fill (ledger : Ledger) (plan : FieldPlan) (fields : FieldMap) :
    ledger.Le (ledger.fill plan fields) :=
  ⟨fun _ _ h => h, fun _ h => h, fun _ _ h => h⟩

theorem Sound.fill (h : ledger.Sound setting) {plan : FieldPlan} {fields : FieldMap}
    {place : Place} (hplan : plan ∈ ledger.registry.plans)
    (hplace : ledger.place? plan.key = some place)
    (hfills : ledger.Fills setting place plan fields) :
    (ledger.fill plan fields).Sound setting where
  place_lt := h.place_lt
  built_lt key fields' hbuilt := by
    simp only [Ledger.fill, List.lookup_cons] at hbuilt ⊢
    split at hbuilt
    · rename_i heq
      rw [beq_iff_eq.1 heq]
      exact h.plan_key_lt hplan
    · exact h.built_lt key fields' hbuilt
  setting_eq := h.setting_eq
  place_plan := h.place_plan
  plan_eq := h.plan_eq
  pending_plans := h.pending_plans
  fills other hother fields' place' hbuilt hplace' := by
    refine Fills.mono (le_fill ledger plan fields) ?_
    simp only [Ledger.fill, List.lookup_cons] at hbuilt hother hplace'
    split at hbuilt
    · rename_i hkey
      obtain rfl := h.plan_eq other hother plan hplan (beq_iff_eq.1 hkey)
      rw [hplace] at hplace'
      cases hplace'
      cases hbuilt
      exact hfills
    · exact h.fills other hother fields' place' hbuilt hplace'

/-! ### What building yields -/

theorem record_yields (h : ledger.Sound setting) (event : Event) :
    ledger.Yields setting (Build.record event) fun _ _ => True :=
  ⟨ledger.write _, rfl, le_write ledger _, h.write _, fun _ _ => trivial⟩

theorem freshKey_yields (h : ledger.Sound setting) (place : Place) :
    ledger.Yields setting Build.freshKey fun after key => after.place? key = some place := by
  refine ⟨ledger.give place, rfl, h.le_give place, h.give place, fun key heq => ?_⟩
  cases heq
  exact place?_give_self ledger place

theorem makeInfo_yields (h : ledger.Sound setting) (place : Place) (draft : Draft) :
    ledger.Yields setting (Build.makeInfo draft) fun after info =>
      draft.info info.key = .ok info ∧ after.place? info.key = some place := by
  unfold Yields
  rw [Build.makeInfo_on]
  cases hinfo : draft.info ledger.registry.nextKey with
  | error fault => exact ⟨ledger, rfl, .refl ledger, h, fun info heq => nomatch heq⟩
  | ok info =>
    have hkey : info.key = ledger.registry.nextKey := Draft.info_key hinfo
    refine ⟨ledger.give place, rfl, h.le_give place, h.give place, fun info' heq => ?_⟩
    cases heq
    rw [hkey]
    exact ⟨hinfo, place?_give_self ledger place⟩

theorem find?_yields (h : ledger.Sound setting) (id : Json) :
    ledger.Yields setting (Build.find? id) fun after type? =>
      after = ledger ∧ id.isKey = true ∧ ledger.registry.find? id = type? := by
  unfold Yields
  rw [Build.find?_on]
  refine ⟨ledger, rfl, .refl ledger, h, fun type? heq => ⟨rfl, ?_⟩⟩
  simp only at heq
  split at heq
  · exact ⟨‹_›, Except.ok.inj heq⟩
  · cases heq

theorem buildEnum_yields (h : ledger.Sound setting) (place : Place) (position : String)
    (site : Site) (literals : List Json) (base : Json) :
    ledger.Yields setting (Build.buildEnum setting (Name.typeName position) site literals base)
      fun after type => after.Stands setting place position (.enum site literals base) type := by
  obtain ⟨journal, hrun⟩ :=
    Build.buildEnum_on setting (Name.typeName position) site literals base ledger.registry
  unfold Yields
  rw [hrun]
  cases henum : setting.enumOf (Name.typeName position) site literals base
      ledger.registry.nextKey with
  | error fault =>
    exact ⟨ledger.write journal, rfl, le_write ledger journal, h.write journal,
      fun type heq => nomatch heq⟩
  | ok type =>
    refine ⟨(ledger.give place).write journal, rfl,
      (h.le_give place).trans (le_write _ journal), (h.give place).write journal,
      fun type' heq => ?_⟩
    cases heq
    obtain ⟨info, values, rfl, hkey⟩ := Setting.enumOf_ok henum
    rw [← hkey] at henum
    refine .enum henum ?_
    rw [hkey]
    exact place?_give_self ledger place

theorem buildObject_yields (h : ledger.Sound setting) (place : Place) (position : String)
    (site : Site) (required : List Json) (properties : List (String × Shape)) :
    ledger.Yields setting
      (Build.buildObject setting (Name.typeName position) site required properties)
      fun after type =>
        after.Stands setting place position (.object site required properties) type := by
  obtain ⟨journal, hrun⟩ := Build.buildObject_on setting (Name.typeName position) site required
    properties ledger.registry
  -- Two keys are used for one place: the plan's, and after it the type's.
  let plan : FieldPlan :=
    ⟨ledger.registry.nextKey, Name.typeName position, required, properties, setting⟩
  have hsound : (ledger.plan place plan).Sound setting := h.plan place rfl rfl
  have hle : ledger.Le (ledger.plan place plan) := h.le_plan place plan
  unfold Yields
  rw [hrun]
  cases hinfo : setting.info (some .object) (Name.typeName position) site
      (ledger.registry.nextKey + 1) with
  | error fault =>
    refine ⟨(ledger.plan place plan).write journal, ?_, hle.trans (le_write _ journal),
      hsound.write journal, fun type heq => ?_⟩
    · simp only [Build.planned, hinfo]
      rfl
    · simp only [Build.planned, hinfo] at heq
      cases heq
  | ok info =>
    refine ⟨((ledger.plan place plan).give place).write journal, ?_,
      (hle.trans (hsound.le_give place)).trans (le_write _ journal),
      (hsound.give place).write journal, fun type heq => ?_⟩
    · simp only [Build.planned, hinfo]
      rfl
    · simp only [Build.planned, hinfo] at heq
      cases heq
      have hkey : info.key = ledger.registry.nextKey + 1 := Setting.info_key hinfo
      refine .object (hkey ▸ hinfo) ?_ (List.mem_append_right _ List.mem_cons_self) ?_
      · rw [hkey]
        exact place?_give_self (ledger.plan place plan) place
      · exact (hsound.le_give place).place? _ _ (place?_give_self ledger place)

theorem buildCases_yields (h : ledger.Sound setting) (place : Place) (owner : String)
    (cases : List (String × Shape)) (start : Nat)
    (ih : ∀ entry ∈ cases, ∀ ledger : Ledger, ledger.Sound setting → ∀ place position,
      ledger.Yields setting (Build.buildType setting position entry.2) fun after type =>
        after.Stands setting place position entry.2 type) :
    ledger.Yields setting (Build.buildCases setting owner cases) fun after members =>
      members.length = cases.length ∧
        ∀ (index : Nat) key shape member, cases[index]? = some (key, shape) →
          members[index]? = some member →
          after.Stands setting (place.case (start + index)) s!"{owner}.oneOf[{key}]" shape
            member := by
  induction cases generalizing ledger start with
  | nil => exact .pure h ⟨rfl, by simp⟩
  | cons head rest hrest =>
    obtain ⟨key, shape⟩ := head
    rw [Build.buildCases]
    refine .bind (ih (key, shape) List.mem_cons_self ledger h (place.case start) _) ?_
    intro after member hle hsound hmember
    refine .bind (hrest hsound (start + 1) fun entry hentry =>
      ih entry (List.mem_cons_of_mem _ hentry)) ?_
    intro last members hle' hsound' ⟨hlength, hmembers⟩
    refine .pure hsound' ⟨by simp [hlength], fun index key' shape' member' hcase hmember' => ?_⟩
    cases index with
    | zero =>
      cases hcase
      cases hmember'
      exact hmember.mono hle'
    | succ index =>
      have := hmembers index key' shape' member' hcase hmember'
      rwa [Nat.add_right_comm, Nat.add_assoc] at this

/-- What building a type yields stands at the place that it was built for. -/
theorem buildType_yields (h : ledger.Sound setting) (place : Place) (position : String)
    (shape : Shape) :
    ledger.Yields setting (Build.buildType setting position shape) fun after type =>
      after.Stands setting place position shape type := by
  induction shape generalizing ledger place position with
  | union site cases ih =>
    rw [Build.buildType]
    refine .bind (buildCases_yields h place (Name.typeName position) cases 0
      fun entry hentry ledger h place position => ih entry hentry h place position) ?_
    intro after members _ hsound ⟨hlength, hmembers⟩
    refine .bind (record_yields hsound _) fun after' _ hle' hsound' _ => ?_
    refine .bind (makeInfo_yields hsound' place _) ?_
    intro last info hle'' hsound'' ⟨hinfo, hkey⟩
    refine .pure hsound'' (.union hinfo hkey hlength fun index key shape member hcase hmember => ?_)
    have hstands := hmembers index key shape member hcase hmember
    rw [Nat.zero_add] at hstands
    exact hstands.mono (hle'.trans hle'')
  | object site required properties ih =>
    exact buildObject_yields h place position site required properties
  | array site items ih =>
    rw [Build.buildType]
    refine .bind (ih h place.item position) fun after item _ hsound hitem => ?_
    refine .bind (freshKey_yields hsound place) fun last key hle hsound' hkey => ?_
    exact .pure hsound' (.array hkey (hitem.mono hle))
  | bareArray site => exact .throw h
  | enum site literals base => exact buildEnum_yields h place position site literals base
  | reference site target =>
    simp only [Build.buildType]
    refine .bind (find?_yields h target) ?_
    rintro _ (_ | type) - - ⟨rfl, htarget, hfind⟩
    · exact .throw h
    · exact .pure h (.reference htarget hfind)
  | primitive site kind => exact .pure h .primitive
  | unrecognized site type => exact .throw h

namespace FillsUpTo

variable {place : Place} {plan : FieldPlan} {done : List Field}

/-- One more field, for the next property. -/
theorem concat {built rest : List (String × Shape)} {property : String} {shape : Shape}
    {type : GraphType} (h : ledger.FillsUpTo setting place plan done)
    (hproperties : plan.properties = built ++ (property, shape) :: rest)
    (hlength : done.length = built.length)
    (htype : ledger.Stands setting (place.property built.length) s!"{plan.owner}.{property}"
      shape type) :
    ledger.FillsUpTo setting place plan
      (done ++ [.ofProperty plan.required property shape type]) := by
  intro index property' shape' field hproperty hfield
  rcases Nat.lt_trichotomy index done.length with hlt | rfl | hgt
  · rw [List.getElem?_append_left hlt] at hfield
    exact h index property' shape' field hproperty hfield
  · rw [hproperties, hlength, List.getElem?_append_right (Nat.le_refl _), Nat.sub_self] at hproperty
    rw [List.getElem?_append_right (Nat.le_refl _), Nat.sub_self] at hfield
    cases hproperty
    cases hfield
    rw [hlength]
    exact ⟨type, rfl, htype⟩
  · rw [List.getElem?_eq_none (by simp; omega)] at hfield
    cases hfield

/-- A field name that no field has yet is no property's before it. -/
theorem names_of_find?_eq_none {built rest : List (String × Shape)} {name : String}
    (h : ledger.FillsUpTo setting place plan done) (hproperties : plan.properties = built ++ rest)
    (hlength : done.length = built.length) (hfind : done.find? (·.name == name) = none) :
    ∀ entry ∈ built, Name.safe entry.1 ≠ name := by
  rintro ⟨property, shape⟩ hentry hname
  obtain ⟨index, hindex, hget⟩ := List.getElem_of_mem hentry
  have hproperty : plan.properties[index]? = some (property, shape) := by
    rw [hproperties, List.getElem?_append_left hindex, List.getElem?_eq_getElem hindex, hget]
  have hlt : index < done.length := hlength ▸ hindex
  obtain ⟨type, heq, -⟩ := h index property shape done[index] hproperty
    (List.getElem?_eq_getElem hlt)
  refine List.find?_eq_none.1 hfind done[index] (List.getElem_mem hlt) ?_
  rw [heq]
  exact beq_iff_eq.2 hname

end FillsUpTo

theorem buildFields_yields (h : ledger.Sound setting) (place : Place) (plan : FieldPlan)
    (done : List Field) (built rest : List (String × Shape))
    (hproperties : plan.properties = built ++ rest) (hlength : done.length = built.length)
    (hdone : ledger.FillsUpTo setting place plan done) (hclear : FieldPlan.IsClear built) :
    ledger.Yields setting (Build.buildFields setting plan.owner plan.required done rest)
      fun after fields => fields.length = plan.properties.length ∧
        after.FillsUpTo setting place plan fields ∧ FieldPlan.IsClear plan.properties := by
  induction rest generalizing ledger done built with
  | nil =>
    rw [List.append_nil] at hproperties
    subst hproperties
    exact .pure h ⟨hlength, hdone, hclear⟩
  | cons head rest ih =>
    obtain ⟨property, shape⟩ := head
    rw [Build.buildFields]
    cases hfind : done.find? (·.name == Name.safe property) with
    | some first => exact .throw h
    | none =>
      simp only
      refine .bind (buildType_yields h (place.property built.length) _ shape) ?_
      intro after type hle hsound htype
      refine ih hsound (done ++ [.ofProperty plan.required property shape type])
        (built ++ [(property, shape)]) (by simp [hproperties]) (by simp [hlength]) ?_ ?_
      · exact (hdone.mono hle).concat hproperties hlength htype
      · exact hclear.concat (hdone.names_of_find?_eq_none hproperties hlength hfind)

theorem buildPlan_yields (h : ledger.Sound setting) (place : Place) {plan : FieldPlan}
    (hplan : plan ∈ ledger.registry.plans) :
    ledger.Yields setting (Build.buildPlan plan) fun after fields =>
      after.Fills setting place plan fields := by
  have hsetting : plan.setting = setting := h.setting_eq plan hplan
  unfold Build.buildPlan
  split
  · rename_i hempty
    refine .bind (.lift h) ?_
    rintro _ name - - ⟨rfl, hname⟩
    refine .pure h ?_
    rw [hsetting, Build.keyOf] at hname
    split at hname <;> cases hname
    exact .placeholder hempty ‹_›
  · rename_i hnonempty
    rw [hsetting]
    refine .bind (buildFields_yields h place plan [] [] plan.properties rfl rfl ?_ .nil) ?_
    · rintro index property shape field - hfield
      cases hfield
    · intro after fields _ hsound ⟨hlength, hfields, hclear⟩
      exact .pure hsound (.ofProperties hnonempty hclear hlength hfields)

/-- What building the fields of a plan yields fills the plan. -/
theorem fieldsOf_yields (h : ledger.Sound setting) {place : Place} {plan : FieldPlan}
    (hplan : plan ∈ ledger.registry.plans) (hplace : ledger.place? plan.key = some place) :
    ledger.Yields setting (Build.fieldsOf plan) fun after fields =>
      after.registry.built.lookup plan.key = some fields ∧
        after.Fills setting place plan fields := by
  unfold Yields
  rw [Build.fieldsOf_on]
  cases hbuilt : ledger.registry.built.lookup plan.key with
  | some fields =>
    refine ⟨ledger, rfl, .refl ledger, h, fun fields' heq => ?_⟩
    cases heq
    exact ⟨hbuilt, h.fills plan hplan fields place hbuilt hplace⟩
  | none =>
    obtain ⟨after, hregistry, hle, hsound, hfills⟩ := buildPlan_yields h place hplan
    rcases hrun : (Build.buildPlan plan).on ledger.registry with ⟨fault | fields, registry⟩ <;>
      rw [hrun] at hregistry hfills <;> simp only at hregistry
    · exact ⟨after, hregistry, hle, hsound, fun fields heq => nomatch heq⟩
    · have hfills := hfills fields rfl
      refine ⟨after.fill plan fields, ?_, hle.trans (le_fill after plan fields),
        hsound.fill (hle.plans plan hplan) (hle.place? _ _ hplace) hfills, fun fields' heq => ?_⟩
      · simp only [fill, hregistry]
      · cases heq
        exact ⟨by simp [fill], hfills.mono (le_fill after plan fields)⟩

/-! ### Draining the queue -/

/-- The ledger with another queue. -/
def queue (ledger : Ledger) (pending : List FieldPlan) : Ledger :=
  { ledger with registry := { ledger.registry with pending } }

theorem le_queue (ledger : Ledger) (pending : List FieldPlan) :
    ledger.Le (ledger.queue pending) :=
  ⟨fun _ _ h => h, fun _ h => h, fun _ _ h => h⟩

theorem Sound.queue (h : ledger.Sound setting) {pending : List FieldPlan}
    (hpending : ∀ plan ∈ pending, plan ∈ ledger.registry.plans) :
    (ledger.queue pending).Sound setting :=
  h.of_le (le_queue ledger pending) rfl rfl rfl rfl hpending

/-- Taking a plan off the queue. -/
theorem Sound.pop (h : ledger.Sound setting) {plan : FieldPlan} {rest : List FieldPlan}
    (hpending : ledger.registry.pending = plan :: rest) : (ledger.queue rest).Sound setting :=
  h.queue fun other hother => h.pending_plans other (hpending ▸ List.mem_cons_of_mem _ hother)

theorem drain_yields (h : ledger.Sound setting) (resolved : Nat) :
    ∃ after : Ledger, after.registry = (Build.drain resolved ledger.registry).2 ∧
      ledger.Le after ∧ after.Sound setting := by
  refine Build.drain_preserves (p := fun registry => ∃ after : Ledger,
    after.registry = registry ∧ ledger.Le after ∧ after.Sound setting) ?_ ?_ ?_ resolved
    ⟨ledger, rfl, .refl ledger, h⟩
  · rintro _ journal ⟨after, rfl, hle, hsound⟩
    exact ⟨after.write journal, rfl, hle.trans (le_write after journal), hsound.write journal⟩
  · rintro _ plan rest hpending ⟨after, rfl, hle, hsound⟩
    exact ⟨after.queue rest, rfl, hle.trans (le_queue after rest), hsound.pop hpending⟩
  · rintro _ plan rest hpending ⟨after, rfl, hle, hsound⟩
    have hplan : plan ∈ after.registry.plans :=
      hsound.pending_plans plan (hpending ▸ List.mem_cons_self)
    obtain ⟨place, hplace⟩ := hsound.place_plan plan hplan
    obtain ⟨last, hlast, hle', hsound', -⟩ :=
      fieldsOf_yields (hsound.pop hpending) hplan hplace
    exact ⟨last, hlast, (hle.trans (le_queue after rest)).trans hle', hsound'⟩

end Ledger
end SchemaGraph
