import SchemaGraph.Proofs.Graph.Numbering

/-! Graphs without their keys.

Keys tell types and plans apart, and say nothing else. What is left of a type without
them is its bare form. Building never looks at a key: on two registries whose entries are
the same but for keys, the same work has the same outcome, makes types of the same bare
form and queues plans of the same bare form (`Build.Matches`), however much else the two
registries have gone through. -/
namespace SchemaGraph

/-- The plan without its key. -/
def FieldPlan.bare (plan : FieldPlan) : FieldPlan := { plan with key := 0 }

/-- The common part of a named type without its key. -/
def TypeInfo.bare (info : TypeInfo) : TypeInfo := { info with key := 0 }

namespace GraphType

mutual

/-- The type without its keys. -/
def bare : GraphType → GraphType
  | scalar kind => scalar kind
  | object info plan => object info.bare plan.bare
  | union info members => union info.bare (bareAll members)
  | enum info values => enum info.bare values
  | foreign value => foreign value
  | list _ item => list 0 item.bare
  | nonNull item => nonNull item.bare

def bareAll : List GraphType → List GraphType
  | [] => []
  | type :: rest => type.bare :: bareAll rest

end

theorem bareAll_eq_map (types : List GraphType) : bareAll types = types.map bare := by
  induction types with
  | nil => rfl
  | cons type rest ih => rw [bareAll, ih, List.map_cons]

end GraphType

/-- The field with no keys in its type. -/
def Field.bare (field : Field) : Field := { field with type := field.type.bare }

/-- The fields with no keys in their types. -/
def FieldMap.bare : FieldMap → FieldMap
  | placeholder name => placeholder name
  | ofProperties fields => ofProperties (fields.map Field.bare)

namespace Registry

/-- The entries without the keys of their types. -/
def bareEntries (registry : Registry) : List (Json × GraphType) :=
  registry.entries.map fun entry => (entry.1, entry.2.bare)

theorem map_bare_find? (registry : Registry) (id : Json) :
    (registry.find? id).map GraphType.bare =
      (registry.bareEntries.find? fun entry => Json.same entry.1 id).map Prod.snd := by
  rw [find?, bareEntries, List.find?_map, Option.map_map, Option.map_map]
  rfl

theorem setEntry_map {α β : Type} (f : α → β) (id : Json) (value : α)
    (entries : List (Json × α)) :
    (setEntry id value entries).map (fun entry => (entry.1, f entry.2)) =
      setEntry id (f value) (entries.map fun entry => (entry.1, f entry.2)) := by
  induction entries with
  | nil => rfl
  | cons head rest ih =>
    simp only [setEntry, List.map_cons]
    split
    · rfl
    · rw [List.map_cons, ih]

variable {first second : Registry}

theorem map_bare_find?_eq (h : first.bareEntries = second.bareEntries) (id : Json) :
    (first.find? id).map GraphType.bare = (second.find? id).map GraphType.bare := by
  rw [map_bare_find?, map_bare_find?, h]

theorem isSome_find?_eq (h : first.bareEntries = second.bareEntries) (id : Json) :
    (first.find? id).isSome = (second.find? id).isSome := by
  rw [← Option.isSome_map, map_bare_find?_eq h, Option.isSome_map]

end Registry

namespace Build

/-- Building fields enters nothing. -/
theorem fieldsOf_bareEntries (plan : FieldPlan) (registry : Registry) :
    ((fieldsOf plan).on registry).2.bareEntries = registry.bareEntries :=
  congrArg (List.map _) (fieldsOf_entries plan registry)

theorem drain_bareEntries (resolved : Nat) (registry : Registry) :
    (drain resolved registry).2.bareEntries = registry.bareEntries :=
  congrArg (List.map _) (drain_entries resolved registry)

/-- Two works that cannot be told apart without keys, on registries with the same bare entries:
they end alike, and queue plans that are alike. -/
structure Matches {α γ : Type} (bare : α → γ) (work other : Build α) : Prop where
  runs (first second : Registry) (h : first.bareEntries = second.bareEntries) :
    ∃ added more, first.Extends added (work.on first).2 ∧
      second.Extends more (other.on second).2 ∧
      added.map FieldPlan.bare = more.map FieldPlan.bare ∧
      (work.on first).1.map bare = (other.on second).1.map bare

namespace Matches

variable {α β γ δ : Type} {bare : α → γ}

/-- Works that queue nothing. -/
theorem of_extends {work other : Build α} (h : ∀ first second : Registry,
    first.bareEntries = second.bareEntries → first.Extends [] (work.on first).2 ∧
      second.Extends [] (other.on second).2 ∧
      (work.on first).1.map bare = (other.on second).1.map bare) : Matches bare work other :=
  ⟨fun first second hentries =>
    let ⟨hfirst, hsecond, hresult⟩ := h first second hentries
    ⟨[], [], hfirst, hsecond, rfl, hresult⟩⟩

theorem pure {value value' : α} (h : bare value = bare value') :
    Matches bare (Pure.pure value) (Pure.pure value') :=
  of_extends fun first second _ => ⟨.refl first, .refl second, congrArg Except.ok h⟩

theorem throw (fault : Fault) : Matches bare (throw fault) (throw fault) :=
  of_extends fun first second _ => ⟨.refl first, .refl second, rfl⟩

theorem bind {bare' : β → δ} {work other : Build α} {next next' : α → Build β}
    (h : Matches bare work other)
    (hnext : ∀ value value', bare value = bare value' → Matches bare' (next value) (next' value')) :
    Matches bare' (work >>= next) (other >>= next') := by
  refine ⟨fun first second hentries => ?_⟩
  obtain ⟨added, more, hfirst, hsecond, halike, hresult⟩ := h.runs first second hentries
  rw [on_bind, on_bind]
  rcases hrun : work.on first with ⟨fault | value, middle⟩ <;>
    rcases hrun' : other.on second with ⟨fault' | value', middle'⟩ <;>
    rw [hrun] at hfirst hresult <;> rw [hrun'] at hsecond hresult
  · cases hresult
    exact ⟨added, more, hfirst, hsecond, halike, rfl⟩
  · cases hresult
  · cases hresult
  · have hmiddle : middle.bareEntries = middle'.bareEntries := by
      rw [Registry.bareEntries, Registry.bareEntries, hfirst.entries, hsecond.entries]
      exact hentries
    obtain ⟨added', more', hfirst', hsecond', halike', hresult'⟩ :=
      (hnext value value' (Except.ok.inj hresult)).runs middle middle' hmiddle
    refine ⟨added ++ added', more ++ more', hfirst.trans hfirst', hsecond.trans hsecond', ?_,
      hresult'⟩
    rw [List.map_append, List.map_append, halike, halike']

/-- A step that makes the same on both sides, before others. -/
theorem after {bare : β → δ} {work other : Build α} {next next' : α → Build β}
    (h : Matches id work other) (hnext : ∀ value, Matches bare (next value) (next' value)) :
    Matches bare (work >>= next) (other >>= next') := by
  refine bind h fun value value' heq => ?_
  obtain rfl : value = value' := heq
  exact hnext value

end Matches

/-! ### Single steps -/

theorem lift_matches {α : Type} (result : Except Fault α) :
    Matches id (lift result) (lift result) :=
  .of_extends fun first second _ => ⟨.refl first, .refl second, rfl⟩

theorem record_extends (event : Event) (registry : Registry) :
    registry.Extends [] ((record event).on registry).2 := by
  rw [record_on]
  exact ⟨rfl, rfl, by simp, by simp, Nat.le_refl _⟩

theorem record_matches (event event' : Event) : Matches id (record event) (record event') :=
  .of_extends fun first second _ => ⟨record_extends event first, record_extends event' second, rfl⟩

theorem freshKey_extends (registry : Registry) :
    registry.Extends [] (freshKey.on registry).2 := by
  rw [freshKey_on]
  exact ⟨rfl, rfl, by simp, by simp, Nat.le_succ _⟩

theorem freshKey_matches : Matches (fun _ => ()) freshKey freshKey :=
  .of_extends fun first second _ => ⟨freshKey_extends first, freshKey_extends second, rfl⟩

theorem defer_matches {plan plan' : FieldPlan} (h : plan.bare = plan'.bare) :
    Matches id (defer plan) (defer plan') := by
  refine ⟨fun first second _ => ⟨[plan], [plan'], ?_, ?_, congrArg (fun plan => [plan]) h, rfl⟩⟩
  · exact ⟨rfl, rfl, rfl, rfl, Nat.le_refl _⟩
  · exact ⟨rfl, rfl, rfl, rfl, Nat.le_refl _⟩

theorem find?_matches (id : Json) :
    Matches (Option.map GraphType.bare) (find? id) (find? id) := by
  refine .of_extends fun first second hentries => ?_
  rw [find?_on, find?_on]
  refine ⟨.refl first, .refl second, ?_⟩
  split
  · exact congrArg Except.ok (Registry.map_bare_find?_eq hentries id)
  · rfl

theorem customize_matches (setting : Setting) (name : String) (form : TypeForm) (draft : Draft) :
    Matches id (customize setting name form draft) (customize setting name form draft) := by
  unfold customize
  split
  · exact .pure rfl
  · exact .after (record_matches _ _) fun _ => lift_matches _

theorem makeInfo_matches (draft : Draft) :
    Matches TypeInfo.bare (makeInfo draft) (makeInfo draft) :=
  .after (lift_matches _) fun _ => .bind freshKey_matches fun _ _ _ => .pure rfl

/-! ### Building -/

theorem buildEnum_matches (setting : Setting) (name : String) (site : Site) (literals : List Json)
    (base : Json) : Matches GraphType.bare (buildEnum setting name site literals base)
      (buildEnum setting name site literals base) := by
  refine .after (lift_matches _) fun values => .after (customize_matches ..) fun draft => ?_
  refine .after (record_matches _ _) fun _ => .bind (makeInfo_matches draft) ?_
  intro info info' hinfo
  refine .pure ?_
  rw [GraphType.bare, GraphType.bare, hinfo]

theorem buildObject_matches (setting : Setting) (name : String) (site : Site)
    (required : List Json) (properties : List (String × Shape)) :
    Matches GraphType.bare (buildObject setting name site required properties)
      (buildObject setting name site required properties) := by
  refine .bind freshKey_matches fun key key' _ => .after (defer_matches rfl) fun _ =>
    .after (customize_matches ..) fun draft => ?_
  refine .after (record_matches _ _) fun _ => .bind (makeInfo_matches draft) ?_
  intro info info' hinfo
  refine .pure ?_
  rw [GraphType.bare, GraphType.bare, hinfo]
  rfl

theorem buildCases_matches (setting : Setting) (owner : String) (cases : List (String × Shape))
    (h : ∀ entry ∈ cases, ∀ position, Matches GraphType.bare
      (buildType setting position entry.2) (buildType setting position entry.2)) :
    Matches (List.map GraphType.bare) (buildCases setting owner cases)
      (buildCases setting owner cases) := by
  induction cases with
  | nil => exact .pure rfl
  | cons head rest ih =>
    obtain ⟨key, shape⟩ := head
    rw [buildCases]
    refine .bind (h (key, shape) List.mem_cons_self _) fun member member' hmember => ?_
    refine .bind (ih fun entry hentry => h entry (List.mem_cons_of_mem _ hentry)) ?_
    intro members members' hmembers
    refine .pure ?_
    rw [List.map_cons, List.map_cons, hmember, hmembers]

/-- The type of a shape is the same but for keys on registries with the same bare entries. -/
theorem buildType_matches (setting : Setting) (position : String) (shape : Shape) :
    Matches GraphType.bare (buildType setting position shape)
      (buildType setting position shape) := by
  induction shape generalizing position with
  | union site cases ih =>
    rw [buildType]
    refine .bind (buildCases_matches setting _ cases ih) fun members members' hmembers => ?_
    refine .after (record_matches _ _) fun _ => .bind (makeInfo_matches _) ?_
    intro info info' hinfo
    refine .pure ?_
    rw [GraphType.bare, GraphType.bare, GraphType.bareAll_eq_map, GraphType.bareAll_eq_map,
      hinfo, hmembers]
  | object site required properties ih => exact buildObject_matches ..
  | array site items ih =>
    rw [buildType]
    refine .bind (ih position) fun item item' hitem => .bind freshKey_matches fun key key' _ => ?_
    refine .pure ?_
    simp only [GraphType.bare, hitem]
  | bareArray site => exact .throw _
  | enum site literals base => exact buildEnum_matches ..
  | reference site target =>
    refine .bind (find?_matches target) fun found? found?' hfound => ?_
    cases found? with
    | none =>
      cases found?' with
      | none => exact .throw _
      | some found' => cases hfound
    | some found =>
      cases found?' with
      | none => cases hfound
      | some found' => exact .pure (Option.some.inj hfound)
  | primitive site kind => exact .pure rfl
  | unrecognized site type => exact .throw _

theorem buildFields_matches (setting : Setting) (owner : String) (required : List Json)
    {done done' : List Field} (properties : List (String × Shape))
    (hdone : done.map Field.bare = done'.map Field.bare) :
    Matches (List.map Field.bare) (buildFields setting owner required done properties)
      (buildFields setting owner required done' properties) := by
  induction properties generalizing done done' with
  | nil => exact .pure hdone
  | cons head rest ih =>
    obtain ⟨property, shape⟩ := head
    have hfind : (done.find? (·.name == Name.safe property)).map Field.bare =
        (done'.find? (·.name == Name.safe property)).map Field.bare := by
      have hmap (fields : List Field) :
          (fields.map Field.bare).find? (·.name == Name.safe property) =
            (fields.find? (·.name == Name.safe property)).map Field.bare := List.find?_map
      rw [← hmap, ← hmap, hdone]
    rw [buildFields, buildFields]
    cases hfound : done.find? (·.name == Name.safe property) with
    | some field =>
      cases hfound' : done'.find? (·.name == Name.safe property) with
      | some field' =>
        rw [hfound, hfound'] at hfind
        have hbare := congrArg Field.property? (Option.some.inj hfind)
        have hproperty : field.property? = field'.property? := hbare
        simp only [hproperty]
        exact .throw _
      | none =>
        rw [hfound, hfound'] at hfind
        cases hfind
    | none =>
      cases hfound' : done'.find? (·.name == Name.safe property) with
      | some field' =>
        rw [hfound, hfound'] at hfind
        cases hfind
      | none =>
        refine .bind (buildType_matches ..) fun type type' htype => ih ?_
        rw [List.map_append, List.map_append, hdone, List.map_singleton, List.map_singleton]
        refine congrArg (fun field => _ ++ [field]) ?_
        simp only [Field.bare]
        split <;> simp only [GraphType.bare, htype]

/-- The fields of plans that are the same but for keys are the same but for keys. -/
theorem buildPlan_matches {plan plan' : FieldPlan} (h : plan.bare = plan'.bare) :
    Matches FieldMap.bare (buildPlan plan) (buildPlan plan') := by
  obtain ⟨key, owner, required, properties, setting⟩ := plan
  obtain ⟨key', owner', required', properties', setting'⟩ := plan'
  cases h
  unfold buildPlan
  cases properties with
  | nil =>
    exact .after (lift_matches _) fun name => .pure rfl
  | cons head rest =>
    refine .bind (buildFields_matches _ _ _ _ rfl) fun fields fields' hfields => .pure ?_
    rw [FieldMap.bare, FieldMap.bare, hfields]

end Build
end SchemaGraph
