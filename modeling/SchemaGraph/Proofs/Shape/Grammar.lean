import SchemaGraph.Proofs.Shape.Precedence

/-! The grammar of schemas.

Reading a schema goes from the schema down to those that it holds, in the order of the
document, and only to those under the mark that counts (`Json.visited`). Any of them can be
at fault for one keyword: one that counts and cannot be gone through (`Json.misfit?`). The
grammar says so without the reading. Reading accepts exactly the schemas that visit nothing
at fault, and the fault of any other is that of the first that is (`Shape.ofJson_accepts`).

What stands against a whole is what stands against its parts, one after the other, and
reading goes through the parts one after the other: so the two are put together alike
(`Tells.bind`). -/
namespace SchemaGraph

/-- The keyword that a schema is at fault for. -/
inductive Misfit where
  | cases
  | required
  | properties
  | literals
  deriving Repr, DecidableEq

/-- What reading says of it. Properties have to be an object, the others anything that can be
gone through. -/
def Misfit.fault : Misfit → Fault
  | properties => .wrongKind .object
  | _ => .wrongKind .sequence

namespace Json

/-- Can be gone through. -/
def isSequence : Json → Bool
  | .arr _ => true
  | .str _ => true
  | .obj _ => true
  | _ => false

/-- What is at fault with the schema, whatever the schemas that it holds. Null counts as
absent, and so do empty values of any kind beside the type `object`. -/
def misfit? (schema : Json) : Option Misfit :=
  if (schema.member "oneOf").isNull then
    match schema.member "type" with
    | .str "object" =>
      if (schema.member "required").truthy && !(schema.member "required").isSequence then
        some .required
      else if (schema.member "properties").truthy && !(schema.member "properties").isObject then
        some .properties
      else none
    | .str "array" => none
    | _ =>
      if (schema.member "enum").isNull || (schema.member "enum").isSequence then none
      else some .literals
  else if (schema.member "oneOf").isSequence then none
  else some .cases

/-- The values of an object, in order. -/
def memberValues : Json → List Json
  | .obj members => members.map (·.2)
  | _ => []

/-- The cases of a union: items, characters or the values of an object. -/
def caseValues : Json → List Json
  | .arr items => items
  | .str text => text.toList.map fun c => .str (String.singleton c)
  | value => value.memberValues

/-- The schemas that a schema holds where they count, in order. -/
def parts (schema : Json) : List Json :=
  if (schema.member "oneOf").isNull then
    match schema.member "type" with
    | .str "object" => (schema.member "properties").memberValues
    | .str "array" =>
      if (schema.member "items").isNull then [] else [schema.member "items"]
    | _ => []
  else (schema.member "oneOf").caseValues.map unwrapped

/-! ### Parts are smaller than the whole -/

theorem size_le_of_mem_memberValues {value part : Json} (h : part ∈ value.memberValues) :
    part.size < value.size := by
  cases value with
  | obj members =>
    obtain ⟨entry, hentry, rfl⟩ := List.mem_map.1 h
    have := size_snd_le_sizeMembers hentry
    rw [size_obj]
    omega
  | _ => cases h

theorem size_le_of_mem_caseValues {value case : Json} (h : case ∈ value.caseValues) :
    case.size ≤ value.size := by
  cases value with
  | arr items =>
    have hitem := size_le_sizeItems (show case ∈ items from h)
    rw [size_arr]
    omega
  | str text =>
    obtain ⟨c, hc, rfl⟩ := List.mem_map.1 h
    have := List.length_pos_of_mem hc
    rw [size_str, size_str, String.length_singleton, ← String.length_toList]
    omega
  | obj members => exact Nat.le_of_lt (size_le_of_mem_memberValues h)
  | _ => cases h

theorem size_member_lt {schema : Json} {keyword : String} (h : schema.member keyword ≠ .null) :
    (schema.member keyword).size < schema.size :=
  size_present?_lt (present?_of_ne_null h)

theorem size_unwrapped_le (case : Json) : case.unwrapped.size ≤ case.size := by
  rw [← unwrapped_eq ""]
  exact Shape.unwrapped_size_le "" case

theorem size_lt_of_mem_parts {schema part : Json} (h : part ∈ schema.parts) :
    part.size < schema.size := by
  unfold parts at h
  split at h
  · split at h
    · have hpart := size_le_of_mem_memberValues h
      refine Nat.lt_trans hpart (size_member_lt fun hnull => ?_)
      rw [hnull] at h
      cases h
    · split at h
      · cases h
      · rename_i hitems
        rw [List.mem_singleton.1 h]
        exact size_member_lt (mt isNull_iff.2 hitems)
    · cases h
  · rename_i hcases
    obtain ⟨case, hcase, rfl⟩ := List.mem_map.1 h
    have hmember := size_member_lt (mt isNull_iff.2 hcases)
    have hle := size_le_of_mem_caseValues hcase
    have := size_unwrapped_le case
    omega

/-- The schema and all schemas that are read with it, each before what it holds. -/
def visited (schema : Json) : List Json :=
  schema :: schema.parts.attach.flatMap fun ⟨part, _⟩ => visited part
termination_by schema.size
decreasing_by exact size_lt_of_mem_parts (by assumption)

theorem visited_eq (schema : Json) : schema.visited = schema :: schema.parts.flatMap visited := by
  rw [visited]
  simp

/-- What is at fault with the first schema that is. -/
def firstMisfit? (schema : Json) : Option Misfit := schema.visited.findSome? misfit?

theorem findSome?_cons_eq_or {α β : Type} (f : α → Option β) (item : α) (rest : List α) :
    (item :: rest).findSome? f = (f item).or (rest.findSome? f) := by
  rw [List.findSome?_cons]
  cases f item <;> rfl

/-- The schema itself comes first, then what it holds. -/
theorem firstMisfit?_eq (schema : Json) :
    schema.firstMisfit? = schema.misfit?.or (schema.parts.findSome? firstMisfit?) := by
  have hparts : (schema.parts.flatMap visited).findSome? misfit? =
      schema.parts.findSome? firstMisfit? := by
    rw [← List.head?_filterMap, List.filterMap_flatMap, List.head?_flatMap]
    simp only [List.head?_filterMap]
    rfl
  rw [firstMisfit?, visited_eq, findSome?_cons_eq_or, hparts]

/-! ### The first fault, mark by mark -/

variable {schema : Json}

theorem firstMisfit?_union (h : schema.member "oneOf" ≠ .null) :
    schema.firstMisfit? =
      (if (schema.member "oneOf").isSequence then none else some .cases).or
        (((schema.member "oneOf").caseValues.map unwrapped).findSome? firstMisfit?) := by
  have hcases : ¬ (schema.member "oneOf").isNull = true := mt isNull_iff.1 h
  rw [firstMisfit?_eq, misfit?, parts, if_neg hcases, if_neg hcases]

theorem firstMisfit?_object (hunion : schema.member "oneOf" = .null)
    (htype : schema.member "type" = .str "object") :
    schema.firstMisfit? =
      (if (schema.member "required").truthy && !(schema.member "required").isSequence then
        some .required else none).or
      ((if (schema.member "properties").truthy && !(schema.member "properties").isObject then
        some .properties else none).or
      ((schema.member "properties").memberValues.findSome? firstMisfit?)) := by
  rw [firstMisfit?_eq, misfit?, parts, hunion, htype]
  simp only [isNull, if_true]
  split <;> rfl

theorem firstMisfit?_array (hunion : schema.member "oneOf" = .null)
    (htype : schema.member "type" = .str "array") :
    schema.firstMisfit? = (schema.present? "items").bind firstMisfit? := by
  have hnull : (schema.member "oneOf").isNull = true := isNull_iff.2 hunion
  rw [firstMisfit?_eq, misfit?, parts, if_pos hnull, if_pos hnull, htype]
  by_cases hitems : schema.member "items" = .null
  · rw [present?_of_null hitems, hitems]
    rfl
  · have hsome : ¬ (schema.member "items").isNull = true := mt isNull_iff.1 hitems
    rw [present?_of_ne_null hitems]
    simp only [if_neg hsome, findSome?_cons_eq_or, List.findSome?_nil, Option.or_none]
    rfl

theorem firstMisfit?_other (hunion : schema.member "oneOf" = .null)
    (htype : ¬ (schema.member "type").IsContainer) :
    schema.firstMisfit? =
      if (schema.member "enum").isNull || (schema.member "enum").isSequence then none
      else some .literals := by
  have hne := not_or.1 htype
  rw [firstMisfit?_eq, misfit?, parts, hunion]
  simp only [isNull, if_true]
  split
  · rename_i hobject
    exact absurd hobject hne.1
  · rename_i harray
    exact absurd harray hne.2
  · exact Option.or_none

/-- What is no object has no keywords. -/
theorem member_eq_null {value : Json} (h : value.isObject = false) (name : String) :
    value.member name = .null := by
  cases value with
  | obj members => cases h
  | _ => rfl

/-- Nothing stands against what is no object. -/
theorem firstMisfit?_of_not_object {value : Json} (h : value.isObject = false) :
    value.firstMisfit? = none := by
  have htype : ¬ (value.member "type").IsContainer := by
    rw [member_eq_null h]
    exact not_or.2 ⟨nofun, nofun⟩
  rw [firstMisfit?_other (member_eq_null h _) htype, member_eq_null h]
  rfl

theorem unwrapped_of_not_object {value : Json} (h : value.isObject = false) :
    value.unwrapped = value := by
  rw [unwrapped, member_eq_null h]
  rfl

end Json

/-! ### Reading tells the first fault -/

/-- The result of reading something that the misfit, if there is one, comes first in. -/
def Tells {α : Type} (result : Except Fault α) : Option Misfit → Prop
  | none => ∃ value, result = .ok value
  | some misfit => result = .error misfit.fault

namespace Tells

variable {α β : Type} {result : Except Fault α} {misfit? further? : Option Misfit}

/-- What comes first in one step and then the next comes first in both. -/
theorem bind {next : α → Except Fault β} (h : Tells result misfit?)
    (hnext : ∀ value, result = .ok value → Tells (next value) further?) :
    Tells (result >>= next) (misfit?.or further?) := by
  cases misfit? with
  | none =>
    obtain ⟨value, rfl⟩ := h
    exact hnext value rfl
  | some misfit =>
    obtain rfl : result = .error misfit.fault := h
    exact rfl

theorem map {f : α → β} (h : Tells result misfit?) :
    Tells (result >>= fun value => return f value) misfit? := by
  rw [← Option.or_none (o := misfit?)]
  exact h.bind fun value _ => ⟨f value, rfl⟩

theorem ok_iff (h : Tells result misfit?) : (∃ value, result = .ok value) ↔ misfit? = none := by
  cases misfit? with
  | none => exact iff_of_true h rfl
  | some misfit =>
    have hfault : result = .error misfit.fault := h
    rw [hfault]
    exact iff_of_false (fun ⟨_, h⟩ => nomatch h) nofun

theorem error_iff (h : Tells result misfit?) {fault : Fault} :
    result = .error fault ↔ ∃ misfit, misfit? = some misfit ∧ fault = misfit.fault := by
  cases misfit? with
  | none =>
    obtain ⟨value, rfl⟩ := h
    exact iff_of_false nofun fun ⟨_, h, _⟩ => nomatch h
  | some misfit =>
    have hfault : result = .error misfit.fault := h
    rw [hfault, Except.error.injEq, eq_comm]
    simp

end Tells

namespace Shape

open Json

variable {schema : Json}

theorem casesOf_tells (cases : Json) :
    Tells (casesOf cases) (if cases.isSequence then none else some .cases) := by
  cases cases with
  | arr _ => exact ⟨_, rfl⟩
  | str _ => exact ⟨_, rfl⟩
  | obj _ => exact ⟨_, rfl⟩
  | _ => exact rfl

theorem requiredOf_tells (schema : Json) :
    Tells (requiredOf (schema.present? "required"))
      (if (schema.member "required").truthy && !(schema.member "required").isSequence then
        some .required else none) := by
  by_cases hnull : schema.member "required" = .null
  · rw [present?_of_null hnull, hnull]
    exact ⟨[], rfl⟩
  · rw [present?_of_ne_null hnull, requiredOf]
    generalize schema.member "required" = required
    cases htruthy : required.truthy with
    | false => exact ⟨[], rfl⟩
    | true =>
      cases required with
      | arr _ => exact ⟨_, rfl⟩
      | str _ => exact ⟨_, rfl⟩
      | obj _ => exact ⟨_, rfl⟩
      | _ => exact rfl

/-- An empty value of any kind has no properties. -/
theorem propertiesOf_of_not_object {value : Json} (h : value.isObject = false) :
    propertiesOf (some value) =
      if value.truthy then .error (.wrongKind .object) else .ok [] := by
  cases value with
  | obj members => cases h
  | _ => rfl

theorem propertiesOf_tells (schema : Json) :
    Tells (propertiesOf (schema.present? "properties"))
      (if (schema.member "properties").truthy && !(schema.member "properties").isObject then
        some .properties else none) := by
  by_cases hnull : schema.member "properties" = .null
  · rw [present?_of_null hnull, hnull]
    exact ⟨[], rfl⟩
  · rw [present?_of_ne_null hnull]
    generalize schema.member "properties" = properties
    cases properties with
    | obj members =>
      rw [show isObject (.obj members) = true from rfl, Bool.not_true, Bool.and_false]
      exact ⟨members, rfl⟩
    | _ =>
      rw [propertiesOf_of_not_object rfl]
      split <;> rename_i htruthy
      · rw [htruthy]
        exact rfl
      · rw [Bool.eq_false_iff.2 htruthy]
        exact ⟨[], rfl⟩

theorem map_snd_numbered (start : Nat) (values : List Json) :
    (numbered start values).map (·.2) = values := by
  induction values generalizing start with
  | nil => rfl
  | cons value rest ih => rw [numbered, List.map_cons, ih]

/-- The cases that are read are those of the grammar. The characters of a text are no schemas,
whatever is read for them. -/
theorem casesOf_firstMisfit? {cases : Json} {entries : List (String × Json)}
    (h : casesOf cases = .ok entries) :
    ((entries.map (·.2)).map Json.unwrapped).findSome? firstMisfit? =
      (cases.caseValues.map Json.unwrapped).findSome? firstMisfit? := by
  cases cases with
  | arr items =>
    cases h
    rw [map_snd_numbered]
    rfl
  | obj members =>
    cases h
    rfl
  | str text =>
    cases h
    have hnone (values : List Json) (hvalues : ∀ value ∈ values, value.isObject = false) :
        (values.map Json.unwrapped).findSome? firstMisfit? = none := by
      rw [List.findSome?_eq_none_iff]
      intro part hpart
      obtain ⟨value, hvalue, rfl⟩ := List.mem_map.1 hpart
      rw [unwrapped_of_not_object (hvalues value hvalue)]
      exact firstMisfit?_of_not_object (hvalues value hvalue)
    rw [map_snd_numbered, caseValues, hnone _ (by simp [isObject]), hnone _ (by simp [isObject])]
  | _ => cases h

theorem ofCases_tells {path : String} {entries : List (String × Json)}
    (h : ∀ entry ∈ entries, ∀ path, Tells (ofJson path entry.2.unwrapped)
      entry.2.unwrapped.firstMisfit?) :
    Tells (ofCases path entries)
      (((entries.map (·.2)).map Json.unwrapped).findSome? firstMisfit?) := by
  induction entries with
  | nil => exact ⟨[], by rw [ofCases]⟩
  | cons head rest ih =>
    obtain ⟨key, case⟩ := head
    obtain ⟨hhead, hrest⟩ := List.forall_mem_cons.1 h
    rw [ofCases, List.map_cons, List.map_cons, findSome?_cons_eq_or]
    simp only [unwrapped_eq]
    exact .bind (hhead _) fun shape _ => .map (ih hrest)

theorem ofProperties_tells {path : String} {entries : List (String × Json)}
    (h : ∀ entry ∈ entries, ∀ path, Tells (ofJson path entry.2) entry.2.firstMisfit?) :
    Tells (ofProperties path entries) ((entries.map (·.2)).findSome? firstMisfit?) := by
  induction entries with
  | nil => exact ⟨[], by rw [ofProperties]⟩
  | cons head rest ih =>
    obtain ⟨name, property⟩ := head
    obtain ⟨hhead, hrest⟩ := List.forall_mem_cons.1 h
    rw [ofProperties, List.map_cons, findSome?_cons_eq_or]
    exact .bind (hhead _) fun shape _ => .map (ih hrest)

/-- The properties that are read are those of the grammar. -/
theorem propertiesOf_values {schema : Json} {entries : List (String × Json)}
    (h : propertiesOf (schema.present? "properties") = .ok entries) :
    (schema.member "properties").memberValues = entries.map (·.2) := by
  by_cases hnull : schema.member "properties" = .null
  · rw [present?_of_null hnull] at h
    cases h
    rw [hnull]
    rfl
  · rw [present?_of_ne_null hnull] at h
    generalize schema.member "properties" = properties at h
    cases properties with
    | obj members =>
      cases h
      rfl
    | _ =>
      rw [propertiesOf_of_not_object rfl] at h
      split at h <;> cases h
      rfl

/-- Beside literals nothing can be at fault, and without them nothing is. -/
theorem other_tells {path : String} {schema : Json} (hunion : schema.member "oneOf" = .null)
    (htype : ¬ (schema.member "type").IsContainer) :
    Tells (ofJson path schema) schema.firstMisfit? := by
  rw [ofJson_eq, Marker.of_other hunion htype, firstMisfit?_other hunion htype]
  by_cases henum : schema.member "enum" = .null
  · rw [present?_of_null henum, henum]
    show ∃ shape, _ = Except.ok shape
    cases schema.present? "$ref" with
    | some target => exact ⟨_, rfl⟩
    | none => rcases Marker.ofType_eq (schema.member "type") with ⟨kind, hkind⟩ | hkind <;>
        exact ⟨_, by simp only [hkind]; rfl⟩
  · rw [present?_of_ne_null henum]
    generalize schema.member "enum" = literals at henum
    cases literals with
    | null => exact absurd rfl henum
    | arr _ => exact ⟨_, rfl⟩
    | str _ => exact ⟨_, rfl⟩
    | obj _ => exact ⟨_, rfl⟩
    | _ => exact rfl

/-- **Reading a schema** gives a shape, or the fault of the first schema visited that has one.
The induction is on the size of the schema, with a case for each mark. -/
theorem ofJson_tells (path : String) (schema : Json) :
    Tells (ofJson path schema) schema.firstMisfit? := by
  induction hsize : schema.size using Nat.strongRecOn generalizing path schema with
  | ind size ih =>
    subst hsize
    by_cases hunion : schema.member "oneOf" = .null
    · by_cases hobject : schema.member "type" = .str "object"
      · rw [ofJson_eq, Marker.of_typeObject hunion hobject, firstMisfit?_object hunion hobject]
        refine .bind (requiredOf_tells schema) fun required _ =>
          .bind (propertiesOf_tells schema) fun entries hentries => ?_
        rw [propertiesOf_values hentries]
        refine .map (ofProperties_tells fun entry hentry path => ih _ ?_ path _ rfl)
        have hgiven : schema.present? "properties" = schema.present? "properties" := rfl
        have hmembers := propertiesOf_size_lt hgiven hentries
        exact Nat.lt_of_le_of_lt (size_snd_le_sizeMembers hentry) hmembers
      · by_cases harray : schema.member "type" = .str "array"
        · rw [ofJson_eq, Marker.of_typeArray hunion harray, firstMisfit?_array hunion harray]
          cases hitems : schema.present? "items" with
          | none => exact ⟨_, rfl⟩
          | some items => exact .map (ih _ (size_present?_lt hitems) _ _ rfl)
        · have htype : ¬ (schema.member "type").IsContainer := not_or.2 ⟨hobject, harray⟩
          exact other_tells hunion htype
    · rw [ofJson_eq, Marker.of_union hunion, firstMisfit?_union hunion]
      refine .bind (casesOf_tells _) fun entries hentries => ?_
      rw [← casesOf_firstMisfit? hentries]
      refine .map (ofCases_tells fun entry hentry path => ih _ ?_ path _ rfl)
      have hmembers := casesOf_size_lt hentries
      have hcases := size_member_lt hunion
      have hentry := size_snd_le_sizeMembers hentry
      have := size_unwrapped_le entry.2
      omega

/-- **Reading accepts exactly its grammar.** A schema has a shape just if nothing that is visited
with it is at fault, and the fault of any other is that of the first visited that is. What is no
object is always read, as a schema that nothing is known of. -/
theorem ofJson_accepts (path : String) (schema : Json) :
    ((∃ shape, ofJson path schema = .ok shape) ↔
      ∀ part ∈ schema.visited, part.misfit? = none) ∧
    (∀ fault, ofJson path schema = .error fault ↔
      ∃ misfit, schema.visited.findSome? misfit? = some misfit ∧ fault = misfit.fault) ∧
    (schema.isObject = false →
      ofJson path schema = .ok (.unrecognized (siteOf path schema) .null)) := by
  have htells := ofJson_tells path schema
  refine ⟨?_, fun fault => htells.error_iff, fun hobject => ?_⟩
  · rw [htells.ok_iff]
    exact List.findSome?_eq_none_iff
  · have htype : ¬ (schema.member "type").IsContainer := by
      rw [member_eq_null hobject]
      exact not_or.2 ⟨nofun, nofun⟩
    rw [ofJson_eq, Marker.of_other (member_eq_null hobject _) htype,
      present?_of_null (member_eq_null hobject _), present?_of_null (member_eq_null hobject _),
      member_eq_null hobject]
    rfl

/-- The case under `then` is an array of objects. Its property `a` is no schema, and the list of
properties under `b` comes before the wrong `required` of the second case. -/
theorem ofJson_accepts_nested :
    let inner : Json := .obj [("type", .str "object"), ("properties", .arr [.int 1])]
    let items : Json := .obj [("type", .str "object"), ("properties", .obj
      [("a", .int 7), ("b", inner)])]
    let schema : Json := .obj [("oneOf", .arr [
      .obj [("then", .obj [("type", .str "array"), ("items", items)])],
      .obj [("type", .str "object"), ("required", .int 3)]])]
    schema.visited.length = 6 ∧ inner.misfit? = some .properties ∧
      ofJson "#" schema = .error (.wrongKind .object) ∧
      ofJson "#" (.int 7) = .ok (.unrecognized { path := "#" } .null) ∧
      ∃ shape, ofJson "#" (.obj [("enum", .str "ab")]) = .ok shape := by
  intro inner items schema
  have hfirst : schema.visited.findSome? misfit? = some .properties := by with_unfolding_all rfl
  obtain ⟨-, hfault, -⟩ := ofJson_accepts "#" schema
  obtain ⟨-, -, hvalue⟩ := ofJson_accepts "#" (.int 7)
  obtain ⟨hshape, -, -⟩ := ofJson_accepts "#" (.obj [("enum", .str "ab")])
  refine ⟨by with_unfolding_all rfl, rfl, (hfault _).2 ⟨.properties, hfirst, rfl⟩, hvalue rfl,
    hshape.2 ?_⟩
  have hvisited : visited (.obj [("enum", .str "ab")]) = [.obj [("enum", .str "ab")]] := by
    with_unfolding_all rfl
  rw [hvisited]
  exact List.forall_mem_singleton.2 rfl

end Shape
end SchemaGraph
