import Mathlib.Data.List.Forall2
import SchemaGraph.Shape.Reading

/-! Which keywords count.

One mark decides what a schema describes, and hides the marks behind it: cases come before the
type `object`, then the type `array`, then literals, then a reference. Two schemas are tantamount
(`Json.Tantamount`) if the same mark decides, they agree on what goes with it, and the schemas that
they hold there are tantamount again; what else they say is left open. It is a case for each mark
that can decide, and each names the keywords to agree on. Tantamount schemas have the same shape
(`Json.Tantamount.ofJson_eq`), and schemas that agree on the supported keywords are tantamount
(`Json.Tantamount.of_shares`). -/
namespace SchemaGraph
namespace Json

/-! ### Schemas that say the same -/

/-- The values have the same members under the keywords, absent ones counting as null. -/
def Shares (keywords : List String) (first second : Json) : Prop :=
  ∀ keyword ∈ keywords, first.member keyword = second.member keyword

/-- A type that decides the shape of a schema before its literals and its reference do. -/
def IsContainer (type : Json) : Prop := type = .str "object" ∨ type = .str "array"

/-- The schema that a case stands for: the one under its `then`, if it has that. -/
def unwrapped (case : Json) : Json :=
  if (case.member "then").isNull then case else case.member "then"

/-- Two values hold the schemas in `pairs` side by side, at the same places or under the same
names, or they are one value. -/
inductive SideBySide : Json → Json → List (Json × Json) → Prop where
  | items (pairs : List (Json × Json)) :
      SideBySide (.arr (pairs.map (·.1))) (.arr (pairs.map (·.2))) pairs
  | members (entries : List (String × Json × Json)) :
      SideBySide (.obj (entries.map fun (name, first, _) => (name, first)))
        (.obj (entries.map fun (name, _, second) => (name, second))) (entries.map (·.2))
  | same (value : Json) : SideBySide value value []

/-- Two schemas that differ at most in what does not count. -/
inductive Tantamount : Json → Json → Prop where
  /-- Beside cases nothing counts, and beside the `then` of a case nothing either. -/
  | union {first second pairs} (hshares : first.Shares ["title", "description"] second)
      (hfirst : first.member "oneOf" ≠ .null) (hsecond : second.member "oneOf" ≠ .null)
      (hpairs : SideBySide (first.member "oneOf") (second.member "oneOf") pairs)
      (hthen : ∀ pair ∈ pairs, (pair.1.member "then").isNull = (pair.2.member "then").isNull)
      (hcases : ∀ pair ∈ pairs, Tantamount pair.1.unwrapped pair.2.unwrapped) :
      Tantamount first second
  | object {first second pairs}
      (hshares : first.Shares ["title", "description", "oneOf", "type", "required"] second)
      (hunion : first.member "oneOf" = .null) (htype : first.member "type" = .str "object")
      (hpairs : SideBySide (first.member "properties") (second.member "properties") pairs)
      (hproperties : ∀ pair ∈ pairs, Tantamount pair.1 pair.2) : Tantamount first second
  | array {first second} (hshares : first.Shares ["title", "description", "oneOf", "type"] second)
      (hunion : first.member "oneOf" = .null) (htype : first.member "type" = .str "array")
      (hnull : (first.member "items").isNull = (second.member "items").isNull)
      (hitems : Tantamount (first.member "items") (second.member "items")) :
      Tantamount first second
  | enum {first second}
      (hshares : first.Shares ["title", "description", "oneOf", "type", "enum"] second)
      (hunion : first.member "oneOf" = .null) (htype : ¬ (first.member "type").IsContainer)
      (henum : first.member "enum" ≠ .null) : Tantamount first second
  /-- Beside a reference even the type does not count, but for those that decide. -/
  | reference {first second}
      (hshares : first.Shares ["title", "description", "oneOf", "enum", "$ref"] second)
      (hunion : first.member "oneOf" = .null) (hfirst : ¬ (first.member "type").IsContainer)
      (hsecond : ¬ (second.member "type").IsContainer) (henum : first.member "enum" = .null)
      (href : first.member "$ref" ≠ .null) : Tantamount first second
  | plain {first second}
      (hshares : first.Shares ["title", "description", "oneOf", "type", "enum", "$ref"] second)
      (hunion : first.member "oneOf" = .null) (htype : ¬ (first.member "type").IsContainer)
      (henum : first.member "enum" = .null) (href : first.member "$ref" = .null) :
      Tantamount first second

/-- The keywords that can count in a schema. -/
def supported : List String :=
  ["title", "description", "oneOf", "type", "required", "properties", "items", "enum", "$ref"]

/-! ### Members -/

variable {schema first second : Json}

theorem present?_of_null {keyword : String} (h : schema.member keyword = .null) :
    schema.present? keyword = none := by
  unfold member at h
  unfold present?
  cases hmember : schema.member? keyword with
  | none => rfl
  | some value =>
    rw [hmember] at h
    cases h
    rfl

theorem present?_of_ne_null {keyword : String} (h : schema.member keyword ≠ .null) :
    schema.present? keyword = some (schema.member keyword) := by
  unfold member at h ⊢
  unfold present?
  cases hmember : schema.member? keyword with
  | none =>
    rw [hmember] at h
    exact absurd rfl h
  | some value =>
    rw [hmember] at h
    cases value with
    | null => exact absurd rfl h
    | _ => rfl

theorem Shares.present? {keywords : List String} {keyword : String}
    (h : first.Shares keywords second) (hkeyword : keyword ∈ keywords) :
    first.present? keyword = second.present? keyword := by
  have hmember := h keyword hkeyword
  by_cases hnull : first.member keyword = .null
  · rw [present?_of_null hnull, present?_of_null (hmember ▸ hnull)]
  · rw [present?_of_ne_null hnull, present?_of_ne_null (hmember ▸ hnull), hmember]

theorem Shares.mono {keywords fewer : List String} (h : first.Shares keywords second)
    (hfewer : fewer ⊆ keywords) : first.Shares fewer second :=
  fun keyword hkeyword => h keyword (hfewer hkeyword)

theorem Shares.siteOf_eq {keywords : List String} (h : first.Shares keywords second)
    (htitle : "title" ∈ keywords) (hdescription : "description" ∈ keywords) (path : String) :
    Shape.siteOf path first = Shape.siteOf path second := by
  unfold Shape.siteOf
  rw [h _ htitle, h _ hdescription]

theorem isNull_iff {value : Json} : value.isNull = true ↔ value = .null := by
  cases value <;> simp [isNull]

theorem unwrapped_eq (path : String) (case : Json) :
    (Shape.unwrapped path case).2 = case.unwrapped := by
  unfold Shape.unwrapped unwrapped
  by_cases hnull : case.member "then" = .null
  · rw [present?_of_null hnull, if_pos (isNull_iff.2 hnull)]
  · rw [present?_of_ne_null hnull, if_neg (mt isNull_iff.1 hnull)]

theorem unwrapped_fst_eq (path : String) {case other : Json}
    (h : (case.member "then").isNull = (other.member "then").isNull) :
    (Shape.unwrapped path case).1 = (Shape.unwrapped path other).1 := by
  unfold Shape.unwrapped
  by_cases hnull : case.member "then" = .null
  · rw [present?_of_null hnull, present?_of_null (isNull_iff.1 (h ▸ isNull_iff.2 hnull))]
  · have hother : other.member "then" ≠ .null := fun hother =>
      hnull (isNull_iff.1 (h.trans (isNull_iff.2 hother)))
    rw [present?_of_ne_null hnull, present?_of_ne_null hother]

end Json

/-! ### The mark that decides -/

namespace Marker

variable {schema : Json}

theorem of_union (h : schema.member "oneOf" ≠ .null) :
    of schema = .oneOf (schema.member "oneOf") := by
  unfold of
  rw [Json.present?_of_ne_null h]

theorem of_typeObject (hunion : schema.member "oneOf" = .null)
    (htype : schema.member "type" = .str "object") :
    of schema = .object (schema.present? "required") (schema.present? "properties") := by
  unfold of
  rw [Json.present?_of_null hunion, htype]
  rfl

theorem of_typeArray (hunion : schema.member "oneOf" = .null)
    (htype : schema.member "type" = .str "array") :
    of schema = .array (schema.present? "items") := by
  unfold of
  rw [Json.present?_of_null hunion, htype]
  rfl

/-- Without cases and without a type that decides, literals come before a reference. -/
theorem of_other (hunion : schema.member "oneOf" = .null)
    (htype : ¬ (schema.member "type").IsContainer) :
    of schema = match schema.present? "enum", schema.present? "$ref" with
      | some values, _ => .enum values (schema.member "type")
      | none, some target => .reference target
      | none, none => ofType (schema.member "type") := by
  unfold of
  rw [Json.present?_of_null hunion]
  split
  · rename_i hcases
    cases hcases
  · rename_i hobject
    exact absurd (.inl hobject) htype
  · rename_i harray
    exact absurd (.inr harray) htype
  · rfl

end Marker

namespace Shape

/-! ### Shapes of schemas that say the same -/

/-- Schemas of one mark that say the same about themselves have one shape. -/
theorem ofJson_congr {path : String} {first second : Json}
    (hsite : siteOf path first = siteOf path second)
    (hmark : Marker.of first = Marker.of second) : ofJson path first = ofJson path second := by
  rw [ofJson_eq, ofJson_eq, hsite, hmark]

/-- Cases with the same keys and the same shapes make up the same shapes. -/
theorem ofCases_congr {path : String} {entries others : List (String × Json)}
    (h : List.Forall₂ (fun entry other => entry.1 = other.1 ∧ ∀ path,
      ofJson (unwrapped path entry.2).1 (unwrapped path entry.2).2 =
        ofJson (unwrapped path other.2).1 (unwrapped path other.2).2) entries others) :
    ofCases path entries = ofCases path others := by
  induction h with
  | nil => rfl
  | @cons entry other entries others hhead _ ih =>
    obtain ⟨key, case⟩ := entry
    obtain ⟨key', case'⟩ := other
    obtain ⟨rfl, hshape⟩ := hhead
    rw [ofCases, ofCases]
    simp only [hshape, ih]

theorem ofProperties_congr {path : String} {entries others : List (String × Json)}
    (h : List.Forall₂ (fun entry other => entry.1 = other.1 ∧ ∀ path,
      ofJson path entry.2 = ofJson path other.2) entries others) :
    ofProperties path entries = ofProperties path others := by
  induction h with
  | nil => rfl
  | @cons entry other entries others hhead _ ih =>
    obtain ⟨name, property⟩ := entry
    obtain ⟨name', property'⟩ := other
    obtain ⟨rfl, hshape⟩ := hhead
    rw [ofProperties, ofProperties]
    simp only [hshape, ih]

theorem numbered_pairs {pairs : List (Json × Json)} (r : Json → Json → Prop)
    (h : ∀ pair ∈ pairs, r pair.1 pair.2) (start : Nat) :
    List.Forall₂ (fun entry other => entry.1 = other.1 ∧ r entry.2 other.2)
      (numbered start (pairs.map (·.1))) (numbered start (pairs.map (·.2))) := by
  induction pairs generalizing start with
  | nil => exact .nil
  | cons pair rest ih =>
    obtain ⟨hpair, hrest⟩ := List.forall_mem_cons.1 h
    exact .cons ⟨rfl, hpair⟩ (ih hrest (start + 1))

end Shape

namespace Json

theorem members_pairs {entries : List (String × Json × Json)} (r : Json → Json → Prop)
    (h : ∀ pair ∈ entries.map (·.2), r pair.1 pair.2) :
    List.Forall₂ (fun entry other => entry.1 = other.1 ∧ r entry.2 other.2)
      (entries.map fun (name, first, _) => (name, first))
      (entries.map fun (name, _, second) => (name, second)) := by
  refine List.forall₂_map_left_iff.2 (List.forall₂_map_right_iff.2 (List.forall₂_same.2 ?_))
  exact fun entry hentry => ⟨rfl, h _ (List.mem_map_of_mem hentry)⟩

namespace SideBySide

variable {first second : Json} {pairs : List (Json × Json)}

/-- Cases side by side: they are the same, or have the same keys and are related. -/
theorem casesOf (h : SideBySide first second pairs) (r : Json → Json → Prop)
    (hr : ∀ pair ∈ pairs, r pair.1 pair.2) :
    Shape.casesOf first = Shape.casesOf second ∨ ∃ entries others,
      Shape.casesOf first = .ok entries ∧ Shape.casesOf second = .ok others ∧
        List.Forall₂ (fun entry other => entry.1 = other.1 ∧ r entry.2 other.2) entries others := by
  cases h with
  | items => exact .inr ⟨_, _, rfl, rfl, Shape.numbered_pairs r hr 0⟩
  | members entries => exact .inr ⟨_, _, rfl, rfl, members_pairs r hr⟩
  | same => exact .inl rfl

/-- Properties side by side: they are the same, or have the same names and are related. -/
theorem propertiesOf (h : SideBySide (first.member "properties") (second.member "properties") pairs)
    (r : Json → Json → Prop) (hr : ∀ pair ∈ pairs, r pair.1 pair.2) :
    Shape.propertiesOf (first.present? "properties") =
        Shape.propertiesOf (second.present? "properties") ∨ ∃ entries others,
      Shape.propertiesOf (first.present? "properties") = .ok entries ∧
        Shape.propertiesOf (second.present? "properties") = .ok others ∧
        List.Forall₂ (fun entry other => entry.1 = other.1 ∧ r entry.2 other.2) entries others := by
  generalize hfirst : first.member "properties" = value at h
  generalize hsecond : second.member "properties" = other at h
  cases h with
  | items =>
    rw [present?_of_ne_null (by rw [hfirst]; exact nofun),
      present?_of_ne_null (by rw [hsecond]; exact nofun), hfirst, hsecond]
    refine .inl ?_
    cases pairs <;> rfl
  | members entries =>
    rw [present?_of_ne_null (by rw [hfirst]; exact nofun),
      present?_of_ne_null (by rw [hsecond]; exact nofun), hfirst, hsecond]
    exact .inr ⟨_, _, rfl, rfl, members_pairs r hr⟩
  | same =>
    have hshares : first.Shares ["properties"] second :=
      List.forall_mem_singleton.2 (hfirst.trans hsecond.symm)
    exact .inl (by rw [hshares.present? List.mem_cons_self])

end SideBySide

namespace Tantamount

variable {first second : Json}

/-- **Tantamount schemas** have the same shape, or are refused for the same fault. The induction
is on what makes them tantamount, with a case for each mark that can decide. -/
theorem ofJson_eq (h : Tantamount first second) (path : String) :
    Shape.ofJson path first = Shape.ofJson path second := by
  induction h generalizing path with
  | @union first second pairs hshares hfirst hsecond hpairs hthen _ ih =>
    rw [Shape.ofJson_eq, Shape.ofJson_eq, Marker.of_union hfirst, Marker.of_union hsecond,
      hshares.siteOf_eq (by simp) (by simp)]
    rcases hpairs.casesOf (fun case other => ∀ path,
        Shape.ofJson (Shape.unwrapped path case).1 (Shape.unwrapped path case).2 =
          Shape.ofJson (Shape.unwrapped path other).1 (Shape.unwrapped path other).2)
      fun pair hpair path => by
        rw [unwrapped_eq, unwrapped_eq, unwrapped_fst_eq path (hthen pair hpair)]
        exact ih pair hpair _
      with hsame | ⟨entries, others, hentries, hothers, hrelated⟩
    · simp only [hsame]
    · simp only [hentries, hothers, bind, Except.bind, Shape.ofCases_congr hrelated]
  | object hshares hunion htype hpairs _ ih =>
    have hunion' := (hshares "oneOf" (by simp)).symm.trans hunion
    have htype' := (hshares "type" (by simp)).symm.trans htype
    rw [Shape.ofJson_eq, Shape.ofJson_eq, Marker.of_typeObject hunion htype,
      Marker.of_typeObject hunion' htype', hshares.siteOf_eq (by simp) (by simp),
      hshares.present? (by simp)]
    rcases hpairs.propertiesOf (fun property other => ∀ path,
        Shape.ofJson path property = Shape.ofJson path other) ih
      with hsame | ⟨entries, others, hentries, hothers, hrelated⟩
    · simp only [hsame]
    · simp only [hentries, hothers, bind, Except.bind, Shape.ofProperties_congr hrelated]
  | @array first second hshares hunion htype hnull _ ih =>
    have hunion' := (hshares "oneOf" (by simp)).symm.trans hunion
    have htype' := (hshares "type" (by simp)).symm.trans htype
    rw [Shape.ofJson_eq, Shape.ofJson_eq, Marker.of_typeArray hunion htype,
      Marker.of_typeArray hunion' htype', hshares.siteOf_eq (by simp) (by simp)]
    by_cases hitems : first.member "items" = .null
    · have hitems' : second.member "items" = .null :=
        isNull_iff.1 (hnull ▸ isNull_iff.2 hitems)
      rw [present?_of_null hitems, present?_of_null hitems']
    · have hitems' : second.member "items" ≠ .null := fun hitems' =>
        hitems (isNull_iff.1 (hnull.trans (isNull_iff.2 hitems')))
      simp only [present?_of_ne_null hitems, present?_of_ne_null hitems', ih]
  | @enum first second hshares hunion htype henum =>
    have hunion' := (hshares "oneOf" (by simp)).symm.trans hunion
    have hsame : first.member "type" = second.member "type" := hshares "type" (by simp)
    refine Shape.ofJson_congr (hshares.siteOf_eq (by simp) (by simp) path) ?_
    rw [Marker.of_other hunion htype, Marker.of_other hunion' (hsame ▸ htype), hsame,
      ← hshares.present? (by simp), present?_of_ne_null henum]
  | @reference first second hshares hunion hfirst hsecond henum href =>
    have hunion' := (hshares "oneOf" (by simp)).symm.trans hunion
    refine Shape.ofJson_congr (hshares.siteOf_eq (by simp) (by simp) path) ?_
    rw [Marker.of_other hunion hfirst, Marker.of_other hunion' hsecond]
    rw [← hshares.present? (by simp), ← hshares.present? (by simp), present?_of_null henum,
      present?_of_ne_null href]
  | @plain first second hshares hunion htype henum href =>
    have hunion' := (hshares "oneOf" (by simp)).symm.trans hunion
    have hsame : first.member "type" = second.member "type" := hshares "type" (by simp)
    refine Shape.ofJson_congr (hshares.siteOf_eq (by simp) (by simp) path) ?_
    rw [Marker.of_other hunion htype, Marker.of_other hunion' (hsame ▸ htype), hsame,
      hshares.present? (by simp), hshares.present? (by simp)]

/-- Schemas that agree on the supported keywords are tantamount if their items are. -/
theorem of_shares_of_items (h : first.Shares supported second)
    (hitems : Tantamount (first.member "items") (second.member "items")) :
    Tantamount first second := by
  have hsame {keyword : String} (hkeyword : keyword ∈ supported) :
      SideBySide (first.member keyword) (second.member keyword) [] := h keyword hkeyword ▸ .same _
  by_cases hunion : first.member "oneOf" = .null
  · by_cases hobject : first.member "type" = .str "object"
    · exact .object (h.mono (by decide)) hunion hobject (hsame (by decide))
        (List.forall_mem_nil _)
    by_cases harray : first.member "type" = .str "array"
    · exact .array (h.mono (by decide)) hunion harray (by rw [h "items" (by decide)]) hitems
    have htype : ¬ (first.member "type").IsContainer := not_or.2 ⟨hobject, harray⟩
    by_cases henum : first.member "enum" = .null
    · by_cases href : first.member "$ref" = .null
      · exact .plain (h.mono (by decide)) hunion htype henum href
      · exact .reference (h.mono (by decide)) hunion htype (h "type" (by decide) ▸ htype) henum href
    · exact .enum (h.mono (by decide)) hunion htype henum
  · exact .union (h.mono (by decide)) hunion (h "oneOf" (by decide) ▸ hunion) (hsame (by decide))
      (List.forall_mem_nil _) (List.forall_mem_nil _)

/-- Every schema is tantamount to itself. The induction is on its size, for the sake of items. -/
theorem refl (schema : Json) : Tantamount schema schema := by
  induction hsize : schema.size using Nat.strongRecOn generalizing schema with
  | ind size ih =>
    refine of_shares_of_items (fun _ _ => rfl) ?_
    by_cases hitems : schema.member "items" = .null
    · rw [hitems]
      exact .plain (fun _ _ => rfl) rfl (not_or.2 ⟨nofun, nofun⟩) rfl rfl
    · exact ih _ (hsize ▸ size_present?_lt (present?_of_ne_null hitems)) _ rfl

/-- **Schemas that agree on the supported keywords** are tantamount, whatever else they say. -/
theorem of_shares (h : first.Shares supported second) : Tantamount first second :=
  of_shares_of_items h (h "items" (by decide) ▸ refl _)

end Tantamount
end Json
end SchemaGraph
