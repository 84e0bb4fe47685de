import SchemaGraph.Json.Basic

/-! Equality of JSON values is an order of alikeness.

Scalars are equal just if they measure the same (`Json.sameScalar_iff`): whole numbers,
truth values and finite floating point numbers are all measured in the units of the
latter. From there transitivity goes through arrays and objects (`Json.same_trans`).
Reflexivity and symmetry stop at objects that have two members of one name; values without
such objects are the same as themselves (`Json.IsUnambiguous.same_refl`). -/
namespace SchemaGraph.Json

/-- What a scalar is compared by. -/
inductive Measure where
  | null
  | text (text : String)
  | nan
  | infinite (negative : Bool)
  | units (count : Int)
  deriving DecidableEq

/-- The units in a whole number. -/
def unitsIn (value : Int) : Int := value * Binary64.one

/-- The measure of a scalar. -/
def measure? : Json → Option Measure
  | .null => some .null
  | .bool value => some (.units (unitsIn (if value then 1 else 0)))
  | .int value => some (.units (unitsIn value))
  | .float .nan => some .nan
  | .float (.infinite negative) => some (.infinite negative)
  | .float (.finite negative units) => some (.units (Binary64.signedUnits negative units))
  | .str text => some (.text text)
  | .arr _ => none
  | .obj _ => none

theorem unitsIn_inj {a b : Int} : unitsIn a = unitsIn b ↔ a = b := by
  have hpow (n : Nat) : 0 < Binary64.pow2 n := Nat.pow_pos (Nat.succ_pos 1)
  exact Int.mul_eq_mul_right_iff (Int.natCast_ne_zero.2 (Nat.ne_of_gt (hpow 1074)))

theorem eqInt_finite (negative : Bool) (units : Nat) (value : Int) :
    (Binary64.finite negative units).eqInt value =
      (Binary64.signedUnits negative units == unitsIn value) := rfl

theorem eqInt_infinite (negative : Bool) (value : Int) :
    (Binary64.infinite negative).eqInt value = false := rfl

theorem eqInt_nan (value : Int) : Binary64.nan.eqInt value = false := rfl

theorem sameScalar_iff {a b : Json} :
    sameScalar a b = true ↔ a.measure? = b.measure? ∧ a.measure?.isSome = true := by
  rcases a with _ | _ | _ | (_ | _ | _) | _ | _ | _ <;>
    rcases b with _ | _ | _ | (_ | _ | _) | _ | _ | _ <;>
    simp [sameScalar, measure?, asInt?, Binary64.numEq, eqInt_finite, eqInt_infinite, eqInt_nan]
  all_goals first
    | exact unitsIn_inj.symm
    | exact eq_comm

/-- Just the scalars are measured, and just they may be keys. -/
theorem isSome_measure? (value : Json) : value.measure?.isSome = value.isKey := by
  rcases value with _ | _ | _ | (_ | _ | _) | _ | _ | _ <;> rfl

/-! ### Alike values, by the form of the first -/

theorem same_arr_iff {items : List Json} {b : Json} :
    same (.arr items) b = true ↔ ∃ others, b = .arr others ∧
      sameItems sameScalar items others = true := by
  cases b <;> simp [same, sameBy, sameScalar_iff, measure?]

theorem same_obj_iff {members : List (String × Json)} {b : Json} :
    same (.obj members) b = true ↔ ∃ others, b = .obj others ∧
      members.length = others.length ∧ sameMembers sameScalar members others = true := by
  cases b <;> simp [same, sameBy, sameScalar_iff, measure?]

theorem same_key_iff {a b : Json} (ha : a.isKey = true) :
    same a b = true ↔ a.measure? = b.measure? := by
  have hmeasure : a.measure?.isSome = true := by rw [isSome_measure?, ha]
  rw [← and_iff_left hmeasure (a := a.measure? = b.measure?), ← sameScalar_iff]
  cases a <;> first
    | exact Iff.rfl
    | cases ha

/-- What is alike to a key is a key. -/
theorem isKey_of_same {a b : Json} (h : same a b = true) (ha : a.isKey = true) :
    b.isKey = true := by
  rw [same_key_iff ha] at h
  rw [← isSome_measure?, ← h, isSome_measure?, ha]

theorem same_refl_of_isKey {a : Json} (ha : a.isKey = true) : same a a = true :=
  (same_key_iff ha).2 rfl

/-- What one key is alike to is alike. -/
theorem same_of_same_key {a b c : Json} (ha : a.isKey = true) (h : same a b = true)
    (h' : same a c = true) : same b c = true := by
  have hb := isKey_of_same h ha
  rw [same_key_iff ha] at h h'
  rw [same_key_iff hb, ← h, h']

/-! ### Transitivity -/

theorem lookup_of_sameMembers {members others : List (String × Json)} {name : String}
    {value : Json} (h : sameMembers sameScalar members others = true)
    (hvalue : members.lookup name = some value) :
    ∃ other, others.lookup name = some other ∧ same value other = true := by
  induction members with
  | nil => cases hvalue
  | cons head rest ih =>
    obtain ⟨first, x⟩ := head
    rw [sameMembers, Bool.and_eq_true] at h
    rw [List.lookup_cons] at hvalue
    by_cases hname : (name == first) = true
    · rw [hname] at hvalue
      cases hvalue
      obtain rfl : name = first := beq_iff_eq.1 hname
      cases hother : others.lookup name with
      | none => simp [hother] at h
      | some other => exact ⟨other, rfl, by simpa [hother, same] using h.1⟩
    · rw [Bool.not_eq_true] at hname
      rw [hname] at hvalue
      exact ih h.2 hvalue

mutual

theorem same_trans {a b c : Json} (h : same a b = true) (h' : same b c = true) :
    same a c = true := by
  match a with
  | .arr items =>
    obtain ⟨others, rfl, hitems⟩ := same_arr_iff.1 h
    obtain ⟨thirds, rfl, hothers⟩ := same_arr_iff.1 h'
    exact same_arr_iff.2 ⟨thirds, rfl, sameItems_trans hitems hothers⟩
  | .obj members =>
    obtain ⟨others, rfl, hlength, hmembers⟩ := same_obj_iff.1 h
    obtain ⟨thirds, rfl, hlength', hothers⟩ := same_obj_iff.1 h'
    exact same_obj_iff.2 ⟨thirds, rfl, hlength.trans hlength',
      sameMembers_trans hmembers hothers⟩
  | .null | .bool _ | .int _ | .float _ | .str _ =>
    have hb := isKey_of_same h rfl
    exact (same_key_iff rfl).2 (((same_key_iff rfl).1 h).trans ((same_key_iff hb).1 h'))

theorem sameItems_trans {xs ys zs : List Json} (h : sameItems sameScalar xs ys = true)
    (h' : sameItems sameScalar ys zs = true) : sameItems sameScalar xs zs = true := by
  match xs, ys, zs with
  | [], [], [] => rfl
  | x :: xs, y :: ys, z :: zs =>
    simp only [sameItems, Bool.and_eq_true] at h h' ⊢
    exact ⟨same_trans h.1 h'.1, sameItems_trans h.2 h'.2⟩
  | [], _ :: _, _ => cases h
  | _ :: _, [], _ => cases h
  | _, _ :: _, [] => cases h'
  | _, [], _ :: _ => cases h'

theorem sameMembers_trans {xs ys zs : List (String × Json)}
    (h : sameMembers sameScalar xs ys = true) (h' : sameMembers sameScalar ys zs = true) :
    sameMembers sameScalar xs zs = true := by
  match xs with
  | [] => rfl
  | (name, x) :: xs =>
    rw [sameMembers, Bool.and_eq_true] at h ⊢
    refine ⟨?_, sameMembers_trans h.2 h'⟩
    cases hy : ys.lookup name with
    | none => simp [hy] at h
    | some y =>
      obtain ⟨z, hz, hyz⟩ := lookup_of_sameMembers h' hy
      rw [hz]
      have hxy : same x y = true := by simpa [hy, same] using h.1
      exact same_trans hxy hyz

end

/-! ### Reflexivity -/

/-- No object in the value has two members of one name. -/
inductive IsUnambiguous : Json → Prop where
  | scalar {value} (h : value.isKey = true) : IsUnambiguous value
  | arr {items} (h : ∀ item ∈ items, IsUnambiguous item) : IsUnambiguous (.arr items)
  | obj {members} (hnames : (members.map Prod.fst).Nodup)
      (h : ∀ member ∈ members, IsUnambiguous member.2) : IsUnambiguous (.obj members)

namespace IsUnambiguous

variable {json given : Json} {entries : List (String × Json)}

theorem names (h : (Json.obj entries).IsUnambiguous) : (entries.map Prod.fst).Nodup := by
  cases h with
  | scalar h => cases h
  | obj hnames _ => exact hnames

theorem of_mem (h : (Json.obj entries).IsUnambiguous) {entry : String × Json}
    (hentry : entry ∈ entries) : entry.2.IsUnambiguous := by
  cases h with
  | scalar h => cases h
  | obj _ h => exact h entry hentry

theorem present? (h : json.IsUnambiguous) {keyword : String}
    (hgiven : json.present? keyword = some given) : given.IsUnambiguous := by
  have hmember : json.member? keyword = some given := (Option.filter_eq_some_iff.1 hgiven).1
  cases json with
  | obj members =>
    obtain ⟨before, rest, rfl, -⟩ := List.lookup_eq_some_iff.1 hmember
    exact h.of_mem (List.mem_append_right before List.mem_cons_self)
  | _ => cases hmember

end IsUnambiguous

theorem sameItems_refl {items : List Json} (h : ∀ item ∈ items, same item item = true) :
    sameItems sameScalar items items = true := by
  induction items with
  | nil => rfl
  | cons item items ih =>
    obtain ⟨hitem, hitems⟩ := List.forall_mem_cons.1 h
    rw [sameItems, Bool.and_eq_true]
    exact ⟨hitem, ih hitems⟩

theorem sameMembers_of_lookup {members others : List (String × Json)}
    (h : ∀ member ∈ members, ∃ other, others.lookup member.1 = some other ∧
      same member.2 other = true) : sameMembers sameScalar members others = true := by
  induction members with
  | nil => rfl
  | cons member members ih =>
    obtain ⟨⟨other, hother, hsame⟩, hmembers⟩ := List.forall_mem_cons.1 h
    rw [sameMembers, Bool.and_eq_true, hother]
    exact ⟨hsame, ih hmembers⟩

theorem lookup_of_nodup {α : Type} {members : List (String × α)}
    (h : (members.map Prod.fst).Nodup) {member : String × α} (hmember : member ∈ members) :
    members.lookup member.1 = some member.2 := by
  obtain ⟨before, rest, rfl⟩ := List.append_of_mem hmember
  rw [List.map_append, List.map_cons, List.nodup_append] at h
  refine List.lookup_eq_some_iff.2 ⟨before, rest, rfl, fun other hother => ?_⟩
  have hne := h.2.2 _ (List.mem_map_of_mem hother) member.1 List.mem_cons_self
  exact bne_iff_ne.2 (Ne.symm hne)

/-- An unambiguous value is the same as itself. -/
theorem IsUnambiguous.same_refl {value : Json} (h : value.IsUnambiguous) :
    same value value = true := by
  induction h with
  | scalar h => exact same_refl_of_isKey h
  | arr _ ih => exact same_arr_iff.2 ⟨_, rfl, sameItems_refl ih⟩
  | obj hnames _ ih =>
    refine same_obj_iff.2 ⟨_, rfl, rfl, sameMembers_of_lookup fun member hmember => ?_⟩
    exact ⟨member.2, lookup_of_nodup hnames hmember, ih member hmember⟩

/-! ### Equal values -/

theorem equal_trans {a b c : Json} (h : a.equal b = true) (h' : b.equal c = true) :
    a.equal c = true := by
  rw [equal, Bool.and_eq_true] at h h' ⊢
  exact ⟨h.1, same_trans h.2 h'.2⟩

theorem IsUnambiguous.equal_refl {value : Json} (h : value.IsUnambiguous)
    (hnan : value.isNan = false) : value.equal value = true := by
  rw [equal, hnan, h.same_refl]
  rfl

theorem equal_str_iff {value : Json} {text : String} :
    value.equal (.str text) = true ↔ value = .str text := by
  rcases value with _ | _ | _ | (_ | _ | _) | _ | _ | _ <;>
    simp [equal, same, sameBy, sameScalar_iff, measure?, isNan]

end SchemaGraph.Json
