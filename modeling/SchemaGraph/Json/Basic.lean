import SchemaGraph.Binary64

/-! JSON values.

A document is a JSON value. Objects keep the order of their members, because the
order of properties, cases and literals decides the order of what is compiled
from them, and whole numbers stay apart from floating point ones, because the two
are written differently even where they are equal.

Equality is that of numbers and of truth values counted as numbers: `1`, `1.0`
and `true` are equal, and objects are equal whatever the order of their members
(`same`). Not-a-number differs from itself, but a container that holds it equals
itself (`equal`). -/
namespace SchemaGraph

/-- A JSON value; a reader leaves at most one member to a name. -/
inductive Json where
  | null
  | bool (value : Bool)
  | int (value : Int)
  | float (value : Binary64)
  | str (text : String)
  | arr (items : List Json)
  | obj (members : List (String × Json))
  deriving Repr, Inhabited

namespace Json

/-! ### Members -/

/-- The member of a name, if the value is an object that has it. -/
def member? (name : String) : Json → Option Json
  | .obj members => members.lookup name
  | _ => none

/-- The member of a name, an absent one counting as null. -/
def member (name : String) (value : Json) : Json := (value.member? name).getD .null

def isNull : Json → Bool
  | .null => true
  | _ => false

def isObject : Json → Bool
  | .obj _ => true
  | _ => false

/-- The member of a name, an absent one and null counting as none. -/
def present? (name : String) (value : Json) : Option Json :=
  (value.member? name).filter (!·.isNull)

/-- Neither null, false, zero nor empty. -/
def truthy : Json → Bool
  | .null => false
  | .bool value => value
  | .int value => value != 0
  | .float value => !value.isZero
  | .str text => !text.isEmpty
  | .arr items => !items.isEmpty
  | .obj members => !members.isEmpty

/-- What a value holds when it is gone through: the items of an array, the
characters of a text, the names of an object. -/
def elements? : Json → Option (List Json)
  | .arr items => some items
  | .str text => some (text.toList.map fun c => .str (String.ofList [c]))
  | .obj members => some (members.map fun (name, _) => .str name)
  | _ => none

/-- May name an entry of a table: anything but an array or an object. -/
def isKey : Json → Bool
  | .arr _ => false
  | .obj _ => false
  | _ => true

/-- The whole number that a truth value or whole number counts as. -/
def asInt? : Json → Option Int
  | .bool value => some (if value then 1 else 0)
  | .int value => some value
  | _ => none

/-! ### Equality -/

/-- Equality of scalars by value; not-a-number is one value here. -/
def sameScalar : Json → Json → Bool
  | .null, .null => true
  | .str a, .str b => a == b
  | .float .nan, .float .nan => true
  | .float a, .float b => a.numEq b
  | .float a, b => b.asInt?.any (a.eqInt ·)
  | a, .float b => a.asInt?.any (b.eqInt ·)
  | a, b => a.asInt?.isSome && a.asInt? == b.asInt?

mutual

/-- Equality of trees whose scalars compare by `leaf`. -/
def sameBy (leaf : Json → Json → Bool) : Json → Json → Bool
  | .arr xs, .arr ys => sameItems leaf xs ys
  | .obj xs, .obj ys => xs.length == ys.length && sameMembers leaf xs ys
  | a, b => leaf a b

def sameItems (leaf : Json → Json → Bool) : List Json → List Json → Bool
  | [], [] => true
  | x :: xs, y :: ys => sameBy leaf x y && sameItems leaf xs ys
  | _, _ => false

/-- Every member on the left has an equal one on the right. -/
def sameMembers (leaf : Json → Json → Bool) :
    List (String × Json) → List (String × Json) → Bool
  | [], _ => true
  | (name, x) :: xs, ys =>
    (match ys.lookup name with
      | some y => sameBy leaf x y
      | none => false) && sameMembers leaf xs ys

end

/-- Equality of the values held in containers. -/
def same (a b : Json) : Bool := sameBy sameScalar a b

def isBool : Json → Bool
  | .bool _ => true
  | _ => false

/-- Equality that tells truth values from numbers. -/
def alike (a b : Json) : Bool := sameBy (fun a b => a.isBool == b.isBool && sameScalar a b) a b

def isNan : Json → Bool
  | .float .nan => true
  | _ => false

/-- Equality of two values: that of `same`, but not-a-number equals nothing. -/
def equal (a b : Json) : Bool := !a.isNan && same a b

/-! ### Size -/

mutual

/-- Values in the tree, this one included, and the characters of its texts. -/
def size : Json → Nat
  | .str text => 1 + text.length
  | .arr items => 1 + sizeItems items
  | .obj members => 1 + sizeMembers members
  | _ => 1

def sizeItems : List Json → Nat
  | [] => 0
  | x :: xs => size x + sizeItems xs

def sizeMembers : List (String × Json) → Nat
  | [] => 0
  | (_, x) :: xs => size x + sizeMembers xs

end

theorem size_null : null.size = 1 := rfl

theorem size_str (text : String) : (str text).size = 1 + text.length := by
  rw [size]

theorem size_arr (items : List Json) : (arr items).size = 1 + sizeItems items := by
  rw [size]

theorem size_obj (members : List (String × Json)) :
    (obj members).size = 1 + sizeMembers members := by
  rw [size]

theorem sizeItems_cons (item : Json) (rest : List Json) :
    sizeItems (item :: rest) = item.size + sizeItems rest := by
  rw [sizeItems]

theorem sizeMembers_cons (name : String) (value : Json) (rest : List (String × Json)) :
    sizeMembers ((name, value) :: rest) = value.size + sizeMembers rest := by
  rw [sizeMembers]

theorem size_pos (value : Json) : 0 < value.size := by
  cases value with
  | null => exact Nat.one_pos
  | bool _ => exact Nat.one_pos
  | int _ => exact Nat.one_pos
  | float _ => exact Nat.one_pos
  | str _ => rw [size]; omega
  | arr _ => rw [size]; omega
  | obj _ => rw [size]; omega

theorem size_le_sizeMembers {name : String} {value : Json} {members : List (String × Json)}
    (h : members.lookup name = some value) : value.size ≤ sizeMembers members := by
  induction members with
  | nil => simp at h
  | cons head rest ih =>
    obtain ⟨key, x⟩ := head
    rw [List.lookup_cons] at h
    split at h
    · cases h
      simp [sizeMembers]
    · have := ih h
      simp only [sizeMembers]
      omega

theorem size_member?_lt {name : String} {value part : Json} (h : value.member? name = some part) :
    part.size < value.size := by
  cases value with
  | obj members =>
    have := size_le_sizeMembers h
    simp only [size]
    omega
  | _ => simp [member?] at h

theorem size_present?_lt {name : String} {value part : Json} (h : value.present? name = some part) :
    part.size < value.size :=
  size_member?_lt (Option.filter_eq_some_iff.1 h).1

theorem size_le_sizeItems {value : Json} {items : List Json} (h : value ∈ items) :
    value.size ≤ sizeItems items := by
  induction items with
  | nil => simp at h
  | cons head rest ih =>
    rcases List.mem_cons.1 h with rfl | h
    · simp [sizeItems]
    · have := ih h
      simp only [sizeItems]
      omega

theorem size_snd_le_sizeMembers {entry : String × Json} {members : List (String × Json)}
    (h : entry ∈ members) : entry.2.size ≤ sizeMembers members := by
  induction members with
  | nil => simp at h
  | cons head rest ih =>
    rcases List.mem_cons.1 h with rfl | h
    · simp [sizeMembers]
    · have := ih h
      simp only [sizeMembers]
      omega

end Json
end SchemaGraph
