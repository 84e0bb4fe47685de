import SchemaGraph.Name.Case

/-! The two cases of letters.

Capitals and small letters are those of ASCII, told apart by their codes, and the code of a
small letter is 32 above that of its capital. All that names need of the two cases follows
from there. Batteries has some of these laws, but in a module that comes with the whole of
Mathlib only. -/
namespace SchemaGraph.Name

variable {c : Char}

/-! ### Kinds -/

theorem isAlpha_eq (c : Char) : c.isAlpha = (c.isUpper || c.isLower) := rfl

theorem isAlphanum_eq (c : Char) : c.isAlphanum = (c.isAlpha || c.isDigit) := rfl

theorem isAlpha_of_isUpper (h : c.isUpper = true) : c.isAlpha = true := by
  rw [isAlpha_eq, h, Bool.true_or]

theorem isAlpha_of_isLower (h : c.isLower = true) : c.isAlpha = true := by
  rw [isAlpha_eq, h, Bool.or_true]

theorem isAlphanum_of_isAlpha (h : c.isAlpha = true) : c.isAlphanum = true := by
  rw [isAlphanum_eq, h, Bool.true_or]

/-- A letter or digit is of one of three kinds. -/
theorem kind_of_isAlphanum (h : c.isAlphanum = true) :
    c.isUpper = true ∨ c.isLower = true ∨ c.isDigit = true := by
  simpa [isAlphanum_eq, isAlpha_eq, or_assoc] using h

theorem isAlphanum_eq_false_iff :
    c.isAlphanum = false ↔ c.isUpper = false ∧ c.isLower = false ∧ c.isDigit = false := by
  simp [isAlphanum_eq, isAlpha_eq, and_assoc]

/-! ### Codes -/

theorem isUpper_iff : c.isUpper = true ↔ 65 ≤ c.toNat ∧ c.toNat ≤ 90 := by
  change decide (65 ≤ c.toNat ∧ c.toNat ≤ 90) = true ↔ _
  exact decide_eq_true_iff

theorem isLower_iff : c.isLower = true ↔ 97 ≤ c.toNat ∧ c.toNat ≤ 122 := by
  change (decide (97 ≤ c.toNat) && decide (c.toNat ≤ 122)) = true ↔ _
  simp

theorem isDigit_iff : c.isDigit = true ↔ 48 ≤ c.toNat ∧ c.toNat ≤ 57 := Char.isDigit_iff_toNat

theorem not_isAlpha_of_isDigit (h : c.isDigit = true) : c.isAlpha = false := by
  rw [isDigit_iff] at h
  rw [Bool.eq_false_iff, isAlpha_eq, ne_eq, Bool.or_eq_true, isUpper_iff, isLower_iff]
  omega

theorem not_isDigit_of_isAlpha (h : c.isAlpha = true) : c.isDigit = false := by
  cases hdigit : c.isDigit with
  | false => rfl
  | true => exact absurd h (Bool.eq_false_iff.1 (not_isAlpha_of_isDigit hdigit))

theorem not_isUpper_of_isLower (h : c.isLower = true) : ¬ c.isUpper = true := by
  rw [isLower_iff] at h
  rw [isUpper_iff]
  omega

theorem not_isLower_of_isUpper (h : c.isUpper = true) : ¬ c.isLower = true :=
  fun hlower => not_isUpper_of_isLower hlower h

theorem toUpper_of_not_isLower (h : c.isLower = false) : c.toUpper = c :=
  dif_neg fun hlower => Bool.eq_false_iff.1 h (isLower_iff.2 hlower)

theorem toLower_of_not_isUpper (h : c.isUpper = false) : c.toLower = c :=
  dif_neg fun hupper => Bool.eq_false_iff.1 h (isUpper_iff.2 hupper)

theorem toNat_toUpper (h : c.isLower = true) : c.toUpper.toNat = c.toNat - 32 := by
  have hcode := isLower_iff.1 h
  have hupper : c.toUpper.val = c.val + ('A'.val - 'a'.val) := by
    rw [show c.toUpper = _ from dif_pos hcode]
  rw [Char.toNat, hupper]
  simp
  omega

theorem toNat_toLower (h : c.isUpper = true) : c.toLower.toNat = c.toNat + 32 := by
  have hcode := isUpper_iff.1 h
  have hlower : c.toLower.val = c.val + ('a'.val - 'A'.val) := by
    rw [show c.toLower = _ from dif_pos hcode]
  rw [Char.toNat, hlower]
  simp
  omega

/-! ### Changing the case -/

theorem isUpper_toUpper (h : c.isLower = true) : c.toUpper.isUpper = true := by
  have hcode := isLower_iff.1 h
  rw [isUpper_iff, toNat_toUpper h]
  omega

theorem isLower_toLower (h : c.isUpper = true) : c.toLower.isLower = true := by
  have hcode := isUpper_iff.1 h
  rw [isLower_iff, toNat_toLower h]
  omega

/-- Nothing that is made a capital stays a small letter. -/
theorem not_isLower_toUpper (c : Char) : c.toUpper.isLower = false := by
  cases h : c.isLower with
  | true =>
    have hcode := isLower_iff.1 h
    rw [Bool.eq_false_iff, ne_eq, isLower_iff, toNat_toUpper h]
    omega
  | false => rw [toUpper_of_not_isLower h, h]

theorem not_isUpper_toLower (c : Char) : c.toLower.isUpper = false := by
  cases h : c.isUpper with
  | true => exact Bool.eq_false_iff.2 (not_isUpper_of_isLower (isLower_toLower h))
  | false => rw [toLower_of_not_isUpper h, h]

theorem toLower_toLower (c : Char) : c.toLower.toLower = c.toLower :=
  toLower_of_not_isUpper (not_isUpper_toLower c)

theorem toLower_toUpper (c : Char) : c.toUpper.toLower = c.toLower := by
  cases h : c.isLower with
  | true =>
    have hcode := isLower_iff.1 h
    rw [toLower_of_not_isUpper (Bool.eq_false_iff.2 (not_isUpper_of_isLower h)), ← Char.toNat_inj,
      toNat_toLower (isUpper_toUpper h), toNat_toUpper h]
    omega
  | false => rw [toUpper_of_not_isLower h]

theorem isAlpha_toUpper (c : Char) : c.toUpper.isAlpha = c.isAlpha := by
  cases h : c.isLower with
  | true => rw [isAlpha_of_isUpper (isUpper_toUpper h), isAlpha_of_isLower h]
  | false => rw [toUpper_of_not_isLower h]

theorem isAlpha_toLower (c : Char) : c.toLower.isAlpha = c.isAlpha := by
  cases h : c.isUpper with
  | true => rw [isAlpha_of_isLower (isLower_toLower h), isAlpha_of_isUpper h]
  | false => rw [toLower_of_not_isUpper h]

theorem isAlphanum_toUpper (h : c.isAlphanum = true) : c.toUpper.isAlphanum = true := by
  cases hlower : c.isLower with
  | true => exact isAlphanum_of_isAlpha (isAlpha_of_isUpper (isUpper_toUpper hlower))
  | false => rwa [toUpper_of_not_isLower hlower]

theorem isAlphanum_toLower (h : c.isAlphanum = true) : c.toLower.isAlphanum = true := by
  cases hupper : c.isUpper with
  | true => exact isAlphanum_of_isAlpha (isAlpha_of_isLower (isLower_toLower hupper))
  | false => rwa [toLower_of_not_isUpper hupper]

end SchemaGraph.Name
