/-! Binary floating point.

A JSON number with a fraction or an exponent stands for the nearest 64-bit
floating point number. Every finite one is a whole multiple of `2 ^ -1074`, so a
value is kept as that multiple: equality and order are those of natural numbers,
and nothing is ever rounded but a decimal literal on the way in
(`ofDecimal`). On the way out `shortest` finds the fewest decimal digits that
read back as the same number. -/
namespace SchemaGraph

/-- A floating point value; a finite one counts units of `2 ^ -1074`. -/
inductive Binary64 where
  | nan
  | infinite (negative : Bool)
  | finite (negative : Bool) (units : Nat)
  deriving Repr, DecidableEq, Inhabited

namespace Binary64

def pow2 (n : Nat) : Nat := Nat.pow 2 n

def pow10 (n : Nat) : Nat := Nat.pow 10 n

/-- Units in one. -/
def one : Nat := pow2 1074

/-- The first magnitude, in units, that is out of range. -/
def limit : Nat := pow2 1024 * one

/-- The quotient to the nearest whole number, a half going to the even neighbour. -/
def roundHalfEven (num den : Nat) : Nat :=
  let q := num / den
  let r := num % den
  if 2 * r < den || (2 * r == den && q % 2 == 0) then q else q + 1

/-- The spacing exponent at a magnitude of `units`: numbers nearby are `2 ^ spacing units`
units apart, which leaves 53 significant bits. -/
def spacing (units : Nat) : Nat := units.log2 - 52

/-- The number nearest to `num / den`. -/
def ofQuotient (negative : Bool) (num den : Nat) : Binary64 :=
  let scaled := num * one
  let shift := spacing (scaled / den)
  let units := roundHalfEven scaled (den * pow2 shift) * pow2 shift
  if units < limit then finite negative units else infinite negative

def digitCount (n : Nat) : Nat := (Nat.toDigits 10 n).length

/-- The number nearest to `digits · 10 ^ exponent`. Literals far out of range are
settled by their digit count alone. -/
def ofDecimal (negative : Bool) (digits : Nat) (exponent : Int) : Binary64 :=
  let top := (digitCount digits : Int) + exponent
  if digits == 0 || top < -330 then finite negative 0
  else if top > 310 then infinite negative
  else if exponent < 0 then ofQuotient negative digits (pow10 (-exponent).toNat)
  else ofQuotient negative (digits * pow10 exponent.toNat) 1

/-! ### Comparison -/

def isZero : Binary64 → Bool
  | finite _ 0 => true
  | _ => false

def signedUnits (negative : Bool) (units : Nat) : Int :=
  if negative then -(units : Int) else units

/-- Numeric equality: the two zeros are equal, and not-a-number equals nothing. -/
def numEq : Binary64 → Binary64 → Bool
  | infinite a, infinite b => a == b
  | finite a m, finite b n => signedUnits a m == signedUnits b n
  | _, _ => false

def eqInt : Binary64 → Int → Bool
  | finite a m, i => signedUnits a m == i * one
  | _, _ => false

def isWhole : Binary64 → Bool
  | finite _ m => m % one == 0
  | _ => false

/-- Below a whole number; not-a-number is below nothing. -/
def ltInt : Binary64 → Int → Bool
  | finite a m, i => signedUnits a m < i * one
  | infinite negative, _ => negative
  | nan, _ => false

/-- Above a whole number; not-a-number is above nothing. -/
def gtInt : Binary64 → Int → Bool
  | finite a m, i => i * one < signedUnits a m
  | infinite negative, _ => !negative
  | nan, _ => false

/-- Numeric order; not-a-number is below nothing and above nothing. -/
def lt : Binary64 → Binary64 → Bool
  | finite a m, finite b n => signedUnits a m < signedUnits b n
  | infinite a, infinite b => a && !b
  | infinite negative, finite _ _ => negative
  | finite _ _, infinite negative => !negative
  | _, _ => false

/-! ### Shortest decimals -/

/-- Four times the bounds, in units, of the reals that round to `units`, and
whether the bounds themselves do. Below a power of two the spacing halves. -/
def interval (units : Nat) : Nat × Nat × Bool :=
  let gap := pow2 (spacing units)
  let below := if units == pow2 52 * gap && gap > 1 then gap else 2 * gap
  (4 * units - below, 4 * units + 2 * gap, units / gap % 2 == 0)

/-- The decimal point's place: the magnitude lies in `[10 ^ (place - 1), 10 ^ place)`. -/
def place (units : Nat) : Int :=
  (digitCount (units * pow10 400 / one) : Int) - 400

/-- The multiple of `10 ^ grid` nearest to `units` that reads back as `units`, if
one of its two neighbours on that grid does. -/
def onGrid? (units : Nat) (grid : Int) : Option Nat :=
  let up := pow10 (-grid).toNat
  let step := 4 * one * pow10 grid.toNat
  let value := 4 * units * up
  let (low, high, closed) := interval units
  let reads (c : Nat) : Bool :=
    if closed then low * up ≤ c * step && c * step ≤ high * up
    else low * up < c * step && c * step < high * up
  let lower := value / step
  let down := value - lower * step
  let nearest :=
    if 2 * down < step || (2 * down == step && lower % 2 == 0) then lower else lower + 1
  let other := if nearest == lower then lower + 1 else lower
  if reads nearest then some nearest else if reads other then some other else none

/-- The fewest digits that read back as `units`, with the exponent of ten of the
last one: the coarsest grid that meets the interval wins. -/
def shortest (units : Nat) : Nat × Int :=
  let grids := (List.range 17).map fun (n : Nat) => place units - ((n : Int) + 1)
  (grids.findSome? fun grid => (onGrid? units grid).map (·, grid)).getD (0, 0)

end Binary64
end SchemaGraph
