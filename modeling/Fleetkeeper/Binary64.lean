/-
Finite binary64 numbers, exactly. A magnitude is a whole number of units of
2^-1074, the smallest step of the format, so the value of a number is a
natural number and no arithmetic here is approximate: rounding is division
with remainder. The infinities of the format, and what is no number, are left
out.

Main statement: `Binary64.same_iff`, the two zeros are one value and every
other value has one form.
-/
namespace Fleetkeeper

/-- A finite number: the sign, and the magnitude in units of 2^-1074. -/
structure Binary64 where
  negative : Bool
  units : Nat
deriving DecidableEq, Repr, Inhabited

namespace Binary64

-- ============================================================== rounding

/-- The quotient to the nearest whole number, a half to the even one. -/
def roundHalfEven (num den : Nat) : Nat :=
  let q := num / den
  let r := num % den
  if 2 * r < den then q
  else if den < 2 * r then q + 1
  else q + q % 2

/-- How many low bits a magnitude of `units` loses: the format keeps the
upper 53. -/
def step (units : Nat) : Nat := units.log2 - 52

/-- First magnitude above the format: 2^1024. -/
def bound : Nat := Nat.pow 2 2098

/-- The magnitude nearest to `num / den` units, a tie to the even
significand; `none` where the format ends. -/
def roundUnits (num den : Nat) : Option Nat :=
  let s := Nat.pow 2 (step (num / den))
  let u := roundHalfEven num (den * s) * s
  if u < bound then some u else none

/-- Units in one. -/
def one : Nat := Nat.pow 2 1074

/-- The number nearest to `n`. -/
def ofNat (n : Nat) : Option Binary64 :=
  (roundUnits (n * one) 1).map (⟨false, ·⟩)

/-- The number nearest to `i`. -/
def ofInt (i : Int) : Option Binary64 :=
  (roundUnits (i.natAbs * one) 1).map (⟨i < 0, ·⟩)

def neg (x : Binary64) : Binary64 := { x with negative := !x.negative }

/-- `units` times 10^`e`, rounded; the power itself is rounded first. -/
def timesPower (units e : Nat) : Option Nat := do
  let p ← roundUnits (Nat.pow 10 e * one) 1
  roundUnits (units * p) one

/-- `units` over 10^`e`, rounded; the power itself is rounded first. -/
def overPower (units e : Nat) : Option Nat := do
  let p ← roundUnits (Nat.pow 10 e * one) 1
  roundUnits (units * one) p

/-- The magnitude read from `significand` and a power of ten: the significand
is rounded, then scaled by one power of ten (by several where the exponent lies
below -308, the last power the format holds). Each step rounds, so the result
can differ in the last place from the nearest number. -/
def scale (units : Nat) (exponent : Int) : Option Nat :=
  if hpos : 0 ≤ exponent then
    if exponent ≤ 308 then timesPower units exponent.toNat
    else if units = 0 then some 0 else none
  else if hlow : -308 ≤ exponent then
    overPower units exponent.natAbs
  else if units = 0 then some 0
  else
    (overPower units 308).bind fun u => scale u (exponent + 308)
termination_by exponent.natAbs
decreasing_by omega

/-- The number that a decimal numeral denotes here; `none` where it lies
beyond the format. -/
def ofDecimal (negative : Bool) (significand : Nat) (exponent : Int) :
    Option Binary64 := do
  let u ← roundUnits (significand * one) 1
  let v ← scale u exponent
  pure ⟨negative, v⟩

-- ================================================================= value

/-- Whether two numbers have the same value; zero has two forms. -/
def same (x y : Binary64) : Bool :=
  x.units == y.units && (x.negative == y.negative || x.units == 0)

instance : BEq Binary64 := ⟨same⟩

theorem same_iff (x y : Binary64) :
    (x == y) = true ↔ x = y ∨ (x.units = 0 ∧ y.units = 0) := by
  rcases x with ⟨xn, xu⟩
  rcases y with ⟨yn, yu⟩
  show same _ _ = true ↔ _
  simp only [same, Bool.and_eq_true, Bool.or_eq_true, beq_iff_eq,
    Binary64.mk.injEq]
  constructor
  · rintro ⟨rfl, rfl | rfl⟩
    · exact .inl ⟨rfl, rfl⟩
    · exact .inr ⟨rfl, rfl⟩
  · rintro (⟨rfl, rfl⟩ | ⟨rfl, rfl⟩)
    · exact ⟨rfl, .inl rfl⟩
    · exact ⟨rfl, .inr rfl⟩

-- ======================================================= shortest digits

/-- Numerals around a magnitude, as a test on `c` times 10^`k`. -/
structure Neighbourhood where
  low : Nat
  high : Nat
  closed : Bool

/-- The reals that round to `units`, in quarter units: half a step on either
side, a quarter below a power of two. The ends belong to an even
significand. -/
def neighbourhood (units : Nat) : Neighbourhood :=
  let s := Nat.pow 2 (step units)
  let below := if units = Nat.pow 2 52 * s ∧ 1 < s then s else 2 * s
  ⟨4 * units - below, 4 * units + 2 * s, (units / s) % 2 == 0⟩

/-- 10^`k` in quarter units, as a fraction. -/
def gridUnit (k : Int) : Nat × Nat :=
  if 0 ≤ k then (4 * one * Nat.pow 10 k.toNat, 1) else
    (4 * one, Nat.pow 10 k.natAbs)

/-- Whether the numeral `c`, in steps of `grid`, reads back. -/
def Neighbourhood.holds (n : Neighbourhood) (grid : Nat × Nat) (c : Nat) :
    Bool :=
  let v := c * grid.1
  let lo := n.low * grid.2
  let hi := n.high * grid.2
  if n.closed then lo ≤ v && v ≤ hi else lo < v && v < hi

/-- Decimal exponent of the leading digit of a positive magnitude. -/
def leading (units : Nat) : Int :=
  -- 30103 / 100000 is just above log10 2, so the guess is never too high by
  -- more than one
  let guess : Int := ((units.log2 : Int) - 1074) * 30103 / 100000
  let reaches (e : Int) : Bool :=
    if 0 ≤ e then one * Nat.pow 10 e.toNat ≤ units else one
      ≤ units * Nat.pow 10 e.natAbs
  if reaches (guess + 1) then guess + 1
  else if reaches guess then guess
  else if reaches (guess - 1) then guess - 1
  else guess - 2

/-- The numeral of `count` digits nearest to `units` among those that read
back. -/
def digitsOf? (units : Nat) (count : Nat) : Option (Nat × Int) :=
  let k := leading units + 1 - count
  let grid := gridUnit k
  let n := neighbourhood units
  let v := 4 * units * grid.2
  let c := v / grid.1
  let up := 2 * (v % grid.1)
  let lower := n.holds grid c
  let upper := n.holds grid (c + 1)
  if lower && upper then
    if up < grid.1 then some (c, k)
    else if grid.1 < up then some (c + 1, k)
    else some (c + c % 2, k)
  else if lower then some (c, k)
  else if upper then some (c + 1, k)
  else none

/-- Drop zeros at the end of a numeral. -/
def trimZeros : Nat → Nat → Int → Nat × Int
  | 0, c, k => (c, k)
  | fuel + 1, c, k =>
    if c % 10 = 0 ∧ c ≠ 0 then trimZeros fuel (c / 10) (k + 1) else (c, k)

/-- The numeral with the fewest digits that reads back as `units`, the
nearest of those: digits and power of ten. -/
def shortest (units : Nat) : Nat × Int :=
  if units = 0 then (0, 0)
  else
    match (List.range 17).findSome? (fun i => digitsOf? units (i + 1)) with
    | some (c, k) => trimZeros 20 c k
    | none => (units, 0)

/-- A power of ten behind its sign. -/
def exponentChars (e : Int) : List Char :=
  (if e < 0 then ['-'] else []) ++ Nat.toDigits 10 e.natAbs

/-- Digits times 10^`k`: positional while the point falls inside or just beside
the first sixteen digits, otherwise with an exponent; always with a point or an
exponent. -/
def placed (digits : List Char) (k : Int) : List Char :=
  let point : Int := digits.length + k
  if 0 ≤ k ∧ point ≤ 16 then digits ++ List.replicate k.toNat '0' ++ ['.', '0']
  else if 0 < point ∧ point ≤ 16 then
    digits.take point.toNat ++ '.' :: digits.drop point.toNat
  else if -5 < point ∧ point ≤ 0 then
    '0' :: '.' :: (List.replicate point.natAbs '0' ++ digits)
  else if digits.length = 1 then digits ++ 'e' :: exponentChars (point - 1)
  else digits.take 1
    ++ '.' :: (digits.drop 1 ++ 'e' :: exponentChars (point - 1))

/-- A magnitude as characters. -/
def magnitude (units : Nat) : List Char :=
  if units = 0 then ['0', '.', '0']
  else
    let (c, k) := shortest units
    placed (Nat.toDigits 10 c) k

/-- A number as text. -/
def toText (x : Binary64) : String :=
  String.ofList ((if x.negative then ['-'] else []) ++ magnitude x.units)

end Binary64

end Fleetkeeper
