/-
Digits and the numbers they write, to a base of sixteen at most.
-/
namespace Fleetkeeper.Text

/-- The value of a hexadecimal digit. -/
def hexValue? (c : Char) : Option Nat :=
  if '0' ≤ c ∧ c ≤ '9' then some (c.toNat - 48)
  else if 'a' ≤ c ∧ c ≤ 'f' then some (c.toNat - 87)
  else if 'A' ≤ c ∧ c ≤ 'F' then some (c.toNat - 55)
  else none

/-- The value of a digit below `base`. -/
def digitBelow? (base : Nat) (c : Char) : Option Nat :=
  (hexValue? c).filter (· < base)

/-- The number that digits write after those of `start`. -/
def numberFrom? (base start : Nat) (ds : List Char) : Option Nat :=
  ds.foldlM (fun n c => (digitBelow? base c).map (n * base + ·)) start

/-- The number that digits to `base` write; there has to be one. -/
def number? (base : Nat) (ds : List Char) : Option Nat :=
  if ds = [] then none else numberFrom? base 0 ds

end Fleetkeeper.Text
