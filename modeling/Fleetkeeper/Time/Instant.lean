/-
Instants and spans, counted in nanoseconds. A clock shows instants between
the years -262143 and 262142; arithmetic that leaves that range, or a span
beyond 2^63 milliseconds, has no result, and the operation that asked for it
breaks off.
-/
namespace Fleetkeeper

/-- Nanoseconds since the start of 1970, leap seconds not counted. -/
structure Instant where
  nanos : Int
deriving DecidableEq, Repr, Inhabited

/-- A length of time in nanoseconds. -/
structure Span where
  nanos : Int
deriving DecidableEq, Repr, Inhabited

namespace Instant

instance : LE Instant := ⟨fun a b => a.nanos ≤ b.nanos⟩

instance (a b : Instant) : Decidable (a ≤ b) :=
  inferInstanceAs (Decidable (a.nanos ≤ b.nanos))

theorem le_def {a b : Instant} : a ≤ b ↔ a.nanos ≤ b.nanos := Iff.rfl

/-- The start of the year -262143. -/
def earliest : Int := -8334601228800 * 1000000000

/-- The last nanosecond of the year 262142. -/
def latest : Int := 8210266876799 * 1000000000 + 999999999

/-- Whether an instant lies in the years that dates can show. -/
def inRange (t : Instant) : Bool :=
  earliest ≤ t.nanos && t.nanos ≤ latest

/-- The instant with this count, if dates can show it. -/
def ofNanos? (n : Int) : Option Instant :=
  if (Instant.mk n).inRange then some ⟨n⟩ else none

/-- The instant so many milliseconds after the start of 1970. -/
def ofMillis? (ms : Int) : Option Instant := ofNanos? (ms * 1000000)

/-- The instant so many seconds after the start of 1970. -/
def ofSeconds? (s : Int) : Option Instant := ofNanos? (s * 1000000000)

/-- Whole seconds since the start of 1970, rounded down. -/
def seconds (t : Instant) : Int := t.nanos.fdiv 1000000000

/-- A span later, if dates can show it. -/
def add? (t : Instant) (d : Span) : Option Instant :=
  ofNanos? (t.nanos + d.nanos)

end Instant

namespace Span

/-- Most seconds a span can have. -/
def maxSeconds : Int := 9223372036854775

/-- A span of whole seconds. -/
def ofSeconds? (s : Int) : Option Span :=
  if -maxSeconds ≤ s ∧ s ≤ maxSeconds then some ⟨s * 1000000000⟩ else none

/-- A span of milliseconds. -/
def ofMillis (ms : Int) : Span := ⟨ms * 1000000⟩

end Span

/-- A count of 64 bits read as a signed one: from 2^63 on it is negative. -/
def signed64 (n : Nat) : Int := Int.bmod n 18446744073709551616

theorem signed64_of_lt {n : Nat} (h : n < 9223372036854775808) :
    signed64 n = n := by
  unfold signed64
  rw [Int.bmod_def]
  omega

/-- A count of 64 bits cut to 32. -/
def low32 (n : Nat) : Nat := n % 4294967296

theorem low32_eq_iff {n : Nat} : low32 n = n ↔ n < 4294967296 :=
  Nat.mod_eq_iff_lt (by decide)

end Fleetkeeper
