/-
How far dates reach. Leases and poll windows end so many seconds after some
instant, and the count of seconds comes from the settings, where any number of
64 bits may stand. What is reckoned with it is read as a signed number first,
made a span next, and added to the instant last, and each of these steps has a
limit of its own. Where the end can be shown as a date at all the other two are
not felt (`le_maxSeconds`); and from the years up to 9999 there are some
quarter of a million years to go (`inRange_afterSeconds`).
-/
import Fleetkeeper.Time.Instant

namespace Fleetkeeper

namespace Instant

/-- So many seconds later, whether or not dates reach as far. -/
def afterSeconds (t : Instant) (secs : Nat) : Instant :=
  ⟨t.nanos + secs * 1000000000⟩

/-- Whether an instant lies in the years from 1970 to 9999. -/
def InCommonYears (t : Instant) : Prop :=
  0 ≤ t.nanos ∧ t.nanos < 253402300800 * 1000000000

instance (t : Instant) : Decidable t.InCommonYears :=
  inferInstanceAs (Decidable (_ ∧ _))

/-- Most seconds that can be added in the common years, all of which are
followed by that many. -/
def mostSeconds : Nat := 7956864576000

theorem inRange_afterSeconds {t : Instant} {secs : Nat} (ht : t.InCommonYears)
    (hsecs : secs ≤ mostSeconds) : (t.afterSeconds secs).inRange = true := by
  obtain ⟨hfrom, hto⟩ := ht
  unfold mostSeconds at hsecs
  unfold inRange earliest latest afterSeconds
  simp only [Bool.and_eq_true, decide_eq_true_eq]
  omega

/-- In the common years, what ends at a date is a span. -/
theorem le_maxSeconds {t : Instant} {secs : Nat} (ht : t.InCommonYears)
    (hend : (t.afterSeconds secs).inRange = true) :
    (secs : Int) ≤ Span.maxSeconds := by
  obtain ⟨hfrom, -⟩ := ht
  unfold inRange earliest latest afterSeconds at hend
  simp only [Bool.and_eq_true, decide_eq_true_eq] at hend
  unfold Span.maxSeconds
  omega

/-- Seconds that a span can have are a span, read as a signed number. -/
theorem ofSeconds?_signed64 {secs : Nat}
    (hspan : (secs : Int) ≤ Span.maxSeconds) :
    Span.ofSeconds? (signed64 secs) = some ⟨secs * 1000000000⟩ := by
  unfold Span.maxSeconds at hspan
  rw [signed64_of_lt (by omega)]
  unfold Span.ofSeconds? Span.maxSeconds
  rw [if_pos (by omega)]

/-- The seconds that dates can show, counted. -/
theorem ofSeconds?_eq (secs : Int) :
    ofSeconds? secs
      = if secs < -8334601228800 ∨ 8210266876799 < secs then none
        else some ⟨secs * 1000000000⟩ := by
  unfold ofSeconds? ofNanos? inRange earliest latest
  by_cases hout : secs < -8334601228800 ∨ 8210266876799 < secs
  · rw [if_pos hout, if_neg]
    simp only [Bool.and_eq_true, decide_eq_true_eq]
    omega
  · rw [if_neg hout, if_pos]
    simp only [Bool.and_eq_true, decide_eq_true_eq]
    omega

/-- Where the end is a date, that is what adding a span comes to. -/
theorem add?_seconds {t : Instant} {secs : Nat}
    (hend : (t.afterSeconds secs).inRange = true) :
    t.add? ⟨secs * 1000000000⟩ = some (t.afterSeconds secs) :=
  if_pos hend

end Instant

end Fleetkeeper
