/-
Numerals base ten: the digits of a number write that number, and they start
with a zero only if they are a zero and nothing else. So a reader that refuses
zeros in front reads every numeral, and none of them looks like a number to
another base.
-/
import Fleetkeeper.Text.Digit

namespace Fleetkeeper.Text

theorem toNat_of_isDigit {c : Char} (h : c.isDigit = true) :
    48 ≤ c.toNat ∧ c.toNat ≤ 57 := by
  unfold Char.isDigit at h
  rw [Bool.and_eq_true, decide_eq_true_eq, decide_eq_true_eq] at h
  exact ⟨h.1, h.2⟩

/-- The value of a decimal digit. -/
theorem digitBelow?_of_isDigit {c : Char} (h : c.isDigit = true) :
    digitBelow? 10 c = some (c.toNat - 48) := by
  have hrange := toNat_of_isDigit h
  have hdigit : '0' ≤ c ∧ c ≤ '9' := by
    unfold Char.isDigit at h
    rw [Bool.and_eq_true, decide_eq_true_eq, decide_eq_true_eq] at h
    exact ⟨h.1, h.2⟩
  have hbelow : decide (c.toNat - 48 < 10) = true := by
    rw [decide_eq_true_eq]
    omega
  unfold digitBelow? hexValue?
  rw [if_pos hdigit, Option.filter_some, if_pos hbelow]

/-- Digits write the number that is told from them. -/
theorem numberFrom?_of_isDigit {ds : List Char}
    (h : ∀ c ∈ ds, c.isDigit = true) (start : Nat) :
    numberFrom? 10 start ds = some (Nat.ofDigitChars 10 ds start) := by
  unfold numberFrom?
  induction ds generalizing start with
  | nil => rfl
  | cons c ds ih =>
    have hc := digitBelow?_of_isDigit (h c List.mem_cons_self)
    rw [List.foldlM_cons, hc, Nat.ofDigitChars_cons, Nat.mul_comm 10 start]
    exact ih (fun d hd => h d (List.mem_cons_of_mem _ hd)) _

/-- A number is written as its digits. -/
theorem toList_toString (n : Nat) :
    (toString n).toList = Nat.toDigits 10 n := by
  rw [Nat.toString_eq_repr, Nat.toList_repr]

theorem isDigit_of_mem_numeral {n : Nat} {c : Char}
    (h : c ∈ Nat.toDigits 10 n) :
    c.isDigit = true :=
  Nat.isDigit_of_mem_toDigits (by decide) (by decide) h

theorem number?_numeral (n : Nat) :
    number? 10 (Nat.toDigits 10 n) = some n := by
  unfold number?
  rw [if_neg Nat.toDigits_ne_nil, numberFrom?_of_isDigit fun c hc =>
    isDigit_of_mem_numeral hc, Nat.ofDigitChars_ten_toDigits]

/-- A numeral with a zero in front is that zero. -/
theorem numeral_of_zero {n : Nat} {rest : List Char}
    (h : Nat.toDigits 10 n = '0' :: rest) :
    rest = [] := by
  by_cases hn : n < 10
  · rw [Nat.toDigits_of_lt_base hn] at h
    exact (List.cons.inj h).2.symm
  · rw [Nat.toDigits_of_base_le (by decide) (Nat.le_of_not_lt hn)] at h
    cases hfront : Nat.toDigits 10 (n / 10) with
    | nil => exact absurd hfront Nat.toDigits_ne_nil
    | cons c front =>
      rw [hfront] at h
      obtain ⟨rfl, -⟩ := List.cons.inj h
      have hnil : front = [] := numeral_of_zero hfront
      have hvalue := @Nat.ofDigitChars_ten_toDigits (n / 10)
      rw [hfront, hnil] at hvalue
      have hzero : (0 : Nat) = n / 10 := hvalue
      omega

end Fleetkeeper.Text
