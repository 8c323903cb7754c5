/-
Texts as bytes. The reader of bytes finds again the characters that were
encoded, whatever bytes follow, so a text survives its bytes and no mark
replaces a part of it (`decodeLossy_encode`).

Which second bytes a leading byte admits is what keeps out sequences that are
too long, and those that would be halves of a surrogate pair. The number of a
character makes neither (`next_three`, `next_four`).
-/
import Fleetkeeper.Text.Utf8
import Mathlib.Tactic.SplitIfs

namespace Fleetkeeper.Text.Utf8

/-- The bytes of a text, as it is stored. -/
def encode (s : String) : List UInt8 := s.toUTF8.data.toList

/-- They are those of its characters. -/
theorem encode_eq_flatMap (s : String) :
    encode s = s.toList.flatMap String.utf8EncodeChar := by
  unfold encode
  rw [String.toUTF8_eq_toByteArray, ← String.utf8Encode_toList]
  simp [List.utf8Encode]

-- =================================================================== bytes

theorem toNat_byte {n : Nat} (h : n < 256) : (UInt8.ofNat n).toNat = n :=
  UInt8.toNat_ofNat_of_lt' h

theorem isTail_iff (b : UInt8) :
    isTail b = true ↔ 128 ≤ b.toNat ∧ b.toNat ≤ 191 := by
  simp [isTail, UInt8.le_iff_toNat_le]

/-- A second byte is a tail, behind four leading bytes of a smaller range. -/
theorem admits_iff (lead b : UInt8) :
    admits lead b = true ↔ 128 ≤ b.toNat ∧ b.toNat ≤ 191
      ∧ (lead.toNat = 0xE0 → 0xA0 ≤ b.toNat)
      ∧ (lead.toNat = 0xED → b.toNat ≤ 0x9F)
      ∧ (lead.toNat = 0xF0 → 0x90 ≤ b.toNat)
      ∧ (lead.toNat = 0xF4 → b.toNat ≤ 0x8F) := by
  unfold admits isTail
  simp only [← UInt8.toNat_inj, UInt8.le_iff_toNat_le, UInt8.reduceToNat]
  split_ifs <;> simp <;> omega

theorem width_eq (b : UInt8) : width b =
    if b.toNat < 0x80 then 1
    else if 0xC2 ≤ b.toNat ∧ b.toNat ≤ 0xDF then 2
    else if 0xE0 ≤ b.toNat ∧ b.toNat ≤ 0xEF then 3
    else if 0xF0 ≤ b.toNat ∧ b.toNat ≤ 0xF4 then 4
    else 0 := by
  simp only [width, UInt8.lt_iff_toNat_lt, UInt8.le_iff_toNat_le,
    UInt8.reduceToNat]

/-- A byte with six bits of a character, behind the leading one. -/
def tail (n : Nat) : UInt8 := UInt8.ofNat (n + 128)

section Tails

variable {n : Nat} (h : n < 64)
include h

theorem toNat_tail : (tail n).toNat = n + 128 := toNat_byte (by omega)

theorem isTail_tail : isTail (tail n) = true := by
  rw [isTail_iff, toNat_tail h]
  omega

theorem six_tail : six (tail n) = n := by
  unfold six
  rw [toNat_tail h]
  omega

end Tails

-- =============================================================== sequences

section Sequences

variable {l : UInt8} {lead a b c : Nat} (rest : List UInt8)

theorem next_one (hl : l.toNat < 128) :
    next l rest = (some (Char.ofNat l.toNat), 0) := by
  have hwidth : width l = 1 := by
    rw [width_eq, if_pos hl]
  simp [next, hwidth]

theorem next_two (hl : l.toNat = lead + 192) (hlow : 2 ≤ lead)
    (hhigh : lead < 32) (ha : a < 64) :
    next l (tail a :: rest) = (some (Char.ofNat (lead * 64 + a)), 1) := by
  have hwidth : width l = 2 := by
    rw [width_eq, if_neg (by omega), if_pos (by omega)]
  have hadmits : admits l (tail a) = true := by
    rw [admits_iff, toNat_tail ha]
    omega
  have hlead : l.toNat % 32 = lead := by omega
  simp [next, hwidth, hadmits, hlead, six_tail ha]

/-- With the least leading byte the number is not too small, with the one of
the surrogates it is none of theirs. -/
theorem next_three (hl : l.toNat = lead + 224) (hlead : lead < 16)
    (ha : a < 64) (hb : b < 64) (hlong : lead = 0 → 32 ≤ a)
    (hhalf : lead = 13 → a < 32) :
    next l (tail a :: tail b :: rest)
      = (some (Char.ofNat ((lead * 64 + a) * 64 + b)), 2) := by
  have hwidth : width l = 3 := by
    rw [width_eq, if_neg (by omega), if_neg (by omega), if_pos (by omega)]
  have hadmits : admits l (tail a) = true := by
    rw [admits_iff, toNat_tail ha]
    omega
  have hmod : l.toNat % 16 = lead := by omega
  simp [next, hwidth, hadmits, isTail_tail hb, hmod, six_tail ha, six_tail hb]

/-- With the least leading byte the number is not too small, with the greatest
it is not too large. -/
theorem next_four (hl : l.toNat = lead + 240) (hlead : lead ≤ 4) (ha : a < 64)
    (hb : b < 64) (hc : c < 64) (hlong : lead = 0 → 16 ≤ a)
    (hlast : lead = 4 → a < 16) :
    next l (tail a :: tail b :: tail c :: rest)
      = (some (Char.ofNat (((lead * 64 + a) * 64 + b) * 64 + c)), 3) := by
  have hwidth : width l = 4 := by
    rw [width_eq, if_neg (by omega), if_neg (by omega), if_neg (by omega),
      if_pos (by omega)]
  have hadmits : admits l (tail a) = true := by
    rw [admits_iff, toNat_tail ha]
    omega
  have hmod : l.toNat % 8 = lead := by omega
  simp [next, hwidth, hadmits, isTail_tail hb, isTail_tail hc, hmod,
    six_tail ha, six_tail hb, six_tail hc]

end Sequences

-- ============================================================== characters

theorem toNat_char (c : Char) :
    c.toNat < 0xD800 ∨ 0xDFFF < c.toNat ∧ c.toNat < 0x110000 :=
  c.valid

/-- The bytes of a character, by its number. -/
theorem encodeChar_eq (c : Char) : String.utf8EncodeChar c =
    (if c.toNat ≤ 127 then [UInt8.ofNat c.toNat]
     else if c.toNat ≤ 2047 then
       [UInt8.ofNat (c.toNat / 64 % 32 + 192), tail (c.toNat % 64)]
     else if c.toNat ≤ 65535 then
       [UInt8.ofNat (c.toNat / 4096 % 16 + 224), tail (c.toNat / 64 % 64),
         tail (c.toNat % 64)]
     else
       [UInt8.ofNat (c.toNat / 262144 % 8 + 240), tail (c.toNat / 4096 % 64),
         tail (c.toNat / 64 % 64), tail (c.toNat % 64)]) := rfl

/-- A character is read from its bytes, and what follows them is left. -/
theorem next_encodeChar (c : Char) (rest : List UInt8) :
    ∃ lead more, String.utf8EncodeChar c = lead :: more
      ∧ next lead (more ++ rest) = (some c, more.length) := by
  have hchar := toNat_char c
  have hofNat : ∀ n, n = c.toNat → Char.ofNat n = c :=
    fun n hn => hn ▸ Char.ofNat_toNat c
  rw [encodeChar_eq]
  split_ifs with hone htwo hthree
  · have hbyte := toNat_byte (show c.toNat < 256 by omega)
    refine ⟨_, _, rfl, ?_⟩
    rw [next_one _ (by omega), hofNat _ hbyte]
    rfl
  · refine ⟨_, _, rfl, ?_⟩
    show next _ (tail _ :: rest) = _
    rw [next_two rest (toNat_byte (by omega)) (by omega) (by omega) (by omega),
      hofNat _ (by omega)]
    rfl
  · refine ⟨_, _, rfl, ?_⟩
    show next _ (tail _ :: tail _ :: rest) = _
    rw [next_three rest (toNat_byte (by omega)) (by omega) (by omega)
      (by omega) (by omega)
      (by omega), hofNat _ (by omega)]
    rfl
  · refine ⟨_, _, rfl, ?_⟩
    show next _ (tail _ :: tail _ :: tail _ :: rest) = _
    rw [next_four rest (toNat_byte (by omega)) (by omega) (by omega)
      (by omega) (by omega)
      (by omega) (by omega), hofNat _ (by omega)]
    rfl

/-- What was encoded is found again, character by character. -/
theorem scan_flatMap (cs : List Char) :
    scan (cs.flatMap String.utf8EncodeChar) = cs.map some := by
  induction cs with
  | nil => simp [scan]
  | cons c cs ih =>
    obtain ⟨lead, more, hbytes, hnext⟩ :=
      next_encodeChar c (cs.flatMap String.utf8EncodeChar)
    rw [List.flatMap_cons, hbytes, List.cons_append, scan, hnext]
    simp [ih]

theorem decodeLossy_encode (s : String) :
    decodeLossy (encode s) = s.toList := by
  unfold decodeLossy
  rw [encode_eq_flatMap, scan_flatMap, List.map_map]
  exact List.map_id _

/-- A character beyond the lower half has no byte in it. -/
theorem le_of_mem_encodeChar {c : Char} (hc : 127 < c.toNat) {b : UInt8}
    (h : b ∈ String.utf8EncodeChar c) : 128 ≤ b.toNat := by
  have hlead : ∀ n, 128 ≤ n → n < 256 → 128 ≤ (UInt8.ofNat n).toNat := by
    intro n hlow hhigh
    rw [toNat_byte hhigh]
    exact hlow
  have htail : ∀ n, n < 64 → 128 ≤ (tail n).toNat := fun n hn =>
    hlead (n + 128) (by omega) (by omega)
  have hall : ∀ b ∈ String.utf8EncodeChar c, 128 ≤ b.toNat := by
    rw [encodeChar_eq, if_neg (by omega)]
    split_ifs with htwo hthree
    · simp only [List.forall_mem_cons]
      exact ⟨hlead _ (by omega) (by omega), htail _ (by omega), nofun⟩
    · simp only [List.forall_mem_cons]
      exact ⟨hlead _ (by omega) (by omega), htail _ (by omega),
        htail _ (by omega), nofun⟩
    · simp only [List.forall_mem_cons]
      exact ⟨hlead _ (by omega) (by omega), htail _ (by omega),
        htail _ (by omega), htail _ (by omega), nofun⟩
  exact hall b h

/-- Only a line break has the byte of one. -/
theorem lineBreak_notMem_encode {s : String} (h : '\n' ∉ s.toList) :
    10 ∉ encode s := by
  rw [encode_eq_flatMap]
  intro hmem
  obtain ⟨c, hc, hbyte⟩ := List.mem_flatMap.1 hmem
  by_cases hlower : c.toNat ≤ 127
  · rw [encodeChar_eq, if_pos hlower, List.mem_singleton] at hbyte
    have hten : 10 = c.toNat :=
      (congrArg UInt8.toNat hbyte).trans (toNat_byte (by omega))
    exact h (Char.toNat_inj.1 (show '\n'.toNat = c.toNat from hten) ▸ hc)
  · exact absurd (le_of_mem_encodeChar (by omega) hbyte) (by decide)

end Fleetkeeper.Text.Utf8
