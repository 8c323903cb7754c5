/-
Bytes as characters. A sequence that is not UTF-8 is replaced, the longest
start of a valid sequence by one mark; the strict reading refuses it.
-/
namespace Fleetkeeper.Text.Utf8

/-- The replacement mark. -/
def mark : Char := Char.ofNat 0xFFFD

/-- Whether a byte continues a sequence. -/
def isTail (b : UInt8) : Bool := 0x80 ≤ b && b ≤ 0xBF

/-- Which second bytes a leading byte admits. -/
def admits (lead second : UInt8) : Bool :=
  if lead = 0xE0 then 0xA0 ≤ second && second ≤ 0xBF
  else if lead = 0xED then 0x80 ≤ second && second ≤ 0x9F
  else if lead = 0xF0 then 0x90 ≤ second && second ≤ 0xBF
  else if lead = 0xF4 then 0x80 ≤ second && second ≤ 0x8F
  else isTail second

/-- Length of the sequence that a byte opens; 0 when it opens none. -/
def width (b : UInt8) : Nat :=
  if b < 0x80 then 1
  else if 0xC2 ≤ b ∧ b ≤ 0xDF then 2
  else if 0xE0 ≤ b ∧ b ≤ 0xEF then 3
  else if 0xF0 ≤ b ∧ b ≤ 0xF4 then 4
  else 0

/-- The low six bits. -/
def six (b : UInt8) : Nat := b.toNat % 64

/-- The next character, or `none` for a sequence that has none, and how many
bytes after the leading one it takes. -/
def next (lead : UInt8) (rest : List UInt8) : Option Char × Nat :=
  match width lead with
  | 1 => (some (Char.ofNat lead.toNat), 0)
  | 2 =>
    match rest with
    | b :: _ =>
      if admits lead b then
        (some (Char.ofNat (lead.toNat % 32 * 64 + six b)), 1)
      else (none, 0)
    | [] => (none, 0)
  | 3 =>
    match rest with
    | b :: c :: _ =>
      if !admits lead b then (none, 0)
      else if !isTail c then (none, 1)
      else
        (some (Char.ofNat ((lead.toNat % 16 * 64 + six b) * 64 + six c)), 2)
    | [b] => (none, if admits lead b then 1 else 0)
    | [] => (none, 0)
  | 4 =>
    match rest with
    | b :: c :: d :: _ =>
      if !admits lead b then (none, 0)
      else if !isTail c then (none, 1)
      else if !isTail d then (none, 2)
      else
        (some (Char.ofNat
          (((lead.toNat % 8 * 64 + six b) * 64 + six c) * 64 + six d)), 3)
    | [b, c] =>
      (none, if !admits lead b then 0 else if !isTail c then 1 else 2)
    | [b] => (none, if admits lead b then 1 else 0)
    | [] => (none, 0)
  | _ => (none, 0)

/-- The characters of a byte sequence, `none` where there is none. -/
def scan : List UInt8 → List (Option Char)
  | [] => []
  | lead :: rest =>
    let r := next lead rest
    r.1 :: scan (rest.drop r.2)
termination_by bytes => bytes.length
decreasing_by simp only [List.length_drop, List.length_cons]; omega

/-- The characters of a byte sequence, what is not UTF-8 replaced. -/
def decodeLossy (bytes : List UInt8) : List Char :=
  (scan bytes).map fun c => c.getD mark

/-- The text of a byte sequence, if it is UTF-8. -/
def decode? (bytes : List UInt8) : Option String :=
  ((scan bytes).mapM id).map String.ofList

end Fleetkeeper.Text.Utf8
