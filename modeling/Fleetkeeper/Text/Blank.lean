/-
White space, by the property of that name: 25 characters. Trimming takes it
off both ends of a text.
-/
namespace Fleetkeeper.Text

/-- The ranges of the property White_Space. -/
def blankRanges : List (Nat × Nat) :=
  [(0x9, 0xD), (0x20, 0x20), (0x85, 0x85), (0xA0, 0xA0), (0x1680, 0x1680),
   (0x2000, 0x200A), (0x2028, 0x2029), (0x202F, 0x202F), (0x205F, 0x205F),
   (0x3000, 0x3000)]

/-- Whether a character is white space. -/
def isBlank (c : Char) : Bool :=
  blankRanges.any fun r => r.1 ≤ c.toNat && c.toNat ≤ r.2

/-- Characters without the blanks in front. -/
def dropBlank (cs : List Char) : List Char := cs.dropWhile isBlank

/-- Characters without the blanks at either end. -/
def trimChars (cs : List Char) : List Char :=
  (dropBlank (dropBlank cs).reverse).reverse

/-- A text without the blanks at either end. -/
def trim (s : String) : String := String.ofList (trimChars s.toList)

/-- Whether a text holds nothing but blanks. -/
def blank (s : String) : Bool := s.toList.all isBlank

/-- A text without the slashes in front. -/
def dropSlashes (s : String) : String :=
  String.ofList (s.toList.dropWhile (· = '/'))

/-- A text without the slashes at its end. -/
def trimSlashes (s : String) : String :=
  String.ofList (s.toList.reverse.dropWhile (· = '/')).reverse

/-- A text with every run of blanks as one space, and none at the ends. -/
def squeeze (s : String) : String :=
  " ".intercalate
    ((s.toList.splitBy (fun a b => isBlank a == isBlank b)).filterMap
      fun w => if w.all isBlank then none else some (String.ofList w))

end Fleetkeeper.Text
