/-!
# Characters

A class of characters is given by the ranges of its code points, both ends included. The characters
that count as white space in Unicode are such a class; only five of the ASCII ones separate
hexadecimal digits. A digit has a value in a radix up to sixteen, and octets and words are shown
with a fixed number of lowercase hexadecimal digits.
-/

namespace Hdlc.Text

/-! ## Classes -/

/-- Whether the code point of a character lies in one of the ranges. -/
def inRanges (ranges : List (Nat × Nat)) (char : Char) : Bool :=
  ranges.any fun (first, last) => first ≤ char.toNat && char.toNat ≤ last

/-! ## Blanks -/

/-- The ranges of the property White_Space. -/
def blankRanges : List (Nat × Nat) :=
   [(0x9, 0xd), (0x20, 0x20), (0x85, 0x85), (0xa0, 0xa0), (0x1680, 0x1680), (0x2000, 0x200a),
    (0x2028, 0x2029), (0x202f, 0x202f), (0x205f, 0x205f), (0x3000, 0x3000)]

def isBlank (char : Char) : Bool :=
  inRanges blankRanges char

/-- Whether a character is an ASCII space, tab, line feed, form feed or carriage return. -/
def isAsciiBlank (char : Char) : Bool :=
  char == ' ' || char == '\t' || char == '\n' || char == '\x0c' || char == '\r'

/-- A text without the white space at its ends. -/
def trim (text : List Char) : List Char :=
  (text.dropWhile isBlank).reverse.dropWhile isBlank |>.reverse

/-! ## Digits -/

/-- The lowercase hexadecimal digit of a value below sixteen. -/
def hexDigit (value : Nat) : Char :=
  if value < 10 then Char.ofNat (48 + value) else Char.ofNat (87 + value)

/-- The value of an ASCII digit or letter of either case, read as a digit of radix sixteen. -/
def hexValue? (digit : Char) : Option Nat :=
  let code := digit.toNat
  if 48 ≤ code ∧ code ≤ 57 then some (code - 48)
  else if 97 ≤ code ∧ code ≤ 102 then some (code - 87)
  else if 65 ≤ code ∧ code ≤ 70 then some (code - 55)
  else none

/-- The value of a character as a digit of a radix of at most sixteen. -/
def digitValue? (radix : Nat) (digit : Char) : Option Nat :=
  (hexValue? digit).filter (· < radix)

/-- The lowest `width` hexadecimal digits of a number, most significant first. -/
def hexDigits : Nat → Nat → List Char
  | 0, _ => []
  | width + 1, value => hexDigits width (value / 16) ++ [hexDigit (value % 16)]

def octetDigits (octet : UInt8) : List Char :=
  [hexDigit (octet.toNat / 16), hexDigit (octet.toNat % 16)]

/-- An octet after the mark `0x`, with both of its digits. -/
def hexOctet (octet : UInt8) : String :=
  "0x" ++ String.ofList (octetDigits octet)

/-- A 32-bit word after the mark `0x`, with all eight of its digits. -/
def hexWord (word : UInt32) : String :=
  "0x" ++ String.ofList (hexDigits 8 word.toNat)

theorem hexValue?_hexDigit : ∀ value < 16, hexValue? (hexDigit value) = some value := by
  decide

end Hdlc.Text
