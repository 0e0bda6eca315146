import Hdlc.Octets
import Hdlc.Text.Character
import Hdlc.Text.Glyph

/-!
# Hexadecimal text

Octets are written as two lowercase digits each, without separators. Reading accepts either case
and ASCII blanks anywhere, also between the two digits of an octet. Of two faults a character that
is no digit is reported before an odd count of digits.
-/

namespace Hdlc.Text

def hex (octets : Octets) : String :=
  String.ofList (octets.flatMap octetDigits)

/-- Why a text is no hexadecimal form of octets. -/
inductive HexFault
  /-- The first character that is neither a digit nor blank. -/
  | notADigit (char : Char)
  | oddCount
  deriving DecidableEq, Repr

/-- The values of digits, or the first character that is none. -/
def hexValues (values : Array Nat) : List Char → Except HexFault (List Nat)
  | [] => .ok values.toList
  | char :: rest =>
      match hexValue? char with
      | some value => hexValues (values.push value) rest
      | none => .error (.notADigit char)

/-- The octets with the given digits, two for each. -/
def pairDigits (octets : Array UInt8) : List Nat → Except HexFault Octets
  | [] => .ok octets.toList
  | [_] => .error .oddCount
  | high :: low :: rest => pairDigits (octets.push (UInt8.ofNat (16 * high + low))) rest

def readHex (text : String) : Except HexFault Octets := do
  let values ← hexValues #[] (text.toList.filter fun char => !isAsciiBlank char)
  pairDigits #[] values

/-- A character between single quotes. Quotes, backslashes and the commonest controls stand behind a
backslash; what has no mark of its own is shown by its number. -/
def showChar (char : Char) : String :=
  let shown :=
    if char = '\x00' then "\\0"
    else if char = '\t' then "\\t"
    else if char = '\r' then "\\r"
    else if char = '\n' then "\\n"
    else if char = '\x27' then "\\'"
    else if char = '\x5c' then "\\\\"
    else if isExtender char || !isPrintable char then
      "\\u\x7b" ++ String.ofList (Nat.toDigits 16 char.toNat) ++ "\x7d"
    else char.toString
  "'" ++ shown ++ "'"

def HexFault.message : HexFault → String
  | notADigit char => "invalid digit " ++ showChar char
  | oddCount => "odd number of digits"

end Hdlc.Text
