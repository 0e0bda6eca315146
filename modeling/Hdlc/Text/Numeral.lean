import Hdlc.Text.Character

/-!
# Numerals

An unsigned numeral is an optional plus sign and one or more digits of a radix. It must stay below a
bound; reading goes from left to right and stops at the first fault. Control octets and counts are
numerals in which white space at the ends is ignored.
-/

namespace Hdlc.Text

/-- Why a text is no numeral below the bound. -/
inductive NumeralFault
  | empty
  | notADigit
  | tooLarge
  deriving DecidableEq, Repr

/-- The wording of a fault. -/
def NumeralFault.message : NumeralFault → String
  | empty => "cannot parse integer from empty string"
  | notADigit => "invalid digit found in string"
  | tooLarge => "number too large to fit in target type"

/-- The number whose digits follow those of `value`, as long as it stays below the bound. -/
def readDigits (radix bound : Nat) : Nat → List Char → Except NumeralFault Nat
  | value, [] => .ok value
  | value, char :: rest =>
      match digitValue? radix char with
      | none => .error .notADigit
      | some digit =>
          let value := value * radix + digit
          if value < bound then readDigits radix bound value rest else .error .tooLarge

/-- Read a numeral of a radix, below a bound. -/
def readNumeral (radix bound : Nat) : List Char → Except NumeralFault Nat
  | [] => .error .empty
  | ['+'] => .error .notADigit
  | '+' :: digits => readDigits radix bound 0 digits
  | digits => readDigits radix bound 0 digits

/-- Read a decimal numeral of at most 64 bits. -/
def readWord (text : String) : Except NumeralFault Nat :=
  readNumeral 10 UInt64.size text.toList

/-- Why a text is not a value of the wanted sort. -/
inductive ValueFault
  | notANumber (fault : NumeralFault)
  | notAnOctet (text : String)
  | notACount (text : String)
  | zeroCount
  deriving DecidableEq, Repr

/-- The wording of a fault. -/
def ValueFault.message : ValueFault → String
  | notANumber fault => fault.message
  | notAnOctet text => "invalid octet: " ++ text ++ " (expected 0-255 or 0x00-0xff)"
  | notACount text => "invalid count: " ++ text
  | zeroCount => "count must be at least 1"

/-- Read a number of at most 64 bits. -/
def readNumber (text : String) : Except ValueFault Nat :=
  (readWord text).mapError .notANumber

/-- Read an octet, in hexadecimal behind `0x` or `0X` and in decimal otherwise. -/
def readOctet (text : String) : Except ValueFault UInt8 :=
  let trimmed := trim text.toList
  let number :=
    match trimmed with
    | '0' :: 'x' :: digits => readNumeral 16 256 digits
    | '0' :: 'X' :: digits => readNumeral 16 256 digits
    | digits => readNumeral 10 256 digits
  match number with
  | .ok value => .ok (UInt8.ofNat value)
  | .error _ => .error (.notAnOctet (String.ofList trimmed))

/-- Read a count, which is at least one. -/
def readCount (text : String) : Except ValueFault Nat :=
  match readNumeral 10 UInt64.size (trim text.toList) with
  | .ok 0 => .error .zeroCount
  | .ok count => .ok count
  | .error _ => .error (.notACount text)

end Hdlc.Text
