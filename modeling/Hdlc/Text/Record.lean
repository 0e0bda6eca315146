import Hdlc.Text.Character

/-!
# Flat records

A record is a list of named values, each a number or a text, in the order in which it is shown. Its
JSON form is one object without blanks and hence without line breaks. In a JSON string the quote,
the backslash and the control characters below the space are escaped, five of them by a letter and
the others by four lowercase hexadecimal digits; every other character stands for itself. So a
quoted text holds no line break and no bare quote.
-/

namespace Hdlc.Text

/-! ## Quoted text -/

/-- The form of one character between quotes. -/
def quoteChar (char : Char) : List Char :=
  if char = '\x22' then ['\x5c', '\x22']
  else if char = '\x5c' then ['\x5c', '\x5c']
  else if char = '\x08' then ['\x5c', 'b']
  else if char = '\x0c' then ['\x5c', 'f']
  else if char = '\n' then ['\x5c', 'n']
  else if char = '\r' then ['\x5c', 'r']
  else if char = '\t' then ['\x5c', 't']
  else if char.toNat < 0x20 then '\x5c' :: 'u' :: hexDigits 4 char.toNat
  else [char]

/-- A text as a JSON string, quotes included. -/
def quote (text : String) : String :=
  "\"" ++ String.ofList (text.toList.flatMap quoteChar) ++ "\""

/-! ## Records -/

/-- A value in a record. -/
inductive Scalar
  | number (value : Nat)
  | text (value : String)
  deriving DecidableEq, Repr

/-- Named values in the order in which they are shown. -/
abbrev Record := List (String × Scalar)

/-- The JSON form of a value. -/
def Scalar.toJson : Scalar → String
  | number value => toString value
  | text value => quote value

/-- The JSON form of a record. -/
def Record.toJson (record : Record) : String :=
  "\x7b" ++ String.intercalate "," (record.map fun (name, value) =>
    quote name ++ ":" ++ value.toJson) ++ "\x7d"

end Hdlc.Text
