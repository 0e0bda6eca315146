import Hdlc.Text.Character

/-!
# Rejections

A candidate frame is rejected for exactly one reason. The reason carries the numbers that its
message shows.
-/

namespace Hdlc

/-- Why a candidate frame is not accepted. -/
inductive Rejection
  /-- An escape mark is not followed by a transposed octet. -/
  | malformedEscape
  /-- The content has `length` octets where at least `minimum` are needed. -/
  | tooShort (length minimum : Nat)
  /-- The check sequence computed over the content differs from the one received with it. -/
  | checksumMismatch (expected received : UInt32)
  /-- The content does not start with an address. -/
  | badAddress
  /-- The content grows beyond the limit in force. -/
  | tooLong (limit : Nat)
  deriving DecidableEq, Repr

def Rejection.message : Rejection → String
  | malformedEscape => "malformed escape sequence"
  | tooShort length minimum => s!"frame too short ({length} bytes, min {minimum})"
  | checksumMismatch expected received =>
      "frame check sequence mismatch (expected " ++ Text.hexWord expected ++ ", received " ++
        Text.hexWord received ++ ")"
  | badAddress => "invalid frame address"
  | tooLong limit => s!"frame too long (max {limit} bytes)"

end Hdlc
