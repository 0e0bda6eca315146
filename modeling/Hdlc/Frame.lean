import Hdlc.Address
import Hdlc.Checksum
import Hdlc.Control
import Hdlc.Escape

/-!
# Frames

The content of a frame is its address, its control octet, its payload and the check sequence of
these three. On the wire the content is escaped and stands between two flags. `ofContent` reads
content back and gives the first reason against it, in the order length, check sequence, address,
room for the control octet.
-/

namespace Hdlc

/-- What a frame carries from one end of a link to the other. -/
structure Frame where
  address : UInt64
  control : Control
  payload : Octets
  deriving DecidableEq, Repr

namespace Frame

def information (address : UInt64) (payload : Octets) : Frame :=
  ⟨address, .unnumberedInformation, payload⟩

def minContentSize : Nat := 1 + 1 + Checksum.size

/-- The limit on content that holds where none is chosen. -/
def defaultLimit : Nat := 64 * 1024

/-- The octets that the check sequence covers. -/
def body (frame : Frame) : Octets :=
  Address.encode frame.address ++ frame.control.octet :: frame.payload

/-- The octets between the flags, before they are escaped. -/
def content (frame : Frame) : Octets :=
  frame.body ++ Checksum.sequence frame.body

/-- The wire form of a frame, from flag to flag. -/
def encode (frame : Frame) : Octets :=
  flag :: escape frame.content ++ [flag]

/-- The number of octets of content, found without building it. -/
def contentSize (frame : Frame) : Nat :=
  Address.size frame.address + 1 + frame.payload.length + Checksum.size

/-- The number of octets on the wire, found field by field. -/
def wireSize (frame : Frame) : Nat :=
  let address := Address.encode frame.address
  let register := Checksum.extend Checksum.initial address
  let register := Checksum.extend register [frame.control.octet]
  let register := Checksum.extend register frame.payload
  escapedSize address + escapedSize [frame.control.octet] + escapedSize frame.payload +
    escapedSize (Checksum.sequenceOf register) + 2

/-- The most octets that a payload of the given length can need on the wire. -/
def maxWireSize (payloadLength : Nat) : Nat :=
  2 + 2 * (Address.maxSize + 1 + payloadLength + Checksum.size)

/-- Read a frame from its content. -/
def ofContent (content : Octets) : Except Rejection Frame :=
  let length := content.length
  if length < minContentSize then .error (.tooShort length minContentSize)
  else
    let body := content.take (length - Checksum.size)
    let expected := Checksum.crc32 body
    let received := wordOfOctets (content.drop (length - Checksum.size))
    if expected ≠ received then .error (.checksumMismatch expected received)
    else
      match Address.decode body with
      | .error reason => .error reason
      | .ok (address, addressSize) =>
          match body.drop addressSize with
          | [] => .error (.tooShort length (addressSize + 1 + Checksum.size))
          | octet :: payload => .ok ⟨address, ⟨octet⟩, payload⟩

@[simp]
theorem length_content (frame : Frame) : frame.content.length = frame.contentSize := by
  simp only [content, contentSize, body, Address.size, List.length_append, List.length_cons,
    Checksum.length_sequence]
  omega

end Frame

end Hdlc
