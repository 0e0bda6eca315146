/-!
# Control octets

The control octet says what kind of frame it stands in. Frames whose two lowest bits are set are
unnumbered; of their types only unnumbered information is known here. Any other octet is carried
unchanged.
-/

namespace Hdlc

/-- The types of unnumbered frame that are known by name. -/
inductive FrameType
  | unnumberedInformation
  deriving DecidableEq, Repr

/-- The bits that tell a type from the other unnumbered types. -/
def FrameType.bits : FrameType → UInt8
  | unnumberedInformation => 0x00

structure Control where
  octet : UInt8
  deriving DecidableEq, Repr

namespace Control

/-- The bits that are set in the control octet of every unnumbered frame. -/
def unnumberedBits : UInt8 := 0x03

/-- The control field of an unnumbered frame of a known type. -/
def unnumbered (type : FrameType) : Control :=
  ⟨unnumberedBits ||| type.bits⟩

def unnumberedInformation : Control :=
  unnumbered .unnumberedInformation

def isUnnumbered (control : Control) : Bool :=
  control.octet &&& unnumberedBits == unnumberedBits

/-- The type of an unnumbered frame, if it is a known one. -/
def frameType? (control : Control) : Option FrameType :=
  if control.isUnnumbered && control.octet &&& ~~~unnumberedBits == 0x00 then
    some .unnumberedInformation
  else none

def name (control : Control) : String :=
  match control.frameType? with
  | some .unnumberedInformation => "UI"
  | none => if control.isUnnumbered then "U" else "OTHER"

@[simp]
theorem frameType?_unnumbered (type : FrameType) :
    (unnumbered type).frameType? = some type := by
  cases type
  rfl

end Control

end Hdlc
