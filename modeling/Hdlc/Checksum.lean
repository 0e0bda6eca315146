import Hdlc.Octets

/-!
# Frame check sequence

The check sequence of a frame is the CRC-32 of its other content, least significant octet first.
The register starts with all ones, takes in each octet least significant bit first, and is
complemented at the end. A register carries on over further octets (`extend_append`), so a check
sequence may be computed piece by piece.
-/

namespace Hdlc.Checksum

/-- The generator polynomial, with the coefficient of the highest power in the lowest bit. -/
def generator : UInt32 := 0xEDB88320

/-- The register before any octet. -/
def initial : UInt32 := 0xFFFFFFFF

/-- Divide out one bit. -/
def shiftBit (register : UInt32) : UInt32 :=
  if register &&& 1 = 1 then (register >>> 1) ^^^ generator else register >>> 1

def absorb (register : UInt32) (octet : UInt8) : UInt32 :=
  Nat.repeat shiftBit 8 (register ^^^ octet.toUInt32)

def extend (register : UInt32) (octets : Octets) : UInt32 :=
  octets.foldl absorb register

/-- The check value that a register stands for. -/
def finish (register : UInt32) : UInt32 :=
  register ^^^ 0xFFFFFFFF

def crc32 (octets : Octets) : UInt32 :=
  finish (extend initial octets)

def size : Nat := 4

/-- The check sequence that a register stands for, as it is sent. -/
def sequenceOf (register : UInt32) : Octets :=
  octetsOfWord (finish register)

/-- The check sequence of a sequence of octets, as it is sent. -/
def sequence (octets : Octets) : Octets :=
  octetsOfWord (crc32 octets)

@[simp]
theorem extend_nil (register : UInt32) : extend register [] = register := rfl

@[simp]
theorem extend_cons (register : UInt32) (octet : UInt8) (rest : Octets) :
    extend register (octet :: rest) = extend (absorb register octet) rest := rfl

@[simp]
theorem extend_append (register : UInt32) (first second : Octets) :
    extend register (first ++ second) = extend (extend register first) second :=
  List.foldl_append

@[simp]
theorem length_sequence (octets : Octets) : (sequence octets).length = size := rfl

end Hdlc.Checksum
