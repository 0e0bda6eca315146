import Hdlc.Octets
import Hdlc.Rejection

/-!
# Addresses

An address is a 64-bit number. On the wire it is cut into groups of seven bits, lowest group first;
each octet holds one group above its lowest bit, and the lowest bit is set in the last octet only.
Ten octets hold any address, and the tenth has room for a single bit of it. Encoding uses as few
octets as possible; decoding also accepts longer forms that end in empty groups.
-/

namespace Hdlc.Address

/-- The greatest number of octets in an address. -/
def maxSize : Nat := 10

/-- The address that carries remote procedure calls. -/
def rpc : UInt64 := 82

/-- The address that carries log text. -/
def log : UInt64 := 1

def name (address : UInt64) : String :=
  if address = rpc then "RPC" else if address = log then "LOG" else "USER"

/-- The groups of a number, lowest first, the last one marked. -/
def encodeGroups (value : Nat) : Octets :=
  if value < 128 then [UInt8.ofNat (2 * value + 1)]
  else UInt8.ofNat (2 * (value % 128)) :: encodeGroups (value / 128)

/-- The shortest wire form of an address. -/
def encode (address : UInt64) : Octets :=
  encodeGroups address.toNat

def size (address : UInt64) : Nat :=
  (encode address).length

/-- The number whose groups the octets start with, and the count of its groups, where `room` more
octets may belong to the address. The last octet that has room holds at most one bit. -/
def decodeGroups : Nat → Octets → Option (Nat × Nat)
  | 0, _ => none
  | _ + 1, [] => none
  | room + 1, octet :: rest =>
      let group := octet.toNat / 2
      if room = 0 ∧ 1 < group then none
      else if octet.toNat % 2 = 1 then some (group, 1)
      else (decodeGroups room rest).map fun (higher, count) => (group + 128 * higher, count + 1)

/-- The address that the octets start with, and the number of octets it takes. -/
def decode (octets : Octets) : Except Rejection (UInt64 × Nat) :=
  match decodeGroups maxSize octets with
  | some (value, count) => .ok (UInt64.ofNat value, count)
  | none => .error .badAddress

theorem encodeGroups_of_lt {value : Nat} (h : value < 128) :
    encodeGroups value = [UInt8.ofNat (2 * value + 1)] := by
  rw [encodeGroups, if_pos h]

theorem encodeGroups_of_le {value : Nat} (h : 128 ≤ value) :
    encodeGroups value =
      UInt8.ofNat (2 * (value % 128)) :: encodeGroups (value / 128) := by
  rw [encodeGroups, if_neg (by omega)]

theorem encodeGroups_ne_nil (value : Nat) : encodeGroups value ≠ [] := by
  rw [encodeGroups]
  split <;> simp

/-- A marked octet is the whole of an address, unless it is the last that has room and holds more
than one bit. -/
theorem decodeGroups_cons_of_marked {octet : UInt8} (hmarked : octet.toNat % 2 = 1) (room : Nat)
    (rest : Octets) :
    decodeGroups (room + 1) (octet :: rest) =
      if room = 0 ∧ 1 < octet.toNat / 2 then none else some (octet.toNat / 2, 1) := by
  simp only [decodeGroups, if_pos hmarked]

/-- An unmarked octet holds a group below those that follow. -/
theorem decodeGroups_cons_of_unmarked {octet : UInt8} (hunmarked : octet.toNat % 2 ≠ 1)
    (room : Nat) (rest : Octets) :
    decodeGroups (room + 1) (octet :: rest) =
      (decodeGroups room rest).map fun (higher, count) =>
        (octet.toNat / 2 + 128 * higher, count + 1) := by
  simp only [decodeGroups, if_neg hunmarked]
  split
  next hfull =>
    -- Where this octet takes the last room, nothing that follows is read.
    rw [hfull.1]
    rfl
  next => rfl

end Hdlc.Address
