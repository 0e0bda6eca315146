import Hdlc.Frame
import Mathlib.Algebra.Group.Nat.Defs

/-!
# Reading content back

Content is laid out so that every field can be told from what follows it. An address ends at its
last group (`decode_encode_append`), the check sequence has a fixed size at the end, and so a frame
is read back from its content (`ofContent_content`).
-/

namespace Hdlc

namespace Address

/-- The last octet of an address is taken for the whole of it where no other came before. -/
theorem decodeGroups_last {room group : Nat} (hgroup : group < 128)
    (hroom : room = 0 → group ≤ 1) (rest : Octets) :
    decodeGroups (room + 1) (UInt8.ofNat (2 * group + 1) :: rest) = some (group, 1) := by
  have hoctet : (UInt8.ofNat (2 * group + 1)).toNat = 2 * group + 1 := by
    rw [UInt8.toNat_ofNat']
    omega
  have hhalf : (2 * group + 1) / 2 = group := by omega
  have hodd : (2 * group + 1) % 2 = 1 := by omega
  have hfits : ¬(room = 0 ∧ 1 < group) := by
    rintro ⟨hzero, hlarge⟩
    have := hroom hzero
    omega
  have hmarked : (UInt8.ofNat (2 * group + 1)).toNat % 2 = 1 := by rw [hoctet, hodd]
  rw [decodeGroups_cons_of_marked hmarked, hoctet, hhalf, if_neg hfits]

/-- An unmarked octet adds its group below those that follow. -/
theorem decodeGroups_more {group : Nat} (hgroup : group < 128) (room : Nat) (rest : Octets) :
    decodeGroups (room + 1) (UInt8.ofNat (2 * group) :: rest) =
      (decodeGroups room rest).map fun (higher, count) => (group + 128 * higher, count + 1) := by
  have hoctet : (UInt8.ofNat (2 * group)).toNat = 2 * group := by
    rw [UInt8.toNat_ofNat']
    omega
  have hhalf : 2 * group / 2 = group := by omega
  have heven : ¬2 * group % 2 = 1 := by omega
  have hunmarked : (UInt8.ofNat (2 * group)).toNat % 2 ≠ 1 := by rwa [hoctet]
  rw [decodeGroups_cons_of_unmarked hunmarked, hoctet, hhalf]

/-- A number that has room is read back from its groups, whatever follows them. -/
theorem decodeGroups_encodeGroups_append {room value : Nat} (hvalue : value < 2 ^ (7 * room + 1))
    (rest : Octets) :
    decodeGroups (room + 1) (encodeGroups value ++ rest) =
      some (value, (encodeGroups value).length) := by
  induction room generalizing value with
  | zero =>
      have hsmall : value < 2 := by simpa using hvalue
      rw [encodeGroups_of_lt (by omega)]
      exact decodeGroups_last (by omega) (fun _ => by omega) rest
  | succ room ih =>
      by_cases hlast : value < 128
      · rw [encodeGroups_of_lt hlast]
        exact decodeGroups_last hlast (by omega) rest
      · have hpow : 2 ^ (7 * (room + 1) + 1) = 2 ^ (7 * room + 1) * 128 := by
          rw [show 7 * (room + 1) + 1 = 7 * room + 1 + 7 by omega, Nat.pow_add]
        have hhigher : value / 128 < 2 ^ (7 * room + 1) := by omega
        rw [encodeGroups_of_le (by omega), List.cons_append,
          decodeGroups_more (Nat.mod_lt _ (by decide)), ih hhigher]
        simp only [Option.map_some, List.length_cons, Nat.mod_add_div]

/-- An address is read back from its wire form, whatever follows it. -/
theorem decode_encode_append (address : UInt64) (rest : Octets) :
    decode (encode address ++ rest) = .ok (address, size address) := by
  have hvalue : address.toNat < 2 ^ (7 * 9 + 1) := address.toNat_lt
  rw [decode, encode, maxSize, decodeGroups_encodeGroups_append hvalue rest]
  simp [size, encode]

theorem size_pos (address : UInt64) : 0 < size address :=
  List.length_pos_iff.mpr (encodeGroups_ne_nil _)

end Address

namespace Frame

theorem minContentSize_le (frame : Frame) : minContentSize ≤ frame.contentSize := by
  have := Address.size_pos frame.address
  simp only [minContentSize, contentSize]
  omega

theorem content_ne_nil (frame : Frame) : frame.content ≠ [] := by
  simp [content, body]

/-- A frame is read back from its content. -/
theorem ofContent_content (frame : Frame) : ofContent frame.content = .ok frame := by
  have hlong : ¬frame.content.length < minContentSize := by
    rw [length_content]
    exact Nat.not_lt.mpr frame.minContentSize_le
  have hsplit : frame.content.length - Checksum.size = frame.body.length := by
    rw [content, List.length_append, Checksum.length_sequence, Nat.add_sub_cancel]
  have hbody : frame.content.take frame.body.length = frame.body := by
    rw [content, List.take_left]
  have hreceived :
      wordOfOctets (frame.content.drop frame.body.length) = Checksum.crc32 frame.body := by
    rw [content, List.drop_left, Checksum.sequence, wordOfOctets_octetsOfWord]
  have haddress : Address.decode frame.body = .ok (frame.address, Address.size frame.address) :=
    Address.decode_encode_append _ _
  have hrest : frame.body.drop (Address.size frame.address) =
      frame.control.octet :: frame.payload := by
    rw [body, Address.size, List.drop_left]
  simp only [ofContent, hsplit, hbody, hreceived, haddress, hrest, if_neg hlong, ne_eq,
    not_true_eq_false, if_false]

end Frame

end Hdlc
