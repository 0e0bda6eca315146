import Hdlc.Proofs.Numeration
import Hdlc.Proofs.RoundTrip

/-!
# Sizes of frames

The sizes of a frame are found without sending it. The size on the wire is counted field by field,
apart from the encoding, and yet it is the number of octets sent, between that of content that needs
no escape and that of content in which every octet does (`sizes_are_exact`). The sums are made one
after the other in 64 bits, which payloads of less than 2 ^ 62 octets never exhaust.
-/

namespace Hdlc

theorem escapedSize_append (first second : Octets) :
    escapedSize (first ++ second) = escapedSize first + escapedSize second := by
  simp only [escapedSize, List.length_append, List.countP_append]
  omega

theorem length_le_escapedSize (content : Octets) : content.length ≤ escapedSize content :=
  Nat.le_add_right _ _

theorem escapedSize_le (content : Octets) : escapedSize content ≤ 2 * content.length := by
  have hcount : content.countP isReserved ≤ content.length := List.countP_le_length
  rw [escapedSize]
  omega

/-! ## Counting in 64 bits -/

/-- A number that fits 64 bits. -/
def fitting (number : Nat) : Option Nat :=
  if number < UInt64.size then some number else none

theorem fitting_of_lt {number : Nat} (hnumber : number < UInt64.size) :
    fitting number = some number :=
  if_pos hnumber

theorem fitting_bind {α : Type} {number : Nat} (hnumber : number < UInt64.size)
    (next : Nat → Option α) : fitting number >>= next = next number := by
  rw [fitting_of_lt hnumber]
  rfl

/-- Add up what the octets of content take on the wire, as long as the sum fits. -/
def countSent : Nat → Octets → Option Nat
  | total, [] => some total
  | total, octet :: rest => do
      let total ← fitting (total + if isReserved octet then 2 else 1)
      countSent total rest

theorem countSent_eq {total : Nat} {content : Octets}
    (hfits : total + escapedSize content < UInt64.size) :
    countSent total content = some (total + escapedSize content) := by
  induction content generalizing total with
  | nil => rfl
  | cons octet rest ih =>
      have hsplit : escapedSize (octet :: rest) =
          (if isReserved octet then 2 else 1) + escapedSize rest := by
        rw [← List.singleton_append, escapedSize_append, escapedSize, List.countP_singleton,
          List.length_singleton]
        split <;> rfl
      rw [hsplit, ← Nat.add_assoc] at hfits ⊢
      rw [countSent, fitting_bind (by omega), ih hfits]

namespace Frame

/-- The size of content, each sum of which has to fit. -/
def countContent (frame : Frame) : Option Nat := do
  let size ← fitting (Address.size frame.address + 1)
  let size ← fitting (size + frame.payload.length)
  fitting (size + Checksum.size)

/-- The size on the wire, each sum of which has to fit. -/
def countWire (frame : Frame) : Option Nat := do
  let address := Address.encode frame.address
  let register := Checksum.extend Checksum.initial address
  let register := Checksum.extend register [frame.control.octet]
  let register := Checksum.extend register frame.payload
  let escaped ← countSent 0 (address ++ [frame.control.octet] ++ frame.payload ++
    Checksum.sequenceOf register)
  fitting (escaped + 2)

/-- The greatest size on the wire, each sum and product of which has to fit. -/
def countMaxWire (payloadLength : Nat) : Option Nat := do
  let size ← fitting (Address.maxSize + 1)
  let size ← fitting (size + payloadLength)
  let size ← fitting (size + Checksum.size)
  let size ← fitting (2 * size)
  fitting (2 + size)

/-! ## Exactness -/

/-- The register that takes in field by field ends with the check sequence of the content. -/
theorem content_eq_fields (frame : Frame) :
    frame.content = Address.encode frame.address ++ [frame.control.octet] ++ frame.payload ++
      Checksum.sequenceOf (Checksum.extend (Checksum.extend (Checksum.extend Checksum.initial
        (Address.encode frame.address)) [frame.control.octet]) frame.payload) := by
  rw [content, body, List.append_cons, Checksum.sequence, Checksum.crc32, Checksum.extend_append,
    Checksum.extend_append]
  rfl

theorem wireSize_eq (frame : Frame) : frame.wireSize = escapedSize frame.content + 2 := by
  rw [content_eq_fields, escapedSize_append, escapedSize_append, escapedSize_append]
  rfl

theorem length_encode (frame : Frame) : frame.encode.length = frame.wireSize := by
  rw [encode, List.length_append, List.length_cons, length_escape, wireSize_eq]
  rfl

theorem contentSize_add_two_le_wireSize (frame : Frame) :
    frame.contentSize + 2 ≤ frame.wireSize := by
  rw [wireSize_eq, ← length_content]
  exact Nat.add_le_add_right (length_le_escapedSize _) 2

theorem wireSize_le (frame : Frame) : frame.wireSize ≤ 2 * frame.contentSize + 2 := by
  rw [wireSize_eq, ← length_content]
  exact Nat.add_le_add_right (escapedSize_le _) 2

theorem two_mul_contentSize_add_two_le (frame : Frame) :
    2 * frame.contentSize + 2 ≤ maxWireSize frame.payload.length := by
  have haddress := Address.size_le_maxSize frame.address
  rw [contentSize, maxWireSize]
  omega

theorem unescape_interior (frame : Frame) : unescape frame.interior = .ok frame.content := by
  rw [interior_eq, unescape_escape]

theorem countContent_eq {frame : Frame} (hfits : frame.contentSize < UInt64.size) :
    frame.countContent = some frame.contentSize := by
  rw [contentSize] at hfits ⊢
  rw [countContent, fitting_bind (by omega), fitting_bind (by omega), fitting_of_lt hfits]

theorem countWire_eq {frame : Frame} (hfits : frame.wireSize < UInt64.size) :
    frame.countWire = some frame.wireSize := by
  rw [wireSize_eq] at hfits ⊢
  rw [countWire, ← content_eq_fields, countSent_eq (by omega), Option.bind_eq_bind,
    Option.bind_some, Nat.zero_add, fitting_of_lt hfits]

theorem countMaxWire_eq {payloadLength : Nat}
    (hfits : maxWireSize payloadLength < UInt64.size) :
    countMaxWire payloadLength = some (maxWireSize payloadLength) := by
  rw [maxWireSize] at hfits ⊢
  rw [countMaxWire, fitting_bind (by decide), fitting_bind (by omega), fitting_bind (by omega),
    fitting_bind (by omega), fitting_of_lt hfits]

/-- The size on the wire, counted without encoding, is the number of octets from flag to flag, and
the size of content is the number of octets restored from what stands between them. Escaping adds
the two flags at least and doubles content at most, which the greatest size for the payload allows
for. No sum on the way to these sizes leaves 64 bits unless the payload is of 2 ^ 62 octets or
more. -/
theorem sizes_are_exact (frame : Frame) :
    frame.wireSize = frame.encode.length ∧
    (∃ sent content, frame.encode = flag :: (sent ++ [flag]) ∧ flag ∉ sent ∧
      unescape sent = .ok content ∧ frame.contentSize = content.length) ∧
    frame.contentSize + 2 ≤ frame.wireSize ∧
    frame.wireSize ≤ 2 * frame.contentSize + 2 ∧
    2 * frame.contentSize + 2 ≤ maxWireSize frame.payload.length ∧
    (frame.payload.length < 2 ^ 62 →
      frame.countContent = some frame.contentSize ∧
      frame.countWire = some frame.wireSize ∧
      countMaxWire frame.payload.length = some (maxWireSize frame.payload.length) ∧
      maxWireSize frame.payload.length < 2 ^ 64) := by
  have hleast := frame.contentSize_add_two_le_wireSize
  have hmost := frame.wireSize_le
  have hbound := frame.two_mul_contentSize_add_two_le
  refine ⟨frame.length_encode.symm, ?_, hleast, hmost, hbound, fun hpayload => ?_⟩
  · exact ⟨frame.interior, frame.content, frame.encode_eq, frame.flag_not_mem_interior,
      frame.unescape_interior, frame.length_content.symm⟩
  · -- All other sums are smaller than the greatest size.
    have hroom : maxWireSize frame.payload.length < UInt64.size := by
      rw [maxWireSize, Address.maxSize, Checksum.size, UInt64.size]
      omega
    exact ⟨countContent_eq (by omega), countWire_eq (by omega), countMaxWire_eq hroom, hroom⟩

/-- A frame in which address, control octet and payload have to be escaped. -/
theorem sizes_are_exact_of_reserved :
    let frame : Frame := ⟨62, ⟨flag⟩, [flag, escapeMark, 0]⟩
    frame.payload.length < 2 ^ 62 ∧ frame.countContent = some 9 ∧
      frame.countWire = some frame.encode.length ∧ countMaxWire 3 = some 38 ∧
      11 ≤ frame.encode.length ∧ frame.encode.length ≤ 20 := by
  intro frame
  have hpayload : frame.payload.length < 2 ^ 62 := by decide
  have hsize : frame.contentSize = 9 := by
    simp [frame, contentSize, Address.size, Address.encode, Address.encodeGroups_of_lt,
      Checksum.size]
  obtain ⟨hwire, -, hleast, hmost, -, hcounts⟩ := sizes_are_exact frame
  obtain ⟨hcontent, hcounted, hgreatest, -⟩ := hcounts hpayload
  rw [hwire] at hleast hmost hcounted
  rw [hsize] at hleast hmost hcontent
  exact ⟨hpayload, hcontent, hcounted, hgreatest, hleast, hmost⟩

end Frame

end Hdlc
