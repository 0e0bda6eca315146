import Hdlc.Proofs.Residue
import Hdlc.Proofs.Resync

/-!
# Bursts

A burst damages octets that stand close together. If they lie within four places in a row, the check
sequence does not fit any longer, whichever fields they belong to, so the content is rejected for
that and for nothing else, and the frames around it are accepted (`bursts_are_detected`).
-/

namespace Hdlc

/-! ## Damage within a window -/

/-- Content of the same length that differs from the content given, and only in places that lie
within a window of the given width. -/
structure Burst (width : Nat) (content changed : Octets) : Prop where
  length_eq : changed.length = content.length
  ne : changed ≠ content
  window : ∃ start, ∀ index, changed[index]? ≠ content[index]? →
    start ≤ index ∧ index < start + width

namespace Burst

theorem of_append {width : Nat} {damaged inside : Octets} (before after : Octets)
    (hlength : damaged.length = inside.length) (hwidth : inside.length ≤ width)
    (hne : damaged ≠ inside) :
    Burst width (before ++ inside ++ after) (before ++ damaged ++ after) := by
  have hboth : (before ++ damaged).length = (before ++ inside).length := by
    rw [List.length_append, List.length_append, hlength]
  refine ⟨?_, ?_, before.length, fun index hindex => ⟨?_, ?_⟩⟩
  · rw [List.length_append, hboth, ← List.length_append]
  · intro heq
    exact hne (List.append_cancel_left (List.append_cancel_right heq))
  · by_contra hindex_lt
    apply hindex
    rw [List.append_assoc, List.append_assoc, List.getElem?_append_left (by omega),
      List.getElem?_append_left (by omega)]
  · by_contra hindex_ge
    apply hindex
    have hinside : (before ++ inside).length ≤ index := by
      rw [List.length_append]
      omega
    rw [List.getElem?_append_right hinside, List.getElem?_append_right (hboth ▸ hinside), hboth]

/-- A burst leaves alone what is before and behind its window. -/
theorem exists_append {width : Nat} {content changed : Octets}
    (hburst : Burst width content changed) :
    ∃ before inside damaged after, content = before ++ inside ++ after ∧
      changed = before ++ damaged ++ after ∧ damaged.length = inside.length ∧
      inside.length ≤ width ∧ damaged ≠ inside := by
  obtain ⟨hlength, hne, start, hwindow⟩ := hburst
  have hbefore : changed.take start = content.take start := by
    apply List.ext_getElem?
    intro index
    by_cases hindex : index < start
    · rw [List.getElem?_take_of_lt hindex, List.getElem?_take_of_lt hindex]
      by_contra hdiffers
      have := (hwindow index hdiffers).1
      omega
    · rw [List.getElem?_take_eq_none (by omega), List.getElem?_take_eq_none (by omega)]
  have hafter : changed.drop (start + width) = content.drop (start + width) := by
    apply List.ext_getElem?
    intro index
    rw [List.getElem?_drop, List.getElem?_drop]
    by_contra hdiffers
    have := (hwindow _ hdiffers).2
    omega
  have hsplit : ∀ octets : Octets,
      octets = octets.take start ++ (octets.drop start).take width ++
        octets.drop (start + width) := by
    intro octets
    rw [← List.drop_drop, List.append_assoc, List.take_append_drop, List.take_append_drop]
  refine ⟨content.take start, (content.drop start).take width, (changed.drop start).take width,
    content.drop (start + width), hsplit content, ?_, ?_, List.length_take_le _ _, ?_⟩
  · rw [← hbefore, ← hafter]
    exact hsplit changed
  · rw [List.length_take, List.length_take, List.length_drop, List.length_drop, hlength]
  · intro heq
    apply hne
    rw [hsplit changed, hsplit content, hbefore, hafter, heq]

end Burst

namespace Frame

/-! ## The check sequence of content -/

/-- The rejection of content whose check sequence does not fit the octets before it. -/
def mismatch (content : Octets) : Rejection :=
  let length := content.length - Checksum.size
  .checksumMismatch (Checksum.crc32 (content.take length)) (wordOfOctets (content.drop length))

theorem crc32_take_eq_iff {content : Octets} (hlength : Checksum.size ≤ content.length) :
    Checksum.crc32 (content.take (content.length - Checksum.size)) =
        wordOfOctets (content.drop (content.length - Checksum.size)) ↔
      Checksum.extend Checksum.initial content = Checksum.residue := by
  have hcheck : (content.drop (content.length - Checksum.size)).length = Checksum.size := by
    rw [List.length_drop]
    omega
  rw [Checksum.crc32_eq_iff hcheck, List.take_append_drop]

/-- Content that is long enough and leaves another register than the residue is rejected. -/
theorem ofContent_of_extend_ne {content : Octets} (hlength : minContentSize ≤ content.length)
    (hregister : Checksum.extend Checksum.initial content ≠ Checksum.residue) :
    ofContent content = .error (mismatch content) := by
  have hsize : Checksum.size ≤ content.length := by
    simp only [minContentSize] at hlength
    omega
  have hmismatch := (not_congr (crc32_take_eq_iff hsize)).mpr hregister
  simp only [ofContent, if_neg (Nat.not_lt.mpr hlength), mismatch, ne_eq, hmismatch,
    not_false_eq_true, if_true]

/-- Accepted content leaves the residue. -/
theorem extend_of_ofContent {content : Octets} {frame : Frame}
    (haccepted : ofContent content = .ok frame) :
    Checksum.extend Checksum.initial content = Checksum.residue := by
  by_contra hregister
  by_cases hlength : minContentSize ≤ content.length
  · rw [ofContent_of_extend_ne hlength hregister] at haccepted
    cases haccepted
  · simp [ofContent, Nat.lt_of_not_le hlength] at haccepted

theorem extend_content (frame : Frame) :
    Checksum.extend Checksum.initial frame.content = Checksum.residue :=
  extend_of_ofContent frame.ofContent_content

/-- Octets damaged within four places leave another register than the residue. -/
theorem ofContent_damaged {frame : Frame} {before inside damaged after : Octets}
    (hcontent : frame.content = before ++ inside ++ after)
    (hlength : damaged.length = inside.length) (hfour : inside.length ≤ 4)
    (hne : damaged ≠ inside) :
    ofContent (before ++ damaged ++ after) =
      .error (mismatch (before ++ damaged ++ after)) := by
  have hlong : minContentSize ≤ (before ++ damaged ++ after).length := by
    have hsame : (before ++ damaged ++ after).length = frame.content.length := by
      simp only [hcontent, List.length_append, hlength]
    rw [hsame, length_content]
    exact frame.minContentSize_le
  apply ofContent_of_extend_ne hlong
  intro hregister
  rw [← frame.extend_content, hcontent] at hregister
  simp only [Checksum.extend_append] at hregister
  -- What follows the window cannot make up for it, nor can the octets inside it among themselves.
  have hwindow := Checksum.extend_injective after hregister
  exact hne (Checksum.eq_of_extend_eq hlength (hlength ▸ hfour) hwindow)

theorem ofContent_damaged_octet {frame : Frame} {before after : Octets} {octet damaged : UInt8}
    (hcontent : frame.content = before ++ octet :: after) (hne : damaged ≠ octet) :
    ofContent (before ++ damaged :: after) = .error (mismatch (before ++ damaged :: after)) := by
  rw [List.append_cons] at hcontent ⊢
  have hinside : [damaged] ≠ [octet] := by simpa using hne
  exact ofContent_damaged hcontent rfl (by simp) hinside

end Frame

namespace Decoder.State

theorem carries_flatMap_encode_append_flag (frames : List Frame) :
    Carries frames (frames.flatMap Frame.encode ++ [flag]) := by
  cases frames with
  | nil => exact .flags 0
  | cons frame later => exact (Carries.flatMap_encode (List.cons_ne_nil frame later)).append_flag

theorem feed_inFrame_flatMap_encode {limit : Nat} {frames : List Frame}
    (hlimit : ∀ frame ∈ frames, frame.contentSize ≤ limit) :
    feed limit (inFrame #[]) (frames.flatMap Frame.encode) = (inFrame #[], frames.map .ok) := by
  by_cases hframes : frames = []
  · subst hframes
    rfl
  · rw [feed_of_carries (Carries.flatMap_encode hframes), map_verdictWithin hlimit]
    rfl

/-- A candidate between two streams of frames brings about its verdict and no other. -/
theorem feed_candidate {limit : Nat} {before after : List Frame}
    (hbefore : ∀ frame ∈ before, frame.contentSize ≤ limit)
    (hafter : ∀ frame ∈ after, frame.contentSize ≤ limit)
    {content : Octets} (hcontent : content ≠ []) (hlimit : content.length ≤ limit) :
    feed limit searching
        (before.flatMap Frame.encode ++ [flag] ++ escape content ++ [flag] ++
          after.flatMap Frame.encode) =
      (inFrame #[], before.map .ok ++ Frame.ofContent content :: after.map .ok) := by
  have hopen := feed_of_carries (carries_flatMap_encode_append_flag before) limit searching
  have hclosed := feed_escape_append_flag hcontent limit
  rw [if_pos hlimit] at hclosed
  rw [map_verdictWithin hbefore] at hopen
  rw [List.append_assoc _ (escape content), feed_append, feed_append, hopen, hclosed,
    feed_inFrame_flatMap_encode hafter]
  simp [closing?]

/-- A burst of up to four octets in the content of a frame, the check sequence included, is the
reason for which the frame is rejected, and costs none of the frames around it. -/
theorem bursts_are_detected {frame : Frame} {changed : Octets}
    (hburst : Burst 4 frame.content changed) :
    Frame.ofContent changed = .error (Frame.mismatch changed) ∧
      ∀ (limit : Nat) (before after : List Frame),
        (∀ involved ∈ frame :: before ++ after, involved.contentSize ≤ limit) →
          feed limit searching
              (before.flatMap Frame.encode ++ [flag] ++ escape changed ++ [flag] ++
                after.flatMap Frame.encode) =
            (inFrame #[],
              before.map .ok ++ .error (Frame.mismatch changed) :: after.map .ok) := by
  have hsize : changed.length = frame.contentSize := by
    rw [hburst.length_eq, Frame.length_content]
  obtain ⟨first, inside, damaged, last, hcontent, rfl, hlength, hfour, hne⟩ :=
    hburst.exists_append
  have hrejected := Frame.ofContent_damaged hcontent hlength hfour hne
  refine ⟨hrejected, fun limit before after hlimit => ?_⟩
  obtain ⟨hboth, hafter⟩ := List.forall_mem_append.mp hlimit
  obtain ⟨hframe, hbefore⟩ := List.forall_mem_cons.mp hboth
  have hlong : first ++ damaged ++ last ≠ [] := by
    intro hnil
    rw [hnil, List.length_nil] at hsize
    have := frame.minContentSize_le
    simp only [Frame.minContentSize] at this
    omega
  rw [feed_candidate hbefore hafter hlong (hsize ▸ hframe), hrejected]

/-- A burst reaches from the payload into the check sequence. -/
theorem burst_across_fields_is_detected :
    let frame : Frame := ⟨1, ⟨3⟩, [0xAA]⟩
    let other : Frame := ⟨62, ⟨3⟩, [flag]⟩
    let changed : Octets := [3, 3, escapeMark, 0, flag, 0x2A, 0xE0]
    Burst 4 frame.content changed ∧
      Frame.ofContent changed = .error (Frame.mismatch changed) ∧
      feed 7 searching
          ([other, frame].flatMap Frame.encode ++ [flag] ++ escape changed ++ [flag] ++
            [other].flatMap Frame.encode) =
        (inFrame #[], [.ok other, .ok frame, .error (Frame.mismatch changed), .ok other]) := by
  intro frame other changed
  have hbody : frame.body = [3, 3, 0xAA] := by
    simp [Frame.body, frame, Address.encode, Address.encodeGroups_of_lt]
  have hcontent : frame.content = [3, 3] ++ [0xAA, flag, flag, 0x29] ++ [0xE0] := by
    rw [Frame.content, hbody]
    decide +kernel
  have hburst : Burst 4 frame.content changed := by
    have hchanged : changed = [3, 3] ++ [escapeMark, 0, flag, 0x2A] ++ [0xE0] := rfl
    rw [hcontent, hchanged]
    exact .of_append _ _ rfl (Nat.le_refl 4) (by decide)
  have hsize : frame.contentSize ≤ 7 ∧ other.contentSize ≤ 7 := by
    simp [frame, other, Frame.contentSize, Address.size, Address.encode,
      Address.encodeGroups_of_lt, Checksum.size]
  obtain ⟨hrejected, hstream⟩ := bursts_are_detected hburst
  exact ⟨hburst, hrejected, hstream 7 [other, frame] [other] (by simp [hsize])⟩

end Decoder.State

end Hdlc
