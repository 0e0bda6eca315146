import Hdlc.Proofs.Content
import Hdlc.Proofs.Segment

/-!
# Frames in a stream

A stream carries frames if flags stand before, between and behind their interiors. How many flags
stand together does not matter, so neighbours may share one and a sender may fill pauses with them.
A decoder answers such a stream with one verdict for each frame, in order (`feed_of_carries`).
-/

namespace Hdlc

theorem escape_ne_nil {content : Octets} (hcontent : content ≠ []) : escape content ≠ [] := by
  intro hnil
  have hsize : escapedSize content = 0 := by
    rw [← length_escape, hnil, List.length_nil]
  have hlength := List.length_pos_iff.mpr hcontent
  rw [escapedSize] at hsize
  omega

namespace Frame

/-- What stands between the two flags of a frame on the wire. -/
def interior (frame : Frame) : Octets :=
  frame.encode.tail.dropLast

/-- The verdict on a frame that arrives as it was sent. -/
def verdictWithin (limit : Nat) (frame : Frame) : Verdict :=
  if frame.contentSize ≤ limit then .ok frame else .error (.tooLong limit)

theorem interior_eq (frame : Frame) : frame.interior = escape frame.content := by
  rw [interior, encode, List.cons_append, List.tail_cons, List.dropLast_concat]

theorem encode_eq (frame : Frame) : frame.encode = flag :: (frame.interior ++ [flag]) := by
  rw [interior_eq, encode, List.cons_append]

theorem flag_not_mem_interior (frame : Frame) : flag ∉ frame.interior := by
  rw [interior_eq]
  exact flag_not_mem_escape _

theorem verdictWithin_of_le {limit : Nat} {frame : Frame} (hlimit : frame.contentSize ≤ limit) :
    frame.verdictWithin limit = .ok frame :=
  if_pos hlimit

theorem verdictWithin_of_lt {limit : Nat} {frame : Frame} (hlimit : limit < frame.contentSize) :
    frame.verdictWithin limit = .error (.tooLong limit) :=
  if_neg (Nat.not_le.mpr hlimit)

end Frame

namespace Segment

/-- The form in which an octet of content is sent restores to it where there is still room. -/
theorem contentFrom_escapeOctet_append (limit start : Nat) (octet : UInt8) (rest : Octets) :
    contentFrom limit start (escapeOctet octet ++ rest) =
      if limit ≤ start then .error (.tooLong limit)
      else (contentFrom limit (start + 1) rest).map (octet :: ·) := by
  by_cases hreserved : isReserved octet
  · rw [escapeOctet_of_isReserved hreserved, List.cons_append, List.cons_append, List.nil_append,
      contentFrom_escapeMark_cons, unescapeOctet_transpose hreserved]
    rfl
  · have hplain : octet ≠ escapeMark := by
      rintro rfl
      exact hreserved rfl
    rw [escapeOctet_of_not_isReserved hreserved, List.cons_append, List.nil_append,
      contentFrom_cons hplain]

/-- Escaped content is restored exactly where all of it keeps within the limit. -/
theorem contentFrom_escape {limit start : Nat} (hstart : start ≤ limit) (content : Octets) :
    contentFrom limit start (escape content) =
      if start + content.length ≤ limit then .ok content else .error (.tooLong limit) := by
  -- The limit is met octet by octet, at whatever length the content has by then.
  induction content generalizing start with
  | nil =>
      rw [List.length_nil, Nat.add_zero, if_pos hstart]
      rfl
  | cons octet rest ih =>
      rw [escape_cons, contentFrom_escapeOctet_append, List.length_cons]
      by_cases hfull : limit ≤ start
      · rw [if_pos hfull, if_neg (by omega)]
      · rw [if_neg hfull, ih (by omega), Nat.add_assoc, Nat.add_comm 1]
        split <;> rfl

theorem unescape_of_contentFrom {limit start : Nat} {segment content : Octets}
    (hcontent : contentFrom limit start segment = .ok content) :
    unescape segment = .ok content := by
  rw [contentFrom] at hcontent
  split at hcontent
  next => cases hcontent
  next => exact hcontent

/-- The verdict on a segment that restores to some content is that on the content, unless it
outgrows the limit. -/
theorem verdict?_escape {content : Octets} (hcontent : content ≠ []) (limit : Nat) :
    verdict? limit (escape content) =
      some (if content.length ≤ limit then Frame.ofContent content
        else .error (.tooLong limit)) := by
  rw [verdict?, if_neg (escape_ne_nil hcontent), contentFrom_escape (Nat.zero_le limit),
    Nat.zero_add]
  split <;> rfl

theorem verdict?_interior (limit : Nat) (frame : Frame) :
    verdict? limit frame.interior = some (frame.verdictWithin limit) := by
  rw [frame.interior_eq, verdict?_escape frame.content_ne_nil, Frame.length_content,
    Frame.ofContent_content, Frame.verdictWithin]

end Segment

/-- Content is restored from its escaped form. -/
theorem unescape_escape (content : Octets) : unescape (escape content) = .ok content := by
  apply Segment.unescape_of_contentFrom
  rw [Segment.contentFrom_escape (Nat.zero_le content.length), Nat.zero_add, if_pos (Nat.le_refl _)]

theorem escape_injective : Function.Injective escape := by
  intro first second heq
  have hrestored := unescape_escape first
  rw [heq, unescape_escape, Except.ok.injEq] at hrestored
  exact hrestored.symm

/-- Streams that hold one or more flags and then, for each of some frames in order, the interior
of its wire form and one or more flags. -/
inductive Carries : List Frame → Octets → Prop
  | flags (more : Nat) : Carries [] (List.replicate (more + 1) flag)
  | frame {frames : List Frame} {wire : Octets} (hcarries : Carries frames wire) (frame : Frame)
      (more : Nat) :
      Carries (frames ++ [frame]) (wire ++ frame.interior ++ List.replicate (more + 1) flag)

namespace Carries

theorem append_flag {frames : List Frame} {wire : Octets} (hcarries : Carries frames wire) :
    Carries frames (wire ++ [flag]) := by
  cases hcarries with
  | flags more =>
      rw [← List.replicate_succ']
      exact .flags (more + 1)
  | frame hcarries frame more =>
      rw [List.append_assoc, ← List.replicate_succ']
      exact hcarries.frame frame (more + 1)

theorem append_encode {frames : List Frame} {wire : Octets} (hcarries : Carries frames wire)
    (frame : Frame) : Carries (frames ++ [frame]) (wire ++ frame.encode) := by
  have hframe := hcarries.append_flag.frame frame 0
  simpa [frame.encode_eq] using hframe

/-- The interior of a frame and a flag may follow, the flag before it being shared. -/
theorem append_interior {frames : List Frame} {wire : Octets} (hcarries : Carries frames wire)
    (frame : Frame) : Carries (frames ++ [frame]) (wire ++ frame.interior ++ [flag]) :=
  hcarries.frame frame 0

theorem append_flatMap_encode {frames : List Frame} {wire : Octets}
    (hcarries : Carries frames wire) (later : List Frame) :
    Carries (frames ++ later) (wire ++ later.flatMap Frame.encode) := by
  induction later generalizing frames wire with
  | nil => simpa using hcarries
  | cons frame later ih => simpa using ih (hcarries.append_encode frame)

theorem encode (frame : Frame) : Carries [frame] frame.encode := by
  rw [frame.encode_eq]
  exact (Carries.flags 0).append_interior frame

/-- Wire forms that follow each other carry their frames. -/
theorem flatMap_encode {frames : List Frame} (hframes : frames ≠ []) :
    Carries frames (frames.flatMap Frame.encode) := by
  obtain ⟨first, later, rfl⟩ := List.exists_cons_of_ne_nil hframes
  exact (Carries.encode first).append_flatMap_encode later

end Carries

namespace Decoder.State

theorem feed_replicate_flag (limit count : Nat) :
    feed limit (inFrame #[]) (List.replicate count flag) = (inFrame #[], []) := by
  induction count with
  | zero => rfl
  | succ count ih =>
      rw [List.replicate_succ, feed_cons, step_flag, ih]
      rfl

theorem feed_inFrame_escapeMark_cons (limit : Nat) (gathered : Array UInt8) (rest : Octets) :
    feed limit (inFrame gathered) (escapeMark :: rest) = feed limit (escaping gathered) rest := by
  rw [feed_cons]
  rfl

theorem feed_escapeOctet {limit : Nat} {gathered : Array UInt8} (hroom : gathered.size < limit)
    (octet : UInt8) :
    feed limit (inFrame gathered) (escapeOctet octet) = (inFrame (gathered.push octet), []) := by
  have hgather : gather limit gathered octet = (inFrame (gathered.push octet), none) :=
    if_neg (Nat.not_le.mpr hroom)
  by_cases hreserved : isReserved octet
  · have hstep : step limit (escaping gathered) (transpose octet) =
        gather limit gathered octet := by
      rw [step, unescapeOctet_transpose hreserved]
    rw [escapeOctet_of_isReserved hreserved, feed_inFrame_escapeMark_cons, feed_cons, hstep,
      hgather]
    rfl
  · have hflag : octet ≠ flag := by
      rintro rfl
      exact hreserved rfl
    have hmark : octet ≠ escapeMark := by
      rintro rfl
      exact hreserved rfl
    have hstep : step limit (inFrame gathered) octet = gather limit gathered octet := by
      rw [step, if_neg hflag, if_neg hmark]
    rw [escapeOctet_of_not_isReserved hreserved, feed_cons, hstep, hgather]
    rfl

theorem feed_escape {limit : Nat} {gathered : Array UInt8} {content : Octets}
    (hroom : gathered.size + content.length ≤ limit) :
    feed limit (inFrame gathered) (escape content) =
      (inFrame (gathered ++ content.toArray), []) := by
  induction content generalizing gathered with
  | nil => simp
  | cons octet rest ih =>
      rw [List.length_cons] at hroom
      have hpushed : (gathered.push octet).size + rest.length ≤ limit := by
        rw [Array.size_push]
        omega
      rw [escape_cons, feed_append, feed_escapeOctet (by omega), ih hpushed]
      simp

/-- Content that fits is gathered, and what is behind it on the wire is read from there. -/
theorem feed_escape_append {limit : Nat} {content : Octets} (hlimit : content.length ≤ limit)
    (rest : Octets) :
    feed limit (inFrame #[]) (escape content ++ rest) =
      feed limit (inFrame content.toArray) rest := by
  have hroom : (#[] : Array UInt8).size + content.length ≤ limit := by simpa using hlimit
  rw [feed_append, feed_escape hroom]
  simp

/-- Between flags, escaped content brings about the verdict on what it restores to. -/
theorem feed_escape_append_flag {content : Octets} (hcontent : content ≠ []) (limit : Nat) :
    feed limit (inFrame #[]) (escape content ++ [flag]) =
      (inFrame #[], [if content.length ≤ limit then Frame.ofContent content
        else .error (.tooLong limit)]) := by
  rw [feed_inFrame_append_flag limit (flag_not_mem_escape content),
    Segment.verdict?_escape hcontent]
  rfl

theorem feed_interior_append_flag (limit : Nat) (frame : Frame) :
    feed limit (inFrame #[]) (frame.interior ++ [flag]) =
      (inFrame #[], [frame.verdictWithin limit]) := by
  rw [feed_inFrame_append_flag limit frame.flag_not_mem_interior, Segment.verdict?_interior]
  rfl

/-- A stream that carries frames first closes what is open where it starts, and then brings about
one verdict for each frame. -/
theorem feed_of_carries {frames : List Frame} {wire : Octets} (hcarries : Carries frames wire)
    (limit : Nat) (state : State) :
    feed limit state wire =
      (inFrame #[], state.closing?.toList ++ frames.map (Frame.verdictWithin limit)) := by
  -- Each flag run leaves an empty frame open, which is where the next interior starts.
  induction hcarries with
  | flags more =>
      rw [List.replicate_succ, feed_cons, step_flag, feed_replicate_flag]
      rfl
  | frame _ frame more ih =>
      rw [List.replicate_succ, List.append_cons, List.append_assoc _ frame.interior, feed_append,
        feed_append, ih, feed_interior_append_flag, feed_replicate_flag]
      simp

theorem feed_encode (limit : Nat) (frame : Frame) :
    feed limit searching frame.encode = (inFrame #[], [frame.verdictWithin limit]) :=
  feed_of_carries (.encode frame) limit searching

/-- A decoder that has nothing in hand answers a stream with one verdict for each frame that the
stream carries, in order. -/
theorem feed_stream {frames : List Frame} {wire : Octets} (hcarries : Carries frames wire)
    (limit : Nat) :
    feed limit searching wire = (inFrame #[], frames.map (Frame.verdictWithin limit)) ∧
      feed limit (inFrame #[]) wire = (inFrame #[], frames.map (Frame.verdictWithin limit)) :=
  ⟨feed_of_carries hcarries limit searching, feed_of_carries hcarries limit (inFrame #[])⟩

/-- A frame that just keeps within the limit shares a flag with one that does not. -/
theorem feed_stream_of_shared_flag :
    let short : Frame := ⟨62, ⟨flag⟩, [escapeMark, flag]⟩
    let long : Frame := ⟨62, ⟨3⟩, [0, 1, 2]⟩
    let wire := List.replicate 3 flag ++ short.interior ++ [flag] ++ long.interior ++ [flag]
    feed 8 searching wire = (inFrame #[], [.ok short, .error (.tooLong 8)]) ∧
      feed 8 (inFrame #[]) wire = (inFrame #[], [.ok short, .error (.tooLong 8)]) := by
  intro short long wire
  have hcarries : Carries [short, long] wire :=
    ((Carries.flags 2).append_interior short).append_interior long
  have hsize : short.contentSize = 8 ∧ long.contentSize = 9 := by
    simp [short, long, Frame.contentSize, Address.size, Address.encode,
      Address.encodeGroups_of_lt, Checksum.size]
  simpa [Frame.verdictWithin, hsize] using feed_stream hcarries 8

end Decoder.State

end Hdlc
