import Hdlc.Proofs.Burst
import Hdlc.Proofs.Form
import Hdlc.Proofs.Sending
import Hdlc.Stream.Codec

/-!
# Relaying received frames

Whoever receives a frame may send it on under the same limit. Content is gathered no further than
the limit (`size_content_feed_le`), and a frame is never longer when it is sent than it was when it
was received, since its address is sent in the shortest form (`received_frames_can_be_relayed`). It
is sent in the same octets exactly where its address was received in that form.
-/

namespace Hdlc

/-- Four octets are those of the word that is read from them. -/
theorem octetsOfWord_wordOfOctets {check : Octets} (hcheck : check.length = Checksum.size) :
    octetsOfWord (wordOfOctets check) = check :=
  eq_of_wordOfOctets_eq hcheck.symm (Nat.le_refl 4) (wordOfOctets_octetsOfWord _)

theorem exists_last_of_mem {octet : UInt8} {octets : Octets} (hmem : octet ∈ octets) :
    ∃ before after, octets = before ++ octet :: after ∧ octet ∉ after := by
  obtain ⟨back, front, hsplit, hback⟩ := List.eq_append_cons_of_mem (List.mem_reverse.mpr hmem)
  refine ⟨front.reverse, back.reverse, ?_, List.mem_reverse.not.mpr hback⟩
  rw [← List.reverse_reverse octets, hsplit]
  simp

namespace Frame

theorem encode_eq_iff_content_eq (frame : Frame) (content : Octets) :
    frame.encode = flag :: escape content ++ [flag] ↔ frame.content = content := by
  constructor
  · intro hencode
    rw [encode, List.append_cancel_right_eq, List.cons.injEq] at hencode
    exact escape_injective hencode.2
  · rintro rfl
    rfl

/-- Received content is that of the frame exactly where the address came in its shortest form. -/
theorem content_eq_iff_isShortest (frame : Frame) (received : Octets) :
    frame.content = received ++ frame.control.octet :: frame.payload ++
        Checksum.sequence (received ++ frame.control.octet :: frame.payload) ↔
      Address.IsShortest received frame.address := by
  rw [Address.isShortest_iff]
  constructor
  · intro hcontent
    obtain ⟨hbody, -⟩ := List.append_inj' hcontent rfl
    exact (List.append_cancel_right hbody).symm
  · rintro rfl
    rfl

end Frame

namespace Decoder.State

/-! ## Gathered content -/

theorem size_content_gather (limit : Nat) (content : Array UInt8) (octet : UInt8) :
    (gather limit content octet).1.content.size = 0 ∨
      (gather limit content octet).1.content.size = content.size + 1 ∧ content.size < limit := by
  by_cases hfull : limit ≤ content.size
  · simp [gather, hfull, State.content]
  · simp [gather, hfull, State.content]
    omega

/-- An octet gives up the content gathered, keeps it, or adds to it below the limit. -/
theorem size_content_step (limit : Nat) (state : State) (octet : UInt8) :
    (state.step limit octet).1.content.size = 0 ∨
      (state.step limit octet).1.content.size = state.content.size ∨
      (state.step limit octet).1.content.size = state.content.size + 1 ∧
        state.content.size < limit := by
  by_cases hflag : octet = flag
  · subst hflag
    rw [step_flag]
    exact .inl rfl
  cases state with
  | searching =>
      rw [step, if_neg hflag]
      exact .inl rfl
  | inFrame content =>
      rw [step, if_neg hflag]
      split
      next => exact .inr (.inl rfl)
      next => exact (size_content_gather limit content octet).imp_right .inr
  | escaping content =>
      rw [step]
      split
      next plain _ => exact (size_content_gather limit content plain).imp_right .inr
      next =>
        rw [if_neg hflag]
        exact .inl rfl

theorem size_content_step_le (limit : Nat) (state : State) (octet : UInt8) :
    (state.step limit octet).1.content.size ≤ max state.content.size limit := by
  have hstep := size_content_step limit state octet
  omega

theorem size_content_feed_le {limit : Nat} {state : State} (hstate : state.content.size ≤ limit)
    (octets : Octets) : (feed limit state octets).1.content.size ≤ limit := by
  induction octets generalizing state with
  | nil => exact hstate
  | cons octet rest ih =>
      rw [feed_cons]
      apply ih
      have hstep := size_content_step_le limit state octet
      omega

/-! ## Where a verdict comes from -/

/-- Each verdict on a stream is brought about by one octet, behind the verdicts before it. -/
theorem exists_step_of_getElem? {limit : Nat} {state : State} {stream : Octets} {index : Nat}
    {verdict : Verdict} (hverdict : (feed limit state stream).2[index]? = some verdict) :
    ∃ before octet after, stream = before ++ octet :: after ∧
      (feed limit state before).2 = (feed limit state stream).2.take index ∧
      ((feed limit state before).1.step limit octet).2 = some verdict := by
  induction stream generalizing state index with
  | nil => cases hverdict
  | cons octet rest ih =>
      have hlater : ∀ index, (feed limit (state.step limit octet).1 rest).2[index]? = some verdict →
          ∃ before last after, octet :: rest = before ++ last :: after ∧
            (feed limit state before).2 = (state.step limit octet).2.toList ++
              (feed limit (state.step limit octet).1 rest).2.take index ∧
            ((feed limit state before).1.step limit last).2 = some verdict := by
        intro index hverdict
        obtain ⟨before, last, after, rfl, htake, hstep⟩ := ih hverdict
        refine ⟨octet :: before, last, after, rfl, ?_, ?_⟩
        · rw [feed_cons, htake]
        · rw [feed_cons]
          exact hstep
      rw [feed_cons] at hverdict ⊢
      cases hstep : (state.step limit octet).2 with
      | none =>
          rw [hstep] at hverdict hlater
          exact hlater index hverdict
      | some first =>
          rw [hstep] at hverdict hlater
          cases index with
          | zero =>
              refine ⟨[], octet, rest, rfl, rfl, ?_⟩
              rw [feed_nil, hstep]
              exact hverdict
          | succ index => exact hlater index hverdict

/-- What is gathered is the content of the segment behind the last flag. -/
theorem exists_segment_of_feed {limit : Nat} {stream : Octets} {gathered : Array UInt8}
    (hstate : (feed limit searching stream).1 = inFrame gathered) :
    ∃ noise segment, stream = noise ++ flag :: segment ∧ flag ∉ segment ∧
      unescape segment = .ok gathered.toList := by
  by_cases hflag : flag ∈ stream
  · obtain ⟨noise, segment, rfl, hsegment⟩ := exists_last_of_mem hflag
    refine ⟨noise, segment, rfl, hsegment, ?_⟩
    rw [List.append_cons, feed_append, feed_append_flag] at hstate
    dsimp only at hstate
    rw [feed_inFrame limit #[] hsegment] at hstate
    -- Neither a fault nor an escape mark that waits leaves the frame open.
    cases hcontent : Segment.contentFrom limit 0 (Segment.settled segment) with
    | error reason =>
        rw [List.size_toArray, List.length_nil, hcontent] at hstate
        cases hstate
    | ok restored =>
        rw [List.size_toArray, List.length_nil, hcontent, Segment.standing] at hstate
        dsimp only at hstate
        split at hstate
        next => cases hstate
        next hcut =>
          rw [Segment.settled_of_not_isCut hcut] at hcontent
          rw [inFrame.injEq] at hstate
          rw [← hstate, Segment.unescape_of_contentFrom hcontent]
          simp
  · rw [feed_searching_of_not_mem hflag] at hstate
    cases hstate

/-! ## Sending on -/

/-- A stream brings content between two flags, which restores from what stands there. A decoder has
gathered it when the second flag is met, and has given the verdicts before. -/
def Gathers (limit : Nat) (stream content : Octets) (earlier : List Verdict) : Prop :=
  ∃ noise segment after, stream = noise ++ flag :: segment ++ flag :: after ∧ flag ∉ segment ∧
    unescape segment = .ok content ∧
    feed limit searching (noise ++ flag :: segment) = (inFrame content.toArray, earlier)

/-- A frame that is accepted was gathered from the stream within the limit. -/
theorem exists_gathers_of_getElem? {limit : Nat} {stream : Octets} {index : Nat} {frame : Frame}
    (hverdict : (feed limit searching stream).2[index]? = some (.ok frame)) :
    ∃ content, Gathers limit stream content ((feed limit searching stream).2.take index) ∧
      content.length ≤ limit ∧ Frame.ofContent content = .ok frame := by
  obtain ⟨before, octet, after, hstream, hearlier, hstep⟩ := exists_step_of_getElem? hverdict
  obtain ⟨rfl, gathered, hstate, haccepted⟩ := accepted_of_step hstep
  obtain ⟨noise, segment, rfl, hsegment, hcontent⟩ := exists_segment_of_feed hstate
  have hsize : gathered.size ≤ limit := by
    have hempty : searching.content.size ≤ limit := Nat.zero_le limit
    have hfed := size_content_feed_le hempty (noise ++ flag :: segment)
    rwa [hstate] at hfed
  refine ⟨gathered.toList, ⟨noise, segment, after, hstream, hsegment, hcontent, ?_⟩, hsize,
    haccepted⟩
  rw [← hearlier, ← hstate]

/-- Every frame that a decoder accepts can be sent on under the same limit. The content it was
gathered from has its address in some form, keeps within the limit and is no shorter than the
content to be sent, so that it is not refused, and whoever receives it accepts the same frame. What
is sent is what was received exactly where the address came in its shortest form. -/
theorem received_frames_can_be_relayed (limit : Nat) (stream : Octets) {index : Nat}
    {frame : Frame} (hverdict : (feed limit searching stream).2[index]? = some (.ok frame)) :
    ∃ received content,
      content = received ++ frame.control.octet :: frame.payload ++
        Checksum.sequence (received ++ frame.control.octet :: frame.payload) ∧
      Address.decode received = .ok (frame.address, received.length) ∧
      Gathers limit stream content ((feed limit searching stream).2.take index) ∧
      frame.contentSize ≤ content.length ∧ content.length ≤ limit ∧
      (∀ sink, isRefusal ((Writer.mk limit).send frame sink).1 = false) ∧
      (∀ (codec : Codec) (sent : Octets), codec.limit = limit →
        codec.encode frame sent = .ok (sent ++ frame.encode)) ∧
      feed limit searching frame.encode = (inFrame #[], [.ok frame]) ∧
      (frame.encode = flag :: escape content ++ [flag] ↔
        Address.IsShortest received frame.address) := by
  obtain ⟨content, hgathers, hlimit, haccepted⟩ := exists_gathers_of_getElem? hverdict
  obtain ⟨received, check, hlayout, hcheck, hdecode, hsum⟩ :=
    Frame.exists_received_of_ofContent haccepted
  have hsize := Frame.contentSize_le_of_ofContent haccepted
  have hwithin : frame.contentSize ≤ limit := Nat.le_trans hsize hlimit
  have hsequence :
      Checksum.sequence (received ++ frame.control.octet :: frame.payload) = check := by
    rw [Checksum.sequence, hsum, octetsOfWord_wordOfOctets hcheck]
  rw [← hsequence] at hlayout
  refine ⟨received, content, hlayout, hdecode, hgathers, hsize, hlimit,
    Writer.isRefusal_send hwithin, ?_, ?_, ?_⟩
  · rintro codec sent rfl
    exact Codec.encode_of_le hwithin sent
  · rw [feed_encode, Frame.verdictWithin_of_le hwithin]
  · rw [Frame.encode_eq_iff_content_eq, hlayout]
    exact frame.content_eq_iff_isShortest received

/-- A frame received with a padded address, at the limit and behind a rejected one, is sent on
without the padding. -/
theorem padded_frame_can_be_relayed :
    let frame : Frame := ⟨1, ⟨3⟩, [flag]⟩
    let body : Octets := [2, 1, 3, flag]
    let wire := flag :: escape (body ++ Checksum.sequence body) ++ [flag]
    (feed 8 searching ([flag, 1, 2] ++ wire)).2 = [.error (.tooShort 2 6), .ok frame] ∧
      (∀ sink, isRefusal ((Writer.mk 8).send frame sink).1 = false) ∧
      feed 8 searching frame.encode = (inFrame #[], [.ok frame]) ∧ frame.encode ≠ wire := by
  intro frame body wire
  have hverdicts : (feed 8 searching ([flag, 1, 2] ++ wire)).2 =
      [.error (.tooShort 2 6), .ok frame] := by
    decide +kernel
  have hverdict : (feed 8 searching ([flag, 1, 2] ++ wire)).2[1]? = some (.ok frame) := by
    rw [hverdicts]
    rfl
  obtain ⟨_, _, -, -, -, -, -, hsend, -, haccepted, -⟩ :=
    received_frames_can_be_relayed 8 _ hverdict
  refine ⟨hverdicts, hsend, haccepted, ?_⟩
  rw [ne_eq, Frame.encode_eq_iff_content_eq]
  decide +kernel

end Decoder.State

end Hdlc
