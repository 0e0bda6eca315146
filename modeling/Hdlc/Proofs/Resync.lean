import Hdlc.Proofs.RoundTrip

/-!
# Resynchronization

Whatever a decoder has met, the next flag opens a frame. Noise before intact frames therefore costs
none of them: it brings about what it would bring about before a single flag, and the frames follow
(`feed_append_of_carries`). What noise can bring about is bounded as well: a verdict settles an open
frame, and only a flag opens one, so there is at most one verdict for each flag and one for the
frame that was open before (`length_feed_append_flag_le`).
-/

namespace Hdlc.Decoder.State

/-- The number of open frames, none of which has had its verdict. -/
def openFrames : State → Nat
  | searching => 0
  | inFrame _ => 1
  | escaping _ => 1

theorem gather_openFrames (limit : Nat) (content : Array UInt8) (octet : UInt8) :
    (gather limit content octet).2.toList.length + (gather limit content octet).1.openFrames =
      1 := by
  by_cases hfull : limit ≤ content.size
  · simp [gather, hfull, openFrames]
  · simp [gather, hfull, openFrames]

theorem openFrames_le_one (state : State) : state.openFrames ≤ 1 := by
  cases state <;> simp [openFrames]

theorem length_closing?_le (state : State) : state.closing?.toList.length ≤ state.openFrames := by
  cases state with
  | searching => exact Nat.le_refl _
  | inFrame content =>
      by_cases hempty : content.isEmpty
      · simp [closing?, openFrames, hempty]
      · simp [closing?, openFrames, hempty]
  | escaping content => exact Nat.le_refl _

/-- An octet other than a flag settles a frame only by taking it away. -/
theorem step_openFrames_of_ne_flag (limit : Nat) (state : State) {octet : UInt8}
    (hflag : octet ≠ flag) :
    (state.step limit octet).2.toList.length + (state.step limit octet).1.openFrames =
      state.openFrames := by
  cases state with
  | searching => simp [step, openFrames, hflag]
  | inFrame content =>
      by_cases hmark : octet = escapeMark
      · subst hmark
        rfl
      · rw [step, if_neg hflag, if_neg hmark]
        exact gather_openFrames limit content octet
  | escaping content =>
      rw [step]
      cases unescapeOctet octet with
      | ok plain => exact gather_openFrames limit content plain
      | error reason => simp [openFrames, hflag]

/-- A verdict takes an open frame away, and only a flag adds one. -/
theorem step_openFrames (limit : Nat) (state : State) (octet : UInt8) :
    (state.step limit octet).2.toList.length + (state.step limit octet).1.openFrames ≤
      state.openFrames + [octet].count flag := by
  by_cases hflag : octet = flag
  · subst hflag
    rw [step_flag, List.count_singleton_self]
    exact Nat.add_le_add_right state.length_closing?_le 1
  · rw [step_openFrames_of_ne_flag limit state hflag]
    exact Nat.le_add_right _ _

/-- The verdicts on a stream settle frames that were open before or that its flags open. -/
theorem length_feed_le (limit : Nat) (state : State) (octets : Octets) :
    (feed limit state octets).2.length + (feed limit state octets).1.openFrames ≤
      state.openFrames + octets.count flag := by
  induction octets generalizing state with
  | nil => simp
  | cons octet rest ih =>
      have hstep := step_openFrames limit state octet
      have hrest := ih (state.step limit octet).1
      have hcount : (octet :: rest).count flag = [octet].count flag + rest.count flag := by
        rw [← List.singleton_append, List.count_append]
      rw [feed_cons, hcount, List.length_append]
      dsimp only
      omega

/-- Noise and a flag bring about at most one verdict more than the noise has flags. -/
theorem length_feed_append_flag_le (limit : Nat) (state : State) (noise : Octets) :
    (feed limit state (noise ++ [flag])).2.length ≤ noise.count flag + 1 := by
  have hlength := length_feed_le limit state (noise ++ [flag])
  have hopen := state.openFrames_le_one
  rw [feed_append_flag, openFrames, List.count_append, List.count_singleton_self] at hlength
  rw [feed_append_flag]
  omega

/-- Noise before a stream of frames brings about what it would before a single flag. -/
theorem feed_append_of_carries {frames : List Frame} {wire : Octets}
    (hcarries : Carries frames wire) (limit : Nat) (state : State) (noise : Octets) :
    feed limit state (noise ++ wire) =
      (inFrame #[], (feed limit state (noise ++ [flag])).2 ++
        frames.map (Frame.verdictWithin limit)) := by
  rw [feed_append, feed_of_carries hcarries, feed_append_flag, List.append_assoc]

theorem map_verdictWithin {limit : Nat} {frames : List Frame}
    (hlimit : ∀ frame ∈ frames, frame.contentSize ≤ limit) :
    frames.map (Frame.verdictWithin limit) = frames.map .ok :=
  List.map_congr_left fun frame hframe => Frame.verdictWithin_of_le (hlimit frame hframe)

theorem feed_append_flatMap_encode {limit : Nat} {frames : List Frame} (hframes : frames ≠ [])
    (hlimit : ∀ frame ∈ frames, frame.contentSize ≤ limit) (state : State) (noise : Octets) :
    feed limit state (noise ++ frames.flatMap Frame.encode) =
      (inFrame #[], (feed limit state (noise ++ [flag])).2 ++ frames.map .ok) := by
  rw [feed_append_of_carries (Carries.flatMap_encode hframes), map_verdictWithin hlimit]

/-- It takes a frame behind noise to close it: where nothing follows, the noise stays open. -/
theorem noise_alone_stays_open :
    ¬∀ (limit : Nat) (state : State) (noise : Octets) (frames : List Frame),
      (∀ frame ∈ frames, frame.contentSize ≤ limit) →
        feed limit state (noise ++ frames.flatMap Frame.encode) =
          (inFrame #[], (feed limit state (noise ++ [flag])).2 ++ frames.map .ok) := by
  intro hconfined
  have hstate := congrArg Prod.fst (hconfined Frame.defaultLimit searching [flag, 1] [] (by simp))
  exact absurd hstate (by decide)

theorem feed_flatMap_encode {limit : Nat} {frames : List Frame}
    (hlimit : ∀ frame ∈ frames, frame.contentSize ≤ limit) :
    (feed limit searching (frames.flatMap Frame.encode)).2 = frames.map .ok := by
  by_cases hframes : frames = []
  · subst hframes
    rfl
  · rw [← List.nil_append (frames.flatMap _), feed_append_flatMap_encode hframes hlimit]
    rfl

theorem exists_feed_noise {limit : Nat} {frames : List Frame}
    (hlimit : ∀ frame ∈ frames, frame.contentSize ≤ limit) (state : State) (noise : Octets) :
    ∃ verdicts : List Verdict, verdicts.length ≤ noise.count flag + 1 ∧
      (feed limit state (noise ++ frames.flatMap Frame.encode)).2 =
        verdicts ++ frames.map .ok := by
  -- Without a frame behind it, the noise is not closed and brings about fewer verdicts still.
  by_cases hframes : frames = []
  · subst hframes
    refine ⟨(feed limit state noise).2, ?_, by simp⟩
    have hlength := length_feed_le limit state noise
    have hopen := state.openFrames_le_one
    omega
  · refine ⟨_, length_feed_append_flag_le limit state noise, ?_⟩
    rw [feed_append_flatMap_encode hframes hlimit]

/-- Noise is confined to its place. Before intact frames it brings about what it would before a
single flag, which is at most one verdict more than it has flags; and where it stands in for frames
in the middle of a stream, those before and behind it are accepted all the same. -/
theorem noise_is_confined (limit : Nat) :
    (∀ (state : State) (noise : Octets) (frames : List Frame), frames ≠ [] →
      (∀ frame ∈ frames, frame.contentSize ≤ limit) →
        feed limit state (noise ++ frames.flatMap Frame.encode) =
          (inFrame #[], (feed limit state (noise ++ [flag])).2 ++ frames.map .ok)) ∧
    (∀ (state : State) (noise : Octets),
      (feed limit state (noise ++ [flag])).2.length ≤ noise.count flag + 1) ∧
    (∀ (before after : List Frame) (edited : Octets),
      (∀ frame ∈ before ++ after, frame.contentSize ≤ limit) →
        ∃ verdicts : List Verdict, verdicts.length ≤ edited.count flag + 1 ∧
          (feed limit searching (before.flatMap Frame.encode ++ edited ++
            after.flatMap Frame.encode)).2 = before.map .ok ++ verdicts ++ after.map .ok) := by
  refine ⟨fun state noise frames hframes hlimit =>
      feed_append_flatMap_encode hframes hlimit state noise,
    length_feed_append_flag_le limit, ?_⟩
  intro before after edited hlimit
  obtain ⟨hbefore, hafter⟩ := List.forall_mem_append.mp hlimit
  obtain ⟨verdicts, hlength, hverdicts⟩ :=
    exists_feed_noise hafter (feed limit searching (before.flatMap Frame.encode)).1 edited
  refine ⟨verdicts, hlength, ?_⟩
  rw [List.append_assoc, feed_append, feed_flatMap_encode hbefore, hverdicts, List.append_assoc]

/-- An escape mark before a frame takes nothing from it, nor does a damaged frame between two. -/
theorem noise_is_confined_to_escape :
    let frame : Frame := ⟨1, ⟨3⟩, [flag]⟩
    feed 8 (escaping #[1]) ([0x5E, escapeMark] ++ [frame].flatMap Frame.encode) =
        (inFrame #[], [.error .malformedEscape, .ok frame]) ∧
      (feed 8 (escaping #[1]) ([0x5E, escapeMark] ++ [flag])).2.length ≤ 1 ∧
      ∃ verdicts : List Verdict, verdicts.length ≤ 2 ∧
        (feed 8 searching ([frame].flatMap Frame.encode ++ [1, flag, escapeMark] ++
          [frame].flatMap Frame.encode)).2 = [.ok frame] ++ verdicts ++ [.ok frame] := by
  intro frame
  have hsize : frame.contentSize ≤ 8 := by
    simp [frame, Frame.contentSize, Address.size, Address.encode, Address.encodeGroups_of_lt,
      Checksum.size]
  obtain ⟨hbehind, hbound, hedited⟩ := noise_is_confined 8
  refine ⟨hbehind _ _ [frame] (List.cons_ne_nil _ _) ?_, hbound _ _, ?_⟩
  · simpa using hsize
  · exact hedited [frame] [frame] [1, flag, escapeMark] (by simpa using hsize)

end Hdlc.Decoder.State
