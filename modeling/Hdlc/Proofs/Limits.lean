import Hdlc.Command.Encoding
import Hdlc.Proofs.RoundTrip
import Hdlc.Proofs.Sending
import Hdlc.Stream.Codec
import Mathlib.Tactic.TFAE

/-!
# Limits at both ends

A limit bounds the content of a frame wherever it is applied. Senders measure a frame before they
send it and go by its size alone; a receiver counts octets as it restores them. Nevertheless they
draw the same line, so that whatever is sent under a limit is accepted under it, and whatever is
refused would have been rejected (`size_limits_agree`).
-/

namespace Hdlc

open Decoder.State

/-! ## Encoding as a command -/

namespace Command.EncodeOptions

/-- The options, among the given files, call for a frame to be encoded. -/
def CallsFor (options : EncodeOptions) (files : Files) (frame : Frame) : Prop :=
  (options.findPayload files.read).map options.frame = .ok frame

variable {options : EncodeOptions} {files : Files} {frame : Frame}

theorem exists_payload_of_callsFor (hcalls : options.CallsFor files frame) :
    ∃ payload, options.findPayload files.read = .ok payload ∧ options.frame payload = frame := by
  cases hpayload : options.findPayload files.read with
  | error abort =>
      rw [CallsFor, hpayload] at hcalls
      cases hcalls
  | ok payload =>
      rw [CallsFor, hpayload] at hcalls
      exact ⟨payload, rfl, Except.ok.inj hcalls⟩

/-- What a command is broken off with where the limit does not admit a frame. -/
def limitAbort (limit : Nat) (frame : Frame) : Abort :=
  ⟨.dataInvalid, "encode failed: " ++ (LinkError.tooLarge frame.contentSize limit).message⟩

theorem wireForm_of_le {limit : Nat} (hlimit : frame.contentSize ≤ limit) :
    wireForm limit frame = .ok frame.encode := by
  rw [wireForm, Frame.encodeWithin_of_le hlimit]
  rfl

theorem wireForm_of_lt {limit : Nat} (hlimit : limit < frame.contentSize) :
    wireForm limit frame = .error (limitAbort limit frame) := by
  rw [wireForm, Frame.encodeWithin_of_lt hlimit]
  rfl

theorem run_of_lt (hcalls : options.CallsFor files frame)
    (hlimit : options.limit < frame.contentSize) (format : Format) :
    options.run format files = .ofAbort files (limitAbort options.limit frame) := by
  obtain ⟨payload, hpayload, hframe⟩ := exists_payload_of_callsFor hcalls
  simp only [run, hpayload, hframe, wireForm_of_lt hlimit, bind, Except.bind]

/-- Raw output without an output file is the wire form itself. -/
theorem run_raw_of_le (hcalls : options.CallsFor files frame)
    (hlimit : frame.contentSize ≤ options.limit) (houtput : options.output = none) :
    options.run .raw files = ⟨.success, frame.encode, none, [], files⟩ := by
  obtain ⟨payload, hpayload, hframe⟩ := exists_payload_of_callsFor hcalls
  simp only [run, hpayload, hframe, wireForm_of_le hlimit, bind, Except.bind, houtput, notices]
  simp [stdout, houtput, Format.showEncoded]

end Command.EncodeOptions

open Command

/-! ## Both ends -/

theorem Frame.isOk_encodeWithin_iff {limit : Nat} {frame : Frame} :
    (frame.encodeWithin limit).isOk ↔ frame.contentSize ≤ limit := by
  rw [← Nat.not_lt, encodeWithin]
  split
  next hlimit => simp [hlimit, Except.isOk, Except.toBool]
  next hlimit => simp [hlimit, Except.isOk, Except.toBool]

theorem Frame.verdictWithin_eq_ok_iff {limit : Nat} {frame : Frame} :
    frame.verdictWithin limit = .ok frame ↔ frame.contentSize ≤ limit := by
  rw [verdictWithin]
  split
  next hlimit => simp [hlimit]
  next hlimit => simp [hlimit]

theorem Writer.send_eq_ok_iff {writer : Writer} {frame : Frame} {sink : Sink}
    (haccepting : sink.Accepting) :
    (writer.send frame sink).1 = .ok () ↔ frame.contentSize ≤ writer.limit := by
  constructor
  · intro hsent
    apply Nat.le_of_not_lt
    intro hlimit
    rw [send_of_lt hlimit] at hsent
    cases hsent
  · intro hlimit
    exact (send_of_accepting hlimit haccepting).1

theorem Codec.isOk_encode_iff {codec : Codec} {frame : Frame} {sent : Octets} :
    (codec.encode frame sent).isOk ↔ frame.contentSize ≤ codec.limit := by
  rw [← Frame.isOk_encodeWithin_iff, encode]
  cases frame.encodeWithin codec.limit <;> rfl

theorem Command.EncodeOptions.isOk_wireForm_iff {limit : Nat} {frame : Frame} :
    (wireForm limit frame).isOk ↔ frame.contentSize ≤ limit := by
  rw [← Frame.isOk_encodeWithin_iff, wireForm]
  cases frame.encodeWithin limit <;> rfl

/-- Whoever sends a frame and whoever receives it draw the same line. Within the limit, a writer, a
codec and the command all bring out its wire form and nothing else, and it is accepted. Beyond the
limit they refuse it for the same reason and bring out nothing, and it is rejected as too long. -/
theorem size_limits_agree (frame : Frame) {limit : Nat} {sink : Sink}
    (haccepting : sink.Accepting) {codec : Codec} (hcodec : codec.limit = limit)
    (sent : Octets) :
    let sending := (Writer.mk limit).send frame sink
    let appending := codec.encode frame sent
    let sealing := EncodeOptions.wireForm limit frame
    let verdicts := (feed limit searching frame.encode).2
    [frame.contentSize ≤ limit, sending.1 = .ok (), appending.isOk, sealing.isOk,
        verdicts = [.ok frame]].TFAE ∧
      (frame.contentSize ≤ limit →
        sending.2.taken.toList = sink.taken.toList ++ frame.encode ∧
        appending = .ok (sent ++ frame.encode) ∧
        sealing = .ok frame.encode ∧
        ∀ (options : EncodeOptions) (files : Files), options.limit = limit →
          options.output = none → options.CallsFor files frame →
            options.run .raw files = ⟨.success, frame.encode, none, [], files⟩) ∧
      (limit < frame.contentSize →
        sending = (.error (.tooLarge frame.contentSize limit), sink) ∧
        appending = .error (.tooLarge frame.contentSize limit) ∧
        (∃ abort, sealing = .error abort ∧ abort.exit.code = 60 ∧ abort.message =
          "encode failed: " ++ (LinkError.tooLarge frame.contentSize limit).message ∧
          ∀ (options : EncodeOptions) (format : Format) (files : Files), options.limit = limit →
            options.CallsFor files frame → options.run format files = .ofAbort files abort) ∧
        verdicts = [.error (.tooLong limit)]) := by
  subst hcodec
  intro sending appending sealing verdicts
  have hverdicts : verdicts = [frame.verdictWithin codec.limit] :=
    congrArg Prod.snd (feed_encode codec.limit frame)
  refine ⟨?_, ?_, ?_⟩
  · tfae_have 2 ↔ 1 := Writer.send_eq_ok_iff haccepting
    tfae_have 3 ↔ 1 := Codec.isOk_encode_iff
    tfae_have 4 ↔ 1 := EncodeOptions.isOk_wireForm_iff
    tfae_have 5 ↔ 1 := by
      rw [hverdicts, List.singleton_inj]
      exact Frame.verdictWithin_eq_ok_iff
    tfae_finish
  · intro hlimit
    refine ⟨(Writer.send_of_accepting hlimit haccepting).2, Codec.encode_of_le hlimit sent,
      EncodeOptions.wireForm_of_le hlimit, ?_⟩
    intro options files hlimits houtput hcalls
    rw [← hlimits] at hlimit
    exact EncodeOptions.run_raw_of_le hcalls hlimit houtput
  · intro hlimit
    refine ⟨Writer.send_of_lt hlimit sink, Codec.encode_of_lt hlimit sent,
      ⟨_, EncodeOptions.wireForm_of_lt hlimit, rfl, rfl, ?_⟩, ?_⟩
    · intro options format files hlimits hcalls
      rw [← hlimits] at hlimit ⊢
      exact EncodeOptions.run_of_lt hcalls hlimit format
    · rw [hverdicts, Frame.verdictWithin_of_lt hlimit]

/-- A frame that a sink takes in portions, at the least limit that admits it and just below. -/
theorem size_limits_agree_at_boundary :
    let frame : Frame := ⟨1, ⟨3⟩, [flag]⟩
    let sink : Sink :=
      { writes := [.ok 1, .error (.ofKind .interrupted), .ok 3]
        flushes := [.error (.ofKind .wouldBlock)]
        taken := #[5] }
    sink.Accepting ∧ ((Writer.mk 7).send frame sink).1 = .ok () ∧
      ((Writer.mk 7).send frame sink).2.taken.toList = 5 :: frame.encode ∧
      (Codec.withLimit 7).encode frame [5] = .ok (5 :: frame.encode) ∧
      (feed 7 searching frame.encode).2 = [.ok frame] ∧
      (Writer.mk 6).send frame sink = (.error (.tooLarge 7 6), sink) ∧
      (Codec.withLimit 6).encode frame [5] = .error (.tooLarge 7 6) ∧
      (feed 6 searching frame.encode).2 = [.error (.tooLong 6)] := by
  intro frame sink
  have haccepting : sink.Accepting := by
    constructor <;> decide
  have hsize : frame.contentSize = 7 := by
    simp [frame, Frame.contentSize, Address.size, Address.encode, Address.encodeGroups_of_lt,
      Checksum.size]
  obtain ⟨hagree, hwithin, -⟩ :=
    size_limits_agree frame haccepting (rfl : (Codec.withLimit 7).limit = 7) [5]
  obtain ⟨-, -, hbeyond⟩ :=
    size_limits_agree frame haccepting (rfl : (Codec.withLimit 6).limit = 6) [5]
  obtain ⟨htaken, happending, -⟩ := hwithin (Nat.le_of_eq hsize)
  obtain ⟨hrefused, hdropped, -, hrejected⟩ := hbeyond (Nat.lt_of_lt_of_eq (by decide) hsize.symm)
  rw [hsize] at hrefused hdropped
  exact ⟨haccepting, (hagree.out 0 1).mp (Nat.le_of_eq hsize), htaken, happending,
    (hagree.out 0 4).mp (Nat.le_of_eq hsize), hrefused, hdropped, hrejected⟩

end Hdlc
