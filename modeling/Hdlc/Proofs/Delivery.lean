import Hdlc.Proofs.Resync
import Hdlc.Proofs.Sending
import Hdlc.Decoder.Basic
import Mathlib.Data.List.Forall2

/-!
# Delivery of sent frames

A writer and a decoder at the two ends of a link see no more of each other than the octets that the
sink between them takes. However often sending breaks off, the decoder answers with what the calls
contribute, each in its place: a frame that was handed over is accepted, one that was refused leaves
no trace, and what is left of a broken one is closed by the first flag of the next
(`verdicts_in_call_order`).
-/

namespace Hdlc.Writer

open Decoder.State

/-- What a writer may be asked for. -/
inductive Call
  | send (frame : Frame)
  | sendInformation (address : UInt64) (payload : Octets)
  | flush
  | setLimit (limit : Nat)

def Call.frame? : Call → Option Frame
  | send frame => some frame
  | sendInformation address payload => some (.information address payload)
  | flush => none
  | setLimit _ => none

/-- The answer to a call, and the writer and the sink that it leaves behind. -/
def Call.perform (writer : Writer) (sink : Sink) : Call → Except LinkError Unit × Writer × Sink
  | send frame =>
      let (answer, after) := writer.send frame sink
      (answer, writer, after)
  | sendInformation address payload =>
      let (answer, after) := writer.sendInformation address payload sink
      (answer, writer, after)
  | flush =>
      let (answer, after) := sink.flushAll
      (answer, writer, after)
  | setLimit limit => (.ok (), writer.setLimit limit, sink)

/-- What the caller learns of a call, and whether the sink was asked to flush meanwhile. -/
structure Record where
  call : Call
  answer : Except LinkError Unit
  flushed : Bool

def Call.record (call : Call) (writer : Writer) (sink : Sink) : Record :=
  let (answer, _, after) := call.perform writer sink
  ⟨call, answer, sink.flushCalls < after.flushCalls⟩

/-- Make calls one after the other. -/
def run : List Call → Writer → Sink → List Record × Sink
  | [], _, sink => ([], sink)
  | call :: later, writer, sink =>
      let (_, next, after) := call.perform writer sink
      let (records, last) := run later next after
      (call.record writer sink :: records, last)

namespace Record

/-- A frame that was asked for and not refused as too large keeps within the limit. -/
def Fits (limit : Nat) (record : Record) : Prop :=
  ∀ frame, record.call.frame? = some frame → isRefusal record.answer = false →
    frame.contentSize ≤ limit

/-- The verdicts that the octets of a call may bring about. A frame is handed over where the answer
says so or only flushing failed; otherwise a part of it may be on the wire. -/
def Contributes (record : Record) (verdicts : List Verdict) : Prop :=
  match record.call.frame? with
  | none => verdicts = []
  | some frame =>
      if isRefusal record.answer then verdicts = []
      else if record.answer.isOk || record.flushed then verdicts = [.ok frame]
      else verdicts.length ≤ 1

end Record

/-- The verdicts are what the calls contribute, in the order of the calls. -/
def Explains (records : List Record) (verdicts : List Verdict) : Prop :=
  ∃ parts, List.Forall₂ Record.Contributes records parts ∧ verdicts = parts.flatten

theorem Explains.append {records : List Record} {verdicts part : List Verdict} {record : Record}
    (hexplains : Explains records verdicts) (hpart : record.Contributes part) :
    Explains (records ++ [record]) (verdicts ++ part) := by
  obtain ⟨parts, hparts, rfl⟩ := hexplains
  refine ⟨parts ++ [part], ?_, by simp⟩
  exact List.rel_append hparts (.cons hpart .nil)

/-- The calls explain what a decoder has said of the octets taken so far, and also what it will have
said when a flag has closed them. -/
structure Accounted (limit : Nat) (records : List Record) (taken : Octets) : Prop where
  settled : Explains records (feed limit searching taken).2
  closed : Explains records (feed limit searching (taken ++ [flag])).2

theorem feed_append_flag_append (limit : Nat) (octets rest : Octets) :
    (feed limit searching (octets ++ flag :: rest)).2 =
      (feed limit searching (octets ++ [flag])).2 ++ (feed limit (inFrame #[]) rest).2 := by
  rw [List.append_cons, feed_append, feed_append_flag]

/-- The interior of a frame that keeps within the limit brings about no verdict before a flag. -/
theorem feed_interior {limit : Nat} {frame : Frame} (hlimit : frame.contentSize ≤ limit) :
    (feed limit (inFrame #[]) frame.interior).2 = [] := by
  have hclosed := congrArg Prod.snd (feed_interior_append_flag limit frame)
  rw [feed_append_flag, Frame.verdictWithin_of_le hlimit] at hclosed
  rw [feed_inFrame limit #[] frame.flag_not_mem_interior] at hclosed ⊢
  -- A fault of the interior would be the verdict on the frame.
  cases hcontent : Segment.contentFrom limit 0 (Segment.settled frame.interior) with
  | error reason =>
      simp [hcontent, Segment.standing, closing?] at hclosed
  | ok content => rfl

theorem feed_part_of_interior {limit : Nat} {frame : Frame} {part rest : Octets}
    (hlimit : frame.contentSize ≤ limit) (hinterior : frame.interior = part ++ rest) :
    (feed limit (inFrame #[]) part).2 = [] := by
  have hwhole := feed_interior hlimit
  rw [hinterior, feed_append] at hwhole
  exact (List.append_eq_nil_iff.mp hwhole).1

namespace Accounted

variable {limit : Nat} {records : List Record} {taken : Octets} {record : Record}

theorem nil (limit : Nat) : Accounted limit [] [] :=
  ⟨⟨[], .nil, rfl⟩, ⟨[], .nil, rfl⟩⟩

theorem append_nothing (haccounted : Accounted limit records taken)
    (hpart : record.Contributes []) : Accounted limit (records ++ [record]) taken :=
  ⟨by simpa using haccounted.settled.append hpart, by simpa using haccounted.closed.append hpart⟩

theorem append_encode {frame : Frame} (haccounted : Accounted limit records taken)
    (hlimit : frame.contentSize ≤ limit) (hpart : record.Contributes [.ok frame]) :
    Accounted limit (records ++ [record]) (taken ++ frame.encode) := by
  have hexplains := haccounted.closed.append hpart
  rw [← Frame.verdictWithin_of_le hlimit] at hexplains
  constructor
  · rw [feed_append_of_carries (.encode frame)]
    exact hexplains
  · rw [List.append_assoc, feed_append_of_carries (Carries.encode frame).append_flag]
    exact hexplains

/-- A part of a frame closes what was open before it, and is itself open until the next flag. -/
theorem append_part {frame : Frame} {accepted rest : Octets}
    (haccounted : Accounted limit records taken) (hlimit : frame.contentSize ≤ limit)
    (hwire : frame.encode = accepted ++ rest) (hrest : rest ≠ [])
    (hpart : ∀ part : List Verdict, part.length ≤ 1 → record.Contributes part) :
    Accounted limit (records ++ [record]) (taken ++ accepted) := by
  rcases accepted with _ | ⟨first, part⟩
  · rw [List.append_nil]
    exact haccounted.append_nothing (hpart [] (Nat.zero_le 1))
  rw [frame.encode_eq, List.cons_append, List.cons.injEq] at hwire
  obtain ⟨rfl, hinterior⟩ := hwire
  -- The sink has not taken the flag that ends the frame, so it took a part of the interior.
  obtain hnil | ⟨missing, last, rfl⟩ := rest.eq_nil_or_concat
  · exact absurd hnil hrest
  rw [List.concat_eq_append, ← List.append_assoc, List.append_singleton_inj] at hinterior
  obtain ⟨hinterior, -⟩ := hinterior
  have hsilent := feed_part_of_interior hlimit hinterior
  constructor
  · rw [feed_append_flag_append, hsilent]
    exact haccounted.closed.append (hpart [] (Nat.zero_le 1))
  · rw [List.append_assoc, List.cons_append, feed_append_flag_append]
    refine haccounted.closed.append (hpart _ ?_)
    have hlength := length_feed_append_flag_le limit (inFrame #[]) part
    have hflag : flag ∉ part := fun hmem =>
      frame.flag_not_mem_interior (hinterior ▸ List.mem_append_left missing hmem)
    rwa [List.count_eq_zero_of_not_mem hflag] at hlength

theorem append_sent {call : Call} {frame : Frame} {answer : Except LinkError Unit}
    {sink after : Sink} (haccounted : Accounted limit records sink.taken.toList)
    (hframe : call.frame? = some frame) (hsent : Sent frame sink answer after)
    (hfits : Record.Fits limit ⟨call, answer, sink.flushCalls < after.flushCalls⟩) :
    Accounted limit (records ++ [⟨call, answer, sink.flushCalls < after.flushCalls⟩])
      after.taken.toList := by
  cases hsent with
  | refused size limit =>
      apply haccounted.append_nothing
      simp [Record.Contributes, hframe, isRefusal]
  | brokenOff hanswer hwire hrest htaken hflush =>
      have hflushed : ¬sink.flushCalls < after.flushCalls := by omega
      rw [htaken]
      refine haccounted.append_part (hfits frame hframe hanswer) hwire hrest fun part hpart => ?_
      simpa [Record.Contributes, hframe, hanswer, hflushed, Except.isOk, Except.toBool] using hpart
  | handedOver hanswer htaken hflush =>
      rw [htaken]
      apply haccounted.append_encode (hfits frame hframe hanswer)
      simp [Record.Contributes, hframe, hanswer, hflush]

theorem append_record {sink : Sink} (haccounted : Accounted limit records sink.taken.toList)
    (call : Call) (writer : Writer) (hfits : (call.record writer sink).Fits limit) :
    Accounted limit (records ++ [call.record writer sink])
      (call.perform writer sink).2.2.taken.toList := by
  cases call with
  | send frame =>
      exact haccounted.append_sent rfl (writer.sent_send frame sink) hfits
  | sendInformation address payload =>
      exact haccounted.append_sent rfl (writer.sent_send (.information address payload) sink) hfits
  | flush =>
      have htaken : (Call.flush.perform writer sink).2.2.taken = sink.taken := sink.taken_flushAll
      rw [htaken]
      exact haccounted.append_nothing rfl
  | setLimit changed => exact haccounted.append_nothing rfl

theorem append_run {sink : Sink} (haccounted : Accounted limit records sink.taken.toList)
    (calls : List Call) (writer : Writer)
    (hfits : ∀ record ∈ (run calls writer sink).1, record.Fits limit) :
    Accounted limit (records ++ (run calls writer sink).1)
      (run calls writer sink).2.taken.toList := by
  induction calls generalizing records writer sink with
  | nil =>
      rw [run, List.append_nil]
      exact haccounted
  | cons call later ih =>
      obtain ⟨hcall, hlater⟩ := List.forall_mem_cons.mp hfits
      have hnext := ih (haccounted.append_record call writer hcall) _ hlater
      rwa [List.append_assoc] at hnext

end Accounted

theorem map_call_run (calls : List Call) (writer : Writer) (sink : Sink) :
    (run calls writer sink).1.map Record.call = calls := by
  induction calls generalizing writer sink with
  | nil => rfl
  | cons call later ih => exact congrArg (call :: ·) (ih _ _)

theorem fits_of_calls {calls : List Call} {writer : Writer} {sink : Sink} {limit : Nat}
    (hlimit : ∀ call ∈ calls, ∀ frame, call.frame? = some frame → frame.contentSize ≤ limit) :
    ∀ record ∈ (run calls writer sink).1, record.Fits limit := by
  intro record hrecord frame hframe _
  have hcall : record.call ∈ (run calls writer sink).1.map Record.call :=
    List.mem_map_of_mem hrecord
  rw [map_call_run] at hcall
  exact hlimit record.call hcall frame hframe

/-- What a fresh decoder makes of the octets that the calls got through is what the calls
contribute, in the order of the calls, whatever the sink answered. The decoder's limit has to admit
the frames that the writer did not refuse. -/
theorem verdicts_in_call_order (calls : List Call) (writer : Writer)
    (writes : List (Except Failure Nat)) (flushes : List (Except Failure Unit)) (limit : Nat)
    (hfits : ∀ record ∈ (run calls writer { writes, flushes }).1, record.Fits limit) :
    let made := run calls writer { writes, flushes }
    made.1.map Record.call = calls ∧
      Explains made.1 (({ limit } : Decoder).feed made.2.taken.toList).verdicts := by
  refine ⟨map_call_run calls writer _, ?_⟩
  have hnothing : Accounted limit [] ({ writes, flushes } : Sink).taken.toList := .nil limit
  rw [Decoder.feed_verdicts]
  exact (hnothing.append_run calls writer hfits).settled

/-- Writing breaks off in the first frame, and flushing fails behind the second. -/
theorem verdicts_behind_broken_frame :
    let calls : List Call :=
      [.send ⟨62, ⟨3⟩, [flag, 1]⟩, .sendInformation 1 [escapeMark], .setLimit 7, .flush]
    let made := run calls { limit := 8 }
      { writes := [.ok 3, .error (.ofKind .brokenPipe), .ok 1, .error (.ofKind .interrupted)],
        flushes := [.error (.ofKind .timedOut)] }
    made.1.map Record.call = calls ∧
      Explains made.1 (({ limit := 8 } : Decoder).feed made.2.taken.toList).verdicts := by
  intro calls made
  refine verdicts_in_call_order calls _ _ _ 8 (fits_of_calls fun call hcall frame hframe => ?_)
  simp only [calls, List.mem_cons, List.not_mem_nil, or_false] at hcall
  rcases hcall with rfl | rfl | rfl | rfl
  · cases hframe
    simp [Frame.contentSize, Address.size, Address.encode, Address.encodeGroups_of_lt,
      Checksum.size]
  · cases hframe
    simp [Frame.contentSize, Frame.information, Address.size, Address.encode,
      Address.encodeGroups_of_lt, Checksum.size]
  · cases hframe
  · cases hframe

end Hdlc.Writer
