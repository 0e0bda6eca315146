import Hdlc.Stream.Writer

/-!
# Sending a frame

A sink may take what it is offered in any portions and fail at any point. Sending a frame through it
ends in one of three ways: the frame is refused before the sink is asked for anything, writing
breaks off behind part of its wire form, or the sink takes all of it and is asked to flush
(`sent_send`). A sink that accepts whatever it is offered takes every frame that is not refused
(`send_of_accepting`).
-/

namespace Hdlc

namespace Failure

/-- A failure that is not mended by trying again: neither an interruption nor a lack of room. -/
def IsLasting (failure : Failure) : Prop :=
  failure.kind ≠ .interrupted ∧ failure.kind ≠ .wouldBlock

instance : DecidablePred IsLasting := fun _ => inferInstanceAs (Decidable (_ ∧ _))

theorem not_isTransient_iff {failure : Failure} :
    ¬failure.isTransient = true ↔ failure.IsLasting := by
  simp [isTransient, IsLasting]

theorem isTransient_iff {failure : Failure} :
    failure.isTransient = true ↔ ¬failure.IsLasting := by
  rw [← not_isTransient_iff, Decidable.not_not]

end Failure

/-- Whether an answer refuses a frame as too large. -/
def isRefusal : Except LinkError Unit → Bool
  | .error (.tooLarge _ _) => true
  | _ => false

namespace Sink

@[simp]
theorem flushCalls_write (offered : Octets) (sink : Sink) :
    (sink.write offered).2.flushCalls = sink.flushCalls := by
  obtain ⟨_ | ⟨_ | _, _⟩, _, _, _, _⟩ := sink <;> rfl

@[simp]
theorem flushCalls_flush (sink : Sink) : sink.flush.2.flushCalls = sink.flushCalls + 1 := by
  obtain ⟨_, _ | ⟨_, _⟩, _, _, _⟩ := sink <;> rfl

theorem flushCalls_writeAll (octets : Octets) (sink : Sink) :
    (sink.writeAll octets).2.flushCalls = sink.flushCalls := by
  fun_induction writeAll octets sink with
  | case1 sink => rfl
  | case2 octets sink _ writing _ => exact flushCalls_write octets sink
  | case3 octets sink _ writing taken _ ih =>
      rw [ih]
      exact flushCalls_write octets sink
  | case4 octets sink _ writing failure _ _ ih =>
      rw [ih]
      exact flushCalls_write octets sink
  | case5 octets sink _ writing failure _ _ => exact flushCalls_write octets sink

theorem isRefusal_writeAll (octets : Octets) (sink : Sink) :
    isRefusal (sink.writeAll octets).1 = false := by
  fun_induction writeAll octets sink with
  | case1 sink => rfl
  | case2 octets sink _ writing _ => rfl
  | case3 octets sink _ writing taken _ ih => exact ih
  | case4 octets sink _ writing failure _ _ ih => exact ih
  | case5 octets sink _ writing failure _ _ => rfl

theorem toList_taken_of_write_ok {offered : Octets} {sink : Sink} {count : Nat}
    (hanswer : (sink.write offered).1 = .ok count) :
    (sink.write offered).2.taken.toList = sink.taken.toList ++ offered.take count := by
  rw [toList_taken_write, hanswer]
  rfl

theorem taken_of_write_error {offered : Octets} {sink : Sink} {failure : Failure}
    (hanswer : (sink.write offered).1 = .error failure) :
    (sink.write offered).2.taken = sink.taken := by
  rw [← Array.toList_inj, toList_taken_write, hanswer]
  exact List.append_nil _

/-- What a sink takes of the octets offered to it is the front of them, and it takes all of them
exactly where writing succeeds. -/
theorem taken_writeAll (octets : Octets) (sink : Sink) :
    ∃ accepted rest, octets = accepted ++ rest ∧
      (sink.writeAll octets).2.taken.toList = sink.taken.toList ++ accepted ∧
      ((sink.writeAll octets).1 = .ok () ↔ rest = []) := by
  fun_induction writeAll octets sink with
  | case1 sink => exact ⟨[], [], rfl, by simp, by simp⟩
  | case2 octets sink hoctets writing hanswer =>
      refine ⟨[], octets, rfl, ?_, by simp [hoctets]⟩
      rw [toList_taken_of_write_ok hanswer, List.take_zero]
  | case3 octets sink _ writing taken hanswer ih =>
      obtain ⟨accepted, rest, hsplit, hlater, hall⟩ := ih
      refine ⟨octets.take (taken + 1) ++ accepted, rest, ?_, ?_, hall⟩
      · rw [List.append_assoc, ← hsplit, List.take_append_drop]
      · rw [hlater, toList_taken_of_write_ok hanswer, List.append_assoc]
  | case4 octets sink _ writing failure hanswer _ ih =>
      obtain ⟨accepted, rest, hsplit, hlater, hall⟩ := ih
      refine ⟨accepted, rest, hsplit, ?_, hall⟩
      rw [hlater, taken_of_write_error hanswer]
  | case5 octets sink hoctets writing failure hanswer _ =>
      refine ⟨[], octets, rfl, ?_, by simp [hoctets]⟩
      rw [taken_of_write_error hanswer, List.append_nil]

theorem taken_flushAll (sink : Sink) : sink.flushAll.2.taken = sink.taken := by
  fun_induction flushAll sink with
  | case1 sink flushing _ => exact taken_flush sink
  | case2 sink flushing failure _ _ ih =>
      rw [ih]
      exact taken_flush sink
  | case3 sink flushing failure _ _ => exact taken_flush sink

theorem flushCalls_lt_flushAll (sink : Sink) : sink.flushCalls < sink.flushAll.2.flushCalls := by
  fun_induction flushAll sink with
  | case1 sink flushing _ =>
      exact Nat.lt_of_lt_of_eq (Nat.lt_succ_self _) sink.flushCalls_flush.symm
  | case2 sink flushing failure _ _ ih =>
      have hcalls : flushing.2.flushCalls = sink.flushCalls + 1 := sink.flushCalls_flush
      omega
  | case3 sink flushing failure _ _ =>
      exact Nat.lt_of_lt_of_eq (Nat.lt_succ_self _) sink.flushCalls_flush.symm

theorem isRefusal_flushAll (sink : Sink) : isRefusal sink.flushAll.1 = false := by
  fun_induction flushAll sink with
  | case1 sink flushing _ => rfl
  | case2 sink flushing failure _ _ ih => exact ih
  | case3 sink flushing failure _ _ => rfl

/-! ## Accepting sinks -/

/-- An answer to a write that takes some octets, or asks for the write to be tried again. -/
def isTaking : Except Failure Nat → Bool
  | .ok ready => 0 < ready
  | .error failure => ¬failure.IsLasting

/-- An answer to a flush that it is done, or is to be tried again. -/
def isPassingOn : Except Failure Unit → Bool
  | .ok () => true
  | .error failure => ¬failure.IsLasting

/-- A sink that accepts whatever it is offered, in whichever portions. -/
structure Accepting (sink : Sink) : Prop where
  writes : ∀ answer ∈ sink.writes, isTaking answer
  flushes : ∀ answer ∈ sink.flushes, isPassingOn answer

namespace Accepting

theorem write {sink : Sink} (haccepting : sink.Accepting) {offered : Octets}
    (hoffered : offered ≠ []) :
    isTaking (sink.write offered).1 ∧ (sink.write offered).2.Accepting := by
  have hlength := List.length_pos_iff.mpr hoffered
  obtain ⟨writes, flushes, taken, writeCalls, flushCalls⟩ := sink
  obtain ⟨hwrites, hflushes⟩ := haccepting
  cases writes with
  | nil => exact ⟨decide_eq_true hlength, List.forall_mem_nil _, hflushes⟩
  | cons answer later =>
      obtain ⟨hanswer, hlater⟩ := List.forall_mem_cons.mp hwrites
      cases answer with
      | error failure => exact ⟨hanswer, hlater, hflushes⟩
      | ok ready =>
          have hready : 0 < ready := of_decide_eq_true hanswer
          refine ⟨decide_eq_true ?_, hlater, hflushes⟩
          rw [List.length_take]
          exact Nat.lt_min.mpr ⟨hready, hlength⟩

theorem writeAll {sink : Sink} (haccepting : sink.Accepting) (octets : Octets) :
    (sink.writeAll octets).1 = .ok () ∧ (sink.writeAll octets).2.Accepting := by
  fun_induction Sink.writeAll octets sink with
  | case1 sink => exact ⟨rfl, haccepting⟩
  | case2 octets sink hoctets writing hanswer =>
      have htaking := (haccepting.write hoctets).1
      rw [hanswer] at htaking
      cases htaking
  | case3 octets sink hoctets writing taken _ ih => exact ih (haccepting.write hoctets).2
  | case4 octets sink hoctets writing failure _ _ ih => exact ih (haccepting.write hoctets).2
  | case5 octets sink hoctets writing failure hanswer hlasting =>
      have htaking := (haccepting.write hoctets).1
      rw [hanswer] at htaking
      exact absurd (Failure.not_isTransient_iff.mp hlasting) (of_decide_eq_true htaking)

theorem flush {sink : Sink} (haccepting : sink.Accepting) :
    isPassingOn sink.flush.1 ∧ sink.flush.2.Accepting := by
  obtain ⟨writes, flushes, taken, writeCalls, flushCalls⟩ := sink
  obtain ⟨hwrites, hflushes⟩ := haccepting
  cases flushes with
  | nil => exact ⟨rfl, hwrites, hflushes⟩
  | cons answer later =>
      obtain ⟨hanswer, hlater⟩ := List.forall_mem_cons.mp hflushes
      exact ⟨hanswer, hwrites, hlater⟩

theorem flushAll {sink : Sink} (haccepting : sink.Accepting) : sink.flushAll.1 = .ok () := by
  fun_induction Sink.flushAll sink with
  | case1 sink flushing _ => rfl
  | case2 sink flushing failure _ _ ih => exact ih haccepting.flush.2
  | case3 sink flushing failure hanswer hlasting =>
      have hpassing := haccepting.flush.1
      rw [hanswer] at hpassing
      exact absurd (Failure.not_isTransient_iff.mp hlasting) (of_decide_eq_true hpassing)

end Accepting

end Sink

namespace Writer

/-- The ways in which sending a frame can end, with the answer and the sink it leaves behind. -/
inductive Sent (frame : Frame) (sink : Sink) : Except LinkError Unit → Sink → Prop
  | refused (size limit : Nat) : Sent frame sink (.error (.tooLarge size limit)) sink
  | brokenOff {error : LinkError} {after : Sink} {accepted rest : Octets}
      (hanswer : isRefusal (.error error) = false)
      (hwire : frame.encode = accepted ++ rest) (hrest : rest ≠ [])
      (htaken : after.taken.toList = sink.taken.toList ++ accepted)
      (hflush : after.flushCalls = sink.flushCalls) : Sent frame sink (.error error) after
  | handedOver {answer : Except LinkError Unit} {after : Sink}
      (hanswer : isRefusal answer = false)
      (htaken : after.taken.toList = sink.taken.toList ++ frame.encode)
      (hflush : sink.flushCalls < after.flushCalls) : Sent frame sink answer after

theorem send_of_lt {writer : Writer} {frame : Frame} (hlimit : writer.limit < frame.contentSize)
    (sink : Sink) :
    writer.send frame sink = (.error (.tooLarge frame.contentSize writer.limit), sink) := by
  rw [send, Frame.encodeWithin_of_lt hlimit]

theorem send_of_writeAll_error {writer : Writer} {frame : Frame} {sink after : Sink}
    {error : LinkError} (hlimit : frame.contentSize ≤ writer.limit)
    (hwriting : sink.writeAll frame.encode = (.error error, after)) :
    writer.send frame sink = (.error error, after) := by
  simp only [send, Frame.encodeWithin_of_le hlimit, hwriting]

theorem send_of_writeAll_ok {writer : Writer} {frame : Frame} {sink after : Sink}
    (hlimit : frame.contentSize ≤ writer.limit)
    (hwriting : sink.writeAll frame.encode = (.ok (), after)) :
    writer.send frame sink = after.flushAll := by
  simp only [send, Frame.encodeWithin_of_le hlimit, hwriting]

theorem isRefusal_send {writer : Writer} {frame : Frame}
    (hlimit : frame.contentSize ≤ writer.limit) (sink : Sink) :
    isRefusal (writer.send frame sink).1 = false := by
  have hanswer := sink.isRefusal_writeAll frame.encode
  rcases hwriting : sink.writeAll frame.encode with ⟨error | _, after⟩
  · rw [send_of_writeAll_error hlimit hwriting]
    rwa [hwriting] at hanswer
  · rw [send_of_writeAll_ok hlimit hwriting]
    exact after.isRefusal_flushAll

theorem sent_send (writer : Writer) (frame : Frame) (sink : Sink) :
    Sent frame sink (writer.send frame sink).1 (writer.send frame sink).2 := by
  rcases Nat.lt_or_ge writer.limit frame.contentSize with hlimit | hlimit
  · rw [send_of_lt hlimit]
    exact .refused _ _
  obtain ⟨accepted, rest, hwire, htaken, hall⟩ := sink.taken_writeAll frame.encode
  have hcalls := sink.flushCalls_writeAll frame.encode
  have hanswer := sink.isRefusal_writeAll frame.encode
  rcases hwriting : sink.writeAll frame.encode with ⟨error | _, after⟩
  · rw [hwriting] at htaken hall hcalls hanswer
    rw [send_of_writeAll_error hlimit hwriting]
    -- Where writing fails, the closing flag at least was not taken.
    have hrest : rest ≠ [] := by simpa using hall
    exact .brokenOff hanswer hwire hrest htaken hcalls
  · rw [hwriting] at htaken hall hcalls
    rw [send_of_writeAll_ok hlimit hwriting]
    have hrest : rest = [] := hall.mp rfl
    subst hrest
    rw [List.append_nil] at hwire
    refine .handedOver after.isRefusal_flushAll ?_ ?_
    · rw [after.taken_flushAll, hwire]
      exact htaken
    · rw [← hcalls]
      exact after.flushCalls_lt_flushAll

/-- Through a sink that accepts whatever it is offered, a frame within the limit is sent. -/
theorem send_of_accepting {writer : Writer} {frame : Frame} {sink : Sink}
    (hlimit : frame.contentSize ≤ writer.limit) (haccepting : sink.Accepting) :
    (writer.send frame sink).1 = .ok () ∧
      (writer.send frame sink).2.taken.toList = sink.taken.toList ++ frame.encode := by
  obtain ⟨accepted, rest, hwire, htaken, hall⟩ := sink.taken_writeAll frame.encode
  obtain ⟨hwritten, hafter⟩ := haccepting.writeAll frame.encode
  rw [hall.mp hwritten, List.append_nil] at hwire
  rw [send_of_writeAll_ok hlimit (Prod.ext hwritten rfl), Sink.taken_flushAll, htaken, ← hwire]
  exact ⟨hafter.flushAll, rfl⟩

end Writer

end Hdlc
