import Hdlc.Octets
import Hdlc.Stream.Failure

/-!
# Sinks

A sink of octets is given by the answers that its writes and flushes will give, in order. A write
is answered with the number of octets the sink is ready to take; it takes no more than are offered.
After the last answer every write takes all it is offered and every flush succeeds. `writeAll` and
`flushAll` try again after transient failures.
-/

namespace Hdlc

/-- A sink of octets, with those it has taken and an account of the calls made so far. -/
structure Sink where
  writes : List (Except Failure Nat) := []
  flushes : List (Except Failure Unit) := []
  taken : Array UInt8 := #[]
  writeCalls : Nat := 0
  flushCalls : Nat := 0

namespace Sink

/-- Offer octets, with the number of those taken. -/
def write (offered : Octets) (sink : Sink) : Except Failure Nat × Sink :=
  match sink with
  | ⟨[], flushes, taken, writeCalls, flushCalls⟩ =>
      (.ok offered.length, ⟨[], flushes, taken ++ offered, writeCalls + 1, flushCalls⟩)
  | ⟨.error failure :: later, flushes, taken, writeCalls, flushCalls⟩ =>
      (.error failure, ⟨later, flushes, taken, writeCalls + 1, flushCalls⟩)
  | ⟨.ok ready :: later, flushes, taken, writeCalls, flushCalls⟩ =>
      let now := offered.take ready
      (.ok now.length, ⟨later, flushes, taken ++ now, writeCalls + 1, flushCalls⟩)

/-- Ask for all that was taken to be passed on. -/
def flush (sink : Sink) : Except Failure Unit × Sink :=
  match sink with
  | ⟨writes, [], taken, writeCalls, flushCalls⟩ =>
      (.ok (), ⟨writes, [], taken, writeCalls, flushCalls + 1⟩)
  | ⟨writes, answer :: later, taken, writeCalls, flushCalls⟩ =>
      (answer, ⟨writes, later, taken, writeCalls, flushCalls + 1⟩)

/-- A write adds to what was taken the part of the offer that its answer counts. -/
theorem toList_taken_write (offered : Octets) (sink : Sink) :
    (sink.write offered).2.taken.toList =
      sink.taken.toList ++ offered.take ((sink.write offered).1.toOption.getD 0) := by
  obtain ⟨_ | ⟨_ | _, _⟩, _, _, _, _⟩ := sink <;> simp [write, Except.toOption]

@[simp]
theorem taken_flush (sink : Sink) : sink.flush.2.taken = sink.taken := by
  obtain ⟨_, _ | ⟨_, _⟩, _, _, _⟩ := sink <;> rfl

/-- Every write uses up an answer or takes all that is offered. -/
theorem write_uses_answer (offered : Octets) (sink : Sink) :
    (sink.write offered).2.writes.length < sink.writes.length ∨
      (sink.write offered).1 = .ok offered.length ∧
        (sink.write offered).2.writes.length = sink.writes.length := by
  obtain ⟨_ | ⟨_ | _, _⟩, _, _, _, _⟩ := sink <;> simp [write]

theorem flush_uses_answer {sink : Sink} {failure : Failure}
    (hfailure : sink.flush.1 = .error failure) :
    sink.flush.2.flushes.length < sink.flushes.length := by
  obtain ⟨_, _ | ⟨_, _⟩, _, _, _⟩ := sink <;> simp_all [flush]

/-- Offer octets until all are taken. A sink that takes none at all counts as closed. -/
def writeAll (octets : Octets) (sink : Sink) : Except LinkError Unit × Sink :=
  if _hoctets : octets = [] then (.ok (), sink)
  else
    let writing := sink.write octets
    match _hanswer : writing.1 with
    | .ok 0 => (.error .closed, writing.2)
    | .ok (taken + 1) => writing.2.writeAll (octets.drop (taken + 1))
    | .error failure =>
        if failure.isTransient then writing.2.writeAll octets
        else (.error (.failed failure), writing.2)
termination_by (sink.writes.length, octets.length)
decreasing_by
  · have := List.length_pos_iff.mpr _hoctets
    rcases sink.write_uses_answer octets with hless | ⟨-, heq⟩
    · exact .left _ _ hless
    · rw [heq]
      exact .right _ (by rw [List.length_drop]; omega)
  · rcases sink.write_uses_answer octets with hless | ⟨hall, -⟩
    · exact .left _ _ hless
    · rw [_hanswer] at hall
      cases hall

theorem writeAll_nil (sink : Sink) : sink.writeAll [] = (.ok (), sink) := by
  rw [writeAll, dif_pos rfl]

/-- The first write of octets settles how writing goes on. -/
theorem writeAll_of_ne_nil {octets : Octets} (hoctets : octets ≠ []) (sink : Sink) :
    sink.writeAll octets =
      match (sink.write octets).1 with
      | .ok 0 => (.error .closed, (sink.write octets).2)
      | .ok (taken + 1) => (sink.write octets).2.writeAll (octets.drop (taken + 1))
      | .error failure =>
          if failure.isTransient then (sink.write octets).2.writeAll octets
          else (.error (.failed failure), (sink.write octets).2) := by
  rw [writeAll, dif_neg hoctets]
  dsimp only
  split <;> simp_all

/-- Ask for everything to be passed on until that is done. -/
def flushAll (sink : Sink) : Except LinkError Unit × Sink :=
  let flushing := sink.flush
  match _hanswer : flushing.1 with
  | .ok () => (.ok (), flushing.2)
  | .error failure =>
      if failure.isTransient then flushing.2.flushAll
      else (.error (.failed failure), flushing.2)
termination_by sink.flushes.length
decreasing_by exact flush_uses_answer _hanswer

theorem flushAll_eq (sink : Sink) :
    sink.flushAll =
      match sink.flush.1 with
      | .ok () => (.ok (), sink.flush.2)
      | .error failure =>
          if failure.isTransient then sink.flush.2.flushAll
          else (.error (.failed failure), sink.flush.2) := by
  rw [flushAll]
  split <;> simp_all

end Sink

end Hdlc
