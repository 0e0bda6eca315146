import Hdlc.Decoder.Basic
import Hdlc.Stream.Source

/-!
# Readers

A reader turns the deliveries of a source into frames, one outcome per call. Verdicts that one
delivery brings about wait in a queue; the source is read only while the queue is empty. A reading
that is interrupted is repeated, any other failure is passed on and leaves an unfinished frame in
place, and a delivery of nothing drops it and reports the link as closed.
-/

namespace Hdlc

/-- What a call for a frame answers. -/
abbrev Outcome := Except LinkError Frame

/-- The outcome that a verdict is reported as. -/
def Outcome.ofVerdict : Verdict → Outcome
  | .ok frame => .ok frame
  | .error reason => .error (.rejected reason)

/-- A reader of frames: a decoder and the verdicts not yet reported. -/
structure Reader where
  decoder : Decoder := {}
  queue : List Verdict := []

namespace Reader

/-- The number of octets for which a reader has room when it reads. -/
def room : Nat := 4 * 1024

def withLimit (limit : Nat) : Reader :=
  { decoder := { limit := limit } }

def limit (reader : Reader) : Nat :=
  reader.decoder.limit

/-- Change the limit for octets still to be read. -/
def setLimit (reader : Reader) (limit : Nat) : Reader :=
  { reader with decoder := { reader.decoder with limit := limit } }

@[simp]
theorem limit_withLimit (limit : Nat) : (withLimit limit).limit = limit := rfl

@[simp]
theorem limit_setLimit (reader : Reader) (limit : Nat) :
    (reader.setLimit limit).limit = limit := rfl

@[simp]
theorem queue_setLimit (reader : Reader) (limit : Nat) :
    (reader.setLimit limit).queue = reader.queue := rfl

structure Turn where
  outcome : Outcome
  reader : Reader
  source : Source
  events : List Decoder.Event

/-- Take in one delivery, with the error that it amounts to, if any. -/
def receive (reader : Reader) :
    Delivery → Reader × Option LinkError × List Decoder.Event
  | .failure failure =>
      (reader, if failure.isInterruption then none else some (.failed failure), [])
  | .octets [] =>
      let (decoder, events) := reader.decoder.reset
      ({ reader with decoder := decoder }, some .closed, events)
  | .octets octets =>
      let progress := reader.decoder.feed octets
      (⟨progress.decoder, reader.queue ++ progress.verdicts⟩, none, progress.events)

/-- A delivery that is no error leaves less in the source than there was. -/
theorem weight_lt_of_receive {reader after : Reader} {source : Source}
    {events : List Decoder.Event}
    (hreceive : reader.receive (source.read room).1 = (after, none, events)) :
    (source.read room).2.weight < source.weight := by
  rcases Source.weight_read (show 0 < room by decide) source with ⟨hnothing, -⟩ | hlighter
  · rw [hnothing] at hreceive
    simp [receive] at hreceive
  · exact hlighter

/-- Report the next verdict, reading from the source as long as there is none. -/
def next (reader : Reader) (source : Source) : Turn :=
  match reader.queue with
  | verdict :: queue => ⟨.ofVerdict verdict, { reader with queue := queue }, source, []⟩
  | [] =>
      let reading := source.read room
      match _hreceive : reader.receive reading.1 with
      | (reader', some error, events) => ⟨.error error, reader', reading.2, events⟩
      | (reader', none, events) =>
          let turn := next reader' reading.2
          { turn with events := events ++ turn.events }
termination_by source.weight
decreasing_by exact weight_lt_of_receive _hreceive

/-- The outcome reports a verdict, so that a further call may have more to report. -/
def Turn.isVerdict (turn : Turn) : Bool :=
  match turn.outcome with
  | .ok _ => true
  | .error error => error.isRejection

theorem Turn.isVerdict_of_rejected {turn : Turn} {reason : Rejection}
    (houtcome : turn.outcome = .error (.rejected reason)) : turn.isVerdict = true := by
  rw [isVerdict, houtcome]
  rfl

/-- The measure that every reported verdict lowers: what the source still holds, then the queue. -/
def pending (reader : Reader) (source : Source) : Nat × Nat :=
  (source.weight, reader.queue.length)

theorem next_cons {reader : Reader} {verdict : Verdict} {queue : List Verdict}
    (hqueue : reader.queue = verdict :: queue) (source : Source) :
    reader.next source =
      ⟨.ofVerdict verdict, { reader with queue := queue }, source, []⟩ := by
  rw [next]
  split
  next heq =>
    rw [hqueue] at heq
    cases heq
    rfl
  next heq => simp [hqueue] at heq

theorem next_of_error {reader : Reader} {source : Source} {error : LinkError}
    {after : Reader} {events : List Decoder.Event} (hqueue : reader.queue = [])
    (hreceive : reader.receive (source.read room).1 = (after, some error, events)) :
    reader.next source = ⟨.error error, after, (source.read room).2, events⟩ := by
  rw [next]
  split
  next heq => simp [hqueue] at heq
  next heq =>
    dsimp only
    split
    next heq' => simp_all
    next heq' => simp_all

theorem next_of_none {reader : Reader} {source : Source} {after : Reader}
    {events : List Decoder.Event} (hqueue : reader.queue = [])
    (hreceive : reader.receive (source.read room).1 = (after, none, events)) :
    reader.next source =
      { after.next (source.read room).2 with
        events := events ++ (after.next (source.read room).2).events } := by
  rw [next]
  split
  next heq => simp [hqueue] at heq
  next heq =>
    dsimp only
    split
    next heq' => simp_all
    next heq' => simp_all

/-- An error that a single delivery amounts to is never a rejection. -/
theorem isRejection_of_receive {reader after : Reader} {delivery : Delivery}
    {error : LinkError} {events : List Decoder.Event}
    (hreceive : reader.receive delivery = (after, some error, events)) :
    error.isRejection = false := by
  unfold receive at hreceive
  split at hreceive
  next failure =>
    by_cases h : failure.isInterruption <;> simp [h] at hreceive
    obtain ⟨-, rfl, -⟩ := hreceive
    rfl
  next =>
    simp at hreceive
    obtain ⟨-, rfl, -⟩ := hreceive
    rfl
  next => simp at hreceive

/-- Every reported verdict lowers the pending measure. -/
theorem pending_next {reader : Reader} {source : Source}
    (hverdict : (reader.next source).isVerdict = true) :
    Prod.Lex (· < ·) (· < ·)
      ((reader.next source).reader.pending (reader.next source).source)
      (reader.pending source) := by
  induction hweight : source.weight using Nat.strongRecOn generalizing reader source with
  | ind weight ih =>
      cases hqueue : reader.queue with
      | cons verdict queue =>
          rw [next_cons hqueue, pending, pending, hqueue]
          exact .right _ (Nat.lt_succ_self _)
      | nil =>
          rcases hreceive : reader.receive (source.read room).1 with ⟨after, error | error, events⟩
          · have hless := weight_lt_of_receive hreceive
            rw [next_of_none hqueue hreceive] at hverdict ⊢
            have hinner := ih _ (hweight ▸ hless) hverdict rfl
            simp only [pending, Prod.lex_def] at hinner
            refine .left _ _ ?_
            dsimp only
            omega
          · rw [next_of_error hqueue hreceive] at hverdict
            simp [Turn.isVerdict, isRejection_of_receive hreceive] at hverdict

/-- The outcome at the front of the queue, which needs no reading. -/
def poll? (reader : Reader) : Option (Outcome × Reader) :=
  match reader.queue with
  | [] => none
  | verdict :: queue => some (.ofVerdict verdict, { reader with queue := queue })

/-- Report the next frame, passing over rejected candidates. -/
def nextAccepted (reader : Reader) (source : Source) : Turn :=
  let turn := reader.next source
  match _houtcome : turn.outcome with
  | .error (.rejected _) =>
      let later := turn.reader.nextAccepted turn.source
      { later with events := turn.events ++ later.events }
  | _ => turn
termination_by reader.pending source
decreasing_by
  exact pending_next (Turn.isVerdict_of_rejected _houtcome)

theorem nextAccepted_of_rejected {reader : Reader} {source : Source} {reason : Rejection}
    (houtcome : (reader.next source).outcome = .error (.rejected reason)) :
    reader.nextAccepted source =
      { (reader.next source).reader.nextAccepted (reader.next source).source with
        events := (reader.next source).events ++
          ((reader.next source).reader.nextAccepted (reader.next source).source).events } := by
  rw [nextAccepted]
  split
  next => rfl
  next hother => exact absurd houtcome (hother reason)

theorem nextAccepted_of_ne_rejected {reader : Reader} {source : Source}
    (houtcome : ∀ reason, (reader.next source).outcome ≠ .error (.rejected reason)) :
    reader.nextAccepted source = reader.next source := by
  rw [nextAccepted]
  split
  next reason hrejected => exact absurd hrejected (houtcome reason)
  next => rfl

/-- The outcome of a turn, or nothing where the link is closed. -/
def Turn.item? (turn : Turn) : Option Outcome :=
  match turn.outcome with
  | .error .closed => none
  | outcome => some outcome

/-- What repeated calls report until the link is closed. -/
structure Run where
  items : List Outcome
  reader : Reader
  source : Source
  events : List Decoder.Event

/-- Report at most `count` items, until the link is closed. -/
def take (reader : Reader) (source : Source) : Nat → Run
  | 0 => ⟨[], reader, source, []⟩
  | count + 1 =>
      let turn := reader.next source
      match turn.item? with
      | none => ⟨[], turn.reader, turn.source, turn.events⟩
      | some item =>
          let run := turn.reader.take turn.source count
          { run with items := item :: run.items, events := turn.events ++ run.events }

end Reader

end Hdlc
