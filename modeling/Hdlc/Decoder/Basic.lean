import Hdlc.Decoder.State
import Hdlc.Log

/-!
# Decoders

A decoder pairs a state with the limit in force and reports what it discards. Its verdicts and
states are those of `Decoder.State.feed` (`feed_state`, `feed_verdicts`).
-/

namespace Hdlc

/-- A decoder for one stream. -/
structure Decoder where
  state : Decoder.State := .searching
  limit : Nat := Frame.defaultLimit
  deriving DecidableEq, Repr

namespace Decoder

/-! ## Events -/

/-- An occurrence worth a log entry. -/
inductive Event
  /-- An octet other than a flag came while no frame was open. -/
  | strayOctet (octet : UInt8)
  /-- A candidate frame was rejected. -/
  | rejected (reason : Rejection)
  /-- A reset found this many octets of content in an unfinished frame. -/
  | dropped (gathered : Nat)
  deriving DecidableEq, Repr

def Event.entry : Event → Log.Entry
  | strayOctet octet =>
      ⟨.trace, "discarding byte outside frame", [("byte", .number octet.toNat)]⟩
  | rejected reason =>
      ⟨.debug, "discarding frame", [("error", .text reason.message)]⟩
  | dropped gathered =>
      ⟨.trace, "dropping partial frame", [("buffered", .number gathered)]⟩

/-! ## Taking in octets -/

/-- What taking in octets leads to. -/
structure Progress where
  decoder : Decoder
  verdicts : List Verdict
  events : List Event

/-- The event raised by an octet that comes before a frame is open. -/
def strayEvents (state : State) (octet : UInt8) : List Event :=
  if state.isSearching && octet != flag then [.strayOctet octet] else []

/-- The event raised by a verdict against a candidate. -/
def verdictEvents : Option Verdict → List Event
  | some (.error reason) => [.rejected reason]
  | _ => []

def advance (decoder : Decoder) (octet : UInt8) : Decoder × Option Verdict × List Event :=
  let ⟨state, limit⟩ := decoder
  let stray := strayEvents state octet
  let (next, verdict) := state.step limit octet
  (⟨next, limit⟩, verdict, stray ++ verdictEvents verdict)

/-- Take in a sequence of octets after the verdicts and events of earlier ones, latest first. -/
def feedOnto (verdicts : List Verdict) (events : List Event) : Decoder → Octets → Progress
  | decoder, [] => ⟨decoder, verdicts.reverse, events.reverse⟩
  | decoder, octet :: rest =>
      let (next, verdict, raised) := decoder.advance octet
      feedOnto (verdict.toList ++ verdicts) (raised.reverse ++ events) next rest

def feed (decoder : Decoder) (octets : Octets) : Progress :=
  feedOnto [] [] decoder octets

/-- Give up any unfinished frame and search for a flag. -/
def reset (decoder : Decoder) : Decoder × List Event :=
  let events :=
    if decoder.state.isUnfinished then [.dropped decoder.state.content.size] else []
  ({ decoder with state := .searching }, events)

@[simp]
theorem advance_decoder (decoder : Decoder) (octet : UInt8) :
    (decoder.advance octet).1 =
      ⟨(decoder.state.step decoder.limit octet).1, decoder.limit⟩ := rfl

@[simp]
theorem advance_verdict (decoder : Decoder) (octet : UInt8) :
    (decoder.advance octet).2.1 = (decoder.state.step decoder.limit octet).2 := rfl

theorem feedOnto_eq (verdicts : List Verdict) (events : List Event) (decoder : Decoder)
    (octets : Octets) :
    feedOnto verdicts events decoder octets =
      ⟨(decoder.feed octets).decoder, verdicts.reverse ++ (decoder.feed octets).verdicts,
        events.reverse ++ (decoder.feed octets).events⟩ := by
  induction octets generalizing verdicts events decoder with
  | nil => simp [feed, feedOnto]
  | cons octet rest ih =>
      simp only [feed, feedOnto]
      rw [ih, ih (_ ++ [])]
      cases (decoder.advance octet).2.1 <;> simp

@[simp]
theorem feed_nil (decoder : Decoder) : decoder.feed [] = ⟨decoder, [], []⟩ := rfl

theorem feed_cons (decoder : Decoder) (octet : UInt8) (rest : Octets) :
    decoder.feed (octet :: rest) =
      ⟨((decoder.advance octet).1.feed rest).decoder,
        (decoder.advance octet).2.1.toList ++ ((decoder.advance octet).1.feed rest).verdicts,
        (decoder.advance octet).2.2 ++ ((decoder.advance octet).1.feed rest).events⟩ := by
  simp only [feed, feedOnto]
  rw [feedOnto_eq]
  cases (decoder.advance octet).2.1 <;> simp [feed]

theorem feed_decoder (decoder : Decoder) (octets : Octets) :
    (decoder.feed octets).decoder =
      ⟨(decoder.state.feed decoder.limit octets).1, decoder.limit⟩ := by
  induction octets generalizing decoder with
  | nil => rfl
  | cons octet rest ih => simp [feed_cons, State.feed_cons, ih]

theorem feed_verdicts (decoder : Decoder) (octets : Octets) :
    (decoder.feed octets).verdicts = (decoder.state.feed decoder.limit octets).2 := by
  induction octets generalizing decoder with
  | nil => rfl
  | cons octet rest ih => simp [feed_cons, State.feed_cons, ih]

end Decoder

end Hdlc
