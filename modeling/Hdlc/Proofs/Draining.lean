import Hdlc.Stream.Codec

/-!
# Draining a receive buffer

A codec answers one verdict at a time and leaves the octets behind it in the buffer for the next
call. No octet is lost or read twice on the way: the verdicts answered so far and those that the
buffer still holds are the verdicts on all that arrived (`verdicts_are_accounted_for`). The end of
the stream drops an unfinished frame, and it loses nothing else, since it is reached only where the
buffer holds no further verdict.
-/

namespace Hdlc

namespace Codec

/-! ## Turns -/

/-- A turn takes octets from the front of a buffer for a decoder in the given state: all of them
where they bring about no verdict, and otherwise those up to the one that brings about the first,
which is the verdict of the turn. -/
def Turn.Takes (turn : Turn) (decoder : Decoder) (buffer taken : Octets) : Prop :=
  buffer = taken ++ turn.buffer ∧
    match turn.verdict with
    | none => turn.buffer = [] ∧ (decoder.state.feed decoder.limit taken).2 = []
    | some verdict =>
        (decoder.state.feed decoder.limit taken).2 = [verdict] ∧
          ∃ before octet, taken = before ++ [octet] ∧
            (decoder.state.feed decoder.limit before).2 = []

/-- The decoder behind octets that it has taken in. -/
def behind (decoder : Decoder) (taken : Octets) : Decoder :=
  ⟨(decoder.state.feed decoder.limit taken).1, decoder.limit⟩

theorem Turn.Takes.feed_buffer {turn : Turn} {decoder : Decoder} {buffer taken : Octets}
    (htakes : turn.Takes decoder buffer taken) :
    decoder.state.feed decoder.limit buffer =
      (((behind decoder taken).state.feed decoder.limit turn.buffer).1,
        turn.verdict.toList ++
          ((behind decoder taken).state.feed decoder.limit turn.buffer).2) := by
  obtain ⟨hbuffer, hverdict⟩ := htakes
  have htaken : (decoder.state.feed decoder.limit taken).2 = turn.verdict.toList := by
    cases hturn : turn.verdict with
    | none =>
        rw [hturn] at hverdict
        exact hverdict.2
    | some verdict =>
        rw [hturn] at hverdict
        exact hverdict.1
  rw [hbuffer, Decoder.State.feed_append, htaken]
  rfl

/-- The verdict of a turn is the first verdict on the buffer. -/
theorem Turn.Takes.verdict_eq {turn : Turn} {decoder : Decoder} {buffer taken : Octets}
    (htakes : turn.Takes decoder buffer taken) :
    turn.verdict = (decoder.state.feed decoder.limit buffer).2.head? := by
  rw [htakes.feed_buffer]
  obtain ⟨-, hverdict⟩ := htakes
  cases hturn : turn.verdict with
  | none =>
      rw [hturn] at hverdict
      rw [hverdict.1]
      rfl
  | some verdict => rfl

/-- An octet that brings about no verdict only moves the decoder on. -/
theorem feed_cons_of_advance_none {decoder next : Decoder} {octet : UInt8}
    {raised : List Decoder.Event} (hadvance : decoder.advance octet = (next, none, raised))
    (rest : Octets) :
    decoder.state.feed decoder.limit (octet :: rest) = next.state.feed next.limit rest := by
  have hnext : next = ⟨(decoder.state.step decoder.limit octet).1, decoder.limit⟩ :=
    congrArg Prod.fst hadvance.symm
  have hnone : (decoder.state.step decoder.limit octet).2 = none := congrArg (·.2.1) hadvance
  rw [Decoder.State.feed_cons, hnone, hnext]
  rfl

theorem feed_singleton_of_advance_some {decoder next : Decoder} {octet : UInt8}
    {verdict : Verdict} {raised : List Decoder.Event}
    (hadvance : decoder.advance octet = (next, some verdict, raised)) :
    decoder.state.feed decoder.limit [octet] = (next.state, [verdict]) := by
  have hnext : (decoder.state.step decoder.limit octet).1 = next.state :=
    congrArg (·.1.state) hadvance
  have hsome : (decoder.state.step decoder.limit octet).2 = some verdict :=
    congrArg (·.2.1) hadvance
  rw [Decoder.State.feed_cons, hsome, hnext]
  rfl

theorem Turn.Takes.cons {turn : Turn} {decoder next : Decoder} {octet : UInt8}
    {rest taken : Octets} {raised : List Decoder.Event} (htakes : turn.Takes next rest taken)
    (hadvance : decoder.advance octet = (next, none, raised)) :
    turn.Takes decoder (octet :: rest) (octet :: taken) := by
  obtain ⟨hbuffer, hverdict⟩ := htakes
  have hfeed := feed_cons_of_advance_none hadvance
  refine ⟨congrArg (octet :: ·) hbuffer, ?_⟩
  cases hturn : turn.verdict with
  | none =>
      rw [hturn] at hverdict
      rw [hfeed]
      exact hverdict
  | some verdict =>
      rw [hturn] at hverdict
      obtain ⟨htaken, before, last, hsplit, hbefore⟩ := hverdict
      rw [hfeed]
      refine ⟨htaken, octet :: before, last, congrArg (octet :: ·) hsplit, ?_⟩
      rw [hfeed]
      exact hbefore

theorem decodeOnto_takes (events : List Decoder.Event) (decoder : Decoder) (buffer : Octets) :
    ∃ taken, (decodeOnto events decoder buffer).Takes decoder buffer taken ∧
      (decodeOnto events decoder buffer).codec = ⟨behind decoder taken⟩ := by
  induction buffer generalizing events decoder with
  | nil => exact ⟨[], ⟨rfl, rfl, rfl⟩, rfl⟩
  | cons octet rest ih =>
      rcases hadvance : decoder.advance octet with ⟨next, answer, raised⟩
      have hlimit : next.limit = decoder.limit := congrArg (·.1.limit) hadvance.symm
      rw [decodeOnto, hadvance]
      cases answer with
      | none =>
          obtain ⟨taken, htakes, hcodec⟩ := ih (raised.reverse ++ events) next
          refine ⟨octet :: taken, htakes.cons hadvance, ?_⟩
          dsimp only
          rw [hcodec, behind, behind, feed_cons_of_advance_none hadvance, hlimit]
      | some verdict =>
          have hfeed := feed_singleton_of_advance_some hadvance
          refine ⟨[octet], ⟨rfl, ?_, [], octet, rfl, rfl⟩, ?_⟩
          · rw [hfeed]
          · rw [behind, hfeed, ← hlimit]

theorem decode_takes (codec : Codec) (buffer : Octets) :
    ∃ taken, (codec.decode buffer).Takes codec.decoder buffer taken ∧
      (codec.decode buffer).codec = ⟨behind codec.decoder taken⟩ :=
  decodeOnto_takes [] codec.decoder buffer

theorem decodeAtEnd_of_some {codec : Codec} {buffer : Octets} {verdict : Verdict}
    (hverdict : (codec.decode buffer).verdict = some verdict) :
    codec.decodeAtEnd buffer = codec.decode buffer := by
  simp only [decodeAtEnd, hverdict]

theorem decodeAtEnd_of_none {codec : Codec} {buffer : Octets}
    (hverdict : (codec.decode buffer).verdict = none) :
    codec.decodeAtEnd buffer =
      { codec.decode buffer with
        codec := ⟨(codec.decode buffer).codec.decoder.reset.1⟩
        events :=
          (codec.decode buffer).events ++ (codec.decode buffer).codec.decoder.reset.2 } := by
  simp only [decodeAtEnd, hverdict]

/-- At the end of the stream octets are taken all the same, but a turn without a verdict leaves the
decoder searching. -/
theorem decodeAtEnd_takes (codec : Codec) (buffer : Octets) :
    ∃ taken, (codec.decodeAtEnd buffer).Takes codec.decoder buffer taken ∧
      (codec.decodeAtEnd buffer).codec =
        match (codec.decodeAtEnd buffer).verdict with
        | none => ⟨{ state := .searching, limit := codec.limit }⟩
        | some _ => ⟨behind codec.decoder taken⟩ := by
  obtain ⟨taken, htakes, hcodec⟩ := codec.decode_takes buffer
  refine ⟨taken, ?_⟩
  cases hverdict : (codec.decode buffer).verdict with
  | none =>
      rw [decodeAtEnd_of_none hverdict]
      refine ⟨htakes, ?_⟩
      simp only [hverdict, hcodec]
      rfl
  | some verdict =>
      rw [decodeAtEnd_of_some hverdict, hverdict]
      exact ⟨htakes, hcodec⟩

/-! ## Sessions -/

/-- A codec between the two buffers of its transport. -/
structure Session where
  codec : Codec
  received : Octets := []
  sent : Octets := []

/-- What may happen to a codec and its buffers. -/
inductive Call
  /-- Octets arrive behind those in the receive buffer. -/
  | push (octets : Octets)
  | decode
  | decodeAtEnd
  | encode (frame : Frame)

/-- The verdict that a call answers, if any, and the session behind it. -/
def Call.perform (session : Session) : Call → Option Verdict × Session
  | push octets => (none, { session with received := session.received ++ octets })
  | decode =>
      let turn := session.codec.decode session.received
      (turn.verdict, { session with codec := turn.codec, received := turn.buffer })
  | decodeAtEnd =>
      let turn := session.codec.decodeAtEnd session.received
      (turn.verdict, { session with codec := turn.codec, received := turn.buffer })
  | encode frame =>
      match session.codec.encode frame session.sent with
      | .ok sent => (none, { session with sent := sent })
      | .error _ => (none, session)

/-- What has arrived and been answered since the stream last ended, or since it began. -/
structure Account where
  pushed : Octets := []
  answered : List Verdict := []

/-- Enter a call and its answer. The stream ends where a call for the rest of it has no answer. -/
def Account.enter (account : Account) (answer : Option Verdict) : Call → Account
  | .push octets => { account with pushed := account.pushed ++ octets }
  | .decode => { account with answered := account.answered ++ answer.toList }
  | .decodeAtEnd =>
      match answer with
      | none => {}
      | some verdict => { account with answered := account.answered ++ [verdict] }
  | .encode _ => account

/-- Make calls one after the other and enter them in an account. -/
def run : List Call → Session → Account → Session × Account
  | [], session, account => (session, account)
  | call :: later, session, account =>
      let (answer, after) := call.perform session
      run later after (account.enter answer call)

/-- The verdicts answered and those still in the receive buffer are the verdicts on what arrived,
and the decoder will be where what arrived leads. -/
structure Session.Accounted (session : Session) (limit : Nat) (account : Account) : Prop where
  limit_eq : session.codec.limit = limit
  feed_pushed : Decoder.State.feed limit .searching account.pushed =
    ((session.codec.decoder.state.feed limit session.received).1,
      account.answered ++ (session.codec.decoder.state.feed limit session.received).2)

namespace Session.Accounted

variable {session : Session} {limit : Nat} {account : Account}

theorem begin_stream (hlimit : session.codec.limit = limit)
    (hstate : session.codec.decoder.state = .searching) (hreceived : session.received = []) :
    session.Accounted limit {} := by
  refine ⟨hlimit, ?_⟩
  rw [hstate, hreceived]
  rfl

theorem push (haccounted : session.Accounted limit account) (octets : Octets) :
    Accounted { session with received := session.received ++ octets } limit
      { account with pushed := account.pushed ++ octets } := by
  obtain ⟨hlimit, hfeed⟩ := haccounted
  refine ⟨hlimit, ?_⟩
  rw [Decoder.State.feed_append, Decoder.State.feed_append, hfeed, List.append_assoc]

/-- A turn moves the first verdict from the buffer to those answered. -/
theorem take_turn {turn : Turn} {taken : Octets} (haccounted : session.Accounted limit account)
    (htakes : turn.Takes session.codec.decoder session.received taken)
    (hcodec : turn.codec = ⟨behind session.codec.decoder taken⟩) :
    Accounted { session with codec := turn.codec, received := turn.buffer } limit
      { account with answered := account.answered ++ turn.verdict.toList } := by
  obtain ⟨rfl, hfeed⟩ := haccounted
  have hbuffer := htakes.feed_buffer
  constructor
  · rw [hcodec]
    rfl
  · rw [hfeed, hcodec]
    simp only [limit, hbuffer, List.append_assoc]

theorem perform (haccounted : session.Accounted limit account) (call : Call) :
    (call.perform session).2.Accounted limit (account.enter (call.perform session).1 call) := by
  cases call with
  | push octets => exact haccounted.push octets
  | decode =>
      obtain ⟨taken, htakes, hcodec⟩ := session.codec.decode_takes session.received
      exact haccounted.take_turn htakes hcodec
  | decodeAtEnd =>
      obtain ⟨taken, htakes, hcodec⟩ := session.codec.decodeAtEnd_takes session.received
      cases hverdict : (session.codec.decodeAtEnd session.received).verdict with
      | none =>
          -- The buffer is empty by then, so nothing is left of the stream that ends here.
          rw [hverdict] at hcodec
          obtain ⟨-, hturn⟩ := htakes
          rw [hverdict] at hturn
          simp only [Call.perform, Account.enter, hverdict]
          refine begin_stream ?_ ?_ hturn.1
          · rw [← haccounted.limit_eq, hcodec]
            rfl
          · rw [hcodec]
      | some verdict =>
          rw [hverdict] at hcodec
          have hturn := haccounted.take_turn htakes hcodec
          rw [hverdict] at hturn
          simp only [Call.perform, Account.enter, hverdict]
          exact hturn
  | encode frame =>
      simp only [Call.perform]
      split
      next => exact ⟨haccounted.limit_eq, haccounted.feed_pushed⟩
      next => exact haccounted

theorem run (haccounted : session.Accounted limit account) (calls : List Call) :
    (Codec.run calls session account).1.Accounted limit (Codec.run calls session account).2 := by
  induction calls generalizing session account with
  | nil => exact haccounted
  | cons call later ih => exact ih (haccounted.perform call)

end Session.Accounted

/-- Encoding has no part in decoding. -/
theorem perform_encode (session : Session) (frame : Frame) :
    ((Call.encode frame).perform session).2.codec = session.codec ∧
      ((Call.encode frame).perform session).2.received = session.received := by
  simp only [Call.perform]
  split
  next => exact ⟨rfl, rfl⟩
  next => exact ⟨rfl, rfl⟩

/-- At any time, the verdicts answered since the stream last ended and those that the octets in the
receive buffer still bring about are the verdicts on what has arrived since, and the decoder will be
where that leads. Whatever the state and the buffer, a call answers the first verdict that the
buffer brings about and takes the octets up to the one that completes it; without a verdict it takes
them all, and at the end of the stream it then leaves the decoder searching. Encoding has no part in
this. -/
theorem verdicts_are_accounted_for (limit : Nat) :
    (∀ calls : List Call,
      let (session, account) := run calls { codec := withLimit limit } {}
      Decoder.State.feed limit .searching account.pushed =
        ((session.codec.decoder.state.feed limit session.received).1,
          account.answered ++ (session.codec.decoder.state.feed limit session.received).2)) ∧
    (∀ (codec : Codec) (buffer : Octets),
      let turn := codec.decode buffer
      turn.verdict = (codec.decoder.state.feed codec.limit buffer).2.head? ∧
        ∃ taken, turn.Takes codec.decoder buffer taken ∧
          turn.codec = ⟨behind codec.decoder taken⟩) ∧
    (∀ (codec : Codec) (buffer : Octets),
      let turn := codec.decodeAtEnd buffer
      turn.verdict = (codec.decoder.state.feed codec.limit buffer).2.head? ∧
        ∃ taken, turn.Takes codec.decoder buffer taken ∧
          turn.codec =
            match turn.verdict with
            | none => ⟨{ state := .searching, limit := codec.limit }⟩
            | some _ => ⟨behind codec.decoder taken⟩) ∧
    (∀ (session : Session) (frame : Frame),
      ((Call.encode frame).perform session).2.codec = session.codec ∧
        ((Call.encode frame).perform session).2.received = session.received) := by
  refine ⟨fun calls => ?_, fun codec buffer => ?_, fun codec buffer => ?_, perform_encode⟩
  · have hfresh : Session.Accounted { codec := withLimit limit } limit {} :=
      .begin_stream rfl rfl rfl
    exact (hfresh.run calls).feed_pushed
  · obtain ⟨taken, htakes, hcodec⟩ := codec.decode_takes buffer
    exact ⟨htakes.verdict_eq, taken, htakes, hcodec⟩
  · obtain ⟨taken, htakes, hcodec⟩ := codec.decodeAtEnd_takes buffer
    exact ⟨htakes.verdict_eq, taken, htakes, hcodec⟩

end Codec

end Hdlc
