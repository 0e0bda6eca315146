import Hdlc.Proofs.Reading

/-!
# Reading on demand

A reader asks its source for octets only as long as it has nothing at hand that answers a call, and
every call is answered (`reads_on_demand`). The measure is what the source still holds together with
what waits in the queue: a reading moves no more into the queue than it takes off the source, and
every verdict reported is one less. A limit that changes between calls holds for the deliveries that
are read from then on, and for nothing that was read before.
-/

namespace Hdlc

namespace Delivery

/-- Whether a delivery settles a call that waits behind a decoder state: it fails other than by
interruption, brings no octets at all, or completes a verdict. -/
def isDecisive (limit : Nat) (state : Decoder.State) : Delivery → Bool
  | .failure cause => cause.kind != .interrupted
  | .octets [] => true
  | .octets content => !(state.feed limit content).2.isEmpty

/-- The decoder state that a delivery leaves. -/
def stateBehind (limit : Nat) (state : Decoder.State) : Delivery → Decoder.State
  | .failure _ => state
  | .octets [] => .searching
  | .octets content => (state.feed limit content).1

end Delivery

namespace Source

variable {limit room : Nat} {state : Decoder.State}

/-- The decoder state that deliveries leave. -/
def stateBehind (limit : Nat) (state : Decoder.State) (deliveries : List Delivery) :
    Decoder.State :=
  deliveries.foldl (Delivery.stateBehind limit) state

/-- None of the deliveries settles a call that waits behind a decoder state. -/
def Inconclusive (limit : Nat) : Decoder.State → List Delivery → Prop
  | _, [] => True
  | state, delivery :: later =>
      delivery.isDecisive limit state = false ∧
        Inconclusive limit (delivery.stateBehind limit state) later

theorem outcomes_cons (limit : Nat) (state : Decoder.State) (delivery : Delivery)
    (later : List Delivery) :
    outcomes limit state (delivery :: later) =
      outcomes limit state [delivery] ++
        outcomes limit (delivery.stateBehind limit state) later := by
  cases delivery with
  | failure failure =>
      by_cases hfailure : failure.kind = .interrupted
      · rw [outcomes_interruption hfailure, outcomes_interruption hfailure]
        rfl
      · rw [outcomes_failure hfailure, outcomes_failure hfailure]
        rfl
  | octets content =>
      cases content with
      | nil => rfl
      | cons octet rest =>
          rw [outcomes_octets (List.cons_ne_nil _ _), outcomes_octets (List.cons_ne_nil _ _),
            outcomes, List.append_nil]
          rfl

theorem outcomes_append (limit : Nat) (state : Decoder.State) (first second : List Delivery) :
    outcomes limit state (first ++ second) =
      outcomes limit state first ++ outcomes limit (stateBehind limit state first) second := by
  induction first generalizing state with
  | nil => rfl
  | cons delivery later ih =>
      rw [List.cons_append, outcomes_cons, ih, outcomes_cons limit state delivery later,
        List.append_assoc]
      rfl

theorem outcomes_singleton_eq_nil_iff (delivery : Delivery) :
    outcomes limit state [delivery] = [] ↔ delivery.isDecisive limit state = false := by
  cases delivery with
  | failure failure =>
      by_cases hfailure : failure.kind = .interrupted
      · simp [outcomes, Delivery.isDecisive, hfailure]
      · simp [outcomes_failure hfailure, Delivery.isDecisive, hfailure]
  | octets content =>
      cases content with
      | nil => simp [outcomes, Delivery.isDecisive]
      | cons octet rest =>
          rw [outcomes_octets (List.cons_ne_nil _ _)]
          simp [outcomes, Delivery.isDecisive]

/-- Deliveries that amount to no outcome are those that settle no call. -/
theorem outcomes_eq_nil_iff (deliveries : List Delivery) :
    outcomes limit state deliveries = [] ↔ Inconclusive limit state deliveries := by
  induction deliveries generalizing state with
  | nil => exact ⟨fun _ => trivial, fun _ => rfl⟩
  | cons delivery later ih =>
      rw [outcomes_cons, List.append_eq_nil_iff, ih, outcomes_singleton_eq_nil_iff, Inconclusive]

/-- Readings in succession, with their deliveries and the source behind them. -/
def readings (room : Nat) : Nat → Source → List Delivery × Source
  | 0, source => ([], source)
  | count + 1, source =>
      let reading := source.read room
      let later := reading.2.readings room count
      (reading.1 :: later.1, later.2)

theorem readings_add (first second : Nat) (source : Source) :
    source.readings room (first + second) =
      ((source.readings room first).1 ++
          ((source.readings room first).2.readings room second).1,
        ((source.readings room first).2.readings room second).2) := by
  induction first generalizing source with
  | zero => rw [Nat.zero_add, readings, List.nil_append]
  | succ first ih =>
      rw [Nat.add_right_comm, readings, ih]
      rfl

theorem readCalls_read (room : Nat) (source : Source) :
    (source.read room).2.readCalls = source.readCalls + 1 := by
  obtain ⟨_ | ⟨_ | _, _⟩, _, _⟩ := source
  · rfl
  · rw [read]
    split <;> rfl
  · rfl

theorem readCalls_readings (room count : Nat) (source : Source) :
    (source.readings room count).2.readCalls = source.readCalls + count := by
  induction count generalizing source with
  | zero => rfl
  | succ count ih =>
      rw [readings, ih, readCalls_read]
      omega

/-- A reading takes the octets it delivers off what the source holds. -/
theorem weight_read_add_length {source : Source} {content : Octets}
    (hread : (source.read room).1 = .octets content) :
    (source.read room).2.weight + content.length ≤ source.weight := by
  obtain ⟨deliveries, calls, delivered⟩ := source
  match deliveries with
  | [] =>
      cases hread
      exact Nat.le_refl _
  | .failure failure :: later => cases hread
  | .octets octets :: later =>
      by_cases hroom : octets.length ≤ room
      · rw [read, if_pos hroom] at hread ⊢
        cases hread
        simp only [weight, List.foldr_cons, Delivery.weight]
        omega
      · rw [read, if_neg hroom] at hread ⊢
        cases hread
        simp only [weight, List.foldr_cons, Delivery.weight, List.length_take, List.length_drop]
        omega

end Source

theorem Decoder.State.length_feed_le_length (limit : Nat) (state : Decoder.State)
    (octets : Octets) : (state.feed limit octets).2.length ≤ octets.length := by
  induction octets generalizing state with
  | nil => exact Nat.le_refl _
  | cons octet rest ih =>
      have hstep : (state.step limit octet).2.toList.length ≤ 1 := by
        cases (state.step limit octet).2 <;> simp
      have hrest := ih (state.step limit octet).1
      rw [feed_cons, List.length_append, List.length_cons]
      omega

namespace Reader

variable {reader after : Reader} {source : Source} {events : List Decoder.Event}

/-! ## Every call returns -/

/-- What the source holds, and what waits in the queue. -/
def load (reader : Reader) (source : Source) : Nat :=
  reader.queue.length + source.weight

/-- A reading moves no more into the queue than it takes off the source. -/
theorem load_receive_le (reader : Reader) (source : Source) :
    (reader.receive (source.read room).1).1.load (source.read room).2 ≤ reader.load source := by
  have hweight : (source.read room).2.weight ≤ source.weight := by
    rcases Source.weight_read (show 0 < room by decide) source with ⟨-, hle⟩ | hlt
    · exact hle
    · exact Nat.le_of_lt hlt
  cases hdelivery : (source.read room).1 with
  | failure failure => exact Nat.add_le_add_left hweight _
  | octets content =>
      have hlength := Source.weight_read_add_length hdelivery
      cases content with
      | nil => exact Nat.add_le_add_left hweight _
      | cons octet rest =>
          have hverdicts := reader.decoder.state.length_feed_le_length reader.decoder.limit
            (octet :: rest)
          simp only [load, receive, Decoder.feed_verdicts, List.length_append]
          omega

/-- A verdict reported is one less. -/
theorem load_next_lt (hverdict : (reader.next source).isVerdict = true) :
    (reader.next source).reader.load (reader.next source).source < reader.load source := by
  induction hweight : source.weight using Nat.strongRecOn generalizing reader source with
  | ind weight ih =>
      cases hqueue : reader.queue with
      | cons verdict queue =>
          rw [next_cons hqueue, load, load, hqueue]
          exact Nat.add_lt_add_right (Nat.lt_succ_self _) _
      | nil =>
          have hload := reader.load_receive_le source
          rcases hreceive : reader.receive (source.read room).1 with ⟨after, error | error, events⟩
          · have hlighter := weight_lt_of_receive hreceive
            rw [hreceive] at hload
            rw [next_of_none hqueue hreceive] at hverdict ⊢
            exact Nat.lt_of_lt_of_le (ih _ (hweight ▸ hlighter) hverdict rfl) hload
          · rw [next_of_error hqueue hreceive] at hverdict
            simp [Turn.isVerdict, isRejection_of_receive hreceive] at hverdict

/-- Go around the loop that reports the next verdict, as often as there are rounds. -/
def nextWithin : Nat → Reader → Source → Option Turn
  | 0, _, _ => none
  | rounds + 1, reader, source =>
      match reader.queue with
      | verdict :: queue => some ⟨.ofVerdict verdict, { reader with queue := queue }, source, []⟩
      | [] =>
          let reading := source.read room
          match reader.receive reading.1 with
          | (after, some error, events) => some ⟨.error error, after, reading.2, events⟩
          | (after, none, events) =>
              (nextWithin rounds after reading.2).map fun turn =>
                { turn with events := events ++ turn.events }

/-- Go around the loop that passes over rejected candidates, as often as there are rounds. -/
def nextAcceptedWithin : Nat → Reader → Source → Option Turn
  | 0, _, _ => none
  | rounds + 1, reader, source =>
      (nextWithin (rounds + 1) reader source).bind fun turn =>
        match turn.outcome with
        | .error (.rejected _) =>
            (nextAcceptedWithin rounds turn.reader turn.source).map fun later =>
              { later with events := turn.events ++ later.events }
        | _ => some turn

theorem nextWithin_eq {rounds : Nat} (hrounds : source.weight < rounds) :
    nextWithin rounds reader source = some (reader.next source) := by
  induction rounds generalizing reader source with
  | zero => exact absurd hrounds (Nat.not_lt_zero _)
  | succ rounds ih =>
      rw [nextWithin]
      cases hqueue : reader.queue with
      | cons verdict queue => rw [next_cons hqueue]
      | nil =>
          rcases hreceive : reader.receive (source.read room).1 with ⟨after, error | error, events⟩
          · have hlighter := weight_lt_of_receive hreceive
            simp only [hreceive]
            rw [ih (by omega), next_of_none hqueue hreceive, Option.map_some]
          · simp only [hreceive]
            rw [next_of_error hqueue hreceive]

theorem nextAcceptedWithin_eq {rounds : Nat} (hrounds : reader.load source < rounds) :
    nextAcceptedWithin rounds reader source = some (reader.nextAccepted source) := by
  induction rounds generalizing reader source with
  | zero => exact absurd hrounds (Nat.not_lt_zero _)
  | succ rounds ih =>
      have hweight : source.weight < rounds + 1 :=
        Nat.lt_of_le_of_lt (Nat.le_add_left _ _) hrounds
      rw [nextAcceptedWithin, nextWithin_eq hweight, Option.bind_some]
      split
      next reason houtcome =>
        have hless := load_next_lt (Turn.isVerdict_of_rejected houtcome)
        rw [ih (by omega), Option.map_some, nextAccepted_of_rejected houtcome]
      next houtcome => rw [nextAccepted_of_ne_rejected houtcome]

/-- Answer a call if that takes no more than so many rounds of each of its loops. -/
def Call.performWithin (rounds : Nat) (reader : Reader) (source : Source) :
    Call → Option (Option Outcome × Reader × Source)
  | next =>
      (nextWithin rounds reader source).map fun turn =>
        (some turn.outcome, turn.reader, turn.source)
  | nextAccepted =>
      (nextAcceptedWithin rounds reader source).map fun turn =>
        (some turn.outcome, turn.reader, turn.source)
  | item =>
      (nextWithin rounds reader source).map fun turn => (turn.item?, turn.reader, turn.source)

theorem performWithin_eq {rounds : Nat} (hrounds : reader.load source < rounds) (call : Call) :
    call.performWithin rounds reader source = some (call.perform reader source) := by
  have hweight : source.weight < rounds := Nat.lt_of_le_of_lt (Nat.le_add_left _ _) hrounds
  cases call with
  | next => rw [Call.performWithin, nextWithin_eq hweight, Option.map_some, Call.perform]
  | nextAccepted =>
      rw [Call.performWithin, nextAcceptedWithin_eq hrounds, Option.map_some, Call.perform]
  | item => rw [Call.performWithin, nextWithin_eq hweight, Option.map_some, Call.perform]

/-! ## Reading only what is needed -/

/-- The outcomes that a reader has at hand behind some deliveries. -/
def held (reader : Reader) (read : List Delivery) : List Outcome :=
  reader.queue.map Outcome.ofVerdict ++
    Source.outcomes reader.limit reader.decoder.state read

/-- The deliveries read for a turn that passes over some outcomes. -/
structure Demand (passes : Outcome → Bool) (reader : Reader) (source : Source) (turn : Turn)
    (read : List Delivery) : Prop where
  readings : source.readings room read.length = (read, turn.source)
  /-- Before each reading, all that is at hand is passed over. -/
  waiting : ∀ count < read.length, ∀ outcome ∈ reader.held (read.take count),
    passes outcome = true
  /-- Behind the readings, the first outcome not passed over is the one of the turn, and those
  behind it are left in the queue. -/
  answered : ∃ passed, (∀ outcome ∈ passed, passes outcome = true) ∧ passes turn.outcome = false ∧
    reader.held read = passed ++ turn.outcome :: turn.reader.queue.map Outcome.ofVerdict
  decoder : turn.reader.decoder =
    ⟨Source.stateBehind reader.limit reader.decoder.state read, reader.limit⟩

theorem held_append (reader : Reader) (first second : List Delivery) :
    reader.held (first ++ second) =
      reader.held first ++
        Source.outcomes reader.limit
          (Source.stateBehind reader.limit reader.decoder.state first) second := by
  rw [held, held, Source.outcomes_append, List.append_assoc]

theorem decoder_receive (reader : Reader) (delivery : Delivery) :
    (reader.receive delivery).1.decoder =
      ⟨delivery.stateBehind reader.limit reader.decoder.state, reader.limit⟩ := by
  cases delivery with
  | failure failure => rfl
  | octets content =>
      cases content with
      | nil => rfl
      | cons octet rest => exact reader.decoder.feed_decoder (octet :: rest)

/-- With an empty queue, what a delivery leaves at hand is the error that it is, if any, and then
what the reader has at hand that has taken it in. -/
theorem held_cons (hqueue : reader.queue = []) (delivery : Delivery) (later : List Delivery) :
    reader.held (delivery :: later) =
      (reader.receive delivery).2.1.toList.map .error ++
        (reader.receive delivery).1.held later := by
  rw [held, hqueue, List.map_nil, List.nil_append, outcomes_cons_eq_receive hqueue]
  rfl

/-- A verdict that waits in the queue demands no reading. -/
theorem demand_of_cons {verdict : Verdict} {queue : List Verdict}
    (hqueue : reader.queue = verdict :: queue) (source : Source) :
    Demand (fun _ => false) reader source (reader.next source) [] := by
  rw [next_cons hqueue]
  refine ⟨rfl, fun count hcount => absurd hcount (Nat.not_lt_zero _), ⟨[], by simp, rfl, ?_⟩, rfl⟩
  rw [held, hqueue]
  exact List.append_nil _

/-- A reading that is an error is the last. -/
theorem demand_of_receive_error {error : LinkError} (hqueue : reader.queue = [])
    (hreceive : reader.receive (source.read room).1 = (after, some error, events)) :
    Demand (fun _ => false) reader source (reader.next source) [(source.read room).1] := by
  have hdecoder := reader.decoder_receive (source.read room).1
  have hheld := held_cons hqueue (source.read room).1 []
  rw [hreceive] at hdecoder hheld
  rw [next_of_error hqueue hreceive]
  refine ⟨rfl, fun count hcount => ?_, ⟨[], by simp, rfl, ?_⟩, hdecoder⟩
  · obtain rfl : count = 0 := Nat.lt_one_iff.mp hcount
    simp [held, hqueue, Source.outcomes]
  · rw [hheld, held, Source.outcomes, List.append_nil]
    rfl

/-- A reading that is no error comes before those that are demanded behind it. -/
theorem demand_of_receive_none {read : List Delivery} (hqueue : reader.queue = [])
    (hreceive : reader.receive (source.read room).1 = (after, none, events))
    (hread : Demand (fun _ => false) after (source.read room).2
      (after.next (source.read room).2) read) :
    Demand (fun _ => false) reader source (reader.next source) ((source.read room).1 :: read) := by
  have hdecoder := reader.decoder_receive (source.read room).1
  have hheld := held_cons hqueue (source.read room).1
  rw [hreceive] at hdecoder hheld
  rw [next_of_none hqueue hreceive]
  refine ⟨?_, fun count hcount => ?_, ?_, ?_⟩
  · rw [List.length_cons, Source.readings, hread.readings]
  · cases count with
    | zero => simp [held, hqueue, Source.outcomes]
    | succ count =>
        rw [List.take_succ_cons, hheld]
        exact hread.waiting count (Nat.lt_of_succ_lt_succ hcount)
  · rw [hheld]
    exact hread.answered
  · rw [hread.decoder, limit, hdecoder]
    rfl

/-- A call for the next outcome reads until there is one. -/
theorem exists_demand_next (reader : Reader) (source : Source) :
    ∃ read, Demand (fun _ => false) reader source (reader.next source) read := by
  -- Every reading that is no error makes the source lighter.
  induction hweight : source.weight using Nat.strongRecOn generalizing reader source with
  | ind weight ih =>
      cases hqueue : reader.queue with
      | cons verdict queue => exact ⟨[], demand_of_cons hqueue source⟩
      | nil =>
          rcases hreceive : reader.receive (source.read room).1 with ⟨after, error | error, events⟩
          · have hlighter := weight_lt_of_receive hreceive
            obtain ⟨read, hread⟩ := ih _ (hweight ▸ hlighter) after _ rfl
            exact ⟨_, demand_of_receive_none hqueue hreceive hread⟩
          · exact ⟨_, demand_of_receive_error hqueue hreceive⟩

namespace Demand

variable {passes : Outcome → Bool} {turn : Turn} {read : List Delivery}

theorem held_take_eq_nil (hdemand : Demand (fun _ => false) reader source turn read) {count : Nat}
    (hcount : count < read.length) : reader.held (read.take count) = [] :=
  List.eq_nil_iff_forall_not_mem.mpr fun outcome hmem => by
    cases hdemand.waiting count hcount outcome hmem

theorem held_eq (hdemand : Demand (fun _ => false) reader source turn read) :
    reader.held read = turn.outcome :: turn.reader.queue.map Outcome.ofVerdict := by
  obtain ⟨passed, hpassed, -, hheld⟩ := hdemand.answered
  have hnone : passed = [] :=
    List.eq_nil_iff_forall_not_mem.mpr fun outcome hmem => by cases hpassed outcome hmem
  rw [hheld, hnone, List.nil_append]

/-- A turn that is passed over hands on to the one that comes after it. -/
theorem trans {later : Turn} {more : List Delivery}
    (hfirst : Demand (fun _ => false) reader source turn read)
    (hpasses : passes turn.outcome = true)
    (hlater : Demand passes turn.reader turn.source later more) :
    Demand passes reader source later (read ++ more) := by
  have hlimit : turn.reader.limit = reader.limit := by
    rw [limit, hfirst.decoder]
  have hstate : turn.reader.decoder.state =
      Source.stateBehind reader.limit reader.decoder.state read := by
    rw [hfirst.decoder]
  have hheld : ∀ front : List Delivery,
      reader.held (read ++ front) = turn.outcome :: turn.reader.held front := by
    intro front
    rw [held_append, hfirst.held_eq, Reader.held, hlimit, hstate]
    rfl
  constructor
  · rw [List.length_append, Source.readings_add, hfirst.readings, hlater.readings]
  · intro count hcount outcome hmem
    rcases Nat.lt_or_ge count read.length with hshort | hlong
    · rw [List.take_append_of_le_length (Nat.le_of_lt hshort), hfirst.held_take_eq_nil hshort]
        at hmem
      cases hmem
    · rw [List.take_append, List.take_of_length_le hlong, hheld] at hmem
      rcases List.mem_cons.mp hmem with rfl | hmem
      · exact hpasses
      · rw [List.length_append] at hcount
        exact hlater.waiting _ (by omega) outcome hmem
  · obtain ⟨passed, hpassed, haccepted, hleft⟩ := hlater.answered
    refine ⟨turn.outcome :: passed, List.forall_mem_cons.mpr ⟨hpasses, hpassed⟩, haccepted, ?_⟩
    rw [hheld, hleft, List.cons_append]
  · rw [hlater.decoder, hlimit, hstate, Source.stateBehind, Source.stateBehind, Source.stateBehind,
      List.foldl_append]

end Demand

/-- A call for the next frame reads until there is an outcome that is no rejection. -/
theorem exists_demand_nextAccepted (reader : Reader) (source : Source) :
    ∃ read, Demand Outcome.isRejection reader source (reader.nextAccepted source) read := by
  fun_induction nextAccepted reader source with
  | case1 reader source turn reason houtcome later ih =>
      obtain ⟨first, hfirst⟩ := exists_demand_next reader source
      obtain ⟨second, hsecond⟩ := ih
      have hrejection : turn.outcome.isRejection = true := by
        rw [houtcome]
        rfl
      have hboth := hfirst.trans hrejection hsecond
      exact ⟨first ++ second, hboth.readings, hboth.waiting, hboth.answered, hboth.decoder⟩
  | case2 reader source turn houtcome =>
      obtain ⟨read, hread⟩ := exists_demand_next reader source
      have haccepted : turn.outcome.isRejection = false := by
        refine Bool.eq_false_iff.mpr fun hrejection => ?_
        obtain ⟨reason, hreason⟩ := Outcome.exists_of_isRejection hrejection
        exact houtcome reason hreason
      refine ⟨read, hread.readings, fun count hcount outcome hmem => ?_, ⟨[], by simp, haccepted,
        hread.held_eq⟩, hread.decoder⟩
      cases hread.waiting count hcount outcome hmem

/-- With an empty queue, a call for the next outcome reads up to the first delivery that settles
it. -/
theorem exists_decisive (hqueue : reader.queue = []) (source : Source) :
    ∃ waited last,
      source.readings room (waited.length + 1) =
        (waited ++ [last], (reader.next source).source) ∧
      Source.Inconclusive reader.limit reader.decoder.state waited ∧
      last.isDecisive reader.limit
        (Source.stateBehind reader.limit reader.decoder.state waited) = true ∧
      (reader.next source).outcome ::
          (reader.next source).reader.queue.map Outcome.ofVerdict =
        Source.outcomes reader.limit
          (Source.stateBehind reader.limit reader.decoder.state waited) [last] := by
  obtain ⟨read, hread⟩ := exists_demand_next reader source
  have hheld : ∀ front, reader.held front =
      Source.outcomes reader.limit reader.decoder.state front := by
    intro front
    rw [held, hqueue]
    rfl
  have hlast := hread.held_eq
  obtain rfl | ⟨waited, last, rfl⟩ := read.eq_nil_or_concat
  · rw [hheld] at hlast
    cases hlast
  rw [List.concat_eq_append] at hread hlast
  have hcount : waited.length < (waited ++ [last]).length := by
    rw [List.length_append]
    exact Nat.lt_succ_self _
  have hwaited := hread.held_take_eq_nil hcount
  rw [List.take_left, hheld] at hwaited
  rw [hheld, Source.outcomes_append, hwaited, List.nil_append] at hlast
  refine ⟨waited, last, ?_, (Source.outcomes_eq_nil_iff waited).mp hwaited, ?_, hlast.symm⟩
  · rw [← hread.readings, List.length_append, List.length_singleton]
  · refine Bool.of_not_eq_false fun hidle => ?_
    rw [(Source.outcomes_singleton_eq_nil_iff last).mpr hidle] at hlast
    cases hlast

/-- A call draws its answer from what is at hand behind its readings, and leaves the others in the
queue. -/
theorem exists_drawn (call : Call) (reader : Reader) (source : Source) :
    ∃ read,
      source.readings room read.length = (read, (call.perform reader source).2.2) ∧
      (call.perform reader source).2.1.decoder =
        ⟨Source.stateBehind reader.limit reader.decoder.state read, reader.limit⟩ ∧
      ∀ later, call.draw (reader.held read ++ later) =
        ((call.perform reader source).1,
          (call.perform reader source).2.1.queue.map Outcome.ofVerdict ++ later) := by
  cases call with
  | next =>
      obtain ⟨read, hread⟩ := exists_demand_next reader source
      refine ⟨read, hread.readings, hread.decoder, fun later => ?_⟩
      rw [hread.held_eq]
      rfl
  | nextAccepted =>
      obtain ⟨read, hread⟩ := exists_demand_nextAccepted reader source
      refine ⟨read, hread.readings, hread.decoder, fun later => ?_⟩
      obtain ⟨passed, hpassed, haccepted, hheld⟩ := hread.answered
      have hskip : (passed ++ (reader.nextAccepted source).outcome ::
          ((reader.nextAccepted source).reader.queue.map Outcome.ofVerdict ++ later)).dropWhile
            Outcome.isRejection =
          (reader.nextAccepted source).outcome ::
            ((reader.nextAccepted source).reader.queue.map Outcome.ofVerdict ++ later) := by
        rw [List.dropWhile_append_of_pos hpassed,
          List.dropWhile_cons_of_neg (Bool.eq_false_iff.mp haccepted)]
      rw [hheld, List.append_assoc, List.cons_append, Call.draw, hskip]
      rfl
  | item =>
      obtain ⟨read, hread⟩ := exists_demand_next reader source
      refine ⟨read, hread.readings, hread.decoder, fun later => ?_⟩
      rw [hread.held_eq]
      rfl

/-! ## Changing the limit -/

/-- A delivery, and the limit in force when it was read. -/
structure Reading where
  limit : Nat
  delivery : Delivery

/-- The outcomes that readings amount to behind a decoder state, each under its own limit. -/
def Reading.outcomes : Decoder.State → List Reading → List Outcome
  | _, [] => []
  | state, reading :: later =>
      Source.outcomes reading.limit state [reading.delivery] ++
        outcomes (reading.delivery.stateBehind reading.limit state) later

theorem Reading.outcomes_map_append (limit : Nat) (state : Decoder.State)
    (deliveries : List Delivery) (later : List Reading) :
    Reading.outcomes state (deliveries.map (Reading.mk limit) ++ later) =
      Source.outcomes limit state deliveries ++
        Reading.outcomes (Source.stateBehind limit state deliveries) later := by
  induction deliveries generalizing state with
  | nil => rfl
  | cons delivery rest ih =>
      rw [List.map_cons, List.cons_append, outcomes, ih,
        Source.outcomes_cons limit state delivery rest, List.append_assoc]
      rfl

/-- What the user of a reader may do with it. -/
inductive Request
  | ask (call : Call)
  | setLimit (limit : Nat)

namespace Request

def call? : Request → Option Call
  | ask call => some call
  | setLimit _ => none

/-- The limits in force at the calls among requests: at each the one that was set last before it,
and the given one as long as none was. -/
def limits (limit : Nat) : List Request → List Nat
  | [] => []
  | setLimit next :: later => limits next later
  | ask _ :: later => limit :: limits limit later

end Request

/-- The answer to a call, and the deliveries that were read for it. -/
structure Served where
  answer : Option Outcome
  read : List Delivery

/-- Serve requests one after the other. -/
def serve : List Request → Reader → Source → List Served
  | [], _, _ => []
  | .setLimit limit :: later, reader, source => serve later (reader.setLimit limit) source
  | .ask call :: later, reader, source =>
      let performed := call.perform reader source
      let made := performed.2.2.readCalls - source.readCalls
      ⟨performed.1, (source.readings room made).1⟩ :: serve later performed.2.1 performed.2.2

/-- The readings made for calls, each under the limit in force at its call. -/
def Reading.ofServed (limits : List Nat) (served : List Served) : List Reading :=
  (List.zipWith (fun limit call => call.read.map (Reading.mk limit)) limits served).flatten

theorem Reading.ofServed_cons (limit : Nat) (limits : List Nat) (call : Served)
    (later : List Served) :
    ofServed (limit :: limits) (call :: later) =
      call.read.map (Reading.mk limit) ++ ofServed limits later := rfl

theorem serve_ask {call : Call} {later : List Request} {read : List Delivery}
    (hread : source.readings room read.length = (read, (call.perform reader source).2.2)) :
    serve (.ask call :: later) reader source =
      ⟨(call.perform reader source).1, read⟩ ::
        serve later (call.perform reader source).2.1 (call.perform reader source).2.2 := by
  have hcalls : (call.perform reader source).2.2.readCalls = source.readCalls + read.length := by
    rw [← source.readCalls_readings room, hread]
  have hmade : (call.perform reader source).2.2.readCalls - source.readCalls = read.length := by
    rw [hcalls, Nat.add_sub_cancel_left]
  simp only [serve, hmade, hread]

/-- The answers are drawn from the queue and from what the readings amount to, each under the limit
that was set last before it. -/
theorem serve_eq_draws (requests : List Request) (reader : Reader) (source : Source) :
    (serve requests reader source).map Served.answer =
      draws (requests.filterMap Request.call?)
        (reader.queue.map Outcome.ofVerdict ++
          Reading.outcomes reader.decoder.state
            (Reading.ofServed (Request.limits reader.limit requests)
              (serve requests reader source))) := by
  induction requests generalizing reader source with
  | nil => rfl
  | cons request later ih =>
      cases request with
      | setLimit limit => exact ih (reader.setLimit limit) source
      | ask call =>
          obtain ⟨read, hread, hdecoder, hdraw⟩ := exists_drawn call reader source
          have hlimit : (call.perform reader source).2.1.limit = reader.limit := by
            rw [limit, hdecoder]
          have hlater := ih (call.perform reader source).2.1 (call.perform reader source).2.2
          rw [hlimit, hdecoder] at hlater
          rw [serve_ask hread, List.map_cons, hlater, Request.limits, Reading.ofServed_cons,
            Reading.outcomes_map_append, ← List.append_assoc, ← held,
            List.filterMap_cons_some (by rfl), draws, hdraw]

/-- What is read for the calls is what the source delivers, in order. -/
theorem serve_readings (requests : List Request) (reader : Reader) (source : Source) :
    (serve requests reader source).flatMap Served.read =
      (source.readings room ((serve requests reader source).flatMap Served.read).length).1 := by
  induction requests generalizing reader source with
  | nil => rfl
  | cons request later ih =>
      cases request with
      | setLimit limit => exact ih (reader.setLimit limit) source
      | ask call =>
          obtain ⟨read, hread, -, -⟩ := exists_drawn call reader source
          rw [serve_ask hread, List.flatMap_cons, List.length_append, Source.readings_add, hread,
            ← ih]

/-- A limit that is set holds for all that is still to be delivered, behind what is unfinished. -/
theorem due_setLimit_supply (reader : Reader) (limit : Nat) (source : Source)
    (more : List Delivery) :
    (reader.setLimit limit).due (source.supply more) =
      reader.queue.map Outcome.ofVerdict ++
        (Source.outcomes limit reader.decoder.state source.deliveries ++
          Source.outcomes limit
            (Source.stateBehind limit reader.decoder.state source.deliveries) more) := by
  rw [← Source.outcomes_append]
  rfl

/-- Every call is answered. With verdicts in its queue a reader makes no reading for the next one.
Otherwise it reads up to the first delivery that settles the call, and asked for a frame it goes on
only as long as there are but rejections. A limit that is set changes neither the queue nor what is
unfinished, and holds for all that is delivered from then on. So, whatever a reader is asked for and
however its limit changes meanwhile, the answers come from its queue and from the deliveries that
its source makes, each under the limit that was set last before the call it was read for. -/
theorem reads_on_demand (reader : Reader) (source : Source) :
    (∀ (call : Call) (rounds : Nat), reader.load source < rounds →
      call.performWithin rounds reader source = some (call.perform reader source)) ∧
    (∀ verdict queue, reader.queue = verdict :: queue →
      reader.next source = ⟨.ofVerdict verdict, { reader with queue := queue }, source, []⟩) ∧
    (reader.queue = [] → ∃ waited last,
      source.readings room (waited.length + 1) =
        (waited ++ [last], (reader.next source).source) ∧
      Source.Inconclusive reader.limit reader.decoder.state waited ∧
      last.isDecisive reader.limit
        (Source.stateBehind reader.limit reader.decoder.state waited) = true ∧
      (reader.next source).outcome ::
          (reader.next source).reader.queue.map Outcome.ofVerdict =
        Source.outcomes reader.limit
          (Source.stateBehind reader.limit reader.decoder.state waited) [last]) ∧
    (∃ read, Demand Outcome.isRejection reader source (reader.nextAccepted source) read) ∧
    (∀ (limit : Nat) (more : List Delivery) (calls : List Call),
      answers calls (reader.setLimit limit) (source.supply more) =
        draws calls (reader.queue.map Outcome.ofVerdict ++
          (Source.outcomes limit reader.decoder.state source.deliveries ++
            Source.outcomes limit
              (Source.stateBehind limit reader.decoder.state source.deliveries) more))) ∧
    ∀ requests : List Request,
      let served := serve requests reader source
      let read := served.flatMap Served.read
      served.map Served.answer =
        draws (requests.filterMap Request.call?)
          (reader.queue.map Outcome.ofVerdict ++
            Reading.outcomes reader.decoder.state
              (Reading.ofServed (Request.limits reader.limit requests) served)) ∧
      read = (source.readings room read.length).1 := by
  refine ⟨fun call _ hrounds => performWithin_eq hrounds call,
    fun _ _ hqueue => next_cons hqueue source, fun hqueue => exists_decisive hqueue source,
    exists_demand_nextAccepted reader source, fun limit more calls => ?_,
    fun requests => ⟨serve_eq_draws requests reader source,
      serve_readings requests reader source⟩⟩
  rw [answers_eq_draws, due_setLimit_supply]

/-- Two candidates that are too short come with the first octets of a third, which has more octets
than the limit allows at first. A limit of nothing does not hold for the second, which waits in the
queue, and an interruption and a greater limit come before the rest of the third. -/
theorem reads_on_demand_across_limits :
    let source : Source :=
      { deliveries := [.octets [flag, 1, flag, 2, flag, 3, 4, 5], .failure (.ofKind .interrupted),
          .octets [6, flag]] }
    let reader := withLimit 3
    let queued : Reader := { reader with queue := [.error .malformedEscape] }
    let requests : List Request :=
      [.ask .next, .setLimit 0, .ask .next, .setLimit 4, .ask .item]
    let served := serve requests reader source
    let tooShort (size : Nat) : Outcome := .error (.rejected (.tooShort size 6))
    Call.nextAccepted.performWithin 15 queued source =
        some (Call.nextAccepted.perform queued source) ∧
      queued.next source = ⟨.error (.rejected .malformedEscape), reader, source, []⟩ ∧
      (∃ waited last,
        source.readings room (waited.length + 1) =
          (waited ++ [last], (reader.next source).source) ∧
        Source.Inconclusive 3 .searching waited ∧
        last.isDecisive 3 (Source.stateBehind 3 .searching waited) = true) ∧
      draws [.next, .next, .item]
          (Reading.outcomes .searching (Reading.ofServed [3, 0, 4] served)) =
        [some (tooShort 1), some (tooShort 1), some (tooShort 4)] := by
  intro source reader queued requests served tooShort
  obtain ⟨hreturns, hqueued, -⟩ := reads_on_demand queued source
  obtain ⟨-, -, hreads, -, -, hserved⟩ := reads_on_demand reader source
  obtain ⟨waited, last, hreadings, hwaited, hlast, -⟩ := hreads rfl
  have hanswers : served.map Served.answer =
      [some (tooShort 1), some (tooShort 1), some (tooShort 4)] := by
    with_unfolding_all rfl
  exact ⟨hreturns .nextAccepted 15 (by decide), hqueued _ [] rfl,
    ⟨waited, last, hreadings, hwaited, hlast⟩, (hserved _).1.symm.trans hanswers⟩

end Reader

end Hdlc
