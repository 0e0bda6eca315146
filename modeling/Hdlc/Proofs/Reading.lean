import Hdlc.Proofs.RoundTrip
import Hdlc.Stream.Reader

/-!
# Reading a source to its end

A reader goes to and fro between its queue and its source, and its source cuts deliveries to the
room there is. None of this shows in what the reader answers. The deliveries amount to one sequence
of outcomes, found by walking through them with a decoder state (`Source.outcomes`), and each call
draws from the front of that sequence: one outcome, or one that is no rejection and all rejections
before it (`calls_draw_from_deliveries`).
-/

namespace Hdlc

namespace Outcome

/-- Whether a rejected candidate is reported. -/
def isRejection : Outcome → Bool
  | .ok _ => false
  | .error error => error.isRejection

theorem exists_of_isRejection {outcome : Outcome} (hrejection : outcome.isRejection = true) :
    ∃ reason, outcome = .error (.rejected reason) := by
  rcases outcome with (reason | _ | _ | _) | frame
  · exact ⟨reason, rfl⟩
  all_goals cases hrejection

/-- What an outcome counts for where the end of a link is no outcome. -/
def item? : Outcome → Option Outcome
  | .error .closed => none
  | outcome => some outcome

theorem item?_of_ne {outcome : Outcome} (hopen : outcome ≠ .error .closed) :
    outcome.item? = some outcome := by
  rcases outcome with (_ | _ | _ | _) | frame
  · rfl
  · rfl
  · rfl
  · exact absurd rfl hopen
  · rfl

end Outcome

namespace Source

/-- The outcomes that deliveries amount to behind a decoder state. A delivery of octets amounts to
the verdicts on them, an interruption to nothing, any other failure to itself, and a delivery of
nothing to the end of the link, behind which a flag is searched for. -/
def outcomes (limit : Nat) : Decoder.State → List Delivery → List Outcome
  | _, [] => []
  | state, .failure failure :: later =>
      if failure.kind = .interrupted then outcomes limit state later
      else .error (.failed failure) :: outcomes limit state later
  | _, .octets [] :: later => .error .closed :: outcomes limit .searching later
  | state, .octets octets :: later =>
      let (next, verdicts) := state.feed limit octets
      verdicts.map Outcome.ofVerdict ++ outcomes limit next later

theorem outcomes_interruption {failure : Failure} (hfailure : failure.kind = .interrupted)
    (limit : Nat) (state : Decoder.State) (later : List Delivery) :
    outcomes limit state (.failure failure :: later) = outcomes limit state later := by
  rw [outcomes, if_pos hfailure]

theorem outcomes_failure {failure : Failure} (hfailure : failure.kind ≠ .interrupted)
    (limit : Nat) (state : Decoder.State) (later : List Delivery) :
    outcomes limit state (.failure failure :: later) =
      .error (.failed failure) :: outcomes limit state later := by
  rw [outcomes, if_neg hfailure]

theorem outcomes_octets {octets : Octets} (hoctets : octets ≠ []) (limit : Nat)
    (state : Decoder.State) (later : List Delivery) :
    outcomes limit state (.octets octets :: later) =
      (state.feed limit octets).2.map Outcome.ofVerdict ++
        outcomes limit (state.feed limit octets).1 later := by
  cases octets with
  | nil => exact absurd rfl hoctets
  | cons octet rest => rfl

/-- A delivery of octets may be cut in two: the decoder state carries on. -/
theorem outcomes_octets_append {first second : Octets} (hfirst : first ≠ []) (hsecond : second ≠ [])
    (limit : Nat) (state : Decoder.State) (later : List Delivery) :
    outcomes limit state (.octets (first ++ second) :: later) =
      outcomes limit state (.octets first :: .octets second :: later) := by
  have hboth : first ++ second ≠ [] := by simp [hfirst]
  rw [outcomes_octets hboth, outcomes_octets hfirst, outcomes_octets hsecond,
    Decoder.State.feed_append, List.map_append, List.append_assoc]

/-- A read takes its delivery off the front of what the deliveries amount to. -/
theorem outcomes_read {room : Nat} (hroom : 0 < room) {source : Source}
    (hsource : source.deliveries ≠ []) (limit : Nat) (state : Decoder.State) :
    outcomes limit state source.deliveries =
      outcomes limit state ((source.read room).1 :: (source.read room).2.deliveries) := by
  obtain ⟨deliveries, calls, delivered⟩ := source
  match deliveries with
  | [] => exact absurd rfl hsource
  | .failure failure :: later => rfl
  | .octets octets :: later =>
      by_cases hlength : octets.length ≤ room
      · simp only [read, if_pos hlength]
      · -- What there is no room for stays in front of the later deliveries.
        have htaken : octets.take room ≠ [] := by
          rw [ne_eq, List.take_eq_nil_iff, not_or]
          refine ⟨by omega, ?_⟩
          rintro rfl
          exact hlength (Nat.zero_le room)
        have hleft : octets.drop room ≠ [] := by
          rw [ne_eq, List.drop_eq_nil_iff]
          exact hlength
        simp only [read, if_neg hlength]
        rw [← outcomes_octets_append htaken hleft, List.take_append_drop]

theorem read_of_deliveries_eq_nil {source : Source} (hsource : source.deliveries = [])
    (room : Nat) :
    (source.read room).1 = .octets [] ∧ (source.read room).2.deliveries = [] := by
  obtain ⟨deliveries, calls, delivered⟩ := source
  subst hsource
  exact ⟨rfl, rfl⟩

end Source

/-! ## Signals -/

/-- What deliveries tell a reader, however they cut the octets between them. -/
inductive Signal
  | received (octet : UInt8)
  | failed (failure : Failure)
  | closed
  deriving DecidableEq, Repr

/-- The signals that a delivery makes. An interruption makes none. -/
def Delivery.signals : Delivery → List Signal
  | .failure cause => if cause.kind = .interrupted then [] else [.failed cause]
  | .octets [] => [.closed]
  | .octets content => content.map .received

namespace Signal

/-- The outcomes that signals amount to behind a decoder state. -/
def outcomes (limit : Nat) : Decoder.State → List Signal → List Outcome
  | _, [] => []
  | state, .received octet :: later =>
      let stepped := state.step limit octet
      stepped.2.toList.map Outcome.ofVerdict ++ outcomes limit stepped.1 later
  | state, .failed failure :: later => .error (.failed failure) :: outcomes limit state later
  | _, .closed :: later => .error .closed :: outcomes limit .searching later

theorem outcomes_map_received_append (limit : Nat) (state : Decoder.State) (octets : Octets)
    (later : List Signal) :
    outcomes limit state (octets.map .received ++ later) =
      (state.feed limit octets).2.map Outcome.ofVerdict ++
        outcomes limit (state.feed limit octets).1 later := by
  induction octets generalizing state with
  | nil => rfl
  | cons octet rest ih =>
      rw [List.map_cons, List.cons_append, outcomes, ih, Decoder.State.feed_cons, List.map_append,
        List.append_assoc]

end Signal

namespace Source

def signals (source : Source) : List Signal :=
  source.deliveries.flatMap Delivery.signals

theorem outcomes_eq_signal_outcomes (limit : Nat) (state : Decoder.State)
    (deliveries : List Delivery) :
    outcomes limit state deliveries =
      Signal.outcomes limit state (deliveries.flatMap Delivery.signals) := by
  induction deliveries generalizing state with
  | nil => rfl
  | cons delivery later ih =>
      rw [List.flatMap_cons]
      cases delivery with
      | failure failure =>
          by_cases hfailure : failure.kind = .interrupted
          · rw [outcomes_interruption hfailure, ih, Delivery.signals, if_pos hfailure]
            rfl
          · rw [outcomes_failure hfailure, ih, Delivery.signals, if_neg hfailure]
            rfl
      | octets octets =>
          cases octets with
          | nil =>
              rw [outcomes, ih]
              rfl
          | cons octet rest =>
              rw [outcomes_octets (List.cons_ne_nil _ _), ih, Delivery.signals,
                Signal.outcomes_map_received_append]
              exact List.cons_ne_nil _ _

end Source

namespace Reader

variable {reader after : Reader} {source : Source} {events : List Decoder.Event}

/-- The outcomes still to be reported: those of the queue, then those the deliveries amount to. -/
def due (reader : Reader) (source : Source) : List Outcome :=
  reader.queue.map Outcome.ofVerdict ++
    Source.outcomes reader.limit reader.decoder.state source.deliveries

/-- With an empty queue, a delivery accounts for the front of what the deliveries amount to: the
error that it is, if any, and the verdicts that it puts into the queue. -/
theorem outcomes_cons_eq_receive (hqueue : reader.queue = []) (delivery : Delivery)
    (later : List Delivery) :
    Source.outcomes reader.limit reader.decoder.state (delivery :: later) =
      (reader.receive delivery).2.1.toList.map .error ++
        ((reader.receive delivery).1.queue.map Outcome.ofVerdict ++
          Source.outcomes (reader.receive delivery).1.limit
            (reader.receive delivery).1.decoder.state later) := by
  cases delivery with
  | failure failure =>
      by_cases hfailure : failure.kind = .interrupted
      · rw [Source.outcomes_interruption hfailure]
        simp [receive, Failure.isInterruption, hfailure, hqueue]
      · rw [Source.outcomes_failure hfailure]
        simp [receive, Failure.isInterruption, hfailure, hqueue]
  | octets octets =>
      cases octets with
      | nil => simp [receive, hqueue, Decoder.reset, Source.outcomes, limit]
      | cons octet rest =>
          rw [Source.outcomes_octets (List.cons_ne_nil _ _)]
          simp [receive, hqueue, limit, Decoder.feed_decoder, Decoder.feed_verdicts]

/-- A reading that finds a delivery takes what it accounts for off the front of what is due. -/
theorem due_eq_receive (hqueue : reader.queue = []) (hsource : source.deliveries ≠ []) :
    reader.due source =
      (reader.receive (source.read room).1).2.1.toList.map .error ++
        (reader.receive (source.read room).1).1.due (source.read room).2 := by
  have hroom : 0 < room := by decide
  rw [due, hqueue, List.map_nil, List.nil_append, Source.outcomes_read hroom hsource,
    outcomes_cons_eq_receive hqueue]
  rfl

/-- A reading that is no error leaves what is due as it was. -/
theorem due_of_receive_none (hqueue : reader.queue = [])
    (hreceive : reader.receive (source.read room).1 = (after, none, events)) :
    after.due (source.read room).2 = reader.due source := by
  have hsource : source.deliveries ≠ [] := by
    intro hnil
    rw [(Source.read_of_deliveries_eq_nil hnil room).1] at hreceive
    cases hreceive
  rw [due_eq_receive hqueue hsource, hreceive]
  rfl

/-- A reading that is an error is the outcome due. Where the source is exhausted none is due, and
the error is that the link is closed. -/
theorem due_of_receive_error {error : LinkError} (hqueue : reader.queue = [])
    (hreceive : reader.receive (source.read room).1 = (after, some error, events)) :
    .error error = (reader.due source).headD (.error .closed) ∧
      after.due (source.read room).2 = (reader.due source).tail := by
  by_cases hsource : source.deliveries = []
  · obtain ⟨hnothing, hleft⟩ := Source.read_of_deliveries_eq_nil hsource room
    rw [hnothing] at hreceive
    cases hreceive
    simp [due, hqueue, hsource, hleft, Source.outcomes]
  · rw [due_eq_receive hqueue hsource, hreceive]
    exact ⟨rfl, rfl⟩

/-- A call for the next outcome takes it off the front of what is due. -/
theorem next_due (reader : Reader) (source : Source) :
    (reader.next source).outcome = (reader.due source).headD (.error .closed) ∧
      (reader.next source).reader.due (reader.next source).source =
        (reader.due source).tail := by
  -- Every reading that is no error makes the source lighter.
  induction hweight : source.weight using Nat.strongRecOn generalizing reader source with
  | ind weight ih =>
      cases hqueue : reader.queue with
      | cons verdict queue =>
          rw [next_cons hqueue, due, due, hqueue]
          exact ⟨rfl, rfl⟩
      | nil =>
          rcases hreceive : reader.receive (source.read room).1 with ⟨after, error | error, events⟩
          · have hlighter := weight_lt_of_receive hreceive
            rw [next_of_none hqueue hreceive, ← due_of_receive_none hqueue hreceive]
            exact ih _ (hweight ▸ hlighter) after _ rfl
          · rw [next_of_error hqueue hreceive]
            exact due_of_receive_error hqueue hreceive

/-- A call for the next frame takes all rejections off the front of what is due, and the outcome
behind them. -/
theorem nextAccepted_due (reader : Reader) (source : Source) :
    (reader.nextAccepted source).outcome =
        ((reader.due source).dropWhile Outcome.isRejection).headD (.error .closed) ∧
      (reader.nextAccepted source).reader.due (reader.nextAccepted source).source =
        ((reader.due source).dropWhile Outcome.isRejection).tail := by
  fun_induction nextAccepted reader source with
  | case1 reader source turn reason houtcome later ih =>
      obtain ⟨hfront, hleft⟩ := next_due reader source
      cases hdue : reader.due source with
      | nil =>
          rw [hdue] at hfront
          cases houtcome.symm.trans hfront
      | cons outcome behind =>
          rw [hdue] at hfront hleft
          have hrejection : outcome = .error (.rejected reason) := hfront.symm.trans houtcome
          subst hrejection
          rw [List.dropWhile_cons_of_pos rfl]
          have hbehind : turn.reader.due turn.source = behind := hleft
          rw [hbehind] at ih
          exact ih
  | case2 reader source turn houtcome =>
      obtain ⟨hfront, hleft⟩ := next_due reader source
      cases hdue : reader.due source with
      | nil =>
          rw [hdue] at hfront hleft
          exact ⟨hfront, hleft⟩
      | cons outcome behind =>
          rw [hdue] at hfront hleft
          have haccepted : ¬outcome.isRejection = true := by
            intro hrejection
            obtain ⟨reason, hreason⟩ := Outcome.exists_of_isRejection hrejection
            exact houtcome reason (hfront.trans hreason)
          rw [List.dropWhile_cons_of_neg haccepted]
          exact ⟨hfront, hleft⟩

/-! ## Calls -/

/-- What a reader may be asked for. -/
inductive Call
  /-- The next outcome. -/
  | next
  /-- The next outcome that is no rejection. -/
  | nextAccepted
  /-- The next outcome, unless it is the end of the link. -/
  | item
  deriving DecidableEq, Repr

/-- The answer to a call, and the reader and the source that it leaves behind. -/
def Call.perform (reader : Reader) (source : Source) : Call → Option Outcome × Reader × Source
  | next =>
      let turn := reader.next source
      (some turn.outcome, turn.reader, turn.source)
  | nextAccepted =>
      let turn := reader.nextAccepted source
      (some turn.outcome, turn.reader, turn.source)
  | item =>
      let turn := reader.next source
      (turn.item?, turn.reader, turn.source)

/-- The answers to calls made one after the other. -/
def answers : List Call → Reader → Source → List (Option Outcome)
  | [], _, _ => []
  | call :: later, reader, source =>
      let performed := call.perform reader source
      performed.1 :: answers later performed.2.1 performed.2.2

/-- What a call draws from the front of the outcomes due, and those it leaves. Where none is left,
the link is closed. -/
def Call.draw (due : List Outcome) : Call → Option Outcome × List Outcome
  | next => (some (due.headD (.error .closed)), due.tail)
  | nextAccepted =>
      let accepted := due.dropWhile Outcome.isRejection
      (some (accepted.headD (.error .closed)), accepted.tail)
  | item => ((due.headD (.error .closed)).item?, due.tail)

/-- What calls draw from the outcomes due, one after the other. -/
def draws : List Call → List Outcome → List (Option Outcome)
  | [], _ => []
  | call :: later, due => (call.draw due).1 :: draws later (call.draw due).2

/-- A call is answered with what it draws from the outcomes due, and leaves the others due. -/
theorem perform_eq_draw (call : Call) (reader : Reader) (source : Source) :
    (call.perform reader source).1 = (call.draw (reader.due source)).1 ∧
      (call.perform reader source).2.1.due (call.perform reader source).2.2 =
        (call.draw (reader.due source)).2 := by
  cases call with
  | next =>
      obtain ⟨hfront, hleft⟩ := next_due reader source
      exact ⟨congrArg some hfront, hleft⟩
  | nextAccepted =>
      obtain ⟨hfront, hleft⟩ := nextAccepted_due reader source
      exact ⟨congrArg some hfront, hleft⟩
  | item =>
      obtain ⟨hfront, hleft⟩ := next_due reader source
      exact ⟨congrArg Outcome.item? hfront, hleft⟩

theorem answers_eq_draws (calls : List Call) (reader : Reader) (source : Source) :
    answers calls reader source = draws calls (reader.due source) := by
  induction calls generalizing reader source with
  | nil => rfl
  | cons call later ih =>
      obtain ⟨hanswer, hleft⟩ := perform_eq_draw call reader source
      rw [answers, draws, hanswer, ih, hleft]

/-- Calls that each draw one outcome are answered with the outcomes due in order. -/
theorem draws_replicate {call : Call} {shown : Outcome → Option Outcome}
    (hdraw : ∀ due, call.draw due = (shown (due.headD (.error .closed)), due.tail))
    (count : Nat) (due : List Outcome) :
    draws (List.replicate count call) due =
      (List.range count).map fun index => shown (due.getD index (.error .closed)) := by
  induction count generalizing due with
  | zero => rfl
  | succ count ih =>
      rw [List.replicate_succ, draws, hdraw, ih, List.range_succ_eq_map, List.map_cons,
        List.map_map]
      cases due with
      | nil => rfl
      | cons outcome later => rfl

/-- Passing over rejections, one comes to the first outcome that is none. -/
theorem filter_eq_dropWhile (due : List Outcome) :
    due.filter (!·.isRejection) =
      (due.dropWhile Outcome.isRejection).take 1 ++
        (due.dropWhile Outcome.isRejection).tail.filter (!·.isRejection) := by
  induction due with
  | nil => rfl
  | cons outcome later ih =>
      by_cases hrejection : outcome.isRejection = true
      · rw [List.dropWhile_cons_of_pos hrejection, List.filter_cons_of_neg (by simp [hrejection]),
          ih]
      · rw [List.dropWhile_cons_of_neg hrejection, List.filter_cons_of_pos (by simp [hrejection])]
        rfl

theorem draws_replicate_nextAccepted (count : Nat) (due : List Outcome) :
    draws (List.replicate count .nextAccepted) due =
      draws (List.replicate count .next) (due.filter (!·.isRejection)) := by
  induction count generalizing due with
  | zero => rfl
  | succ count ih =>
      rw [List.replicate_succ, List.replicate_succ, draws, draws, ih, filter_eq_dropWhile due]
      cases hrest : due.dropWhile Outcome.isRejection with
      | nil => simp [Call.draw, hrest]
      | cons outcome later => simp [Call.draw, hrest]

/-- Items are taken in the order in which outcomes are due, up to the end of the link. -/
theorem items_take (reader : Reader) (source : Source) (count : Nat) :
    (reader.take source count).items =
      ((reader.due source).take count).takeWhile (·.item?.isSome) := by
  induction count generalizing reader source with
  | zero => rfl
  | succ count ih =>
      obtain ⟨hfront, hleft⟩ := next_due reader source
      have hitem : (reader.next source).item? =
          ((reader.due source).headD (.error .closed)).item? := congrArg Outcome.item? hfront
      cases hdue : reader.due source with
      | nil =>
          rw [hdue] at hitem
          rw [take, hitem]
          rfl
      | cons outcome later =>
          rw [hdue, List.headD_cons] at hitem
          rw [hdue, List.tail_cons] at hleft
          rw [take, hitem, List.take_succ_cons]
          by_cases hclosed : outcome = .error .closed
          · subst hclosed
            rfl
          · have houtcome : outcome.item? = some outcome := Outcome.item?_of_ne hclosed
            rw [List.takeWhile_cons_of_pos (by rw [houtcome]; rfl), ← hleft, ← ih]
            simp only [houtcome]

/-- However its calls are mixed, a reader answers them from the outcomes that the deliveries of its
source amount to, in order, and behind those with the end of the link. Asked for every outcome or
for every item, it leaves nothing out; asked for every frame, only the rejections. Items taken until
the link ends are those before its end. How the deliveries cut the octets, and where readings are
interrupted, makes no difference. -/
theorem calls_draw_from_deliveries (limit : Nat) (source : Source) :
    let due := Source.outcomes limit .searching source.deliveries
    (∀ calls, answers calls (withLimit limit) source = draws calls due) ∧
    (∀ count, answers (List.replicate count .next) (withLimit limit) source =
      (List.range count).map fun index => some (due.getD index (.error .closed))) ∧
    (∀ count, answers (List.replicate count .item) (withLimit limit) source =
      (List.range count).map fun index => (due.getD index (.error .closed)).item?) ∧
    (∀ count, answers (List.replicate count .nextAccepted) (withLimit limit) source =
      (List.range count).map fun index =>
        some ((due.filter (!·.isRejection)).getD index (.error .closed))) ∧
    (∀ count, ((withLimit limit).take source count).items =
      (due.take count).takeWhile (·.item?.isSome)) ∧
    (∀ (calls : List Call) (recut : Source), recut.signals = source.signals →
      answers calls (withLimit limit) recut = answers calls (withLimit limit) source) := by
  intro due
  have hdue : ∀ source : Source,
      (withLimit limit).due source = Source.outcomes limit .searching source.deliveries :=
    fun _ => rfl
  refine ⟨fun calls => answers_eq_draws _ _ _, fun count => ?_, fun count => ?_, fun count => ?_,
    fun count => items_take _ source count, fun calls recut hrecut => ?_⟩
  · rw [answers_eq_draws, hdue]
    exact draws_replicate (fun _ => rfl) count due
  · rw [answers_eq_draws, hdue]
    exact draws_replicate (fun _ => rfl) count due
  · rw [answers_eq_draws, hdue, draws_replicate_nextAccepted]
    exact draws_replicate (fun _ => rfl) count _
  · rw [answers_eq_draws, answers_eq_draws, hdue, hdue, Source.outcomes_eq_signal_outcomes,
      Source.outcomes_eq_signal_outcomes]
    exact congrArg (fun signals => draws calls (Signal.outcomes limit .searching signals)) hrecut

/-- A failure between an escape mark and the flag behind it is reported in its place, wherever the
octets before it are cut. -/
theorem calls_draw_across_failure :
    let frame : Frame := ⟨1, ⟨3⟩, [flag]⟩
    let timedOut := Failure.ofKind .timedOut
    let calls : List Call := [.next, .nextAccepted, .nextAccepted, .item, .next]
    let source : Source :=
      { deliveries := [.octets ([flag, 1, 2] ++ frame.encode), .octets [escapeMark],
          .failure timedOut, .octets [flag], .octets []] }
    let recut : Source :=
      { deliveries := [.octets [flag, 1], .failure (.ofKind .interrupted),
          .octets ([2] ++ frame.encode ++ [escapeMark]), .failure timedOut, .octets [flag],
          .octets []] }
    recut.signals = source.signals ∧
      answers calls (withLimit 7) recut = answers calls (withLimit 7) source ∧
      answers calls (withLimit 7) source =
        [some (.error (.rejected (.tooShort 2 6))), some (.ok frame),
          some (.error (.failed timedOut)), some (.error (.rejected .malformedEscape)),
          some (.error .closed)] := by
  intro frame timedOut calls source recut
  obtain ⟨hcalls, -, -, -, -, hrecut⟩ := calls_draw_from_deliveries 7 source
  have hsignals : recut.signals = source.signals := by
    have hinterruption : (Failure.ofKind .interrupted).kind = .interrupted := rfl
    have htimedOut : timedOut.kind ≠ .interrupted := by decide
    simp [recut, source, Source.signals, Delivery.signals, hinterruption, htimedOut]
  have hsize : frame.contentSize = 7 := by
    simp [frame, Frame.contentSize, Address.size, Address.encode, Address.encodeGroups_of_lt,
      Checksum.size]
  have hopen : Decoder.State.feed 7 .searching [flag, 1, 2] = (.inFrame #[1, 2], []) := rfl
  have hframe : Decoder.State.feed 7 .searching ([flag, 1, 2] ++ frame.encode) =
      (.inFrame #[], [.error (.tooShort 2 6), .ok frame]) := by
    rw [Decoder.State.feed_append, hopen, Decoder.State.feed_of_carries (.encode frame)]
    simp [Frame.verdictWithin, hsize]
    rfl
  have hdue : Source.outcomes 7 .searching source.deliveries =
      [.error (.rejected (.tooShort 2 6)), .ok frame, .error (.failed timedOut),
        .error (.rejected .malformedEscape), .error .closed] := by
    rw [Source.outcomes_octets (by simp), hframe]
    rfl
  refine ⟨hsignals, hrecut calls recut hsignals, (hcalls calls).trans ?_⟩
  rw [hdue]
  rfl

end Reader

end Hdlc
