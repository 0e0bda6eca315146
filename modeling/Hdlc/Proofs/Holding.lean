import Hdlc.Decoder.Basic
import Hdlc.Proofs.Relay

/-!
# What a decoder holds

A decoder holds the content of the candidate it is receiving, and it may be given another limit at
any time, also by handing its state on to another decoder. The content may then outgrow the limit
now in force, but never the largest one under which octets of the candidate were taken in
(`Course.Holds.run`). While no limit exceeds a bound, neither does what is held, and no frame that
is accepted is larger (`holding_is_bounded`).
-/

namespace Hdlc.Decoder

/-! ## Single octets -/

namespace State

theorem size_content_step_le_succ (limit : Nat) (state : State) (octet : UInt8) :
    (state.step limit octet).1.content.size ≤ state.content.size + 1 := by
  have hstep := size_content_step limit state octet
  omega

/-- An accepted frame is no larger than a bound on the limit and on what was held before. -/
theorem contentSize_le_of_mem_feed {limit bound : Nat} {state : State} {octets : Octets}
    {frame : Frame} (hlimit : limit ≤ bound) (hstate : state.content.size ≤ bound)
    (hframe : .ok frame ∈ (feed limit state octets).2) : frame.contentSize ≤ bound := by
  induction octets generalizing state with
  | nil => cases hframe
  | cons octet rest ih =>
      rw [feed_cons, List.mem_append] at hframe
      rcases hframe with hnow | hlater
      · rw [Option.mem_toList] at hnow
        obtain ⟨-, content, rfl, haccepted⟩ := accepted_of_step hnow
        exact Nat.le_trans (Frame.contentSize_le_of_ofContent haccepted) hstate
      · refine ih ?_ hlater
        have hstep := size_content_step_le limit state octet
        omega

end State

/-! ## Runs -/

/-- What the owner of a decoder may do with it. -/
inductive Call
  | process (octet : UInt8)
  | feed (octets : Octets)
  | reset
  | setLimit (limit : Nat)
  /-- The state is taken out, and a decoder with the given limit goes on from it. -/
  | handOff (limit : Nat)

namespace Call

/-- The decoder behind a call, and the verdicts that the call returns. -/
def perform (decoder : Decoder) : Call → Decoder × List Verdict
  | process octet =>
      let (next, verdict, _) := decoder.advance octet
      (next, verdict.toList)
  | feed octets =>
      let progress := decoder.feed octets
      (progress.decoder, progress.verdicts)
  | reset => (decoder.reset.1, [])
  | setLimit limit => ({ decoder with limit := limit }, [])
  | handOff limit => (⟨decoder.state, limit⟩, [])

/-- The limit that a call puts in force, if any. -/
def limit? : Call → Option Nat
  | setLimit limit => some limit
  | handOff limit => some limit
  | _ => none

end Call

/-- The largest limit under which octets of a candidate were taken in, after one more octet. With a
flag another candidate begins. -/
def widen (limit widest : Nat) (octet : UInt8) : Nat :=
  if octet = flag then 0 else max widest limit

theorem size_content_step_le_widen {state : State} {widest : Nat}
    (hstate : state.content.size ≤ widest) (limit : Nat) (octet : UInt8) :
    (state.step limit octet).1.content.size ≤ widen limit widest octet := by
  rw [widen]
  split
  next hflag =>
    subst hflag
    rw [State.step_flag]
    exact Nat.le_refl _
  next =>
    have hstep := State.size_content_step_le limit state octet
    omega

theorem size_content_feed_le_foldl_widen {state : State} {widest : Nat}
    (hstate : state.content.size ≤ widest) (limit : Nat) (octets : Octets) :
    (state.feed limit octets).1.content.size ≤ octets.foldl (widen limit) widest := by
  induction octets generalizing state widest with
  | nil => exact hstate
  | cons octet rest ih =>
      rw [State.feed_cons, List.foldl_cons]
      exact ih (size_content_step_le_widen hstate limit octet)

theorem foldl_widen_le {limit widest bound : Nat} (hlimit : limit ≤ bound)
    (hwidest : widest ≤ bound) (octets : Octets) :
    octets.foldl (widen limit) widest ≤ bound := by
  induction octets generalizing widest with
  | nil => exact hwidest
  | cons octet rest ih =>
      rw [List.foldl_cons]
      apply ih
      rw [widen]
      split
      next => exact Nat.zero_le _
      next => exact Nat.max_le.mpr ⟨hwidest, hlimit⟩

/-- How far a run of calls has come. -/
structure Course where
  decoder : Decoder
  /-- The verdicts returned so far. -/
  verdicts : List Verdict := []
  /-- The largest limit under which octets of the current candidate were taken in. -/
  widest : Nat := 0

namespace Course

/-- Make one more call. -/
def make (course : Course) (call : Call) : Course :=
  let (next, verdicts) := call.perform course.decoder
  { decoder := next
    verdicts := course.verdicts ++ verdicts
    widest :=
      match call with
      | .process octet => widen course.decoder.limit course.widest octet
      | .feed octets => octets.foldl (widen course.decoder.limit) course.widest
      | .reset => 0
      | .setLimit _ => course.widest
      | .handOff _ => course.widest }

def run (course : Course) (calls : List Call) : Course :=
  calls.foldl make course

/-- Feeding is processing one octet after the other. -/
theorem make_feed (course : Course) (octets : Octets) :
    course.make (.feed octets) = course.run (octets.map .process) := by
  induction octets generalizing course with
  | nil => simp [make, run, Call.perform]
  | cons octet rest ih =>
      rw [List.map_cons, run, List.foldl_cons, ← run, ← ih]
      simp [make, Call.perform, feed_cons]

/-- The content held keeps within the largest limit of its reception. -/
def Holds (course : Course) : Prop :=
  course.decoder.state.content.size ≤ course.widest

/-- Neither the limits of a run nor the frames it has accepted exceed a bound. -/
structure Within (course : Course) (bound : Nat) : Prop where
  limit_le : course.decoder.limit ≤ bound
  widest_le : course.widest ≤ bound
  contentSize_le : ∀ frame, .ok frame ∈ course.verdicts → frame.contentSize ≤ bound

variable {course : Course} {bound : Nat}

theorem Holds.make_feed (hholds : course.Holds) (octets : Octets) :
    (course.make (.feed octets)).Holds := by
  have hfeed := size_content_feed_le_foldl_widen hholds course.decoder.limit octets
  rw [Holds, Course.make, Call.perform]
  simp only [feed_decoder]
  exact hfeed

theorem Holds.make (hholds : course.Holds) (call : Call) : (course.make call).Holds := by
  cases call with
  | process octet =>
      have hfeed := hholds.make_feed [octet]
      rwa [Course.make_feed] at hfeed
  | feed octets => exact hholds.make_feed octets
  | reset => exact Nat.le_refl 0
  | setLimit limit => exact hholds
  | handOff limit => exact hholds

theorem Holds.run (hholds : course.Holds) (calls : List Call) : (course.run calls).Holds := by
  induction calls generalizing course with
  | nil => exact hholds
  | cons call later ih => exact ih (hholds.make call)

theorem Within.make_feed (hwithin : course.Within bound) (hholds : course.Holds)
    (octets : Octets) : (course.make (.feed octets)).Within bound := by
  obtain ⟨hlimit, hwidest, hverdicts⟩ := hwithin
  refine ⟨?_, foldl_widen_le hlimit hwidest octets, ?_⟩
  · rw [Course.make, Call.perform]
    simp only [feed_decoder]
    exact hlimit
  · intro frame hframe
    rw [Course.make, Call.perform] at hframe
    simp only [feed_verdicts, List.mem_append] at hframe
    rcases hframe with hearlier | hnow
    · exact hverdicts frame hearlier
    · exact State.contentSize_le_of_mem_feed hlimit (Nat.le_trans hholds hwidest) hnow

theorem Within.make (hwithin : course.Within bound) (hholds : course.Holds) {call : Call}
    (hcall : ∀ limit ∈ call.limit?, limit ≤ bound) : (course.make call).Within bound := by
  -- Calls that take in no octet return no verdict.
  have hverdicts : ∀ frame, .ok frame ∈ course.verdicts ++ [] → frame.contentSize ≤ bound := by
    rw [List.append_nil]
    exact hwithin.contentSize_le
  cases call with
  | process octet =>
      have hfeed := hwithin.make_feed hholds [octet]
      rwa [Course.make_feed] at hfeed
  | feed octets => exact hwithin.make_feed hholds octets
  | reset => exact ⟨hwithin.limit_le, Nat.zero_le bound, hverdicts⟩
  | setLimit limit => exact ⟨hcall limit rfl, hwithin.widest_le, hverdicts⟩
  | handOff limit => exact ⟨hcall limit rfl, hwithin.widest_le, hverdicts⟩

theorem Within.run (hwithin : course.Within bound) (hholds : course.Holds) {calls : List Call}
    (hcalls : ∀ call ∈ calls, ∀ limit ∈ call.limit?, limit ≤ bound) :
    (course.run calls).Within bound := by
  induction calls generalizing course with
  | nil => exact hwithin
  | cons call later ih =>
      obtain ⟨hcall, hlater⟩ := List.forall_mem_cons.mp hcalls
      exact ih (hwithin.make hholds hcall) (hholds.make call) hlater

/-- The course of a decoder that has been given nothing yet. -/
def fresh (limit : Nat) : Course :=
  { decoder := { state := .searching, limit := limit } }

theorem holds_fresh (limit : Nat) : (fresh limit).Holds :=
  Nat.le_refl 0

theorem within_fresh (limit : Nat) : (fresh limit).Within limit :=
  ⟨Nat.le_refl limit, Nat.zero_le limit, fun _ hframe => absurd hframe List.not_mem_nil⟩

end Course

/-- However a decoder is used, the content it holds is never longer than the largest limit under
which octets of the current candidate were taken in. While no limit beyond the first is put in
force, it keeps within that one, and so does every frame that is accepted. A run may end anywhere,
also among octets that are fed. A single octet leads no further than the limit or what was held
before, and adds one at most. -/
theorem holding_is_bounded (limit : Nat) :
    (∀ calls : List Call,
      let course := (Course.fresh limit).run calls
      course.decoder.state.content.size ≤ course.widest ∧
        ((∀ call ∈ calls, ∀ later ∈ call.limit?, later ≤ limit) →
          course.decoder.state.content.size ≤ limit ∧
            ∀ frame, .ok frame ∈ course.verdicts → frame.payload.length + 6 ≤ limit)) ∧
    (∀ (course : Course) (octets : Octets),
      course.make (.feed octets) = course.run (octets.map .process)) ∧
    (∀ (state : State) (octet : UInt8),
      (state.step limit octet).1.content.size ≤ max state.content.size limit ∧
        (state.step limit octet).1.content.size ≤ state.content.size + 1) := by
  refine ⟨fun calls => ?_, Course.make_feed, fun state octet => ?_⟩
  · have hholds := (Course.holds_fresh limit).run calls
    refine ⟨hholds, fun hcalls => ?_⟩
    have hwithin := (Course.within_fresh limit).run (Course.holds_fresh limit) hcalls
    refine ⟨Nat.le_trans hholds hwithin.widest_le, fun frame hframe => ?_⟩
    have hsize := hwithin.contentSize_le frame hframe
    have haddress := Address.size_pos frame.address
    rw [Frame.contentSize, Checksum.size] at hsize
    omega
  · exact ⟨State.size_content_step_le limit state octet,
      State.size_content_step_le_succ limit state octet⟩

/-- A frame at the limit goes over to a decoder with a smaller one, which holds all of its content
and accepts it. -/
theorem holding_is_bounded_across_handOff :
    let body : Octets := [3, 3, flag]
    let octets := flag :: escape (body ++ Checksum.sequence body)
    let calls : List Call := [.feed octets, .handOff 2]
    let held := (Course.fresh 7).run calls
    let closed := (Course.fresh 7).run (calls ++ [.process flag])
    held.decoder.limit = 2 ∧ held.decoder.state.content.size = 7 ∧
      held.decoder.state.content.size ≤ held.widest ∧
      (∀ call ∈ calls ++ [.process flag], ∀ later ∈ call.limit?, later ≤ 7) ∧
      closed.verdicts = [.ok ⟨1, ⟨3⟩, [flag]⟩] ∧ 1 + 6 ≤ 7 := by
  intro body octets calls held closed
  obtain ⟨hruns, -, -⟩ := holding_is_bounded 7
  have hcalls : ∀ call ∈ calls ++ [.process flag], ∀ later ∈ call.limit?, later ≤ 7 := by
    simp [calls, Call.limit?]
  have hverdicts : closed.verdicts = [.ok ⟨1, ⟨3⟩, [flag]⟩] := by
    decide +kernel
  obtain ⟨-, haccepted⟩ := (hruns (calls ++ [.process flag])).2 hcalls
  refine ⟨rfl, by decide +kernel, (hruns calls).1, hcalls, hverdicts, ?_⟩
  exact haccepted ⟨1, ⟨3⟩, [flag]⟩ (by rw [hverdicts]; exact List.mem_singleton_self _)

end Hdlc.Decoder
