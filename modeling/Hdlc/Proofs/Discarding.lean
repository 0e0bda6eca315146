import Hdlc.Decoder.Basic
import Hdlc.Proofs.Segment
import Mathlib.Data.List.TakeWhile

/-!
# What a decoder discards

A decoder reports the octets and candidates that it discards. The octets are those before the first
flag and, in a segment with a fault, those behind the octet that completes the fault
(`Segment.behindFault`); the candidates are those rejected. However a stream is cut into chunks, the
log has an entry for each of them, in order, and no others (`log_accounts_for_stream`). A reset
reports that content is lost just where a flag would have closed the frame with a verdict.
-/

namespace Hdlc

namespace Segment

/-! ## Behind a fault -/

/-- The octets that a token takes up. -/
def Token.octets : Token → Octets
  | plain octet => [octet]
  | escaped sent => [escapeMark, sent]
  | cut => [escapeMark]

/-- The octets behind the first token at fault of a segment that continues content of `start`
octets. Without a fault there are none. -/
def behindFault (limit start : Nat) (segment : Octets) : Octets :=
  (((tokens segment).zipIdx start).dropWhile fun (token, index) =>
    (token.fault? limit index).isNone).tail.flatMap fun (token, _) => token.octets

/-- Tokens take up the whole of their segment. -/
theorem flatMap_octets_tokens (segment : Octets) (start : Nat) :
    ((tokens segment).zipIdx start).flatMap (fun (token, _) => token.octets) = segment := by
  fun_induction tokens segment generalizing start with
  | case1 => rfl
  | case2 => rfl
  | case3 sent rest ih =>
      rw [List.zipIdx_cons, List.flatMap_cons, ih]
      rfl
  | case4 octet rest hplain ih =>
      rw [List.zipIdx_cons, List.flatMap_cons, ih]
      rfl

/-- If the first token is at fault, the rest of the segment is behind it. -/
theorem behindFault_of_tokens {token : Token} {segment rest : Octets}
    (htokens : tokens segment = token :: tokens rest) (limit start : Nat) :
    behindFault limit start segment =
      if token.fault? limit start = none then behindFault limit (start + 1) rest else rest := by
  rw [behindFault, htokens, List.zipIdx_cons, List.dropWhile_cons]
  simp only [Option.isNone_iff_eq_none]
  split
  next => rfl
  next => rw [List.tail_cons, flatMap_octets_tokens]

theorem behindFault_cons {octet : UInt8} (hplain : octet ≠ escapeMark) (limit start : Nat)
    (rest : Octets) :
    behindFault limit start (octet :: rest) =
      if limit ≤ start then rest else behindFault limit (start + 1) rest := by
  rw [behindFault_of_tokens (tokens_cons hplain rest), Token.fault?]
  by_cases hfull : limit ≤ start
  · simp [hfull]
  · simp [hfull]

theorem behindFault_escapeMark_cons (limit start : Nat) (sent : UInt8) (rest : Octets) :
    behindFault limit start (escapeMark :: sent :: rest) =
      if sent ∉ transposedOctets then rest
      else if limit ≤ start then rest
      else behindFault limit (start + 1) rest := by
  rw [behindFault_of_tokens (tokens_escapeMark_cons sent rest), Token.fault?_escaped]
  by_cases hsent : sent ∈ transposedOctets
  · by_cases hfull : limit ≤ start
    · simp [hsent, hfull]
    · simp [hsent, hfull]
  · simp [hsent]

/-- The octets of a stream that are outside of frames: those before the first flag and, in every
segment between flags, those behind its fault. -/
def strays (limit : Nat) (octets : Octets) : Octets :=
  octets.takeWhile (· ≠ flag) ++ (octets.splitOn flag).tail.flatMap (behindFault limit 0)

end Segment

namespace Decoder

open State Segment

/-! ## Feeding -/

theorem feed_append (decoder : Decoder) (first second : Octets) :
    decoder.feed (first ++ second) =
      ⟨((decoder.feed first).decoder.feed second).decoder,
        (decoder.feed first).verdicts ++ ((decoder.feed first).decoder.feed second).verdicts,
        (decoder.feed first).events ++ ((decoder.feed first).decoder.feed second).events⟩ := by
  induction first generalizing decoder with
  | nil => rfl
  | cons octet rest ih => simp [feed_cons, ih]

/-- Feed a stream chunk by chunk. -/
def feedChunks (decoder : Decoder) : List Octets → Progress
  | [] => ⟨decoder, [], []⟩
  | chunk :: later =>
      let first := decoder.feed chunk
      let rest := first.decoder.feedChunks later
      ⟨rest.decoder, first.verdicts ++ rest.verdicts, first.events ++ rest.events⟩

/-- It makes no difference where a stream is cut into chunks. -/
theorem feedChunks_eq (decoder : Decoder) (chunks : List Octets) :
    decoder.feedChunks chunks = decoder.feed chunks.flatten := by
  induction chunks generalizing decoder with
  | nil => rfl
  | cons chunk later ih => rw [feedChunks, List.flatten_cons, feed_append, ih]

/-! ## Faults -/

/-- What is behind the fault of a segment: nothing if the segment goes without a verdict, and
otherwise what follows the octet at which the candidate is rejected. -/
inductive FollowsFault (limit : Nat) (state : State) : Octets → Octets → Prop
  | whole {segment : Octets} (hverdicts : (state.feed limit segment).2 = []) :
      FollowsFault limit state segment []
  | broken {front behind : Octets} {octet : UInt8} {reason : Rejection}
      (hfront : (state.feed limit front).2 = [])
      (hfault : (state.feed limit front).1.step limit octet = (searching, some (.error reason)))
      (hreason : reason = .malformedEscape ∨ reason = .tooLong limit) :
      FollowsFault limit state (front ++ octet :: behind) behind

section FollowsFault

variable {limit : Nat} {state next : State} {octet : UInt8} {rest behind : Octets}

theorem FollowsFault.cons (hrest : FollowsFault limit next rest behind)
    (hstep : state.step limit octet = (next, none)) :
    FollowsFault limit state (octet :: rest) behind := by
  cases hrest with
  | whole hverdicts =>
      refine .whole ?_
      rw [State.feed_cons, hstep, hverdicts]
      rfl
  | broken hfront hfault hreason =>
      rw [← List.cons_append]
      refine .broken ?_ ?_ hreason
      · rw [State.feed_cons, hstep, hfront]
        rfl
      · rw [State.feed_cons, hstep]
        exact hfault

theorem FollowsFault.of_step {reason : Rejection}
    (hstep : state.step limit octet = (searching, some (.error reason)))
    (hreason : reason = .malformedEscape ∨ reason = .tooLong limit) (rest : Octets) :
    FollowsFault limit state (octet :: rest) rest := by
  have hbroken : FollowsFault limit state ([] ++ octet :: rest) rest :=
    .broken rfl hstep hreason
  exact hbroken

theorem FollowsFault.of_gather {gathered : Array UInt8} {plain : UInt8}
    (hstep : state.step limit octet = gather limit gathered plain)
    (hrest : FollowsFault limit (inFrame (gathered.push plain)) rest
      (behindFault limit (gathered.size + 1) rest)) :
    FollowsFault limit state (octet :: rest)
      (if limit ≤ gathered.size then rest else behindFault limit (gathered.size + 1) rest) := by
  by_cases hfull : limit ≤ gathered.size
  · rw [if_pos hfull]
    rw [gather, if_pos hfull] at hstep
    exact .of_step hstep (.inr rfl) rest
  · rw [if_neg hfull]
    rw [gather, if_neg hfull] at hstep
    exact hrest.cons hstep

/-- What is behind the fault of a segment follows the octet at which it is rejected. -/
theorem followsFault_behindFault (limit : Nat) (gathered : Array UInt8) {segment : Octets}
    (hflag : flag ∉ segment) :
    FollowsFault limit (inFrame gathered) segment (behindFault limit gathered.size segment) := by
  fun_induction tokens segment generalizing gathered with
  | case1 => exact .whole rfl
  | case2 => exact .whole rfl
  | case3 sent rest ih =>
      have hpair : flag ∉ sent :: rest := List.not_mem_of_not_mem_cons hflag
      have hsent : sent ≠ flag := Ne.symm (List.ne_of_not_mem_cons hpair)
      have hrest : flag ∉ rest := List.not_mem_of_not_mem_cons hpair
      have hmark : step limit (inFrame gathered) escapeMark = (escaping gathered, none) := rfl
      rw [behindFault_escapeMark_cons]
      refine FollowsFault.cons ?_ hmark
      by_cases htransposed : sent ∈ transposedOctets
      · have hstep : step limit (escaping gathered) sent =
            gather limit gathered (transpose sent) := by
          rw [step, unescapeOctet, if_pos htransposed]
        rw [if_neg (not_not_intro htransposed)]
        apply FollowsFault.of_gather hstep
        rw [← Array.size_push]
        exact ih _ hrest
      · have hstep : step limit (escaping gathered) sent =
            (searching, some (.error .malformedEscape)) := by
          rw [step, unescapeOctet, if_neg htransposed]
          simp only [if_neg hsent]
        rw [if_pos htransposed]
        exact .of_step hstep (.inl rfl) rest
  | case4 octet rest hplain ih =>
      have hoctet : octet ≠ flag := Ne.symm (List.ne_of_not_mem_cons hflag)
      have hrest : flag ∉ rest := List.not_mem_of_not_mem_cons hflag
      have hstep : step limit (inFrame gathered) octet = gather limit gathered octet := by
        rw [step, if_neg hoctet, if_neg hplain]
      rw [behindFault_cons hplain]
      apply FollowsFault.of_gather hstep
      rw [← Array.size_push]
      exact ih _ hrest

end FollowsFault

/-! ## Events -/

/-- The octet that an event reports to be outside of frames. -/
def Event.stray? : Event → Option UInt8
  | strayOctet octet => some octet
  | _ => none

/-- The reason for the rejection that an event reports. -/
def Event.reason? : Event → Option Rejection
  | rejected reason => some reason
  | _ => none

/-- The octets that are reported to be outside of frames. -/
def Progress.strays (progress : Progress) : Octets :=
  progress.events.filterMap Event.stray?

/-- The reason of a verdict against a candidate. -/
def reason? : Verdict → Option Rejection
  | .ok _ => none
  | .error reason => some reason

theorem advance_events (decoder : Decoder) (octet : UInt8) :
    (decoder.advance octet).2.2 = strayEvents decoder.state octet ++
      verdictEvents (decoder.state.step decoder.limit octet).2 := rfl

theorem filterMap_reason?_advance (decoder : Decoder) (octet : UInt8) :
    (decoder.advance octet).2.2.filterMap Event.reason? =
      (decoder.advance octet).2.1.toList.filterMap reason? := by
  have hstray : (strayEvents decoder.state octet).filterMap Event.reason? = [] := by
    rw [strayEvents]
    split
    next => rfl
    next => rfl
  rw [advance_events, List.filterMap_append, hstray, List.nil_append, advance_verdict]
  rcases (decoder.state.step decoder.limit octet).2 with _ | reason | frame
  · rfl
  · rfl
  · rfl

/-- The rejections reported are those returned. -/
theorem filterMap_reason?_feed (decoder : Decoder) (octets : Octets) :
    (decoder.feed octets).events.filterMap Event.reason? =
      (decoder.feed octets).verdicts.filterMap reason? := by
  induction octets generalizing decoder with
  | nil => rfl
  | cons octet rest ih =>
      rw [feed_cons, List.filterMap_append, List.filterMap_append, filterMap_reason?_advance, ih]

/-- Feeding reports stray octets and rejections, and nothing else. -/
theorem stray_or_rejected_of_mem_feed {decoder : Decoder} {octets : Octets} {event : Event}
    (hevent : event ∈ (decoder.feed octets).events) :
    (∃ octet, event = .strayOctet octet) ∨ ∃ reason, event = .rejected reason := by
  induction octets generalizing decoder with
  | nil => cases hevent
  | cons octet rest ih =>
      rw [feed_cons, List.mem_append, advance_events, List.mem_append] at hevent
      rcases hevent with (hstray | hverdict) | hlater
      · rw [strayEvents] at hstray
        split at hstray
        next => exact .inl ⟨octet, List.mem_singleton.mp hstray⟩
        next => cases hstray
      · generalize (decoder.state.step decoder.limit octet).2 = verdict at hverdict
        rcases verdict with _ | reason | frame
        · cases hverdict
        · exact .inr ⟨reason, List.mem_singleton.mp hverdict⟩
        · cases hverdict
      · exact ih hlater

/-! ## Stray octets -/

theorem filterMap_stray?_advance (decoder : Decoder) (octet : UInt8) :
    (decoder.advance octet).2.2.filterMap Event.stray? =
      if decoder.state.isSearching ∧ octet ≠ flag then [octet] else [] := by
  have hverdict : ∀ verdict, (verdictEvents verdict).filterMap Event.stray? = [] := by
    rintro (_ | reason | frame)
    · rfl
    · rfl
    · rfl
  rw [advance_events, List.filterMap_append, hverdict, List.append_nil, strayEvents]
  simp only [Bool.and_eq_true, bne_iff_ne]
  split
  next => rfl
  next => rfl

theorem strays_feed_cons (state : State) (limit : Nat) (octet : UInt8) (rest : Octets) :
    ((Decoder.mk state limit).feed (octet :: rest)).strays =
      (if state.isSearching ∧ octet ≠ flag then [octet] else []) ++
        ((Decoder.mk (state.step limit octet).1 limit).feed rest).strays := by
  rw [feed_cons, Progress.strays, List.filterMap_append, filterMap_stray?_advance, advance_decoder]
  rfl

theorem strays_feed_append (decoder : Decoder) (first second : Octets) :
    (decoder.feed (first ++ second)).strays =
      (decoder.feed first).strays ++ ((decoder.feed first).decoder.feed second).strays := by
  rw [feed_append, Progress.strays, List.filterMap_append]
  rfl

theorem strays_feed_cons_of_not_isSearching {state : State} (hstate : ¬state.isSearching = true)
    (limit : Nat) (octet : UInt8) (rest : Octets) :
    ((Decoder.mk state limit).feed (octet :: rest)).strays =
      ((Decoder.mk (state.step limit octet).1 limit).feed rest).strays := by
  rw [strays_feed_cons, if_neg (not_and_of_not_left _ hstate), List.nil_append]

/-- Between a fault and the next flag, all octets are stray. -/
theorem strays_feed_searching (limit : Nat) {octets : Octets} (hflag : flag ∉ octets) :
    ((Decoder.mk searching limit).feed octets).strays = octets := by
  induction octets with
  | nil => rfl
  | cons octet rest ih =>
      have hoctet : octet ≠ flag := Ne.symm (List.ne_of_not_mem_cons hflag)
      have hstep : step limit searching octet = (searching, none) := if_neg hoctet
      rw [strays_feed_cons, if_pos ⟨rfl, hoctet⟩, hstep, ih (List.not_mem_of_not_mem_cons hflag)]
      rfl

theorem not_isSearching_of_gather {limit : Nat} {content : Array UInt8} {octet : UInt8}
    (hgather : (gather limit content octet).2 = none) :
    ¬(gather limit content octet).1.isSearching = true := by
  unfold gather at hgather ⊢
  split
  next hfull => simp [hfull] at hgather
  next => exact Bool.false_ne_true

/-- A decoder that is not searching begins to only with a verdict. -/
theorem not_isSearching_of_step {state : State} (hstate : ¬state.isSearching = true) {limit : Nat}
    {octet : UInt8} (hstep : (state.step limit octet).2 = none) :
    ¬(state.step limit octet).1.isSearching = true := by
  cases state with
  | searching => exact absurd rfl hstate
  | inFrame content =>
      rw [step] at hstep ⊢
      split_ifs at hstep ⊢
      · exact Bool.false_ne_true
      · exact Bool.false_ne_true
      · exact not_isSearching_of_gather hstep
  | escaping content =>
      rw [step] at hstep ⊢
      split at hstep
      next => exact not_isSearching_of_gather hstep
      next => cases hstep

theorem strays_feed_of_verdicts_eq_nil {state : State} (hstate : ¬state.isSearching = true)
    {limit : Nat} {octets : Octets} (hverdicts : (state.feed limit octets).2 = []) :
    ((Decoder.mk state limit).feed octets).strays = [] ∧
      ¬(state.feed limit octets).1.isSearching = true := by
  induction octets generalizing state with
  | nil => exact ⟨rfl, hstate⟩
  | cons octet rest ih =>
      rw [State.feed_cons, List.append_eq_nil_iff, Option.toList_eq_nil_iff] at hverdicts
      obtain ⟨hnone, hrest⟩ := hverdicts
      rw [strays_feed_cons_of_not_isSearching hstate, State.feed_cons]
      exact ih (not_isSearching_of_step hstate hnone) hrest

/-- Inside a frame, the octets behind the fault of a segment are stray. -/
theorem strays_feed_inFrame (limit : Nat) (gathered : Array UInt8) {segment : Octets}
    (hflag : flag ∉ segment) :
    ((Decoder.mk (inFrame gathered) limit).feed segment).strays =
      behindFault limit gathered.size segment := by
  have hstate : ¬(inFrame gathered).isSearching = true := Bool.false_ne_true
  have hfollows := followsFault_behindFault limit gathered hflag
  generalize behindFault limit gathered.size segment = behind at hfollows
  cases hfollows with
  | whole hverdicts => exact (strays_feed_of_verdicts_eq_nil hstate hverdicts).1
  | broken hfront hfault =>
      obtain ⟨hnone, hinside⟩ := strays_feed_of_verdicts_eq_nil hstate hfront
      have hbehind : flag ∉ behind := fun hmem => hflag (by simp [hmem])
      rw [strays_feed_append, hnone, feed_decoder, strays_feed_cons_of_not_isSearching hinside,
        hfault, strays_feed_searching limit hbehind]
      rfl

theorem strays_feed_flag_cons (state : State) (limit : Nat) (rest : Octets) :
    ((Decoder.mk state limit).feed (flag :: rest)).strays =
      ((Decoder.mk (inFrame #[]) limit).feed rest).strays := by
  rw [strays_feed_cons, if_neg (by simp), List.nil_append, step_flag]

/-- Behind a flag, each segment has its stray octets. -/
theorem strays_feed_inFrame_eq_flatMap (limit : Nat) (octets : Octets) :
    ((Decoder.mk (inFrame #[]) limit).feed octets).strays =
      (octets.splitOn flag).flatMap (behindFault limit 0) := by
  induction octets using Segment.induction_on with
  | last segment hflag =>
      rw [List.splitOn_eq_singleton hflag, strays_feed_inFrame limit #[] hflag,
        List.flatMap_singleton]
      rfl
  | whole segment later hflag ih =>
      rw [List.splitOn_append_cons_self_of_not_mem hflag, strays_feed_append,
        strays_feed_inFrame limit #[] hflag, feed_decoder, strays_feed_flag_cons, ih,
        List.flatMap_cons]
      rfl

/-- From the start, the octets reported are those outside of frames. -/
theorem strays_feed (limit : Nat) (octets : Octets) :
    ((Decoder.mk searching limit).feed octets).strays = Segment.strays limit octets := by
  have hbefore : ∀ noise : Octets, flag ∉ noise →
      ∀ octet ∈ noise, decide (octet ≠ flag) = true := by
    rintro noise hnoise octet hoctet
    simp only [decide_eq_true_eq]
    rintro rfl
    exact hnoise hoctet
  by_cases hflag : flag ∈ octets
  · obtain ⟨noise, rest, rfl, hnoise⟩ := List.eq_append_cons_of_mem hflag
    rw [Segment.strays, List.splitOn_append_cons_self_of_not_mem hnoise, List.tail_cons,
      List.takeWhile_append_of_pos (hbefore noise hnoise), strays_feed_append,
      strays_feed_searching limit hnoise, feed_decoder, strays_feed_flag_cons,
      strays_feed_inFrame_eq_flatMap]
    simp
  · rw [Segment.strays, List.splitOn_eq_singleton hflag, strays_feed_searching limit hflag,
      List.takeWhile_eq_self_iff.mpr (hbefore octets hflag)]
    exact (List.append_nil octets).symm

/-! ## Log entries -/

theorem filter_debug_entry (events : List Event) :
    (events.map Event.entry).filter (·.level = .debug) =
      (events.filterMap Event.reason?).map fun reason => (Event.rejected reason).entry := by
  induction events with
  | nil => rfl
  | cons event later ih =>
      cases event with
      | strayOctet octet => exact ih
      | rejected reason => exact congrArg (_ :: ·) ih
      | dropped gathered => exact ih

theorem filter_trace_entry {events : List Event}
    (hevents : ∀ event ∈ events,
      (∃ octet, event = .strayOctet octet) ∨ ∃ reason, event = .rejected reason) :
    (events.map Event.entry).filter (·.level = .trace) =
      (events.filterMap Event.stray?).map fun octet => (Event.strayOctet octet).entry := by
  induction events with
  | nil => rfl
  | cons event later ih =>
      obtain ⟨hevent, hlater⟩ := List.forall_mem_cons.mp hevents
      rcases hevent with ⟨octet, rfl⟩ | ⟨reason, rfl⟩
      · exact congrArg (_ :: ·) (ih hlater)
      · exact ih hlater

/-! ## Resets -/

theorem closing?_eq_none_iff (state : State) :
    state.closing? = none ↔ ¬state.isUnfinished = true := by
  cases state with
  | searching => simp [closing?, isUnfinished]
  | inFrame content => simp [closing?, isUnfinished]
  | escaping content => simp [closing?, isUnfinished]

/-- A reset reports that content is dropped just where a flag would bring about a verdict. -/
theorem reset_events (decoder : Decoder) :
    decoder.reset.2 =
      if (decoder.feed [flag]).verdicts = [] then [] else [.dropped decoder.state.content.size] := by
  have hverdicts : (decoder.feed [flag]).verdicts = [] ↔ ¬decoder.state.isUnfinished = true := by
    rw [feed_verdicts, State.feed_cons, step_flag, State.feed_nil, List.append_nil,
      Option.toList_eq_nil_iff, closing?_eq_none_iff]
  rw [reset]
  by_cases hunfinished : decoder.state.isUnfinished = true
  · rw [if_pos hunfinished, if_neg fun hnone => hverdicts.mp hnone hunfinished]
  · rw [if_neg hunfinished, if_pos (hverdicts.mpr hunfinished)]

/-- A fresh decoder that is fed a stream in chunks comes to the verdicts and the state of the stream
as a whole. Of what it logs, the entries for debugging are the rejections among these verdicts, and
the entries for tracing are the octets outside of frames, each in order: those before the first flag
and, in every segment that breaks, those behind the octet at which it does. A reset, in whatever
state, logs the content it drops if and only if a flag would have brought about a verdict. -/
theorem log_accounts_for_stream (limit : Nat) (chunks : List Octets) :
    let octets := chunks.flatten
    let fed := (Decoder.mk searching limit).feedChunks chunks
    let log := fed.events.map Event.entry
    fed.verdicts = (State.feed limit searching octets).2 ∧
      fed.decoder = ⟨(State.feed limit searching octets).1, limit⟩ ∧
      (log.filter (·.level = .debug) = (fed.verdicts.filterMap reason?).map fun reason =>
        ⟨.debug, "discarding frame", [("error", .text reason.message)]⟩) ∧
      (log.filter (·.level = .trace) = (Segment.strays limit octets).map fun octet =>
        ⟨.trace, "discarding byte outside frame", [("byte", .number octet.toNat)]⟩) ∧
      (∀ entry ∈ log, entry.level = .debug ∨ entry.level = .trace) ∧
      (∀ segment, flag ∉ segment →
        FollowsFault limit (inFrame #[]) segment (behindFault limit 0 segment)) ∧
      ∀ decoder : Decoder,
        decoder.reset.1 = ⟨searching, decoder.limit⟩ ∧
          decoder.reset.2.map Event.entry =
            if (decoder.feed [flag]).verdicts = [] then []
            else
              [⟨.trace, "dropping partial frame",
                [("buffered", .number decoder.state.content.size)]⟩] := by
  intro octets fed log
  have hfed : fed = (Decoder.mk searching limit).feed octets := feedChunks_eq _ chunks
  have hevents : ∀ event ∈ fed.events,
      (∃ octet, event = .strayOctet octet) ∨ ∃ reason, event = .rejected reason := by
    rw [hfed]
    exact fun _ => stray_or_rejected_of_mem_feed
  refine ⟨?_, ?_, ?_, ?_, ?_, ?_, ?_⟩
  · rw [hfed, feed_verdicts]
  · rw [hfed, feed_decoder]
  · rw [show log.filter _ = _ from filter_debug_entry fed.events, hfed, filterMap_reason?_feed]
    rfl
  · rw [show log.filter _ = _ from filter_trace_entry hevents, ← strays_feed, ← hfed]
    rfl
  · intro entry hentry
    obtain ⟨event, hevent, rfl⟩ := List.mem_map.mp hentry
    rcases hevents event hevent with ⟨octet, rfl⟩ | ⟨reason, rfl⟩
    · exact .inr rfl
    · exact .inl rfl
  · exact fun segment hflag => followsFault_behindFault limit #[] hflag
  · intro decoder
    refine ⟨rfl, ?_⟩
    rw [reset_events]
    split
    next => rfl
    next => rfl

/-- A stray octet, a misused escape mark cut from the octet behind it, and content over the limit. -/
theorem log_accounts_for_cut_stream :
    let chunks : List Octets := [[5, flag, 1, escapeMark], [9, 8, flag, 1, 2], [3, 4]]
    let fed := (Decoder.mk searching 2).feedChunks chunks
    let log := fed.events.map Event.entry
    fed.verdicts = [.error .malformedEscape, .error (.tooLong 2)] ∧
      log.filter (·.level = .debug) =
        [⟨.debug, "discarding frame", [("error", .text "malformed escape sequence")]⟩,
          ⟨.debug, "discarding frame", [("error", .text "frame too long (max 2 bytes)")]⟩] ∧
      log.filter (·.level = .trace) =
        [⟨.trace, "discarding byte outside frame", [("byte", .number 5)]⟩,
          ⟨.trace, "discarding byte outside frame", [("byte", .number 8)]⟩,
          ⟨.trace, "discarding byte outside frame", [("byte", .number 4)]⟩] ∧
      flag ∉ [1, escapeMark, 9, 8] ∧
      FollowsFault 2 (inFrame #[]) [1, escapeMark, 9, 8] [8] := by
  intro chunks fed log
  obtain ⟨hverdicts, -, hdebug, htrace, -, hsegments, -⟩ := log_accounts_for_stream 2 chunks
  have hread : fed.verdicts = [.error .malformedEscape, .error (.tooLong 2)] :=
    hverdicts.trans (by decide +kernel)
  have hstrays : Segment.strays 2 chunks.flatten = [5, 8, 4] := by decide +kernel
  have hflag : flag ∉ [1, escapeMark, 9, 8] := by decide
  refine ⟨hread, ?_, ?_, hflag, hsegments _ hflag⟩
  · rw [show log.filter _ = _ from hdebug, hread]
    rfl
  · rw [show log.filter _ = _ from htrace, hstrays]
    rfl

end Decoder

end Hdlc
