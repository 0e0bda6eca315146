import Hdlc.Proofs.Intake
import Mathlib.Data.List.TakeWhile

/-!
# Selecting frames from a stream

What a decoding puts out, how it counts and how it ends follows from the outcomes it sees
(`decoding_is_selection`). The last of them, if it is a match that was asked for, is reported at the
flag that completes it, so that nothing behind that flag matters.
-/

namespace Hdlc

namespace Signal

/-- A signal makes one outcome or none. A frame is reported at the flag that completes it, and no
outcome is that a frame was too large to be sent. -/
theorem exists_outcomes_cons (limit : Nat) (state : Decoder.State) (signal : Signal) :
    ∃ (made : Option Outcome) (next : Decoder.State),
      (∀ later, outcomes limit state (signal :: later) =
        made.toList ++ outcomes limit next later) ∧
      (∀ frame, made = some (.ok frame) → signal = .received flag) ∧
      ∀ size most, made ≠ some (.error (.tooLarge size most)) := by
  cases signal with
  | received octet =>
      refine ⟨(state.step limit octet).2.map Outcome.ofVerdict, (state.step limit octet).1, ?_, ?_,
        ?_⟩
      · intro later
        rw [outcomes, Option.toList_map]
      · intro frame hmade
        obtain ⟨verdict | verdict, hverdict, hframe⟩ := Option.map_eq_some_iff.mp hmade
        · cases hframe
        · cases hframe
          rw [(Decoder.State.accepted_of_step hverdict).1]
      · intro size most hmade
        obtain ⟨verdict | verdict, -, hlarge⟩ := Option.map_eq_some_iff.mp hmade
        · cases hlarge
        · cases hlarge
  | failed failure => exact ⟨some (.error (.failed failure)), state, fun _ => rfl, by simp, by simp⟩
  | closed => exact ⟨some (.error .closed), .searching, fun _ => rfl, by simp, by simp⟩

/-- Later signals only add outcomes. -/
theorem exists_outcomes_append (limit : Nat) (state : Decoder.State) (first second : List Signal) :
    ∃ later, outcomes limit state (first ++ second) = outcomes limit state first ++ later := by
  induction first generalizing state with
  | nil => exact ⟨_, rfl⟩
  | cons signal first ih =>
      obtain ⟨made, next, hcons, -, -⟩ := exists_outcomes_cons limit state signal
      obtain ⟨later, hlater⟩ := ih next
      refine ⟨later, ?_⟩
      rw [List.cons_append, hcons, hcons, hlater, List.append_assoc]

theorem exists_flag_of_outcomes {limit : Nat} {state : Decoder.State} {signals : List Signal}
    {earlier later : List Outcome} {frame : Frame}
    (houtcomes : outcomes limit state signals = earlier ++ .ok frame :: later) :
    ∃ before behind, signals = before ++ .received flag :: behind ∧
      outcomes limit state before = earlier ∧
      outcomes limit state (before ++ [.received flag]) = earlier ++ [.ok frame] := by
  induction signals generalizing state earlier with
  | nil => simp [outcomes] at houtcomes
  | cons signal rest ih =>
      obtain ⟨made, next, hcons, hflag, -⟩ := exists_outcomes_cons limit state signal
      rw [hcons] at houtcomes
      -- The frame is reported here only if nothing is to be reported before it.
      by_cases hhere : earlier = [] ∧ made ≠ none
      · obtain ⟨rfl, hmade⟩ := hhere
        obtain ⟨outcome, rfl⟩ := Option.ne_none_iff_exists'.mp hmade
        have hframe : outcome = .ok frame := (List.cons.inj houtcomes).1
        subst hframe
        have hsignal := hflag frame rfl
        subst hsignal
        refine ⟨[], rest, rfl, rfl, ?_⟩
        rw [List.nil_append, hcons]
        rfl
      · obtain ⟨reported, rfl, hrest⟩ : ∃ reported, earlier = made.toList ++ reported ∧
            outcomes limit next rest = reported ++ .ok frame :: later := by
          cases made with
          | none => exact ⟨earlier, rfl, houtcomes⟩
          | some outcome =>
              cases earlier with
              | nil => simp at hhere
              | cons first reported =>
                  obtain ⟨rfl, hrest⟩ := List.cons.inj houtcomes
                  exact ⟨reported, rfl, hrest⟩
        obtain ⟨before, behind, rfl, hbefore, hthrough⟩ := ih hrest
        refine ⟨signal :: before, behind, rfl, ?_, ?_⟩
        · rw [hcons, hbefore]
        · rw [List.cons_append, hcons, hthrough, List.append_assoc]

theorem tooLarge_not_mem_outcomes (limit : Nat) (state : Decoder.State) (signals : List Signal)
    (size most : Nat) : .error (.tooLarge size most) ∉ outcomes limit state signals := by
  induction signals generalizing state with
  | nil => exact List.not_mem_nil
  | cons signal later ih =>
      obtain ⟨made, next, hcons, -, hmade⟩ := exists_outcomes_cons limit state signal
      rw [hcons, List.mem_append, Option.mem_toList, not_or]
      exact ⟨hmade size most, ih next⟩

end Signal

namespace Command

/-- The code that a command ends with which is broken off for a failure of a kind. -/
def failureCode : FailureKind → Nat
  | .permissionDenied => 50
  | .notFound => 64
  | .timedOut => 124
  | .wouldBlock => 124
  | .brokenPipe => 1
  | _ => 125

theorem Abort.code_exitOf (kind : FailureKind) :
    (Abort.exitOf kind).code = failureCode kind := by
  cases kind <;> rfl

namespace DecodeOptions

variable {options : DecodeOptions}

/-! ## What a decoding comes to -/

/-- The failure that decoding meets before it comes to its end, if any. -/
def failure? (options : DecodeOptions) (due : List Outcome) : Option Failure :=
  if options.isServed options.nth due then none
  else
    match due.find? (!·.isVerdict) with
    | some (.error (.failed failure)) => some failure
    | _ => none

/-- A frame is put out only for a match, and only where frames were asked for. -/
theorem isMatch_of_emission? {outcome : Outcome} {emission : Emission}
    (hemission : options.emission? outcome = some emission) (hframe : emission.isFrame = true) :
    options.isMatch outcome = true ∧ options.count ≠ some 0 := by
  rcases outcome with (reason | _ | _ | _) | frame
  · rw [emission?] at hemission
    split at hemission
    next =>
      cases hemission
      cases hframe
    next => cases hemission
  · cases hemission
  · cases hemission
  · cases hemission
  · rw [emission?] at hemission
    split at hemission
    next hselected => exact hselected
    next => cases hemission

theorem countP_emissions_le (taken : List Outcome) :
    (taken.filterMap options.emission?).countP Emission.isFrame ≤
      taken.countP options.isMatch := by
  rw [List.countP_filterMap]
  apply List.countP_mono_left
  intro outcome _ hframe
  cases hemission : options.emission? outcome with
  | none => simp [hemission] at hframe
  | some emission =>
      rw [hemission] at hframe
      exact (isMatch_of_emission? hemission hframe).1

theorem countP_emissions_of_count_eq_zero (hcount : options.count = some 0)
    (taken : List Outcome) :
    (taken.filterMap options.emission?).countP Emission.isFrame = 0 := by
  rw [List.countP_eq_zero]
  intro emission hmem hframe
  obtain ⟨outcome, -, hemission⟩ := List.mem_filterMap.mp hmem
  exact (isMatch_of_emission? hemission hframe).2 hcount

/-- No more frames are put out than were asked for. -/
theorem countP_emissions_seen_le {count : Nat} (hcount : options.count = some count)
    (due : List Outcome) :
    ((options.seen options.nth due).filterMap options.emission?).countP Emission.isFrame ≤
      count := by
  cases count with
  | zero => exact Nat.le_of_eq (countP_emissions_of_count_eq_zero hcount _)
  | succ count =>
      have hnth : options.nth = some count := by
        rw [nth, hcount]
        rfl
      rw [seen, hnth]
      exact Nat.le_trans (countP_emissions_le _) (countP_throughNth_le count _)

theorem ending_eq_failure? (options : DecodeOptions) (limit : Nat) (state : Decoder.State)
    (signals : List Signal) :
    options.ending options.nth (Signal.outcomes limit state signals) =
      match options.failure? (Signal.outcomes limit state signals) with
      | none => .ok ()
      | some failure => .error (Abort.ofFailure "read failed" failure) := by
  rw [ending, failure?]
  split
  next => rfl
  next =>
    cases hfirst : (Signal.outcomes limit state signals).find? (!·.isVerdict) with
    | none => rfl
    | some outcome =>
        have hverdict := List.find?_some hfirst
        rcases outcome with (reason | ⟨size, most⟩ | failure | _) | frame
        · cases hverdict
        · exact absurd (List.mem_of_find?_eq_some hfirst)
            (Signal.tooLarge_not_mem_outcomes limit state signals size most)
        · rfl
        · rfl
        · cases hverdict

/-- Decoding is served by the first outcomes up to the match it ends with, whatever follows. -/
theorem seen_append_cons {front : List Outcome} {frame : Frame}
    (hfront : ∀ outcome ∈ front, outcome.isVerdict = true) (hframe : options.selects frame = true)
    (later : List Outcome) :
    options.seen (some (front.countP options.isMatch)) (front ++ .ok frame :: later) =
        front ++ [.ok frame] ∧
      options.isServed (some (front.countP options.isMatch)) (front ++ .ok frame :: later) =
        true := by
  have hverdict : Outcome.isVerdict (.ok frame) = true := rfl
  have hmatch : options.isMatch (.ok frame) = true := hframe
  rw [seen, isServed, List.takeWhile_append_of_pos hfront, List.takeWhile_cons_of_pos hverdict]
  refine ⟨throughNth_append_cons hmatch _, ?_⟩
  simp [hmatch]

/-- Where decoding is served, it ends with a match, and what is seen ends there. -/
theorem exists_frame_of_isServed {due : List Outcome}
    (hserved : options.isServed options.nth due = true) :
    ∃ front frame later, due = front ++ .ok frame :: later ∧
      options.seen options.nth due = front ++ [.ok frame] ∧
      ∀ more : List Outcome,
        options.seen options.nth (front ++ .ok frame :: more) = front ++ [.ok frame] ∧
          options.isServed options.nth (front ++ .ok frame :: more) = true := by
  obtain ⟨n, hnth, hcount⟩ := (Option.any_eq_true _ _).mp hserved
  obtain ⟨front, last, later, hsplit, hlast, rfl⟩ :=
    exists_split_of_lt_countP (of_decide_eq_true hcount)
  cases last with
  | error error => cases hlast
  | ok frame =>
      have hdue : due = front ++ .ok frame :: (later ++ due.dropWhile Outcome.isVerdict) := by
        rw [← List.cons_append, ← List.append_assoc, ← hsplit, List.takeWhile_append_dropWhile]
      have hfront : ∀ outcome ∈ front, outcome.isVerdict = true := by
        intro outcome houtcome
        have hmem : outcome ∈ due.takeWhile Outcome.isVerdict := by
          rw [hsplit]
          exact List.mem_append_left _ houtcome
        exact List.mem_takeWhile_imp hmem
      rw [hnth]
      refine ⟨front, frame, _, hdue, ?_, seen_append_cons hfront hlast⟩
      rw [hdue]
      exact (seen_append_cons hfront hlast _).1

section

variable {format : Format} {timestamp : String} {files : Files} {source : Source}

theorem readAll_accounts_from_start (options : DecodeOptions) (source : Source) :
    let due := Source.outcomes options.limit .searching source.deliveries
    let reading := options.readAll {} (.withLimit options.limit) source
    options.Accounts {} reading.1 (options.seen options.nth due) ∧
      reading.2 = options.ending options.nth due := by
  have hasks : options.Asks {} options.nth := by simp [Asks]
  exact readAll_accounts hasks (.withLimit options.limit) source

theorem runOn_of_ok (hending : (options.readAll {} (.withLimit options.limit) source).2 = .ok ()) :
    (options.runOn format timestamp files source).exit =
      options.exit (options.readAll {} (.withLimit options.limit) source).1.tally := by
  rw [runOn]
  dsimp only
  rw [hending]

theorem runOn_of_error {abort : Abort}
    (hending : (options.readAll {} (.withLimit options.limit) source).2 = .error abort) :
    (options.runOn format timestamp files source).exit = abort.exit ∧
      (options.runOn format timestamp files source).complaint = some abort.message := by
  rw [runOn]
  dsimp only
  rw [hending]
  exact ⟨rfl, rfl⟩

theorem stdout_runOn (options : DecodeOptions) (format : Format) (timestamp : String)
    (files : Files) (source : Source) :
    (options.runOn format timestamp files source).stdout =
      DecodeOptions.stdout format timestamp
        (options.readAll {} (.withLimit options.limit) source).1 := by
  rw [runOn]
  dsimp only
  split <;> rfl

/-- Where two sources have the same outcomes up to the end of decoding, so have the decodings. -/
theorem runOn_congr {other : Source}
    (hseen : options.seen options.nth
        (Source.outcomes options.limit .searching other.deliveries) =
      options.seen options.nth (Source.outcomes options.limit .searching source.deliveries))
    (hending : options.ending options.nth
        (Source.outcomes options.limit .searching other.deliveries) =
      options.ending options.nth (Source.outcomes options.limit .searching source.deliveries)) :
    let progress := (options.readAll {} (.withLimit options.limit) source).1
    let progress' := (options.readAll {} (.withLimit options.limit) other).1
    let result := options.runOn format timestamp files source
    let result' := options.runOn format timestamp files other
    progress'.emitted = progress.emitted ∧ progress'.tally = progress.tally ∧
      result'.stdout = result.stdout ∧ result'.exit = result.exit := by
  intro progress progress' result result'
  obtain ⟨haccounts, hends⟩ := readAll_accounts_from_start options source
  obtain ⟨haccounts', hends'⟩ := readAll_accounts_from_start options other
  rw [hseen] at haccounts'
  rw [hending, ← hends] at hends'
  obtain ⟨hemitted, htally⟩ := haccounts'.unique haccounts
  refine ⟨hemitted, htally, ?_, ?_⟩
  · rw [stdout_runOn, stdout_runOn, DecodeOptions.stdout, DecodeOptions.stdout, hemitted]
  · cases hend : (options.readAll {} (.withLimit options.limit) source).2 with
    | ok _ => rw [runOn_of_ok hend, runOn_of_ok (hends'.trans hend), htally]
    | error abort => rw [(runOn_of_error hend).1, (runOn_of_error (hends'.trans hend)).1]

/-- The match that decoding ends with is reported at a flag, and is the last that is seen. -/
theorem exists_flag_of_isServed
    (hserved : options.isServed options.nth
      (Source.outcomes options.limit .searching source.deliveries) = true) :
    let seen := options.seen options.nth
      (Source.outcomes options.limit .searching source.deliveries)
    ∃ before behind, source.signals = before ++ .received flag :: behind ∧
      Signal.outcomes options.limit .searching before = seen.dropLast ∧
      Signal.outcomes options.limit .searching (before ++ [.received flag]) = seen := by
  intro seen
  obtain ⟨front, frame, later, hdue, hseen, -⟩ := exists_frame_of_isServed hserved
  rw [Source.outcomes_eq_signal_outcomes] at hdue
  obtain ⟨before, behind, hsignals, hbefore, hthrough⟩ := Signal.exists_flag_of_outcomes hdue
  refine ⟨before, behind, hsignals, ?_, ?_⟩
  · rw [hbefore, show seen = _ from hseen, List.dropLast_concat]
  · rw [hthrough, show seen = _ from hseen]

/-- Once decoding is served, later signals do not matter. -/
theorem seen_of_signals_eq_append {due : List Outcome} {other : Source}
    {before behind : List Signal} (hserved : options.isServed options.nth due = true)
    (hbefore : Signal.outcomes options.limit .searching before = options.seen options.nth due)
    (hother : other.signals = before ++ behind) :
    let due' := Source.outcomes options.limit .searching other.deliveries
    options.seen options.nth due' = options.seen options.nth due ∧
      options.isServed options.nth due' = true := by
  intro due'
  obtain ⟨front, frame, later, -, hseen, hmore⟩ := exists_frame_of_isServed hserved
  obtain ⟨more, houtcomes⟩ :=
    Signal.exists_outcomes_append options.limit .searching before behind
  have hdue : due' = front ++ .ok frame :: more := by
    rw [← hother, hbefore, hseen, List.append_assoc] at houtcomes
    exact (Source.outcomes_eq_signal_outcomes _ _ _).trans houtcomes
  rw [hdue, hseen]
  exact hmore more

end

/-- Decoding sees the outcomes up to the end of the link or a failure of it, but no further than
through the last match asked for. It puts out the matches and, if they are to be shown, the
rejections among them, and its counts are theirs. It ends with the failure if it comes to it, and
otherwise reports whether there were rejections, if that matters. The last match is reported at the
flag that completes it, and no signal behind that flag makes a difference. -/
theorem decoding_is_selection (options : DecodeOptions) (format : Format) (timestamp : String)
    (files : Files) (source : Source) :
    let due := Source.outcomes options.limit .searching source.deliveries
    let seen := options.seen options.nth due
    let emissions := seen.filterMap options.emission?
    let progress := (options.readAll {} (.withLimit options.limit) source).1
    let result := options.runOn format timestamp files source
    (∀ stdin, options.openSource stdin files = .ok source →
        options.run format timestamp stdin files = result) ∧
      progress.emitted.toList = emissions ∧
      result.stdout = emissions.flatMap (format.showEmission timestamp) ∧
      progress.tally.decoded = seen.countP Outcome.isFrame ∧
      progress.tally.rejected = seen.countP Outcome.isRejection ∧
      progress.tally.printed = emissions.countP Emission.isFrame ∧
      (∀ count, options.count = some count → progress.tally.printed ≤ count) ∧
      (options.failure? due = none → result.exit.code =
        if options.failOnError ∧ 0 < progress.tally.rejected then 60 else 0) ∧
      (∀ failure, options.failure? due = some failure →
        result.exit = Abort.exitOf failure.kind ∧
          result.exit.code = failureCode failure.kind ∧
          result.complaint = some ("read failed: " ++ failure.text)) ∧
      (options.isServed options.nth due = true →
        (∃ before behind, source.signals = before ++ .received flag :: behind ∧
          Signal.outcomes options.limit .searching before = seen.dropLast ∧
          Signal.outcomes options.limit .searching (before ++ [.received flag]) = seen) ∧
        ∀ (other : Source) (before behind : List Signal),
          Signal.outcomes options.limit .searching before = seen →
          other.signals = before ++ behind →
            let progress' := (options.readAll {} (.withLimit options.limit) other).1
            let result' := options.runOn format timestamp files other
            progress'.emitted = progress.emitted ∧ progress'.tally = progress.tally ∧
              result'.stdout = result.stdout ∧ result'.exit = result.exit) := by
  intro due seen emissions progress result
  obtain ⟨haccounts, hends⟩ := readAll_accounts_from_start options source
  have hemitted : progress.emitted.toList = emissions := by simpa using haccounts.emitted
  have hprinted : progress.tally.printed = emissions.countP Emission.isFrame := by
    simpa using haccounts.printed
  rw [Source.outcomes_eq_signal_outcomes, ending_eq_failure?, ← Source.outcomes_eq_signal_outcomes]
    at hends
  refine ⟨?_, hemitted, ?_, by simpa using haccounts.decoded, by simpa using haccounts.rejected,
    hprinted, ?_, ?_, ?_, ?_⟩
  · intro stdin hopen
    rw [run, hopen]
  · rw [show result.stdout = _ from stdout_runOn options format timestamp files source,
      DecodeOptions.stdout, hemitted]
  · intro count hcount
    rw [hprinted]
    exact countP_emissions_seen_le hcount due
  · intro hfailure
    rw [hfailure] at hends
    rw [show result.exit = _ from runOn_of_ok hends, exit]
    split
    next => rfl
    next => rfl
  · intro failure hfailure
    rw [hfailure] at hends
    obtain ⟨hexit, hcomplaint⟩ := runOn_of_error hends
    refine ⟨hexit, ?_, hcomplaint⟩
    rw [show result.exit = _ from hexit]
    exact Abort.code_exitOf failure.kind
  · intro hserved
    refine ⟨exists_flag_of_isServed hserved, ?_⟩
    intro other before behind hbefore hother
    obtain ⟨hseen, hserved'⟩ := seen_of_signals_eq_append hserved hbefore hother
    apply runOn_congr hseen
    rw [ending, ending, if_pos hserved, if_pos hserved']

/-- A stream that holds a rejection, a frame for another address and two matches, of which one is
asked for, and then fails. -/
theorem decoding_is_selection_through_first_match :
    let passed : Frame := ⟨2, ⟨3⟩, []⟩
    let wanted : Frame := ⟨1, ⟨3⟩, [flag]⟩
    let options : DecodeOptions :=
      { address := some 1, count := some 1, limit := 7, showErrors := true, failOnError := true }
    let needed := [flag, 1] ++ passed.encode ++ wanted.encode
    let source : Source :=
      { deliveries := [.octets (needed ++ wanted.encode), .failure (.ofKind .timedOut)] }
    let other : Source := { deliveries := [.octets needed, .failure (.ofKind .brokenPipe)] }
    let progress := (options.readAll {} (.withLimit 7) source).1
    let result := options.runOn .raw "" ⟨[], []⟩ source
    let result' := options.runOn .raw "" ⟨[], []⟩ other
    progress.emitted.toList = [.rejection (.tooShort 1 6), .frame wanted] ∧
      progress.tally.decoded = 2 ∧ progress.tally.rejected = 1 ∧ progress.tally.printed = 1 ∧
      result.stdout = [flag] ∧ result.exit.code = 60 ∧
      result'.stdout = result.stdout ∧ result'.exit = result.exit := by
  intro passed wanted options needed source other progress result result'
  obtain ⟨-, hemitted, hstdout, hdecoded, hrejected, hprinted, -, hexit, -, hserved⟩ :=
    decoding_is_selection options .raw "" ⟨[], []⟩ source
  have hneeded : Signal.outcomes 7 .searching (needed.map .received) =
      [.error (.rejected (.tooShort 1 6)), .ok passed, .ok wanted] := by
    decide +kernel
  have hdue : Source.outcomes 7 .searching source.deliveries =
      [.error (.rejected (.tooShort 1 6)), .ok passed, .ok wanted, .ok wanted,
        .error (.failed (.ofKind .timedOut))] := by
    decide +kernel
  have hseen : options.seen options.nth (Source.outcomes 7 .searching source.deliveries) =
      [.error (.rejected (.tooShort 1 6)), .ok passed, .ok wanted] := by
    rw [hdue]
    decide
  have hend : options.isServed options.nth (Source.outcomes 7 .searching source.deliveries) =
      true := by
    rw [hdue]
    decide
  have hfailure : options.failure? (Source.outcomes 7 .searching source.deliveries) = none := by
    rw [hdue]
    decide
  have hsignals : other.signals =
      needed.map .received ++ [.failed (.ofKind .brokenPipe)] := by
    decide +kernel
  obtain ⟨-, hothers⟩ := hserved hend
  obtain ⟨-, -, hstdout', hexit'⟩ := hothers other _ _ (hneeded.trans hseen.symm) hsignals
  rw [hseen] at hemitted hstdout hdecoded hrejected hprinted
  refine ⟨hemitted, hdecoded, hrejected, hprinted, hstdout, ?_, hstdout', hexit'⟩
  have hcode := hexit hfailure
  rw [hrejected] at hcode
  exact hcode

end DecodeOptions

end Command

end Hdlc
