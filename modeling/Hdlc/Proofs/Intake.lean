import Hdlc.Command.Decoding
import Hdlc.Proofs.Reading

/-!
# Taking in outcomes

Decoding takes in the outcomes due one by one. It ends where the link does, where reading fails, or
with the last match that was asked for, and so it sees the outcomes up to there (`seen`). Each of
them adds to what is put out and to the counts, in order and whatever comes before it, so what has
been seen determines the whole of both (`readAll_accounts`).
-/

namespace Hdlc

namespace Outcome

/-- Whether a verdict is reported, and not the end or a failure of the link. -/
def isVerdict : Outcome → Bool
  | .ok _ => true
  | .error error => error.isRejection

def isFrame : Outcome → Bool
  | .ok _ => true
  | .error _ => false

end Outcome

namespace Command

def Emission.isFrame : Emission → Bool
  | .frame _ => true
  | .rejection _ => false

/-- Outcomes up to and with the wanted one that `nth` wanted ones come before, or all of them if
there is no such outcome or no end is set. -/
def throughNth (wanted : Outcome → Bool) : Option Nat → List Outcome → List Outcome
  | _, [] => []
  | nth, outcome :: later =>
      if wanted outcome then
        if nth = some 0 then [outcome]
        else outcome :: throughNth wanted (nth.map (· - 1)) later
      else outcome :: throughNth wanted nth later

namespace DecodeOptions

def isMatch (options : DecodeOptions) : Outcome → Bool
  | .ok frame => options.selects frame
  | .error _ => false

/-- What is put out for an outcome, if anything. -/
def emission? (options : DecodeOptions) : Outcome → Option Emission
  | .ok frame =>
      if options.selects frame ∧ options.count ≠ some 0 then some (.frame frame) else none
  | .error (.rejected reason) => if options.showErrors then some (.rejection reason) else none
  | .error _ => none

/-- How many matching frames come before the one that decoding ends with. Where no frame is asked
for, decoding ends with the first match all the same. -/
def nth (options : DecodeOptions) : Option Nat :=
  options.count.map (· - 1)

/-- The outcomes that are taken in where the `nth` match from here is the last. -/
def seen (options : DecodeOptions) (nth : Option Nat) (due : List Outcome) : List Outcome :=
  throughNth options.isMatch nth (due.takeWhile Outcome.isVerdict)

/-- Whether the last match asked for comes before the end of the link and before any failure. -/
def isServed (options : DecodeOptions) (nth : Option Nat) (due : List Outcome) : Bool :=
  nth.any (· < (due.takeWhile Outcome.isVerdict).countP options.isMatch)

end DecodeOptions

/-- How decoding ends at an outcome that is no verdict. -/
def endingAt : Outcome → Ending
  | .error .closed => .ok ()
  | .error error => .error (Abort.ofLinkError "read failed" error)
  | .ok _ => .ok ()

/-- How decoding ends. -/
def DecodeOptions.ending (options : DecodeOptions) (nth : Option Nat) (due : List Outcome) :
    Ending :=
  if options.isServed nth due then .ok ()
  else (due.find? (!·.isVerdict)).elim (.ok ()) endingAt

/-! ## Cutting behind a match -/

section

variable {wanted : Outcome → Bool}

theorem throughNth_of_countP_le {outcomes : List Outcome} {n : Nat}
    (hcount : outcomes.countP wanted ≤ n) : throughNth wanted (some n) outcomes = outcomes := by
  induction outcomes generalizing n with
  | nil => rfl
  | cons outcome later ih =>
      by_cases houtcome : wanted outcome = true
      · rw [List.countP_cons_of_pos houtcome] at hcount
        have hn : some n ≠ some 0 := by
          rintro heq
          cases heq
          omega
        rw [throughNth, if_pos houtcome, if_neg hn, Option.map_some, ih (by omega)]
      · rw [List.countP_cons_of_neg houtcome] at hcount
        rw [throughNth, if_neg houtcome, ih hcount]

/-- What is behind the wanted outcome does not matter. -/
theorem throughNth_append_cons {front : List Outcome} {last : Outcome} (hlast : wanted last = true)
    (later : List Outcome) :
    throughNth wanted (some (front.countP wanted)) (front ++ last :: later) =
      front ++ [last] := by
  induction front with
  | nil =>
      rw [List.nil_append, throughNth, if_pos hlast, List.countP_nil, if_pos rfl]
      rfl
  | cons outcome front ih =>
      rw [List.cons_append, throughNth]
      by_cases houtcome : wanted outcome = true
      · rw [List.countP_cons_of_pos houtcome, if_pos houtcome, if_neg (by simp), Option.map_some,
          Nat.add_sub_cancel, ih]
        rfl
      · rw [List.countP_cons_of_neg houtcome, if_neg houtcome, ih]
        rfl

theorem exists_split_of_lt_countP {outcomes : List Outcome} {n : Nat}
    (hcount : n < outcomes.countP wanted) :
    ∃ front last later, outcomes = front ++ last :: later ∧ wanted last = true ∧
      front.countP wanted = n := by
  induction outcomes generalizing n with
  | nil => cases hcount
  | cons outcome rest ih =>
      by_cases houtcome : wanted outcome = true
      · cases n with
        | zero => exact ⟨[], outcome, rest, rfl, houtcome, rfl⟩
        | succ n =>
            rw [List.countP_cons_of_pos houtcome] at hcount
            obtain ⟨front, last, later, rfl, hlast, hfront⟩ := ih (Nat.lt_of_succ_lt_succ hcount)
            refine ⟨outcome :: front, last, later, rfl, hlast, ?_⟩
            rw [List.countP_cons_of_pos houtcome, hfront]
      · rw [List.countP_cons_of_neg houtcome] at hcount
        obtain ⟨front, last, later, rfl, hlast, hfront⟩ := ih hcount
        refine ⟨outcome :: front, last, later, rfl, hlast, ?_⟩
        rw [List.countP_cons_of_neg houtcome, hfront]

theorem countP_throughNth_le (n : Nat) (outcomes : List Outcome) :
    (throughNth wanted (some n) outcomes).countP wanted ≤ n + 1 := by
  rcases Nat.lt_or_ge n (outcomes.countP wanted) with hcount | hcount
  · obtain ⟨front, last, later, rfl, hlast, rfl⟩ := exists_split_of_lt_countP hcount
    apply Nat.le_of_eq
    rw [throughNth_append_cons hlast, List.countP_append, List.countP_cons_of_pos hlast,
      List.countP_nil]
  · rw [throughNth_of_countP_le hcount]
    omega

end

namespace DecodeOptions

variable {options : DecodeOptions} {nth : Option Nat} {outcome : Outcome} {later : List Outcome}

theorem seen_nil (options : DecodeOptions) (nth : Option Nat) :
    options.seen nth [] = [] ∧ options.ending nth [] = .ok () := by
  cases nth with
  | none => exact ⟨rfl, rfl⟩
  | some n => exact ⟨rfl, rfl⟩

theorem seen_cons_of_not_isVerdict (houtcome : ¬outcome.isVerdict = true) :
    options.seen nth (outcome :: later) = [] ∧
      options.ending nth (outcome :: later) = endingAt outcome := by
  constructor
  · rw [seen, List.takeWhile_cons_of_neg houtcome, throughNth]
  · rw [ending, isServed, List.takeWhile_cons_of_neg houtcome,
      List.find?_cons_of_pos (by simp [houtcome])]
    cases nth <;> simp

theorem seen_cons_of_not_isMatch (houtcome : outcome.isVerdict = true)
    (hmatch : ¬options.isMatch outcome = true) :
    options.seen nth (outcome :: later) = outcome :: options.seen nth later ∧
      options.ending nth (outcome :: later) = options.ending nth later := by
  constructor
  · rw [seen, List.takeWhile_cons_of_pos houtcome, throughNth, if_neg hmatch, seen]
  · rw [ending, isServed, List.takeWhile_cons_of_pos houtcome,
      List.find?_cons_of_neg (by simp [houtcome]), List.countP_cons_of_neg hmatch, ending, isServed]

theorem seen_cons_of_last (houtcome : outcome.isVerdict = true)
    (hmatch : options.isMatch outcome = true) :
    options.seen (some 0) (outcome :: later) = [outcome] ∧
      options.ending (some 0) (outcome :: later) = .ok () := by
  constructor
  · rw [seen, List.takeWhile_cons_of_pos houtcome, throughNth, if_pos hmatch, if_pos rfl]
  · rw [ending, isServed, List.takeWhile_cons_of_pos houtcome, List.countP_cons_of_pos hmatch]
    simp

theorem seen_cons_of_isMatch (houtcome : outcome.isVerdict = true)
    (hmatch : options.isMatch outcome = true) (hnth : nth ≠ some 0) :
    options.seen nth (outcome :: later) = outcome :: options.seen (nth.map (· - 1)) later ∧
      options.ending nth (outcome :: later) = options.ending (nth.map (· - 1)) later := by
  constructor
  · rw [seen, List.takeWhile_cons_of_pos houtcome, throughNth, if_pos hmatch, if_neg hnth, seen]
  · rw [ending, isServed, List.takeWhile_cons_of_pos houtcome,
      List.find?_cons_of_neg (by simp [houtcome]), List.countP_cons_of_pos hmatch, ending, isServed]
    cases nth with
    | none => rfl
    | some n =>
        cases n with
        | zero => exact absurd rfl hnth
        | succ n => simp

end DecodeOptions

/-! ## Taking in outcomes -/

namespace DecodeOptions

/-- What taking in some outcomes adds to what was put out and to the counts. -/
structure Accounts (options : DecodeOptions) (before after : Progress) (taken : List Outcome) :
    Prop where
  emitted : after.emitted.toList = before.emitted.toList ++ taken.filterMap options.emission?
  decoded : after.tally.decoded = before.tally.decoded + taken.countP Outcome.isFrame
  printed : after.tally.printed =
    before.tally.printed + (taken.filterMap options.emission?).countP Emission.isFrame
  rejected : after.tally.rejected = before.tally.rejected + taken.countP Outcome.isRejection

/-- The last match asked for is the `nth` from here. -/
def Asks (options : DecodeOptions) (progress : Progress) (nth : Option Nat) : Prop :=
  nth.map (progress.tally.printed + ·) = options.nth

variable {options : DecodeOptions} {before progress after : Progress} {nth : Option Nat}
  {first second : List Outcome}

theorem Accounts.report (options : DecodeOptions) (progress : Progress)
    (events : List Decoder.Event) : options.Accounts progress (progress.report events) [] :=
  ⟨(List.append_nil _).symm, rfl, rfl, rfl⟩

theorem Accounts.append (hfirst : options.Accounts before progress first)
    (hsecond : options.Accounts progress after second) :
    options.Accounts before after (first ++ second) := by
  constructor
  · rw [hsecond.emitted, hfirst.emitted, List.filterMap_append, List.append_assoc]
  · rw [hsecond.decoded, hfirst.decoded, List.countP_append, Nat.add_assoc]
  · rw [hsecond.printed, hfirst.printed, List.filterMap_append, List.countP_append, Nat.add_assoc]
  · rw [hsecond.rejected, hfirst.rejected, List.countP_append, Nat.add_assoc]

/-- What was put out and the counts are determined by what was taken in. -/
theorem Accounts.unique {after' : Progress} (hfirst : options.Accounts before after first)
    (hsecond : options.Accounts before after' first) :
    after.emitted = after'.emitted ∧ after.tally = after'.tally := by
  constructor
  · rw [← Array.toList_inj, hfirst.emitted, hsecond.emitted]
  · rw [Tally.mk.injEq, hfirst.decoded, hfirst.printed, hfirst.rejected, hsecond.decoded,
      hsecond.printed, hsecond.rejected]
    exact ⟨rfl, rfl, rfl⟩

theorem takeRejection_accounts (options : DecodeOptions) (progress : Progress)
    (reason : Rejection) :
    options.Accounts progress (options.takeRejection progress reason)
      [.error (.rejected reason)] := by
  obtain ⟨tally, emitted, notices⟩ := progress
  by_cases hshow : options.showErrors = true
  · constructor <;> simp [takeRejection, emission?, hshow, Outcome.isFrame, Outcome.isRejection,
      LinkError.isRejection, Emission.isFrame]
  · constructor <;> simp [takeRejection, emission?, hshow, Outcome.isFrame, Outcome.isRejection,
      LinkError.isRejection]

theorem takeFrame_of_not_selects (progress : Progress) {frame : Frame}
    (hframe : ¬options.selects frame = true) :
    (options.takeFrame progress frame).2 = none ∧
      (options.takeFrame progress frame).1.tally.printed = progress.tally.printed ∧
      options.Accounts progress (options.takeFrame progress frame).1 [.ok frame] := by
  have htaken : options.takeFrame progress frame =
      (⟨{ progress.tally with decoded := progress.tally.decoded + 1 }, progress.emitted,
        progress.notices.push (.frameSkipped frame.address)⟩, none) := by
    simp [takeFrame, hframe]
  rw [htaken]
  refine ⟨rfl, rfl, ?_⟩
  constructor <;> simp [emission?, hframe, Outcome.isFrame, Outcome.isRejection]

/-- Where no frame is asked for, decoding ends with the first match, which is not put out. -/
theorem takeFrame_of_count_eq_zero (progress : Progress) {frame : Frame}
    (hframe : options.selects frame = true) (hcount : options.count = some 0) :
    (options.takeFrame progress frame).2 = some (.ok ()) ∧
      options.Accounts progress (options.takeFrame progress frame).1 [.ok frame] := by
  have htaken : options.takeFrame progress frame =
      (⟨{ progress.tally with decoded := progress.tally.decoded + 1 }, progress.emitted,
        progress.notices⟩, some (.ok ())) := by
    simp [takeFrame, hframe, hcount]
  rw [htaken]
  refine ⟨rfl, ?_⟩
  constructor <;> simp [emission?, hcount, Outcome.isFrame, Outcome.isRejection]

theorem takeFrame_of_lt_count (progress : Progress) {frame : Frame}
    (hframe : options.selects frame = true)
    (hcount : ∀ count, options.count = some count → progress.tally.printed < count) :
    (options.takeFrame progress frame).2 =
        (if options.count = some (progress.tally.printed + 1) then some (.ok ()) else none) ∧
      (options.takeFrame progress frame).1.tally.printed = progress.tally.printed + 1 ∧
      options.Accounts progress (options.takeFrame progress frame).1 [.ok frame] := by
  have hroom : ¬options.count.any (· ≤ progress.tally.printed) = true := by
    simp only [Option.any_eq_true, decide_eq_true_eq, not_exists, not_and, Nat.not_le]
    exact hcount
  have hwanted : options.count ≠ some 0 := by
    intro hzero
    exact Nat.not_lt_zero _ (hcount 0 hzero)
  have htaken : options.takeFrame progress frame =
      (⟨{ progress.tally with
          decoded := progress.tally.decoded + 1
          printed := progress.tally.printed + 1 },
        progress.emitted.push (.frame frame), progress.notices⟩,
        if options.count = some (progress.tally.printed + 1) then some (.ok ()) else none) := by
    simp [takeFrame, hframe, hroom]
  rw [htaken]
  refine ⟨rfl, rfl, ?_⟩
  constructor <;> simp [emission?, hframe, hwanted, Outcome.isFrame, Outcome.isRejection,
    Emission.isFrame]

/-- Decoding ends with the last match asked for. -/
theorem takeFrame_of_last {frame : Frame} (hasks : options.Asks progress (some 0))
    (hframe : options.selects frame = true) :
    (options.takeFrame progress frame).2 = some (.ok ()) ∧
      options.Accounts progress (options.takeFrame progress frame).1 [.ok frame] := by
  obtain ⟨count, hcount, hprinted⟩ := Option.map_eq_some_iff.mp hasks.symm
  cases count with
  | zero => exact takeFrame_of_count_eq_zero progress hframe hcount
  | succ count =>
      have hlast : count = progress.tally.printed := hprinted
      subst hlast
      have hroom : ∀ count, options.count = some count → progress.tally.printed < count := by
        intro count hother
        rw [hcount, Option.some.injEq] at hother
        omega
      obtain ⟨hends, -, haccounts⟩ := takeFrame_of_lt_count progress hframe hroom
      rw [hends, if_pos hcount]
      exact ⟨rfl, haccounts⟩

/-- Decoding goes on behind any other match. -/
theorem takeFrame_of_ne_last {frame : Frame} (hasks : options.Asks progress nth)
    (hnth : nth ≠ some 0) (hframe : options.selects frame = true) :
    (options.takeFrame progress frame).2 = none ∧
      options.Asks (options.takeFrame progress frame).1 (nth.map (· - 1)) ∧
      options.Accounts progress (options.takeFrame progress frame).1 [.ok frame] := by
  have hroom : ∀ count, options.count = some count → progress.tally.printed + 1 < count := by
    intro count hcount
    rw [Asks, DecodeOptions.nth, hcount] at hasks
    obtain ⟨n, rfl, hn⟩ := Option.map_eq_some_iff.mp hasks
    dsimp only at hn
    have hpos : n ≠ 0 := by
      rintro rfl
      exact hnth rfl
    omega
  obtain ⟨hends, hprinted, haccounts⟩ := takeFrame_of_lt_count progress hframe
    fun count hcount => Nat.lt_of_succ_lt (hroom count hcount)
  have hlast : options.count ≠ some (progress.tally.printed + 1) := by
    intro hcount
    exact Nat.lt_irrefl _ (hroom _ hcount)
  rw [hends, if_neg hlast]
  refine ⟨rfl, ?_, haccounts⟩
  rw [Asks, hprinted, ← hasks, Option.map_map]
  apply Option.map_congr
  rintro n rfl
  have hpos : n ≠ 0 := by
    rintro rfl
    exact hnth rfl
  simp only [Function.comp_apply]
  omega

/-- The ways in which an outcome can be taken in: as the last, or with others behind it. -/
inductive Taken (options : DecodeOptions) (progress : Progress) (nth : Option Nat)
    (outcome : Outcome) : Progress × Option Ending → Prop
  | last {next : Progress} {ending : Ending} {taken : List Outcome}
      (haccounts : options.Accounts progress next taken)
      (hbehind : ∀ later, options.seen nth (outcome :: later) = taken ∧
        options.ending nth (outcome :: later) = ending) :
      Taken options progress nth outcome (next, some ending)
  | more {next : Progress} {nth' : Option Nat} (hasks : options.Asks next nth')
      (haccounts : options.Accounts progress next [outcome])
      (hbehind : ∀ later, options.seen nth (outcome :: later) = outcome :: options.seen nth' later ∧
        options.ending nth (outcome :: later) = options.ending nth' later) :
      Taken options progress nth outcome (next, none)

theorem taken_of_not_isVerdict {outcome : Outcome} (houtcome : ¬outcome.isVerdict = true) :
    Taken options progress nth outcome (progress, some (endingAt outcome)) :=
  .last (.report options progress []) fun _ => seen_cons_of_not_isVerdict houtcome

theorem taken_takeRejection (hasks : options.Asks progress nth) (reason : Rejection) :
    Taken options progress nth (.error (.rejected reason))
      (options.takeRejection progress reason, none) := by
  have hmatch : ¬options.isMatch (.error (.rejected reason)) = true := Bool.false_ne_true
  exact .more hasks (takeRejection_accounts options progress reason)
    fun _ => seen_cons_of_not_isMatch rfl hmatch

theorem taken_takeFrame (hasks : options.Asks progress nth) (frame : Frame) :
    Taken options progress nth (.ok frame) (options.takeFrame progress frame) := by
  have hverdict : Outcome.isVerdict (.ok frame) = true := rfl
  rcases htake : options.takeFrame progress frame with ⟨next, ending?⟩
  by_cases hframe : options.selects frame = true
  · by_cases hnth : nth = some 0
    · subst hnth
      obtain ⟨hends, haccounts⟩ := takeFrame_of_last hasks hframe
      rw [htake] at hends haccounts
      cases hends
      exact .last haccounts fun _ => seen_cons_of_last hverdict hframe
    · obtain ⟨hgoes, hasks', haccounts⟩ := takeFrame_of_ne_last hasks hnth hframe
      rw [htake] at hgoes hasks' haccounts
      cases hgoes
      exact .more hasks' haccounts fun _ => seen_cons_of_isMatch hverdict hframe hnth
  · obtain ⟨hgoes, hprinted, haccounts⟩ := takeFrame_of_not_selects progress hframe
    rw [htake] at hgoes hprinted haccounts
    cases hgoes
    have hasks' : options.Asks next nth := by
      rw [Asks, hprinted]
      exact hasks
    exact .more hasks' haccounts fun _ => seen_cons_of_not_isMatch hverdict hframe

theorem taken_takeOutcome (hasks : options.Asks progress nth) (outcome : Outcome) :
    Taken options progress nth outcome (options.takeOutcome progress outcome) := by
  rcases outcome with (reason | _ | failure | _) | frame
  · exact taken_takeRejection hasks reason
  · exact taken_of_not_isVerdict Bool.false_ne_true
  · exact taken_of_not_isVerdict Bool.false_ne_true
  · exact taken_of_not_isVerdict Bool.false_ne_true
  · exact taken_takeFrame hasks frame

/-! ## Taking in what is due -/

theorem readAll_of_due_eq_nil {reader : Reader} {source : Source}
    (hdue : reader.due source = []) (options : DecodeOptions) (progress : Progress) :
    ∃ events, options.readAll progress reader source = (progress.report events, .ok ()) := by
  have houtcome := (reader.next_due source).1
  rw [hdue, List.headD_nil] at houtcome
  refine ⟨(reader.next source).events, ?_⟩
  rw [readAll]
  split
  next ending hnext =>
    rw [houtcome] at hnext
    cases hnext
    rfl
  next hnext =>
    rw [houtcome] at hnext
    cases hnext

/-- The first outcome due is taken in, and then the others unless decoding ends with it. -/
theorem readAll_of_due_eq_cons {reader : Reader} {source : Source} {outcome : Outcome}
    {later : List Outcome} (hdue : reader.due source = outcome :: later)
    (options : DecodeOptions) (progress : Progress) :
    ∃ (events : List Decoder.Event) (reader' : Reader) (source' : Source),
      reader'.due source' = later ∧
      options.readAll progress reader source =
        match options.takeOutcome (progress.report events) outcome with
        | (next, some ending) => (next, ending)
        | (next, none) => options.readAll next reader' source' := by
  obtain ⟨houtcome, hlater⟩ := reader.next_due source
  rw [hdue, List.headD_cons] at houtcome
  rw [hdue, List.tail_cons] at hlater
  refine ⟨(reader.next source).events, _, _, hlater, ?_⟩
  rw [readAll]
  split
  next next ending hnext =>
    rw [houtcome] at hnext
    rw [hnext]
  next next hnext =>
    rw [houtcome] at hnext
    rw [hnext]

/-- What decoding puts out and counts is what it has seen, and it ends accordingly. -/
theorem readAll_accounts (hasks : options.Asks progress nth) (reader : Reader) (source : Source) :
    options.Accounts progress (options.readAll progress reader source).1
        (options.seen nth (reader.due source)) ∧
      (options.readAll progress reader source).2 = options.ending nth (reader.due source) := by
  -- Each turn takes the first outcome off what is due, so the induction is on that.
  induction hdue : reader.due source generalizing progress nth reader source with
  | nil =>
      obtain ⟨events, hread⟩ := readAll_of_due_eq_nil hdue options progress
      obtain ⟨hseen, hending⟩ := options.seen_nil nth
      rw [hread, hseen, hending]
      exact ⟨.report options progress events, rfl⟩
  | cons outcome later ih =>
      obtain ⟨events, reader', source', hlater, hread⟩ :=
        readAll_of_due_eq_cons hdue options progress
      have hreport := Accounts.report options progress events
      have hreported : options.Asks (progress.report events) nth := hasks
      have htaken := taken_takeOutcome hreported outcome
      rw [hread]
      cases htake : options.takeOutcome (progress.report events) outcome with
      | mk next ending? =>
          rw [htake] at htaken
          cases htaken with
          | last haccounts hbehind =>
              obtain ⟨hseen, hending⟩ := hbehind later
              rw [hseen, hending]
              exact ⟨hreport.append haccounts, rfl⟩
          | more hasks' haccounts hbehind =>
              obtain ⟨hseen, hending⟩ := hbehind later
              obtain ⟨hrest, hends⟩ := ih hasks' reader' source' hlater
              rw [hseen, hending]
              exact ⟨hreport.append (haccounts.append hrest), hends⟩

end DecodeOptions

end Command

end Hdlc
