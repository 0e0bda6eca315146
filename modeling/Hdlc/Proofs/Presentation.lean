import Hdlc.Command.Run
import Hdlc.Proofs.Records
import Hdlc.Proofs.Selection

/-!
# Presentation

The format, the rejections that are shown and the log are matters of presentation. A decoding that
shows rejections takes the same steps as one that does not, and emits the same besides them
(`readAll_silenced`). So the counts, the exit and the frames put out do not depend on the
presentation, and removing the rejections from what is put out gives what is put out without them
(`presentation_does_not_interfere`).
-/

namespace Hdlc.Command

open Text (readRecords)

/-- How a decoding presents what it does. -/
structure Presentation where
  format : Format := .json
  showErrors : Bool := false
  logFormat : LogFormat := .text
  logLevel : Log.Level := .info

namespace DecodeOptions

/-- The same decoding, with rejections put out or not. -/
def showing (options : DecodeOptions) (showErrors : Bool) : DecodeOptions :=
  { options with showErrors := showErrors }

/-- The decoding of a source from the start to its end. -/
def reading (options : DecodeOptions) (source : Source) : Progress × Ending :=
  options.readAll {} (.withLimit options.limit) source

/-- What a decoding puts out, in order. -/
def emissions (options : DecodeOptions) (source : Source) : List Emission :=
  (options.reading source).1.emitted.toList

/-- The counts that a decoding comes to. -/
def tally (options : DecodeOptions) (source : Source) : Tally :=
  (options.reading source).1.tally

/-- The command for a decoding that is to be presented in the given way. -/
def invocation (options : DecodeOptions) (presentation : Presentation) : Invocation :=
  { action := .decode (options.showing presentation.showErrors)
    format := presentation.format
    logFormat := presentation.logFormat
    logLevel := presentation.logLevel }

end DecodeOptions

/-- What two commands leave behind is the same apart from standard output. -/
structure Result.Agrees (result other : Result) : Prop where
  exit : result.exit = other.exit
  complaint : result.complaint = other.complaint
  notices : result.notices = other.notices
  files : result.files = other.files

namespace Result.Agrees

variable {result other third : Result}

theorem symm (hagrees : result.Agrees other) : other.Agrees result :=
  ⟨hagrees.exit.symm, hagrees.complaint.symm, hagrees.notices.symm, hagrees.files.symm⟩

theorem trans (hfirst : result.Agrees other) (hsecond : other.Agrees third) :
    result.Agrees third :=
  ⟨hfirst.exit.trans hsecond.exit, hfirst.complaint.trans hsecond.complaint,
    hfirst.notices.trans hsecond.notices, hfirst.files.trans hsecond.files⟩

end Result.Agrees

/-! ## Steps -/

/-- A progress in which no rejection was put out. -/
def Progress.silenced (progress : Progress) : Progress :=
  { progress with emitted := progress.emitted.filter Emission.isFrame }

namespace DecodeOptions

variable {options : DecodeOptions}

theorem takeRejection_silenced (options : DecodeOptions) (shows : Bool) (progress : Progress)
    (reason : Rejection) :
    (options.showing false).takeRejection progress.silenced reason =
      ((options.showing shows).takeRejection progress reason).silenced := by
  cases shows with
  | false => rfl
  | true => simp [takeRejection, showing, Progress.silenced, Emission.isFrame]

theorem takeFrame_silenced (options : DecodeOptions) (shows : Bool) (progress : Progress)
    (frame : Frame) :
    (options.showing false).takeFrame progress.silenced frame =
      Prod.map Progress.silenced id ((options.showing shows).takeFrame progress frame) := by
  have hselects : ∀ shows, (options.showing shows).selects frame = options.selects frame :=
    fun _ => rfl
  have hcount : ∀ shows, (options.showing shows).count = options.count := fun _ => rfl
  obtain ⟨tally, emitted, notices⟩ := progress
  change (options.showing false).takeFrame ⟨tally, emitted.filter Emission.isFrame, notices⟩ frame =
    _
  simp only [takeFrame, hselects, hcount]
  by_cases hselected : (!options.selects frame) = true
  · rw [if_pos hselected, if_pos hselected]
    rfl
  · rw [if_neg hselected, if_neg hselected]
    by_cases hserved : options.count.any (· ≤ tally.printed) = true
    · rw [if_pos hserved, if_pos hserved]
      rfl
    · have hpush : (emitted.push (.frame frame)).filter Emission.isFrame =
          (emitted.filter Emission.isFrame).push (.frame frame) :=
        Array.filter_push_of_pos rfl (Array.size_push _)
      rw [if_neg hserved, if_neg hserved]
      simp only [Prod.map, Progress.silenced, hpush, id]

/-- Whether rejections are shown makes no difference to a step but for the rejections shown. -/
theorem takeOutcome_silenced (options : DecodeOptions) (shows : Bool) (progress : Progress)
    (outcome : Outcome) :
    (options.showing false).takeOutcome progress.silenced outcome =
      Prod.map Progress.silenced id ((options.showing shows).takeOutcome progress outcome) := by
  rcases outcome with (reason | _ | failure | _) | frame
  · exact congrArg (·, none) (options.takeRejection_silenced shows progress reason)
  · rfl
  · rfl
  · rfl
  · exact options.takeFrame_silenced shows progress frame

theorem readAll_of_some {progress next : Progress} {reader : Reader} {source : Source}
    {ending : Ending}
    (hnext : options.takeOutcome (progress.report (reader.next source).events)
      (reader.next source).outcome = (next, some ending)) :
    options.readAll progress reader source = (next, ending) := by
  rw [readAll]
  split
  next hcase =>
    cases hcase.symm.trans hnext
    rfl
  next hcase => cases hcase.symm.trans hnext

theorem readAll_of_none {progress next : Progress} {reader : Reader} {source : Source}
    (hnext : options.takeOutcome (progress.report (reader.next source).events)
      (reader.next source).outcome = (next, none)) :
    options.readAll progress reader source =
      options.readAll next (reader.next source).reader (reader.next source).source := by
  rw [readAll]
  split
  next hcase => cases hcase.symm.trans hnext
  next hcase =>
    cases hcase.symm.trans hnext
    rfl

/-- Nor does it make a difference to a whole decoding. -/
theorem readAll_silenced (options : DecodeOptions) (shows : Bool) (progress : Progress)
    (reader : Reader) (source : Source) :
    (options.showing false).readAll progress.silenced reader source =
      Prod.map Progress.silenced id
        ((options.showing shows).readAll progress reader source) := by
  -- Both decodings take the same turns of the reader, so the induction is on the turns of one.
  fun_induction (options.showing shows).readAll progress reader source with
  | case1 progress reader source turn next ending hnext =>
      have hsilent := options.takeOutcome_silenced shows (progress.report turn.events) turn.outcome
      rw [hnext] at hsilent
      exact readAll_of_some hsilent
  | case2 progress reader source turn next hnext ih =>
      have hsilent := options.takeOutcome_silenced shows (progress.report turn.events) turn.outcome
      rw [hnext] at hsilent
      rw [← ih]
      exact readAll_of_none hsilent

theorem reading_silenced (options : DecodeOptions) (shows : Bool) (source : Source) :
    (options.showing false).reading source =
      Prod.map Progress.silenced id ((options.showing shows).reading source) :=
  options.readAll_silenced shows {} (.withLimit options.limit) source

end DecodeOptions

/-! ## Records -/

/-- The record that stands for an emission in JSON output. -/
def Emission.record (timestamp : String) : Emission → Text.Record
  | .frame accepted => Format.frameRecord timestamp accepted
  | .rejection reason => Format.rejectionRecord timestamp reason

/-- The record says that a candidate was rejected. -/
def isRejectionRecord (record : Text.Record) : Bool :=
  record.lookup "schema_id" = some (Format.schema "frame-rejected")

theorem showEmission_json (timestamp : String) (emission : Emission) :
    Format.json.showEmission timestamp emission =
      Text.utf8 ((emission.record timestamp).toJson ++ "\n") := by
  cases emission with
  | frame frame => rfl
  | rejection reason => rfl

/-- JSON output is one record for each emission, and these are read back. -/
theorem readRecords_showEmission (timestamp : String) (emissions : List Emission) :
    readRecords (emissions.flatMap (Format.json.showEmission timestamp)) =
      some (emissions.map (Emission.record timestamp)) := by
  rw [← Text.readRecords_lines, List.flatMap_map, funext (showEmission_json timestamp)]

theorem isRejectionRecord_record (timestamp : String) (emission : Emission) :
    isRejectionRecord (emission.record timestamp) = !emission.isFrame := by
  cases emission with
  | frame frame => rfl
  | rejection reason => rfl

/-! ## Decodings that differ in presentation -/

namespace DecodeOptions

variable {options : DecodeOptions}

theorem runOn_agrees_silent (options : DecodeOptions) (shows : Bool) (format format' : Format)
    (timestamp : String) (files : Files) (source : Source) :
    ((options.showing shows).runOn format timestamp files source).Agrees
      ((options.showing false).runOn format' timestamp files source) := by
  have hsilent := options.reading_silenced shows source
  simp only [reading] at hsilent
  rw [runOn, runOn, hsilent]
  cases (options.showing shows).readAll {} (.withLimit (options.showing shows).limit) source with
  | mk progress ending =>
      cases ending with
      | ok _ => exact ⟨rfl, rfl, rfl, rfl⟩
      | error abort => exact ⟨rfl, rfl, rfl, rfl⟩

/-- Two decodings that differ in presentation are compared through one that shows no rejections. -/
theorem runOn_agrees (options : DecodeOptions) (first second : Presentation) (timestamp : String)
    (files : Files) (source : Source) :
    ((options.showing first.showErrors).runOn first.format timestamp files source).Agrees
      ((options.showing second.showErrors).runOn second.format timestamp files source) :=
  (options.runOn_agrees_silent _ _ .raw _ _ _).trans
    (options.runOn_agrees_silent _ _ .raw _ _ _).symm

theorem emissions_silent (options : DecodeOptions) (shows : Bool) (source : Source) :
    (options.showing false).emissions source =
      ((options.showing shows).emissions source).filter Emission.isFrame := by
  simp only [emissions, options.reading_silenced shows source]
  exact Array.toList_filter

theorem tally_silent (options : DecodeOptions) (shows : Bool) (source : Source) :
    (options.showing false).tally source = (options.showing shows).tally source := by
  simp only [tally, options.reading_silenced shows source]
  rfl

theorem stdout_runOn_eq_emissions (options : DecodeOptions) (format : Format) (timestamp : String)
    (files : Files) (source : Source) :
    (options.runOn format timestamp files source).stdout =
      (options.emissions source).flatMap (format.showEmission timestamp) :=
  stdout_runOn options format timestamp files source

/-- What is put out is what was seen of the outcomes due. -/
theorem emissions_eq (options : DecodeOptions) (source : Source) :
    options.emissions source =
      (options.seen options.nth
        (Source.outcomes options.limit .searching source.deliveries)).filterMap
          options.emission? := by
  obtain ⟨haccounts, -⟩ := readAll_accounts_from_start options source
  exact haccounts.emitted

/-- Rejections have no raw form. -/
theorem flatMap_raw_filter (timestamp : String) (emissions : List Emission) :
    (emissions.filter Emission.isFrame).flatMap (Format.raw.showEmission timestamp) =
      emissions.flatMap (Format.raw.showEmission timestamp) := by
  induction emissions with
  | nil => rfl
  | cons emission emissions ih =>
      cases emission with
      | frame frame =>
          rw [List.filter_cons_of_pos rfl, List.flatMap_cons, List.flatMap_cons, ih]
      | rejection reason =>
          rw [List.filter_cons_of_neg Bool.false_ne_true, ih, List.flatMap_cons]
          rfl

theorem filter_map_record (timestamp : String) (emissions : List Emission) :
    (emissions.map (Emission.record timestamp)).filter (!isRejectionRecord ·) =
      (emissions.filter Emission.isFrame).map (Emission.record timestamp) := by
  rw [List.filter_map]
  congr 2
  funext emission
  simp [isRejectionRecord_record]

theorem run_agrees (options : DecodeOptions) (first second : Presentation)
    (surroundings : Surroundings) :
    ((options.invocation first).run surroundings).Agrees
      ((options.invocation second).run surroundings) := by
  have hopen : ∀ shows, (options.showing shows).openSource surroundings.stdin surroundings.files =
      options.openSource surroundings.stdin surroundings.files := fun _ => rfl
  simp only [Invocation.run, invocation, run, hopen]
  cases options.openSource surroundings.stdin surroundings.files with
  | error abort => exact ⟨rfl, rfl, rfl, rfl⟩
  | ok source => exact options.runOn_agrees first second _ _ source

/-- The log at one level is what a log of everything holds of that level or above. -/
theorem log_agrees (options : DecodeOptions) (first second : Presentation)
    (surroundings : Surroundings) :
    let log (presentation : Presentation) :=
      (options.invocation presentation).log ((options.invocation presentation).run surroundings)
    log first =
      (log { second with logLevel := .trace }).filter (·.level.isShownAt first.logLevel) := by
  intro log
  have hshown : ∀ entry : Log.Entry, entry.level.isShownAt .trace = true := by
    rintro ⟨level, message, fields⟩
    cases level <;> rfl
  have hagrees := options.run_agrees first { second with logLevel := .trace } surroundings
  simp only [log, Invocation.log, hagrees.notices]
  rw [List.filter_filter]
  apply List.filter_congr
  intro entry _
  rw [show (options.invocation { second with logLevel := .trace }).logLevel = .trace from rfl,
    hshown, Bool.and_true]
  rfl

/-- However a decoding is presented, it ends in the same way, comes to the same counts and puts out
the same frames in the same order. In one format, what is put out without rejections is what is put
out with them once they are removed; of raw output nothing has to be removed, and JSON output can be
read as records, of which those about rejections are to be removed. Of the log, each level shows the
entries that a log of everything has at that level or above. -/
theorem presentation_does_not_interfere (options : DecodeOptions) (first second : Presentation)
    (timestamp : String) (files : Files) (source : Source) :
    let one := options.showing first.showErrors
    let other := options.showing second.showErrors
    let shown := options.showing true
    let silent := options.showing false
    (one.runOn first.format timestamp files source).Agrees
        (other.runOn second.format timestamp files source) ∧
      one.tally source = other.tally source ∧
      (one.emissions source).filter Emission.isFrame =
        (other.emissions source).filter Emission.isFrame ∧
      (∀ format : Format,
        (shown.runOn format timestamp files source).stdout =
            (shown.emissions source).flatMap (format.showEmission timestamp) ∧
          (silent.runOn format timestamp files source).stdout =
            ((shown.emissions source).filter Emission.isFrame).flatMap
              (format.showEmission timestamp)) ∧
      (shown.runOn .raw timestamp files source).stdout =
        (silent.runOn .raw timestamp files source).stdout ∧
      (∃ records, readRecords (shown.runOn .json timestamp files source).stdout = some records ∧
        readRecords (silent.runOn .json timestamp files source).stdout =
          some (records.filter (!isRejectionRecord ·))) ∧
      (∀ surroundings : Surroundings,
        ((options.invocation first).run surroundings).Agrees
          ((options.invocation second).run surroundings)) ∧
      (∀ surroundings : Surroundings,
        let log (presentation : Presentation) :=
          (options.invocation presentation).log
            ((options.invocation presentation).run surroundings)
        log first =
          (log { second with logLevel := .trace }).filter
            (·.level.isShownAt first.logLevel)) ∧
      ∀ (stdin : Octets) (presentation : Presentation),
        options.openSource stdin files = .ok source →
          (options.invocation presentation).run ⟨stdin, files, timestamp⟩ =
            (options.showing presentation.showErrors).runOn presentation.format timestamp files
              source := by
  intro one other shown silent
  have hsilent := options.emissions_silent true source
  refine ⟨options.runOn_agrees first second timestamp files source, ?_, ?_, ?_, ?_, ?_,
    options.run_agrees first second, options.log_agrees first second, ?_⟩
  · rw [← options.tally_silent first.showErrors, options.tally_silent second.showErrors]
  · rw [← options.emissions_silent first.showErrors, options.emissions_silent second.showErrors]
  · intro format
    rw [stdout_runOn_eq_emissions, stdout_runOn_eq_emissions, hsilent]
    exact ⟨rfl, rfl⟩
  · rw [stdout_runOn_eq_emissions, stdout_runOn_eq_emissions, hsilent, flatMap_raw_filter]
  · refine ⟨(shown.emissions source).map (Emission.record timestamp), ?_, ?_⟩
    · rw [stdout_runOn_eq_emissions, readRecords_showEmission]
    · rw [stdout_runOn_eq_emissions, hsilent, readRecords_showEmission, filter_map_record]
  · intro stdin presentation hopen
    simp only [Invocation.run, invocation, run]
    rw [show (options.showing presentation.showErrors).openSource stdin files = _ from hopen]

/-- A rejection and a frame whose payload is a line break, shown in full and put out raw. -/
theorem presentation_does_not_interfere_with_rejection :
    let frame : Frame := ⟨1, ⟨3⟩, [10]⟩
    let options : DecodeOptions := { failOnError := true }
    let surroundings : Surroundings := ⟨[flag, 1] ++ frame.encode, ⟨[], []⟩, "now"⟩
    let full : Presentation :=
      { format := .pretty, showErrors := true, logFormat := .json, logLevel := .trace }
    let bare : Presentation := { format := .raw, logLevel := .error }
    let shown := (options.invocation full).run surroundings
    let silent := (options.invocation bare).run surroundings
    shown.Agrees silent ∧ shown.exit.code = 60 ∧
      shown.stdout = Format.pretty.showRejection "now" (.tooShort 1 6) ++
        Format.pretty.showFrame "now" frame ∧
      silent.stdout = [10] := by
  intro frame options surroundings full bare shown silent
  obtain ⟨hagrees, -, -, hshown, -, -, -, -, hrun⟩ := presentation_does_not_interfere options full
    bare "now" ⟨[], []⟩ (.ofOctets surroundings.stdin)
  have hopen : options.openSource surroundings.stdin surroundings.files =
      .ok (.ofOctets surroundings.stdin) := rfl
  have hfull : shown = _ := hrun _ full hopen
  have hbare : silent = _ := hrun _ bare hopen
  have hdue : Source.outcomes (options.showing true).limit .searching
      (Source.ofOctets surroundings.stdin).deliveries =
      [.error (.rejected (.tooShort 1 6)), .ok frame] := by
    decide +kernel
  have hemissions : (options.showing true).emissions (.ofOctets surroundings.stdin) =
      [.rejection (.tooShort 1 6), .frame frame] := by
    rw [emissions_eq, hdue]
    decide
  obtain ⟨haccounts, hends⟩ :=
    readAll_accounts_from_start (options.showing true) (.ofOctets surroundings.stdin)
  rw [hdue] at haccounts hends
  have hexit : shown.exit = .dataInvalid := by
    rw [hfull, runOn_of_ok hends, exit, haccounts.rejected]
    decide
  obtain ⟨hout, -⟩ := hshown .pretty
  obtain ⟨-, hraw⟩ := hshown .raw
  rw [hemissions, List.flatMap_cons, List.flatMap_singleton] at hout
  rw [hemissions] at hraw
  refine ⟨?_, ?_, ?_, ?_⟩
  · rw [hfull, hbare]
    exact hagrees
  · rw [hexit]
    rfl
  · rw [hfull]
    exact hout
  · rw [hbare]
    exact hraw.trans (by decide)

end DecodeOptions

end Hdlc.Command
