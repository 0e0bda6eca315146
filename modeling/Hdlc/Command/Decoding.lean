import Hdlc.Command.Encoding
import Hdlc.Stream.Reader

/-!
# Decoding a stream

Outcomes of a reader are counted and selected one at a time. Decoding ends where the stream ends,
where reading fails, or where as many matching frames as were asked for have been put out. What has
been put out before a failure stays.
-/

namespace Hdlc.Command

/-- How decoding ends, if it does not go on. -/
abbrev Ending := Except Abort Unit

/-- The progress of a decoding: counts, what was put out and what was reported. -/
structure Progress where
  tally : Tally := {}
  emitted : Array Emission := #[]
  notices : Array Notice := #[]
  deriving Repr

namespace Progress

def report (progress : Progress) (events : List Decoder.Event) : Progress :=
  { progress with notices := progress.notices ++ events.map Notice.decoder }

def notice (progress : Progress) (notice : Notice) : Progress :=
  { progress with notices := progress.notices.push notice }

end Progress

namespace DecodeOptions

def selects (options : DecodeOptions) (frame : Frame) : Bool :=
  options.address.all (· == frame.address)

/-- Count a rejection and put it out if that was asked for. -/
def takeRejection (options : DecodeOptions) (progress : Progress) (reason : Rejection) :
    Progress :=
  let ⟨tally, emitted, notices⟩ := progress
  { tally := { tally with rejected := tally.rejected + 1 }
    emitted := if options.showErrors then emitted.push (.rejection reason) else emitted
    notices := notices.push (.frameRejected reason) }

/-- Count a frame and put it out if it is selected and wanted. -/
def takeFrame (options : DecodeOptions) (progress : Progress) (frame : Frame) :
    Progress × Option Ending :=
  let ⟨tally, emitted, notices⟩ := progress
  let tally := { tally with decoded := tally.decoded + 1 }
  if !options.selects frame then
    (⟨tally, emitted, notices.push (.frameSkipped frame.address)⟩, none)
  else if options.count.any (· ≤ tally.printed) then (⟨tally, emitted, notices⟩, some (.ok ()))
  else
    let tally := { tally with printed := tally.printed + 1 }
    (⟨tally, emitted.push (.frame frame), notices⟩,
      if options.count = some tally.printed then some (.ok ()) else none)

def takeOutcome (options : DecodeOptions) (progress : Progress) :
    Outcome → Progress × Option Ending
  | .ok frame => options.takeFrame progress frame
  | .error (.rejected reason) => (options.takeRejection progress reason, none)
  | .error .closed => (progress, some (.ok ()))
  | .error error => (progress, some (.error (Abort.ofLinkError "read failed" error)))

theorem isVerdict_of_takeOutcome {options : DecodeOptions} {progress next : Progress}
    {turn : Reader.Turn}
    (hnext : options.takeOutcome progress turn.outcome = (next, none)) :
    turn.isVerdict = true := by
  unfold Reader.Turn.isVerdict
  match hcase : turn.outcome with
  | .ok _ => rfl
  | .error (.rejected _) => rfl
  | .error .closed => simp [hcase, takeOutcome] at hnext
  | .error (.failed _) => simp [hcase, takeOutcome] at hnext
  | .error (.tooLarge _ _) => simp [hcase, takeOutcome] at hnext

/-- Take outcomes of the reader until decoding ends. -/
def readAll (options : DecodeOptions) (progress : Progress) (reader : Reader)
    (source : Source) : Progress × Ending :=
  let turn := reader.next source
  match _hnext : options.takeOutcome (progress.report turn.events) turn.outcome with
  | (progress, some ending) => (progress, ending)
  | (progress, none) => options.readAll progress turn.reader turn.source
termination_by reader.pending source
decreasing_by exact Reader.pending_next (isVerdict_of_takeOutcome _hnext)

/-- The exit of a decoding that came to its end. -/
def exit (options : DecodeOptions) (tally : Tally) : Exit :=
  if options.failOnError ∧ 0 < tally.rejected then .dataInvalid else .success

def openAbort (options : DecodeOptions) (failure : Failure) : Abort :=
  Abort.ofFailure ("failed opening " ++ options.path) failure

def openSource (options : DecodeOptions) (stdin : Octets) (files : Files) :
    Except Abort Source :=
  if options.path = "-" then .ok (.ofOctets stdin)
  else (files.openSource options.path).mapError options.openAbort

/-- What is put out for all that was emitted. -/
def stdout (format : Format) (timestamp : String) (progress : Progress) : Octets :=
  progress.emitted.toList.flatMap (format.showEmission timestamp)

/-- Decode what an open source delivers. -/
def runOn (options : DecodeOptions) (format : Format) (timestamp : String) (files : Files)
    (source : Source) : Result :=
  let (progress, ending) := options.readAll {} (.withLimit options.limit) source
  let out := DecodeOptions.stdout format timestamp progress
  match ending with
  | .ok () =>
      ⟨options.exit progress.tally, out, none,
        (progress.notice (.decodeFinished progress.tally)).notices.toList, files⟩
  | .error abort => ⟨abort.exit, out, some abort.message, progress.notices.toList, files⟩

/-- Decode what standard input or one of the given files holds. -/
def run (options : DecodeOptions) (format : Format) (timestamp : String) (stdin : Octets)
    (files : Files) : Result :=
  match options.openSource stdin files with
  | .error abort => .ofAbort files abort
  | .ok source => options.runOn format timestamp files source

end DecodeOptions

end Hdlc.Command
