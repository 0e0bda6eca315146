import Hdlc.Command.Run
import Std.Time.DateTime.Timestamp

/-!
# Program

The command line as a program: files, streams, the clock and the environment are real here. All
decisions are those of `Hdlc.Command`; this module only fetches what they ask for and puts out what
they answer, each frame as soon as it is complete.
-/

namespace Hdlc.Program

open Hdlc.Command

/-- The failure that the operating system reports. -/
def failureOf : IO.Error → Failure
  | .noFileOrDirectory _ code details => report .notFound code details
  | .noSuchThing _ code details => report .notFound code details
  | .permissionDenied _ code details => report .permissionDenied code details
  | .inappropriateType _ code details =>
      report (if code = 20 then .notADirectory else .isADirectory) code details
  | .interrupted _ code details => report .interrupted code details
  | .timeExpired code details => report .timedOut code details
  | .invalidArgument _ code details => report .invalidInput code details
  | .resourceVanished code details => report .brokenPipe code details
  | .unsupportedOperation code details => report .unsupported code details
  | error => ⟨.other, toString error⟩
where
  report (kind : FailureKind) (code : UInt32) (details : String) : Failure :=
    ⟨kind, details ++ " (os error " ++ toString code ++ ")"⟩

/-- Attempt an operation of the operating system. -/
def attempt {α : Type} (operation : IO α) : IO (Except Failure α) := do
  try
    return .ok (← operation)
  catch error =>
    return .error (failureOf error)

/-- Put octets out at once. -/
def put (octets : Octets) : IO Unit := do
  let stdout ← IO.getStdout
  stdout.write ⟨octets.toArray⟩
  stdout.flush

/-- Put a notice into the log, unless it is less urgent than asked for. -/
def note (invocation : Invocation) (notice : Notice) : IO Unit := do
  let entry := notice.entry
  if entry.level.isShownAt invocation.logLevel then
    match invocation.logFormat with
    | .json =>
        let head := [("level", .text entry.level.label), ("message", .text entry.message)]
        IO.eprintln (Text.Record.toJson (head ++ entry.fields))
    | .text =>
        let fields := entry.fields.map fun (name, value) => " " ++ name ++ "=" ++ value.toJson
        IO.eprintln (entry.level.label ++ " " ++ entry.message ++ String.join fields)

/-- End a command that is broken off. -/
def breakOff (abort : Abort) : IO Exit := do
  IO.eprintln ("error: " ++ abort.message)
  return abort.exit

def encode (invocation : Invocation) (options : EncodeOptions) : IO Exit := do
  let content ←
    match options.payload with
    | .file path => attempt (do return (← IO.FS.readBinFile path).data.toList)
    | _ => pure (.ok [])
  let sealed := do
    let payload ← options.findPayload fun _ => content
    let frame := options.frame payload
    return (frame, ← EncodeOptions.wireForm options.limit frame)
  match sealed with
  | .error abort => breakOff abort
  | .ok (frame, wire) =>
      if let some path := options.output then
        if let .error failure ← attempt (IO.FS.writeBinFile path ⟨wire.toArray⟩) then
          return ← breakOff (EncodeOptions.writeAbort path failure)
      (options.notices wire).forM (note invocation)
      put (options.stdout invocation.format frame wire)
      return .success

/-- Take outcomes of a reader until decoding ends, putting out what each of them brings. -/
partial def decodeOn (invocation : Invocation) (options : DecodeOptions) (timestamp : String)
    (read : IO Delivery) (tally : Tally) (reader : Reader) : IO Exit := do
  let (outcome, reader) ←
    match reader.poll? with
    | some (outcome, reader) => pure (some outcome, reader)
    | none => do
        let (reader, error, events) := reader.receive (← read)
        events.forM fun event => note invocation (.decoder event)
        pure (error.map .error, reader)
  match outcome with
  | none => decodeOn invocation options timestamp read tally reader
  | some outcome =>
      let (progress, ending) := options.takeOutcome { tally := tally } outcome
      progress.notices.forM (note invocation)
      put (DecodeOptions.stdout invocation.format timestamp progress)
      match ending with
      | none => decodeOn invocation options timestamp read progress.tally reader
      | some (.error abort) => breakOff abort
      | some (.ok ()) =>
          note invocation (.decodeFinished progress.tally)
          return options.exit progress.tally

def decode (invocation : Invocation) (options : DecodeOptions) : IO Exit := do
  let opened ←
    if options.path = "-" then .ok <$> IO.getStdin
    else attempt (do return IO.FS.Stream.ofHandle (← IO.FS.Handle.mk options.path .read))
  match opened with
  | .error failure => breakOff (options.openAbort failure)
  | .ok stream =>
      let timestamp ← Std.Time.Timestamp.now
      let read : IO Delivery := do
        match ← attempt (stream.read (USize.ofNat Reader.room)) with
        | .ok octets => return .octets octets.data.toList
        | .error failure => return .failure failure
      decodeOn invocation options (toString timestamp.toSecondsSinceUnixEpoch.val) read {}
        (.withLimit options.limit)

def run (invocation : Invocation) : IO Exit :=
  match invocation.action with
  | .encode options => encode invocation options
  | .decode options => decode invocation options
  | .version extended => do
      put (Version.text extended)
      return .success

def help : String :=
  "HDLC framing CLI\n\n" ++
  "Usage: hdlcprims [--format json|table|pretty|raw] [--log-format text|json]\n" ++
  "                 [--log-level error|warn|info|debug|trace] COMMAND\n\n" ++
  "  encode --address N [--control OCTET] [--data TEXT | --hex HEX | --file PATH]\n" ++
  "         [--output PATH] [--max-frame-size N]\n" ++
  "  decode [PATH] [--address N] [--count N] [--max-frame-size N] [--show-errors]\n" ++
  "         [--fail-on-error]\n" ++
  "  version [--extended]\n"

/-- Answer a command line that leads to no command. -/
def answerUsage (usage : Usage) : IO Unit :=
  match usage with
  | .help => put (Text.utf8 help)
  | .version => put (Text.utf8 Version.short)
  | usage => IO.eprintln ("error: " ++ usage.message ++ "\n\n" ++ help)

end Hdlc.Program

open Hdlc in
def main (arguments : List String) : IO UInt32 := do
  let environment ← IO.getEnv "HDLCPRIMS_LOG_LEVEL"
  match Command.Invocation.parse environment arguments with
  | .error usage =>
      Program.answerUsage usage
      return UInt32.ofNat usage.code
  | .ok invocation =>
      let exit ← Program.run invocation
      return UInt32.ofNat exit.code
