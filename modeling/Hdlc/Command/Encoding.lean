import Hdlc.Command.Invocation
import Hdlc.Command.Result
import Hdlc.Stream.Writer

/-!
# Encoding one frame

The payload is found first, then the frame is measured against the limit, then the output file is
written, and only then is anything put out. Whatever fails on the way leaves standard output empty
and every file as it was.
-/

namespace Hdlc.Command

namespace EncodeOptions

def findPayload (options : EncodeOptions) (fetch : String → Except Failure Octets) :
    Except Abort Octets :=
  match options.payload with
  | .hex text =>
      (Text.readHex text).mapError fun fault =>
        ⟨.usage, "--hex is not valid hex: " ++ fault.message⟩
  | .data text => .ok (Text.utf8 text)
  | .file path =>
      (fetch path).mapError (Abort.ofFailure ("failed reading " ++ path))
  | .nothing => .ok []

def frame (options : EncodeOptions) (payload : Octets) : Frame :=
  ⟨options.address, options.control, payload⟩

/-- The wire form of a frame, unless it is beyond the limit. -/
def wireForm (limit : Nat) (frame : Frame) : Except Abort Octets :=
  (frame.encodeWithin limit).mapError (Abort.ofLinkError "encode failed")

def writeAbort (path : String) (failure : Failure) : Abort :=
  Abort.ofFailure ("failed writing " ++ path) failure

/-- What is put out for an encoded frame: nothing where raw octets went to a file. -/
def stdout (options : EncodeOptions) (format : Format) (frame : Frame) (wire : Octets) :
    Octets :=
  if options.output.isSome ∧ format = .raw then [] else format.showEncoded frame wire

def notices (options : EncodeOptions) (wire : Octets) : List Notice :=
  match options.output with
  | some path => [.frameWritten options.address wire.length path]
  | none => []

/-- Encode a frame among the given files. -/
def run (options : EncodeOptions) (format : Format) (files : Files) : Result :=
  let attempt : Except Abort Result := do
    let payload ← options.findPayload files.read
    let frame := options.frame payload
    let wire ← wireForm options.limit frame
    let files ←
      match options.output with
      | some path => (files.write path wire).mapError (writeAbort path)
      | none => .ok files
    .ok ⟨.success, options.stdout format frame wire, none, options.notices wire, files⟩
  match attempt with
  | .ok result => result
  | .error abort => .ofAbort files abort

end EncodeOptions

end Hdlc.Command
