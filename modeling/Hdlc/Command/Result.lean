import Hdlc.Command.Files
import Hdlc.Decoder.Basic

/-!
# Results

A command ends with an exit status. One that is broken off also gives a message, which names what
was attempted and what went wrong. While it runs, a command reports to its log: the events of the
decoder it uses and its own.
-/

namespace Hdlc.Command

/-! ## Exits -/

/-- How a command ends. -/
inductive Exit
  | success
  | failure
  | permissionDenied
  | dataInvalid
  | usage
  | timeout
  | internal
  deriving DecidableEq, Repr

def Exit.code : Exit → Nat
  | success => 0
  | failure => 1
  | permissionDenied => 50
  | dataInvalid => 60
  | usage => 64
  | timeout => 124
  | internal => 125

/-- The end of a command that is broken off. -/
structure Abort where
  exit : Exit
  message : String
  deriving DecidableEq, Repr

namespace Abort

/-- The exit that a kind of failure leads to. -/
def exitOf : FailureKind → Exit
  | .permissionDenied => .permissionDenied
  | .timedOut | .wouldBlock => .timeout
  | .notFound => .usage
  | .brokenPipe => .failure
  | _ => .internal

def ofFailure (attempt : String) (failure : Failure) : Abort :=
  ⟨exitOf failure.kind, attempt ++ ": " ++ failure.text⟩

def ofLinkError (attempt : String) : LinkError → Abort
  | .failed failure => ofFailure attempt failure
  | .closed => ⟨.failure, attempt ++ ": " ++ LinkError.closed.message⟩
  | error => ⟨.dataInvalid, attempt ++ ": " ++ error.message⟩

end Abort

/-! ## Notices -/

/-- How many frames a decoding accepted and put out, and how many candidates it rejected. -/
structure Tally where
  decoded : Nat := 0
  printed : Nat := 0
  rejected : Nat := 0
  deriving DecidableEq, Repr

/-- An occurrence worth a log entry. -/
inductive Notice
  | decoder (event : Decoder.Event)
  | frameRejected (reason : Rejection)
  | frameSkipped (address : UInt64)
  | decodeFinished (tally : Tally)
  | frameWritten (address : UInt64) (wireSize : Nat) (path : String)
  deriving DecidableEq, Repr

def Notice.entry : Notice → Log.Entry
  | decoder event => event.entry
  | frameRejected reason => ⟨.warn, "frame rejected", [("error", .text reason.message)]⟩
  | frameSkipped address =>
      ⟨.debug, "skipping frame for other address", [("address", .number address.toNat)]⟩
  | decodeFinished tally =>
      ⟨.info, "decode finished", [("decoded", .number tally.decoded),
        ("printed", .number tally.printed), ("rejected", .number tally.rejected)]⟩
  | frameWritten address wireSize path =>
      ⟨.info, "wrote frame", [("address", .number address.toNat),
        ("wire_size", .number wireSize), ("path", .text path)]⟩

/-! ## Results -/

/-- What a command leaves behind. -/
structure Result where
  exit : Exit
  stdout : Octets
  complaint : Option String
  notices : List Notice
  files : Files
  deriving DecidableEq, Repr

/-- The result of a command that is broken off before it puts out anything. -/
def Result.ofAbort (files : Files) (abort : Abort) : Result :=
  ⟨abort.exit, [], some abort.message, [], files⟩

end Hdlc.Command
