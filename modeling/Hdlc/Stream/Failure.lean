import Hdlc.Rejection

/-!
# Failures of a link

An operation on the octets below frames may fail; the failure has a kind and a text. A frame
operation fails for one of four reasons, of which only a rejected candidate leaves the link as good
as before.
-/

namespace Hdlc

/-- The kinds of failure that reading, writing and opening can meet. -/
inductive FailureKind
  | notFound
  | permissionDenied
  | connectionRefused
  | connectionReset
  | connectionAborted
  | notConnected
  | addressInUse
  | brokenPipe
  | alreadyExists
  | wouldBlock
  | notADirectory
  | isADirectory
  | invalidName
  | invalidInput
  | invalidData
  | timedOut
  | writeZero
  | interrupted
  | unsupported
  | unexpectedEnd
  | outOfMemory
  | other
  deriving DecidableEq, Repr

/-- The text of a failure about which nothing but its kind is known. -/
def FailureKind.text : FailureKind → String
  | notFound => "entity not found"
  | permissionDenied => "permission denied"
  | connectionRefused => "connection refused"
  | connectionReset => "connection reset"
  | connectionAborted => "connection aborted"
  | notConnected => "not connected"
  | addressInUse => "address in use"
  | brokenPipe => "broken pipe"
  | alreadyExists => "entity already exists"
  | wouldBlock => "operation would block"
  | notADirectory => "not a directory"
  | isADirectory => "is a directory"
  | invalidName => "invalid filename"
  | invalidInput => "invalid input parameter"
  | invalidData => "invalid data"
  | timedOut => "timed out"
  | writeZero => "write zero"
  | interrupted => "operation interrupted"
  | unsupported => "unsupported"
  | unexpectedEnd => "unexpected end of file"
  | outOfMemory => "out of memory"
  | other => "other error"

structure Failure where
  kind : FailureKind
  text : String
  deriving DecidableEq, Repr

namespace Failure

/-- The failure about which nothing but its kind is known. -/
def ofKind (kind : FailureKind) : Failure :=
  ⟨kind, kind.text⟩

/-- Whether reading should simply be tried again. -/
def isInterruption (failure : Failure) : Bool :=
  failure.kind == .interrupted

/-- Whether writing should simply be tried again. -/
def isTransient (failure : Failure) : Bool :=
  failure.kind == .interrupted || failure.kind == .wouldBlock

end Failure

/-- Why a frame operation on a link does not succeed. -/
inductive LinkError
  /-- The next candidate frame was rejected. -/
  | rejected (reason : Rejection)
  /-- A frame whose content has `size` octets was not sent under the limit. -/
  | tooLarge (size limit : Nat)
  /-- The operation below failed. -/
  | failed (failure : Failure)
  /-- The other end takes or gives no more octets. -/
  | closed
  deriving DecidableEq, Repr

namespace LinkError

def message : LinkError → String
  | rejected reason => "frame rejected: " ++ reason.message
  | tooLarge size limit => s!"frame too large ({size} bytes, max {limit})"
  | failed failure => "frame I/O error: " ++ failure.text
  | closed => "connection closed"

/-- Whether the next operation may be expected to succeed. -/
def isRejection : LinkError → Bool
  | rejected _ => true
  | _ => false

end LinkError

end Hdlc
