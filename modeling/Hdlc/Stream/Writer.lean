import Hdlc.Frame
import Hdlc.Stream.Sink

/-!
# Writers

A writer sends frames under a limit on their content. A frame beyond the limit is refused before
the sink is asked for anything; any other frame is offered until all its octets are taken, and then
the sink is flushed.
-/

namespace Hdlc

structure Writer where
  limit : Nat := Frame.defaultLimit
  deriving DecidableEq, Repr

/-- The wire form of a frame whose content keeps within a limit. -/
def Frame.encodeWithin (limit : Nat) (frame : Frame) : Except LinkError Octets :=
  if limit < frame.contentSize then .error (.tooLarge frame.contentSize limit)
  else .ok frame.encode

theorem Frame.encodeWithin_of_le {limit : Nat} {frame : Frame}
    (hlimit : frame.contentSize ≤ limit) : frame.encodeWithin limit = .ok frame.encode :=
  if_neg (Nat.not_lt.mpr hlimit)

theorem Frame.encodeWithin_of_lt {limit : Nat} {frame : Frame}
    (hlimit : limit < frame.contentSize) :
    frame.encodeWithin limit = .error (.tooLarge frame.contentSize limit) :=
  if_pos hlimit

namespace Writer

def setLimit (writer : Writer) (limit : Nat) : Writer :=
  { writer with limit := limit }

/-- Send a frame and have it passed on. -/
def send (writer : Writer) (frame : Frame) (sink : Sink) : Except LinkError Unit × Sink :=
  match frame.encodeWithin writer.limit with
  | .error error => (.error error, sink)
  | .ok wire =>
      match sink.writeAll wire with
      | (.ok (), sink') => sink'.flushAll
      | (.error error, sink') => (.error error, sink')

def sendInformation (writer : Writer) (address : UInt64) (payload : Octets) (sink : Sink) :
    Except LinkError Unit × Sink :=
  writer.send (.information address payload) sink

end Writer

end Hdlc
