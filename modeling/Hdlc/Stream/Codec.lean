import Hdlc.Decoder.Basic
import Hdlc.Stream.Writer

/-!
# Codecs

A codec serves a transport that keeps its own buffers. Each call for a frame takes octets from the
front of the receive buffer up to the one that brings about a verdict, or all of them if none does;
at the end of the stream a call without a verdict drops what is unfinished. Encoding appends to the
send buffer and has no part in decoding.
-/

namespace Hdlc

/-- A codec: a decoder whose limit holds for both directions. -/
structure Codec where
  decoder : Decoder := {}
  deriving DecidableEq, Repr

namespace Codec

def withLimit (limit : Nat) : Codec :=
  ⟨{ limit := limit }⟩

def limit (codec : Codec) : Nat :=
  codec.decoder.limit

structure Turn where
  verdict : Option Verdict
  codec : Codec
  buffer : Octets
  events : List Decoder.Event

/-- Take octets from the buffer up to the next verdict, after the given events, latest first. -/
def decodeOnto (events : List Decoder.Event) : Decoder → Octets → Turn
  | decoder, [] => ⟨none, ⟨decoder⟩, [], events.reverse⟩
  | decoder, octet :: rest =>
      match decoder.advance octet with
      | (next, some verdict, raised) =>
          ⟨some verdict, ⟨next⟩, rest, events.reverse ++ raised⟩
      | (next, none, raised) => decodeOnto (raised.reverse ++ events) next rest

/-- Take octets from the buffer up to the next verdict. -/
def decode (codec : Codec) (buffer : Octets) : Turn :=
  decodeOnto [] codec.decoder buffer

/-- Take octets from the buffer up to the next verdict, or drop what is unfinished. -/
def decodeAtEnd (codec : Codec) (buffer : Octets) : Turn :=
  let turn := codec.decode buffer
  match turn.verdict with
  | some _ => turn
  | none =>
      let (decoder, events) := turn.codec.decoder.reset
      { turn with codec := ⟨decoder⟩, events := turn.events ++ events }

/-- Append the wire form of a frame to the send buffer. -/
def encode (codec : Codec) (frame : Frame) (sent : Octets) : Except LinkError Octets :=
  (frame.encodeWithin codec.limit).map (sent ++ ·)

theorem encode_of_le {codec : Codec} {frame : Frame} (hlimit : frame.contentSize ≤ codec.limit)
    (sent : Octets) : codec.encode frame sent = .ok (sent ++ frame.encode) := by
  rw [encode, Frame.encodeWithin_of_le hlimit]
  rfl

theorem encode_of_lt {codec : Codec} {frame : Frame} (hlimit : codec.limit < frame.contentSize)
    (sent : Octets) :
    codec.encode frame sent = .error (.tooLarge frame.contentSize codec.limit) := by
  rw [encode, Frame.encodeWithin_of_lt hlimit]
  rfl

end Codec

end Hdlc
