import Hdlc.Frame

/-!
# Decoder states

Decoding goes octet by octet. Between frames the decoder searches for a flag; inside one it gathers
restored content until the next flag, which closes the frame and opens another. A candidate frame
is settled at once when an escape mark is misused or the content outgrows the limit, and what is
left of it up to the next flag is skipped. `feed` runs `step` over a sequence of octets and may be
cut anywhere (`feed_append`).
-/

namespace Hdlc

/-- What becomes of a candidate frame. -/
abbrev Verdict := Except Rejection Frame

/-- Where a decoder stands in a stream, with the content gathered so far. -/
inductive Decoder.State
  /-- No flag has been seen since the last fault, or none at all. -/
  | searching
  /-- The last flag opened a frame. -/
  | inFrame (content : Array UInt8)
  /-- The octet before was an escape mark inside a frame. -/
  | escaping (content : Array UInt8)
  deriving DecidableEq, Repr

namespace Decoder.State

def content : State → Array UInt8
  | searching => #[]
  | inFrame content => content
  | escaping content => content

def isSearching : State → Bool
  | searching => true
  | _ => false

/-- Whether part of a frame would be lost if the stream ended here. -/
def isUnfinished : State → Bool
  | searching => false
  | inFrame content => !content.isEmpty
  | escaping _ => true

/-- Gather one restored octet unless the limit is reached. -/
def gather (limit : Nat) (content : Array UInt8) (octet : UInt8) : State × Option Verdict :=
  if limit ≤ content.size then (searching, some (.error (.tooLong limit)))
  else (inFrame (content.push octet), none)

/-- Take in one octet under a limit on content, with the verdict it brings about, if any. -/
def step (limit : Nat) : State → UInt8 → State × Option Verdict
  | searching, octet =>
      if octet = flag then (inFrame #[], none) else (searching, none)
  | inFrame content, octet =>
      if octet = flag then
        if content.isEmpty then (inFrame content, none)
        else (inFrame #[], some (Frame.ofContent content.toList))
      else if octet = escapeMark then (escaping content, none)
      else gather limit content octet
  | escaping content, octet =>
      match unescapeOctet octet with
      | .ok plain => gather limit content plain
      | .error reason =>
          (if octet = flag then inFrame #[] else searching, some (.error reason))

/-- Take in a sequence of octets after the verdicts already reached, latest first. -/
def feedOnto (limit : Nat) (verdicts : List Verdict) :
    State → Octets → State × List Verdict
  | state, [] => (state, verdicts.reverse)
  | state, octet :: rest =>
      match state.step limit octet with
      | (next, none) => feedOnto limit verdicts next rest
      | (next, some verdict) => feedOnto limit (verdict :: verdicts) next rest

/-- Take in a sequence of octets, with the verdicts it brings about in order. -/
def feed (limit : Nat) (state : State) (octets : Octets) : State × List Verdict :=
  feedOnto limit [] state octets

theorem feedOnto_eq (limit : Nat) (verdicts : List Verdict) (state : State) (octets : Octets) :
    feedOnto limit verdicts state octets =
      ((feed limit state octets).1, verdicts.reverse ++ (feed limit state octets).2) := by
  induction octets generalizing verdicts state with
  | nil => simp [feed, feedOnto]
  | cons octet rest ih =>
      unfold feed feedOnto
      split
      · rw [ih, ih []]
        simp
      · rw [ih, ih [_]]
        simp

@[simp]
theorem feed_nil (limit : Nat) (state : State) : feed limit state [] = (state, []) := rfl

theorem feed_cons (limit : Nat) (state : State) (octet : UInt8) (rest : Octets) :
    feed limit state (octet :: rest) =
      ((feed limit (state.step limit octet).1 rest).1,
        (state.step limit octet).2.toList ++ (feed limit (state.step limit octet).1 rest).2) := by
  rw [feed, feedOnto]
  split
  next heq => simp [heq, feedOnto_eq]
  next heq => simp [heq, feedOnto_eq]

/-- Feeding may be cut anywhere: the state carries all that matters. -/
theorem feed_append (limit : Nat) (state : State) (first second : Octets) :
    feed limit state (first ++ second) =
      ((feed limit (feed limit state first).1 second).1,
        (feed limit state first).2 ++ (feed limit (feed limit state first).1 second).2) := by
  induction first generalizing state with
  | nil => simp
  | cons octet rest ih => simp [feed_cons, ih]

end Decoder.State

end Hdlc
