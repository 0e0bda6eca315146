import Hdlc.Decoder.State

/-!
# Reading a stream segment by segment

A flag never belongs to content, so the flags cut a stream into segments, and what a decoder makes
of a stream can be said of each segment by itself. A segment is a sequence of tokens, each of which
stands for one octet of content unless it is at fault; the first fault decides. The decoder goes
octet by octet and yet does just this (`feed_searching_eq_readSegments`).
-/

namespace Hdlc

namespace Segment

/-- What stands in a segment for one octet of content. -/
inductive Token
  /-- An octet other than the escape mark. -/
  | plain (octet : UInt8)
  /-- An escape mark and the octet after it. -/
  | escaped (sent : UInt8)
  /-- An escape mark that ends the segment. -/
  | cut
  deriving DecidableEq, Repr

def tokens : Octets → List Token
  | [] => []
  | octet :: rest =>
      if octet = escapeMark then
        match rest with
        | [] => [.cut]
        | sent :: rest => .escaped sent :: tokens rest
      else .plain octet :: tokens rest

/-- The fault of a token that `index` well-formed tokens come before, if it has one. A well-formed
token is at fault where the content already has as many octets as the limit allows. -/
def Token.fault? (limit index : Nat) : Token → Option Rejection
  | plain _ => if limit ≤ index then some (.tooLong limit) else none
  | escaped sent =>
      if sent ≠ 0x5D ∧ sent ≠ 0x5E then some .malformedEscape
      else if limit ≤ index then some (.tooLong limit)
      else none
  | cut => some .malformedEscape

/-- The first fault of a segment that continues content of `start` octets. -/
def faultFrom? (limit start : Nat) (segment : Octets) : Option Rejection :=
  ((tokens segment).zipIdx start).findSome? fun (token, index) => token.fault? limit index

/-- The first fault of a segment or, if there is none, what it restores. -/
def contentFrom (limit start : Nat) (segment : Octets) : Except Rejection Octets :=
  match faultFrom? limit start segment with
  | some reason => .error reason
  | none => unescape segment

/-- The verdict on a segment between two flags. There is none on flags that touch. -/
def verdict? (limit : Nat) (segment : Octets) : Option Verdict :=
  if segment = [] then none else some ((contentFrom limit 0 segment).bind Frame.ofContent)

/-- Whether the last octet of a segment is an escape mark that still waits for its octet. -/
def isCut (segment : Octets) : Bool :=
  Token.cut ∈ tokens segment

/-- A segment without the escape mark that waits for its octet. -/
def settled (segment : Octets) : Octets :=
  if isCut segment then segment.dropLast else segment

/-- Where a decoder stands behind a segment that no flag has closed, and what it has said of it. -/
def standing (gathered : Array UInt8) (cut : Bool) :
    Except Rejection Octets → Decoder.State × List Verdict
  | .error reason => (.searching, [.error reason])
  | .ok content =>
      let content := gathered ++ content.toArray
      (if cut then .escaping content else .inFrame content, [])

/-- The segments that follow the first flag of a stream, the last of them not closed. -/
def readSegments (limit : Nat) : List Octets → Decoder.State × List Verdict
  | [] => (.searching, [])
  | [last] => standing #[] (isCut last) (contentFrom limit 0 (settled last))
  | segment :: later =>
      let (state, verdicts) := readSegments limit later
      (state, (verdict? limit segment).toList ++ verdicts)

/-! ## Tokens -/

theorem Token.fault?_escaped (limit index : Nat) (sent : UInt8) :
    (escaped sent).fault? limit index =
      if sent ∉ transposedOctets then some .malformedEscape
      else if limit ≤ index then some (.tooLong limit)
      else none := by
  simp only [fault?, mem_transposedOctets, not_or, ne_eq]

theorem tokens_cons {octet : UInt8} (hplain : octet ≠ escapeMark) (rest : Octets) :
    tokens (octet :: rest) = .plain octet :: tokens rest := by
  rw [tokens.eq_def]
  exact if_neg hplain

theorem tokens_escapeMark_cons (sent : UInt8) (rest : Octets) :
    tokens (escapeMark :: sent :: rest) = .escaped sent :: tokens rest := by
  rw [tokens, if_pos rfl]

@[simp]
theorem isCut_nil : isCut [] = false := rfl

theorem isCut_cons {octet : UInt8} (hplain : octet ≠ escapeMark) (rest : Octets) :
    isCut (octet :: rest) = isCut rest := by
  simp [isCut, tokens_cons hplain]

theorem isCut_escapeMark_cons (sent : UInt8) (rest : Octets) :
    isCut (escapeMark :: sent :: rest) = isCut rest := by
  simp [isCut, tokens_escapeMark_cons]

theorem ne_nil_of_isCut {segment : Octets} (hcut : isCut segment) : segment ≠ [] := by
  rintro rfl
  simp at hcut

theorem settled_of_not_isCut {segment : Octets} (hcut : ¬isCut segment) :
    settled segment = segment :=
  if_neg hcut

theorem settled_cons {octet : UInt8} (hplain : octet ≠ escapeMark) (rest : Octets) :
    settled (octet :: rest) = octet :: settled rest := by
  rw [settled, settled, isCut_cons hplain]
  split
  next hcut => rw [List.dropLast_cons_of_ne_nil (ne_nil_of_isCut hcut)]
  next => rfl

theorem settled_escapeMark_cons (sent : UInt8) (rest : Octets) :
    settled (escapeMark :: sent :: rest) = escapeMark :: sent :: settled rest := by
  rw [settled, settled, isCut_escapeMark_cons]
  split
  next hcut =>
    rw [List.dropLast_cons_of_ne_nil (List.cons_ne_nil _ _),
      List.dropLast_cons_of_ne_nil (ne_nil_of_isCut hcut)]
  next => rfl

theorem tokens_of_isCut {segment : Octets} (hcut : isCut segment) :
    tokens segment = tokens (settled segment) ++ [.cut] := by
  fun_induction tokens segment with
  | case1 => simp at hcut
  | case2 => rfl
  | case3 sent rest ih =>
      rw [isCut_escapeMark_cons] at hcut
      rw [settled_escapeMark_cons, tokens_escapeMark_cons, ih hcut, List.cons_append]
  | case4 octet rest hplain ih =>
      rw [isCut_cons hplain] at hcut
      rw [settled_cons hplain, tokens_cons hplain, ih hcut, List.cons_append]

/-! ## Content -/

@[simp]
theorem contentFrom_nil (limit start : Nat) : contentFrom limit start [] = .ok [] := rfl

theorem faultFrom?_cons {octet : UInt8} (hplain : octet ≠ escapeMark) (limit start : Nat)
    (rest : Octets) :
    faultFrom? limit start (octet :: rest) =
      if limit ≤ start then some (.tooLong limit) else faultFrom? limit (start + 1) rest := by
  rw [faultFrom?, tokens_cons hplain, List.zipIdx_cons, List.findSome?_cons]
  by_cases hfull : limit ≤ start
  · simp [Token.fault?, hfull]
  · simp [Token.fault?, hfull, faultFrom?]

theorem faultFrom?_escapeMark_cons (limit start : Nat) (sent : UInt8) (rest : Octets) :
    faultFrom? limit start (escapeMark :: sent :: rest) =
      if sent ∉ transposedOctets then some .malformedEscape
      else if limit ≤ start then some (.tooLong limit)
      else faultFrom? limit (start + 1) rest := by
  rw [faultFrom?, tokens_escapeMark_cons, List.zipIdx_cons, List.findSome?_cons]
  by_cases hsent : sent ∈ transposedOctets
  · by_cases hfull : limit ≤ start
    · simp [Token.fault?_escaped, hsent, hfull]
    · simp [Token.fault?_escaped, hsent, hfull, faultFrom?]
  · simp [Token.fault?_escaped, hsent]

theorem contentFrom_cons {octet : UInt8} (hplain : octet ≠ escapeMark) (limit start : Nat)
    (rest : Octets) :
    contentFrom limit start (octet :: rest) =
      if limit ≤ start then .error (.tooLong limit)
      else (contentFrom limit (start + 1) rest).map (octet :: ·) := by
  rw [contentFrom, contentFrom, faultFrom?_cons hplain, unescape_cons hplain]
  by_cases hfull : limit ≤ start
  · rw [if_pos hfull, if_pos hfull]
  · rw [if_neg hfull, if_neg hfull]
    cases faultFrom? limit (start + 1) rest with
    | none => rfl
    | some reason => rfl

theorem contentFrom_escapeMark_cons (limit start : Nat) (sent : UInt8) (rest : Octets) :
    contentFrom limit start (escapeMark :: sent :: rest) =
      (unescapeOctet sent).bind fun plain =>
        if limit ≤ start then .error (.tooLong limit)
        else (contentFrom limit (start + 1) rest).map (plain :: ·) := by
  rw [contentFrom, contentFrom, faultFrom?_escapeMark_cons, unescape_escapeMark_cons, unescapeOctet]
  by_cases hsent : sent ∈ transposedOctets
  · rw [if_neg (not_not_intro hsent), if_pos hsent]
    by_cases hfull : limit ≤ start
    · simp [Except.bind, hfull]
    · rw [if_neg hfull]
      cases faultFrom? limit (start + 1) rest with
      | none => simp [Except.bind, hfull]
      | some reason => simp [Except.bind, Except.map, hfull]
  · simp [Except.bind, hsent]

theorem exists_unescape_of_faultFrom?_eq_none {limit start : Nat} {segment : Octets}
    (hfault : faultFrom? limit start segment = none) :
    ∃ content, unescape segment = .ok content := by
  fun_induction tokens segment generalizing start with
  | case1 => exact ⟨[], rfl⟩
  | case2 => simp [faultFrom?, tokens, Token.fault?] at hfault
  | case3 sent rest ih =>
      rw [faultFrom?_escapeMark_cons] at hfault
      by_cases hsent : sent ∈ transposedOctets
      · rw [if_neg (not_not_intro hsent)] at hfault
        split at hfault
        next => cases hfault
        next =>
          obtain ⟨content, hcontent⟩ := ih hfault
          refine ⟨transpose sent :: content, ?_⟩
          rw [unescape_escapeMark_cons, unescapeOctet, if_pos hsent, hcontent]
          rfl
      · simp [hsent] at hfault
  | case4 octet rest hplain ih =>
      rw [faultFrom?_cons hplain] at hfault
      split at hfault
      next => cases hfault
      next =>
        obtain ⟨content, hcontent⟩ := ih hfault
        refine ⟨octet :: content, ?_⟩
        rw [unescape_cons hplain, hcontent]
        rfl

theorem faultFrom?_of_isCut {limit start : Nat} {segment : Octets} (hcut : isCut segment) :
    faultFrom? limit start segment =
      (faultFrom? limit start (settled segment)).or (some .malformedEscape) := by
  rw [faultFrom?, tokens_of_isCut hcut, List.zipIdx_append, List.findSome?_append]
  rfl

/-- A segment that ends in an escape mark is at fault for that, if for nothing before it. -/
theorem contentFrom_of_isCut {limit start : Nat} {segment : Octets} (hcut : isCut segment) :
    contentFrom limit start segment =
      (contentFrom limit start (settled segment)).bind fun _ => .error .malformedEscape := by
  rw [contentFrom, contentFrom, faultFrom?_of_isCut hcut]
  cases hfault : faultFrom? limit start (settled segment) with
  | some reason => rfl
  | none =>
      obtain ⟨content, hcontent⟩ := exists_unescape_of_faultFrom?_eq_none hfault
      simp [hcontent, Except.bind]

theorem map_cons_ne_ok_nil (octet : UInt8) (content : Except Rejection Octets) :
    content.map (octet :: ·) ≠ .ok [] := by
  cases content <;> simp [Except.map]

theorem eq_nil_of_contentFrom_eq_ok_nil {limit start : Nat} {segment : Octets}
    (hcontent : contentFrom limit start segment = .ok []) : segment = [] := by
  fun_cases tokens segment with
  | case1 => rfl
  | case2 => cases hcontent
  | case3 sent rest =>
      rw [contentFrom_escapeMark_cons] at hcontent
      cases hsent : unescapeOctet sent with
      | error reason =>
          rw [hsent] at hcontent
          cases hcontent
      | ok plain =>
          simp only [hsent, Except.bind] at hcontent
          split at hcontent
          next => cases hcontent
          next => exact absurd hcontent (map_cons_ne_ok_nil _ _)
  | case4 octet rest hplain =>
      rw [contentFrom_cons hplain] at hcontent
      split at hcontent
      next => cases hcontent
      next => exact absurd hcontent (map_cons_ne_ok_nil _ _)

/-! ## Standing -/

theorem standing_map_cons (gathered : Array UInt8) (octet : UInt8) (cut : Bool)
    (content : Except Rejection Octets) :
    standing gathered cut (content.map (octet :: ·)) =
      standing (gathered.push octet) cut content := by
  cases content with
  | error reason => rfl
  | ok content => simp [standing, Except.map]

theorem readSegments_cons (limit : Nat) (segment : Octets) {later : List Octets}
    (hlater : later ≠ []) :
    readSegments limit (segment :: later) =
      ((readSegments limit later).1,
        (verdict? limit segment).toList ++ (readSegments limit later).2) := by
  obtain ⟨next, others, rfl⟩ := List.exists_cons_of_ne_nil hlater
  rfl

/-- Show a property of all streams: of segments, and of a stream behind a segment and its flag if it
holds of what follows. -/
@[elab_as_elim]
theorem induction_on {motive : Octets → Prop} (octets : Octets)
    (last : ∀ segment, flag ∉ segment → motive segment)
    (whole : ∀ segment later, flag ∉ segment → motive later → motive (segment ++ flag :: later)) :
    motive octets := by
  induction hlength : octets.length using Nat.strongRecOn generalizing octets with
  | ind length ih =>
      by_cases hflag : flag ∈ octets
      · obtain ⟨segment, later, rfl, hsegment⟩ := List.eq_append_cons_of_mem hflag
        have hshorter : later.length < length := by
          simp only [List.length_append, List.length_cons] at hlength
          omega
        exact whole segment later hsegment (ih later.length hshorter later rfl)
      · exact last octets hflag

end Segment

namespace Decoder.State

open Segment

/-- The verdict that a flag brings about. -/
def closing? : State → Option Verdict
  | searching => none
  | inFrame content => if content.isEmpty then none else some (Frame.ofContent content.toList)
  | escaping _ => some (.error .malformedEscape)

theorem step_flag (limit : Nat) (state : State) :
    state.step limit flag = (inFrame #[], state.closing?) := by
  cases state with
  | searching => rfl
  | inFrame content =>
      by_cases hempty : content.isEmpty
      · have hnil : content = #[] := Array.isEmpty_iff.mp hempty
        subst hnil
        rfl
      · simp [step, closing?, hempty]
  | escaping content => rfl

theorem ok_not_mem_gather (limit : Nat) (content : Array UInt8) (octet : UInt8) (frame : Frame) :
    (gather limit content octet).2 ≠ some (.ok frame) := by
  by_cases hfull : limit ≤ content.size
  · simp [gather, hfull]
  · simp [gather, hfull]

/-- A frame is accepted at a flag, and for what was gathered before it. -/
theorem accepted_of_step {limit : Nat} {state : State} {octet : UInt8} {frame : Frame}
    (hverdict : (state.step limit octet).2 = some (.ok frame)) :
    octet = flag ∧ ∃ content, state = inFrame content ∧
      Frame.ofContent content.toList = .ok frame := by
  by_cases hflag : octet = flag
  · subst hflag
    refine ⟨rfl, ?_⟩
    rw [step_flag] at hverdict
    cases state with
    | searching => cases hverdict
    | inFrame content =>
        rw [closing?] at hverdict
        split at hverdict
        next => cases hverdict
        next => exact ⟨content, rfl, Option.some.inj hverdict⟩
    | escaping content => cases hverdict
  · cases state with
    | searching =>
        rw [step, if_neg hflag] at hverdict
        cases hverdict
    | inFrame content =>
        rw [step, if_neg hflag] at hverdict
        split at hverdict
        next => cases hverdict
        next => exact absurd hverdict (ok_not_mem_gather limit content octet frame)
    | escaping content =>
        rw [step] at hverdict
        split at hverdict
        next plain _ => exact absurd hverdict (ok_not_mem_gather limit content plain frame)
        next => cases hverdict

theorem feed_append_flag (limit : Nat) (state : State) (octets : Octets) :
    feed limit state (octets ++ [flag]) =
      (inFrame #[],
        (feed limit state octets).2 ++ (feed limit state octets).1.closing?.toList) := by
  simp [feed_append, feed_cons, step_flag]

theorem feed_searching_of_not_mem {octets : Octets} (hflag : flag ∉ octets) (limit : Nat) :
    feed limit searching octets = (searching, []) := by
  induction octets with
  | nil => rfl
  | cons octet rest ih =>
      have hstep : step limit searching octet = (searching, none) :=
        if_neg (Ne.symm (List.ne_of_not_mem_cons hflag))
      rw [feed_cons, hstep, ih (List.not_mem_of_not_mem_cons hflag)]
      rfl

/-- Gathering an octet and going on amounts to reading on behind one more octet of content. -/
theorem feed_gather {limit : Nat} {gathered : Array UInt8} {octet : UInt8} {rest : Octets}
    {cut : Bool} (hflag : flag ∉ rest)
    (hrest : feed limit (inFrame (gathered.push octet)) rest =
      standing (gathered.push octet) cut (contentFrom limit (gathered.size + 1) (settled rest))) :
    ((feed limit (gather limit gathered octet).1 rest).1,
        (gather limit gathered octet).2.toList ++
          (feed limit (gather limit gathered octet).1 rest).2) =
      standing gathered cut
        (if limit ≤ gathered.size then .error (.tooLong limit)
         else (contentFrom limit (gathered.size + 1) (settled rest)).map (octet :: ·)) := by
  by_cases hfull : limit ≤ gathered.size
  · simp only [gather, if_pos hfull, feed_searching_of_not_mem hflag]
    rfl
  · simp only [gather, if_neg hfull, standing_map_cons, ← hrest]
    rfl

/-- Inside a frame, a segment is read to where its content or its first fault leads. -/
theorem feed_inFrame (limit : Nat) (gathered : Array UInt8) {segment : Octets}
    (hflag : flag ∉ segment) :
    feed limit (inFrame gathered) segment =
      standing gathered (isCut segment) (contentFrom limit gathered.size (settled segment)) := by
  -- The decoder reads a token in one step or two, and has no verdict on its way through it.
  fun_induction tokens segment generalizing gathered with
  | case1 => simp [settled, standing]
  | case2 => rfl
  | case3 sent rest ih =>
      have hpair : flag ∉ sent :: rest := List.not_mem_of_not_mem_cons hflag
      have hsent : sent ≠ flag := Ne.symm (List.ne_of_not_mem_cons hpair)
      have hrest : flag ∉ rest := List.not_mem_of_not_mem_cons hpair
      have hmark : step limit (inFrame gathered) escapeMark = (escaping gathered, none) := rfl
      rw [feed_cons, hmark, feed_cons, isCut_escapeMark_cons, settled_escapeMark_cons,
        contentFrom_escapeMark_cons, step]
      cases hplain : unescapeOctet sent with
      | error reason =>
          simp only [if_neg hsent, feed_searching_of_not_mem hrest]
          rfl
      | ok plain =>
          refine feed_gather hrest ?_
          rw [ih _ hrest, Array.size_push]
  | case4 octet rest hplain ih =>
      have hoctet : octet ≠ flag := Ne.symm (List.ne_of_not_mem_cons hflag)
      have hrest : flag ∉ rest := List.not_mem_of_not_mem_cons hflag
      have hstep : step limit (inFrame gathered) octet = gather limit gathered octet := by
        rw [step, if_neg hoctet, if_neg hplain]
      rw [feed_cons, hstep, isCut_cons hplain, settled_cons hplain, contentFrom_cons hplain]
      refine feed_gather hrest ?_
      rw [ih _ hrest, Array.size_push]

/-- A flag closes a segment with the verdict on it, and opens the next. -/
theorem feed_inFrame_append_flag (limit : Nat) {segment : Octets} (hflag : flag ∉ segment) :
    feed limit (inFrame #[]) (segment ++ [flag]) =
      (inFrame #[], (verdict? limit segment).toList) := by
  rw [feed_append_flag, feed_inFrame limit #[] hflag, Prod.mk.injEq]
  refine ⟨rfl, ?_⟩
  by_cases hempty : segment = []
  · subst hempty
    rfl
  rw [verdict?, if_neg hempty]
  -- Behind a mark that waits, the flag is the fault; otherwise it validates what was gathered.
  by_cases hcut : isCut segment
  · rw [contentFrom_of_isCut hcut, hcut]
    cases contentFrom limit 0 (settled segment) with
    | error reason => rfl
    | ok content => rfl
  · rw [settled_of_not_isCut hcut, Bool.eq_false_iff.mpr hcut]
    cases hcontent : contentFrom limit 0 segment with
    | error reason => rfl
    | ok content =>
        have hne : content ≠ [] := by
          rintro rfl
          exact hempty (eq_nil_of_contentFrom_eq_ok_nil hcontent)
        simp [standing, closing?, Except.bind, hne]

/-- Behind a flag, a stream is read segment by segment. -/
theorem feed_inFrame_eq_readSegments (limit : Nat) (octets : Octets) :
    feed limit (inFrame #[]) octets = readSegments limit (octets.splitOn flag) := by
  induction octets using Segment.induction_on with
  | last segment hflag =>
      rw [List.splitOn_eq_singleton hflag, readSegments, feed_inFrame limit #[] hflag]
      rfl
  | whole segment later hflag ih =>
      rw [List.splitOn_append_cons_self_of_not_mem hflag, List.append_cons, feed_append,
        feed_inFrame_append_flag limit hflag, ih,
        readSegments_cons limit segment (List.splitOn_ne_nil flag later)]

/-- A stream is read segment by segment from its first flag on, whatever it holds. -/
theorem feed_searching_eq_readSegments (limit : Nat) (octets : Octets) :
    feed limit searching octets = readSegments limit (octets.splitOn flag).tail := by
  by_cases hflag : flag ∈ octets
  · obtain ⟨noise, rest, rfl, hnoise⟩ := List.eq_append_cons_of_mem hflag
    rw [List.splitOn_append_cons_self_of_not_mem hnoise, List.tail_cons,
      ← feed_inFrame_eq_readSegments, feed_append, feed_searching_of_not_mem hnoise, feed_cons,
      step_flag]
    rfl
  · rw [List.splitOn_eq_singleton hflag, feed_searching_of_not_mem hflag]
    rfl

end Decoder.State

end Hdlc
