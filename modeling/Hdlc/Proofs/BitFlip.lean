import Hdlc.Proofs.Burst
import Hdlc.Proofs.Form

/-!
# Flipped bits

On the wire a flipped bit may do more than change an octet of content. It may make a flag or an
escape mark, or unmake one, and so cut the content in two, join two octets of it or split one.
However it falls, the decoder does not take what arrives for the frame that was sent
(`flipped_bit_is_noticed`): content of the wrong length can only hold the same frame in a longer
form of its address, and a flipped bit does not make one.
-/

namespace Hdlc

/-- An octet received with one bit flipped. -/
def flipBit (bit : Fin 8) (octet : UInt8) : UInt8 :=
  octet ^^^ UInt8.ofNat (2 ^ bit.val)

theorem flipBit_flipBit (bit : Fin 8) (octet : UInt8) :
    flipBit bit (flipBit bit octet) = octet := by
  rw [flipBit, flipBit, UInt8.xor_assoc, UInt8.xor_self, UInt8.xor_zero]

theorem flipBit_ne (bit : Fin 8) (octet : UInt8) : flipBit bit octet ≠ octet := by
  have hmask : ∀ bit : Fin 8, UInt8.ofNat (2 ^ bit.val) ≠ 0 := by decide
  intro heq
  have hzero : octet ^^^ UInt8.ofNat (2 ^ bit.val) = octet ^^^ 0 := by
    rw [UInt8.xor_zero]
    exact heq
  exact hmask bit ((UInt8.xor_right_inj _).mp hzero)

theorem not_isReserved_flipBit_escapeMark (bit : Fin 8) :
    ¬isReserved (flipBit bit escapeMark) := by
  revert bit
  decide

/-- The two octets that may follow an escape mark differ in two bits. -/
theorem unescapeOctet_flipBit_transpose {octet : UInt8} (hreserved : isReserved octet)
    (bit : Fin 8) : unescapeOctet (flipBit bit (transpose octet)) = .error .malformedEscape := by
  have hflag : ∀ bit : Fin 8, flipBit bit (transpose flag) ∉ transposedOctets := by decide
  have hmark : ∀ bit : Fin 8, flipBit bit (transpose escapeMark) ∉ transposedOctets := by decide
  rcases isReserved_iff.mp hreserved with rfl | rfl
  · exact if_neg (hflag bit)
  · exact if_neg (hmark bit)

/-- An escape mark joins the octets it may announce to the reserved ones they stand for. -/
theorem escapeMark_cons_escape {next : UInt8} (hnext : next ∈ transposedOctets) (rest : Octets) :
    escapeMark :: escape (next :: rest) = escape (transpose next :: rest) := by
  have hcases : next = transpose escapeMark ∨ next = transpose flag := by
    simpa [transposedOctets] using hnext
  rcases hcases with rfl | rfl <;> rfl

theorem exists_cons_of_escapeOctet {next : UInt8} (hnext : next ∉ transposedOctets) :
    ∃ sent more, escapeOctet next = sent :: more ∧
      unescapeOctet sent = .error .malformedEscape := by
  by_cases hreserved : isReserved next
  · exact ⟨escapeMark, [transpose next], escapeOctet_of_isReserved hreserved, rfl⟩
  · exact ⟨next, [], escapeOctet_of_not_isReserved hreserved, if_neg hnext⟩

/-! ## Places on the wire -/

/-- What an octet of escaped content is there for, with the octets before and behind it: it stands
for itself, or it is the first or the second of a pair that stands for a reserved octet. -/
inductive Place (content before : Octets) (octet : UInt8) (after : Octets) : Prop
  | plain (front rest : Octets) (hplain : ¬isReserved octet)
      (hcontent : content = front ++ octet :: rest) (hbefore : before = escape front)
      (hafter : after = escape rest)
  | mark (front rest : Octets) (reserved : UInt8) (hreserved : isReserved reserved)
      (hcontent : content = front ++ reserved :: rest) (hbefore : before = escape front)
      (hoctet : octet = escapeMark) (hafter : after = transpose reserved :: escape rest)
  | announced (front rest : Octets) (reserved : UInt8) (hreserved : isReserved reserved)
      (hcontent : content = front ++ reserved :: rest)
      (hbefore : before = escape front ++ [escapeMark]) (hoctet : octet = transpose reserved)
      (hafter : after = escape rest)

theorem Place.cons {content before after : Octets} {octet : UInt8}
    (hplace : Place content before octet after) (first : UInt8) :
    Place (first :: content) (escapeOctet first ++ before) octet after := by
  cases hplace with
  | plain front rest hplain hcontent hbefore hafter =>
      subst hcontent hbefore
      exact .plain (first :: front) rest hplain rfl rfl hafter
  | mark front rest reserved hreserved hcontent hbefore hoctet hafter =>
      subst hcontent hbefore
      exact .mark (first :: front) rest reserved hreserved rfl rfl hoctet hafter
  | announced front rest reserved hreserved hcontent hbefore hoctet hafter =>
      subst hcontent hbefore
      refine .announced (first :: front) rest reserved hreserved rfl ?_ hoctet hafter
      rw [escape_cons, List.append_assoc]

theorem place_of_escape_eq {content before after : Octets} {octet : UInt8}
    (hescape : escape content = before ++ octet :: after) : Place content before octet after := by
  -- The octet is in the form of the first octet of content, or else in that of the rest.
  induction content generalizing before with
  | nil => cases before <;> cases hescape
  | cons first rest ih =>
      rw [escape_cons] at hescape
      by_cases hreserved : isReserved first
      · have hpair := escapeOctet_of_isReserved hreserved
        rw [hpair] at hescape
        rcases before with _ | ⟨mark, _ | ⟨announced, before⟩⟩
        · cases hescape
          exact .mark [] rest first hreserved rfl rfl rfl rfl
        · cases hescape
          exact .announced [] rest first hreserved rfl rfl rfl rfl
        · obtain ⟨rfl, hbehind⟩ := List.cons.inj hescape
          obtain ⟨rfl, hrest⟩ := List.cons.inj hbehind
          have hplace := (ih hrest).cons first
          rwa [hpair] at hplace
      · have hsingle := escapeOctet_of_not_isReserved hreserved
        rw [hsingle] at hescape
        rcases before with _ | ⟨plain, before⟩
        · cases hescape
          exact .plain [] rest hreserved rfl rfl rfl
        · obtain ⟨rfl, hrest⟩ := List.cons.inj hescape
          have hplace := (ih hrest).cons first
          rwa [hsingle] at hplace

/-- An octet of a frame on the wire is its opening flag, its closing flag or between the two. -/
theorem Frame.cases_of_encode_eq (frame : Frame) {before after : Octets} {octet : UInt8}
    (hencode : frame.encode = before ++ octet :: after) :
    (before = [] ∧ octet = flag ∧ after = escape frame.content ++ [flag]) ∨
      (before = flag :: escape frame.content ∧ octet = flag ∧ after = []) ∨
      ∃ inside between, before = flag :: inside ∧ after = between ++ [flag] ∧
        escape frame.content = inside ++ octet :: between := by
  rw [encode, List.cons_append] at hencode
  cases before with
  | nil =>
      obtain ⟨rfl, rfl⟩ := List.cons.inj hencode
      exact .inl ⟨rfl, rfl, rfl⟩
  | cons opening inside =>
      obtain ⟨rfl, hinside⟩ := List.cons.inj (List.cons_append ▸ hencode)
      right
      rcases List.eq_nil_or_concat after with rfl | ⟨between, closing, hconcat⟩
      · obtain ⟨rfl, hclosing⟩ := List.append_inj' hinside rfl
        cases hclosing
        exact .inl ⟨rfl, rfl, rfl⟩
      · rw [List.concat_eq_append] at hconcat
        subst hconcat
        have hends : escape frame.content ++ [flag] =
            (inside ++ octet :: between) ++ [closing] := by simpa using hinside
        obtain ⟨hcontent, hclosing⟩ := List.append_inj' hends rfl
        cases hclosing
        exact .inr ⟨inside, between, rfl, rfl, hcontent⟩

namespace Decoder.State

/-! ## Flags behind content -/

/-- The verdict that a flag behind content brings about. There is none on no content. -/
def settle (content : Octets) : List Verdict :=
  if content = [] then [] else [Frame.ofContent content]

theorem feed_inFrame_flag_cons (limit : Nat) (content rest : Octets) :
    feed limit (inFrame content.toArray) (flag :: rest) =
      ((feed limit (inFrame #[]) rest).1,
        settle content ++ (feed limit (inFrame #[]) rest).2) := by
  rw [feed_cons, step_flag, closing?, settle]
  cases content with
  | nil => simp
  | cons octet content => simp

theorem feed_escape_flag {limit : Nat} {content : Octets} (hlimit : content.length ≤ limit) :
    feed limit (inFrame #[]) (escape content ++ [flag]) = (inFrame #[], settle content) := by
  rw [feed_escape_append hlimit, feed_inFrame_flag_cons]
  simp

theorem feed_searching_escape_flag (limit : Nat) (content : Octets) :
    feed limit searching (escape content ++ [flag]) = (inFrame #[], []) := by
  rw [feed_append_flag, feed_searching_of_not_mem (flag_not_mem_escape content)]
  rfl

/-! ## What a flipped bit makes of a frame -/

theorem ok_not_mem_settle {content : Octets} {frame : Frame}
    (hlength : content.length < frame.contentSize) : .ok frame ∉ settle content := by
  rw [settle]
  split
  next => exact List.not_mem_nil
  next =>
    rw [List.mem_singleton]
    exact (Frame.ofContent_ne_ok_of_length_lt hlength).symm

section

variable {frame : Frame} {limit : Nat} {front rest : Octets} {octet damaged : UInt8}

theorem contentSize_eq (hcontent : frame.content = front ++ octet :: rest) :
    frame.contentSize = front.length + rest.length + 1 := by
  rw [← frame.length_content, hcontent, List.length_append, List.length_cons]
  omega

/-- An octet that stands for itself is still read as one octet. -/
theorem feed_changed (hlimit : frame.contentSize ≤ limit)
    (hcontent : frame.content = front ++ octet :: rest) (hplain : ¬isReserved damaged)
    (hdamaged : damaged ≠ octet) :
    feed limit (inFrame #[]) (escape front ++ damaged :: (escape rest ++ [flag])) =
      (inFrame #[], [.error (Frame.mismatch (front ++ damaged :: rest))]) := by
  have hwire : escape front ++ damaged :: (escape rest ++ [flag]) =
      escape (front ++ damaged :: rest) ++ [flag] := by
    rw [escape_append, escape_cons, escapeOctet_of_not_isReserved hplain]
    simp
  have hlength : (front ++ damaged :: rest).length ≤ limit := by
    rw [List.length_append, List.length_cons]
    have := contentSize_eq hcontent
    omega
  rw [hwire, feed_escape_append_flag (by simp), if_pos hlength,
    Frame.ofContent_damaged_octet hcontent hdamaged]

/-- A flag cuts the content in two, each of which is settled by itself. -/
theorem feed_cut (hlimit : frame.contentSize ≤ limit)
    (hcontent : frame.content = front ++ octet :: rest) :
    feed limit (inFrame #[]) (escape front ++ flag :: (escape rest ++ [flag])) =
      (inFrame #[], settle front ++ settle rest) := by
  have hsize := contentSize_eq hcontent
  have hfront : front.length ≤ limit := by omega
  have hrest : rest.length ≤ limit := by omega
  rw [feed_escape_append hfront, feed_inFrame_flag_cons, feed_escape_flag hrest]

theorem ok_not_mem_cut (hcontent : frame.content = front ++ octet :: rest) :
    .ok frame ∉ settle front ++ settle rest := by
  have hsize := contentSize_eq hcontent
  rw [List.mem_append, not_or]
  exact ⟨ok_not_mem_settle (by omega), ok_not_mem_settle (by omega)⟩

/-- The register behind content that is settled without an error. -/
theorem extend_of_settle {content : Octets}
    (haccepted : ∀ reason, .error reason ∉ settle content) :
    Checksum.extend Checksum.initial content =
      if content = [] then Checksum.initial else Checksum.residue := by
  split
  next hnil =>
    subst hnil
    rfl
  next hne =>
    rw [settle, if_neg hne] at haccepted
    cases hverdict : Frame.ofContent content with
    | ok accepted => exact Frame.extend_of_ofContent hverdict
    | error reason =>
        rw [hverdict] at haccepted
        exact absurd (List.mem_singleton_self _) (haccepted reason)

/-- An octet that is one bit away from a flag leads from neither register to either of them. -/
theorem absorb_flipBit_flag (bit : Fin 8) {register : UInt32}
    (hregister : register ∈ [Checksum.initial, Checksum.residue]) :
    Checksum.absorb register (flipBit bit flag) ∉ [Checksum.initial, Checksum.residue] := by
  have hinitial : ∀ bit : Fin 8, Checksum.absorb Checksum.initial (flipBit bit flag) ∉
      [Checksum.initial, Checksum.residue] := by decide +kernel
  have hresidue : ∀ bit : Fin 8, Checksum.absorb Checksum.residue (flipBit bit flag) ∉
      [Checksum.initial, Checksum.residue] := by decide +kernel
  rcases List.mem_cons.mp hregister with rfl | hlast
  · exact hinitial bit
  · rw [List.mem_singleton.mp hlast]
    exact hresidue bit

/-- The two parts of the content are not both accepted, since the octet between them would have to
lead from the register behind the first to the one that the second starts with. -/
theorem exists_error_of_cut {bit : Fin 8}
    (hcontent : frame.content = front ++ flipBit bit flag :: rest) :
    ∃ reason, .error reason ∈ settle front ++ settle rest := by
  by_contra hnone
  simp only [not_exists, List.mem_append, not_or] at hnone
  -- The rest leads to the residue from the register before it, as it does in the intact frame.
  have hfront := extend_of_settle fun reason => (hnone reason).1
  have hrest := extend_of_settle fun reason => (hnone reason).2
  have hregister : Checksum.extend Checksum.initial front ∈
      [Checksum.initial, Checksum.residue] := by
    rw [hfront]
    split <;> simp
  have hbetween := absorb_flipBit_flag bit hregister
  have hwhole := frame.extend_content
  rw [hcontent, Checksum.extend_append, Checksum.extend_cons] at hwhole
  by_cases hnil : rest = []
  · subst hnil
    rw [Checksum.extend_nil] at hwhole
    exact hbetween (by simp [hwhole])
  · rw [if_neg hnil, ← hwhole] at hrest
    have hinitial := Checksum.extend_injective rest hrest
    exact hbetween (by simp [← hinitial])

/-- An octet behind an escape mark that is not a transposed one is a fault. -/
theorem feed_misescaped {sent : UInt8} (hlimit : front.length ≤ limit)
    (hsent : unescapeOctet sent = .error .malformedEscape) (hplain : sent ≠ flag)
    {more : Octets} (hmore : flag ∉ more) :
    feed limit (inFrame #[]) (escape front ++ escapeMark :: sent :: (more ++ [flag])) =
      (inFrame #[], [.error .malformedEscape]) := by
  have hfault : step limit (escaping front.toArray) sent =
      (searching, some (.error .malformedEscape)) := by
    rw [step, hsent]
    simp only [if_neg hplain]
  rw [feed_escape_append hlimit, feed_inFrame_escapeMark_cons, feed_cons, hfault,
    feed_append_flag, feed_searching_of_not_mem hmore]
  rfl

theorem feed_flag_behind_mark (hlimit : front.length ≤ limit) (after : Octets) :
    feed limit (inFrame #[]) (escape front ++ escapeMark :: flag :: after) =
      ((feed limit (inFrame #[]) after).1,
        .error .malformedEscape :: (feed limit (inFrame #[]) after).2) := by
  rw [feed_escape_append hlimit, feed_inFrame_escapeMark_cons, feed_cons, step_flag]
  rfl

/-- The octet behind an escape mark is the only one that may follow it there. -/
theorem feed_flipped_behind_mark (hlimit : frame.contentSize ≤ limit)
    (hcontent : frame.content = front ++ octet :: rest) (hreserved : isReserved octet)
    (bit : Fin 8) :
    ∃ verdicts, .ok frame ∉ verdicts ∧
      feed limit (inFrame #[])
          (escape front ++ escapeMark :: flipBit bit (transpose octet) :: (escape rest ++ [flag])) =
        (inFrame #[], .error .malformedEscape :: verdicts) := by
  have hsize := contentSize_eq hcontent
  have hfront : front.length ≤ limit := by omega
  by_cases hflag : flipBit bit (transpose octet) = flag
  · have hrest : rest.length ≤ limit := by omega
    refine ⟨settle rest, ok_not_mem_settle (by omega), ?_⟩
    rw [hflag, feed_flag_behind_mark hfront, feed_escape_flag hrest]
  · refine ⟨[], List.not_mem_nil, ?_⟩
    exact feed_misescaped hfront (unescapeOctet_flipBit_transpose hreserved bit) hflag
      (flag_not_mem_escape rest)

/-- An escape mark in the place of an octet is joined to the next one where it may announce it. -/
theorem feed_joined {next : UInt8} (hlimit : (front ++ transpose next :: rest).length ≤ limit)
    (hnext : next ∈ transposedOctets) :
    feed limit (inFrame #[]) (escape front ++ escapeMark :: (escape (next :: rest) ++ [flag])) =
      (inFrame #[], [Frame.ofContent (front ++ transpose next :: rest)]) := by
  have hwire : escape front ++ escapeMark :: (escape (next :: rest) ++ [flag]) =
      escape (front ++ transpose next :: rest) ++ [flag] := by
    rw [escape_append, ← escapeMark_cons_escape hnext, List.append_assoc, List.cons_append]
  rw [hwire, feed_escape_append_flag (by simp), if_pos hlimit]

/-- An escape mark in the place of an octet is a fault where it may not announce the next one. -/
theorem feed_misjoined {next : UInt8} (hlimit : front.length ≤ limit)
    (hnext : next ∉ transposedOctets) :
    feed limit (inFrame #[]) (escape front ++ escapeMark :: (escape (next :: rest) ++ [flag])) =
      (inFrame #[], [.error .malformedEscape]) := by
  obtain ⟨sent, more, hoctets, hfault⟩ := exists_cons_of_escapeOctet hnext
  have hflag := flag_not_mem_escapeOctet next
  rw [hoctets, List.mem_cons, not_or] at hflag
  have hbehind : flag ∉ more ++ escape rest := by
    rw [List.mem_append, not_or]
    exact ⟨hflag.2, flag_not_mem_escape rest⟩
  rw [escape_cons, hoctets, List.cons_append, List.cons_append]
  exact feed_misescaped hlimit hfault (Ne.symm hflag.1) hbehind

/-- Behind an escape mark in the place of an octet, either the next octet is a fault, or it is
joined with the mark to content that is too short for the frame. -/
theorem ok_not_mem_joined (hlimit : frame.contentSize ≤ limit)
    (hcontent : frame.content = front ++ octet :: rest) :
    .ok frame ∉
      (feed limit (inFrame #[]) (escape front ++ escapeMark :: (escape rest ++ [flag]))).2 := by
  have hsize := contentSize_eq hcontent
  have hfront : front.length ≤ limit := by omega
  cases rest with
  | nil =>
      have hfault := feed_flag_behind_mark hfront []
      rw [escape_nil, List.nil_append, hfault]
      simp
  | cons next rest =>
      rw [List.length_cons] at hsize
      by_cases hnext : next ∈ transposedOctets
      · have hlength : (front ++ transpose next :: rest).length < frame.contentSize := by
          rw [List.length_append, List.length_cons]
          omega
        rw [feed_joined (by omega) hnext, List.mem_singleton]
        exact (Frame.ofContent_ne_ok_of_length_lt hlength).symm
      · rw [feed_misjoined hfront hnext]
        simp

/-- An escape mark that is none any more and the octet behind it are two octets of content. -/
theorem feed_split {sent : UInt8} (limit : Nat) (hdamaged : ¬isReserved damaged)
    (hsent : ¬isReserved sent) :
    feed limit (inFrame #[]) (escape front ++ damaged :: sent :: (escape rest ++ [flag])) =
      (inFrame #[], [if (front ++ damaged :: sent :: rest).length ≤ limit then
        Frame.ofContent (front ++ damaged :: sent :: rest) else .error (.tooLong limit)]) := by
  have hwire : escape front ++ damaged :: sent :: (escape rest ++ [flag]) =
      escape (front ++ damaged :: sent :: rest) ++ [flag] := by
    rw [escape_append, escape_cons, escape_cons, escapeOctet_of_not_isReserved hdamaged,
      escapeOctet_of_not_isReserved hsent]
    simp
  rw [hwire, feed_escape_append_flag (by simp)]

theorem ok_not_mem_split (hcontent : frame.content = front ++ octet :: rest)
    (hreserved : isReserved octet) (hdamaged : ¬isReserved damaged) :
    .ok frame ∉
      (feed limit (inFrame #[])
        (escape front ++ damaged :: transpose octet :: (escape rest ++ [flag]))).2 := by
  -- The octet in excess is a transposed one, and so not the empty group that ends an address.
  have hplain : ¬isReserved (transpose octet) ∧ transpose octet ≠ 1 := by
    rcases isReserved_iff.mp hreserved with rfl | rfl <;> decide
  have hne : damaged ≠ octet := by
    rintro rfl
    exact hdamaged hreserved
  rw [feed_split limit hdamaged hplain.1, List.mem_singleton]
  split
  next => exact (Frame.ofContent_ne_ok_of_inserted hcontent hne hplain.2).symm
  next => rintro ⟨⟩

/-- A bit flipped between the flags of a frame leaves nothing that is accepted as the frame, and
where it neither makes nor unmakes an escape mark, something is rejected. -/
theorem feed_flipped_between (hlimit : frame.contentSize ≤ limit) {before after : Octets}
    (hwire : escape frame.content = before ++ octet :: after) (bit : Fin 8)
    {verdicts : List Verdict} (hverdicts : verdicts =
      (feed limit (inFrame #[]) (before ++ flipBit bit octet :: (after ++ [flag]))).2) :
    .ok frame ∉ verdicts ∧ (octet ≠ escapeMark → flipBit bit octet ≠ escapeMark →
      ∃ reason, .error reason ∈ verdicts) := by
  cases place_of_escape_eq hwire with
  | plain front rest hplain hcontent hbefore hafter =>
      subst hbefore hafter
      by_cases hflag : flipBit bit octet = flag
      · have hoctet : octet = flipBit bit flag := by rw [← hflag, flipBit_flipBit]
        rw [hflag, feed_cut hlimit hcontent] at hverdicts
        subst hverdicts
        refine ⟨ok_not_mem_cut hcontent, fun _ _ => ?_⟩
        rw [hoctet] at hcontent
        exact exists_error_of_cut hcontent
      by_cases hmark : flipBit bit octet = escapeMark
      · rw [hmark] at hverdicts
        subst hverdicts
        exact ⟨ok_not_mem_joined hlimit hcontent, fun _ hnot => absurd hmark hnot⟩
      · have hreserved : ¬isReserved (flipBit bit octet) := by
          rw [isReserved_iff, not_or]
          exact ⟨hflag, hmark⟩
        rw [feed_changed hlimit hcontent hreserved (flipBit_ne bit octet)] at hverdicts
        subst hverdicts
        exact ⟨by simp, fun _ _ => ⟨_, List.mem_singleton_self _⟩⟩
  | mark front rest reserved hreserved hcontent hbefore hoctet hafter =>
      subst hbefore hoctet hafter hverdicts
      refine ⟨?_, fun hnot => absurd rfl hnot⟩
      exact ok_not_mem_split hcontent hreserved (not_isReserved_flipBit_escapeMark bit)
  | announced front rest reserved hreserved hcontent hbefore hoctet hafter =>
      subst hbefore hoctet hafter
      obtain ⟨later, hlater, hfed⟩ := feed_flipped_behind_mark hlimit hcontent hreserved bit
      rw [List.append_assoc, List.cons_append, List.nil_append, hfed] at hverdicts
      subst hverdicts
      exact ⟨by simpa using hlater, fun _ _ => ⟨_, List.mem_cons_self⟩⟩

theorem feed_without_opening (limit : Nat) (content : Octets) (hdamaged : damaged ≠ flag) :
    (feed limit searching (damaged :: (escape content ++ [flag]))).2 = [] := by
  have hstep : step limit searching damaged = (searching, none) := if_neg hdamaged
  rw [feed_cons, hstep, feed_searching_escape_flag]
  rfl

/-- Without a closing flag the frame is never settled. -/
theorem ok_not_mem_without_closing (hlimit : frame.contentSize ≤ limit)
    (hdamaged : damaged ≠ flag) :
    .ok frame ∉ (feed limit (inFrame #[]) (escape frame.content ++ [damaged])).2 := by
  have hroom : frame.content.length ≤ limit := by
    rw [frame.length_content]
    exact hlimit
  rw [feed_escape_append hroom, feed_cons, feed_nil, step, if_neg hdamaged]
  split
  next => simp
  next =>
    rw [gather]
    split <;> simp

end

/-- A frame received with one bit flipped, in a flag or between the flags, is not accepted as what
was sent. Where the bit is between the flags and makes or unmakes no escape mark, something is
rejected, even if a flag that it makes cuts the frame in two. -/
theorem flipped_bit_is_noticed {frame : Frame} {limit : Nat} (hlimit : frame.contentSize ≤ limit)
    {index : Nat} (hindex : index < frame.encode.length) (bit : Fin 8) :
    let verdicts := (feed limit searching (frame.encode.modify index (flipBit bit))).2
    .ok frame ∉ verdicts ∧
      (0 < index → index + 1 < frame.encode.length → frame.encode[index] ≠ escapeMark →
        flipBit bit frame.encode[index] ≠ escapeMark → ∃ reason, .error reason ∈ verdicts) := by
  intro verdicts
  obtain ⟨before, octet, after, hencode, hbefore, hmodify⟩ :=
    List.exists_of_modify (flipBit bit) hindex
  have hoctet : frame.encode[index] = octet := by
    rw [List.getElem_of_eq hencode hindex, List.getElem_append_right (Nat.le_of_eq hbefore)]
    simp [hbefore]
  have hlength : frame.encode.length = index + 1 + after.length := by
    rw [hencode, List.length_append, List.length_cons, hbefore]
    omega
  have hflag : flipBit bit flag ≠ flag := flipBit_ne bit flag
  have hopen : ∀ rest, (feed limit searching (flag :: rest)).2 =
      (feed limit (inFrame #[]) rest).2 := fun _ => rfl
  simp only [verdicts, hmodify, hoctet]
  rcases frame.cases_of_encode_eq hencode with
    ⟨rfl, rfl, rfl⟩ | ⟨rfl, rfl, rfl⟩ | ⟨inside, between, rfl, rfl, hcontent⟩
  · rw [List.nil_append, feed_without_opening limit frame.content hflag]
    refine ⟨List.not_mem_nil, fun hpos => ?_⟩
    rw [← hbefore] at hpos
    exact absurd hpos (Nat.lt_irrefl 0)
  · rw [List.cons_append, hopen]
    refine ⟨ok_not_mem_without_closing hlimit hflag, fun _ hbehind => ?_⟩
    rw [hlength, List.length_nil] at hbehind
    exact absurd hbehind (Nat.lt_irrefl _)
  · rw [List.cons_append, hopen]
    obtain ⟨hok, herror⟩ := feed_flipped_between hlimit hcontent bit rfl
    exact ⟨hok, fun _ _ => herror⟩

/-- The flipped bit turns the payload into a flag. -/
theorem flipped_bit_that_cuts_is_noticed :
    let frame : Frame := ⟨1, ⟨3⟩, [0x7F]⟩
    let received : Octets := [flag, 3, 3, flag, 0x25, 0x58, 0x90, 0x16, flag]
    frame.contentSize ≤ 7 ∧ frame.encode.modify 3 (flipBit 0) = received ∧
      .ok frame ∉ (feed 7 searching received).2 ∧
      ∃ reason, .error reason ∈ (feed 7 searching received).2 := by
  intro frame received
  have hencode : frame.encode = [flag, 3, 3, 0x7F, 0x25, 0x58, 0x90, 0x16, flag] := by
    have hbody : frame.body = [3, 3, 0x7F] := by
      simp [Frame.body, frame, Address.encode, Address.encodeGroups_of_lt]
    rw [Frame.encode, Frame.content, hbody]
    decide +kernel
  have hsize : frame.contentSize ≤ 7 := by
    simp [frame, Frame.contentSize, Address.size, Address.encode, Address.encodeGroups_of_lt,
      Checksum.size]
  have hindex : 3 < frame.encode.length := by simp [hencode]
  have hreceived : frame.encode.modify 3 (flipBit 0) = received := by
    rw [hencode]
    decide
  obtain ⟨hok, herror⟩ := flipped_bit_is_noticed hsize hindex 0
  rw [hreceived] at hok herror
  have hplain : frame.encode[3] = 0x7F := by simp [hencode]
  rw [hplain] at herror
  have hbehind : 3 + 1 < frame.encode.length := by simp [hencode]
  exact ⟨hsize, hreceived, hok, herror (by decide) hbehind (by decide) (by decide)⟩

end Decoder.State

end Hdlc
