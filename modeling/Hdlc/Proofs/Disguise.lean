import Hdlc.Proofs.BitFlip
import Mathlib.Data.Fintype.EquivFin

/-!
# Flipped bits in disguise

The check sequence is taken over content, and what a flipped bit does to an escape mark changes the
length of the content. An octet that becomes a mark is joined with the next one, and a mark that is
none any more is split from the octet it announced. In both cases two octets stand against one, and
a register may be led to the same place by either (`Checksum.Ambiguous`), for each pair of octets
just one of all registers (`existsUnique_ambiguous`). Where that register comes before the change,
the check sequence still fits and another frame is accepted; everywhere else a bit flipped in a
payload is rejected (`flipped_payload_is_rejected_unless_disguised`).
-/

namespace Hdlc

namespace Checksum

/-! ## Ambiguous registers -/

/-- Two octets lead a register to the same place as the one octet that the second stands for behind
an escape mark. -/
def Ambiguous (register : UInt32) (first sent : UInt8) : Prop :=
  absorb (absorb register first) sent = absorb register (transpose sent)

instance (register : UInt32) (first sent : UInt8) : Decidable (Ambiguous register first sent) :=
  inferInstanceAs (Decidable (_ = _))

/-- What follows cannot tell two octets from one in an ambiguous place, and always can elsewhere. -/
theorem extend_eq_iff_ambiguous (register : UInt32) (front rest : Octets) (first sent : UInt8) :
    extend register (front ++ first :: sent :: rest) =
        extend register (front ++ transpose sent :: rest) ↔
      Ambiguous (extend register front) first sent := by
  rw [extend_append, extend_append, extend_cons, extend_cons, extend_cons]
  exact (extend_injective rest).eq_iff

/-- Ambiguity fixes the difference that eight shifts make to a register. -/
theorem ambiguous_iff (register : UInt32) (first sent : UInt8) :
    Ambiguous register first sent ↔
      register ^^^ shift 8 register =
        shift 8 first.toUInt32 ^^^ sent.toUInt32 ^^^ (transpose sent).toUInt32 := by
  have hsame : shift 8 register ^^^ shift 8 first.toUInt32 ^^^ sent.toUInt32 ^^^
        (register ^^^ (transpose sent).toUInt32) =
      register ^^^ shift 8 register ^^^
        (shift 8 first.toUInt32 ^^^ sent.toUInt32 ^^^ (transpose sent).toUInt32) := by
    ac_rfl
  rw [Ambiguous, absorb_eq_shift _ sent, absorb_eq_shift _ (transpose sent),
    (shift_injective 8).eq_iff, absorb_eq_shift, shift_xor, ← UInt32.xor_eq_zero_iff, hsame,
    UInt32.xor_eq_zero_iff]

/-- The difference that shifts make to the difference that they make. -/
theorem xor_shift_twice (count : Nat) (register : UInt32) :
    register ^^^ shift count register ^^^ shift count (register ^^^ shift count register) =
      register ^^^ shift (count + count) register := by
  rw [shift_xor, shift_add]
  calc
    register ^^^ shift count register ^^^
          (shift count register ^^^ shift count (shift count register)) =
        register ^^^ shift count (shift count register) ^^^
          (shift count register ^^^ shift count register) := by ac_rfl
    _ = register ^^^ shift count (shift count register) := by
      rw [UInt32.xor_self, UInt32.xor_zero]

theorem xor_shiftRight_twice (number count : Nat) :
    number ^^^ number >>> count ^^^ (number ^^^ number >>> count) >>> count =
      number ^^^ number >>> (count + count) := by
  rw [Nat.shiftRight_xor_distrib, ← Nat.shiftRight_add, Nat.xor_assoc,
    ← Nat.xor_assoc (number >>> count), Nat.xor_self, Nat.zero_xor]

/-- A number that differs from its half by the generator is even. -/
theorem even_of_xor_half {number : Nat} (hnumber : number < 2 ^ 32)
    (hhalf : number ^^^ number / 2 = generator.toNat) : number % 2 = 0 := by
  have hone : number ^^^ number >>> 1 = 0xEDB88320 := hhalf
  -- Doubling the distance five times moves the shifted number out of the way.
  have htwo := xor_shiftRight_twice number 1
  rw [hone] at htwo
  have hfour := xor_shiftRight_twice number 2
  rw [← htwo] at hfour
  have height := xor_shiftRight_twice number 4
  rw [← hfour] at height
  have hsixteen := xor_shiftRight_twice number 8
  rw [← height] at hsixteen
  have hall := xor_shiftRight_twice number 16
  rw [← hsixteen, Nat.shiftRight_eq_div_pow number, Nat.div_eq_of_lt hnumber, Nat.xor_zero] at hall
  rw [← hall]
  rfl

theorem eq_zero_of_shiftBit_eq_self {register : UInt32} (hself : shiftBit register = register) :
    register = 0 := by
  rcases Nat.mod_two_eq_zero_or_one register.toNat with heven | hodd
  · rw [shiftBit_of_even heven] at hself
    have hhalf := congrArg UInt32.toNat hself
    rw [toNat_shiftRight_one] at hhalf
    apply UInt32.toNat_inj.mp
    rw [UInt32.toNat_zero]
    omega
  · rw [shiftBit_of_odd hodd] at hself
    have hdifference : register ^^^ (register >>> 1) = generator := by
      calc
        register ^^^ (register >>> 1) =
            (register >>> 1) ^^^ generator ^^^ (register >>> 1) := by rw [hself]
        _ = generator ^^^ ((register >>> 1) ^^^ (register >>> 1)) := by ac_rfl
        _ = generator := by rw [UInt32.xor_self, UInt32.xor_zero]
    have hhalf := congrArg UInt32.toNat hdifference
    rw [UInt32.toNat_xor, toNat_shiftRight_one] at hhalf
    have heven := even_of_xor_half register.toNat_lt hhalf
    omega

theorem xor_shift_one_injective :
    Function.Injective fun register => register ^^^ shift 1 register := by
  intro first second heq
  have hself : shiftBit (first ^^^ second) = first ^^^ second := by
    have hsame : shiftBit first ^^^ shiftBit second ^^^ (first ^^^ second) =
        first ^^^ shiftBit first ^^^ (second ^^^ shiftBit second) := by ac_rfl
    rw [← UInt32.xor_eq_zero_iff, shiftBit_xor, hsame, UInt32.xor_eq_zero_iff]
    exact heq
  exact UInt32.xor_eq_zero_iff.mp (eq_zero_of_shiftBit_eq_self hself)

theorem xor_shift_injective_twice {count : Nat}
    (hinjective : Function.Injective fun register => register ^^^ shift count register) :
    Function.Injective fun register => register ^^^ shift (count + count) register := by
  intro first second heq
  apply hinjective
  apply hinjective
  dsimp only at heq ⊢
  rw [xor_shift_twice, xor_shift_twice]
  exact heq

/-- The difference that eight shifts make tells registers apart. -/
theorem xor_shift_injective :
    Function.Injective fun register => register ^^^ shift 8 register :=
  xor_shift_injective_twice (xor_shift_injective_twice
    (xor_shift_injective_twice xor_shift_one_injective))

/-- For each pair of octets there is just one ambiguous register. -/
theorem existsUnique_ambiguous (first sent : UInt8) :
    ∃! register, Ambiguous register first sent := by
  have hfinite : Finite UInt32 :=
    Finite.of_injective UInt32.toFin fun _ _ heq => UInt32.toFin_inj.mp heq
  have hbijective := Finite.injective_iff_bijective.mp xor_shift_injective
  simp only [ambiguous_iff]
  exact hbijective.existsUnique _

end Checksum

/-- Parts that content starts with take up room on the wire in the order of their lengths. -/
theorem length_escape_le_iff {first second content : Octets} (hfirst : first <+: content)
    (hsecond : second <+: content) :
    (escape first).length ≤ (escape second).length ↔ first.length ≤ second.length := by
  constructor
  · intro hwire
    by_contra hlonger
    obtain ⟨more, rfl⟩ := List.prefix_of_prefix_length_le hsecond hfirst (by omega)
    have hmore : more ≠ [] := by
      rintro rfl
      simp at hlonger
    have hpos := List.length_pos_iff.mpr (escape_ne_nil hmore)
    rw [escape_append, List.length_append] at hwire
    omega
  · intro hlength
    obtain ⟨more, rfl⟩ := List.prefix_of_prefix_length_le hfirst hsecond hlength
    rw [escape_append, List.length_append]
    exact Nat.le_add_right _ _

namespace Frame

/-! ## Where the payload is -/

/-- The octets before the payload. -/
def header (frame : Frame) : Octets :=
  Address.encode frame.address ++ [frame.control.octet]

/-- The place on the wire of the first octet that carries payload. -/
def payloadPlace (frame : Frame) : Nat :=
  (flag :: escape frame.header).length

/-- The octet at a place on the wire carries payload. -/
def CarriesPayload (frame : Frame) (index : Nat) : Prop :=
  frame.payloadPlace ≤ index ∧ index < frame.payloadPlace + (escape frame.payload).length

theorem body_eq_header_append (frame : Frame) : frame.body = frame.header ++ frame.payload := by
  rw [body, header, List.append_assoc]
  rfl

/-- An octet of content whose place carries payload stands behind the header, and not all of the
payload stands before it. -/
theorem CarriesPayload.exists_inner {frame : Frame} {front rest : Octets} {octet : UInt8}
    (hcarries : frame.CarriesPayload (flag :: escape front).length)
    (hcontent : frame.content = front ++ octet :: rest) :
    ∃ inner, front = frame.header ++ inner ∧
      inner.length + (rest.length + 1) = frame.payload.length + Checksum.size ∧
      Checksum.size ≤ rest.length := by
  obtain ⟨hbehind, hbefore⟩ := hcarries
  have hfront : front <+: frame.content := ⟨octet :: rest, hcontent.symm⟩
  have hbody : frame.body <+: frame.content := ⟨_, rfl⟩
  have hheader : frame.header <+: frame.body := ⟨frame.payload, frame.body_eq_header_append.symm⟩
  have hlonger : frame.header.length ≤ front.length := by
    rw [← length_escape_le_iff (hheader.trans hbody) hfront]
    simpa only [payloadPlace, List.length_cons, Nat.add_le_add_iff_right] using hbehind
  have hshorter : ¬frame.body.length ≤ front.length := by
    rw [← length_escape_le_iff hbody hfront, body_eq_header_append, escape_append,
      List.length_append]
    simp only [payloadPlace, List.length_cons] at hbefore
    omega
  obtain ⟨inner, rfl⟩ := List.prefix_of_prefix_length_le (hheader.trans hbody) hfront hlonger
  have hlength := congrArg List.length hcontent
  rw [content, body_eq_header_append] at hlength
  rw [body_eq_header_append] at hshorter
  simp only [List.length_append, List.length_cons, Checksum.length_sequence] at hlength hshorter
  exact ⟨inner, rfl, by omega, by omega⟩

/-- Content behind the header of a frame is accepted exactly where the check sequence fits. -/
theorem ofContent_header_append (frame : Frame) {tail : Octets}
    (htail : Checksum.size ≤ tail.length) :
    ofContent (frame.header ++ tail) =
      if Checksum.extend Checksum.initial (frame.header ++ tail) = Checksum.residue then
        .ok { frame with payload := tail.take (tail.length - Checksum.size) }
      else .error (mismatch (frame.header ++ tail)) := by
  have hheader : frame.header.length = Address.size frame.address + 1 := by
    rw [header, List.length_append, Address.size, List.length_singleton]
  have hlong : minContentSize ≤ (frame.header ++ tail).length := by
    have := Address.size_pos frame.address
    rw [List.length_append, hheader, minContentSize]
    omega
  split
  next hregister =>
    have hsize : Checksum.size ≤ (frame.header ++ tail).length := by
      rw [List.length_append]
      omega
    have hfits := (crc32_take_eq_iff hsize).mpr hregister
    have hbody : (frame.header ++ tail).take ((frame.header ++ tail).length - Checksum.size) =
        Address.encode frame.address ++
          frame.control.octet :: tail.take (tail.length - Checksum.size) := by
      rw [List.length_append, Nat.add_sub_assoc htail, List.take_length_add_append, header,
        List.append_assoc]
      rfl
    have haddress := Address.decode_encode_append frame.address
      (frame.control.octet :: tail.take (tail.length - Checksum.size))
    rw [hbody] at hfits
    simp only [ofContent, if_neg (Nat.not_lt.mpr hlong), hbody, hfits, haddress, ne_eq,
      not_true_eq_false, if_false]
    rw [Address.size, List.drop_left]
  next hregister => exact ofContent_of_extend_ne hlong hregister

/-- What takes the place of an octet that carries payload and of all behind it makes another frame
or is rejected, depending on the check sequence alone, if it is of another length. -/
theorem ofContent_replaced {frame : Frame} {front rest : Octets} {octet : UInt8}
    (hcarries : frame.CarriesPayload (flag :: escape front).length)
    (hcontent : frame.content = front ++ octet :: rest) (behind : Octets)
    (hsize : rest.length ≤ behind.length) (hlength : behind.length ≠ rest.length + 1) :
    if Checksum.extend Checksum.initial (front ++ behind) = Checksum.residue then
      ∃ payload : Octets, payload.length ≠ frame.payload.length ∧
        ofContent (front ++ behind) = .ok { frame with payload := payload }
    else ofContent (front ++ behind) = .error (mismatch (front ++ behind)) := by
  obtain ⟨inner, rfl, hpayload, hrest⟩ := hcarries.exists_inner hcontent
  have htail : Checksum.size ≤ (inner ++ behind).length := by
    rw [List.length_append]
    omega
  rw [List.append_assoc, ofContent_header_append frame htail]
  split
  next =>
    refine ⟨_, ?_, rfl⟩
    rw [List.length_take, List.length_append]
    omega
  next => rfl

/-- Two octets joined leave the residue exactly behind an ambiguous register. -/
theorem extend_joined_iff {frame : Frame} {front rest : Octets} {first sent : UInt8}
    (hcontent : frame.content = front ++ first :: sent :: rest) :
    Checksum.extend Checksum.initial (front ++ transpose sent :: rest) = Checksum.residue ↔
      Checksum.Ambiguous (Checksum.extend Checksum.initial front) first sent := by
  rw [← frame.extend_content, hcontent, eq_comm, Checksum.extend_eq_iff_ambiguous]

/-- An octet split in two leaves the residue exactly behind an ambiguous register. -/
theorem extend_split_iff {frame : Frame} {front rest : Octets} {sent : UInt8}
    (hcontent : frame.content = front ++ transpose sent :: rest) (first : UInt8) :
    Checksum.extend Checksum.initial (front ++ first :: sent :: rest) = Checksum.residue ↔
      Checksum.Ambiguous (Checksum.extend Checksum.initial front) first sent := by
  rw [← frame.extend_content, hcontent, Checksum.extend_eq_iff_ambiguous]

theorem encode_modify {frame : Frame} {before after : Octets} {octet : UInt8}
    (hescape : escape frame.content = before ++ octet :: after) (change : UInt8 → UInt8) :
    frame.encode.modify (flag :: before).length change =
      flag :: (before ++ change octet :: (after ++ [flag])) := by
  have hencode : frame.encode = (flag :: before) ++ octet :: (after ++ [flag]) := by
    rw [encode, hescape]
    simp
  rw [hencode, List.modify_eq_take_drop, List.take_left, List.drop_left]
  rfl

theorem CarriesPayload.exists_escape {frame : Frame} {index : Nat}
    (hcarries : frame.CarriesPayload index) :
    ∃ before octet after, escape frame.content = before ++ octet :: after ∧
      index = (flag :: before).length := by
  obtain ⟨hbehind, hbefore⟩ := hcarries
  simp only [payloadPlace, List.length_cons] at hbehind hbefore
  obtain ⟨place, rfl⟩ := Nat.exists_eq_add_one_of_ne_zero (show index ≠ 0 by omega)
  have hplace : place < (escape frame.content).length := by
    rw [content, body_eq_header_append, escape_append, escape_append, List.length_append,
      List.length_append]
    omega
  refine ⟨(escape frame.content).take place, (escape frame.content)[place],
    (escape frame.content).drop (place + 1), ?_, ?_⟩
  · rw [← List.drop_eq_getElem_cons hplace, List.take_append_drop]
  · rw [List.length_cons, List.length_take, Nat.min_eq_left (Nat.le_of_lt hplace)]

/-! ## Disguises -/

/-- How a bit flipped at a place of a frame on the wire makes content that passes for another frame:
two octets of content are joined or one is split, and the register before them is ambiguous. -/
inductive Disguise (frame : Frame) (limit : Nat) (bit : Fin 8) (index : Nat) : Prop
  /-- An octet becomes an escape mark before one that it may announce. -/
  | joined (front rest : Octets) (sent : UInt8) (hsent : sent = 0x5D ∨ sent = 0x5E)
      (hcontent : frame.content = front ++ flipBit bit escapeMark :: sent :: rest)
      (hindex : index = (flag :: escape front).length)
      (hregister : Checksum.Ambiguous (Checksum.extend Checksum.initial front)
        (flipBit bit escapeMark) sent)
  /-- An escape mark becomes an octet, and the limit has room for one more. -/
  | split (front rest : Octets) (sent : UInt8) (hsent : sent = 0x5D ∨ sent = 0x5E)
      (hcontent : frame.content = front ++ transpose sent :: rest)
      (hindex : index = (flag :: escape front).length) (hroom : frame.contentSize < limit)
      (hregister : Checksum.Ambiguous (Checksum.extend Checksum.initial front)
        (flipBit bit escapeMark) sent)

end Frame

namespace Decoder.State

variable {frame : Frame} {limit : Nat} {front rest : Octets} {sent : UInt8}

theorem feed_searching_flag_cons (limit : Nat) (rest : Octets) :
    feed limit searching (flag :: rest) = feed limit (inFrame #[]) rest := by
  rw [feed_cons, step_flag]
  rfl

theorem joined_le {first : UInt8} (hlimit : frame.contentSize ≤ limit)
    (hcontent : frame.content = front ++ first :: sent :: rest) :
    (front ++ transpose sent :: rest).length ≤ limit := by
  have hsize := contentSize_eq hcontent
  rw [List.length_cons] at hsize
  rw [List.length_append, List.length_cons]
  omega

/-- What arrives where a bit flips in front of octets of content. -/
theorem feed_modify {before after : Octets} {octet : UInt8}
    (hescape : escape frame.content = before ++ octet :: after) (limit : Nat)
    (change : UInt8 → UInt8) :
    feed limit searching (frame.encode.modify (flag :: before).length change) =
      feed limit (inFrame #[]) (before ++ change octet :: (after ++ [flag])) := by
  rw [Frame.encode_modify hescape, feed_searching_flag_cons]

theorem feed_flipped_into_mark (limit : Nat) {bit : Fin 8}
    (hcontent : frame.content = front ++ flipBit bit escapeMark :: rest) :
    feed limit searching (frame.encode.modify (flag :: escape front).length (flipBit bit)) =
      feed limit (inFrame #[]) (escape front ++ escapeMark :: (escape rest ++ [flag])) := by
  have hplain := not_isReserved_flipBit_escapeMark bit
  have hescape : escape frame.content =
      escape front ++ flipBit bit escapeMark :: escape rest := by
    rw [hcontent, escape_append, escape_cons, escapeOctet_of_not_isReserved hplain]
    rfl
  rw [feed_modify hescape, flipBit_flipBit]

theorem feed_flipped_mark (limit : Nat) {bit : Fin 8} (hsent : sent ∈ transposedOctets)
    (hcontent : frame.content = front ++ transpose sent :: rest) :
    feed limit searching (frame.encode.modify (flag :: escape front).length (flipBit bit)) =
      (inFrame #[], [if frame.contentSize < limit then
        Frame.ofContent (front ++ flipBit bit escapeMark :: sent :: rest)
        else .error (.tooLong limit)]) := by
  obtain ⟨hreserved, hplain⟩ := isReserved_transpose hsent
  have hescape : escape frame.content = escape front ++ escapeMark :: sent :: escape rest := by
    rw [hcontent, escape_append, escape_cons, escapeOctet_of_isReserved hreserved,
      transpose_transpose]
    rfl
  have hlength : (front ++ flipBit bit escapeMark :: sent :: rest).length ≤ limit ↔
      frame.contentSize < limit := by
    rw [contentSize_eq hcontent, List.length_append, List.length_cons, List.length_cons]
    omega
  rw [feed_modify hescape, List.cons_append,
    feed_split limit (not_isReserved_flipBit_escapeMark bit) hplain]
  simp only [hlength]

section

variable {index : Nat} {bit : Fin 8}

/-- In disguise, a frame is accepted as another one. -/
theorem feed_of_disguise (hlimit : frame.contentSize ≤ limit)
    (hcarries : frame.CarriesPayload index) (hdisguise : frame.Disguise limit bit index) :
    ∃ payload : Octets, payload.length ≠ frame.payload.length ∧
      (feed limit searching (frame.encode.modify index (flipBit bit))).2 =
        [.ok { frame with payload := payload }] := by
  cases hdisguise with
  | joined front rest sent hsent hcontent hindex hregister =>
      subst hindex
      have haccepted :=
        Frame.ofContent_replaced hcarries hcontent (transpose sent :: rest) (by simp) (by simp)
      rw [if_pos ((Frame.extend_joined_iff hcontent).mpr hregister)] at haccepted
      obtain ⟨payload, hlength, hok⟩ := haccepted
      refine ⟨payload, hlength, ?_⟩
      rw [feed_flipped_into_mark limit hcontent,
        feed_joined (joined_le hlimit hcontent) (mem_transposedOctets.mpr hsent), hok]
  | split front rest sent hsent hcontent hindex hroom hregister =>
      subst hindex
      have haccepted := Frame.ofContent_replaced hcarries hcontent
        (flipBit bit escapeMark :: sent :: rest) (by simp; omega) (by simp)
      rw [if_pos ((Frame.extend_split_iff hcontent _).mpr hregister)] at haccepted
      obtain ⟨payload, hlength, hok⟩ := haccepted
      refine ⟨payload, hlength, ?_⟩
      rw [feed_flipped_mark limit (mem_transposedOctets.mpr hsent) hcontent, if_pos hroom, hok]

/-- An octet that becomes an escape mark is noticed unless it is in disguise. -/
theorem exists_error_of_flipped_into_mark (hlimit : frame.contentSize ≤ limit)
    (hcarries : frame.CarriesPayload (flag :: escape front).length)
    (hcontent : frame.content = front ++ flipBit bit escapeMark :: rest)
    (hdisguise : ¬frame.Disguise limit bit (flag :: escape front).length) :
    ∃ reason, (feed limit searching
      (frame.encode.modify (flag :: escape front).length (flipBit bit))).2 = [.error reason] := by
  obtain ⟨-, -, -, hrest⟩ := hcarries.exists_inner hcontent
  obtain ⟨next, rest, rfl⟩ := List.exists_cons_of_length_pos (Nat.lt_of_lt_of_le (by decide) hrest)
  rw [feed_flipped_into_mark limit hcontent]
  by_cases hnext : next ∈ transposedOctets
  · have hrejected :=
      Frame.ofContent_replaced hcarries hcontent (transpose next :: rest) (by simp) (by simp)
    have hregister : ¬Checksum.Ambiguous (Checksum.extend Checksum.initial front)
        (flipBit bit escapeMark) next :=
      fun hregister => hdisguise
        (.joined front rest next (mem_transposedOctets.mp hnext) hcontent rfl hregister)
    rw [if_neg ((not_congr (Frame.extend_joined_iff hcontent)).mpr hregister)] at hrejected
    rw [feed_joined (joined_le hlimit hcontent) hnext, hrejected]
    exact ⟨_, rfl⟩
  · have hsize := contentSize_eq hcontent
    rw [feed_misjoined (by omega) hnext]
    exact ⟨_, rfl⟩

/-- An escape mark that becomes an octet is noticed unless it is in disguise. -/
theorem exists_error_of_flipped_mark
    (hcarries : frame.CarriesPayload (flag :: escape front).length)
    (hsent : sent ∈ transposedOctets) (hcontent : frame.content = front ++ transpose sent :: rest)
    (hdisguise : ¬frame.Disguise limit bit (flag :: escape front).length) :
    ∃ reason, (feed limit searching
      (frame.encode.modify (flag :: escape front).length (flipBit bit))).2 = [.error reason] := by
  rw [feed_flipped_mark limit hsent hcontent]
  split
  next hroom =>
    have hrejected := Frame.ofContent_replaced hcarries hcontent
      (flipBit bit escapeMark :: sent :: rest) (by simp; omega) (by simp)
    have hregister : ¬Checksum.Ambiguous (Checksum.extend Checksum.initial front)
        (flipBit bit escapeMark) sent :=
      fun hregister => hdisguise
        (.split front rest sent (mem_transposedOctets.mp hsent) hcontent rfl hroom hregister)
    rw [if_neg ((not_congr (Frame.extend_split_iff hcontent _)).mpr hregister)] at hrejected
    rw [hrejected]
    exact ⟨_, rfl⟩
  next => exact ⟨_, rfl⟩

/-- Out of disguise, a bit flipped in the payload leads to a rejection. -/
theorem exists_error_of_not_disguise (hlimit : frame.contentSize ≤ limit)
    (hcarries : frame.CarriesPayload index) (hdisguise : ¬frame.Disguise limit bit index) :
    ∃ reason, .error reason ∈
      (feed limit searching (frame.encode.modify index (flipBit bit))).2 := by
  obtain ⟨before, octet, after, hescape, rfl⟩ := hcarries.exists_escape
  cases place_of_escape_eq hescape with
  | plain front rest hplain hcontent hbefore hafter =>
      subst hbefore
      by_cases hmark : flipBit bit octet = escapeMark
      · have hoctet : octet = flipBit bit escapeMark := by rw [← hmark, flipBit_flipBit]
        subst hoctet
        obtain ⟨reason, hrejected⟩ :=
          exists_error_of_flipped_into_mark hlimit hcarries hcontent hdisguise
        rw [hrejected]
        exact ⟨reason, List.mem_singleton_self _⟩
      · have hoctet : octet ≠ escapeMark := by
          rintro rfl
          exact hplain rfl
        rw [feed_modify hescape]
        exact (feed_flipped_between hlimit hescape bit rfl).2 hoctet hmark
  | mark front rest reserved hreserved hcontent hbefore hoctet hafter =>
      subst hbefore
      have hsent : transpose reserved ∈ transposedOctets := by
        rcases isReserved_iff.mp hreserved with rfl | rfl <;> decide
      rw [← transpose_transpose reserved] at hcontent
      obtain ⟨reason, hrejected⟩ := exists_error_of_flipped_mark hcarries hsent hcontent hdisguise
      rw [hrejected]
      exact ⟨reason, List.mem_singleton_self _⟩
  | announced front rest reserved hreserved hcontent hbefore hoctet hafter =>
      obtain ⟨later, -, hfed⟩ := feed_flipped_behind_mark hlimit hcontent hreserved bit
      rw [feed_modify hescape, hbefore, hoctet, hafter, List.append_assoc, List.cons_append,
        List.nil_append, hfed]
      exact ⟨_, List.mem_cons_self⟩

end

/-- A frame that one flipped bit turns into another. -/
def lookalike : Frame :=
  ⟨7, ⟨3⟩, [0x5F, 0x29, 0x44, 0x6D, 0x79, 0x5E]⟩

theorem content_lookalike : lookalike.content =
    [0x0F, 3, 0x5F, 0x29, 0x44, 0x6D, 0x79, 0x5E, 0x5A, 0x09, 0xB4, 0x9A] := by
  have hbody : lookalike.body = [0x0F, 3, 0x5F, 0x29, 0x44, 0x6D, 0x79, 0x5E] := by
    simp [Frame.body, lookalike, Address.encode, Address.encodeGroups_of_lt]
  rw [Frame.content, hbody]
  decide +kernel

theorem contentSize_lookalike : lookalike.contentSize = 12 := by
  rw [← Frame.length_content, content_lookalike]
  rfl

theorem lookalike_carriesPayload : lookalike.CarriesPayload 7 := by
  simp [Frame.CarriesPayload, Frame.payloadPlace, Frame.header, lookalike, Address.encode,
    Address.encodeGroups_of_lt]
  decide

theorem modify_lookalike : lookalike.encode.modify 7 (flipBit 2) =
    [flag, 0x0F, 3, 0x5F, 0x29, 0x44, 0x6D, escapeMark, 0x5E, 0x5A, 0x09, 0xB4, 0x9A, flag] := by
  rw [Frame.encode, content_lookalike]
  decide

/-- Not every bit flipped in a payload is noticed. -/
theorem flipped_payload_may_be_accepted :
    ¬∀ (frame : Frame) (limit index : Nat) (bit : Fin 8),
      frame.contentSize ≤ limit → frame.CarriesPayload index →
        ∃ reason, .error reason ∈
          (feed limit searching (frame.encode.modify index (flipBit bit))).2 := by
  intro hnoticed
  obtain ⟨reason, herror⟩ := hnoticed lookalike 12 7 2 (Nat.le_of_eq contentSize_lookalike)
    lookalike_carriesPayload
  have hverdicts : (feed 12 searching (lookalike.encode.modify 7 (flipBit 2))).2 =
      [.ok ⟨7, ⟨3⟩, [0x5F, 0x29, 0x44, 0x6D, flag]⟩] := by
    rw [modify_lookalike]
    decide +kernel
  simp [hverdicts] at herror

/-- A bit flipped in the payload of a frame on the wire leads to a rejection unless it is in
disguise, and then the frame is accepted with a payload of another length. For a disguise the
register before the flipped bit has to be the only one that is ambiguous for the octets there. -/
theorem flipped_payload_is_rejected_unless_disguised {frame : Frame} {limit : Nat}
    (hlimit : frame.contentSize ≤ limit) {index : Nat} (hcarries : frame.CarriesPayload index)
    (bit : Fin 8) :
    let verdicts := (feed limit searching (frame.encode.modify index (flipBit bit))).2
    ((∃ reason, .error reason ∈ verdicts) ↔ ¬frame.Disguise limit bit index) ∧
      (frame.Disguise limit bit index →
        ∃ payload : Octets, payload.length ≠ frame.payload.length ∧
          verdicts = [.ok { frame with payload := payload }]) ∧
      ∀ first sent : UInt8, ∃! register, Checksum.Ambiguous register first sent := by
  intro verdicts
  refine ⟨⟨?_, exists_error_of_not_disguise hlimit hcarries⟩, feed_of_disguise hlimit hcarries,
    Checksum.existsUnique_ambiguous⟩
  rintro ⟨reason, herror⟩ hdisguise
  obtain ⟨payload, -, hverdicts⟩ := feed_of_disguise hlimit hcarries hdisguise
  simp [verdicts, hverdicts] at herror

/-- The flipped bit makes an escape mark before an octet that it may announce. -/
theorem lookalike_is_accepted_in_disguise :
    lookalike.contentSize ≤ 12 ∧ lookalike.CarriesPayload 7 ∧ lookalike.Disguise 12 2 7 ∧
      ∃ payload : Octets, payload.length ≠ 6 ∧
        (feed 12 searching (lookalike.encode.modify 7 (flipBit 2))).2 =
          [.ok { lookalike with payload := payload }] := by
  have hsize : lookalike.contentSize ≤ 12 := Nat.le_of_eq contentSize_lookalike
  have hdisguise : lookalike.Disguise 12 2 7 :=
    .joined [0x0F, 3, 0x5F, 0x29, 0x44, 0x6D] [0x5A, 0x09, 0xB4, 0x9A] 0x5E (by decide)
      content_lookalike (by decide) (by decide +kernel)
  obtain ⟨-, haccepted, -⟩ :=
    flipped_payload_is_rejected_unless_disguised hsize lookalike_carriesPayload 2
  exact ⟨hsize, lookalike_carriesPayload, hdisguise, haccepted hdisguise⟩

end Decoder.State

end Hdlc
