import Hdlc.Proofs.Content

/-!
# Forms of an address

A number can be cut into any count of groups that has room for it, the higher ones empty, and each
count gives one form. Decoding accepts nothing else (`take_of_decodeGroups`). The shortest form is
the one that encoding makes, and it differs from the next longer one in its last octet, which is not
marked there (`formGroups_succ`).
-/

namespace Hdlc

namespace Address

/-- The form of a number in a given count of groups. -/
def formGroups : Nat → Nat → Octets
  | 0, _ => []
  | 1, value => [UInt8.ofNat (2 * value + 1)]
  | count + 2, value => UInt8.ofNat (2 * (value % 128)) :: formGroups (count + 1) (value / 128)

theorem formGroups_add_two (count value : Nat) :
    formGroups (count + 2) value =
      UInt8.ofNat (2 * (value % 128)) :: formGroups (count + 1) (value / 128) := rfl

theorem length_formGroups (count value : Nat) : (formGroups count value).length = count := by
  fun_induction formGroups count value with
  | case1 => rfl
  | case2 => rfl
  | case3 count value ih => rw [List.length_cons, ih]

/-- The first octet of an address is the whole of it or a group below the others. -/
theorem decodeGroups_cons {room value count : Nat} {octet : UInt8} {rest : Octets}
    (hdecode : decodeGroups (room + 1) (octet :: rest) = some (value, count)) :
    (octet.toNat = 2 * value + 1 ∧ count = 1 ∧ (room = 0 → value ≤ 1)) ∨
      ∃ higher more, octet.toNat = 2 * (value % 128) ∧ value / 128 = higher ∧ count = more + 1 ∧
        decodeGroups room rest = some (higher, more) := by
  have hoctet : octet.toNat < 256 := octet.toNat_lt
  by_cases hmarked : octet.toNat % 2 = 1
  · left
    rw [decodeGroups_cons_of_marked hmarked] at hdecode
    split at hdecode
    next => cases hdecode
    next hfits =>
      cases hdecode
      refine ⟨by omega, rfl, fun hroom => ?_⟩
      have := not_and.mp hfits hroom
      omega
  · right
    rw [decodeGroups_cons_of_unmarked hmarked] at hdecode
    obtain ⟨⟨higher, more⟩, hrest, hvalue⟩ := Option.map_eq_some_iff.mp hdecode
    cases hvalue
    exact ⟨higher, more, by omega, by omega, rfl, hrest⟩

/-- Whatever is decoded is the form of its number in the count of groups found. -/
theorem take_of_decodeGroups {room value count : Nat} {octets : Octets}
    (hdecode : decodeGroups room octets = some (value, count)) :
    octets.take count = formGroups count value ∧ 0 < count ∧ value < 128 ^ count := by
  induction room generalizing octets value count with
  | zero => cases hdecode
  | succ room ih =>
      cases octets with
      | nil => cases hdecode
      | cons octet rest =>
          rcases decodeGroups_cons hdecode with
            ⟨hoctet, rfl, -⟩ | ⟨higher, more, hoctet, rfl, rfl, hrest⟩
          · have hbound : octet.toNat < 256 := octet.toNat_lt
            rw [List.take_succ_cons, List.take_zero, formGroups, ← hoctet, UInt8.ofNat_toNat]
            exact ⟨rfl, Nat.one_pos, by omega⟩
          · obtain ⟨hform, hmore, hhigher⟩ := ih hrest
            obtain ⟨further, rfl⟩ := Nat.exists_eq_add_one_of_ne_zero (Nat.ne_of_gt hmore)
            rw [List.take_succ_cons, hform, formGroups_add_two, ← hoctet, UInt8.ofNat_toNat]
            refine ⟨rfl, Nat.succ_pos _, ?_⟩
            rw [Nat.pow_succ]
            omega

theorem encodeGroups_eq_formGroups (value : Nat) :
    encodeGroups value = formGroups (encodeGroups value).length value := by
  fun_induction encodeGroups value with
  | case1 value hsmall => rfl
  | case2 value hlarge ih =>
      have hpos := List.length_pos_iff.mpr (encodeGroups_ne_nil (value / 128))
      obtain ⟨more, hmore⟩ := Nat.exists_eq_add_one_of_ne_zero (Nat.ne_of_gt hpos)
      rw [List.length_cons, hmore, formGroups_add_two, ← hmore, ← ih]

theorem lt_pow_length_encodeGroups (value : Nat) : value < 128 ^ (encodeGroups value).length := by
  fun_induction encodeGroups value with
  | case1 value hsmall => exact hsmall
  | case2 value hlarge ih =>
      rw [List.length_cons, Nat.pow_succ]
      omega

/-- No form is shorter than the encoded one. -/
theorem length_encodeGroups_le {count value : Nat} (hcount : 0 < count)
    (hvalue : value < 128 ^ count) : (encodeGroups value).length ≤ count := by
  induction count generalizing value with
  | zero => exact absurd hcount (Nat.lt_irrefl 0)
  | succ count ih =>
      by_cases hsmall : value < 128
      · rw [encodeGroups_of_lt hsmall]
        exact hcount
      · have hmore : 0 < count := by
          apply Nat.pos_of_ne_zero
          rintro rfl
          exact hsmall hvalue
        rw [encodeGroups_of_le (by omega), List.length_cons]
        rw [Nat.pow_succ] at hvalue
        exact Nat.succ_le_succ (ih hmore (by omega))

/-- A form with one group more than a number needs is unmarked where the shorter form ends, and ends
in an empty group. -/
theorem formGroups_succ {count value : Nat} (hcount : 0 < count) (hvalue : value < 128 ^ count) :
    ∃ front last unmarked, formGroups count value = front ++ [last] ∧
      formGroups (count + 1) value = front ++ [unmarked, 1] ∧ unmarked ≠ last := by
  obtain ⟨more, rfl⟩ := Nat.exists_eq_add_one_of_ne_zero (Nat.ne_of_gt hcount)
  induction more generalizing value with
  | zero =>
      have hsmall : value < 128 := hvalue
      refine ⟨[], _, UInt8.ofNat (2 * value), rfl, ?_, ?_⟩
      · rw [formGroups_add_two, Nat.mod_eq_of_lt hsmall, Nat.div_eq_of_lt hsmall]
        rfl
      · intro heq
        have hnat := congrArg UInt8.toNat heq
        rw [UInt8.toNat_ofNat', UInt8.toNat_ofNat'] at hnat
        omega
  | succ more ih =>
      have hhigher : value / 128 < 128 ^ (more + 1) := by
        rw [Nat.pow_succ] at hvalue
        omega
      obtain ⟨front, last, unmarked, hshort, hlong, hne⟩ := ih (Nat.succ_pos _) hhigher
      refine ⟨UInt8.ofNat (2 * (value % 128)) :: front, last, unmarked, ?_, ?_, hne⟩
      · rw [formGroups_add_two, hshort]
        rfl
      · rw [formGroups_add_two, hlong]
        rfl

theorem toNat_lt_of_decodeGroups {room value count : Nat} {octets : Octets}
    (hdecode : decodeGroups (room + 1) octets = some (value, count)) :
    value < 2 ^ (7 * room + 1) := by
  induction room generalizing octets value count with
  | zero =>
      cases octets with
      | nil => cases hdecode
      | cons octet rest =>
          rcases decodeGroups_cons hdecode with ⟨-, -, hsmall⟩ | ⟨_, _, _, _, _, hrest⟩
          · exact Nat.lt_succ_of_le (hsmall rfl)
          · cases hrest
  | succ room ih =>
      have hpow : 2 ^ (7 * (room + 1) + 1) = 2 ^ (7 * room + 1) * 128 := by
        rw [show 7 * (room + 1) + 1 = 7 * room + 1 + 7 by omega, Nat.pow_add]
      have hpos : 0 < 2 ^ (7 * room + 1) := Nat.two_pow_pos _
      cases octets with
      | nil => cases hdecode
      | cons octet rest =>
          rcases decodeGroups_cons hdecode with ⟨hoctet, -, -⟩ | ⟨_, _, _, rfl, _, hrest⟩
          · have hbound : octet.toNat < 256 := octet.toNat_lt
            omega
          · have hhigher := ih hrest
            omega

/-- The form of an address in a given count of octets. -/
def form (count : Nat) (address : UInt64) : Octets :=
  formGroups count address.toNat

theorem encode_eq_form (address : UInt64) : encode address = form (size address) address :=
  encodeGroups_eq_formGroups address.toNat

theorem form_size_add_one (address : UInt64) :
    ∃ front last unmarked, encode address = front ++ [last] ∧
      form (size address + 1) address = front ++ [unmarked, 1] ∧ unmarked ≠ last := by
  rw [encode_eq_form]
  exact formGroups_succ (size_pos address) (lt_pow_length_encodeGroups address.toNat)

/-- What is decoded as an address is a form of it, and not shorter than the encoded one. -/
theorem take_of_decode {octets : Octets} {address : UInt64} {count : Nat}
    (hdecode : decode octets = .ok (address, count)) :
    octets.take count = form count address ∧ size address ≤ count := by
  rw [decode] at hdecode
  split at hdecode
  next value count' hgroups =>
    rw [Except.ok.injEq, Prod.mk.injEq] at hdecode
    obtain ⟨rfl, rfl⟩ := hdecode
    obtain ⟨hform, hcount, hvalue⟩ := take_of_decodeGroups hgroups
    have hbound : value < 2 ^ 64 := toNat_lt_of_decodeGroups hgroups
    have hnat : (UInt64.ofNat value).toNat = value := UInt64.toNat_ofNat_of_lt' hbound
    rw [form, size, encode, hnat]
    exact ⟨hform, length_encodeGroups_le hcount hvalue⟩
  next => cases hdecode

/-- Only the octets of an address matter for reading it. -/
theorem decodeGroups_take {room value count : Nat} {octets : Octets}
    (hdecode : decodeGroups room octets = some (value, count)) :
    decodeGroups room (octets.take count) = some (value, count) := by
  induction room generalizing octets value count with
  | zero => cases hdecode
  | succ room ih =>
      cases octets with
      | nil => cases hdecode
      | cons octet rest =>
          by_cases hmarked : octet.toNat % 2 = 1
          · rw [decodeGroups_cons_of_marked hmarked] at hdecode
            split at hdecode
            next => cases hdecode
            next hfits =>
              cases hdecode
              rw [List.take_succ_cons, decodeGroups_cons_of_marked hmarked, if_neg hfits]
          · rw [decodeGroups_cons_of_unmarked hmarked] at hdecode
            obtain ⟨⟨higher, more⟩, hrest, hvalue⟩ := Option.map_eq_some_iff.mp hdecode
            cases hvalue
            rw [List.take_succ_cons, decodeGroups_cons_of_unmarked hmarked, ih hrest]
            rfl

theorem decode_take {octets : Octets} {address : UInt64} {count : Nat}
    (hdecode : decode octets = .ok (address, count)) :
    decode (octets.take count) = .ok (address, count) := by
  rw [decode] at hdecode ⊢
  split at hdecode
  next value found hgroups =>
    cases hdecode
    rw [decodeGroups_take hgroups]
  next => cases hdecode

theorem length_form (count : Nat) (address : UInt64) : (form count address).length = count :=
  length_formGroups count address.toNat

/-- Octets that are an address and nothing else, as no fewer octets are. -/
def IsShortest (octets : Octets) (address : UInt64) : Prop :=
  decode octets = .ok (address, octets.length) ∧
    ∀ other, decode other = .ok (address, other.length) → octets.length ≤ other.length

/-- The encoded form is the one shortest form. -/
theorem isShortest_iff {octets : Octets} {address : UInt64} :
    IsShortest octets address ↔ octets = encode address := by
  have hencode : decode (encode address) = .ok (address, (encode address).length) := by
    have happend := decode_encode_append address []
    rwa [List.append_nil] at happend
  constructor
  · rintro ⟨hdecode, hshortest⟩
    obtain ⟨hform, hcount⟩ := take_of_decode hdecode
    rw [List.take_length] at hform
    rw [hform, encode_eq_form]
    exact congrArg (form · address) (Nat.le_antisymm (hshortest _ hencode) hcount)
  · rintro rfl
    exact ⟨hencode, fun other hother => (take_of_decode hother).2⟩

end Address

namespace Frame

/-- Accepted content is an address as received, the control octet, the payload and four octets that
the check value of these three is read from. -/
theorem exists_received_of_ofContent {content : Octets} {frame : Frame}
    (haccepted : ofContent content = .ok frame) :
    ∃ received check, content = received ++ frame.control.octet :: frame.payload ++ check ∧
      check.length = Checksum.size ∧
      Address.decode received = .ok (frame.address, received.length) ∧
      Checksum.crc32 (received ++ frame.control.octet :: frame.payload) = wordOfOctets check := by
  rw [ofContent] at haccepted
  dsimp only at haccepted
  split at haccepted
  next => cases haccepted
  next hlong =>
    split at haccepted
    next => cases haccepted
    next hfits =>
      split at haccepted
      next => cases haccepted
      next address count hdecode =>
        split at haccepted
        next => cases haccepted
        next octet payload hrest =>
          cases haccepted
          have hcount : count ≤ (content.take (content.length - Checksum.size)).length := by
            apply Nat.le_of_not_lt
            intro hbeyond
            rw [List.drop_eq_nil_of_le (Nat.le_of_lt hbeyond)] at hrest
            cases hrest
          refine ⟨(content.take (content.length - Checksum.size)).take count,
            content.drop (content.length - Checksum.size), ?_, ?_, ?_, ?_⟩
          · dsimp only
            rw [← hrest, List.take_append_drop, List.take_append_drop]
          · rw [minContentSize] at hlong
            rw [List.length_drop]
            omega
          · rw [List.length_take, Nat.min_eq_left hcount]
            exact Address.decode_take hdecode
          · dsimp only
            rw [← hrest, List.take_append_drop]
            exact Decidable.not_not.mp hfits

/-- Accepted content has the layout of a frame, with some form of the address. -/
theorem exists_form_of_ofContent {content : Octets} {frame : Frame}
    (haccepted : ofContent content = .ok frame) :
    ∃ count check, content = Address.form count frame.address ++
        frame.control.octet :: frame.payload ++ check ∧
      check.length = Checksum.size ∧ Address.size frame.address ≤ count := by
  obtain ⟨received, check, hlayout, hcheck, hdecode, -⟩ := exists_received_of_ofContent haccepted
  obtain ⟨hform, hcount⟩ := Address.take_of_decode hdecode
  rw [List.take_length] at hform
  rw [hform] at hlayout
  exact ⟨_, check, hlayout, hcheck, hcount⟩

theorem contentSize_le_of_ofContent {content : Octets} {frame : Frame}
    (haccepted : ofContent content = .ok frame) : frame.contentSize ≤ content.length := by
  obtain ⟨count, check, rfl, hcheck, hcount⟩ := exists_form_of_ofContent haccepted
  simp only [contentSize, List.length_append, List.length_cons, Address.length_form, hcheck]
  omega

theorem ofContent_ne_ok_of_length_lt {content : Octets} {frame : Frame}
    (hlength : content.length < frame.contentSize) : ofContent content ≠ .ok frame := by
  intro haccepted
  exact Nat.not_le.mpr hlength (contentSize_le_of_ofContent haccepted)

/-- The place where two sequences first differ is the same however they are taken apart there. -/
theorem eq_of_first_difference {front pre rest rest' post post' : Octets}
    {octet octet' other other' : UInt8} (hfirst : front ++ octet :: rest = pre ++ other :: post)
    (hsecond : front ++ octet' :: rest' = pre ++ other' :: post') (hoctet : octet' ≠ octet)
    (hother : other' ≠ other) : rest' = post' := by
  induction front generalizing pre with
  | nil =>
      cases pre with
      | nil => exact (List.cons.inj hsecond).2
      | cons shared pre =>
          have hshared := (List.cons.inj hfirst).1
          exact absurd ((List.cons.inj hsecond).1.trans hshared.symm) hoctet
  | cons shared front ih =>
      cases pre with
      | nil =>
          have hshared := (List.cons.inj hfirst).1
          exact absurd ((List.cons.inj hsecond).1.symm.trans hshared) hother
      | cons _ pre => exact ih (List.cons.inj hfirst).2 (List.cons.inj hsecond).2

/-- Content with one octet more can only hold the same frame if the address got longer, and then the
octet in excess is an empty group. -/
theorem ofContent_ne_ok_of_inserted {frame : Frame} {pre post : Octets}
    {octet damaged inserted : UInt8} (hcontent : frame.content = pre ++ octet :: post)
    (hdamaged : damaged ≠ octet) (hinserted : inserted ≠ 1) :
    ofContent (pre ++ damaged :: inserted :: post) ≠ .ok frame := by
  intro haccepted
  obtain ⟨count, check, hlayout, hcheck, -⟩ := exists_form_of_ofContent haccepted
  have hcount : count = Address.size frame.address + 1 := by
    have hlength := congrArg List.length hlayout
    have hsize := frame.length_content
    rw [hcontent] at hsize
    simp only [contentSize, List.length_append, List.length_cons, Address.length_form,
      hcheck] at hlength hsize
    omega
  obtain ⟨front, last, unmarked, hshort, hlong, hunmarked⟩ :=
    Address.form_size_add_one frame.address
  rw [hcount, hlong] at hlayout
  rw [content, body, hshort] at hcontent
  simp only [List.append_assoc, List.cons_append, List.nil_append] at hlayout hcontent
  -- The damage is where the encoded address ends, and the octet behind it ends the longer form.
  have hrest := eq_of_first_difference hcontent hlayout.symm hunmarked hdamaged
  exact hinserted (List.cons.inj hrest).1.symm

end Frame

end Hdlc
