import Hdlc.Proofs.Form
import Mathlib.Algebra.BigOperators.Group.Finset.Basic
import Mathlib.Algebra.BigOperators.Ring.Finset
import Mathlib.Data.Nat.Bitwise
import Mathlib.Order.Bounds.Defs
import Mathlib.Tactic.Ring

/-!
# Addresses as numerals

An address on the wire is a numeral to the base 128 whose digits are the groups of its octets. It is
read where the numeral ends within ten octets and its number, taken without any bound, fits 64 bits;
all else is refused (`decode_eq_ok_iff_isNumeral`). Of the numerals of one number the encoded one
has the least count of octets. The shifts and masks of a 64-bit register and a buffer of ten octets
lose nothing of this (`fill_eq`, `scan_eq`).
-/

namespace Hdlc.Address

variable {octet : UInt8} {rest octets : Octets} {value count : Nat}

/-- The octets start with a numeral of the number in the given count of groups. Its last octet is
the first that is marked. -/
structure IsNumeral (octets : Octets) (value count : Nat) : Prop where
  count_pos : 0 < count
  count_le_length : count ≤ octets.length
  unmarked : ∀ index, index + 1 < count → (octets.getD index 0).toNat % 2 = 0
  marked : (octets.getD (count - 1) 0).toNat % 2 = 1
  sum_eq : ∑ index ∈ Finset.range count, (octets.getD index 0).toNat / 2 * 128 ^ index = value

theorem sum_cons (octet : UInt8) (rest : Octets) (count : Nat) :
    ∑ index ∈ Finset.range (count + 1), ((octet :: rest).getD index 0).toNat / 2 * 128 ^ index =
      octet.toNat / 2 +
        128 * ∑ index ∈ Finset.range count, (rest.getD index 0).toNat / 2 * 128 ^ index := by
  rw [Finset.sum_range_succ', Finset.mul_sum, Nat.add_comm]
  congr 1
  · rw [List.getD_cons_zero, Nat.pow_zero, Nat.mul_one]
  · refine Finset.sum_congr rfl fun index _ => ?_
    rw [List.getD_cons_succ, Nat.pow_succ, Nat.mul_comm _ 128, Nat.mul_left_comm]

theorem isNumeral_cons_of_marked (hmarked : octet.toNat % 2 = 1) :
    IsNumeral (octet :: rest) value count ↔ count = 1 ∧ value = octet.toNat / 2 := by
  constructor
  · intro hnumeral
    have hcount : count = 1 := by
      have hpos := hnumeral.count_pos
      by_contra hmore
      have hfirst := hnumeral.unmarked 0 (by omega)
      rw [List.getD_cons_zero] at hfirst
      omega
    subst hcount
    refine ⟨rfl, ?_⟩
    rw [← hnumeral.sum_eq, sum_cons]
    rfl
  · rintro ⟨rfl, rfl⟩
    refine ⟨Nat.one_pos, Nat.succ_le_succ (Nat.zero_le _), fun index hindex => by omega, hmarked,
      ?_⟩
    rw [sum_cons]
    rfl

theorem isNumeral_cons_of_unmarked (hunmarked : octet.toNat % 2 ≠ 1) :
    IsNumeral (octet :: rest) value count ↔
      ∃ higher more, count = more + 1 ∧ value = octet.toNat / 2 + 128 * higher ∧
        IsNumeral rest higher more := by
  constructor
  · intro hnumeral
    obtain ⟨more, rfl⟩ := Nat.exists_eq_add_one_of_ne_zero (Nat.ne_of_gt hnumeral.count_pos)
    have hmore : 0 < more := by
      apply Nat.pos_of_ne_zero
      rintro rfl
      exact hunmarked hnumeral.marked
    refine ⟨_, more, rfl, ?_, hmore, Nat.le_of_succ_le_succ hnumeral.count_le_length, ?_, ?_, rfl⟩
    · rw [← hnumeral.sum_eq, sum_cons]
    · intro index hindex
      have hnext := hnumeral.unmarked (index + 1) (by omega)
      rwa [List.getD_cons_succ] at hnext
    · have hlast := hnumeral.marked
      rwa [show more + 1 - 1 = more - 1 + 1 by omega, List.getD_cons_succ] at hlast
  · rintro ⟨higher, more, rfl, rfl, hrest⟩
    have hmore := hrest.count_pos
    refine ⟨Nat.succ_pos _, Nat.succ_le_succ hrest.count_le_length, ?_, ?_, ?_⟩
    · intro index hindex
      cases index with
      | zero =>
          rw [List.getD_cons_zero]
          omega
      | succ index => exact hrest.unmarked index (by omega)
    · rw [show more + 1 - 1 = more - 1 + 1 by omega, List.getD_cons_succ]
      exact hrest.marked
    · rw [sum_cons, hrest.sum_eq]

/-- Groups are read exactly where they make a numeral that has room, in octets and in bits. -/
theorem decodeGroups_eq_some_iff {room : Nat} :
    decodeGroups room octets = some (value, count) ↔
      IsNumeral octets value count ∧ count ≤ room ∧ value < 2 ^ (7 * room - 6) := by
  induction room generalizing octets value count with
  | zero =>
      constructor
      · intro hdecode
        cases hdecode
      · rintro ⟨hnumeral, hcount, -⟩
        exact absurd hnumeral.count_pos (Nat.not_lt.mpr hcount)
  | succ room ih =>
      cases octets with
      | nil =>
          constructor
          · intro hdecode
            cases hdecode
          · rintro ⟨hnumeral, -, -⟩
            exact absurd hnumeral.count_pos (Nat.not_lt.mpr hnumeral.count_le_length)
      | cons octet rest =>
          have hbound : octet.toNat < 256 := octet.toNat_lt
          have hpow : room ≠ 0 → 2 ^ (7 * (room + 1) - 6) = 128 * 2 ^ (7 * room - 6) := by
            intro hroom
            rw [show 7 * (room + 1) - 6 = 7 + (7 * room - 6) by omega, Nat.pow_add]
          by_cases hmarked : octet.toNat % 2 = 1
          · rw [decodeGroups_cons_of_marked hmarked, isNumeral_cons_of_marked hmarked]
            constructor
            · intro hdecode
              split at hdecode
              next => cases hdecode
              next hfits =>
                cases hdecode
                refine ⟨⟨rfl, rfl⟩, by omega, ?_⟩
                rcases Nat.eq_zero_or_pos room with rfl | hroom
                · omega
                · have := hpow (by omega)
                  have := Nat.two_pow_pos (7 * room - 6)
                  omega
            · rintro ⟨⟨rfl, rfl⟩, -, hvalue⟩
              refine if_neg ?_
              rintro ⟨rfl, hlarge⟩
              omega
          · rw [decodeGroups_cons_of_unmarked hmarked, isNumeral_cons_of_unmarked hmarked,
              Option.map_eq_some_iff]
            constructor
            · rintro ⟨⟨higher, more⟩, hrest, hvalue⟩
              cases hvalue
              obtain ⟨hnumeral, hmore, hhigher⟩ := ih.mp hrest
              have := hnumeral.count_pos
              have := hpow (by omega)
              exact ⟨⟨higher, more, rfl, rfl, hnumeral⟩, by omega, by omega⟩
            · rintro ⟨⟨higher, more, rfl, rfl, hnumeral⟩, hcount, hvalue⟩
              have := hnumeral.count_pos
              have := hpow (by omega)
              exact ⟨(higher, more), ih.mpr ⟨hnumeral, by omega, by omega⟩, rfl⟩

/-- An address is read exactly from the numerals of at most ten octets whose number fits 64 bits. -/
theorem decode_eq_ok_iff_isNumeral {address : UInt64} :
    decode octets = .ok (address, count) ↔
      count ≤ maxSize ∧ IsNumeral octets address.toNat count := by
  have hbound : address.toNat < 2 ^ (7 * maxSize - 6) := address.toNat_lt
  rw [decode]
  constructor
  · intro hdecode
    split at hdecode
    next value found hgroups =>
      obtain ⟨hnumeral, hfound, hvalue⟩ := decodeGroups_eq_some_iff.mp hgroups
      cases hdecode
      rw [UInt64.toNat_ofNat_of_lt' hvalue]
      exact ⟨hfound, hnumeral⟩
    next => cases hdecode
  · rintro ⟨hcount, hnumeral⟩
    rw [decodeGroups_eq_some_iff.mpr ⟨hnumeral, hcount, hbound⟩]
    dsimp only
    rw [UInt64.ofNat_toNat]

/-- All else is refused, and so is a numeral whose number does not fit. -/
theorem decode_eq_error_iff :
    decode octets = .error .badAddress ↔
      ¬∃ value count, count ≤ maxSize ∧ IsNumeral octets value count ∧ value < 2 ^ 64 := by
  rw [decode]
  constructor
  · rintro hrefused ⟨value, count, hcount, hnumeral, hvalue⟩
    rw [decodeGroups_eq_some_iff.mpr ⟨hnumeral, hcount, hvalue⟩] at hrefused
    cases hrefused
  · intro hnone
    cases hgroups : decodeGroups maxSize octets with
    | none => rfl
    | some read =>
        obtain ⟨hnumeral, hcount, hvalue⟩ := decodeGroups_eq_some_iff.mp hgroups
        exact absurd ⟨read.1, read.2, hcount, hnumeral, hvalue⟩ hnone

theorem isLeast_size (address : UInt64) :
    IsLeast {count | 0 < count ∧ address.toNat < 128 ^ count} (size address) :=
  ⟨⟨size_pos address, lt_pow_length_encodeGroups address.toNat⟩,
    fun _ hcount => length_encodeGroups_le hcount.1 hcount.2⟩

theorem size_le_maxSize (address : UInt64) : size address ≤ maxSize := by
  refine (isLeast_size address).2 ⟨by decide, ?_⟩
  calc address.toNat < 2 ^ 64 := address.toNat_lt
    _ ≤ 128 ^ maxSize := by decide

/-! ## Registers -/

theorem toNat_shiftRight_seven (remaining : UInt64) :
    (remaining >>> 7).toNat = remaining.toNat / 128 := by
  rw [UInt64.toNat_shiftRight, Nat.shiftRight_eq_div_pow]
  rfl

theorem masked_eq_group (remaining : UInt64) :
    (remaining &&& 0x7F).toUInt8 <<< 1 = UInt8.ofNat (2 * (remaining.toNat % 128)) := by
  apply UInt8.toNat_inj.mp
  have hmask : (remaining &&& 0x7F).toNat = remaining.toNat % 128 := by
    rw [UInt64.toNat_and]
    exact Nat.and_two_pow_sub_one_eq_mod remaining.toNat 7
  rw [UInt8.toNat_shiftLeft, UInt64.toNat_toUInt8, hmask, UInt8.toNat_ofNat', Nat.shiftLeft_eq,
    show (1 : UInt8).toNat % 8 = 1 from rfl]
  omega

theorem group_or_one {group : Nat} (hgroup : group < 128) :
    UInt8.ofNat (2 * group) ||| 1 = UInt8.ofNat (2 * group + 1) := by
  apply UInt8.toNat_inj.mp
  rw [UInt8.toNat_or, UInt8.toNat_ofNat', UInt8.toNat_ofNat', Nat.mod_eq_of_lt (by omega),
    Nat.mod_eq_of_lt (by omega)]
  exact (Nat.two_pow_add_eq_or_of_lt (show 1 < 2 ^ 1 by decide) group).symm

/-- Lay the groups of what remains of an address into a buffer from a position on, as a 64-bit
register and a buffer of octets do it. There is no result where an octet would fall outside. -/
def fill (buffer : Octets) (position : Nat) (remaining : UInt64) : Option (Octets × Nat) :=
  if position < buffer.length then
    let group := (remaining &&& 0x7F).toUInt8 <<< 1
    let higher := remaining >>> 7
    if higher = 0 then some (buffer.set position (group ||| 1), position + 1)
    else fill (buffer.set position group) (position + 1) higher
  else none
termination_by buffer.length - position
decreasing_by
  rw [List.length_set]
  omega

theorem fill_append (front behind : Octets) (remaining : UInt64)
    (hroom : (encodeGroups remaining.toNat).length ≤ behind.length) :
    fill (front ++ behind) front.length remaining =
      some (front ++ encodeGroups remaining.toNat ++
          behind.drop (encodeGroups remaining.toNat).length,
        front.length + (encodeGroups remaining.toNat).length) := by
  induction behind generalizing front remaining with
  | nil =>
      have hnone := List.eq_nil_of_length_eq_zero (Nat.le_zero.mp hroom)
      exact absurd hnone (encodeGroups_ne_nil _)
  | cons octet behind ih =>
      have hset : ∀ sent, (front ++ octet :: behind).set front.length sent =
          (front ++ [sent]) ++ behind := by
        intro sent
        simp
      have hzero : remaining >>> 7 = 0 ↔ remaining.toNat < 128 := by
        rw [← UInt64.toNat_inj, toNat_shiftRight_seven, UInt64.toNat_zero]
        omega
      have hgroup := Nat.mod_lt remaining.toNat (show 0 < 128 by decide)
      rw [fill, if_pos (by simp)]
      simp only [hset, hzero, masked_eq_group, group_or_one hgroup]
      by_cases hlast : remaining.toNat < 128
      · rw [if_pos hlast, encodeGroups_of_lt hlast, Nat.mod_eq_of_lt hlast]
        rfl
      · have hencode := encodeGroups_of_le (Nat.le_of_not_lt hlast)
        rw [← toNat_shiftRight_seven] at hencode
        rw [hencode, List.length_cons, List.length_cons] at hroom
        have hnext := ih (front ++ [UInt8.ofNat (2 * (remaining.toNat % 128))]) (remaining >>> 7)
          (Nat.le_of_succ_le_succ hroom)
        rw [List.length_append, List.length_singleton] at hnext
        rw [if_neg hlast, hnext, hencode, List.length_cons, List.drop_succ_cons,
          Nat.add_right_comm, Nat.add_assoc front.length]
        simp

/-- Read an address octet by octet into a 64-bit register, where `index` octets have been read. -/
def scan (index : Nat) (register : UInt64) : Octets → Option (UInt64 × Nat)
  | [] => none
  | octet :: rest =>
      if index = maxSize then none
      else
        let group := (octet >>> 1).toUInt64
        if index = maxSize - 1 ∧ 1 < group then none
        else
          let register := register ||| group <<< UInt64.ofNat (7 * index)
          if octet &&& 1 = 1 then some (register, index + 1) else scan (index + 1) register rest

/-- A group that fits at its place adds what it is worth there. -/
theorem toNat_or_shiftLeft {register group : UInt64} {index : Nat} (hindex : index < maxSize)
    (hregister : register.toNat < 128 ^ index) (hgroup : group.toNat * 128 ^ index < 2 ^ 64) :
    (register ||| group <<< UInt64.ofNat (7 * index)).toNat =
      register.toNat + group.toNat * 128 ^ index := by
  have hpow : (128 : Nat) ^ index = 2 ^ (7 * index) := by
    rw [Nat.pow_mul]
  have hplace : 7 * index < 64 := by
    rw [maxSize] at hindex
    omega
  have hshift : (UInt64.ofNat (7 * index)).toNat % 64 = 7 * index := by
    rw [UInt64.toNat_ofNat_of_lt' (Nat.lt_trans hplace (by decide)), Nat.mod_eq_of_lt hplace]
  rw [hpow] at hregister hgroup
  rw [UInt64.toNat_or, UInt64.toNat_shiftLeft, hshift, Nat.shiftLeft_eq, Nat.mod_eq_of_lt hgroup,
    Nat.or_comm, Nat.mul_comm, ← Nat.two_pow_add_eq_or_of_lt hregister, hpow, Nat.add_comm,
    Nat.mul_comm]

theorem mul_pow_lt_of_fits {group index : Nat} (hgroup : group < 128) (hindex : index < maxSize)
    (hfits : ¬(index = maxSize - 1 ∧ 1 < group)) : group * 128 ^ index < 2 ^ 64 := by
  rcases Nat.eq_or_lt_of_le (Nat.le_sub_one_of_lt hindex) with rfl | hmore
  · calc group * 128 ^ (maxSize - 1) ≤ 1 * 128 ^ (maxSize - 1) :=
          Nat.mul_le_mul_right _ (by omega)
      _ < 2 ^ 64 := by decide
  · have hplace : 128 ^ index ≤ 128 ^ (maxSize - 2) :=
      Nat.pow_le_pow_right (by decide) (by omega)
    calc group * 128 ^ index ≤ 127 * 128 ^ (maxSize - 2) :=
          Nat.mul_le_mul (Nat.le_of_lt_succ hgroup) hplace
      _ < 2 ^ 64 := by decide

theorem toNat_group (octet : UInt8) : (octet >>> 1).toUInt64.toNat = octet.toNat / 2 := by
  rw [UInt8.toNat_toUInt64, UInt8.toNat_shiftRight, Nat.shiftRight_eq_div_pow]
  rfl

theorem marked_iff {octet : UInt8} : octet &&& 1 = 1 ↔ octet.toNat % 2 = 1 := by
  rw [← UInt8.toNat_inj, UInt8.toNat_and, show (1 : UInt8).toNat = 1 from rfl, Nat.and_one_is_mod]

theorem scan_eq_decodeGroups {index : Nat} (hindex : index ≤ maxSize) {register : UInt64}
    (hregister : register.toNat < 128 ^ index) (octets : Octets) :
    scan index register octets =
      (decodeGroups (maxSize - index) octets).map fun (value, count) =>
        (UInt64.ofNat (register.toNat + value * 128 ^ index), index + count) := by
  induction octets generalizing index register with
  | nil =>
      rw [scan]
      cases maxSize - index <;> rfl
  | cons octet rest ih =>
      rw [scan]
      rcases Nat.eq_or_lt_of_le hindex with rfl | hmore
      · rw [if_pos rfl, Nat.sub_self]
        rfl
      · have hroom : maxSize - index = maxSize - 1 - index + 1 := by omega
        have hbound : octet.toNat < 256 := octet.toNat_lt
        have hgroup := toNat_group octet
        have hlarge : (1 : UInt64) < (octet >>> 1).toUInt64 ↔ 1 < octet.toNat / 2 := by
          rw [UInt64.lt_iff_toNat_lt, hgroup]
          rfl
        rw [if_neg (Nat.ne_of_lt hmore), hroom]
        simp only [hlarge, marked_iff]
        by_cases hfull : index = maxSize - 1 ∧ 1 < octet.toNat / 2
        · rw [if_pos hfull, hfull.1, Nat.sub_self]
          by_cases hmarked : octet.toNat % 2 = 1
          · rw [decodeGroups_cons_of_marked hmarked, if_pos ⟨rfl, hfull.2⟩]
            rfl
          · rw [decodeGroups_cons_of_unmarked hmarked]
            rfl
        · -- The group has its place in the register, above all groups read before.
          have hfits := mul_pow_lt_of_fits (Nat.div_lt_of_lt_mul hbound) hmore hfull
          have hvalue := toNat_or_shiftLeft hmore hregister (hgroup.symm ▸ hfits)
          rw [hgroup] at hvalue
          rw [if_neg hfull]
          by_cases hmarked : octet.toNat % 2 = 1
          · have hlast : ¬(maxSize - 1 - index = 0 ∧ 1 < octet.toNat / 2) := by omega
            rw [if_pos hmarked, decodeGroups_cons_of_marked hmarked, if_neg hlast, Option.map_some,
              ← hvalue, UInt64.ofNat_toNat]
          · have hnext : (register ||| (octet >>> 1).toUInt64 <<< UInt64.ofNat (7 * index)).toNat <
                128 ^ (index + 1) := by
              have hplace : octet.toNat / 2 * 128 ^ index ≤ 127 * 128 ^ index :=
                Nat.mul_le_mul_right _ (by omega)
              rw [hvalue, Nat.pow_succ]
              omega
            rw [if_neg hmarked, decodeGroups_cons_of_unmarked hmarked, ih hmore hnext, hvalue,
              Option.map_map, Nat.sub_sub, Nat.add_comm 1]
            congr 1
            funext ⟨higher, count⟩
            have hsum : register.toNat + octet.toNat / 2 * 128 ^ index +
                higher * 128 ^ (index + 1) =
                  register.toNat + (octet.toNat / 2 + 128 * higher) * 128 ^ index := by
              ring
            simp only [Function.comp_apply, hsum, Nat.succ_add_eq_add_succ]

/-- The groups of an address keep within a buffer of ten octets. -/
theorem fill_eq (address : UInt64) :
    fill (List.replicate maxSize 0) 0 address =
      some (encode address ++ List.replicate (maxSize - size address) 0, size address) := by
  have hfilled := fill_append [] (List.replicate maxSize 0) address
    (by rw [List.length_replicate]; exact size_le_maxSize address)
  rw [List.drop_replicate] at hfilled
  simpa [encode, size] using hfilled

theorem scan_eq (octets : Octets) : scan 0 0 octets = (decode octets).toOption := by
  have hzero : (0 : UInt64).toNat < 128 ^ 0 := by decide
  rw [scan_eq_decodeGroups (Nat.zero_le maxSize) hzero, Nat.sub_zero, decode]
  cases decodeGroups maxSize octets with
  | none => rfl
  | some read => simp [Except.toOption]

/-! ## Exactness -/

/-- An address is sent in as few octets as its number has groups, at least one and at most ten, and
is read back whatever follows it. It is read from all numerals of its number that keep within ten
octets and from nothing else, and no numeral but the encoded one is the shortest. To zero belongs
one empty group. -/
theorem codec_is_exact :
    (∀ (address : UInt64) (rest : Octets),
      fill (List.replicate maxSize 0) 0 address =
        some (encode address ++ List.replicate (maxSize - size address) 0, size address) ∧
      1 ≤ size address ∧ size address ≤ 10 ∧
      IsLeast {count | 1 ≤ count ∧ address.toNat < 128 ^ count} (size address) ∧
      decode (encode address ++ rest) = .ok (address, size address)) ∧
    (∀ octets : Octets, scan 0 0 octets = (decode octets).toOption ∧
      (∀ (address : UInt64) (count : Nat), decode octets = .ok (address, count) ↔
        count ≤ 10 ∧ IsNumeral octets address.toNat count) ∧
      (decode octets = .error .badAddress ↔
        ¬∃ value count, count ≤ 10 ∧ IsNumeral octets value count ∧ value < 2 ^ 64)) ∧
    (∀ (octets : Octets) (address : UInt64),
      IsShortest octets address ↔ octets = encode address) := by
  refine ⟨fun address rest => ?_, fun octets => ⟨scan_eq octets, fun address count => ?_, ?_⟩,
    fun octets address => isShortest_iff⟩
  · exact ⟨fill_eq address, size_pos address, size_le_maxSize address, isLeast_size address,
      decode_encode_append address rest⟩
  · exact decode_eq_ok_iff_isNumeral
  · exact decode_eq_error_iff

end Hdlc.Address
