import Hdlc.Checksum
import Mathlib.Data.Nat.Bitwise

/-!
# The register behind content

Dividing bits out of a register is linear and loses nothing, so the register behind a sequence of
octets tells the registers before it apart (`extend_injective`), and the register behind up to four
octets tells those octets apart (`eq_of_extend_eq`). A check sequence fits the octets before it
exactly where the register behind both is a fixed one, the residue (`crc32_eq_iff`).
-/

namespace Hdlc

/-! ## Words -/

/-- An octet takes the place that the word of the octets behind it leaves free. -/
theorem wordOfOctets_cons (octet : UInt8) (rest : Octets) :
    wordOfOctets (octet :: rest) = (wordOfOctets rest <<< 8) ^^^ octet.toUInt32 := by
  rw [wordOfOctets, List.foldr_cons, ← wordOfOctets]
  apply UInt32.toBitVec_inj.mp
  apply BitVec.eq_of_getLsbD_eq
  intro i hi
  rcases Nat.lt_or_ge i 8 with hlow | hhigh
  · simp [hlow]
  · have hoctet : octet.toBitVec.getLsbD i = false := BitVec.getLsbD_of_ge _ i hhigh
    simp [hoctet]

theorem toNat_wordOfOctets_cons {octet : UInt8} {rest : Octets}
    (hrest : (wordOfOctets rest).toNat < 2 ^ 24) :
    (wordOfOctets (octet :: rest)).toNat = 2 ^ 8 * (wordOfOctets rest).toNat + octet.toNat := by
  have hoctet : octet.toNat < 2 ^ 8 := octet.toNat_lt
  rw [wordOfOctets, List.foldr_cons, ← wordOfOctets, UInt32.toNat_or, UInt32.toNat_shiftLeft,
    UInt8.toNat_toUInt32]
  have hshift : (8 : UInt32).toNat % 32 = 8 := rfl
  rw [hshift, Nat.shiftLeft_eq, Nat.mod_eq_of_lt (by omega), Nat.mul_comm,
    ← Nat.two_pow_add_eq_or_of_lt hoctet]

/-- The word of up to four octets leaves free the places that further octets would take. -/
theorem toNat_wordOfOctets_lt {octets : Octets} (hlength : octets.length ≤ 4) :
    (wordOfOctets octets).toNat < 2 ^ (8 * octets.length) := by
  induction octets with
  | nil => exact Nat.one_pos
  | cons octet rest ih =>
      have hoctet : octet.toNat < 2 ^ 8 := octet.toNat_lt
      have hrest := ih (Nat.le_of_succ_le hlength)
      have hroom : 2 ^ (8 * rest.length) ≤ 2 ^ 24 := by
        apply Nat.pow_le_pow_right (by decide)
        rw [List.length_cons] at hlength
        omega
      rw [toNat_wordOfOctets_cons (by omega), List.length_cons, Nat.mul_succ, Nat.pow_add]
      omega

theorem toNat_wordOfOctets_lt_of_le_three {octets : Octets} (hlength : octets.length ≤ 3) :
    (wordOfOctets octets).toNat < 2 ^ 24 := by
  have hword := toNat_wordOfOctets_lt (Nat.le_succ_of_le hlength)
  have hroom : 2 ^ (8 * octets.length) ≤ 2 ^ 24 := Nat.pow_le_pow_right (by decide) (by omega)
  omega

/-- Up to four octets are told apart by their word. -/
theorem eq_of_wordOfOctets_eq {first second : Octets} (hlength : first.length = second.length)
    (hfour : first.length ≤ 4) (hword : wordOfOctets first = wordOfOctets second) :
    first = second := by
  induction first generalizing second with
  | nil => exact (List.eq_nil_of_length_eq_zero hlength.symm).symm
  | cons octet rest ih =>
      obtain ⟨octet', rest', rfl⟩ := List.exists_cons_of_length_eq_add_one hlength.symm
      have hrest : rest.length = rest'.length := Nat.succ.inj hlength
      have hthree : rest.length ≤ 3 := Nat.le_of_succ_le_succ hfour
      have hnat := congrArg UInt32.toNat hword
      rw [toNat_wordOfOctets_cons (toNat_wordOfOctets_lt_of_le_three hthree),
        toNat_wordOfOctets_cons (toNat_wordOfOctets_lt_of_le_three (hrest ▸ hthree))] at hnat
      have hoctet : octet.toNat < 2 ^ 8 := octet.toNat_lt
      have hoctet' : octet'.toNat < 2 ^ 8 := octet'.toNat_lt
      have hlower : octet = octet' := UInt8.toNat_inj.mp (by omega)
      have hhigher : wordOfOctets rest = wordOfOctets rest' := UInt32.toNat_inj.mp (by omega)
      rw [hlower, ih hrest (Nat.le_succ_of_le hthree) hhigher]

namespace Checksum

/-! ## Dividing bits out -/

theorem and_one_eq_one_iff (register : UInt32) : register &&& 1 = 1 ↔ register.toNat % 2 = 1 := by
  rw [← UInt32.toNat_inj, UInt32.toNat_and]
  exact iff_of_eq (congrArg (· = 1) (Nat.and_one_is_mod _))

theorem toNat_shiftRight_one (register : UInt32) : (register >>> 1).toNat = register.toNat / 2 := by
  rw [UInt32.toNat_shiftRight]
  exact Nat.shiftRight_eq_div_pow register.toNat 1

theorem shiftBit_of_odd {register : UInt32} (hodd : register.toNat % 2 = 1) :
    shiftBit register = (register >>> 1) ^^^ generator :=
  if_pos ((and_one_eq_one_iff register).mpr hodd)

theorem shiftBit_of_even {register : UInt32} (heven : register.toNat % 2 = 0) :
    shiftBit register = register >>> 1 := by
  apply if_neg
  rw [and_one_eq_one_iff]
  omega

theorem shiftBit_xor (first second : UInt32) :
    shiftBit (first ^^^ second) = shiftBit first ^^^ shiftBit second := by
  have hparity : (first ^^^ second).toNat % 2 = (first.toNat + second.toNat) % 2 := by
    rw [UInt32.toNat_xor]
    exact Nat.xor_mod_two_eq
  rcases Nat.mod_two_eq_zero_or_one first.toNat with hfirst | hfirst
  · rcases Nat.mod_two_eq_zero_or_one second.toNat with hsecond | hsecond
    · rw [shiftBit_of_even (by omega), shiftBit_of_even hfirst, shiftBit_of_even hsecond,
        UInt32.shiftRight_xor]
    · rw [shiftBit_of_odd (by omega), shiftBit_of_even hfirst, shiftBit_of_odd hsecond,
        UInt32.shiftRight_xor, UInt32.xor_assoc]
  · rcases Nat.mod_two_eq_zero_or_one second.toNat with hsecond | hsecond
    · rw [shiftBit_of_odd (by omega), shiftBit_of_odd hfirst, shiftBit_of_even hsecond,
        UInt32.shiftRight_xor]
      ac_rfl
    · -- The generator is taken away twice.
      rw [shiftBit_of_even (by omega), shiftBit_of_odd hfirst, shiftBit_of_odd hsecond,
        UInt32.shiftRight_xor]
      calc
        (first >>> 1) ^^^ (second >>> 1) =
            (first >>> 1) ^^^ (second >>> 1) ^^^ (generator ^^^ generator) := by
          rw [UInt32.xor_self, UInt32.xor_zero]
        _ = (first >>> 1) ^^^ generator ^^^ ((second >>> 1) ^^^ generator) := by ac_rfl

/-- The generator has its highest bit set, which no shifted register has. -/
theorem eq_zero_of_shiftBit_eq_zero {register : UInt32} (hzero : shiftBit register = 0) :
    register = 0 := by
  have hbound : register.toNat < 2 ^ 32 := register.toNat_lt
  rcases Nat.mod_two_eq_zero_or_one register.toNat with heven | hodd
  · rw [shiftBit_of_even heven] at hzero
    have hhalf := congrArg UInt32.toNat hzero
    rw [toNat_shiftRight_one, UInt32.toNat_zero] at hhalf
    apply UInt32.toNat_inj.mp
    rw [UInt32.toNat_zero]
    omega
  · rw [shiftBit_of_odd hodd, UInt32.xor_eq_zero_iff] at hzero
    have hhalf := congrArg UInt32.toNat hzero
    have hgenerator : generator.toNat = 0xEDB88320 := rfl
    rw [toNat_shiftRight_one, hgenerator] at hhalf
    omega

theorem shiftBit_injective : Function.Injective shiftBit := by
  intro first second heq
  have hzero : shiftBit (first ^^^ second) = 0 := by
    rw [shiftBit_xor, heq, UInt32.xor_self]
  exact UInt32.xor_eq_zero_iff.mp (eq_zero_of_shiftBit_eq_zero hzero)

/-- Divide out bits one after the other. -/
def shift (count : Nat) (register : UInt32) : UInt32 :=
  Nat.repeat shiftBit count register

theorem shift_succ (count : Nat) (register : UInt32) :
    shift (count + 1) register = shiftBit (shift count register) := rfl

theorem shift_add (first second : Nat) (register : UInt32) :
    shift (first + second) register = shift first (shift second register) := by
  induction first with
  | zero => rw [Nat.zero_add]; rfl
  | succ first ih => rw [Nat.succ_add, shift_succ, ih, shift_succ]

theorem shift_xor (count : Nat) (first second : UInt32) :
    shift count (first ^^^ second) = shift count first ^^^ shift count second := by
  induction count with
  | zero => rfl
  | succ count ih => rw [shift_succ, ih, shiftBit_xor, shift_succ, shift_succ]

theorem shift_injective (count : Nat) : Function.Injective (shift count) := by
  induction count with
  | zero => exact fun _ _ heq => heq
  | succ count ih => exact shiftBit_injective.comp ih

/-- Bits that are not set are divided out by moving the others down. -/
theorem shift_of_toNat_eq {count : Nat} {register word : UInt32}
    (hregister : register.toNat = 2 ^ count * word.toNat) : shift count register = word := by
  induction count generalizing register word with
  | zero =>
      rw [Nat.pow_zero, Nat.one_mul] at hregister
      exact UInt32.toNat_inj.mp hregister
  | succ count ih =>
      rw [Nat.pow_succ', Nat.mul_assoc] at hregister
      have heven : register.toNat % 2 = 0 := by omega
      have hhalf : (shiftBit register).toNat = 2 ^ count * word.toNat := by
        rw [shiftBit_of_even heven, toNat_shiftRight_one, hregister]
        omega
      rw [shift_add count 1]
      exact ih hhalf

/-! ## Taking octets in -/

theorem absorb_eq_shift (register : UInt32) (octet : UInt8) :
    absorb register octet = shift 8 (register ^^^ octet.toUInt32) := rfl

/-- Up to four octets enter a register as their word. -/
theorem extend_eq_shift (register : UInt32) {octets : Octets} (hlength : octets.length ≤ 4) :
    extend register octets = shift (8 * octets.length) (register ^^^ wordOfOctets octets) := by
  -- The later octets are not touched while the first is divided out.
  induction octets generalizing register with
  | nil => exact (UInt32.xor_zero).symm
  | cons octet rest ih =>
      have hthree : rest.length ≤ 3 := Nat.le_of_succ_le_succ hlength
      have hrest := toNat_wordOfOctets_lt_of_le_three hthree
      have hmoved : shift 8 (wordOfOctets rest <<< 8) = wordOfOctets rest := by
        apply shift_of_toNat_eq
        have hshift : (8 : UInt32).toNat % 32 = 8 := rfl
        rw [UInt32.toNat_shiftLeft, hshift, Nat.shiftLeft_eq, Nat.mod_eq_of_lt (by omega),
          Nat.mul_comm]
      have hstep : shift 8 (register ^^^ wordOfOctets (octet :: rest)) =
          absorb register octet ^^^ wordOfOctets rest := by
        rw [absorb_eq_shift, wordOfOctets_cons, UInt32.xor_comm _ octet.toUInt32,
          ← UInt32.xor_assoc, shift_xor, hmoved]
      rw [extend_cons, ih _ (Nat.le_succ_of_le hthree), List.length_cons, Nat.mul_succ, shift_add,
        hstep]

theorem absorb_injective (octet : UInt8) : Function.Injective (absorb · octet) := by
  intro first second heq
  exact (UInt32.xor_left_inj _).mp (shift_injective 8 heq)

/-- The register behind octets tells the registers before them apart. -/
theorem extend_injective (octets : Octets) : Function.Injective (extend · octets) := by
  induction octets with
  | nil => exact fun _ _ heq => heq
  | cons octet rest ih => exact ih.comp (absorb_injective octet)

/-- The register behind up to four octets tells them apart. -/
theorem eq_of_extend_eq {register : UInt32} {first second : Octets}
    (hlength : first.length = second.length) (hfour : first.length ≤ 4)
    (hregister : extend register first = extend register second) : first = second := by
  rw [extend_eq_shift register hfour, extend_eq_shift register (hlength ▸ hfour), hlength]
    at hregister
  have hword := (UInt32.xor_right_inj _).mp (shift_injective _ hregister)
  exact eq_of_wordOfOctets_eq hlength hfour hword

/-! ## The residue -/

/-- The register behind octets and a check sequence that fits them. -/
def residue : UInt32 := 0xDEBB20E3

theorem shift_ones : shift 32 0xFFFFFFFF = residue := by
  decide +kernel

/-- A check value fits the octets before it exactly where the register behind both is the
residue. -/
theorem crc32_eq_iff {octets check : Octets} (hcheck : check.length = size) :
    crc32 octets = wordOfOctets check ↔ extend initial (octets ++ check) = residue := by
  have hshift : extend initial (octets ++ check) =
      shift 32 (extend initial octets ^^^ wordOfOctets check) := by
    rw [extend_append, extend_eq_shift _ (Nat.le_of_eq hcheck), hcheck, size]
  rw [hshift, ← shift_ones, (shift_injective 32).eq_iff, crc32, finish]
  constructor
  · intro hword
    rw [← hword, ← UInt32.xor_assoc, UInt32.xor_self, UInt32.zero_xor]
  · intro hword
    rw [← hword, ← UInt32.xor_assoc, UInt32.xor_self, UInt32.zero_xor]

end Checksum

end Hdlc
