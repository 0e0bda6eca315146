import Hdlc.Proofs.Respelling
import Hdlc.Text.Numeral
import Mathlib.Data.List.DropRight
import Mathlib.Data.List.Forall2
import Mathlib.Data.Nat.Digits.Defs

/-!
# Numerals

A numeral is a sequence of digits behind an optional plus sign, and the number it denotes is a sum
of powers of the radix. It is read from left to right within a bound, and yet nothing but that
number decides: a numeral is refused exactly where its number does not keep below the bound, however
many zeros it starts with (`readNumeral_eq_ok_iff`). Octets and counts are read from the numerals of
their grammars and from no other texts (`numerals_are_read_exactly`).
-/

namespace Hdlc.Text

/-! ## Texts without blank ends -/

/-- What is left of a text when the blanks at both of its ends are taken away. -/
def IsTrimmed (text core : List Char) : Prop :=
  ∃ front back, text = front ++ core ++ back ∧ (∀ char ∈ front ++ back, isBlank char) ∧
    (∀ char ∈ core.head?, ¬isBlank char) ∧ ∀ char ∈ core.getLast?, ¬isBlank char

theorem dropWhile_append_of_head {front rest : List Char} (hfront : ∀ char ∈ front, isBlank char)
    (hrest : ∀ char ∈ rest.head?, ¬isBlank char) : (front ++ rest).dropWhile isBlank = rest := by
  rw [List.dropWhile_append_of_pos hfront]
  cases rest with
  | nil => rfl
  | cons char rest => exact List.dropWhile_cons_of_neg (hrest char rfl)

theorem trim_eq_of_isTrimmed {text core : List Char} (htrimmed : IsTrimmed text core) :
    trim text = core := by
  obtain ⟨front, back, rfl, hblank, hhead, hlast⟩ := htrimmed
  obtain ⟨hfront, hback⟩ := List.forall_mem_append.mp hblank
  cases core with
  | nil =>
      have hnone : (front ++ [] ++ back).dropWhile isBlank = [] := by
        rw [List.append_nil, List.dropWhile_eq_nil_iff]
        exact hblank
      rw [trim, hnone]
      rfl
  | cons char rest =>
      have hback : ∀ other ∈ back.reverse, isBlank other := fun other hmem =>
        hback other (List.mem_reverse.mp hmem)
      have hmiddle : ∀ other ∈ (char :: rest ++ back).head?, ¬isBlank other := hhead
      rw [trim, List.append_assoc, dropWhile_append_of_head hfront hmiddle, List.reverse_append,
        dropWhile_append_of_head hback (by rwa [List.head?_reverse]), List.reverse_reverse]

theorem isTrimmed_trim (text : List Char) : IsTrimmed text (trim text) := by
  have htrim : trim text = (text.dropWhile isBlank).rdropWhile isBlank := rfl
  refine ⟨text.takeWhile isBlank, (text.dropWhile isBlank).rtakeWhile isBlank, ?_, ?_, ?_, ?_⟩
  · rw [htrim, List.append_assoc, List.rdropWhile_append_rtakeWhile,
      List.takeWhile_append_dropWhile]
  · exact List.forall_mem_append.mpr
      ⟨fun _ => List.mem_takeWhile_imp, fun _ => List.mem_rtakeWhile_imp⟩
  · intro char hchar
    obtain ⟨rest, hcore⟩ := List.head?_eq_some_iff.mp hchar
    obtain ⟨back, hback⟩ := List.rdropWhile_prefix isBlank (text.dropWhile isBlank)
    rw [← htrim, hcore] at hback
    have hfirst := List.head?_dropWhile_not isBlank text
    rw [← hback] at hfirst
    exact Bool.eq_false_iff.mp hfirst
  · intro char hchar
    rw [htrim] at hchar
    obtain ⟨hcore, rfl⟩ := List.mem_getLast?_eq_getLast hchar
    exact List.rdropWhile_last_not isBlank _ hcore

theorem isTrimmed_iff {text core : List Char} : IsTrimmed text core ↔ core = trim text := by
  constructor
  · intro htrimmed
    exact (trim_eq_of_isTrimmed htrimmed).symm
  · rintro rfl
    exact isTrimmed_trim text

/-! ## Digits and numbers -/

/-- The signs of the digits, in the order of their values. -/
def digitSigns : List Char := "0123456789abcdef".toList

/-- A character is the digit of a value in a radix, letters being of either case. -/
def IsDigit (radix : Nat) (char : Char) (value : Nat) : Prop :=
  (digitSigns.take radix)[value]? = some char.toLower

instance (radix : Nat) (char : Char) (value : Nat) : Decidable (IsDigit radix char value) :=
  inferInstanceAs (Decidable (_ = _))

/-- Digits of a radix, the highest one first, spell a number. -/
def Spells (radix : Nat) (digits : List Char) (number : Nat) : Prop :=
  digits ≠ [] ∧ ∃ values, List.Forall₂ (IsDigit radix) digits values ∧
    number = Nat.ofDigits radix values.reverse

/-- A text denotes the number that its digits spell, behind an optional plus sign. -/
def Denotes (radix : Nat) (text : List Char) (number : Nat) : Prop :=
  ∃ digits, (text = digits ∨ text = '+' :: digits) ∧ Spells radix digits number

/-- An octet is denoted in decimal, or in hexadecimal behind `0x` or `0X`. -/
def DenotesOctet (text : List Char) (number : Nat) : Prop :=
  Denotes 10 text number ∨
    ∃ numeral, (text = '0' :: 'x' :: numeral ∨ text = '0' :: 'X' :: numeral) ∧
      Denotes 16 numeral number

theorem digitValue?_eq_some_iff {radix : Nat} (hradix : radix ≤ 16) {char : Char} {value : Nat} :
    digitValue? radix char = some value ↔ IsDigit radix char value := by
  have hsigns : ∀ value < 16, digitSigns[value]? = some (hexDigit value) := by
    decide +kernel
  rw [digitValue?, Option.filter_eq_some_iff, IsDigit, decide_eq_true_iff, List.getElem?_take]
  by_cases hvalue : value < radix
  · rw [if_pos hvalue, hsigns value (by omega), hexValue?_eq_some_iff (by omega),
      Option.some.injEq, eq_comm]
    exact and_iff_left hvalue
  · rw [if_neg hvalue]
    simp [hvalue]

theorem le_foldl_digits {radix : Nat} (hradix : 0 < radix) (value : Nat) (digits : List Nat) :
    value ≤ digits.foldl (fun number digit => number * radix + digit) value := by
  induction digits generalizing value with
  | nil => exact Nat.le_refl _
  | cons digit rest ih =>
      have hfirst : value ≤ value * radix := Nat.le_mul_of_pos_right value hradix
      exact Nat.le_trans (by omega) (ih (value * radix + digit))

theorem foldl_digits_eq_ofDigits (radix : Nat) (digits : List Nat) :
    digits.foldl (fun number digit => number * radix + digit) 0 =
      Nat.ofDigits radix digits.reverse := by
  rw [Nat.ofDigits_eq_foldr, ← List.foldl_reverse, List.reverse_reverse]
  congr 1
  funext number digit
  rw [Nat.mul_comm, Nat.add_comm, Nat.cast_id]

/-! ## Numerals -/

theorem readDigits_eq_ok_iff {radix bound : Nat} (hradix : 0 < radix) (hlarge : radix ≤ 16)
    {value : Nat} (hvalue : value < bound) {text : List Char} {number : Nat} :
    readDigits radix bound value text = .ok number ↔
      number < bound ∧ ∃ values, List.Forall₂ (IsDigit radix) text values ∧
        values.foldl (fun number digit => number * radix + digit) value = number := by
  induction text generalizing value with
  | nil =>
      constructor
      · intro hread
        cases hread
        exact ⟨hvalue, [], .nil, rfl⟩
      · rintro ⟨-, values, hdigits, rfl⟩
        cases hdigits
        rfl
  | cons char rest ih =>
      constructor
      · intro hread
        rw [readDigits] at hread
        split at hread
        next => cases hread
        next digit hdigit =>
          dsimp only at hread
          split at hread
          next hbelow =>
            obtain ⟨hnumber, values, hdigits, hfold⟩ := (ih hbelow).mp hread
            exact ⟨hnumber, digit :: values,
              .cons ((digitValue?_eq_some_iff hlarge).mp hdigit) hdigits, hfold⟩
          next => cases hread
      · rintro ⟨hnumber, values, hdigits, hfold⟩
        cases hdigits with
        | @cons _ digit _ values hdigit hrest =>
            -- the value so far does not exceed the number, so it cannot reach the bound
            have hbelow : value * radix + digit < bound := by
              refine Nat.lt_of_le_of_lt ?_ hnumber
              rw [← hfold, List.foldl_cons]
              exact le_foldl_digits hradix _ values
            rw [readDigits, (digitValue?_eq_some_iff hlarge).mpr hdigit]
            dsimp only
            rw [if_pos hbelow]
            exact (ih hbelow).mpr ⟨hnumber, values, hrest, hfold⟩

theorem readDigits_eq_ok_iff_spells {radix bound : Nat} (hradix : 0 < radix) (hlarge : radix ≤ 16)
    (hbound : 0 < bound) {digits : List Char} (hne : digits ≠ []) {number : Nat} :
    readDigits radix bound 0 digits = .ok number ↔ Spells radix digits number ∧ number < bound := by
  rw [readDigits_eq_ok_iff hradix hlarge hbound]
  constructor
  · rintro ⟨hnumber, values, hdigits, hfold⟩
    exact ⟨⟨hne, values, hdigits, by rw [← hfold, foldl_digits_eq_ofDigits]⟩, hnumber⟩
  · rintro ⟨⟨-, values, hdigits, rfl⟩, hnumber⟩
    exact ⟨hnumber, values, hdigits, foldl_digits_eq_ofDigits radix values⟩

theorem not_isDigit_plus {radix value : Nat} : ¬IsDigit radix '+' value := by
  intro hdigit
  have hmem : '+' ∈ digitSigns := List.mem_of_mem_take (List.mem_of_getElem? hdigit)
  exact absurd hmem (by decide)

theorem not_spells_plus {radix : Nat} {rest : List Char} {number : Nat} :
    ¬Spells radix ('+' :: rest) number := by
  rintro ⟨-, values, hdigits, -⟩
  cases hdigits with
  | cons hplus hrest => exact not_isDigit_plus hplus

theorem not_spells_nil {radix number : Nat} : ¬Spells radix [] number :=
  fun hspells => hspells.1 rfl

theorem denotes_plus_iff {radix : Nat} {digits : List Char} {number : Nat} :
    Denotes radix ('+' :: digits) number ↔ Spells radix digits number := by
  constructor
  · rintro ⟨signed, rfl | hsigned, hspells⟩
    · exact absurd hspells not_spells_plus
    · rw [(List.cons.inj hsigned).2]
      exact hspells
  · intro hspells
    exact ⟨digits, .inr rfl, hspells⟩

theorem denotes_iff_of_unsigned {radix : Nat} {text : List Char} {number : Nat}
    (hunsigned : ∀ digits, text ≠ '+' :: digits) :
    Denotes radix text number ↔ Spells radix text number := by
  constructor
  · rintro ⟨digits, rfl | hsigned, hspells⟩
    · exact hspells
    · exact absurd hsigned (hunsigned digits)
  · intro hspells
    exact ⟨text, .inl rfl, hspells⟩

/-- Below a bound, numerals of any length are read as the numbers that they denote. -/
theorem readNumeral_eq_ok_iff {radix bound : Nat} (hradix : 0 < radix) (hlarge : radix ≤ 16)
    (hbound : 0 < bound) {text : List Char} {number : Nat} :
    readNumeral radix bound text = .ok number ↔ Denotes radix text number ∧ number < bound := by
  unfold readNumeral
  split
  next =>
    rw [denotes_iff_of_unsigned (by simp)]
    exact iff_of_false nofun fun hspells => not_spells_nil hspells.1
  next =>
    rw [denotes_plus_iff]
    exact iff_of_false nofun fun hspells => not_spells_nil hspells.1
  next digits hne =>
    rw [denotes_plus_iff]
    exact readDigits_eq_ok_iff_spells hradix hlarge hbound hne
  next hne _ hunsigned =>
    rw [denotes_iff_of_unsigned hunsigned]
    exact readDigits_eq_ok_iff_spells hradix hlarge hbound hne

/-- No text denotes two numbers. -/
theorem Denotes.unique {radix : Nat} (hradix : 0 < radix) (hlarge : radix ≤ 16) {text : List Char}
    {first second : Nat} (hfirst : Denotes radix text first)
    (hsecond : Denotes radix text second) : first = second := by
  have hbound : 0 < first + second + 1 := Nat.succ_pos _
  have hread := (readNumeral_eq_ok_iff hradix hlarge hbound).mpr ⟨hfirst, by omega⟩
  rw [(readNumeral_eq_ok_iff hradix hlarge hbound).mpr ⟨hsecond, by omega⟩] at hread
  exact (Except.ok.inj hread).symm

/-! ## Octets and counts -/

theorem not_denotes_of_marked {mark : Char} (hmark : mark = 'x' ∨ mark = 'X')
    {numeral : List Char} {number : Nat} : ¬Denotes 10 ('0' :: mark :: numeral) number := by
  rw [denotes_iff_of_unsigned (by simp)]
  rintro ⟨-, values, hdigits, -⟩
  cases hdigits with
  | cons _ hdigits =>
      cases hdigits with
      | cons hdigit _ =>
          have hmem := List.mem_of_getElem? hdigit
          rcases hmark with rfl | rfl
          · exact absurd hmem (by decide)
          · exact absurd hmem (by decide)

theorem denotesOctet_marked_iff {mark : Char} (hmark : mark = 'x' ∨ mark = 'X')
    {numeral : List Char} {number : Nat} :
    DenotesOctet ('0' :: mark :: numeral) number ↔ Denotes 16 numeral number := by
  constructor
  · rintro (hdecimal | ⟨other, hmarked, hdenotes⟩)
    · exact absurd hdecimal (not_denotes_of_marked hmark)
    · have hother : numeral = other := by
        rcases hmarked with hmarked | hmarked
        · exact (List.cons.inj (List.cons.inj hmarked).2).2
        · exact (List.cons.inj (List.cons.inj hmarked).2).2
      rw [hother]
      exact hdenotes
  · intro hdenotes
    refine .inr ⟨numeral, ?_, hdenotes⟩
    rcases hmark with rfl | rfl
    · exact .inl rfl
    · exact .inr rfl

theorem denotesOctet_iff_of_unmarked {text : List Char} {number : Nat}
    (hlower : ∀ numeral, text ≠ '0' :: 'x' :: numeral)
    (hupper : ∀ numeral, text ≠ '0' :: 'X' :: numeral) :
    DenotesOctet text number ↔ Denotes 10 text number := by
  constructor
  · rintro (hdecimal | ⟨numeral, hmarked | hmarked, -⟩)
    · exact hdecimal
    · exact absurd hmarked (hlower numeral)
    · exact absurd hmarked (hupper numeral)
  · exact .inl

/-- The number below 256 that a text gives in either of the ways to write octets. -/
def readMarked : List Char → Except NumeralFault Nat
  | '0' :: 'x' :: numeral => readNumeral 16 256 numeral
  | '0' :: 'X' :: numeral => readNumeral 16 256 numeral
  | numeral => readNumeral 10 256 numeral

theorem readMarked_eq_ok_iff {text : List Char} {number : Nat} :
    readMarked text = .ok number ↔ DenotesOctet text number ∧ number < 256 := by
  unfold readMarked
  split
  next =>
    rw [denotesOctet_marked_iff (.inl rfl)]
    exact readNumeral_eq_ok_iff (by decide) (by decide) (by decide)
  next =>
    rw [denotesOctet_marked_iff (.inr rfl)]
    exact readNumeral_eq_ok_iff (by decide) (by decide) (by decide)
  next hlower hupper =>
    rw [denotesOctet_iff_of_unmarked hlower hupper]
    exact readNumeral_eq_ok_iff (by decide) (by decide) (by decide)

theorem readOctet_eq (text : String) :
    readOctet text =
      match readMarked (trim text.toList) with
      | .ok value => .ok (UInt8.ofNat value)
      | .error _ => .error (.notAnOctet (String.ofList (trim text.toList))) :=
  rfl

theorem readOctet_eq_ok_iff {text : String} {octet : UInt8} :
    readOctet text = .ok octet ↔ DenotesOctet (trim text.toList) octet.toNat := by
  rw [readOctet_eq]
  constructor
  · intro hread
    split at hread
    next value hvalue =>
      cases hread
      obtain ⟨hdenotes, hsmall⟩ := readMarked_eq_ok_iff.mp hvalue
      rw [UInt8.toNat_ofNat_of_lt' hsmall]
      exact hdenotes
    next => cases hread
  · intro hdenotes
    rw [readMarked_eq_ok_iff.mpr ⟨hdenotes, octet.toNat_lt⟩]
    dsimp only
    rw [UInt8.ofNat_toNat]

/-- What is no octet is reported without its blank ends. -/
theorem readOctet_of_no_octet {text : String}
    (hlarge : ∀ number, DenotesOctet (trim text.toList) number → 256 ≤ number) :
    readOctet text = .error (.notAnOctet (String.ofList (trim text.toList))) := by
  rw [readOctet_eq]
  split
  next value hvalue =>
    obtain ⟨hdenotes, hsmall⟩ := readMarked_eq_ok_iff.mp hvalue
    exact absurd hsmall (Nat.not_lt.mpr (hlarge value hdenotes))
  next => rfl

theorem readNumeral_word_iff {text : List Char} {number : Nat} :
    readNumeral 10 UInt64.size text = .ok number ↔ Denotes 10 text number ∧ number < 2 ^ 64 :=
  readNumeral_eq_ok_iff (by decide) (by decide) (by decide)

theorem readCount_eq_ok_iff {text : String} {count : Nat} :
    readCount text = .ok count ↔
      Denotes 10 (trim text.toList) count ∧ 1 ≤ count ∧ count < 2 ^ 64 := by
  unfold readCount
  constructor
  · intro hread
    split at hread
    next => cases hread
    next number hpositive hnumber =>
      cases hread
      obtain ⟨hdenotes, hbound⟩ := readNumeral_word_iff.mp hnumber
      exact ⟨hdenotes, Nat.one_le_iff_ne_zero.mpr hpositive, hbound⟩
    next => cases hread
  · rintro ⟨hdenotes, hpositive, hbound⟩
    rw [readNumeral_word_iff.mpr ⟨hdenotes, hbound⟩]
    cases count with
    | zero => cases hpositive
    | succ count => rfl

theorem readCount_of_zero {text : String} (hzero : Denotes 10 (trim text.toList) 0) :
    readCount text = .error .zeroCount := by
  rw [readCount, readNumeral_word_iff.mpr ⟨hzero, by decide⟩]
  rfl

/-- What is no number of 64 bits is reported with its blank ends. -/
theorem readCount_of_no_word {text : String}
    (hlarge : ∀ number, Denotes 10 (trim text.toList) number → 2 ^ 64 ≤ number) :
    readCount text = .error (.notACount text) := by
  have hnone : ∀ number, readNumeral 10 UInt64.size (trim text.toList) ≠ .ok number := by
    intro number hread
    obtain ⟨hdenotes, hsmall⟩ := readNumeral_word_iff.mp hread
    exact absurd hsmall (Nat.not_lt.mpr (hlarge number hdenotes))
  unfold readCount
  split
  next hread => exact absurd hread (hnone 0)
  next count _ hread => exact absurd hread (hnone count)
  next => rfl

/-- Blank ends apart, the texts of an octet are those that denote it, and the texts of a count those
that denote it where it is at least one and has 64 bits. Every other text is refused, and the
refusal of an octet leaves the blank ends out while the one of a count keeps them. -/
theorem numerals_are_read_exactly (text : String) :
    ∃ core, (∀ other, IsTrimmed text.toList other ↔ other = core) ∧
      (∀ octet : UInt8, readOctet text = .ok octet ↔ DenotesOctet core octet.toNat) ∧
      ((∀ number, DenotesOctet core number → 256 ≤ number) →
        readOctet text = .error (.notAnOctet (String.ofList core))) ∧
      (∀ count, readCount text = .ok count ↔ Denotes 10 core count ∧ 1 ≤ count ∧ count < 2 ^ 64) ∧
      (Denotes 10 core 0 → readCount text = .error .zeroCount) ∧
      ((∀ number, Denotes 10 core number → 2 ^ 64 ≤ number) →
        readCount text = .error (.notACount text)) :=
  ⟨trim text.toList, fun _ => isTrimmed_iff, fun _ => readOctet_eq_ok_iff, readOctet_of_no_octet,
    fun _ => readCount_eq_ok_iff, readCount_of_zero, readCount_of_no_word⟩

/-- Signs, zeros and the blanks of Unicode are read over, and one more than the greatest count is
refused. -/
theorem numerals_are_read_exactly_at_bounds :
    readOctet "\u20030X+0fF\n" = .ok 255 ∧
      readCount "+0018446744073709551615" = .ok (2 ^ 64 - 1) ∧
      readCount "\t00" = .error .zeroCount ∧
      readOctet "18446744073709551616 " = .error (.notAnOctet "18446744073709551616") ∧
      readCount "18446744073709551616 " = .error (.notACount "18446744073709551616 ") := by
  refine ⟨?_, ?_, ?_, ?_⟩
  · obtain ⟨core, htrimmed, hoctet, -⟩ := numerals_are_read_exactly "\u20030X+0fF\n"
    have hcore := (htrimmed "0X+0fF".toList).mp (isTrimmed_iff.mpr (by decide +kernel))
    exact (hoctet 255).mpr (.inr ⟨"+0fF".toList, .inr hcore.symm, "0fF".toList, .inr rfl,
      by decide, [0, 15, 15], by decide +kernel, by decide⟩)
  · obtain ⟨core, htrimmed, -, -, hcount, -⟩ := numerals_are_read_exactly "+0018446744073709551615"
    have hcore := (htrimmed "+0018446744073709551615".toList).mp
      (isTrimmed_iff.mpr (by decide +kernel))
    exact (hcount _).mpr ⟨⟨"0018446744073709551615".toList, .inr hcore.symm, by decide,
      [0, 0, 1, 8, 4, 4, 6, 7, 4, 4, 0, 7, 3, 7, 0, 9, 5, 5, 1, 6, 1, 5], by decide +kernel,
      by decide⟩, by decide, by decide⟩
  · obtain ⟨core, htrimmed, -, -, -, hzero, -⟩ := numerals_are_read_exactly "\t00"
    have hcore := (htrimmed "00".toList).mp (isTrimmed_iff.mpr (by decide +kernel))
    exact hzero ⟨"00".toList, .inl hcore.symm, by decide, [0, 0], by decide +kernel, by decide⟩
  · obtain ⟨core, htrimmed, -, hoctet, -, -, hcount⟩ :=
      numerals_are_read_exactly "18446744073709551616 "
    have hcore := (htrimmed "18446744073709551616".toList).mp
      (isTrimmed_iff.mpr (by decide +kernel))
    subst hcore
    have hdenotes : Denotes 10 "18446744073709551616".toList (2 ^ 64) :=
      ⟨_, .inl rfl, by decide, [1, 8, 4, 4, 6, 7, 4, 4, 0, 7, 3, 7, 0, 9, 5, 5, 1, 6, 1, 6],
        by decide +kernel, by decide⟩
    have hnumber : ∀ number, Denotes 10 "18446744073709551616".toList number → 2 ^ 64 = number :=
      fun number hother => hdenotes.unique (by decide) (by decide) hother
    refine ⟨?_, hcount fun number hother => Nat.le_of_eq (hnumber number hother)⟩
    refine hoctet ?_
    rintro number (hother | ⟨numeral, hmarked | hmarked, -⟩)
    · rw [← hnumber number hother]
      decide
    · cases hmarked
    · cases hmarked

end Hdlc.Text
