import Hdlc.Proofs.HexText
import Mathlib.Algebra.Group.Nat.Even
import Mathlib.Data.Bool.AllAny

/-!
# Respelling

Written octets may be respelt: letters change their case and separators come in between, even
between the two digits of an octet. Digits are paired only once the separators are gone, so the
texts of some octets are just the respelt forms of their written text. What is refused is refused
for its first character that is no digit, and for an odd count of digits only where there is none
(`hex_text_is_exact`). Both wordings are told apart by reading the quoted character back.
-/

namespace Hdlc.Text

/-! ## Respelling -/

/-- The characters that may stand anywhere among hexadecimal digits. -/
def separators : List Char := [' ', '\t', '\n', '\x0c', '\r']

/-- The hexadecimal digits, the last six of them in both cases. -/
def hexSigns : List Char := "0123456789abcdefABCDEF".toList

/-- What a text holds besides separators. -/
def signsIn (text : List Char) : List Char :=
  text.filter (· ∉ separators)

theorem isAsciiBlank_iff {char : Char} : isAsciiBlank char = true ↔ char ∈ separators := by
  simp [isAsciiBlank, separators, or_assoc]

theorem filter_not_isAsciiBlank (text : List Char) :
    (text.filter fun char => !isAsciiBlank char) = signsIn text := by
  refine List.filter_congr fun char _ => ?_
  rw [Bool.eq_iff_iff]
  simp [← isAsciiBlank_iff]

theorem signsIn_cons_of_mem {char : Char} (hchar : char ∈ separators) (rest : List Char) :
    signsIn (char :: rest) = signsIn rest :=
  List.filter_cons_of_neg (by simpa using hchar)

theorem signsIn_cons_of_not_mem {char : Char} (hchar : char ∉ separators) (rest : List Char) :
    signsIn (char :: rest) = char :: signsIn rest :=
  List.filter_cons_of_pos (by simpa using hchar)

/-- A text is respelt where letters change their case and separators come in between. -/
inductive Respelt : List Char → List Char → Prop
  | nil : Respelt [] []
  | separator {written text : List Char} {char : Char} (hchar : char ∈ separators)
      (hrest : Respelt written text) : Respelt written (char :: text)
  | sign {written text : List Char} {sign char : Char} (hcase : char.toLower = sign.toLower)
      (hrest : Respelt written text) : Respelt (sign :: written) (char :: text)

theorem Respelt.refl (text : List Char) : Respelt text text := by
  induction text with
  | nil => exact .nil
  | cons char rest ih => exact .sign rfl ih

/-- What holds of the ASCII characters and of those beyond them holds of all. -/
@[elab_as_elim]
theorem forall_char_of_ascii {motive : Char → Prop}
    (ascii : ∀ code < 128, motive (Char.ofNat code))
    (beyond : ∀ char : Char, 128 ≤ char.toNat → motive char) (char : Char) : motive char := by
  rcases Nat.lt_or_ge char.toNat 128 with hchar | hchar
  · rw [← Char.ofNat_toNat char]
    exact ascii _ hchar
  · exact beyond char hchar

theorem toLower_of_le {char : Char} (hchar : 128 ≤ char.toNat) : char.toLower = char := by
  refine dif_neg ?_
  rintro ⟨-, hletter⟩
  have hsmall : char.toNat ≤ 90 := UInt32.le_iff_toNat_le.mp hletter
  omega

theorem hexValue?_of_le {char : Char} (hchar : 128 ≤ char.toNat) : hexValue? char = none := by
  grind [hexValue?]

theorem toNat_hexDigit_lt : ∀ value < 16, (hexDigit value).toNat < 128 := by
  decide

theorem toLower_hexDigit : ∀ value < 16, (hexDigit value).toLower = hexDigit value := by
  decide

/-- A character has the value of the lowercase digit that it is but for its case. -/
theorem hexValue?_eq_some_iff {value : Nat} (hvalue : value < 16) (char : Char) :
    hexValue? char = some value ↔ char.toLower = hexDigit value := by
  induction char using forall_char_of_ascii with
  | ascii code hcode =>
      have hall : ∀ value < 16, ∀ code < 128, hexValue? (Char.ofNat code) = some value ↔
          (Char.ofNat code).toLower = hexDigit value := by
        decide +kernel
      exact hall value hvalue code hcode
  | beyond char hchar =>
      rw [hexValue?_of_le hchar, toLower_of_le hchar]
      constructor
      · intro hnone
        cases hnone
      · rintro rfl
        exact absurd (toNat_hexDigit_lt value hvalue) (Nat.not_lt.mpr hchar)

theorem isSome_hexValue?_iff (char : Char) : (hexValue? char).isSome ↔ char ∈ hexSigns := by
  induction char using forall_char_of_ascii with
  | ascii code hcode =>
      have hall : ∀ code < 128, (hexValue? (Char.ofNat code)).isSome ↔
          Char.ofNat code ∈ hexSigns := by
        decide +kernel
      exact hall code hcode
  | beyond char hchar =>
      have hsigns : ∀ sign ∈ hexSigns, sign.toNat < 128 :=
        List.all_iff_forall_prop.mp (by decide +kernel)
      rw [hexValue?_of_le hchar]
      constructor
      · intro hnone
        cases hnone
      · intro hmem
        exact absurd (hsigns char hmem) (Nat.not_lt.mpr hchar)

theorem hexValue?_of_mem_separators : ∀ char ∈ separators, hexValue? char = none :=
  List.all_iff_forall_prop.mp (by decide +kernel)

/-- The texts that have digits of the given values are the respelt forms of their lowercase
digits. -/
theorem respelt_map_hexDigit_iff {values : List Nat} (hvalues : ∀ value ∈ values, value < 16)
    {text : List Char} :
    Respelt (values.map hexDigit) text ↔ (signsIn text).map hexValue? = values.map some := by
  constructor
  · intro hrespelt
    generalize hwritten : values.map hexDigit = written at hrespelt
    induction hrespelt generalizing values with
    | nil =>
        rw [List.map_eq_nil_iff.mp hwritten]
        rfl
    | separator hchar hrest ih =>
        rw [signsIn_cons_of_mem hchar]
        exact ih hvalues hwritten
    | sign hcase hrest ih =>
        cases values with
        | nil => cases hwritten
        | cons value values =>
            obtain ⟨rfl, hrest⟩ := List.cons.inj hwritten
            obtain ⟨hvalue, hvalues⟩ := List.forall_mem_cons.mp hvalues
            rw [toLower_hexDigit value hvalue, ← hexValue?_eq_some_iff hvalue] at hcase
            have hsign : _ ∉ separators := fun hmem => by
              rw [hexValue?_of_mem_separators _ hmem] at hcase
              cases hcase
            rw [signsIn_cons_of_not_mem hsign, List.map_cons, hcase, ih hvalues hrest]
            rfl
  · intro hdigits
    induction text generalizing values with
    | nil =>
        rw [List.map_eq_nil_iff.mp hdigits.symm]
        exact .nil
    | cons char rest ih =>
        by_cases hchar : char ∈ separators
        · rw [signsIn_cons_of_mem hchar] at hdigits
          exact .separator hchar (ih hvalues hdigits)
        · rw [signsIn_cons_of_not_mem hchar, List.map_cons] at hdigits
          cases values with
          | nil => cases hdigits
          | cons value values =>
              obtain ⟨hsign, hrest⟩ := List.cons.inj hdigits
              obtain ⟨hvalue, hvalues⟩ := List.forall_mem_cons.mp hvalues
              refine .sign ?_ (ih hvalues hrest)
              rw [toLower_hexDigit value hvalue]
              exact (hexValue?_eq_some_iff hvalue char).mp hsign

theorem digitValues_lt (octet : UInt8) : ∀ value ∈ digitValues octet, value < 16 := by
  have hoctet : octet.toNat < 256 := octet.toNat_lt
  rw [digitValues]
  grind

/-- Octets are read exactly from the respelt forms of their written text. -/
theorem readHex_eq_ok_iff_respelt {text : String} {octets : Octets} :
    readHex text = .ok octets ↔ Respelt (hex octets).toList text.toList := by
  have hwritten : (hex octets).toList = (octets.flatMap digitValues).map hexDigit := by
    rw [hex, String.toList_ofList, List.map_flatMap]
    rfl
  have hvalues : ∀ value ∈ octets.flatMap digitValues, value < 16 := by
    intro value hmem
    obtain ⟨octet, -, hvalue⟩ := List.mem_flatMap.mp hmem
    exact digitValues_lt octet value hvalue
  rw [readHex_eq_ok_iff, GivesHex, filter_not_isAsciiBlank, hwritten,
    respelt_map_hexDigit_iff hvalues]

/-! ## Faults -/

theorem hexValues_append_cons {before after : List Char} {char : Char}
    (hbefore : ∀ sign ∈ before, sign ∈ hexSigns) (hchar : char ∉ hexSigns) (values : Array Nat) :
    hexValues values (before ++ char :: after) = .error (.notADigit char) := by
  induction before generalizing values with
  | nil =>
      rw [← isSome_hexValue?_iff, Option.not_isSome_iff_eq_none] at hchar
      rw [List.nil_append, hexValues, hchar]
  | cons sign before ih =>
      obtain ⟨hsign, hbefore⟩ := List.forall_mem_cons.mp hbefore
      obtain ⟨value, hvalue⟩ := Option.isSome_iff_exists.mp ((isSome_hexValue?_iff sign).mpr hsign)
      rw [List.cons_append, hexValues, hvalue]
      exact ih hbefore _

theorem exists_hexValues {signs : List Char} (hsigns : ∀ sign ∈ signs, sign ∈ hexSigns)
    (values : Array Nat) :
    ∃ found, hexValues values signs = .ok found ∧ found.length = values.size + signs.length := by
  induction signs generalizing values with
  | nil => exact ⟨values.toList, rfl, rfl⟩
  | cons sign rest ih =>
      obtain ⟨hsign, hrest⟩ := List.forall_mem_cons.mp hsigns
      obtain ⟨value, hvalue⟩ := Option.isSome_iff_exists.mp ((isSome_hexValue?_iff sign).mpr hsign)
      obtain ⟨found, hfound, hlength⟩ := ih hrest (values.push value)
      refine ⟨found, ?_, ?_⟩
      · rw [hexValues, hvalue]
        exact hfound
      · rw [hlength, Array.size_push, List.length_cons]
        omega

/-- Digits are paired where their count is even. -/
theorem pairDigits_of_length (front : Array UInt8) (values : List Nat) :
    (values.length % 2 = 0 → ∃ octets, pairDigits front values = .ok octets) ∧
      (values.length % 2 = 1 → pairDigits front values = .error .oddCount) := by
  fun_induction pairDigits front values with
  | case1 front =>
      refine ⟨fun _ => ⟨front.toList, rfl⟩, fun hodd => ?_⟩
      cases hodd
  | case2 front value =>
      refine ⟨fun heven => ?_, fun _ => rfl⟩
      cases heven
  | case3 front high low rest ih =>
      have hlength : (high :: low :: rest).length % 2 = rest.length % 2 := by
        rw [List.length_cons, List.length_cons]
        omega
      rw [hlength]
      exact ih

theorem readHex_eq (text : String) :
    readHex text = (hexValues #[] (signsIn text.toList)).bind (pairDigits #[]) := by
  rw [readHex, filter_not_isAsciiBlank]
  rfl

theorem readHex_of_signs {text : String} (hsigns : ∀ sign ∈ signsIn text.toList, sign ∈ hexSigns) :
    ((signsIn text.toList).length % 2 = 0 → ∃ octets, readHex text = .ok octets) ∧
      ((signsIn text.toList).length % 2 = 1 → readHex text = .error .oddCount) := by
  obtain ⟨found, hfound, hlength⟩ := exists_hexValues hsigns #[]
  rw [List.size_toArray, List.length_nil, Nat.zero_add] at hlength
  rw [readHex_eq, hfound, ← hlength]
  exact pairDigits_of_length #[] found

theorem readHex_of_stray {text : String} {before after : List Char} {char : Char}
    (htext : signsIn text.toList = before ++ char :: after)
    (hbefore : ∀ sign ∈ before, sign ∈ hexSigns) (hchar : char ∉ hexSigns) :
    readHex text = .error (.notADigit char) := by
  rw [readHex_eq, htext, hexValues_append_cons hbefore hchar]
  rfl

/-- Either all signs are digits, or one of them is the first that is none. -/
theorem signs_cases (signs : List Char) :
    (∀ sign ∈ signs, sign ∈ hexSigns) ∨
      ∃ before char after, signs = before ++ char :: after ∧
        (∀ sign ∈ before, sign ∈ hexSigns) ∧ char ∉ hexSigns := by
  induction signs with
  | nil => exact .inl fun _ hmem => absurd hmem List.not_mem_nil
  | cons sign rest ih =>
      by_cases hsign : sign ∈ hexSigns
      · rcases ih with hrest | ⟨before, char, after, rfl, hbefore, hchar⟩
        · exact .inl (List.forall_mem_cons.mpr ⟨hsign, hrest⟩)
        · exact .inr ⟨sign :: before, char, after, rfl,
            List.forall_mem_cons.mpr ⟨hsign, hbefore⟩, hchar⟩
      · exact .inr ⟨[], sign, rest, rfl, fun _ hmem => absurd hmem List.not_mem_nil, hsign⟩

theorem exists_readHex_iff (text : String) :
    (∃ octets, readHex text = .ok octets) ↔
      Even (signsIn text.toList).length ∧ ∀ sign ∈ signsIn text.toList, sign ∈ hexSigns := by
  rw [Nat.even_iff]
  constructor
  · rintro ⟨octets, hread⟩
    rcases signs_cases (signsIn text.toList) with hsigns | ⟨before, char, after, hstray⟩
    · refine ⟨?_, hsigns⟩
      by_contra hodd
      rw [(readHex_of_signs hsigns).2 (Nat.mod_two_ne_zero.mp hodd)] at hread
      cases hread
    · rw [readHex_of_stray hstray.1 hstray.2.1 hstray.2.2] at hread
      cases hread
  · rintro ⟨heven, hsigns⟩
    exact (readHex_of_signs hsigns).1 heven

/-! ## Wording -/

/-- The number that digits make behind others that made a value. -/
def extendDigits (value : Nat) (digits : List Char) : Nat :=
  digits.foldl (fun value digit => 16 * value + (hexValue? digit).getD 0) value

theorem extendDigits_toDigits (number : Nat) :
    extendDigits 0 (Nat.toDigits 16 number) = number := by
  have hsign : ∀ value < 16, hexValue? value.digitChar = some value := by
    decide
  induction number using Nat.strongRecOn with
  | ind number ih =>
      rcases Nat.lt_or_ge number 16 with hlast | hmore
      · rw [Nat.toDigits_of_lt_base hlast, extendDigits, List.foldl_cons, List.foldl_nil,
          hsign number hlast, Option.getD_some, Nat.mul_zero, Nat.zero_add]
      · have hhigher := ih (number / 16) (Nat.div_lt_self (by omega) (by decide))
        rw [extendDigits] at hhigher ⊢
        rw [Nat.toDigits_of_base_le (by decide) hmore, List.foldl_append, hhigher, List.foldl_cons,
          List.foldl_nil, hsign _ (Nat.mod_lt _ (by decide)), Option.getD_some, Nat.div_add_mod]

/-- The character that is shown between quotes. -/
def readShown : List Char → Option Char
  | [_, char, _] => some char
  | [_, _, mark, _] =>
      if mark = '0' then some '\x00'
      else if mark = 't' then some '\t'
      else if mark = 'r' then some '\r'
      else if mark = 'n' then some '\n'
      else some mark
  | _ :: _ :: _ :: _ :: shown => some (Char.ofNat (extendDigits 0 shown.dropLast.dropLast))
  | _ => none

theorem readShown_number {digits : List Char} (hdigits : digits ≠ []) :
    readShown ('\x27' :: '\x5c' :: 'u' :: '\x7b' :: (digits ++ ['\x7d', '\x27'])) =
      some (Char.ofNat (extendDigits 0 digits)) := by
  have hlast : (digits ++ ['\x7d', '\x27']).dropLast.dropLast = digits := by
    simp
  cases digits with
  | nil => exact absurd rfl hdigits
  | cons digit rest =>
      rw [List.cons_append, readShown, ← List.cons_append, hlast]
      simp

theorem readShown_showChar (char : Char) : readShown (showChar char).toList = some char := by
  unfold showChar
  split
  next hchar => rw [hchar]; rfl
  split
  next hchar => rw [hchar]; rfl
  split
  next hchar => rw [hchar]; rfl
  split
  next hchar => rw [hchar]; rfl
  split
  next hchar => rw [hchar]; rfl
  split
  next hchar => rw [hchar]; rfl
  split
  next =>
    have hshown : ("'" ++ ("\\u\x7b" ++ String.ofList (Nat.toDigits 16 char.toNat) ++ "\x7d") ++
        "'").toList = '\x27' :: '\x5c' :: 'u' :: '\x7b' ::
          (Nat.toDigits 16 char.toNat ++ ['\x7d', '\x27']) := by
      simp
    dsimp only
    rw [hshown, readShown_number Nat.toDigits_ne_nil, extendDigits_toDigits, Char.ofNat_toNat]
  next => simp [readShown]

theorem showChar_injective : Function.Injective showChar := by
  intro first second heq
  have hread := readShown_showChar first
  rw [heq, readShown_showChar, Option.some.injEq] at hread
  exact hread.symm

/-- The wording of a fault tells which fault it is, and which character is no digit. -/
theorem HexFault.message_injective : Function.Injective message := by
  have hdiffer : ∀ char, message (.notADigit char) ≠ message .oddCount := by
    intro char heq
    have hfirst := congrArg (fun text => text.toList.head?) heq
    simp [message] at hfirst
  intro first second heq
  cases first with
  | notADigit first =>
      cases second with
      | notADigit second =>
          rw [message, message, String.append_right_inj] at heq
          rw [showChar_injective heq]
      | oddCount => exact absurd heq (hdiffer first)
  | oddCount =>
      cases second with
      | notADigit second => exact absurd heq.symm (hdiffer second)
      | oddCount => rfl

/-! ## Exactness -/

/-- Octets are read from their written text, in whatever case its digits are and wherever separators
stand in it, and from no other text. A text gives octets exactly where besides separators it has an
even number of digits and nothing else. Otherwise the first character that is no digit is reported,
however many digits there are, and where there is none the odd count. The wording of a fault tells
which one it is. -/
theorem hex_text_is_exact :
    (∀ octets, readHex (hex octets) = .ok octets) ∧
    (∀ (octets : Octets) (text : String),
      readHex text = .ok octets ↔ Respelt (hex octets).toList text.toList) ∧
    (∀ text : String,
      let signs := signsIn text.toList
      ((∃ octets, readHex text = .ok octets) ↔
        Even signs.length ∧ ∀ sign ∈ signs, sign ∈ hexSigns) ∧
      (∀ before char after, signs = before ++ char :: after →
        (∀ sign ∈ before, sign ∈ hexSigns) → char ∉ hexSigns →
          readHex text = .error (.notADigit char)) ∧
      ((∀ sign ∈ signs, sign ∈ hexSigns) → ¬Even signs.length →
        readHex text = .error .oddCount)) ∧
    Function.Injective HexFault.message := by
  refine ⟨fun octets => readHex_eq_ok_iff_respelt.mpr (.refl _),
    fun octets text => readHex_eq_ok_iff_respelt, fun text => ⟨exists_readHex_iff text, ?_, ?_⟩,
    HexFault.message_injective⟩
  · intro before char after htext hbefore hchar
    exact readHex_of_stray htext hbefore hchar
  · intro hsigns hodd
    exact (readHex_of_signs hsigns).2 (Nat.mod_two_ne_zero.mp (mt Nat.even_iff.mpr hodd))

/-- A separator between the digits of an octet, a stray character in front of an odd count, and an
odd count alone. -/
theorem hex_text_is_exact_at_faults :
    readHex "7 E\x0c7d" = .ok [0x7E, 0x7D] ∧
      readHex "7 é1x" = .error (.notADigit 'é') ∧
      readHex "7\tE7" = .error .oddCount := by
  obtain ⟨-, hrespelt, htexts⟩ := hex_text_is_exact
  have hwritten : (hex [0x7E, 0x7D]).toList = ['7', 'e', '7', 'd'] := by decide +kernel
  refine ⟨(hrespelt _ _).mpr ?_, ?_, ?_⟩
  · rw [hwritten]
    exact .sign rfl (.separator (by decide) (.sign (by decide) (.separator (by decide)
      (.sign rfl (.sign rfl .nil)))))
  · exact (htexts.1 "7 é1x").2.1 ['7'] 'é' ['1', 'x'] (by decide +kernel)
      (List.forall_mem_singleton.mpr (by decide +kernel)) (by decide +kernel)
  · exact (htexts.1 "7\tE7").2.2 (List.all_iff_forall_prop.mp (by decide +kernel))
      (by decide +kernel)

end Hdlc.Text
