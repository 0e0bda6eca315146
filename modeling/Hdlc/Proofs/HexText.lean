import Hdlc.Text.Hex
import Mathlib.Data.List.Basic

/-!
# Reading hexadecimal text

A text gives octets in hexadecimal if it has two digits for each of them, the higher one first, and
besides these nothing but blanks. That is what reading finds, and it finds nothing else
(`readHex_eq_ok_iff`). A text gives one sequence of octets at most, and written text gives the
octets that were written (`givesHex_hex`).
-/

namespace Hdlc.Text

/-- The values of the two digits of an octet. -/
def digitValues (octet : UInt8) : List Nat :=
  [octet.toNat / 16, octet.toNat % 16]

/-- Blanks left out, the text consists of the digits of the octets, each of either case. -/
def GivesHex (text : String) (octets : Octets) : Prop :=
  (text.toList.filter fun char => !isAsciiBlank char).map hexValue? =
    (octets.flatMap digitValues).map some

instance (text : String) (octets : Octets) : Decidable (GivesHex text octets) :=
  inferInstanceAs (Decidable (_ = _))

theorem hexValue?_lt {char : Char} {value : Nat} (hvalue : hexValue? char = some value) :
    value < 16 := by
  grind [hexValue?]

/-- Values are found exactly where every character is a digit. -/
theorem hexValues_eq_ok_iff {values : Array Nat} {chars : List Char} {found : List Nat} :
    hexValues values chars = .ok found ↔
      ∃ more : List Nat, chars.map hexValue? = more.map some ∧ found = values.toList ++ more := by
  fun_induction hexValues values chars with
  | case1 values =>
      constructor
      · intro hfound
        cases hfound
        exact ⟨[], rfl, (List.append_nil _).symm⟩
      · rintro ⟨more, hmore, rfl⟩
        rw [List.map_eq_nil_iff.mp hmore.symm, List.append_nil]
  | case2 values char rest value hvalue ih =>
      rw [ih]
      constructor
      · rintro ⟨more, hmore, rfl⟩
        refine ⟨value :: more, ?_, by simp⟩
        rw [List.map_cons, hvalue, hmore, List.map_cons]
      · rintro ⟨more, hmore, rfl⟩
        cases more with
        | nil => cases hmore
        | cons first more =>
            rw [List.map_cons, List.map_cons, hvalue] at hmore
            obtain ⟨hfirst, hrest⟩ := List.cons.inj hmore
            cases hfirst
            exact ⟨more, hrest, by simp⟩
  | case3 values char rest hvalue =>
      constructor
      · intro hfound
        cases hfound
      · rintro ⟨more, hmore, -⟩
        cases more with
        | nil => cases hmore
        | cons first more =>
            rw [List.map_cons, List.map_cons, hvalue] at hmore
            cases (List.cons.inj hmore).1

theorem pairDigits_flatMap_digitValues (front : Array UInt8) (octets : Octets) :
    pairDigits front (octets.flatMap digitValues) = .ok (front.toList ++ octets) := by
  induction octets generalizing front with
  | nil => rw [List.flatMap_nil, pairDigits, List.append_nil]
  | cons octet octets ih =>
      have hpair : UInt8.ofNat (16 * (octet.toNat / 16) + octet.toNat % 16) = octet := by
        rw [Nat.div_add_mod, UInt8.ofNat_toNat]
      rw [List.flatMap_cons, digitValues, List.cons_append, List.cons_append, pairDigits, hpair,
        List.nil_append, ih, Array.toList_push, List.append_assoc, List.singleton_append]

/-- Paired values are those of the digits of the octets they come to. -/
theorem eq_flatMap_digitValues_of_pairDigits {front : Array UInt8} {values : List Nat}
    {octets : Octets} (hvalues : ∀ value ∈ values, value < 16)
    (hpairs : pairDigits front values = .ok octets) :
    ∃ more : Octets, values = more.flatMap digitValues ∧ octets = front.toList ++ more := by
  fun_induction pairDigits front values with
  | case1 front =>
      cases hpairs
      exact ⟨[], rfl, (List.append_nil _).symm⟩
  | case2 front value => cases hpairs
  | case3 front high low rest ih =>
      have hhigh : high < 16 := hvalues high (by simp)
      have hlow : low < 16 := hvalues low (by simp)
      have hrest : ∀ value ∈ rest, value < 16 := fun value hvalue =>
        hvalues value (List.mem_cons_of_mem _ (List.mem_cons_of_mem _ hvalue))
      obtain ⟨more, rfl, rfl⟩ := ih hrest hpairs
      have hdigits : digitValues (UInt8.ofNat (16 * high + low)) = [high, low] := by
        have hoctet : (UInt8.ofNat (16 * high + low)).toNat = 16 * high + low := by
          rw [UInt8.toNat_ofNat']
          omega
        have hfirst : (16 * high + low) / 16 = high := by omega
        have hsecond : (16 * high + low) % 16 = low := by omega
        rw [digitValues, hoctet, hfirst, hsecond]
      refine ⟨UInt8.ofNat (16 * high + low) :: more, ?_, by simp⟩
      rw [List.flatMap_cons, hdigits]
      rfl

/-- Reading finds exactly the octets that a text gives. -/
theorem readHex_eq_ok_iff {text : String} {octets : Octets} :
    readHex text = .ok octets ↔ GivesHex text octets := by
  rw [GivesHex, readHex]
  constructor
  · intro hread
    cases hvalues : hexValues #[] (text.toList.filter fun char => !isAsciiBlank char) with
    | error fault =>
        rw [hvalues] at hread
        cases hread
    | ok values =>
        rw [hvalues] at hread
        obtain ⟨found, hdigits, hfound⟩ := hexValues_eq_ok_iff.mp hvalues
        rw [Array.toList_empty, List.nil_append] at hfound
        subst hfound
        have hsmall : ∀ value ∈ values, value < 16 := by
          intro value hvalue
          have hmem : some value ∈ values.map some := List.mem_map_of_mem hvalue
          rw [← hdigits] at hmem
          obtain ⟨char, -, hchar⟩ := List.mem_map.mp hmem
          exact hexValue?_lt hchar
        obtain ⟨more, hmore, rfl⟩ := eq_flatMap_digitValues_of_pairDigits hsmall hread
        rw [hdigits, hmore]
  · intro hgives
    rw [hexValues_eq_ok_iff.mpr ⟨_, hgives, rfl⟩]
    exact pairDigits_flatMap_digitValues #[] octets

theorem GivesHex.unique {text : String} {octets others : Octets} (hoctets : GivesHex text octets)
    (hothers : GivesHex text others) : octets = others :=
  Except.ok.inj ((readHex_eq_ok_iff.mpr hoctets).symm.trans (readHex_eq_ok_iff.mpr hothers))

theorem GivesHex.append {first second : String} {front behind : Octets}
    (hfirst : GivesHex first front) (hsecond : GivesHex second behind) :
    GivesHex (first ++ second) (front ++ behind) := by
  rw [GivesHex] at hfirst hsecond ⊢
  rw [String.toList_append, List.filter_append, List.map_append, hfirst, hsecond,
    List.flatMap_append, List.map_append]

theorem isAsciiBlank_hexDigit : ∀ value < 16, isAsciiBlank (hexDigit value) = false := by
  decide

theorem map_hexValue?_octetDigits (octet : UInt8) :
    (octetDigits octet).map hexValue? = (digitValues octet).map some := by
  have hoctet : octet.toNat < 256 := octet.toNat_lt
  rw [octetDigits, digitValues, List.map_cons, List.map_cons, List.map_nil,
    hexValue?_hexDigit _ (by omega), hexValue?_hexDigit _ (by omega)]
  rfl

theorem not_isAsciiBlank_of_mem_octetDigits {octet : UInt8} {char : Char}
    (hchar : char ∈ octetDigits octet) : isAsciiBlank char = false := by
  have hoctet : octet.toNat < 256 := octet.toNat_lt
  rw [octetDigits, List.mem_pair] at hchar
  rcases hchar with rfl | rfl
  · exact isAsciiBlank_hexDigit _ (by omega)
  · exact isAsciiBlank_hexDigit _ (by omega)

/-- Written text gives what was written. -/
theorem givesHex_hex (octets : Octets) : GivesHex (hex octets) octets := by
  have hfilter : ((hex octets).toList.filter fun char => !isAsciiBlank char) =
      octets.flatMap octetDigits := by
    rw [hex, String.toList_ofList, List.filter_eq_self]
    intro char hchar
    obtain ⟨octet, -, hdigit⟩ := List.mem_flatMap.mp hchar
    rw [not_isAsciiBlank_of_mem_octetDigits hdigit]
    rfl
  rw [GivesHex, hfilter, List.map_flatMap, List.map_flatMap]
  exact congrArg (octets.flatMap ·) (funext map_hexValue?_octetDigits)

end Hdlc.Text
