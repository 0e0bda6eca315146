import Hdlc.Octets

/-!
# Texts as octets and as lines

The octets of a text determine it (`ofUtf8?_utf8`) and are those of its parts in order. A text whose
lines are all ended by a line break, and hold no other, is cut into these lines
(`endedLines_flatMap`). A text without control characters has no octet that could be taken for one
(`ControlFree.le_of_mem_utf8`), so that its lines are the same to whoever looks at octets only.
-/

namespace Hdlc.Text

theorem utf8_append (first second : String) :
    utf8 (first ++ second) = utf8 first ++ utf8 second := by
  simp [utf8, String.toByteArray_append]

theorem utf8_join (texts : List String) : utf8 (String.join texts) = texts.flatMap utf8 := by
  induction texts with
  | nil => rfl
  | cons text rest ih => rw [String.join_cons, utf8_append, ih, List.flatMap_cons]

theorem utf8_eq_flatMap (text : String) :
    utf8 text = text.toList.flatMap String.utf8EncodeChar := by
  have hbytes : text.toByteArray = text.toList.utf8Encode := by
    rw [← String.toByteArray_ofList, String.ofList_toList]
  rw [utf8, String.toUTF8_eq_toByteArray, hbytes, List.utf8Encode, List.toList_data_toByteArray]

theorem ofUtf8?_eq_some_iff {octets : Octets} {text : String} :
    ofUtf8? octets = some text ↔ utf8 text = octets := by
  rw [ofUtf8?, String.fromUTF8?]
  constructor
  · intro hread
    split at hread
    next =>
      cases hread
      rfl
    next => cases hread
  · rintro rfl
    exact dif_pos text.isValidUTF8

/-- A text is read back from its octets. -/
@[simp]
theorem ofUtf8?_utf8 (text : String) : ofUtf8? (utf8 text) = some text :=
  ofUtf8?_eq_some_iff.mpr rfl

/-! ## Lines -/

/-- The lines of a text, unless the last of them is not ended. -/
def endedLines (text : List Char) : Option (List (List Char)) :=
  let parts := text.splitOn '\n'
  if parts.getLast? = some [] then some parts.dropLast else none

theorem splitOn_flatMap {α : Type} [BEq α] [LawfulBEq α] {mark : α} {lines : List (List α)}
    (hlines : ∀ line ∈ lines, mark ∉ line) :
    (lines.flatMap (· ++ [mark])).splitOn mark = lines ++ [[]] := by
  induction lines with
  | nil => exact List.splitOn_nil _
  | cons line rest ih =>
      obtain ⟨hline, hrest⟩ := List.forall_mem_cons.mp hlines
      rw [List.flatMap_cons, List.append_assoc, List.singleton_append,
        List.splitOn_append_cons_self, List.splitOn_eq_singleton hline, ih hrest]
      rfl

theorem endedLines_flatMap {lines : List (List Char)} (hlines : ∀ line ∈ lines, '\n' ∉ line) :
    endedLines (lines.flatMap (· ++ ['\n'])) = some lines := by
  rw [endedLines, splitOn_flatMap hlines]
  simp

/-! ## Control characters -/

/-- No character of the text comes before the space. -/
def ControlFree (text : List Char) : Prop :=
  ∀ char ∈ text, 0x20 ≤ char.toNat

instance (text : List Char) : Decidable (ControlFree text) :=
  List.decidableBAll _ text

theorem ControlFree.append {first second : List Char} (hfirst : ControlFree first)
    (hsecond : ControlFree second) : ControlFree (first ++ second) :=
  List.forall_mem_append.mpr ⟨hfirst, hsecond⟩

theorem ControlFree.newline_not_mem {text : List Char} (htext : ControlFree text) :
    '\n' ∉ text := by
  intro hmem
  exact absurd (htext '\n' hmem) (by decide)

theorem le_of_mem_utf8EncodeChar {char : Char} (hchar : 0x20 ≤ char.toNat) {octet : UInt8}
    (hoctet : octet ∈ String.utf8EncodeChar char) : 0x20 ≤ octet.toNat := by
  have hval : char.val.toNat = char.toNat := rfl
  -- The octets of a character that has several are all 128 or more.
  obtain ⟨value, hlow, hhigh, rfl⟩ :
      ∃ value, 0x20 ≤ value ∧ value < 256 ∧ octet = UInt8.ofNat value := by
    grind [String.utf8EncodeChar]
  rw [UInt8.toNat_ofNat', Nat.mod_eq_of_lt hhigh]
  exact hlow

/-- In octets, too, a text without control characters has none. -/
theorem ControlFree.le_of_mem_utf8 {text : String} (htext : ControlFree text.toList)
    {octet : UInt8} (hoctet : octet ∈ utf8 text) : 0x20 ≤ octet.toNat := by
  rw [utf8_eq_flatMap, List.mem_flatMap] at hoctet
  obtain ⟨char, hchar, hoctet⟩ := hoctet
  exact le_of_mem_utf8EncodeChar (htext char hchar) hoctet

end Hdlc.Text
