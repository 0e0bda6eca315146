import Hdlc.Proofs.Lines
import Hdlc.Text.Record
import Mathlib.Algebra.Group.Nat.Defs

/-!
# Reading records

Whoever is given the JSON form of a record can read the record back (`readRecord_toJson`): a quoted
text ends at its own quote, whatever it holds, and a number ends where its digits do. The form has
no line break, so that records on lines of their own are read back line by line
(`readRecords_lines`).
-/

namespace Hdlc.Text

/-! ## Reading -/

/-- The character that a letter behind a backslash stands for. -/
def marked? (mark : Char) : Option Char :=
  if mark = '\x22' then some '\x22'
  else if mark = '\x5c' then some '\x5c'
  else if mark = 'b' then some '\x08'
  else if mark = 'f' then some '\x0c'
  else if mark = 'n' then some '\n'
  else if mark = 'r' then some '\r'
  else if mark = 't' then some '\t'
  else none

/-- The number that further hexadecimal digits make of a value. -/
def extendHex? (value : Nat) (digits : List Char) : Option Nat :=
  digits.foldlM (fun value digit => (hexValue? digit).map (16 * value + ·)) value

/-- The text up to the quote that closes it, and what is behind the quote. -/
def unquote : List Char → Option (List Char × List Char)
  | [] => none
  | char :: rest =>
      if char = '\x22' then some ([], rest)
      else if char = '\x5c' then
        match rest with
        | 'u' :: first :: second :: third :: fourth :: rest =>
            match extendHex? 0 [first, second, third, fourth] with
            | some value => (unquote rest).map (Prod.map (Char.ofNat value :: ·) id)
            | none => none
        | mark :: rest =>
            match marked? mark with
            | some char => (unquote rest).map (Prod.map (char :: ·) id)
            | none => none
        | [] => none
      else if char.toNat < 0x20 then none
      else (unquote rest).map (Prod.map (char :: ·) id)

/-- The number whose decimal digits come first, and what is behind them. -/
def readDecimal (text : List Char) : Option (Nat × List Char) :=
  if text.takeWhile Char.isDigit = [] then none
  else
    some (Nat.ofDigitChars 10 (text.takeWhile Char.isDigit) 0, text.dropWhile Char.isDigit)

def readScalar : List Char → Option (Scalar × List Char)
  | '\x22' :: rest => (unquote rest).map (Prod.map (fun text => .text (String.ofList text)) id)
  | text => (readDecimal text).map (Prod.map .number id)

/-- A named value, and what is behind it. -/
def readField : List Char → Option ((String × Scalar) × List Char)
  | '\x22' :: rest =>
      match unquote rest with
      | some (name, ':' :: rest) => (readScalar rest).map (Prod.map (String.ofList name, ·) id)
      | _ => none
  | _ => none

theorem exists_of_map_eq_some {α β γ : Type} {found : Option (α × γ)} {change : α → β}
    {value : β} {behind : γ} (hmap : found.map (Prod.map change id) = some (value, behind)) :
    ∃ inner, found = some (inner, behind) := by
  obtain ⟨⟨inner, rest⟩, hfound, hpair⟩ := Option.map_eq_some_iff.mp hmap
  cases hpair
  exact ⟨inner, hfound⟩

theorem length_unquote {text read behind : List Char}
    (hread : unquote text = some (read, behind)) : behind.length < text.length := by
  fun_induction unquote text generalizing read with
  | case2 =>
      cases hread
      exact Nat.lt_succ_self _
  | case3 rest first second third fourth value _ _ ih =>
      obtain ⟨inner, hinner⟩ := exists_of_map_eq_some hread
      have hshorter := ih hinner
      simp only [List.length_cons]
      omega
  | case5 mark rest _ char _ _ ih =>
      obtain ⟨inner, hinner⟩ := exists_of_map_eq_some hread
      have hshorter := ih hinner
      simp only [List.length_cons]
      omega
  | case9 char rest _ _ _ ih =>
      obtain ⟨inner, hinner⟩ := exists_of_map_eq_some hread
      exact Nat.lt_succ_of_lt (ih hinner)
  -- In all other cases no text is read at all.
  | case1 | case4 | case6 | case7 | case8 => cases hread

theorem length_readScalar {text behind : List Char} {value : Scalar}
    (hread : readScalar text = some (value, behind)) : behind.length ≤ text.length := by
  unfold readScalar at hread
  split at hread
  next =>
    obtain ⟨inner, hinner⟩ := exists_of_map_eq_some hread
    exact Nat.le_succ_of_le (Nat.le_of_lt (length_unquote hinner))
  next =>
    obtain ⟨inner, hinner⟩ := exists_of_map_eq_some hread
    unfold readDecimal at hinner
    split at hinner
    next => cases hinner
    next =>
      cases hinner
      exact (List.dropWhile_suffix _).length_le

theorem length_readField {text behind : List Char} {field : String × Scalar}
    (hread : readField text = some (field, behind)) : behind.length < text.length := by
  unfold readField at hread
  split at hread
  next rest =>
    split at hread
    next name behind' hname =>
      obtain ⟨inner, hinner⟩ := exists_of_map_eq_some hread
      have hvalue := length_readScalar hinner
      have hquoted := length_unquote hname
      simp only [List.length_cons] at hquoted ⊢
      omega
    next => cases hread
  next => cases hread

/-- Named values with commas between them, up to the brace that closes them. -/
def readFields (text : List Char) : Option Record :=
  match _hfield : readField text with
  | some (field, ['\x7d']) => some [field]
  | some (field, ',' :: rest) => (readFields rest).map (field :: ·)
  | _ => none
termination_by text.length
decreasing_by exact Nat.lt_of_succ_lt (length_readField _hfield)

def readRecord : List Char → Option Record
  | ['\x7b', '\x7d'] => some []
  | '\x7b' :: rest => readFields rest
  | _ => none

/-- The records of a text that has one on each line. -/
def readRecords (octets : Octets) : Option (List Record) := do
  let text ← ofUtf8? octets
  let lines ← endedLines text.toList
  lines.mapM readRecord

/-! ## Reading back -/

theorem extendHex?_hexDigits (width value front : Nat) :
    extendHex? front (hexDigits width value) = some (16 ^ width * front + value % 16 ^ width) := by
  induction width generalizing value with
  | zero => simp [hexDigits, extendHex?, Nat.mod_one]
  | succ width ih =>
      have hdigit := hexValue?_hexDigit (value % 16) (Nat.mod_lt _ (by decide))
      have hsplit : value % 16 ^ (width + 1) = value % 16 + 16 * (value / 16 % 16 ^ width) := by
        rw [Nat.pow_succ', Nat.mod_mul]
      simp only [extendHex?] at ih ⊢
      rw [hexDigits, List.foldlM_append, ih, hsplit]
      simp only [bind, Option.bind, List.foldlM_cons, List.foldlM_nil, hdigit, Option.map_some,
        pure, Nat.pow_succ', Nat.mul_add, Nat.mul_assoc]
      congr 1
      omega

theorem extendHex?_control {char : Char} (hchar : char.toNat < 0x20) :
    extendHex? 0 (hexDigits 4 char.toNat) = some char.toNat := by
  rw [extendHex?_hexDigits, Nat.mul_zero, Nat.zero_add, Nat.mod_eq_of_lt (by omega)]

/-- The form of a character is read as that character. -/
theorem unquote_quoteChar (char : Char) (text : List Char) :
    unquote (quoteChar char ++ text) = (unquote text).map (Prod.map (char :: ·) id) := by
  unfold quoteChar
  split
  next hchar => rw [hchar]; rfl
  next hquote =>
    split
    next hchar => rw [hchar]; rfl
    next hbackslash =>
      split
      next hchar => rw [hchar]; rfl
      split
      next hchar => rw [hchar]; rfl
      split
      next hchar => rw [hchar]; rfl
      split
      next hchar => rw [hchar]; rfl
      split
      next hchar => rw [hchar]; rfl
      split
      next hcontrol =>
        have hvalue := extendHex?_control hcontrol
        simp only [hexDigits, List.nil_append, List.cons_append] at hvalue ⊢
        rw [unquote.eq_def]
        simp [hvalue]
      next hplain =>
        rw [List.singleton_append, unquote.eq_def]
        simp only [if_neg hquote, if_neg hbackslash, if_neg hplain]

theorem unquote_flatMap_quoteChar (text rest : List Char) :
    unquote (text.flatMap quoteChar ++ '\x22' :: rest) = some (text, rest) := by
  induction text with
  | nil =>
      rw [List.flatMap_nil, List.nil_append, unquote.eq_def]
      rfl
  | cons char text ih =>
      rw [List.flatMap_cons, List.append_assoc, unquote_quoteChar, ih]
      rfl

theorem toList_quote_append (text : String) (behind : List Char) :
    (quote text).toList ++ behind =
      '\x22' :: (text.toList.flatMap quoteChar ++ '\x22' :: behind) := by
  simp [quote]

/-- What is behind a number does not go on with a digit. -/
def EndsNumber (behind : List Char) : Prop :=
  ∀ char ∈ behind.head?, char.isDigit = false

theorem readDecimal_toString (value : Nat) {behind : List Char} (hbehind : EndsNumber behind) :
    readDecimal ((toString value).toList ++ behind) = some (value, behind) := by
  have hdigits : ∀ char ∈ Nat.toDigits 10 value, char.isDigit = true := fun char hchar =>
    Nat.isDigit_of_mem_toDigits (by decide) (by decide) hchar
  have htake : behind.takeWhile Char.isDigit = [] ∧ behind.dropWhile Char.isDigit = behind := by
    cases behind with
    | nil => exact ⟨rfl, rfl⟩
    | cons char rest =>
        have hchar : ¬char.isDigit = true := by simp [hbehind char rfl]
        exact ⟨List.takeWhile_cons_of_neg hchar, List.dropWhile_cons_of_neg hchar⟩
  rw [Nat.toString_eq_ofList_toDigits, String.toList_ofList, readDecimal,
    List.takeWhile_append_of_pos hdigits, List.dropWhile_append_of_pos hdigits, htake.1, htake.2,
    List.append_nil, if_neg Nat.toDigits_ne_nil, Nat.ofDigitChars_ten_toDigits]

theorem readScalar_toJson (value : Scalar) {behind : List Char} (hbehind : EndsNumber behind) :
    readScalar (value.toJson.toList ++ behind) = some (value, behind) := by
  cases value with
  | number value =>
      have hread := readDecimal_toString value hbehind
      unfold readScalar Scalar.toJson
      split
      next rest hquote =>
        dsimp only at hquote
        rw [hquote] at hread
        cases hread
      next =>
        rw [hread]
        rfl
  | text text =>
      rw [Scalar.toJson, toList_quote_append, readScalar, unquote_flatMap_quoteChar,
        Option.map_some, Prod.map, String.ofList_toList, id]

/-- The form of a named value. -/
def fieldForm (field : String × Scalar) : List Char :=
  (quote field.1 ++ ":" ++ field.2.toJson).toList

theorem readField_fieldForm (field : String × Scalar) {behind : List Char}
    (hbehind : EndsNumber behind) :
    readField (fieldForm field ++ behind) = some (field, behind) := by
  rw [fieldForm, String.append_assoc, String.toList_append, List.append_assoc,
    toList_quote_append, readField, unquote_flatMap_quoteChar, String.toList_append]
  simp only [show ":".toList = [':'] from rfl, List.cons_append, List.nil_append]
  rw [readScalar_toJson _ hbehind, Option.map_some, Prod.map, String.ofList_toList, id]

theorem readFields_of_last {text : List Char} {field : String × Scalar}
    (hread : readField text = some (field, ['\x7d'])) : readFields text = some [field] := by
  rw [readFields]
  split
  next hcase =>
    cases hcase.symm.trans hread
    rfl
  next hcase => cases hcase.symm.trans hread
  next hlast _ => exact absurd hread (hlast field)

theorem readFields_of_more {text rest : List Char} {field : String × Scalar}
    (hread : readField text = some (field, ',' :: rest)) :
    readFields text = (readFields rest).map (field :: ·) := by
  rw [readFields]
  split
  next hcase => cases hcase.symm.trans hread
  next hcase =>
    cases hcase.symm.trans hread
    rfl
  next _ hmore => exact absurd hread (hmore field rest)

theorem readFields_of_none {text : List Char} (hread : readField text = none) :
    readFields text = none := by
  rw [readFields]
  split
  next hcase => cases hcase.symm.trans hread
  next hcase => cases hcase.symm.trans hread
  next => rfl

theorem readFields_intercalate {record : Record} (hrecord : record ≠ []) :
    readFields ([','].intercalate (record.map fieldForm) ++ ['\x7d']) = some record := by
  induction record with
  | nil => exact absurd rfl hrecord
  | cons field record ih =>
      cases record with
      | nil =>
          -- A comma or a brace follows every value, so that numbers end where they should.
          rw [List.map_singleton, List.intercalate_singleton]
          exact readFields_of_last (readField_fieldForm field (by simp [EndsNumber]))
      | cons next record =>
          have hrest := ih (List.cons_ne_nil next record)
          rw [List.map_cons] at hrest
          rw [List.map_cons, List.map_cons, List.intercalate_cons_cons, List.append_assoc,
            List.append_assoc, List.singleton_append,
            readFields_of_more (readField_fieldForm field (by simp [EndsNumber])), hrest]
          rfl

theorem toList_toJson (record : Record) :
    record.toJson.toList =
      '\x7b' :: ([','].intercalate (record.map fieldForm) ++ ['\x7d']) := by
  rw [Record.toJson, String.toList_append, String.toList_append, String.toList_intercalate,
    List.map_map]
  rfl

/-- A record is read back from its form. -/
theorem readRecord_toJson (record : Record) : readRecord record.toJson.toList = some record := by
  rw [toList_toJson]
  by_cases hrecord : record = []
  · subst hrecord
    rfl
  · have hread := readFields_intercalate hrecord
    unfold readRecord
    split
    next hempty =>
      rw [(List.cons.inj hempty).2, readFields_of_none rfl] at hread
      cases hread
    next rest _ hrest =>
      rw [← (List.cons.inj hrest).2, hread]
    next hother => exact absurd rfl (hother _)

/-! ## Lines -/

theorem controlFree_hexDigits (width value : Nat) : ControlFree (hexDigits width value) := by
  have hdigit : ∀ value < 16, ControlFree [hexDigit value] := by decide
  induction width generalizing value with
  | zero => exact fun _ hchar => nomatch hchar
  | succ width ih => exact (ih _).append (hdigit _ (Nat.mod_lt _ (by decide)))

theorem controlFree_quoteChar (char : Char) : ControlFree (quoteChar char) := by
  unfold quoteChar
  -- Seven characters have a form of two that is fixed.
  iterate 7
    split
    · decide
  split
  next =>
    have hmark : ControlFree ['\x5c', 'u'] := by decide
    exact hmark.append (controlFree_hexDigits 4 char.toNat)
  next hplain =>
    intro shown hshown
    rw [List.mem_singleton.mp hshown]
    exact Nat.not_lt.mp hplain

theorem controlFree_quote (text : String) : ControlFree (quote text).toList := by
  have hmark : ControlFree ['\x22'] := by decide
  have hchars : ControlFree (text.toList.flatMap quoteChar) := by
    intro char hchar
    obtain ⟨shown, -, hform⟩ := List.mem_flatMap.mp hchar
    exact controlFree_quoteChar shown char hform
  rw [← List.append_nil (quote text).toList, toList_quote_append]
  exact hmark.append (hchars.append hmark)

theorem controlFree_scalar (value : Scalar) : ControlFree value.toJson.toList := by
  cases value with
  | number value =>
      intro char hchar
      rw [Scalar.toJson, Nat.toString_eq_ofList_toDigits, String.toList_ofList] at hchar
      have hdigit := Nat.isDigit_of_mem_toDigits (by decide) (by decide) hchar
      rw [Char.isDigit_iff_toNat] at hdigit
      exact Nat.le_trans (by decide) hdigit.1
  | text text => exact controlFree_quote text

theorem controlFree_fieldForm (field : String × Scalar) : ControlFree (fieldForm field) := by
  rw [fieldForm, String.toList_append, String.toList_append]
  exact ((controlFree_quote field.1).append (by decide)).append (controlFree_scalar field.2)

theorem controlFree_fieldForms (record : Record) :
    ControlFree ([','].intercalate (record.map fieldForm)) := by
  induction record with
  | nil => exact fun _ hchar => nomatch hchar
  | cons field record ih =>
      have hfield := controlFree_fieldForm field
      cases record with
      | nil =>
          rw [List.map_singleton, List.intercalate_singleton]
          exact hfield
      | cons next record =>
          rw [List.map_cons] at ih
          rw [List.map_cons, List.map_cons, List.intercalate_cons_cons]
          exact (hfield.append (by decide)).append ih

theorem controlFree_toJson (record : Record) : ControlFree record.toJson.toList := by
  rw [toList_toJson]
  have hopen : ControlFree ['\x7b'] := by decide
  exact hopen.append ((controlFree_fieldForms record).append (by decide))

theorem mapM_readRecord (records : List Record) :
    (records.map fun record => record.toJson.toList).mapM readRecord = some records := by
  induction records with
  | nil => rfl
  | cons record records ih =>
      rw [List.map_cons, List.mapM_cons, readRecord_toJson, ih]
      rfl

/-- Records on lines of their own are read back line by line. -/
theorem readRecords_lines (records : List Record) :
    readRecords (records.flatMap fun record => utf8 (record.toJson ++ "\n")) = some records := by
  have hoctets : (records.flatMap fun record => utf8 (record.toJson ++ "\n")) =
      utf8 (String.join (records.map fun record => record.toJson ++ "\n")) := by
    rw [utf8_join, List.flatMap_map]
  have hchars : (String.join (records.map fun record => record.toJson ++ "\n")).toList =
      (records.map fun record => record.toJson.toList).flatMap (· ++ ['\n']) := by
    rw [String.toList_join, List.flatMap_map, List.flatMap_map]
    congr 1
    funext record
    exact String.toList_append
  have hlines : ∀ line ∈ records.map fun record => record.toJson.toList, '\n' ∉ line := by
    intro line hline
    obtain ⟨record, -, rfl⟩ := List.mem_map.mp hline
    exact (controlFree_toJson record).newline_not_mem
  rw [hoctets, readRecords, ofUtf8?_utf8, Option.bind_eq_bind, Option.bind_some, hchars,
    endedLines_flatMap hlines]
  exact mapM_readRecord records

end Hdlc.Text
