import Hdlc.Proofs.Presentation

/-!
# One record on each line

JSON output has one line for each emission, in order, and no payload can end a line early or add
one: the lines hold no control character, so that octets equal to a line break are found at their
ends only. Each line is one compact object from which the record of its emission is read back
(`Emission.isShownOn_toJson`). What is read of a frame determines the frame if its payload is text
(`eq_of_untimed_frameRecord`).
-/

namespace Hdlc

namespace Text

/-- The octets are UTF-8. -/
def IsUtf8 (octets : Octets) : Prop :=
  ∃ text, utf8 text = octets

/-! ## Outside of quotes -/

/-- The characters of a text that are outside its quoted parts. -/
def outside : List Char → List Char
  | [] => []
  | char :: rest =>
      if char = '\x22' then
        match _hquoted : unquote rest with
        | some (_, behind) => outside behind
        | none => []
      else char :: outside rest
termination_by text => text.length
decreasing_by
  · exact Nat.lt_succ_of_lt (length_unquote _hquoted)
  · exact Nat.lt_succ_self _

/-- A digit or one of the marks that hold an object together. -/
def IsJoint (char : Char) : Prop :=
  char.isDigit = true ∨ char ∈ ['\x7b', '\x7d', ':', ',']

/-- Outside of its quoted parts, the text has digits and the marks of objects only. -/
def IsCompact (text : List Char) : Prop :=
  ∀ char ∈ outside text, IsJoint char

variable {behind : List Char}

theorem outside_quote_append (text : String) (behind : List Char) :
    outside ((quote text).toList ++ behind) = outside behind := by
  have hread := unquote_flatMap_quoteChar text.toList behind
  rw [toList_quote_append, outside, if_pos rfl]
  split
  next hquoted =>
    cases hquoted.symm.trans hread
    rfl
  next hquoted => cases hquoted.symm.trans hread

theorem IsCompact.quote_append (hbehind : IsCompact behind) (text : String) :
    IsCompact ((quote text).toList ++ behind) := by
  rw [IsCompact, outside_quote_append]
  exact hbehind

theorem IsCompact.cons {char : Char} (hbehind : IsCompact behind) (hchar : IsJoint char) :
    IsCompact (char :: behind) := by
  have hquote : char ≠ '\x22' := by
    rintro rfl
    simp [IsJoint] at hchar
  rw [IsCompact, outside, if_neg hquote]
  exact List.forall_mem_cons.mpr ⟨hchar, hbehind⟩

theorem IsCompact.digits_append {digits : List Char} (hbehind : IsCompact behind)
    (hdigits : ∀ char ∈ digits, char.isDigit = true) : IsCompact (digits ++ behind) := by
  induction digits with
  | nil => exact hbehind
  | cons digit digits ih =>
      obtain ⟨hdigit, hothers⟩ := List.forall_mem_cons.mp hdigits
      exact (ih hothers).cons (.inl hdigit)

theorem IsCompact.scalar_append (hbehind : IsCompact behind) (value : Scalar) :
    IsCompact (value.toJson.toList ++ behind) := by
  cases value with
  | number value =>
      rw [Scalar.toJson, Nat.toString_eq_ofList_toDigits, String.toList_ofList]
      exact hbehind.digits_append fun _ hchar =>
        Nat.isDigit_of_mem_toDigits (by decide) (by decide) hchar
  | text text => exact hbehind.quote_append text

theorem IsCompact.fieldForm_append (hbehind : IsCompact behind) (field : String × Scalar) :
    IsCompact (fieldForm field ++ behind) := by
  rw [fieldForm, String.append_assoc, String.toList_append, List.append_assoc,
    String.toList_append]
  exact ((hbehind.scalar_append field.2).cons (.inr (by decide))).quote_append field.1

theorem IsCompact.fieldForms_append (hbehind : IsCompact behind) (record : Record) :
    IsCompact ([','].intercalate (record.map fieldForm) ++ behind) := by
  induction record with
  | nil => exact hbehind
  | cons field record ih =>
      cases record with
      | nil =>
          rw [List.map_singleton, List.intercalate_singleton]
          exact hbehind.fieldForm_append field
      | cons next record =>
          rw [List.map_cons] at ih
          rw [List.map_cons, List.map_cons, List.intercalate_cons_cons, List.append_assoc,
            List.append_assoc]
          exact (ih.cons (.inr (by decide))).fieldForm_append field

/-- The form of a record is a compact object. -/
theorem isCompact_toJson (record : Record) : IsCompact record.toJson.toList := by
  have hnil : IsCompact [] := by simp [IsCompact, outside]
  rw [toList_toJson]
  exact ((hnil.cons (.inr (by decide))).fieldForms_append record).cons (.inr (by decide))

end Text

namespace Command

open Text (readRecord IsUtf8)

/-! ## Single lines -/

/-- A text shows a payload: it is the text of the payload or, if there is none, tells its size. -/
structure ShowsPayload (payload : Octets) (shown : String) : Prop where
  text : ∀ text, Text.utf8 text = payload → shown = text
  binary : ¬IsUtf8 payload → shown = "<binary " ++ toString payload.length ++ " bytes>"

/-- A line shows an emission at a time. It is one compact object without control characters, from
which the record of the emission is read back and, if it is a frame, also its payload. -/
structure Emission.IsShownOn (emission : Emission) (timestamp : String) (line : String) :
    Prop where
  controlFree : Text.ControlFree line.toList
  compact : Text.IsCompact line.toList
  record : readRecord line.toList = some (emission.record timestamp)
  payload : ∀ frame, emission = .frame frame → ∃ shown,
    (readRecord line.toList).bind (·.lookup "payload") = some (.text shown) ∧
      ShowsPayload frame.payload shown

/-- A record without the time that it shows. -/
def untimed (record : Text.Record) : Text.Record :=
  record.filter fun (name, _) => name != "timestamp"

theorem showsPayload_payloadText (payload : Octets) :
    ShowsPayload payload (Format.payloadText payload) where
  text := by
    rintro text rfl
    rw [Format.payloadText, Text.ofUtf8?_utf8, Option.getD_some]
  binary := by
    intro hbinary
    rw [Format.payloadText]
    cases hread : Text.ofUtf8? payload with
    | none => rfl
    | some text => exact absurd ⟨text, Text.ofUtf8?_eq_some_iff.mp hread⟩ hbinary

theorem Emission.isShownOn_toJson (emission : Emission) (timestamp : String) :
    emission.IsShownOn timestamp (emission.record timestamp).toJson where
  controlFree := Text.controlFree_toJson _
  compact := Text.isCompact_toJson _
  record := Text.readRecord_toJson _
  payload := by
    rintro frame rfl
    refine ⟨Format.payloadText frame.payload, ?_, showsPayload_payloadText frame.payload⟩
    rw [Text.readRecord_toJson]
    rfl

theorem payloadText_injective {first second : Octets} (hfirst : IsUtf8 first)
    (hsecond : IsUtf8 second) (hshown : Format.payloadText first = Format.payloadText second) :
    first = second := by
  obtain ⟨text, rfl⟩ := hfirst
  obtain ⟨other, rfl⟩ := hsecond
  rw [(showsPayload_payloadText _).text text rfl, (showsPayload_payloadText _).text other rfl]
    at hshown
  rw [hshown]

/-- What is read of a frame, apart from the time, is read of no other frame. -/
theorem eq_of_untimed_frameRecord {first second : Frame} {timestamp timestamp' : String}
    (hfirst : IsUtf8 first.payload) (hsecond : IsUtf8 second.payload)
    (hrecords : untimed (Format.frameRecord timestamp first) =
      untimed (Format.frameRecord timestamp' second)) : first = second := by
  obtain ⟨address, ⟨control⟩, payload⟩ := first
  obtain ⟨address', ⟨control'⟩, payload'⟩ := second
  have haddress : address.toNat = address'.toNat :=
    Text.Scalar.number.inj (Option.some.inj (congrArg (List.lookup "address") hrecords))
  have hcontrol : control.toNat = control'.toNat :=
    Text.Scalar.number.inj (Option.some.inj (congrArg (List.lookup "control") hrecords))
  have hpayload : Format.payloadText payload = Format.payloadText payload' :=
    Text.Scalar.text.inj (Option.some.inj (congrArg (List.lookup "payload") hrecords))
  obtain rfl : address = address' := UInt64.toNat_inj.mp haddress
  obtain rfl : control = control' := UInt8.toNat_inj.mp hcontrol
  obtain rfl : payload = payload' := payloadText_injective hfirst hsecond hpayload
  rfl

/-! ## Output -/

/-- The lines of JSON output, on which the clock tells the time of each emission. -/
def jsonLines (clock : Nat → String) (emissions : List Emission) : List String :=
  emissions.mapIdx fun index emission => (emission.record (clock index)).toJson

/-- While the clock stands still, the lines are those that the emissions have by themselves. -/
theorem flatMap_showEmission_json (timestamp : String) (emissions : List Emission) :
    emissions.flatMap (Format.json.showEmission timestamp) =
      (jsonLines (fun _ => timestamp) emissions).flatMap Format.line := by
  induction emissions with
  | nil => rfl
  | cons emission later ih =>
      rw [List.flatMap_cons, showEmission_json, ih, jsonLines, jsonLines, List.mapIdx_cons,
        List.flatMap_cons]
      rfl

theorem splitOn_newline_lines {lines : List String}
    (hlines : ∀ line ∈ lines, Text.ControlFree line.toList) :
    (lines.flatMap Format.line).splitOn 10 = lines.map Text.utf8 ++ [[]] := by
  have hline : ∀ line, Format.line line = Text.utf8 line ++ [10] := by
    intro line
    rw [Format.line, Text.utf8_append]
    rfl
  rw [funext hline, ← List.flatMap_map (f := Text.utf8) (g := (· ++ [10]))]
  apply Text.splitOn_flatMap
  intro octets hoctets hnewline
  obtain ⟨line, hmem, rfl⟩ := List.mem_map.mp hoctets
  exact absurd ((hlines line hmem).le_of_mem_utf8 hnewline) (by decide)

namespace DecodeOptions

/-- Rejections are put out if they are to be shown, and then all that were seen. -/
theorem countP_rejections (options : DecodeOptions) (taken : List Outcome) :
    (taken.filterMap options.emission?).countP (!·.isFrame) =
      if options.showErrors then taken.countP Outcome.isRejection else 0 := by
  have hshown : ∀ outcome : Outcome,
      ((options.emission? outcome).map (!·.isFrame)).getD false =
        (options.showErrors && outcome.isRejection) := by
    rintro ((reason | _ | _ | _) | frame)
    · rw [emission?]
      cases options.showErrors with
      | false => rfl
      | true => rfl
    · exact (Bool.and_false _).symm
    · exact (Bool.and_false _).symm
    · exact (Bool.and_false _).symm
    · rw [emission?, show Outcome.isRejection (.ok frame) = false from rfl, Bool.and_false]
      split
      next => rfl
      next => rfl
  rw [List.countP_filterMap, funext hshown]
  cases options.showErrors with
  | false => simp
  | true => simp

/-- One emission has been put out for each frame printed and each rejection shown. -/
theorem length_emissions (options : DecodeOptions) (source : Source) :
    (options.emissions source).length =
      (options.tally source).printed +
        if options.showErrors then (options.tally source).rejected else 0 := by
  obtain ⟨haccounts, -⟩ := readAll_accounts_from_start options source
  have hprinted := haccounts.printed
  have hrejected := haccounts.rejected
  rw [Nat.zero_add] at hprinted hrejected
  rw [List.length_eq_countP_add_countP Emission.isFrame, tally, reading, hprinted, hrejected,
    emissions_eq, ← countP_rejections]
  simp

theorem stdout_runOn_json (options : DecodeOptions) (timestamp : String) (files : Files)
    (source : Source) :
    (options.runOn .json timestamp files source).stdout =
      (jsonLines (fun _ => timestamp) (options.emissions source)).flatMap Format.line := by
  rw [stdout_runOn_eq_emissions, flatMap_showEmission_json]

/-- JSON output has a line for each frame printed and each rejection shown, in the order of the
stream, whatever the payloads hold: a line break is where a line ends and nowhere else, and from
each line, which is one compact object, the record of its emission is read back, also if the clock
moves on from line to line. Frames that differ and whose payloads are text differ on their lines in
more than the time. -/
theorem json_output_is_faithful (options : DecodeOptions) (source : Source)
    (clock : Nat → String) :
    let due := Source.outcomes options.limit .searching source.deliveries
    let emissions := options.emissions source
    let tally := options.tally source
    let lines := jsonLines clock emissions
    emissions = (options.seen options.nth due).filterMap options.emission? ∧
      lines.length = tally.printed + (if options.showErrors then tally.rejected else 0) ∧
      (lines.flatMap Format.line).splitOn 10 = lines.map Text.utf8 ++ [[]] ∧
      (∀ (index : Nat) (emission : Emission), emissions[index]? = some emission →
        ∃ line, lines[index]? = some line ∧ emission.IsShownOn (clock index) line) ∧
      (∀ (first second : Frame) (timestamp timestamp' : String),
        IsUtf8 first.payload → IsUtf8 second.payload → first ≠ second →
          let line := ((Emission.frame first).record timestamp).toJson.toList
          let line' := ((Emission.frame second).record timestamp').toJson.toList
          (readRecord line).map untimed ≠ (readRecord line').map untimed) ∧
      (∀ (timestamp : String) (files : Files),
        (options.runOn .json timestamp files source).stdout =
          (jsonLines (fun _ => timestamp) emissions).flatMap Format.line) ∧
      ∀ (invocation : Invocation) (surroundings : Surroundings),
        ({ invocation with action := .decode options, format := .json }.run surroundings).stdout =
          match options.openSource surroundings.stdin surroundings.files with
          | .ok opened =>
              (jsonLines (fun _ => surroundings.timestamp) (options.emissions opened)).flatMap
                Format.line
          | .error _ => [] := by
  intro due emissions tally lines
  refine ⟨emissions_eq options source, ?_, ?_, ?_, ?_, ?_, ?_⟩
  · rw [show lines.length = emissions.length from List.length_mapIdx]
    exact length_emissions options source
  · apply splitOn_newline_lines
    intro line hline
    obtain ⟨index, hindex, rfl⟩ := List.mem_mapIdx.mp hline
    exact Text.controlFree_toJson _
  · intro index emission hemission
    refine ⟨(emission.record (clock index)).toJson, ?_, emission.isShownOn_toJson _⟩
    rw [show lines[index]? = _ from List.getElem?_mapIdx, hemission]
    rfl
  · intro first second timestamp timestamp' hfirst hsecond hne line line' hlines
    rw [Text.readRecord_toJson, Text.readRecord_toJson] at hlines
    exact hne (eq_of_untimed_frameRecord hfirst hsecond (Option.some.inj hlines))
  · intro timestamp files
    exact stdout_runOn_json options timestamp files source
  · intro invocation surroundings
    simp only [Invocation.run, run]
    cases options.openSource surroundings.stdin surroundings.files with
    | error abort => rfl
    | ok opened => exact stdout_runOn_json options _ _ opened

/-- A rejection, a payload that would end its line and begin another, and one that is no text. -/
theorem json_output_is_faithful_on_forgery :
    let forged : Octets := [0x22, 0x7d, 10, 0x7b]
    let frame : Frame := ⟨1, ⟨3⟩, forged⟩
    let other : Frame := ⟨1, ⟨19⟩, forged⟩
    let binary : Frame := ⟨2, ⟨3⟩, [0xff]⟩
    let options : DecodeOptions := { showErrors := true }
    let source := Source.ofOctets ([flag, 1] ++ frame.encode ++ binary.encode)
    let stdout := (options.runOn .json "now" ⟨[], []⟩ source).stdout
    let line (frame : Frame) := ((Emission.frame frame).record "now").toJson.toList
    options.emissions source = [.rejection (.tooShort 1 6), .frame frame, .frame binary] ∧
      (stdout.splitOn 10).length = 3 + 1 ∧
      (∃ shown, (Emission.frame frame).IsShownOn "now" shown) ∧
      ¬IsUtf8 binary.payload ∧ IsUtf8 frame.payload ∧ IsUtf8 other.payload ∧ frame ≠ other ∧
      (readRecord (line frame)).map untimed ≠ (readRecord (line other)).map untimed := by
  intro forged frame other binary options source stdout line
  obtain ⟨hseen, hcount, hlines, hshown, hdiffer, hrun, -⟩ :=
    json_output_is_faithful options source fun _ => "now"
  have hdue : Source.outcomes options.limit .searching source.deliveries =
      [.error (.rejected (.tooShort 1 6)), .ok frame, .ok binary] := by
    decide +kernel
  have hemissions : options.emissions source =
      [.rejection (.tooShort 1 6), .frame frame, .frame binary] := by
    rw [hseen, hdue]
    decide
  have hutf8 : IsUtf8 forged := ⟨"\x22\x7d\n\x7b", by decide⟩
  have hbinary : ¬IsUtf8 binary.payload := by
    rintro ⟨text, htext⟩
    have hread := Text.ofUtf8?_eq_some_iff.mpr htext
    rw [show Text.ofUtf8? binary.payload = none by decide +kernel] at hread
    cases hread
  have hne : frame ≠ other := by decide
  refine ⟨hemissions, ?_, ?_, hbinary, hutf8, hutf8, hne, ?_⟩
  · rw [show stdout = _ from hrun "now" ⟨[], []⟩, hlines, hemissions]
    rfl
  · obtain ⟨shown, -, hisShown⟩ := hshown 1 (.frame frame) (by rw [hemissions]; rfl)
    exact ⟨shown, hisShown⟩
  · exact hdiffer frame other "now" "now" hutf8 hutf8 hne

end DecodeOptions

end Command

end Hdlc
