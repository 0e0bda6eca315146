import Hdlc.Proofs.Commitment
import Hdlc.Proofs.Presentation
import Hdlc.Proofs.Resync
import Mathlib.Data.List.Forall2

/-!
# Captures

Frames that are encoded one by one may be collected in several ways: as raw output, in output files,
or as the hexadecimal text that other formats show. All of them denote the wire form of the frame
(`Encoding.Calls.delivers`). So a stream put together from them, whichever way each was collected,
decodes to the frames in order and nothing else (`captures_decode_to_their_frames`).
-/

namespace Hdlc.Command

open Text (readRecords GivesHex)

/-! ## Encodings -/

/-- A frame that is to be encoded among some files. -/
structure Encoding where
  options : EncodeOptions
  files : Files
  frame : Frame

namespace Encoding

def run (encoding : Encoding) (format : Format) : Result :=
  encoding.options.run format encoding.files

/-- The options call for the frame under a limit that admits it, and can be met. -/
structure Calls (encoding : Encoding) (limit : Nat) : Prop where
  address : encoding.options.address = encoding.frame.address
  control : encoding.options.control = encoding.frame.control
  payload : encoding.options.payload.Gives encoding.files encoding.frame.payload
  bound : encoding.options.limit = limit
  size : encoding.frame.contentSize ≤ limit
  output : ∀ path, encoding.options.output = some path →
    ∃ location, encoding.files.Admits path location

/-- All ways of collecting what is encoded come to the wire form of the frame. -/
structure Delivers (encoding : Encoding) : Prop where
  exit : ∀ format, (encoding.run format).exit.code = 0
  raw : encoding.options.output = none → (encoding.run .raw).stdout = encoding.frame.encode
  file : ∀ path, encoding.options.output = some path → ∀ format,
    (encoding.run format).files.read path = .ok encoding.frame.encode
  json : ∃ record text, readRecords (encoding.run .json).stdout = some [record] ∧
    record.lookup "wire" = some (.text text) ∧ GivesHex text encoding.frame.encode
  pretty : ∃ text, Text.ofUtf8? (encoding.run .pretty).stdout = some text ∧
    GivesHex text encoding.frame.encode

/-- The octets can be collected from what the encoding puts out. -/
inductive Yields (encoding : Encoding) : Octets → Prop
  | raw (houtput : encoding.options.output = none) : Yields encoding (encoding.run .raw).stdout
  | file {path : String} {format : Format} {octets : Octets}
      (houtput : encoding.options.output = some path)
      (hread : (encoding.run format).files.read path = .ok octets) : Yields encoding octets
  | json {record : Text.Record} {text : String} {octets : Octets}
      (hrecord : readRecords (encoding.run .json).stdout = some [record])
      (hwire : record.lookup "wire" = some (.text text)) (htext : GivesHex text octets) :
      Yields encoding octets
  | pretty {text : String} {octets : Octets}
      (hshown : Text.ofUtf8? (encoding.run .pretty).stdout = some text)
      (htext : GivesHex text octets) : Yields encoding octets

variable {encoding : Encoding} {limit : Nat} {octets : Octets}

theorem Calls.callsFor (hcalls : encoding.Calls limit) :
    encoding.options.CallsFor encoding.files encoding.frame := by
  have hframe : encoding.options.frame encoding.frame.payload = encoding.frame := by
    rw [EncodeOptions.frame, hcalls.address, hcalls.control]
  rw [← hframe]
  exact EncodeOptions.callsFor_of_gives hcalls.payload

theorem Calls.run_eq (hcalls : encoding.Calls limit) (format : Format) :
    (encoding.run format).exit = .success ∧
      (encoding.run format).stdout =
        encoding.options.stdout format encoding.frame encoding.frame.encode ∧
      ∀ path, encoding.options.output = some path →
        (encoding.run format).files.read path = .ok encoding.frame.encode := by
  have hsize : encoding.frame.contentSize ≤ encoding.options.limit := by
    rw [hcalls.bound]
    exact hcalls.size
  rw [run]
  cases houtput : encoding.options.output with
  | none =>
      rw [EncodeOptions.run_of_output_eq_none hcalls.callsFor hsize houtput]
      exact ⟨rfl, rfl, fun path hpath => nomatch hpath⟩
  | some path =>
      obtain ⟨location, hadmits⟩ := hcalls.output path houtput
      rw [EncodeOptions.run_of_admits hcalls.callsFor hsize houtput hadmits]
      refine ⟨rfl, rfl, ?_⟩
      rintro path ⟨⟩
      exact Files.read_put hadmits _

/-- Whatever an encoding puts out denotes the wire form of its frame. -/
theorem Calls.delivers (hcalls : encoding.Calls limit) : encoding.Delivers where
  exit format := by
    rw [(hcalls.run_eq format).1]
    rfl
  raw houtput := by
    rw [(hcalls.run_eq .raw).2.1, EncodeOptions.stdout, houtput]
    rfl
  file path houtput format := (hcalls.run_eq format).2.2 path houtput
  json := by
    have hstdout : (encoding.run .json).stdout =
        [Format.encodedRecord encoding.frame encoding.frame.encode].flatMap
          fun record => Text.utf8 (record.toJson ++ "\n") := by
      rw [(hcalls.run_eq .json).2.1, EncodeOptions.stdout, if_neg (by simp), List.flatMap_singleton]
      rfl
    refine ⟨Format.encodedRecord encoding.frame encoding.frame.encode,
      Text.hex encoding.frame.encode, ?_, rfl, Text.givesHex_hex _⟩
    rw [hstdout, Text.readRecords_lines]
  pretty := by
    have hblank : GivesHex "\n" [] := by decide
    have hline := (Text.givesHex_hex encoding.frame.encode).append hblank
    rw [List.append_nil] at hline
    refine ⟨Text.hex encoding.frame.encode ++ "\n", ?_, hline⟩
    rw [(hcalls.run_eq .pretty).2.1, EncodeOptions.stdout, if_neg (by simp)]
    exact Text.ofUtf8?_utf8 _

theorem Delivers.eq_encode (hdelivers : encoding.Delivers) (hyields : encoding.Yields octets) :
    octets = encoding.frame.encode := by
  cases hyields with
  | raw houtput => exact hdelivers.raw houtput
  | file houtput hread =>
      exact Except.ok.inj (hread.symm.trans (hdelivers.file _ houtput _))
  | json hrecord hwire htext =>
      obtain ⟨record, text, hrecord', hwire', htext'⟩ := hdelivers.json
      cases hrecord.symm.trans hrecord'
      cases hwire.symm.trans hwire'
      exact htext.unique htext'
  | pretty hshown htext =>
      obtain ⟨text, hshown', htext'⟩ := hdelivers.pretty
      cases hshown.symm.trans hshown'
      exact htext.unique htext'

end Encoding

/-! ## Decoding -/

/-- The octets are what a decoding reads: standard input, or the file that its path leads to. -/
inductive DecodeOptions.Reads (options : DecodeOptions) (surroundings : Surroundings) :
    Octets → Prop
  | stdin (hpath : options.path = "-") : Reads options surroundings surroundings.stdin
  | file {octets : Octets} (hpath : options.path ≠ "-")
      (hread : surroundings.files.read options.path = .ok octets) :
      Reads options surroundings octets

namespace DecodeOptions

variable {options : DecodeOptions} {surroundings : Surroundings} {frames : List Frame}

theorem run_of_reads {octets : Octets} (hreads : options.Reads surroundings octets)
    (format : Format) :
    options.run format surroundings.timestamp surroundings.stdin surroundings.files =
      options.runOn format surroundings.timestamp surroundings.files (.ofOctets octets) := by
  cases hreads with
  | stdin hpath => rw [run, openSource, if_pos hpath]
  | file hpath hread =>
      rw [run, openSource, if_neg hpath, Files.openSource_of_read hread]
      rfl

theorem throughNth_none (wanted : Outcome → Bool) (outcomes : List Outcome) :
    throughNth wanted none outcomes = outcomes := by
  induction outcomes with
  | nil => rfl
  | cons outcome later ih => simp [throughNth, ih]

/-- A stream of encoded frames brings about these frames, and then at most its end. -/
theorem outcomes_ofOctets_flatMap_encode {limit : Nat}
    (hlimit : ∀ frame ∈ frames, frame.contentSize ≤ limit) :
    ∃ behind, (behind = [] ∨ behind = [.error .closed]) ∧
      Source.outcomes limit .searching (Source.ofOctets (frames.flatMap Frame.encode)).deliveries =
        frames.map .ok ++ behind := by
  cases frames with
  | nil => exact ⟨[.error .closed], .inr rfl, rfl⟩
  | cons frame frames =>
      refine ⟨[], .inl rfl, ?_⟩
      have hstream : (frame :: frames).flatMap Frame.encode ≠ [] := by
        rw [List.flatMap_cons]
        exact List.append_ne_nil_of_left_ne_nil (List.cons_ne_nil _ _) _
      rw [Source.ofOctets, Source.outcomes_octets hstream,
        Decoder.State.feed_flatMap_encode hlimit, List.map_map]
      rfl

theorem seen_flatMap_encode (hlimit : ∀ frame ∈ frames, frame.contentSize ≤ options.limit)
    (hcount : options.count = none) :
    let due := Source.outcomes options.limit .searching
      (Source.ofOctets (frames.flatMap Frame.encode)).deliveries
    options.seen options.nth due = frames.map .ok ∧ options.ending options.nth due = .ok () := by
  intro due
  have hnth : options.nth = none := by rw [nth, hcount, Option.map_none]
  have hverdicts : ∀ outcome : Outcome, outcome ∈ frames.map .ok → outcome.isVerdict = true := by
    intro outcome houtcome
    obtain ⟨frame, -, rfl⟩ := List.mem_map.mp houtcome
    rfl
  obtain ⟨behind, hbehind, hdue⟩ := outcomes_ofOctets_flatMap_encode hlimit
  rw [show due = _ from hdue, hnth]
  constructor
  · rw [seen, throughNth_none, List.takeWhile_append_of_pos hverdicts]
    rcases hbehind with rfl | rfl
    · rw [List.takeWhile_nil, List.append_nil]
    · rw [List.takeWhile_cons_of_neg Bool.false_ne_true, List.append_nil]
  · have hnone : (frames.map .ok).find? (fun outcome : Outcome => !outcome.isVerdict) = none := by
      rw [List.find?_eq_none]
      intro outcome houtcome
      simp [hverdicts outcome houtcome]
    rw [ending, isServed, Option.any_none, if_neg Bool.false_ne_true, List.find?_append, hnone,
      Option.none_or]
    rcases hbehind with rfl | rfl
    · rfl
    · rfl

/-- Where all frames are asked for, each of them is put out. -/
theorem filterMap_emission? (haddress : options.address = none) (hcount : options.count = none)
    (frames : List Frame) :
    (frames.map .ok).filterMap options.emission? = frames.map Emission.frame := by
  have hemission : ∀ frame, options.emission? (.ok frame) = some (.frame frame) := by
    intro frame
    rw [emission?, if_pos]
    simp [selects, haddress, hcount]
  rw [List.filterMap_map, ← List.filterMap_eq_map]
  exact congrArg (frames.filterMap ·) (funext hemission)

/-- A stream of encoded frames is decoded to its end, and to these frames alone. -/
theorem reading_flatMap_encode (hlimit : ∀ frame ∈ frames, frame.contentSize ≤ options.limit)
    (haddress : options.address = none) (hcount : options.count = none) :
    let source := Source.ofOctets (frames.flatMap Frame.encode)
    (options.reading source).2 = .ok () ∧ options.emissions source = frames.map .frame ∧
      options.tally source = ⟨frames.length, frames.length, 0⟩ := by
  intro source
  obtain ⟨haccounts, hends⟩ := readAll_accounts_from_start options source
  obtain ⟨hseen, hending⟩ := seen_flatMap_encode hlimit hcount
  have hemissions := filterMap_emission? haddress hcount frames
  rw [hseen] at haccounts
  have hdecoded : (frames.map .ok).countP Outcome.isFrame = frames.length := by
    rw [List.countP_map]
    exact List.countP_eq_length.mpr fun _ _ => rfl
  have hprinted : (frames.map .frame).countP Emission.isFrame = frames.length := by
    rw [List.countP_map]
    exact List.countP_eq_length.mpr fun _ _ => rfl
  have hrejected : (frames.map .ok).countP Outcome.isRejection = 0 := by
    rw [List.countP_map]
    exact List.countP_eq_zero.mpr fun _ _ => Bool.false_ne_true
  refine ⟨hends.trans hending, ?_, ?_⟩
  · rw [emissions_eq, hseen, hemissions]
  · rw [tally, reading, Tally.mk.injEq, haccounts.decoded, haccounts.printed, haccounts.rejected,
      hemissions, hdecoded, hprinted, hrejected]
    exact ⟨Nat.zero_add _, Nat.zero_add _, rfl⟩

theorem runOn_of_reading {source : Source} (hending : (options.reading source).2 = .ok ())
    (format : Format) (timestamp : String) (files : Files) :
    let result := options.runOn format timestamp files source
    result.exit = options.exit (options.tally source) ∧
      .decodeFinished (options.tally source) ∈ result.notices := by
  simp only [reading] at hending
  rw [runOn]
  dsimp only
  rw [hending]
  exact ⟨rfl, by simp [Progress.notice, tally, reading]⟩

end DecodeOptions

/-! ## Captures -/

/-- The record tells of a frame with the address, the control octet and the payload size of the
given one. -/
structure TellsOf (frame : Frame) (record : Text.Record) : Prop where
  schema : record.lookup "schema_id" = some (Format.schema "frame-decoded")
  address : record.lookup "address" = some (.number frame.address.toNat)
  control : record.lookup "control" = some (.number frame.control.octet.toNat)
  payloadSize : record.lookup "payload_size" = some (.number frame.payload.length)

theorem tellsOf_frameRecord (timestamp : String) (frame : Frame) :
    TellsOf frame (Format.frameRecord timestamp frame) :=
  ⟨rfl, rfl, rfl, rfl⟩

theorem flatten_captures {encodings : List Encoding} {captures : List Octets}
    (hdelivers : ∀ encoding ∈ encodings, encoding.Delivers)
    (hyields : List.Forall₂ Encoding.Yields encodings captures) :
    captures.flatten = (encodings.map Encoding.frame).flatMap Frame.encode := by
  induction hyields with
  | nil => rfl
  | cons hyield _ ih =>
      obtain ⟨hdeliver, hothers⟩ := List.forall_mem_cons.mp hdelivers
      rw [List.flatten_cons, hdeliver.eq_encode hyield, ih hothers, List.map_cons,
        List.flatMap_cons]

/-- Whatever encodings put out, as raw output, into a file or as hexadecimal text, denotes the wire
forms of their frames. Put together they are decoded, from standard input or from a file, to these
frames in order and no rejection: raw output is the payloads one behind the other, and JSON output
has one record for each frame. -/
theorem captures_decode_to_their_frames {limit : Nat} {encodings : List Encoding}
    (hcalls : ∀ encoding ∈ encodings, encoding.Calls limit) :
    (∀ encoding ∈ encodings, encoding.Delivers) ∧
      ∀ (captures : List Octets) (options : DecodeOptions) (surroundings : Surroundings),
        List.Forall₂ Encoding.Yields encodings captures →
        options.limit = limit → options.address = none → options.count = none →
        options.Reads surroundings captures.flatten →
        let decode (format : Format) :=
          options.run format surroundings.timestamp surroundings.stdin surroundings.files
        (∀ format, (decode format).exit.code = 0 ∧
            .decodeFinished ⟨encodings.length, encodings.length, 0⟩ ∈ (decode format).notices) ∧
          (decode .raw).stdout = encodings.flatMap (·.frame.payload) ∧
          ∃ records, readRecords (decode .json).stdout = some records ∧
            List.Forall₂ (fun encoding record => TellsOf encoding.frame record) encodings
              records := by
  have hdelivers : ∀ encoding ∈ encodings, encoding.Delivers := fun encoding hencoding =>
    (hcalls encoding hencoding).delivers
  refine ⟨hdelivers, ?_⟩
  intro captures options surroundings hyields hlimit haddress hcount hreads decode
  have hsize : ∀ frame ∈ encodings.map Encoding.frame, frame.contentSize ≤ options.limit := by
    intro frame hframe
    obtain ⟨encoding, hencoding, rfl⟩ := List.mem_map.mp hframe
    rw [hlimit]
    exact (hcalls encoding hencoding).size
  rw [flatten_captures hdelivers hyields] at hreads
  have hdecode : ∀ format, decode format = _ := DecodeOptions.run_of_reads hreads
  obtain ⟨hending, hemissions, htally⟩ :=
    DecodeOptions.reading_flatMap_encode hsize haddress hcount
  rw [List.length_map] at htally
  refine ⟨?_, ?_, ?_⟩
  · intro format
    obtain ⟨hexit, hfinished⟩ := DecodeOptions.runOn_of_reading hending format
      surroundings.timestamp surroundings.files
    rw [htally] at hexit hfinished
    rw [hdecode, hexit]
    refine ⟨?_, hfinished⟩
    simp [DecodeOptions.exit, Exit.code]
  · rw [hdecode, DecodeOptions.stdout_runOn_eq_emissions, hemissions, List.flatMap_map,
      List.flatMap_map]
    rfl
  · refine ⟨encodings.map fun encoding =>
      Format.frameRecord surroundings.timestamp encoding.frame, ?_, ?_⟩
    · rw [hdecode, DecodeOptions.stdout_runOn_eq_emissions, hemissions, readRecords_showEmission,
        List.map_map, List.map_map]
      rfl
    · rw [List.forall₂_map_right_iff, List.forall₂_same]
      exact fun encoding _ => tellsOf_frameRecord _ _

/-- A payload of reserved octets given in hexadecimal and put out raw, and one read from the file
that the wire form then replaces, decoded together with failure on any rejection. -/
theorem captures_decode_to_their_frames_from_stdout_and_file :
    let first : Encoding :=
      { options := { address := 1, payload := .hex "7d 7E", limit := 9 }
        files := ⟨[], []⟩
        frame := ⟨1, ⟨3⟩, [escapeMark, flag]⟩ }
    let second : Encoding :=
      { options :=
          { address := 300
            control := ⟨19⟩
            payload := .file "o"
            output := some "o"
            limit := 9 }
        files := ⟨[(["o"], .file [1, 2])], []⟩
        frame := ⟨300, ⟨19⟩, [1, 2]⟩ }
    let captures := [first.frame.encode, second.frame.encode]
    let options : DecodeOptions := { limit := 9, showErrors := true, failOnError := true }
    let result := options.run .raw "now" captures.flatten ⟨[], []⟩
    (∀ encoding ∈ [first, second], encoding.Calls 9) ∧
      List.Forall₂ Encoding.Yields [first, second] captures ∧
      result.exit.code = 0 ∧ result.stdout = [escapeMark, flag, 1, 2] := by
  intro first second captures options result
  have hfirst : first.Calls 9 := by
    refine ⟨rfl, rfl, .hex (by decide), rfl, ?_, ?_⟩
    · decide +kernel
    · intro path hpath
      cases hpath
  have hsplit : "o".splitOn "/" = ["o"] := by
    rw [String.splitOn, if_neg (by decide), String.splitOnAux, if_neg (by decide),
      if_neg (by decide), String.splitOnAux, if_pos (by decide)]
    decide
  have htarget : second.files.target "o" = .ok (.entry ["o"] false) :=
    Files.target_of_splitOn (by decide) hsplit (by decide)
  have hread : second.files.read "o" = .ok [1, 2] := by
    rw [Files.read, Files.find, htarget]
    rfl
  have hsecond : second.Calls 9 := by
    refine ⟨rfl, rfl, .file hread, rfl, by decide +kernel, ?_⟩
    rintro path ⟨⟩
    exact ⟨["o"], htarget, by decide, by decide⟩
  have hcalls : ∀ encoding ∈ [first, second], encoding.Calls 9 := by
    simp [hfirst, hsecond]
  obtain ⟨-, hdecodes⟩ := captures_decode_to_their_frames hcalls
  have hyields : List.Forall₂ Encoding.Yields [first, second] captures := by
    refine .cons ?_ (.cons ?_ .nil)
    · rw [← hfirst.delivers.raw rfl]
      exact .raw rfl
    · exact .file rfl (hsecond.delivers.file "o" rfl .table)
  obtain ⟨hends, hraw, -⟩ := hdecodes captures options ⟨captures.flatten, ⟨[], []⟩, "now"⟩ hyields
    rfl rfl rfl (.stdin rfl)
  exact ⟨hcalls, hyields, (hends .raw).1, hraw⟩

end Hdlc.Command
