import Hdlc.Proofs.HexText
import Hdlc.Proofs.Limits
import Hdlc.Proofs.Lines
import Hdlc.Proofs.Storage

/-!
# Encoding is all or nothing

There are four reasons not to encode a frame: hexadecimal text that gives no octets, a payload file
that cannot be read, a frame beyond the limit, and an output path where no file can be put. Each of
them leaves nothing behind but the complaint. Without any of them the wire form is put out, into
the output file if there is one, and no other file changes (`encoding_is_all_or_nothing`).
-/

namespace Hdlc.Command

open Text (GivesHex)

/-! ## What is shown -/

namespace Format

theorem line_ne_nil (text : String) : line text ≠ [] := by
  intro hnil
  rw [line, Text.utf8_append, List.append_eq_nil_iff] at hnil
  exact absurd hnil.2 (by decide)

theorem boxed_ne_nil (columns : List (String × String)) : boxed columns ≠ [] := by
  have hline : ∀ text : String, Text.utf8 (text ++ "\n") ≠ [] := line_ne_nil
  rw [boxed, Text.table, Text.tableLines, Text.utf8_join]
  simp [hline]

/-- No format shows an encoded frame by nothing. -/
theorem showEncoded_ne_nil (format : Format) (frame : Frame) :
    format.showEncoded frame frame.encode ≠ [] := by
  cases format with
  | json => exact line_ne_nil _
  | table => exact boxed_ne_nil _
  | pretty => exact line_ne_nil _
  | raw => exact List.cons_ne_nil _ _

end Format

/-- What is broken off for a failure does not end as a success. -/
theorem Abort.code_exitOf_ne_zero (kind : FailureKind) : (Abort.exitOf kind).code ≠ 0 := by
  cases kind <;> decide

/-! ## Payloads -/

/-- The payload that a source gives among the given files. -/
inductive PayloadSource.Gives (files : Files) : PayloadSource → Octets → Prop
  | hex {text : String} {payload : Octets} (htext : GivesHex text payload) :
      Gives files (.hex text) payload
  | data (text : String) : Gives files (.data text) (Text.utf8 text)
  | file {path : String} {payload : Octets} (hread : files.read path = .ok payload) :
      Gives files (.file path) payload
  | nothing : Gives files .nothing []

section

variable {ε ε' α : Type} {attempt : Except ε α} {change : ε → ε'}

theorem mapError_eq_ok_iff {value : α} :
    attempt.mapError change = .ok value ↔ attempt = .ok value := by
  cases attempt <;> simp [Except.mapError]

theorem exists_of_mapError_eq_error {error : ε'}
    (hattempt : attempt.mapError change = .error error) :
    ∃ fault, attempt = .error fault ∧ change fault = error := by
  cases attempt with
  | error fault => exact ⟨fault, rfl, Except.error.inj hattempt⟩
  | ok value => cases hattempt

end

namespace EncodeOptions

variable {options : EncodeOptions} {files : Files} {payload : Octets}

theorem findPayload_eq_ok_iff :
    options.findPayload files.read = .ok payload ↔ options.payload.Gives files payload := by
  rw [findPayload]
  cases options.payload with
  | hex text =>
      dsimp only
      rw [mapError_eq_ok_iff, Text.readHex_eq_ok_iff]
      exact ⟨.hex, fun | .hex htext => htext⟩
  | data text =>
      constructor
      · rintro ⟨⟩
        exact .data text
      · rintro ⟨⟩
        rfl
  | file path =>
      dsimp only
      rw [mapError_eq_ok_iff]
      exact ⟨.file, fun | .file hread => hread⟩
  | nothing =>
      constructor
      · rintro ⟨⟩
        exact .nothing
      · rintro ⟨⟩
        rfl

theorem callsFor_of_gives (hgives : options.payload.Gives files payload) :
    options.CallsFor files (options.frame payload) := by
  rw [CallsFor, findPayload_eq_ok_iff.mpr hgives]
  rfl

/-! ## What becomes of an encoding -/

/-- Why nothing is encoded. -/
inductive Refused (options : EncodeOptions) (files : Files) : Prop
  | badHex {text : String} (hpayload : options.payload = .hex text)
      (htext : ∀ payload, ¬GivesHex text payload)
  | unreadable {path : String} {failure : Failure} (hpayload : options.payload = .file path)
      (hread : files.read path = .error failure)
  | tooLarge {payload : Octets} (hgives : options.payload.Gives files payload)
      (hlimit : options.limit < (options.frame payload).contentSize)
  | unwritable {path : String} (houtput : options.output = some path)
      (hpath : ∀ location, ¬files.Admits path location)

/-- What becomes of an encoding: nothing for one of the reasons, or all of it. -/
inductive Course (options : EncodeOptions) (format : Format) (files : Files) : Result → Prop
  | refused {abort : Abort} (hrefused : options.Refused files) (hexit : abort.exit.code ≠ 0) :
      Course options format files (.ofAbort files abort)
  | shown {frame : Frame} (hcalls : options.CallsFor files frame)
      (hlimit : frame.contentSize ≤ options.limit) (houtput : options.output = none) :
      Course options format files
        ⟨.success, options.stdout format frame frame.encode, none, [], files⟩
  | written {frame : Frame} {path : String} {location : Location}
      (hcalls : options.CallsFor files frame) (hlimit : frame.contentSize ≤ options.limit)
      (houtput : options.output = some path) (hadmits : files.Admits path location) :
      Course options format files
        ⟨.success, options.stdout format frame frame.encode, none, options.notices frame.encode,
          files.put location frame.encode⟩

theorem refused_of_findPayload {abort : Abort}
    (hpayload : options.findPayload files.read = .error abort) :
    options.Refused files ∧ abort.exit.code ≠ 0 := by
  have hnothing : ∀ payload, ¬options.payload.Gives files payload := by
    intro payload hgives
    rw [findPayload_eq_ok_iff.mpr hgives] at hpayload
    cases hpayload
  rw [findPayload] at hpayload
  cases hsource : options.payload with
  | hex text =>
      rw [hsource] at hpayload hnothing
      obtain ⟨fault, -, rfl⟩ := exists_of_mapError_eq_error hpayload
      exact ⟨.badHex hsource fun payload htext => hnothing payload (.hex htext),
        Nat.succ_ne_zero _⟩
  | data text =>
      rw [hsource] at hnothing
      exact absurd (.data text) (hnothing _)
  | file path =>
      rw [hsource] at hpayload
      obtain ⟨failure, hread, rfl⟩ := exists_of_mapError_eq_error hpayload
      exact ⟨.unreadable hsource hread, Abort.code_exitOf_ne_zero failure.kind⟩
  | nothing =>
      rw [hsource] at hnothing
      exact absurd .nothing (hnothing _)

theorem run_of_output_eq_none {frame : Frame} (hcalls : options.CallsFor files frame)
    (hlimit : frame.contentSize ≤ options.limit) (houtput : options.output = none)
    (format : Format) :
    options.run format files =
      ⟨.success, options.stdout format frame frame.encode, none, [], files⟩ := by
  obtain ⟨payload, hpayload, rfl⟩ := exists_payload_of_callsFor hcalls
  simp only [run, hpayload, wireForm_of_le hlimit, houtput, notices, bind, Except.bind]

theorem run_of_admits {frame : Frame} {path : String} {location : Location}
    (hcalls : options.CallsFor files frame) (hlimit : frame.contentSize ≤ options.limit)
    (houtput : options.output = some path) (hadmits : files.Admits path location)
    (format : Format) :
    options.run format files =
      ⟨.success, options.stdout format frame frame.encode, none, options.notices frame.encode,
        files.put location frame.encode⟩ := by
  obtain ⟨payload, hpayload, rfl⟩ := exists_payload_of_callsFor hcalls
  simp only [run, hpayload, wireForm_of_le hlimit, houtput, Files.write_of_admits hadmits,
    Except.mapError, bind, Except.bind]

/-- Without an admitting path nothing is put out either. -/
theorem course_of_not_admits {frame : Frame} {path : String}
    (hcalls : options.CallsFor files frame) (hlimit : frame.contentSize ≤ options.limit)
    (houtput : options.output = some path) (hpath : ∀ location, ¬files.Admits path location)
    (format : Format) : options.Course format files (options.run format files) := by
  obtain ⟨payload, hpayload, rfl⟩ := exists_payload_of_callsFor hcalls
  cases hwrite : files.write path (options.frame payload).encode with
  | error failure =>
      simp only [run, hpayload, wireForm_of_le hlimit, houtput, hwrite, Except.mapError, bind,
        Except.bind]
      exact .refused (.unwritable houtput hpath) (Abort.code_exitOf_ne_zero failure.kind)
  | ok after =>
      obtain ⟨location, hadmits, -⟩ := Files.write_eq_ok_iff.mp hwrite
      exact absurd hadmits (hpath location)

theorem course_run (options : EncodeOptions) (format : Format) (files : Files) :
    options.Course format files (options.run format files) := by
  -- The cases are the stages: each can fail only while nothing has been put out.
  cases hpayload : options.findPayload files.read with
  | error abort =>
      obtain ⟨hrefused, hexit⟩ := refused_of_findPayload hpayload
      simp only [run, hpayload, bind, Except.bind]
      exact .refused hrefused hexit
  | ok payload =>
      have hgives := findPayload_eq_ok_iff.mp hpayload
      have hcalls := callsFor_of_gives hgives
      by_cases hlimit : options.limit < (options.frame payload).contentSize
      · rw [run_of_lt hcalls hlimit]
        exact .refused (.tooLarge hgives hlimit) (Nat.succ_ne_zero _)
      · rw [Nat.not_lt] at hlimit
        cases houtput : options.output with
        | none =>
            rw [run_of_output_eq_none hcalls hlimit houtput]
            exact .shown hcalls hlimit houtput
        | some path =>
            by_cases hpath : ∃ location, files.Admits path location
            · obtain ⟨location, hadmits⟩ := hpath
              rw [run_of_admits hcalls hlimit houtput hadmits]
              exact .written hcalls hlimit houtput hadmits
            · exact course_of_not_admits hcalls hlimit houtput (not_exists.mp hpath) format

/-- There is no reason to refuse what is called for, if the limit and the output path admit it. -/
theorem not_refused {frame : Frame} (hcalls : options.CallsFor files frame)
    (hlimit : frame.contentSize ≤ options.limit)
    (houtput : ∀ path, options.output = some path → ∃ location, files.Admits path location) :
    ¬options.Refused files := by
  obtain ⟨payload, hpayload, rfl⟩ := exists_payload_of_callsFor hcalls
  have hgives := findPayload_eq_ok_iff.mp hpayload
  rintro (⟨hsource, htext⟩ | ⟨hsource, hread⟩ | ⟨hother, hlarge⟩ | ⟨hpath, hnone⟩)
  · rw [hsource] at hgives
    cases hgives with
    | hex hgiven => exact htext _ hgiven
  · rw [hsource] at hgives
    cases hgives with
    | file hgiven => cases hread.symm.trans hgiven
  · rw [findPayload_eq_ok_iff.mpr hother] at hpayload
    cases hpayload
    exact Nat.not_lt_of_le hlimit hlarge
  · obtain ⟨location, hadmits⟩ := houtput _ hpath
    exact hnone location hadmits

theorem stdout_eq_nil_iff {format : Format} {frame : Frame} :
    options.stdout format frame frame.encode = [] ↔ format = .raw ∧ options.output.isSome := by
  rw [stdout]
  split
  next hsilent => simp [hsilent]
  next hshown => simpa [and_comm, Format.showEncoded_ne_nil] using hshown

/-- Encoding is refused for one of four reasons, and then it fails, puts out nothing and changes no
file. Otherwise it succeeds: the wire form of the frame called for is in the output file, if there
is one, every other file is as it was, and standard output is empty only where raw octets went to
that file. -/
theorem encoding_is_all_or_nothing (options : EncodeOptions) (format : Format) (files : Files) :
    let result := options.run format files
    (options.Refused files →
        result.exit.code ≠ 0 ∧ result.complaint.isSome ∧ result.stdout = [] ∧
          result.files = files) ∧
      (¬options.Refused files →
        result.exit.code = 0 ∧ result.complaint = none ∧
          (result.stdout = [] ↔ format = .raw ∧ options.output.isSome) ∧
          (options.output = none → result.files = files) ∧
          ∃ payload, options.payload.Gives files payload ∧
            (options.frame payload).contentSize ≤ options.limit ∧
            ∀ path, options.output = some path → ∃ location,
              files.Admits path location ∧
                result.files.read path = .ok (options.frame payload).encode ∧
                result.files.node? location = some (.file (options.frame payload).encode) ∧
                (∀ other ≠ location, result.files.node? other = files.node? other) ∧
                result.files.workingDirectory = files.workingDirectory ∧
                ∀ name content, (name, content) ∈ result.files.here ↔
                  if files.workingDirectory ++ [name] = location then
                    content = (options.frame payload).encode
                  else (name, content) ∈ files.here) := by
  intro result
  have hcourse : options.Course format files result := options.course_run format files
  clear_value result
  cases hcourse with
  | refused hrefused hexit =>
      exact ⟨fun _ => ⟨hexit, rfl, rfl, rfl⟩, fun hnot => absurd hrefused hnot⟩
  | shown hcalls hlimit houtput =>
      obtain ⟨payload, hpayload, rfl⟩ := exists_payload_of_callsFor hcalls
      have hnot : ¬options.Refused files := not_refused hcalls hlimit (by simp [houtput])
      refine ⟨fun hrefused => absurd hrefused hnot, fun _ => ?_⟩
      refine ⟨rfl, rfl, stdout_eq_nil_iff, fun _ => rfl, payload,
        findPayload_eq_ok_iff.mp hpayload, hlimit, ?_⟩
      intro path hpath
      rw [houtput] at hpath
      cases hpath
  | @written frame path location hcalls hlimit houtput hadmits =>
      obtain ⟨payload, hpayload, rfl⟩ := exists_payload_of_callsFor hcalls
      have hnot : ¬options.Refused files := by
        apply not_refused hcalls hlimit
        intro path hpath
        rw [houtput] at hpath
        cases hpath
        exact ⟨location, hadmits⟩
      refine ⟨fun hrefused => absurd hrefused hnot, fun _ => ?_⟩
      refine ⟨rfl, rfl, stdout_eq_nil_iff, ?_, payload, findPayload_eq_ok_iff.mp hpayload,
        hlimit, ?_⟩
      · intro hnone
        rw [houtput] at hnone
        cases hnone
      · intro path hpath
        rw [houtput] at hpath
        cases hpath
        refine ⟨location, hadmits, Files.read_put hadmits _, ?_, ?_, rfl,
          fun _ _ => Files.mem_here_put_iff⟩
        · exact Files.node?_put_self files _ (Files.ne_nil_of_target hadmits.target)
        · exact fun other hother => Files.node?_put_of_ne files _ hother

/-- A frame that is written over a file of the same name under the least limit that admits it, and
refused just below. -/
theorem encoding_is_all_or_nothing_at_boundary :
    let files : Files := ⟨[(["o"], .file [1, 2]), (["n"], .file [9])], []⟩
    let options : EncodeOptions :=
      { address := 1, payload := .hex "7 E", output := some "o", limit := 7 }
    let strict : EncodeOptions := { options with limit := 6 }
    let written := options.run .raw files
    let refused := strict.run .raw files
    written.exit.code = 0 ∧ written.stdout = [] ∧
      written.files.read "o" = .ok (options.frame [flag]).encode ∧
      written.files.node? ["n"] = some (.file [9]) ∧
      refused.exit.code ≠ 0 ∧ refused.stdout = [] ∧ refused.files = files := by
  intro files options strict written refused
  have hgives : options.payload.Gives files [flag] := .hex (by decide)
  have hsize : (options.frame [flag]).contentSize = 7 := by
    simp [options, frame, Frame.contentSize, Address.size, Address.encode,
      Address.encodeGroups_of_lt, Checksum.size]
  have hsplit : "o".splitOn "/" = ["o"] := by
    rw [String.splitOn, if_neg (by decide), String.splitOnAux, if_neg (by decide),
      if_neg (by decide), String.splitOnAux, if_pos (by decide)]
    decide
  have hadmits : files.Admits "o" ["o"] :=
    ⟨Files.target_of_splitOn (by decide) hsplit (by decide), by decide, by decide⟩
  have hrefused : strict.Refused files :=
    .tooLarge hgives (Nat.lt_of_lt_of_eq (by decide) hsize.symm)
  have hnot : ¬options.Refused files := by
    apply not_refused (callsFor_of_gives hgives) (Nat.le_of_eq hsize)
    rintro path ⟨⟩
    exact ⟨_, hadmits⟩
  obtain ⟨hexit, -, hstdout, -, payload, hpayload, -, hwritten⟩ :=
    (encoding_is_all_or_nothing options .raw files).2 hnot
  obtain ⟨hfailed, -, hsilent, hkept⟩ := (encoding_is_all_or_nothing strict .raw files).1 hrefused
  obtain ⟨location, hlocation, hread, -, hothers, -⟩ := hwritten "o" rfl
  have hwhere : location = ["o"] := by
    have htarget := hlocation.target.symm.trans hadmits.target
    cases htarget
    rfl
  have hframe : payload = [flag] := by
    cases hpayload with
    | hex htext => exact htext.unique (by decide)
  subst hwhere hframe
  exact ⟨hexit, hstdout.mpr ⟨rfl, rfl⟩, hread, hothers _ (by decide), hfailed, hsilent, hkept⟩

end EncodeOptions

end Hdlc.Command
