import Hdlc.Proofs.Relay

/-!
# The grammar of content

Content is accepted exactly where it is an address in some form, a control octet, a payload and the
check sequence of these. Any other content is rejected for the first reason against it, in the order
length, check sequence, address, room for the control octet (`content_is_ranked`). Taking the fields
by their positions comes to the same and never leaves the content (`takeFields_eq`).
-/

namespace Hdlc

namespace Address

theorem count_le_length {octets : Octets} {address : UInt64} {count : Nat}
    (hdecode : decode octets = .ok (address, count)) : count ≤ octets.length := by
  have hlength := congrArg List.length (take_of_decode hdecode).1
  rw [length_form, List.length_take] at hlength
  omega

theorem count_pos {octets : Octets} {address : UInt64} {count : Nat}
    (hdecode : decode octets = .ok (address, count)) : 0 < count :=
  Nat.lt_of_lt_of_le (size_pos address) (take_of_decode hdecode).2

/-- What stands behind an address has no part in it. -/
theorem decodeGroups_append {room value count : Nat} {octets : Octets}
    (hdecode : decodeGroups room octets = some (value, count)) (rest : Octets) :
    decodeGroups room (octets ++ rest) = some (value, count) := by
  induction room generalizing octets value count with
  | zero => cases hdecode
  | succ room ih =>
      cases octets with
      | nil => cases hdecode
      | cons octet octets =>
          rw [List.cons_append]
          by_cases hmarked : octet.toNat % 2 = 1
          · rw [decodeGroups_cons_of_marked hmarked] at hdecode ⊢
            exact hdecode
          · rw [decodeGroups_cons_of_unmarked hmarked] at hdecode ⊢
            obtain ⟨⟨higher, more⟩, hrest, hvalue⟩ := Option.map_eq_some_iff.mp hdecode
            rw [ih hrest]
            exact congrArg some hvalue

theorem decode_append {octets : Octets} {address : UInt64} {count : Nat}
    (hdecode : decode octets = .ok (address, count)) (rest : Octets) :
    decode (octets ++ rest) = .ok (address, count) := by
  rw [decode] at hdecode ⊢
  split at hdecode
  next value found hgroups =>
    cases hdecode
    rw [decodeGroups_append hgroups]
  next => cases hdecode

/-- An address is read from the front of octets exactly where they start with a form of it. -/
theorem decode_eq_ok_iff {octets : Octets} {address : UInt64} {count : Nat} :
    decode octets = .ok (address, count) ↔
      ∃ received rest, octets = received ++ rest ∧ received.length = count ∧
        decode received = .ok (address, received.length) := by
  constructor
  · intro hdecode
    have hlength : (octets.take count).length = count :=
      List.length_take_of_le (count_le_length hdecode)
    refine ⟨octets.take count, octets.drop count, (List.take_append_drop _ _).symm, hlength, ?_⟩
    rw [hlength]
    exact decode_take hdecode
  · rintro ⟨received, rest, rfl, rfl, hdecode⟩
    exact decode_append hdecode rest

theorem eq_badAddress_of_decode {octets : Octets} {reason : Rejection}
    (hdecode : decode octets = .error reason) : reason = .badAddress := by
  rw [decode] at hdecode
  split at hdecode
  next => cases hdecode
  next =>
    cases hdecode
    rfl

/-- Octets without an address at the front are refused for that. -/
theorem decode_eq_error {octets : Octets}
    (hnone : ∀ received rest address, octets = received ++ rest →
      decode received ≠ .ok (address, received.length)) :
    decode octets = .error .badAddress := by
  cases hdecode : decode octets with
  | ok read =>
      obtain ⟨received, rest, hsplit, -, hreceived⟩ := decode_eq_ok_iff.mp hdecode
      exact absurd hreceived (hnone received rest read.1 hsplit)
  | error reason => rw [eq_badAddress_of_decode hdecode]

end Address

/-- The octets from one position up to another, unless there are none at these positions. -/
def slice? (octets : Octets) (start stop : Nat) : Option Octets :=
  if start ≤ stop ∧ stop ≤ octets.length then some ((octets.take stop).drop start) else none

theorem slice?_append (front middle back : Octets) :
    slice? (front ++ middle ++ back) front.length (front.length + middle.length) = some middle := by
  have hstop : front.length + middle.length = (front ++ middle).length :=
    List.length_append.symm
  rw [slice?, hstop, List.take_left, List.drop_left, if_pos]
  simp

namespace Frame

theorem ofContent_of_length_lt {content : Octets} (hlength : content.length < minContentSize) :
    ofContent content = .error (.tooShort content.length minContentSize) := by
  simp only [ofContent, if_pos hlength]

/-- Content that is long enough is judged by what its check sequence covers. -/
theorem ofContent_append {body check : Octets} (hbody : 2 ≤ body.length)
    (hcheck : check.length = Checksum.size) :
    ofContent (body ++ check) =
      if Checksum.crc32 body ≠ wordOfOctets check then
        .error (.checksumMismatch (Checksum.crc32 body) (wordOfOctets check))
      else
        match Address.decode body with
        | .error reason => .error reason
        | .ok (address, count) =>
            match body.drop count with
            | [] => .error (.tooShort (body.length + 4) (count + 1 + Checksum.size))
            | octet :: payload => .ok ⟨address, ⟨octet⟩, payload⟩ := by
  have hlength : (body ++ check).length = body.length + Checksum.size := by
    rw [List.length_append, hcheck]
  have hlong : ¬(body ++ check).length < minContentSize := by
    rw [hlength, minContentSize]
    omega
  have hsplit : (body ++ check).length - Checksum.size = body.length := by omega
  simp only [ofContent, hsplit, List.take_left, List.drop_left, if_neg hlong]
  rw [hlength]
  rfl

theorem exists_body_of_le_length {content : Octets} (hlength : minContentSize ≤ content.length) :
    ∃ body check, content = body ++ check ∧ check.length = Checksum.size ∧ 2 ≤ body.length := by
  rw [minContentSize] at hlength
  refine ⟨content.take (content.length - Checksum.size),
    content.drop (content.length - Checksum.size), (List.take_append_drop _ _).symm, ?_, ?_⟩
  · rw [List.length_drop]
    omega
  · rw [List.length_take]
    omega

/-- What is accepted is an address in some form, a control octet, a payload and their check
sequence, and nothing else. -/
theorem ofContent_eq_ok_iff {content : Octets} {frame : Frame} :
    ofContent content = .ok frame ↔
      ∃ received, Address.decode received = .ok (frame.address, received.length) ∧
        content = received ++ frame.control.octet :: frame.payload ++
          Checksum.sequence (received ++ frame.control.octet :: frame.payload) := by
  constructor
  · intro haccepted
    obtain ⟨received, check, hlayout, hcheck, hdecode, hsum⟩ :=
      exists_received_of_ofContent haccepted
    refine ⟨received, hdecode, ?_⟩
    rw [Checksum.sequence, hsum, octetsOfWord_wordOfOctets hcheck]
    exact hlayout
  · rintro ⟨received, hdecode, rfl⟩
    have hbody : 2 ≤ (received ++ frame.control.octet :: frame.payload).length := by
      have := Address.count_pos hdecode
      rw [List.length_append, List.length_cons]
      omega
    rw [ofContent_append hbody (Checksum.length_sequence _), Checksum.sequence,
      wordOfOctets_octetsOfWord, if_neg (not_not.mpr rfl), Address.decode_append hdecode]
    dsimp only
    rw [List.drop_left]

/-- A verdict that content is too short names its length and a greater one. -/
theorem lt_of_ofContent_eq_tooShort {content : Octets} {length minimum : Nat}
    (hrejected : ofContent content = .error (.tooShort length minimum)) :
    length = content.length ∧ length < minimum := by
  rcases Nat.lt_or_ge content.length minContentSize with hlength | hlength
  · rw [ofContent_of_length_lt hlength] at hrejected
    cases hrejected
    exact ⟨rfl, hlength⟩
  · obtain ⟨body, check, rfl, hcheck, hbody⟩ := exists_body_of_le_length hlength
    rw [ofContent_append hbody hcheck] at hrejected
    split at hrejected
    next => cases hrejected
    next =>
      split at hrejected
      next reason hdecode =>
        rw [Address.eq_badAddress_of_decode hdecode] at hrejected
        cases hrejected
      next address count hdecode =>
        split at hrejected
        next hrest =>
          cases hrejected
          have hcount := List.drop_eq_nil_iff.mp hrest
          rw [List.length_append, hcheck, Checksum.size]
          exact ⟨rfl, by omega⟩
        next => cases hrejected

/-- Take the fields of content by their positions. There is no answer if a position lies outside of
it. -/
def takeFields (content : Octets) : Option (Except Rejection Frame) :=
  if content.length < minContentSize then
    some (.error (.tooShort content.length minContentSize))
  else do
    let stop := content.length - Checksum.size
    let body ← slice? content 0 stop
    let check ← slice? content stop (stop + Checksum.size)
    if Checksum.crc32 body ≠ wordOfOctets check then
      some (.error (.checksumMismatch (Checksum.crc32 body) (wordOfOctets check)))
    else
      match Address.decode body with
      | .error reason => some (.error reason)
      | .ok (address, count) =>
          if stop ≤ count then
            some (.error (.tooShort content.length (count + 1 + Checksum.size)))
          else do
            let octet ← content[count]?
            let payload ← slice? content (count + 1) stop
            some (.ok ⟨address, ⟨octet⟩, payload⟩)

/-- Every position at which a field is taken lies within the content. -/
theorem takeFields_eq (content : Octets) : takeFields content = some (ofContent content) := by
  rcases Nat.lt_or_ge content.length minContentSize with hlength | hlength
  · rw [takeFields, if_pos hlength, ofContent_of_length_lt hlength]
  · rw [takeFields, if_neg (Nat.not_lt.mpr hlength)]
    obtain ⟨body, check, rfl, hcheck, hbody⟩ := exists_body_of_le_length hlength
    have hstop : (body ++ check).length - Checksum.size = body.length := by
      rw [List.length_append, hcheck, Nat.add_sub_cancel]
    have htaken : slice? (body ++ check) 0 body.length = some body := by
      simpa using slice?_append [] body check
    have hleft : slice? (body ++ check) body.length (body.length + Checksum.size) = some check := by
      simpa [hcheck] using slice?_append body check []
    simp only [hstop, htaken, hleft, bind, Option.bind]
    rw [ofContent_append hbody hcheck]
    split
    next => rfl
    next =>
      split
      next => rfl
      next address count hdecode =>
        rcases Nat.lt_or_ge count body.length with hcount | hcount
        · have hrest := List.drop_eq_getElem_cons hcount
          have hoctet : (body ++ check)[count]? = some body[count] := by
            rw [List.getElem?_append_left hcount, List.getElem?_eq_getElem hcount]
          have hfront : (body.take (count + 1)).length = count + 1 :=
            List.length_take_of_le hcount
          have hpayload : slice? (body ++ check) (count + 1) body.length =
              some (body.drop (count + 1)) := by
            have hslice := slice?_append (body.take (count + 1)) (body.drop (count + 1)) check
            rwa [List.take_append_drop, ← List.length_append, List.take_append_drop,
              hfront] at hslice
          simp only [if_neg (Nat.not_le.mpr hcount), hoctet, hpayload, hrest]
        · rw [if_pos hcount, List.drop_eq_nil_of_le hcount, List.length_append, hcheck]
          rfl

/-- Content is accepted exactly where it is an address in some form, a control octet, a payload and
the check sequence of these. Otherwise it is too short for any frame; or else its check sequence is
not the one received; or else there is no address in front; or else the address leaves no room for a
control octet. A length that is too short is below the one asked for, and no field is looked for
outside of the content. -/
theorem content_is_ranked (content : Octets) :
    (∀ frame, ofContent content = .ok frame ↔
      ∃ received, Address.decode received = .ok (frame.address, received.length) ∧
        content = received ++ frame.control.octet :: frame.payload ++
          Checksum.sequence (received ++ frame.control.octet :: frame.payload)) ∧
    (content.length < 6 → ofContent content = .error (.tooShort content.length 6)) ∧
    (∀ body check, content = body ++ check → check.length = 4 → 6 ≤ content.length →
      (Checksum.crc32 body ≠ wordOfOctets check → ofContent content =
        .error (.checksumMismatch (Checksum.crc32 body) (wordOfOctets check))) ∧
      (Checksum.crc32 body = wordOfOctets check →
        ((∀ received rest address, body = received ++ rest →
            Address.decode received ≠ .ok (address, received.length)) →
          ofContent content = .error .badAddress) ∧
        (∀ address, Address.decode body = .ok (address, body.length) →
          ofContent content = .error (.tooShort content.length (body.length + 5))) ∧
        (∀ received octet payload address, body = received ++ octet :: payload →
          Address.decode received = .ok (address, received.length) →
            ofContent content = .ok ⟨address, ⟨octet⟩, payload⟩))) ∧
    (∀ length minimum, ofContent content = .error (.tooShort length minimum) →
      length < minimum) ∧
    takeFields content = some (ofContent content) := by
  refine ⟨fun frame => ofContent_eq_ok_iff, ofContent_of_length_lt, ?_, ?_, takeFields_eq content⟩
  · rintro body check rfl hcheck hlength
    have hbody : 2 ≤ body.length := by
      rw [List.length_append] at hlength
      omega
    constructor
    · intro hmismatch
      rw [ofContent_append hbody hcheck, if_pos hmismatch]
    · intro hmatch
      rw [ofContent_append hbody hcheck, if_neg (not_not.mpr hmatch)]
      refine ⟨?_, ?_, ?_⟩
      · intro hnone
        rw [Address.decode_eq_error hnone]
      · intro address hdecode
        rw [hdecode]
        dsimp only
        rw [List.drop_length, List.length_append, hcheck]
        rfl
      · rintro received octet payload address rfl hdecode
        rw [Address.decode_append hdecode]
        dsimp only
        rw [List.drop_left]
  · intro length minimum hrejected
    exact (lt_of_ofContent_eq_tooShort hrejected).2

/-- Content for each of the ranks, the accepted one with an address of two octets where one is
enough. -/
theorem content_is_ranked_at_each :
    let padded : Octets := [2, 1, 3, flag]
    let unended : Octets := [2, flag]
    let filled : Octets := [2, 3]
    ofContent [flag, 3] = .error (.tooShort 2 6) ∧
      ofContent (filled ++ [0, 0, 0, 0]) = .error (.checksumMismatch (Checksum.crc32 filled) 0) ∧
      ofContent (unended ++ Checksum.sequence unended) = .error .badAddress ∧
      ofContent (filled ++ Checksum.sequence filled) = .error (.tooShort 6 7) ∧ 6 < 7 ∧
      ofContent (padded ++ Checksum.sequence padded) = .ok ⟨1, ⟨3⟩, [flag]⟩ := by
  intro padded unended filled
  obtain ⟨-, hshort, -⟩ := content_is_ranked [flag, 3]
  obtain ⟨-, -, hmismatch, -⟩ := content_is_ranked (filled ++ [0, 0, 0, 0])
  obtain ⟨-, -, hunended, -⟩ := content_is_ranked (unended ++ Checksum.sequence unended)
  obtain ⟨-, -, hfilled, hbelow, -⟩ := content_is_ranked (filled ++ Checksum.sequence filled)
  obtain ⟨hpadded, -⟩ := content_is_ranked (padded ++ Checksum.sequence padded)
  have hsum : ∀ body : Octets, Checksum.crc32 body = wordOfOctets (Checksum.sequence body) :=
    fun body => (wordOfOctets_octetsOfWord _).symm
  have hnone : ∀ received rest address, unended = received ++ rest →
      Address.decode received ≠ .ok (address, received.length) := by
    intro received rest address hsplit hdecode
    have hfront := Address.decode_append hdecode rest
    rw [← hsplit] at hfront
    cases hfront
  have hroom : ofContent (filled ++ Checksum.sequence filled) = .error (.tooShort 6 7) :=
    ((hfilled filled _ rfl rfl (by decide)).2 (hsum filled)).2.1 129 (by decide)
  refine ⟨hshort (by decide), (hmismatch filled _ rfl rfl (by decide)).1 (by decide +kernel), ?_,
    hroom, hbelow 6 7 hroom, (hpadded _).mpr ⟨[2, 1], by decide, rfl⟩⟩
  exact ((hunended unended _ rfl rfl (by decide)).2 (hsum unended)).1 hnone

end Frame

end Hdlc
