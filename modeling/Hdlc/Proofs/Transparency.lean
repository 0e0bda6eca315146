import Hdlc.Proofs.RoundTrip
import Mathlib.Data.Set.Function

/-!
# Transparent octets

Octets are transparent if there is no flag among them and every escape mark announces one of the two
transposed octets. Escaping is one to one onto them, and restoring undoes just that: octets without
a flag restore to content exactly where they are its escaped form, and are malformed where they are
no such form (`escaping_is_bijective`). So the flags of a frame are the two at its ends.
-/

namespace Hdlc

/-- Send content behind the octets already sent, octet by octet. -/
def escapeOnto (sent : Array UInt8) (content : Octets) : Array UInt8 :=
  content.foldl (fun sent octet =>
    if isReserved octet then (sent.push escapeMark).push (transpose octet)
    else sent.push octet) sent

theorem toList_escapeOnto (sent : Array UInt8) (content : Octets) :
    (escapeOnto sent content).toList = sent.toList ++ escape content := by
  induction content generalizing sent with
  | nil => simp [escapeOnto]
  | cons octet rest ih =>
      rw [escapeOnto, List.foldl_cons, ← escapeOnto, ih, escape_cons, ← List.append_assoc]
      by_cases hreserved : isReserved octet
      · simp [hreserved, escapeOctet_of_isReserved]
      · simp [hreserved, escapeOctet_of_not_isReserved]

/-- The octets that can stand between two flags. -/
structure IsTransparent (sent : Octets) : Prop where
  flag_not_mem : flag ∉ sent
  announces : ∀ before after, sent = before ++ escapeMark :: after →
    ∃ announced rest, after = announced :: rest ∧ (announced = 0x5D ∨ announced = 0x5E)

namespace IsTransparent

theorem nil : IsTransparent [] :=
  ⟨List.not_mem_nil, fun before after hsplit => by cases before <;> cases hsplit⟩

theorem of_append (before : Octets) {sent : Octets}
    (htransparent : IsTransparent (before ++ sent)) : IsTransparent sent := by
  refine ⟨fun hflag => htransparent.flag_not_mem (List.mem_append_right before hflag), ?_⟩
  rintro front after rfl
  exact htransparent.announces (before ++ front) after (List.append_assoc _ _ _).symm

theorem cons_of_not_isReserved {octet : UInt8} {rest : Octets} (hplain : ¬isReserved octet)
    (hrest : IsTransparent rest) : IsTransparent (octet :: rest) := by
  constructor
  · rw [List.mem_cons, not_or]
    refine ⟨?_, hrest.flag_not_mem⟩
    rintro rfl
    exact hplain rfl
  · intro before after hsplit
    cases before with
    | nil =>
        obtain ⟨rfl, -⟩ := List.cons.inj hsplit
        exact absurd rfl hplain
    | cons _ before => exact hrest.announces before after (List.cons.inj hsplit).2

theorem escapeMark_cons {announced : UInt8} {rest : Octets}
    (hannounced : announced ∈ transposedOctets) (hrest : IsTransparent rest) :
    IsTransparent (escapeMark :: announced :: rest) := by
  have hbehind := hrest.cons_of_not_isReserved (isReserved_transpose hannounced).2
  constructor
  · rw [List.mem_cons, not_or]
    exact ⟨by decide, hbehind.flag_not_mem⟩
  · intro before after hsplit
    cases before with
    | nil => exact ⟨announced, rest, (List.cons.inj hsplit).2.symm,
        mem_transposedOctets.mp hannounced⟩
    | cons _ before => exact hbehind.announces before after (List.cons.inj hsplit).2

end IsTransparent

theorem isTransparent_escape (content : Octets) : IsTransparent (escape content) := by
  induction content with
  | nil => exact .nil
  | cons octet rest ih =>
      rw [escape_cons]
      by_cases hreserved : isReserved octet
      · rw [escapeOctet_of_isReserved hreserved]
        refine ih.escapeMark_cons ?_
        rcases isReserved_iff.mp hreserved with rfl | rfl <;> decide
      · rw [escapeOctet_of_not_isReserved hreserved]
        exact ih.cons_of_not_isReserved hreserved

/-- What may be announced is sent in place of the octet it stands for. -/
theorem escape_transpose_cons {sent : UInt8} (hsent : sent ∈ transposedOctets) (rest : Octets) :
    escape (transpose sent :: rest) = escapeMark :: sent :: escape rest := by
  rw [escape_cons, escapeOctet_of_isReserved (isReserved_transpose hsent).1, transpose_transpose]
  rfl

theorem escape_cons_of_not_isReserved {octet : UInt8} (hplain : ¬isReserved octet)
    (rest : Octets) : escape (octet :: rest) = octet :: escape rest := by
  rw [escape_cons, escapeOctet_of_not_isReserved hplain]
  rfl

/-- Octets without a flag are the escaped form of what they restore to, or are malformed. -/
theorem unescape_cases {sent : Octets} (hflag : flag ∉ sent) :
    (∃ content, sent = escape content ∧ unescape sent = .ok content) ∨
      unescape sent = .error .malformedEscape := by
  -- The tokens of the octets settle what each octet is there for.
  fun_induction Segment.tokens sent with
  | case1 => exact .inl ⟨[], rfl, rfl⟩
  | case2 => exact .inr rfl
  | case3 sent rest ih =>
      rw [unescape_escapeMark_cons, unescapeOctet]
      by_cases hsent : sent ∈ transposedOctets
      · rw [if_pos hsent]
        have hrest := List.not_mem_of_not_mem_cons (List.not_mem_of_not_mem_cons hflag)
        rcases ih hrest with ⟨content, hescape, hcontent⟩ | hmalformed
        · refine .inl ⟨transpose sent :: content, ?_, ?_⟩
          · rw [escape_transpose_cons hsent, hescape]
          · rw [hcontent]
            rfl
        · rw [hmalformed]
          exact .inr rfl
      · rw [if_neg hsent]
        exact .inr rfl
  | case4 octet rest hplain ih =>
      rw [unescape_cons hplain]
      have hliteral : ¬isReserved octet := by
        rw [isReserved_iff, not_or]
        exact ⟨(List.ne_of_not_mem_cons hflag).symm, hplain⟩
      rcases ih (List.not_mem_of_not_mem_cons hflag) with ⟨content, hescape, hcontent⟩ | hmalformed
      · refine .inl ⟨octet :: content, ?_, ?_⟩
        · rw [escape_cons_of_not_isReserved hliteral, ← hescape]
        · rw [hcontent]
          rfl
      · rw [hmalformed]
        exact .inr rfl

theorem unescape_eq_ok_iff {sent : Octets} (hflag : flag ∉ sent) {content : Octets} :
    unescape sent = .ok content ↔ sent = escape content := by
  constructor
  · intro hcontent
    rcases unescape_cases hflag with ⟨restored, hescape, hrestored⟩ | hmalformed
    · rw [hcontent, Except.ok.injEq] at hrestored
      rw [hescape, hrestored]
    · rw [hcontent] at hmalformed
      cases hmalformed
  · rintro rfl
    exact unescape_escape content

theorem exists_eq_escape_of_isTransparent {sent : Octets} (htransparent : IsTransparent sent) :
    ∃ content, sent = escape content := by
  fun_induction Segment.tokens sent with
  | case1 => exact ⟨[], rfl⟩
  | case2 =>
      obtain ⟨_, _, hnone, -⟩ := htransparent.announces [] [] rfl
      cases hnone
  | case3 sent rest ih =>
      obtain ⟨announced, _, hafter, hannounced⟩ := htransparent.announces [] (sent :: rest) rfl
      obtain ⟨rfl, -⟩ := List.cons.inj hafter
      obtain ⟨content, rfl⟩ := ih (IsTransparent.of_append [escapeMark, sent] htransparent)
      exact ⟨transpose sent :: content,
        (escape_transpose_cons (mem_transposedOctets.mpr hannounced) content).symm⟩
  | case4 octet rest hplain ih =>
      obtain ⟨content, rfl⟩ := ih (IsTransparent.of_append [octet] htransparent)
      have hliteral : ¬isReserved octet := by
        rw [isReserved_iff, not_or]
        exact ⟨(List.ne_of_not_mem_cons htransparent.flag_not_mem).symm, hplain⟩
      exact ⟨octet :: content, (escape_cons_of_not_isReserved hliteral content).symm⟩

/-- Escaping is one to one, and its values are the transparent octets. -/
theorem bijOn_escape : Set.BijOn escape Set.univ {sent | IsTransparent sent} := by
  refine ⟨fun content _ => isTransparent_escape content, escape_injective.injOn, ?_⟩
  intro sent htransparent
  obtain ⟨content, rfl⟩ := exists_eq_escape_of_isTransparent htransparent
  exact ⟨content, Set.mem_univ _, rfl⟩

/-- The wire form of a frame has a flag at its two ends and nowhere else. -/
theorem Frame.getElem?_encode_eq_flag_iff (frame : Frame) (position : Nat) :
    frame.encode[position]? = some flag ↔
      position = 0 ∨ position + 1 = frame.encode.length := by
  rw [frame.encode_eq]
  cases position with
  | zero => simp
  | succ position =>
      rw [List.getElem?_cons_succ, List.length_cons, List.length_append]
      rcases Nat.lt_or_ge position frame.interior.length with hinside | hbehind
      · rw [List.getElem?_append_left hinside]
        constructor
        · intro hflag
          exact absurd (List.mem_of_getElem? hflag) frame.flag_not_mem_interior
        · simp only [List.length_singleton]
          omega
      · rw [List.getElem?_append_right hbehind, List.getElem?_singleton]
        simp only [List.length_singleton]
        split
        next => simp; omega
        next => simp; omega

/-- Escaping goes on behind whatever was sent before and octet by octet, and it is one to one onto
the transparent octets. Restoring undoes it and refuses all else that has no flag. A frame has a
flag at its two ends and nowhere else. -/
theorem escaping_is_bijective :
    (∀ (sent : Array UInt8) (content : Octets),
      (escapeOnto sent content).toList = sent.toList ++ escape content) ∧
    (∀ first second, escape (first ++ second) = escape first ++ escape second) ∧
    Set.BijOn escape Set.univ {sent | IsTransparent sent} ∧
    (∀ sent, flag ∉ sent →
      (∀ content, unescape sent = .ok content ↔ sent = escape content) ∧
      ((∀ content, sent ≠ escape content) → unescape sent = .error .malformedEscape)) ∧
    (∀ frame : Frame, 1 < frame.encode.length ∧ ∀ position,
      frame.encode[position]? = some flag ↔
        position = 0 ∨ position + 1 = frame.encode.length) := by
  refine ⟨toList_escapeOnto, escape_append, bijOn_escape, fun sent hflag => ⟨?_, ?_⟩,
    fun frame => ⟨?_, frame.getElem?_encode_eq_flag_iff⟩⟩
  · intro content
    exact unescape_eq_ok_iff hflag
  · intro hnone
    rcases unescape_cases hflag with ⟨content, hescape, -⟩ | hmalformed
    · exact absurd hescape (hnone content)
    · exact hmalformed
  · rw [frame.encode_eq, List.length_cons, List.length_append, List.length_singleton]
    omega

/-- What follows a pair stands for itself, and the second of two escape marks is not announced by
the first. -/
theorem escaping_is_bijective_on_marks :
    let paired : Octets := [1, escapeMark, 0x5D, 0x5E]
    let doubled : Octets := [escapeMark, escapeMark, 0x5D]
    flag ∉ paired ∧ unescape paired = .ok [1, escapeMark, 0x5E] ∧
      flag ∉ doubled ∧ unescape doubled = .error .malformedEscape := by
  intro paired doubled
  obtain ⟨-, -, -, hunescape, -⟩ := escaping_is_bijective
  have hpaired : flag ∉ paired := by decide
  have hdoubled : flag ∉ doubled := by decide
  refine ⟨hpaired, ((hunescape paired hpaired).1 _).mpr (by decide), hdoubled,
    (hunescape doubled hdoubled).2 fun content hescape => ?_⟩
  obtain ⟨announced, _, hafter, hannounced⟩ :=
    (isTransparent_escape content).announces [] [escapeMark, 0x5D] hescape.symm
  obtain ⟨rfl, -⟩ := List.cons.inj hafter
  exact absurd hannounced (by decide)

end Hdlc
