import Hdlc.Octets
import Hdlc.Rejection

/-!
# Transparency

A flag delimits frames, so content must not contain one on the wire. The octets that would be
misread, the flag and the escape mark itself, are each sent as the escape mark followed by the
transposed octet. `unescape` undoes this and refuses an escape mark that announces anything else.
-/

namespace Hdlc

/-- The octet that opens and closes a frame. -/
def flag : UInt8 := 0x7E

/-- The octet that announces a transposed octet. -/
def escapeMark : UInt8 := 0x7D

/-- Transposition flips the sixth bit, so it is its own inverse. -/
def transpose (octet : UInt8) : UInt8 :=
  octet ^^^ 0x20

/-- The octets that content may not hold literally on the wire. -/
def isReserved (octet : UInt8) : Bool :=
  octet == flag || octet == escapeMark

/-- The octets that may follow an escape mark. -/
def transposedOctets : List UInt8 :=
  [transpose escapeMark, transpose flag]

/-- The form in which one octet of content is sent. -/
def escapeOctet (octet : UInt8) : Octets :=
  if isReserved octet then [escapeMark, transpose octet] else [octet]

def escape (content : Octets) : Octets :=
  content.flatMap escapeOctet

/-- The number of octets that `escape` sends: one for each, and one more for each it escapes. -/
def escapedSize (content : Octets) : Nat :=
  content.length + content.countP isReserved

/-- The octet announced by an escape mark and sent as the given one. -/
def unescapeOctet (sent : UInt8) : Except Rejection UInt8 :=
  if sent ∈ transposedOctets then .ok (transpose sent) else .error .malformedEscape

/-- Restore the content sent as the given octets behind the content already restored. -/
def unescapeOnto (restored : Array UInt8) : Octets → Except Rejection Octets
  | [] => .ok restored.toList
  | octet :: rest =>
      if octet = escapeMark then
        match rest with
        | [] => .error .malformedEscape
        | sent :: rest =>
            match unescapeOctet sent with
            | .ok plain => unescapeOnto (restored.push plain) rest
            | .error reason => .error reason
      else unescapeOnto (restored.push octet) rest

def unescape (sent : Octets) : Except Rejection Octets :=
  unescapeOnto #[] sent

theorem mem_transposedOctets {octet : UInt8} :
    octet ∈ transposedOctets ↔ octet = 0x5D ∨ octet = 0x5E := by
  rw [transposedOctets, List.mem_cons, List.mem_singleton]
  rfl

@[simp]
theorem transpose_transpose (octet : UInt8) : transpose (transpose octet) = octet := by
  rw [transpose, transpose, UInt8.xor_assoc, UInt8.xor_self, UInt8.xor_zero]

@[simp]
theorem escape_nil : escape [] = [] := rfl

@[simp]
theorem escape_cons (octet : UInt8) (rest : Octets) :
    escape (octet :: rest) = escapeOctet octet ++ escape rest := rfl

@[simp]
theorem escape_append (first second : Octets) :
    escape (first ++ second) = escape first ++ escape second :=
  List.flatMap_append

theorem isReserved_iff {octet : UInt8} :
    isReserved octet ↔ octet = flag ∨ octet = escapeMark := by
  simp [isReserved]

theorem escapeOctet_of_isReserved {octet : UInt8} (hreserved : isReserved octet) :
    escapeOctet octet = [escapeMark, transpose octet] :=
  if_pos hreserved

theorem escapeOctet_of_not_isReserved {octet : UInt8} (hplain : ¬isReserved octet) :
    escapeOctet octet = [octet] :=
  if_neg hplain

theorem flag_not_mem_escapeOctet (octet : UInt8) : flag ∉ escapeOctet octet := by
  by_cases hreserved : isReserved octet
  · rcases isReserved_iff.mp hreserved with rfl | rfl <;> decide
  · rw [escapeOctet_of_not_isReserved hreserved, List.mem_singleton]
    rintro rfl
    exact hreserved rfl

theorem flag_not_mem_escape (content : Octets) : flag ∉ escape content := by
  rw [escape, List.mem_flatMap]
  rintro ⟨octet, -, hflag⟩
  exact flag_not_mem_escapeOctet octet hflag

/-- A reserved octet is recovered from the one sent in its place. -/
theorem unescapeOctet_transpose {octet : UInt8} (hreserved : isReserved octet) :
    unescapeOctet (transpose octet) = .ok octet := by
  rcases isReserved_iff.mp hreserved with rfl | rfl <;> rfl

/-- What an escape mark may announce stands for a reserved octet and is none itself. -/
theorem isReserved_transpose {sent : UInt8} (hsent : sent ∈ transposedOctets) :
    isReserved (transpose sent) ∧ ¬isReserved sent := by
  rw [transposedOctets, List.mem_cons, List.mem_singleton] at hsent
  rcases hsent with rfl | rfl
  · decide
  · decide

@[simp]
theorem length_escape (content : Octets) : (escape content).length = escapedSize content := by
  induction content with
  | nil => rfl
  | cons octet rest ih =>
      rw [escape_cons, List.length_append, ih]
      by_cases h : isReserved octet
      · simp [escapeOctet, escapedSize, h]
        omega
      · simp [escapeOctet, escapedSize, h]
        omega

theorem unescapeOnto_append (first restored : Array UInt8) (sent : Octets) :
    unescapeOnto (first ++ restored) sent =
      (unescapeOnto restored sent).map (first.toList ++ ·) := by
  fun_induction unescapeOnto restored sent with
  | case1 restored => simp [unescapeOnto, Except.map]
  | case2 restored => simp [unescapeOnto, Except.map]
  | case3 restored sent rest plain hplain ih =>
      simp [unescapeOnto, hplain, ← ih]
  | case4 restored sent rest reason hreason =>
      simp [unescapeOnto, hreason, Except.map]
  | case5 restored octet rest hplain ih =>
      rw [unescapeOnto.eq_def]
      simp [hplain, ← ih]

/-- What is already restored stays in front of what the remaining octets restore. -/
theorem unescapeOnto_eq (restored : Array UInt8) (sent : Octets) :
    unescapeOnto restored sent = (unescape sent).map (restored.toList ++ ·) := by
  rw [unescape, ← unescapeOnto_append, Array.append_empty]

@[simp]
theorem unescape_nil : unescape [] = .ok [] := rfl

theorem unescape_cons {octet : UInt8} (hplain : octet ≠ escapeMark) (rest : Octets) :
    unescape (octet :: rest) = (unescape rest).map (octet :: ·) := by
  rw [unescape, unescapeOnto.eq_def]
  simp only [hplain, if_false]
  rw [unescapeOnto_eq]
  simp

theorem unescape_escapeMark_cons (sent : UInt8) (rest : Octets) :
    unescape (escapeMark :: sent :: rest) =
      (unescapeOctet sent).bind fun plain => (unescape rest).map (plain :: ·) := by
  rw [unescape, unescapeOnto, if_pos rfl]
  cases unescapeOctet sent with
  | ok plain =>
      simp only [Except.bind]
      rw [unescapeOnto_eq]
      simp
  | error reason => rfl

end Hdlc
