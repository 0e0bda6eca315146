/-!
# Octets

Everything that travels on a link is a sequence of octets, first sent first. A 32-bit word travels
as four octets, least significant first, and `wordOfOctets` reads back what `octetsOfWord` lays out.
A text travels as UTF-8; octets that are no text at all have no decoding.
-/

namespace Hdlc

/-- A sequence of octets in the order in which they are sent. -/
abbrev Octets := List UInt8

/-- The four octets of a word, least significant first. -/
def octetsOfWord (word : UInt32) : Octets :=
  [word.toUInt8, (word >>> 8).toUInt8, (word >>> 16).toUInt8, (word >>> 24).toUInt8]

/-- The word whose octets, least significant first, are given. -/
def wordOfOctets (octets : Octets) : UInt32 :=
  octets.foldr (fun octet word => (word <<< 8) ||| octet.toUInt32) 0

/-- The octets of a text. -/
def Text.utf8 (text : String) : Octets :=
  text.toUTF8.data.toList

/-- The text whose octets these are. -/
def Text.ofUtf8? (octets : Octets) : Option String :=
  String.fromUTF8? ⟨octets.toArray⟩

@[simp]
theorem length_octetsOfWord (word : UInt32) : (octetsOfWord word).length = 4 := rfl

/-- The lowest octet of a word has its lowest eight bits and no others. -/
theorem getLsbD_umod_256 (word : BitVec 32) (i : Nat) :
    (word % 256#32).getLsbD i = (decide (i < 8) && word.getLsbD i) := by
  rw [BitVec.getLsbD, BitVec.getLsbD, BitVec.toNat_umod]
  exact Nat.testBit_mod_two_pow word.toNat 8 i

@[simp]
theorem wordOfOctets_octetsOfWord (word : UInt32) :
    wordOfOctets (octetsOfWord word) = word := by
  apply UInt32.toBitVec_inj.mp
  apply BitVec.eq_of_getLsbD_eq
  intro i hi
  simp only [wordOfOctets, octetsOfWord, List.foldr_cons, List.foldr_nil]
  simp [getLsbD_umod_256]
  -- The bit lies in exactly one of the four octets.
  rcases Nat.lt_or_ge i 8 with h8 | h8
  · simp [h8]
  have hi8 : i - 8 < 32 := by omega
  rcases Nat.lt_or_ge i 16 with h16 | h16
  · have hbit : 8 + (i - 8) = i := by omega
    simp [hbit, hi, show ¬i < 8 by omega, show i - 8 < 8 by omega]
  have hi16 : i - 8 - 8 < 32 := by omega
  rcases Nat.lt_or_ge i 24 with h24 | h24
  · have hbit : 16 + (i - 8 - 8) = i := by omega
    simp [hbit, hi, hi8, show ¬i < 8 by omega, show ¬i - 8 < 8 by omega,
      show i - 8 - 8 < 8 by omega]
  · have hbit : 24 + (i - 8 - 8 - 8) = i := by omega
    simp [hbit, hi, hi8, hi16, show ¬i < 8 by omega, show ¬i - 8 < 8 by omega,
      show ¬i - 8 - 8 < 8 by omega, show i - 8 - 8 - 8 < 8 by omega]

end Hdlc
