import Hdlc.Text.Emoji
import Hdlc.Text.Width

/-!
# Ligatures

Neighbouring characters may be drawn as one and then take fewer columns than they would apart.
A text is measured from its end; a `Follower` says what the characters already measured begin, as
far as that matters to the ones before them, and `Follower.merge?` is the table of all ligatures.
A ligature changes the count by the columns that the merged character adds, which are negative
where it also takes back columns counted before.
-/

namespace Hdlc.Text

/-- Arabic letters of the joining group lam. -/
def lamRanges : List (Nat × Nat) :=
   [(0x644, 0x644), (0x6b5, 0x6b8), (0x76a, 0x76a), (0x8a6, 0x8a6), (0x8c7, 0x8c7)]

/-- Arabic letters of the joining group alef. -/
def alefRanges : List (Nat × Nat) :=
   [(0x622, 0x623), (0x625, 0x625), (0x627, 0x627), (0x671, 0x673), (0x675, 0x675),
    (0x773, 0x774), (0x870, 0x882)]

/-- Khmer letters that are drawn below the letter before them when a sign asks for it. -/
def subjoinedRanges : List (Nat × Nat) :=
   [(0x1780, 0x1782), (0x1784, 0x1787), (0x1789, 0x178c), (0x178e, 0x1793), (0x1795, 0x1798),
    (0x179b, 0x179d), (0x17a0, 0x17a0), (0x17a2, 0x17a2), (0x17a7, 0x17a7), (0x17ab, 0x17ac),
    (0x17af, 0x17af)]

/-- Tifinagh consonants, two of which may be joined. -/
def consonantRanges : List (Nat × Nat) :=
   [(0x2d31, 0x2d65), (0x2d6f, 0x2d6f)]

/-- Combining marks that are ignored in display. -/
def ignorableMarkRanges : List (Nat × Nat) :=
   [(0x34f, 0x34f), (0x17b4, 0x17b5), (0x180b, 0x180d), (0x180f, 0x180f), (0xfe00, 0xfe0f),
    (0xe0100, 0xe01ef)]

/-- Code points that take no column but still keep the letters around them from joining. -/
def opaqueRanges : List (Nat × Nat) :=
   [(0x605, 0x605), (0x890, 0x891), (0x8e2, 0x8e2), (0x9be, 0x9be), (0x9d7, 0x9d7), (0xb3e, 0xb3e),
    (0xb57, 0xb57), (0xbbe, 0xbbe), (0xbd7, 0xbd7), (0xcc0, 0xcc0), (0xcc2, 0xcc2), (0xcc7, 0xcc8),
    (0xcca, 0xccb), (0xcd5, 0xcd6), (0xd3e, 0xd3e), (0xd4e, 0xd4e), (0xd57, 0xd57), (0xdcf, 0xdcf),
    (0xddf, 0xddf), (0x1160, 0x11ff), (0x1715, 0x1715), (0x1734, 0x1734), (0x180e, 0x180e),
    (0x1b35, 0x1b35), (0x1b3b, 0x1b3b), (0x1b3d, 0x1b3d), (0x1b43, 0x1b44), (0x1baa, 0x1baa),
    (0x1bf2, 0x1bf3), (0x200c, 0x200d), (0x2065, 0x2069), (0x302e, 0x302f), (0x3164, 0x3164),
    (0xa8fa, 0xa8fa), (0xa953, 0xa953), (0xa9c0, 0xa9c0), (0xd7b0, 0xd7c6), (0xd7cb, 0xd7fb),
    (0xffa0, 0xffa0), (0xfff0, 0xfff8), (0x111c0, 0x111c0), (0x111c2, 0x111c3), (0x11235, 0x11235),
    (0x1133e, 0x1133e), (0x1134d, 0x1134d), (0x11357, 0x11357), (0x113b8, 0x113b8),
    (0x113c2, 0x113c2), (0x113c5, 0x113c5), (0x113c7, 0x113c9), (0x113cf, 0x113cf),
    (0x113d1, 0x113d1), (0x114b0, 0x114b0), (0x114bd, 0x114bd), (0x115af, 0x115af),
    (0x116b6, 0x116b6), (0x11930, 0x11930), (0x1193d, 0x1193d), (0x1193f, 0x1193f),
    (0x11941, 0x11941), (0x11a84, 0x11a89), (0x11d46, 0x11d46), (0x11f02, 0x11f02),
    (0x11f41, 0x11f41), (0x16ff0, 0x16ff1), (0x1d165, 0x1d166), (0x1d16d, 0x1d172),
    (0x1d25f, 0x1d25f), (0x1d280, 0x1d281), (0xe0000, 0xe0000), (0xe0002, 0xe001f),
    (0xe0080, 0xe00ff), (0xe01f0, 0xe0fff)]

/-- Whether a character without columns lets the letters around it join. -/
def isTransparent (char : Char) : Bool :=
  charWidth char = 0 && !inRanges opaqueRanges char

/-- What the characters behind a place begin. Letters that merge only across a joiner say whether
one has come. -/
inductive Follower
  | nothing
  /-- An Arabic alef. -/
  | alef
  /-- A Hebrew lamed. -/
  | lamed (joined : Bool)
  /-- A Khmer letter that may be drawn below another. -/
  | subjoined
  /-- A Buginese ya. -/
  | ya (joined : Bool)
  /-- A Buginese vowel sign and a ya joined to it. -/
  | vowelAndYa
  /-- A Tifinagh consonant. -/
  | consonant (joined : Bool)
  /-- A consonant joiner and a Tifinagh consonant. -/
  | joinedConsonant
  /-- A second Lisu tone letter. -/
  | tone
  /-- An Old Turkic i. -/
  | orkhonI (joined : Bool)
  /-- The Kirat Rai vowel signs e and ai. -/
  | vowelE
  | vowelAi
  /-- A skin tone. -/
  | modifier
  | emoji
  /-- One flag letter, or more than one. -/
  | flagLetter
  | flagLetters
  /-- A joiner and an emoji. -/
  | joinedEmoji
  /-- A keycap, a joiner and an emoji. -/
  | keycap
  /-- Flag letters, a joiner and an emoji. Flag letters pair up with the first of them. -/
  | joinedFlagLetter
  | joinedFlagPairs
  | joinedFlagPairsAndLetter
  /-- The end of the name of a flag, a joiner and an emoji: the name's letters and digits so far. -/
  | joinedName (letters : Nat)
  | joinedDigits (digits : Nat)
  deriving DecidableEq, Repr

namespace Follower

/-- What a character begins by itself. -/
def ofChar (char : Char) : Follower :=
  let code := char.toNat
  if code < 0x5dc then nothing
  else if code = 0x5dc then lamed false
  else if code = 0x1a10 then ya false
  else if code = 0xa4fc ∨ code = 0xa4fd then tone
  else if code = 0x10c03 then orkhonI false
  else if code = 0x16d67 then vowelE
  else if code = 0x16d68 then vowelAi
  else if inRanges alefRanges char then alef
  else if inRanges subjoinedRanges char then subjoined
  else if inRanges consonantRanges char then consonant false
  else if isFlagLetter char then flagLetter
  else if isModifier char then modifier
  else if isEmoji char then emoji
  else nothing

/-- Whether the follower is the second part of a ligature of letters. -/
def isLetter : Follower → Bool
  | alef | lamed _ | subjoined | ya _ | vowelAndYa | consonant _ | joinedConsonant | tone
  | orkhonI _ => true
  | _ => false

/-- Whether joiners and marks that are ignored in display may come in between. All ligatures of
letters but the Arabic ones allow it. -/
def isPatient : Follower → Bool
  | alef => false
  | follower => follower.isLetter

/-- Whether the character before belongs to an emoji already counted. -/
def isJoinedEmoji : Follower → Bool
  | joinedEmoji | keycap => true
  | _ => false

/-- The follower once a joiner has come before it. -/
def join : Follower → Follower
  | lamed _ => lamed true
  | ya _ => ya true
  | consonant _ => consonant true
  | orkhonI _ => orkhonI true
  | follower => follower

/-- Letters and digits in the name of a flag: three to six letters, or at most four letters before
three digits. -/
def spell? (follower : Follower) (char : Char) : Option Follower :=
  let code := char.toNat
  let isLetter : Bool := 0xe0061 ≤ code && code ≤ 0xe007a
  let isDigit : Bool := 0xe0030 ≤ code && code ≤ 0xe0039
  let isBlackFlag : Bool := code = 0x1f3f4
  match follower with
  | joinedName letters =>
      if isLetter && letters < 6 then some (joinedName (letters + 1))
      else if isDigit && letters ≤ 4 then some (joinedDigits 1)
      else if isBlackFlag && 3 ≤ letters then some emoji
      else none
  | joinedDigits digits =>
      if isDigit && digits < 3 then some (joinedDigits (digits + 1))
      else if isBlackFlag && digits = 3 then some emoji
      else none
  | _ => none

/-- The columns that a character adds before a follower with which it merges, and what the two
begin together. -/
def merge? (follower : Follower) (char : Char) : Option (Int × Follower) :=
  let code := char.toNat
  match follower with
  | nothing | keycap => none
  | alef =>
      if inRanges lamRanges char then some (0, nothing)
      else if isTransparent char then some (0, alef)
      else none
  | lamed joined => if joined && code = 0x5d0 then some (0, nothing) else none
  | subjoined => if code = 0x17d2 then some (-1, nothing) else none
  | ya joined => if joined && code = 0x1a17 then some (0, vowelAndYa) else none
  | vowelAndYa => if code = 0x1a15 then some (0, nothing) else none
  | consonant joined =>
      if code = 0x2d7f then some (1, joinedConsonant)
      else if joined && inRanges consonantRanges char then some (0, nothing)
      else none
  | joinedConsonant => if inRanges consonantRanges char then some (-1, nothing) else none
  | tone => if 0xa4f8 ≤ code ∧ code ≤ 0xa4fb then some (0, nothing) else none
  | orkhonI joined => if joined && code = 0x10c32 then some (0, nothing) else none
  | vowelE =>
      if code = 0x16d63 ∨ code = 0x16d69 then some (0, nothing)
      else if code = 0x16d67 then some (0, vowelAi)
      else if code = 0x16d68 then some (1, vowelE)
      else none
  | vowelAi => if code = 0x16d63 then some (0, nothing) else none
  | modifier =>
      if isToned char then some (0, emoji)
      else if code = 0x200d then some (0, joinedEmoji)
      else none
  | emoji => if code = 0x200d then some (0, joinedEmoji) else none
  | flagLetter => if isFlagLetter char then some (1, flagLetters) else none
  | flagLetters =>
      if isFlagLetter char then some (1, flagLetters)
      else if code = 0x200d then some (0, joinedEmoji)
      else none
  | joinedEmoji =>
      if code = 0x20e3 then some (0, keycap)
      else if isFlagLetter char then some (1, joinedFlagLetter)
      else if isModifier char then some (0, modifier)
      else if code = 0xe007f then some (0, joinedName 0)
      else if isEmoji char then some (0, emoji)
      else none
  | joinedFlagLetter => if isFlagLetter char then some (-1, joinedFlagPairs) else none
  | joinedFlagPairs =>
      if isFlagLetter char then some (3, joinedFlagPairsAndLetter)
      else if code = 0x200d then some (0, joinedEmoji)
      else none
  | joinedFlagPairsAndLetter =>
      if isFlagLetter char then some (-1, joinedFlagPairs)
      else if code = 0x200d then some (0, joinedEmoji)
      else none
  | joinedName _ | joinedDigits _ => (follower.spell? char).map fun next => (0, next)

end Follower

end Hdlc.Text
