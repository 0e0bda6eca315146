import Hdlc.Text.Ligature

/-!
# Columns of a text

The number of columns that a line of text takes in a fixed-width layout. It is the sum over the
characters, taken from the end, of what each adds in the context of those behind it. A selector
decides whether the character before it is an emoji, of two columns, or text, and whether a
quotation mark before it has full width.
-/

namespace Hdlc.Text

/-- The form that a selector asks for. -/
inductive Selector
  | emoji
  | text
  /-- The form of a quotation mark that takes as much room as an ideograph. -/
  | fullWidth
  deriving DecidableEq, Repr

def Selector.ofChar? (char : Char) : Option Selector :=
  if char.toNat = 0xfe0f then some emoji
  else if char.toNat = 0xfe0e then some text
  else if char.toNat = 0xfe01 then some fullWidth
  else none

/-- Whether a character is a quotation mark that has a form of full width. -/
def isQuotationMark (char : Char) : Bool :=
  char.toNat = 0x2018 || char.toNat = 0x2019 || char.toNat = 0x201c || char.toNat = 0x201d

/-- What stands behind a place in a text, as far as it matters to the characters before it. -/
structure Context where
  follower : Follower := .nothing
  selector : Option Selector := none
  deriving DecidableEq, Repr

namespace Context

/-- The context once a selector has come before it. A selector parts the characters around it,
except where it stands inside a ligature of letters or, asking for an emoji, before a joiner. -/
def select (context : Context) (selector : Selector) : Context :=
  if context.follower.isLetter ∨ (selector = .emoji ∧ context.follower.isJoinedEmoji) then
    { context with selector := some selector }
  else { selector := some selector }

/-- The context if the character before has no use for the selector in front. A selector for an
emoji then parts an emoji sequence. -/
def ignoreSelector (context : Context) : Context :=
  match context.selector with
  | some .emoji => if context.follower.isLetter then { follower := context.follower } else {}
  | _ => { follower := context.follower }

/-- What a character adds by itself. -/
def start (char : Char) : Int × Context :=
  (charWidth char, { follower := .ofChar char })

/-- What a character adds before a follower. -/
def meet (follower : Follower) (char : Char) : Int × Context :=
  if follower.isPatient && char.toNat = 0x200d then (0, { follower := follower.join })
  else if follower.isPatient && inRanges ignorableMarkRanges char then (0, { follower })
  else
    match follower.merge? char with
    | some (columns, follower) => (columns, { follower })
    | none => start char

/-- The columns that a character adds before a context, and the context before it. -/
def precede (context : Context) (char : Char) : Int × Context :=
  if context.selector = some .emoji ∧ hasEmojiForm char then
    (if context.follower.isJoinedEmoji then 0 else 2, { follower := .emoji })
  else if char.toNat ≤ 0xa0 then (1, {})
  else
    match Selector.ofChar? char with
    | some selector =>
        let context :=
          if context.selector = some .emoji then context.ignoreSelector else context
        (0, context.select selector)
    | none =>
        if context.selector = some .text ∧ hasNarrowForm char then (1, {})
        else if context.selector = some .fullWidth ∧ isQuotationMark char then (2, {})
        else meet context.ignoreSelector.follower char

end Context

def width (line : String) : Nat :=
  let (columns, _) := line.toList.foldr (fun char (columns, context) =>
    let (own, context) := context.precede char
    (columns + own, context)) ((0 : Int), ({} : Context))
  columns.toNat

end Hdlc.Text
