import RowGate.Text.Emoji
import RowGate.Text.Ligature
import RowGate.Text.Width

/-! # Display width

The columns of a terminal that a text takes. Characters merge on the screen, so that the width is
counted from the end: what a character adds depends on what stands behind it.
-/

namespace RowGate.Text

/-- What a variation selector asks the character before it to show as. -/
inductive Style where
  | text
  | emoji
deriving DecidableEq, Repr

/-- What the counted part of a text starts with, as far as it matters to the character before it.
Behind a joiner stands an emoji; what stands before the joiner merges into it. -/
inductive Tail where
  | plain
  | lineFeed
  | modifier
  | flag
  | flags
  | emoji
  | joiner
  | keycap
  | joinedFlag
  | joinedFlags (odd : Bool)
  | tags (letters digits : Nat)
  | kiratE
  | kiratAi
  | alef
  | letter (l : Letter) (joined : Bool)
deriving DecidableEq, Repr

/-- The start of the counted part: a variation selector, if there is one, and what stands behind. -/
structure Front where
  tail : Tail := .plain
  style : Option Style := none
deriving DecidableEq, Repr

namespace Tail

/-- What a character is to the one before it. -/
def start (c : Char) : Tail :=
  if isModifier c then .modifier
  else if isFlagLetter c then .flag
  else if isEmoji c then .emoji
  else if isAlef c then .alef
  else if c.toNat = 0x16D67 then .kiratE
  else if c.toNat = 0x16D68 then .kiratAi
  else match letter? c with
    | some l => .letter l false
    | none => .plain

/-- What is left of a tail behind a selector that the character before it does not answer: a letter
joins across it. -/
def across : Tail → Tail
  | .alef => .alef
  | .letter l joined => .letter l joined
  | _ => .plain

/-- Whether a character in emoji style merges into the tail. -/
def takesStyled : Tail → Bool
  | .joiner => true
  | .keycap => true
  | _ => false

/-- The subdivision of a flag: three to six letters, or three digits before at most three
letters. -/
def endsFlag (letters digits : Nat) : Bool :=
  if digits = 0 then 3 ≤ letters else digits = 3

/-- One more tag before the tags of a subdivision, which are read from their end. -/
def tag? (letters digits : Nat) (c : Char) : Option Tail :=
  if Ranges.has [(0xE0061, 0xE007A)] c && digits = 0 && letters < 6 then
    some (.tags (letters + 1) 0)
  else if Ranges.has [(0xE0030, 0xE0039)] c && letters ≤ 3 && digits < 3 then
    some (.tags letters (digits + 1))
  else none

/-- How a letter merges with the character before it. -/
def mergeLetter (c : Char) : Letter → Bool → Option (Int × Tail)
  | .lamed, true => if c.toNat = 0x05D0 then some (0, .plain) else none
  | .ya, true => if c.toNat = 0x1A17 then some (0, .letter .vowelYa false) else none
  | .vowelYa, _ => if c.toNat = 0x1A15 then some (0, .plain) else none
  | .consonant, joined =>
    if c.toNat = 0x2D7F then some (1, .letter .joinedConsonant false)
    else if joined && isTifinaghConsonant c then some (0, .plain)
    else none
  | .joinedConsonant, _ => if isTifinaghConsonant c then some (-1, .plain) else none
  | .tone, _ => if Ranges.has [(0xA4F8, 0xA4FB)] c then some (0, .plain) else none
  | .orkhonI, true => if c.toNat = 0x10C32 then some (0, .plain) else none
  | .khmer, _ => if c.toNat = 0x17D2 then some (-1, .plain) else none
  | _, false => none

/-- How an emoji, or a joiner before one, merges with the character before it. -/
def mergeEmoji (c : Char) : Tail → Option (Int × Tail)
  | .modifier =>
    if takesModifier c then some (0, .emoji)
    else if c = '\u200d' then some (0, .joiner)
    else none
  | .flag => if isFlagLetter c then some (1, .flags) else none
  | .flags =>
    if isFlagLetter c then some (1, .flags)
    else if c = '\u200d' then some (0, .joiner)
    else none
  | .emoji => if c = '\u200d' then some (0, .joiner) else none
  | .joiner =>
    if c = '\u20e3' then some (0, .keycap)
    else if isFlagLetter c then some (1, .joinedFlag)
    else if isModifier c then some (0, .modifier)
    else if c.toNat = 0xE007F then some (0, .tags 0 0)
    else if isEmoji c then some (0, .emoji)
    else none
  | .joinedFlag => if isFlagLetter c then some (-1, .joinedFlags false) else none
  | .joinedFlags odd =>
    if isFlagLetter c then some (if odd then (-1, .joinedFlags false) else (3, .joinedFlags true))
    else if c = '\u200d' then some (0, .joiner)
    else none
  | .tags letters digits =>
    if c.toNat = 0x1F3F4 && endsFlag letters digits then some (0, .emoji)
    else (tag? letters digits c).map fun t => (0, t)
  | _ => none

/-- How a tail merges with the character before it: the columns that this adds or takes, and the
tail that they form. -/
def merge? (c : Char) : Tail → Option (Int × Tail)
  | .alef =>
    if isLam c then some (0, .plain)
    else if arabicTransparentRanges.has c then some (0, .alef)
    else none
  | .letter l joined =>
    if c = '\u200d' then some (0, .letter l true)
    else if isJoiningFormat c then some (0, .letter l joined)
    else mergeLetter c l joined
  | .kiratE =>
    if c.toNat = 0x16D63 ∨ c.toNat = 0x16D69 then some (0, .plain)
    else if c.toNat = 0x16D67 then some (0, .kiratAi)
    else if c.toNat = 0x16D68 then some (1, .kiratE)
    else none
  | .kiratAi => if c.toNat = 0x16D63 then some (0, .plain) else none
  | t => mergeEmoji c t

/-- A character before a tail without a selector. -/
def step (c : Char) (t : Tail) : Int × Front :=
  if c = '\n' then (1, ⟨.lineFeed, none⟩)
  else if c = '\r' ∧ t = .lineFeed then (0, {})
  else if c.toNat ≤ 0xA0 then (1, {})
  else if c = '\ufe0f' then (0, ⟨if t.takesStyled then t else t.across, some .emoji⟩)
  else if c = '\ufe0e' then (0, ⟨t.across, some .text⟩)
  else match t.merge? c with
    | some (n, t) => (n, ⟨t, none⟩)
    | none => (charColumns c, ⟨start c, none⟩)

end Tail

namespace Front

/-- A character before the counted part: the columns that it adds, and the new front. -/
def step (c : Char) (f : Front) : Int × Front :=
  match f.style with
  | none => f.tail.step c
  | some .emoji =>
    if takesEmojiStyle c then (if f.tail.takesStyled then 0 else 2, ⟨.emoji, none⟩)
    else f.tail.across.step c
  | some .text => if takesTextStyle c then (1, {}) else f.tail.across.step c

end Front

/-- The columns of a text and its front. -/
def measure : List Char → Int × Front
  | [] => (0, {})
  | c :: s =>
    let (columns, front) := measure s
    let (added, front) := front.step c
    (added + columns, front)

def columns (s : String) : Nat := (measure s.toList).1.toNat

end RowGate.Text
