import FacetQuery.Text.CharColumns
import FacetQuery.Text.Emoji

/-!
Columns that a line of text takes in a terminal. Most characters take columns of their own, and
some take others together than they do alone: emoji held together by joiners, skin tones and
selectors, and letters that some scripts write as one. A line is read from its end, since what a
character takes is decided by what stands behind it.
-/
namespace FacetQuery

/-- The character that asks for its neighbours to be joined. -/
def joiner : Char := '\u200D'

/-- A character between parts of a ligature that does not break it, the joiner apart. -/
def isLigatureFiller (c : Char) : Bool :=
  CodeRanges.contains
    [(0x34F, 0x34F), (0x17B4, 0x17B5), (0x180B, 0x180D), (0x180F, 0x180F), (0xFE00, 0xFE0F),
      (0xE0100, 0xE01EF)] c.toNat

/-- Arabic letters that a following alef is written into. -/
def isLam (c : Char) : Bool :=
  CodeRanges.contains
    [(0x644, 0x644), (0x6B5, 0x6B8), (0x76A, 0x76A), (0x8A6, 0x8A6), (0x8C7, 0x8C7)] c.toNat

def isAlef (c : Char) : Bool :=
  CodeRanges.contains
    [(0x622, 0x623), (0x625, 0x625), (0x627, 0x627), (0x671, 0x673), (0x675, 0x675),
      (0x773, 0x774), (0x870, 0x882)] c.toNat

/-- Khmer letters that are written below the letter before them, behind a coeng sign. -/
def isSubscriptLetter (c : Char) : Bool :=
  CodeRanges.contains
    [(0x1780, 0x1782), (0x1784, 0x1787), (0x1789, 0x178C), (0x178E, 0x1793), (0x1795, 0x1798),
      (0x179B, 0x179D), (0x17A0, 0x17A0), (0x17A2, 0x17A2), (0x17A7, 0x17A7), (0x17AB, 0x17AC),
      (0x17AF, 0x17AF)] c.toNat

def isTifinaghConsonant (c : Char) : Bool :=
  CodeRanges.contains [(0x2D31, 0x2D65), (0x2D6F, 0x2D6F)] c.toNat

/-- Lisu tone letters that a second one may follow. -/
def isFirstToneLetter (c : Char) : Bool := CodeRanges.contains [(0xA4F8, 0xA4FB)] c.toNat

def isSecondToneLetter (c : Char) : Bool := CodeRanges.contains [(0xA4FC, 0xA4FD)] c.toNat

def isTagLetter (c : Char) : Bool := CodeRanges.contains [(0xE0061, 0xE007A)] c.toNat

def isTagDigit (c : Char) : Bool := CodeRanges.contains [(0xE0030, 0xE0039)] c.toNat

/-- Quotation marks that are as wide as an ideograph if a selector says so. -/
def isQuotationMark (c : Char) : Bool := ['\u2018', '\u2019', '\u201C', '\u201D'].contains c

/-- What stands behind a character, as far as the character before it may join with it. -/
inductive Follower where
  /-- Nothing that joins. -/
  | plain
  /-- A picture, with all that belongs to it. -/
  | picture
  | skinTone
  /-- A flag letter, or with `more` several. -/
  | flagLetter (more : Bool)
  /-- A joiner and a picture. -/
  | joinedPicture
  /-- The mark of a keycap, a joiner and a picture. -/
  | joinedKeycap
  /-- A flag letter, a joiner and a picture. -/
  | joinedFlagLetter
  /-- Flags, a joiner and a picture; with `odd` there is a letter in front of the flags. -/
  | joinedFlags (odd : Bool)
  /-- Tags up to the one that ends them, a joiner and a picture: digits and letters of tags are
  counted from the last change between the two. -/
  | joinedTags (digits letters : Nat)
  | alef
  /-- A lamed, perhaps behind a joiner. -/
  | lamed (joined : Bool)
  | subscriptLetter
  /-- The Buginese ya, perhaps behind a joiner. -/
  | ya (joined : Bool)
  /-- The Buginese vowel sign i, a joiner and a ya. -/
  | vowelYa
  /-- A Tifinagh consonant, perhaps behind a joiner. -/
  | consonant (joined : Bool)
  /-- The Tifinagh sign that joins consonants, and a consonant. -/
  | signedConsonant
  | toneLetter
  /-- The Old Turkic i, perhaps behind a joiner. -/
  | orkhonI (joined : Bool)
  /-- An odd number of Kirat Rai vowel signs e. -/
  | vowelE
  /-- An even number of Kirat Rai vowel signs e. -/
  | vowelAi
  deriving DecidableEq, Repr

namespace Follower

/-- Followers that a selector in front of them does not change. -/
def keepsSelectors : Follower → Bool
  | alef | lamed _ | subscriptLetter | ya _ | vowelYa | consonant _ | signedConsonant
  | toneLetter | orkhonI _ => true
  | _ => false

/-- Followers that fillers in front of them do not change. -/
def keepsFillers (f : Follower) : Bool := f.keepsSelectors && f ≠ alef

/-- The follower behind a joiner. -/
def join : Follower → Follower
  | lamed _ => lamed true
  | ya _ => ya true
  | consonant _ => consonant true
  | orkhonI _ => orkhonI true
  | f => f

/-- What a character is to the one before it, if it does not join with what follows. -/
def ofChar (c : Char) : Follower :=
  if c.toNat ≤ 0xA0 then plain
  else if isPicture c then picture
  else if isSkinTone c then skinTone
  else if isFlagLetter c then flagLetter false
  else if isAlef c then alef
  else if c = '\u05DC' then lamed false
  else if isSubscriptLetter c then subscriptLetter
  else if c = '\u1A10' then ya false
  else if isTifinaghConsonant c then consonant false
  else if isSecondToneLetter c then toneLetter
  else if c.toNat = 0x10C03 then orkhonI false
  else if c.toNat = 0x16D67 then vowelE
  else if c.toNat = 0x16D68 then vowelAi
  else plain

/-- How the tags in front of a tag, a joiner and a picture go on, or end in a black flag. -/
def tag (digits letters : Nat) (c : Char) : Option Follower :=
  if isTagLetter c then
    if digits = 0 && letters < 6 then some (joinedTags 0 (letters + 1)) else none
  else if isTagDigit c then
    if digits = 0 && letters < 5 then some (joinedTags 1 letters)
    else if 1 ≤ digits && digits < 3 then some (joinedTags (digits + 1) letters)
    else none
  else if c.toNat = 0x1F3F4 then
    if digits = 3 || (digits = 0 && 3 ≤ letters) then some picture else none
  else none

/-- The columns that a character adds to a follower that it joins with, and what the two are to
the character before them. -/
def joinWith (c : Char) : Follower → Option (Int × Follower)
  | plain => none
  | picture => if c = joiner then some (0, joinedPicture) else none
  | skinTone =>
    if isSkinToned c then some (0, picture)
    else if c = joiner then some (0, joinedPicture)
    else none
  | flagLetter more =>
    if isFlagLetter c then some (1, flagLetter true)
    else if more && c = joiner then some (0, joinedPicture)
    else none
  | joinedPicture =>
    if c = '\u20E3' then some (0, joinedKeycap)
    else if isFlagLetter c then some (1, joinedFlagLetter)
    else if isSkinTone c then some (0, skinTone)
    else if c.toNat = 0xE007F then some (0, joinedTags 0 0)
    else if isPicture c then some (0, picture)
    else none
  | joinedKeycap => none
  | joinedFlagLetter => if isFlagLetter c then some (-1, joinedFlags false) else none
  | joinedFlags odd =>
    if isFlagLetter c then some (if odd then (-1, joinedFlags false) else (3, joinedFlags true))
    else if c = joiner then some (0, joinedPicture)
    else none
  | joinedTags digits letters => (tag digits letters c).map (0, ·)
  | alef =>
    if isLam c then some (0, plain) else if isJoinTransparent c then some (0, alef) else none
  | lamed joined => if joined && c = '\u05D0' then some (0, plain) else none
  | subscriptLetter => if c = '\u17D2' then some (-1, plain) else none
  | ya joined => if joined && c = '\u1A17' then some (0, vowelYa) else none
  | vowelYa => if c = '\u1A15' then some (0, plain) else none
  | consonant joined =>
    if c = '\u2D7F' then some (1, signedConsonant)
    else if joined && isTifinaghConsonant c then some (0, plain)
    else none
  | signedConsonant => if isTifinaghConsonant c then some (-1, plain) else none
  | toneLetter => if isFirstToneLetter c then some (0, plain) else none
  | orkhonI joined => if joined && c.toNat = 0x10C32 then some (0, plain) else none
  | vowelE =>
    if c.toNat = 0x16D63 || c.toNat = 0x16D69 then some (0, plain)
    else if c.toNat = 0x16D67 then some (0, vowelAi)
    else if c.toNat = 0x16D68 then some (1, vowelE)
    else none
  | vowelAi => if c.toNat = 0x16D63 then some (0, plain) else none

end Follower

/-- The rest of a line behind a character: a follower, and in front of it selectors that ask for a
picture, for text or for a wide form of the character. -/
structure LineTail where
  follower : Follower
  asPicture : Bool
  asText : Bool
  asWide : Bool
  deriving DecidableEq, Repr

namespace LineTail

def of (follower : Follower) : LineTail := ⟨follower, false, false, false⟩

/-- The end of a line. -/
def lineEnd : LineTail := of .plain

/-- A selector for pictures in front of the rest. -/
def selectPicture (next : LineTail) : LineTail :=
  if next.follower.keepsSelectors then { next with asPicture := true }
  else if next.follower = .joinedPicture || next.follower = .joinedKeycap then
    ⟨next.follower, true, false, false⟩
  else ⟨.plain, true, false, false⟩

/-- A selector for text in front of the rest. -/
def selectText (next : LineTail) : LineTail :=
  if next.follower.keepsSelectors then { next with asText := true }
  else ⟨.plain, false, true, false⟩

/-- A selector for wide forms in front of the rest. -/
def selectWide (next : LineTail) : LineTail :=
  if next.follower.keepsSelectors then { next with asWide := true }
  else ⟨.plain, false, false, true⟩

/-- The rest once a character has ignored its selector for pictures. -/
def dropPicture (next : LineTail) : LineTail :=
  if !next.asPicture then next
  else if next.follower.keepsSelectors then { next with asPicture := false }
  else lineEnd

/-- A picture that a selector makes. In front of a joiner it is part of the picture behind it. -/
def picture (next : LineTail) : Int × LineTail :=
  if next.follower = .joinedPicture || next.follower = .joinedKeycap then (0, of .picture)
  else (2, of .picture)

/-- A character that no selector bears on. -/
def unselected (c : Char) (next : LineTail) : Int × LineTail :=
  if next.follower.keepsFillers && c = joiner then
    (0, { next with follower := next.follower.join })
  else if next.follower.keepsFillers && isLigatureFiller c then (0, next)
  else
    match next.follower.joinWith c with
    | some (columns, follower) => (columns, of follower)
    | none => (charColumns c, of (.ofChar c))

/-- The columns that a character adds in front of the rest of a line, and the rest with it. -/
def add (c : Char) (next : LineTail) : Int × LineTail :=
  if next.asPicture && isSelectable c then next.picture
  else
    let next := next.dropPicture
    if c.toNat ≤ 0xA0 then (1, lineEnd)
    else if c = '\uFE0F' then (0, next.selectPicture)
    else if c = '\uFE0E' then (0, next.selectText)
    else if c = '\uFE01' then (0, next.selectWide)
    else if next.asText && isTextSelectable c then (1, lineEnd)
    else if next.asWide && isQuotationMark c then (2, lineEnd)
    else unselected c { next with asText := false, asWide := false }

/-- The columns of a line, and what it is to a character before it. -/
def ofLine (line : List Char) : Int × LineTail :=
  line.foldr
    (fun c (columns, next) =>
      let (more, tail) := next.add c
      (columns + more, tail))
    (0, lineEnd)

end LineTail

/-- The number of columns of a line of text. -/
def columns (line : List Char) : Nat := (LineTail.ofLine line).1.toNat

end FacetQuery
