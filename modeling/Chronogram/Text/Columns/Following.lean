import Chronogram.Text.Columns.Alone
import Chronogram.Text.Columns.Emoji

/-!
What stands after a character, as far as it changes the columns of the character.

Some sequences are shown as one sign: emoji with a selector, a skin tone or joiners, flags, and
ligatures of single scripts. A line is read from its end, so that the character in hand completes a
sequence whose end is already known: `Context.before` gives the columns that a character adds to
those after it, and the context it leaves to the character before it.
-/

namespace Chronogram.Text

/-- The end of a ligature whose other characters may stand before it. -/
inductive LigatureEnd where
  /-- Hebrew lamed, after alef and a joiner. -/
  | lamed
  /-- Buginese ya, after a joiner, the vowel sign I and the letter A. -/
  | ya
  /-- Buginese ya with a joiner and the vowel sign I. -/
  | vowelAndYa
  /-- A Tifinagh consonant, after another one and a joiner of either kind. -/
  | consonant
  /-- A Tifinagh consonant with the consonant joiner. -/
  | joinerAndConsonant
  /-- A lower Lisu tone letter, after an upper one. -/
  | lowerTone
  /-- Old Turkic I, after EC and a joiner. -/
  | orkhonI
  /-- A Khmer letter that has a form below the letter before it. -/
  | subscript
  deriving Repr, DecidableEq

/-- The letters of flags before a joiner and an emoji. -/
inductive FlagLetters where
  | one
  | even
  | odd
  deriving Repr, DecidableEq

/-- What stands after a character. -/
inductive Following where
  /-- Nothing that completes a sequence. -/
  | ordinary
  /-- An Arabic alef, and marks that are transparent to joining. -/
  | alef
  /-- The end of a ligature, perhaps with a joiner before it. -/
  | ligature (ending : LigatureEnd) (joined : Bool)
  /-- One regional indicator, or several. -/
  | flagLetters (several : Bool)
  /-- A skin tone. -/
  | skinTone
  /-- An emoji. -/
  | emoji
  /-- A joiner and an emoji. -/
  | joinedEmoji
  /-- An enclosing keycap, a joiner and an emoji. -/
  | joinedKeycap
  /-- Regional indicators, a joiner and an emoji. -/
  | joinedFlag (letters : FlagLetters)
  /-- Tag letters and the end of a tag, a joiner and an emoji. -/
  | joinedTagLetters (count : Nat)
  /-- Tag digits, perhaps letters, and the end of a tag, a joiner and an emoji. -/
  | joinedTagDigits (count : Nat)
  /-- An odd number of Kirat Rai vowel signs E. -/
  | oddVowels
  /-- An even number of Kirat Rai vowel signs E. -/
  | evenVowels
  deriving Repr, DecidableEq

def isAlef (c : Char) : Bool :=
  Ranges.contains [(0x622, 0x623), (0x625, 0x625), (0x627, 0x627), (0x671, 0x673), (0x675, 0x675),
    (0x773, 0x774), (0x870, 0x882)] c.toNat

def isLam (c : Char) : Bool :=
  Ranges.contains [(0x644, 0x644), (0x6B5, 0x6B8), (0x76A, 0x76A), (0x8A6, 0x8A6), (0x8C7, 0x8C7)]
    c.toNat

/-- Whether a character is a Khmer letter that has a form below the letter before it. -/
def isSubscriptLetter (c : Char) : Bool :=
  Ranges.contains [(0x1780, 0x1782), (0x1784, 0x1787), (0x1789, 0x178C), (0x178E, 0x1793),
    (0x1795, 0x1798), (0x179B, 0x179D), (0x17A0, 0x17A0), (0x17A2, 0x17A2), (0x17A7, 0x17A7),
    (0x17AB, 0x17AC), (0x17AF, 0x17AF)] c.toNat

def isTifinaghConsonant (c : Char) : Bool :=
  Ranges.contains [(0x2D31, 0x2D65), (0x2D6F, 0x2D6F)] c.toNat

/-- Whether a character may stand within a ligature without a trace. -/
def isLigatureFiller (c : Char) : Bool :=
  Ranges.contains [(0x34F, 0x34F), (0x17B4, 0x17B5), (0x180B, 0x180D), (0x180F, 0x180F),
    (0x200D, 0x200D), (0xFE00, 0xFE0F), (0xE0100, 0xE01EF)] c.toNat

/-- Characters that take no column and yet keep Arabic letters from joining. -/
def separatingRanges : Ranges :=
  [(0x605, 0x605), (0x890, 0x891), (0x8E2, 0x8E2), (0x9BE, 0x9BE), (0x9D7, 0x9D7), (0xB3E, 0xB3E),
   (0xB57, 0xB57), (0xBBE, 0xBBE), (0xBD7, 0xBD7), (0xCC0, 0xCC0), (0xCC2, 0xCC2), (0xCC7, 0xCC8),
   (0xCCA, 0xCCB), (0xCD5, 0xCD6), (0xD3E, 0xD3E), (0xD4E, 0xD4E), (0xD57, 0xD57), (0xDCF, 0xDCF),
   (0xDDF, 0xDDF), (0x1160, 0x11FF), (0x1715, 0x1715), (0x1734, 0x1734), (0x180E, 0x180E),
   (0x1B35, 0x1B35), (0x1B3B, 0x1B3B), (0x1B3D, 0x1B3D), (0x1B43, 0x1B44), (0x1BAA, 0x1BAA),
   (0x1BF2, 0x1BF3), (0x200C, 0x200D), (0x2065, 0x2069), (0x302E, 0x302F), (0x3164, 0x3164),
   (0xA8FA, 0xA8FA), (0xA953, 0xA953), (0xA9C0, 0xA9C0), (0xD7B0, 0xD7C6), (0xD7CB, 0xD7FB),
   (0xFFA0, 0xFFA0), (0xFFF0, 0xFFF8), (0x111C0, 0x111C0), (0x111C2, 0x111C3), (0x11235, 0x11235),
   (0x1133E, 0x1133E), (0x1134D, 0x1134D), (0x11357, 0x11357), (0x113B8, 0x113B8),
   (0x113C2, 0x113C2), (0x113C5, 0x113C5), (0x113C7, 0x113C9), (0x113CF, 0x113CF),
   (0x113D1, 0x113D1), (0x114B0, 0x114B0), (0x114BD, 0x114BD), (0x115AF, 0x115AF),
   (0x116B6, 0x116B6), (0x11930, 0x11930), (0x1193D, 0x1193D), (0x1193F, 0x1193F),
   (0x11941, 0x11941), (0x11A84, 0x11A89), (0x11D46, 0x11D46), (0x11F02, 0x11F02),
   (0x11F41, 0x11F41), (0x16FF0, 0x16FF1), (0x1D165, 0x1D166), (0x1D16D, 0x1D172),
   (0xE0000, 0xE0000), (0xE0002, 0xE001F), (0xE0080, 0xE00FF), (0xE01F0, 0xE0FFF)]

/-- Whether Arabic letters join across a character. -/
def isTransparentMark (c : Char) : Bool :=
  columnsAlone c == 0 && !separatingRanges.contains c.toNat

/-- What a character is to the one before it, when it is no part of a longer sequence. -/
def Following.ofChar (c : Char) : Following :=
  if c.toNat < 0x5DC then .ordinary
  else if isEmoji c then .emoji
  else if isFlagLetter c then .flagLetters false
  else if isSkinTone c then .skinTone
  else if isAlef c then .alef
  else if isSubscriptLetter c then .ligature .subscript false
  else if isTifinaghConsonant c then .ligature .consonant false
  else match c.toNat with
    | 0x5DC => .ligature .lamed false
    | 0x1A10 => .ligature .ya false
    | 0xA4FC | 0xA4FD => .ligature .lowerTone false
    | 0x10C03 => .ligature .orkhonI false
    | 0x16D67 => .oddVowels
    | 0x16D68 => .evenVowels
    | _ => .ordinary

/-- Whether variation selectors leave what they find after them as it is. -/
def Following.keepsSelectors : Following → Bool
  | .alef | .ligature _ _ => true
  | _ => false

/-- Whether an emoji before it is a part of the same picture. -/
def Following.isJoined : Following → Bool
  | .joinedEmoji | .joinedKeycap => true
  | _ => false

/-- Whether a character is a quotation mark that has a fullwidth form. -/
def isQuotationMark (c : Char) : Bool :=
  Ranges.contains [(0x2018, 0x2019), (0x201C, 0x201D)] c.toNat

/-- What a variation selector asks of the character before it. -/
inductive Style where
  | emoji
  | plain
  | fullwidth
  deriving Repr, DecidableEq

def Style.ofChar? (c : Char) : Option Style :=
  match c.toNat with
  | 0xFE0F => some .emoji
  | 0xFE0E => some .plain
  | 0xFE01 => some .fullwidth
  | _ => none

/-- What stands after a character, and the styles that the selectors between them ask for. -/
structure Context where
  styles : List Style
  following : Following
  deriving Repr, DecidableEq

namespace Context

def lineEnd : Context := ⟨[], .ordinary⟩

/-- A character after which no selector stands. -/
def unstyled (following : Following) : Context := ⟨[], following⟩

/-- A selector before what stands after it. Selectors add up only where they leave what they find
after them as it is. -/
def select (style : Style) (context : Context) : Context :=
  if context.following.keepsSelectors then ⟨style :: context.styles, context.following⟩
  else if style = .emoji && context.following.isJoined then ⟨[style], context.following⟩
  else ⟨[style], .ordinary⟩

/-- The context of a character that is no emoji: the wish for one is void. -/
def withoutEmoji (context : Context) : Context :=
  if context.styles.contains .emoji then
    ⟨context.styles.filter (· ≠ .emoji),
      if context.following.keepsSelectors then context.following else .ordinary⟩
  else context

end Context

namespace Following

/-- The columns that a character adds before the end of a sequence, and what it leaves to the
character before it; nothing if the character does not belong to the sequence. -/
def absorb? (c : Char) : Following → Option (Int × Following)
  | .ordinary => none
  | .alef =>
      if isLam c then some (0, .ordinary)
      else if isTransparentMark c then some (0, .alef)
      else none
  | .ligature ending joined =>
      if c.toNat = 0x200D then some (0, .ligature ending true)
      else if isLigatureFiller c then some (0, .ligature ending joined)
      else match ending, joined with
        | .lamed, true => if c.toNat = 0x5D0 then some (0, .ordinary) else none
        | .ya, true =>
            if c.toNat = 0x1A17 then some (0, .ligature .vowelAndYa true) else none
        | .vowelAndYa, _ => if c.toNat = 0x1A15 then some (0, .ordinary) else none
        | .consonant, joined =>
            if c.toNat = 0x2D7F then some (1, .ligature .joinerAndConsonant true)
            else if joined && isTifinaghConsonant c then some (0, .ordinary)
            else none
        | .joinerAndConsonant, _ =>
            if isTifinaghConsonant c then some (-1, .ordinary) else none
        | .lowerTone, _ =>
            if 0xA4F8 ≤ c.toNat && c.toNat ≤ 0xA4FB then some (0, .ordinary) else none
        | .orkhonI, true => if c.toNat = 0x10C32 then some (0, .ordinary) else none
        | .subscript, _ => if c.toNat = 0x17D2 then some (-1, .ordinary) else none
        | _, _ => none
  | .flagLetters several =>
      if isFlagLetter c then some (1, .flagLetters true)
      else if several && c.toNat = 0x200D then some (0, .joinedEmoji)
      else none
  | .skinTone =>
      if isTonedEmoji c then some (0, .emoji)
      else if c.toNat = 0x200D then some (0, .joinedEmoji)
      else none
  | .emoji => if c.toNat = 0x200D then some (0, .joinedEmoji) else none
  | .joinedEmoji =>
      if c.toNat = 0x20E3 then some (0, .joinedKeycap)
      else if isFlagLetter c then some (1, .joinedFlag .one)
      else if isSkinTone c then some (0, .skinTone)
      else if c.toNat = 0xE007F then some (0, .joinedTagLetters 0)
      else if isEmoji c then some (0, .emoji)
      else none
  | .joinedKeycap => none
  | .joinedFlag .even =>
      if isFlagLetter c then some (3, .joinedFlag .odd)
      else if c.toNat = 0x200D then some (0, .joinedEmoji)
      else none
  | .joinedFlag letters =>
      if isFlagLetter c then some (-1, .joinedFlag .even)
      else if letters == .odd && c.toNat = 0x200D then some (0, .joinedEmoji)
      else none
  | .joinedTagLetters count =>
      if isTagLetter c && count < 6 then some (0, .joinedTagLetters (count + 1))
      else if isTagDigit c && count < 5 then some (0, .joinedTagDigits 1)
      else if c.toNat = 0x1F3F4 && 3 ≤ count then some (0, .emoji)
      else none
  | .joinedTagDigits count =>
      if isTagDigit c && count < 3 then some (0, .joinedTagDigits (count + 1))
      else if c.toNat = 0x1F3F4 && count = 3 then some (0, .emoji)
      else none
  | .oddVowels =>
      match c.toNat with
      | 0x16D63 | 0x16D69 => some (0, .ordinary)
      | 0x16D67 => some (0, .evenVowels)
      | 0x16D68 => some (1, .oddVowels)
      | _ => none
  | .evenVowels => if c.toNat = 0x16D63 then some (0, .ordinary) else none

/-- The columns that a character adds before what stands after it, and what it leaves to the
character before it. -/
def before (c : Char) (following : Following) : Int × Following :=
  (following.absorb? c).getD (Int.ofNat (columnsAlone c), ofChar c)

end Following

/-- The columns that a character adds to those after it, and the context it leaves to the character
before it. A selector acts on the character right before it, and on no other. -/
def Context.before (c : Char) (context : Context) : Int × Context :=
  if context.styles.contains .emoji && isStyledEmoji c then
    (if context.following.isJoined then 0 else 2, .unstyled .emoji)
  else
    let context := context.withoutEmoji
    match Style.ofChar? c with
    | some style => (0, context.select style)
    | none =>
        if context.styles.contains .plain && isPlainEmoji c then (1, .lineEnd)
        else if context.styles.contains .fullwidth && isQuotationMark c then (2, .lineEnd)
        else (context.following.before c).map id .unstyled

end Chronogram.Text
