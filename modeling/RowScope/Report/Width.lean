/-
How wide text is on a screen.

A character takes one column, none if it stands on the one before it, and two if it is
wide.  Where characters are drawn as one, the whole counts: pictures that are joined,
flags, and letters that some scripts write as one.

* `charWidth` — the columns of a character by itself;
* `Ahead.extend` — the columns that a character adds before a text;
* `displayWidth` — the columns of a text.

Design notes: a text is measured from its end, for what is drawn as one is known when its
first character is met.  `Opening` says how the text measured so far begins, and a
character that completes a drawing may take columns back.
-/
import RowScope.Text.Emoji
import RowScope.Text.Ligature
import RowScope.Text.Wide
import RowScope.Text.ZeroWidth

namespace RowScope

/-- The columns of a character by itself. -/
def charWidth (c : Char) : Nat :=
  if c.toNat ≤ 0xa0 then 1
  else if c.toNat == 0x17a4 then 2
  else if c.toNat == 0x17d8 then 3
  else if ZeroWidth.takesNone c then 0
  else if Wide.takesTwo c then 2
  else 1

/-- The hidden sign that joins what is on either side. -/
def isJoiner (c : Char) : Bool :=
  c.toNat == 0x200d

/-- The marks of quotation that are drawn narrow or wide. -/
def isQuotation (c : Char) : Bool :=
  c.toNat == 0x2018 || c.toNat == 0x2019 || c.toNat == 0x201c || c.toNat == 0x201d

/-- Asks how the character before it is drawn. -/
inductive Selector
  -- As a plain sign.
  | plain
  -- As a picture.
  | picture
  -- As a wide mark of quotation.
  | wide
deriving DecidableEq

/-- The selector that a character is. -/
def Selector.ofChar? (c : Char) : Option Selector :=
  if c.toNat == 0xfe0e then some .plain
  else if c.toNat == 0xfe0f then some .picture
  else if c.toNat == 0xfe01 then some .wide
  else none

/-- How a text begins, as far as it bears on the character before it. -/
inductive Opening
  -- With nothing that bears on it.
  | ordinary
  -- With an Arabic alef.
  | alef
  -- With a Hebrew lamed, and whether a joiner stands before it.
  | lamed (joined : Bool)
  -- With a letter of Khmer that may stand below another.
  | khmer
  -- With a Buginese ya, and whether a joiner stands before it.
  | ya (joined : Bool)
  -- With a Buginese vowel sign joined to a ya.
  | vowelYa
  -- With a consonant of Tifinagh, and whether a joiner stands before it.
  | tifinagh (joined : Bool)
  -- With a consonant of Tifinagh that is bound to the one before.
  | boundTifinagh
  -- With the second of two marks of tone of Lisu.
  | lisuEnd
  -- With the Old Turkic letter i, and whether a joiner stands before it.
  | orkhonI (joined : Bool)
  -- With the vowel sign e of Kirat Rai.
  | kiratE
  -- With the vowel sign ai of Kirat Rai.
  | kiratAi
  -- With a picture.
  | picture
  -- With a colour of skin.
  | modifier
  -- With one letter of a flag.
  | indicator
  -- With several letters of flags.
  | indicators
  -- With a joiner before a picture.
  | joined
  -- With the frame of a key, joined to a picture.
  | joinedKeycap
  -- With one letter of a flag, joined to a picture.
  | joinedIndicator
  -- With whole flags, joined to a picture.
  | joinedFlags
  -- With a letter and whole flags, joined to a picture.
  | joinedIndicatorFlags
  -- With hidden letters that close a name of a region, joined to a picture.
  | tagLetters (count : Nat)
  -- With hidden digits before such letters.
  | tagDigits (count : Nat)
deriving DecidableEq

namespace Opening

/-- How a text begins that consists of a character. -/
def ofChar (c : Char) : Opening :=
  if Ligature.isAlef c then .alef
  else if c.toNat == 0x5dc then .lamed false
  else if Ligature.isKhmer c then .khmer
  else if c.toNat == 0x1a10 then .ya false
  else if Ligature.isTifinagh c then .tifinagh false
  else if Ligature.isLisuEnd c then .lisuEnd
  else if c.toNat == 0x10c03 then .orkhonI false
  else if c.toNat == 0x16d67 then .kiratE
  else if c.toNat == 0x16d68 then .kiratAi
  else if Emoji.isIndicator c then .indicator
  else if Emoji.isModifier c then .modifier
  else if Emoji.isPicture c then .picture
  else .ordinary

/-- Whether letters are written as one across marks that show nothing and joiners. -/
def passesJoiner : Opening → Bool
  | lamed _ | khmer | ya _ | vowelYa | tifinagh _ | boundTifinagh | lisuEnd | orkhonI _ => true
  | _ => false

/-- Whether letters are written as one across a selector. -/
def passesSelector (o : Opening) : Bool :=
  o == alef || o.passesJoiner

def isJoined (o : Opening) : Bool :=
  o == joined || o == joinedKeycap

/-- How a text begins with a joiner before letters that may be written as one. -/
def join : Opening → Opening
  | lamed _ => lamed true
  | ya _ => ya true
  | tifinagh _ => tifinagh true
  | orkhonI _ => orkhonI true
  | o => o

/-- A joiner before a picture, which adds no column. -/
def joinPicture? (c : Char) : Option (Int × Opening) :=
  if isJoiner c then some (0, joined) else none

/-- A character before a text that it is drawn with: the columns that it adds, and how the
longer text begins. -/
def before? (c : Char) : Opening → Option (Int × Opening)
  | ordinary | lamed false | ya false | orkhonI false => none
  | alef =>
    if Ligature.isLam c then some (0, ordinary)
    else if ZeroWidth.isTransparent c then some (0, alef)
    else none
  | lamed true => if c.toNat == 0x5d0 then some (0, ordinary) else none
  | khmer => if c.toNat == 0x17d2 then some (-1, ordinary) else none
  | ya true => if c.toNat == 0x1a17 then some (0, vowelYa) else none
  | vowelYa => if c.toNat == 0x1a15 then some (0, ordinary) else none
  | tifinagh isJoined =>
    if c.toNat == 0x2d7f then some (1, boundTifinagh)
    else if isJoined && Ligature.isTifinagh c then some (0, ordinary)
    else none
  | boundTifinagh => if Ligature.isTifinagh c then some (-1, ordinary) else none
  | lisuEnd => if Ligature.isLisuTone c then some (0, ordinary) else none
  | orkhonI true => if c.toNat == 0x10c32 then some (0, ordinary) else none
  | kiratE =>
    if c.toNat == 0x16d63 then some (0, ordinary)
    else if c.toNat == 0x16d67 then some (0, kiratAi)
    else if c.toNat == 0x16d68 then some (1, kiratE)
    else if c.toNat == 0x16d69 then some (0, ordinary)
    else none
  | kiratAi => if c.toNat == 0x16d63 then some (0, ordinary) else none
  | picture => joinPicture? c
  | modifier => if Emoji.takesModifier c then some (0, picture) else joinPicture? c
  | indicator => if Emoji.isIndicator c then some (1, indicators) else none
  | indicators => if Emoji.isIndicator c then some (1, indicators) else joinPicture? c
  | joined =>
    if c.toNat == 0x20e3 then some (0, joinedKeycap)
    else if Emoji.isIndicator c then some (1, joinedIndicator)
    else if Emoji.isModifier c then some (0, modifier)
    else if c.toNat == 0xe007f then some (0, tagLetters 0)
    else if Emoji.isPicture c then some (0, picture)
    else none
  | joinedKeycap => none
  | joinedIndicator => if Emoji.isIndicator c then some (-1, joinedFlags) else none
  | joinedFlags =>
    if Emoji.isIndicator c then some (3, joinedIndicatorFlags) else joinPicture? c
  | joinedIndicatorFlags =>
    if Emoji.isIndicator c then some (-1, joinedFlags) else joinPicture? c
  | tagLetters n =>
    if Emoji.isTagLetter c && n < 6 then some (0, tagLetters (n + 1))
    else if Emoji.isTagDigit c && n ≤ 4 then some (0, tagDigits 1)
    else if c.toNat == 0x1f3f4 && 3 ≤ n then some (0, picture)
    else none
  | tagDigits n =>
    if Emoji.isTagDigit c && n < 3 then some (0, tagDigits (n + 1))
    else if c.toNat == 0x1f3f4 && n == 3 then some (0, picture)
    else none

end Opening

/-- A text that is measured from its end: how it begins, and the selectors that stand before
that and ask about the next character. -/
structure Ahead where
  opening : Opening := .ordinary
  selectors : List Selector := []

namespace Ahead

/-- A text without one of the selectors before it. -/
def drop (a : Ahead) (s : Selector) : Ahead :=
  { a with selectors := a.selectors.filter (· != s) }

/-- A text with one more selector before it.  The selector parts what was drawn as one,
unless letters pass it or it makes a picture to be joined. -/
def select (a : Ahead) (s : Selector) : Ahead :=
  if a.opening.passesSelector then { a with selectors := s :: a.selectors }
  else if s == .picture && a.opening.isJoined then { a with selectors := [s] }
  else { selectors := [s] }

/-- A character before a text once no selector asks about it. -/
def extendDrawing (c : Char) (a : Ahead) : Int × Ahead :=
  if a.opening.passesJoiner && isJoiner c then (0, { a with opening := a.opening.join })
  else if a.opening.passesJoiner && ZeroWidth.isHiddenMark c then (0, a)
  else
    match if a.selectors.isEmpty then a.opening.before? c else none with
    | some (n, o) => (n, { opening := o })
    | none => (charWidth c, { opening := .ofChar c })

/-- A character before a text once no selector asks for a picture. -/
def extendSign (c : Char) (a : Ahead) : Int × Ahead :=
  if c.toNat ≤ 0xa0 then (1, {})
  else
    match Selector.ofChar? c with
    | some s => (0, a.select s)
    | none =>
      if a.selectors.contains .plain then
        if Emoji.isPlainable c then (1, {}) else (a.drop .plain).extendDrawing c
      else if a.selectors.contains .wide then
        if isQuotation c then (2, {}) else (a.drop .wide).extendDrawing c
      else a.extendDrawing c

/-- A character before a text: the columns that it adds, and the longer text. -/
def extend (c : Char) (a : Ahead) : Int × Ahead :=
  if a.selectors.contains .picture then
    if Emoji.takesSelector c then
      (if a.opening.isJoined then 0 else 2, { opening := .picture })
    else if a.opening.passesSelector then (a.drop .picture).extendSign c
    else extendSign c {}
  else a.extendSign c

/-- The columns of characters in a row, and the text that they make. -/
def measure (cs : List Char) : Int × Ahead :=
  cs.foldr (fun c (width, a) => let (n, b) := a.extend c; (n + width, b)) (0, {})

end Ahead

/-- The columns of a text on one line. -/
def displayWidth (s : String) : Nat :=
  (Ahead.measure s.toList).1.toNat

end RowScope
