import KanjiSearch.Text.Extender
import KanjiSearch.Text.Width.Properties

/-!
# Display width

The number of terminal cells that a text takes. Most characters take one cell, wide ones two, and marks none
(`cells`). Beyond that the width of a character may depend on what follows it: emoji sequences take two cells together,
and some pairs of letters share one. The text is therefore measured from its end, and `Follower` keeps what a character
has to know about the text to its right.
-/

namespace KanjiSearch.Text

/-! ## Single characters -/

/-- Whether `c` takes no cell. -/
def isZeroWidth (c : Char) : Bool :=
  c != '\u2d7f' && (isExtender c || ignorableRanges.includes c.toNat || attachedRanges.includes c.toNat)

/-- The cells of a character that no neighbour changes. -/
def cells (c : Char) : Nat :=
  if c = '\u17d8' then 3
  else if wideRanges.includes c.toNat then 2
  else if isZeroWidth c then 0
  else 1

/-- Whether a style selector turns `c` into a picture. -/
def takesEmojiStyle (c : Char) : Bool :=
  emojiStyleRanges.includes c.toNat

/-- Whether a style selector turns the picture `c` into a narrow character. -/
def takesTextStyle (c : Char) : Bool :=
  textStyleRanges.includes c.toNat

/-- Whether a style selector makes the quotation mark `c` as wide as an ideograph. -/
def takesWideStyle (c : Char) : Bool :=
  c == '\u2018' || c == '\u2019' || c == '\u201c' || c == '\u201d'

/-- A letter of a flag. -/
def isFlagLetter (c : Char) : Bool :=
  0x1F1E6 ≤ c.toNat && c.toNat ≤ 0x1F1FF

/-- A skin tone. -/
def isSkinTone (c : Char) : Bool :=
  0x1F3FB ≤ c.toNat && c.toNat ≤ 0x1F3FF

/-- A small letter of a tag. -/
def isTagLetter (c : Char) : Bool :=
  0xE0061 ≤ c.toNat && c.toNat ≤ 0xE007A

/-- A digit of a tag. -/
def isTagDigit (c : Char) : Bool :=
  0xE0030 ≤ c.toNat && c.toNat ≤ 0xE0039

/-- A consonant of Tifinagh. -/
def isTifinaghConsonant (c : Char) : Bool :=
  (0x2D31 ≤ c.toNat && c.toNat ≤ 0x2D65) || c == '\u2d6f'

/-- A form of the Arabic letter lam. -/
def isLam (c : Char) : Bool :=
  CodeRanges.includes
    [(0x644, 0x644), (0x6B5, 0x6B8), (0x76A, 0x76A), (0x8A6, 0x8A6), (0x8C7, 0x8C7)] c.toNat

/-- A form of the Arabic letter alef. -/
def isAlef (c : Char) : Bool :=
  CodeRanges.includes
    [(0x622, 0x623), (0x625, 0x625), (0x627, 0x627), (0x671, 0x673), (0x675, 0x675), (0x773, 0x774), (0x870, 0x882)]
    c.toNat

/-- A Khmer letter that the sign coeng writes below the letter before it. -/
def isKhmerSubscript (c : Char) : Bool :=
  CodeRanges.includes
    [(0x1780, 0x1782), (0x1784, 0x1787), (0x1789, 0x178C), (0x178E, 0x1793), (0x1795, 0x1798), (0x179B, 0x179D),
     (0x17A0, 0x17A0), (0x17A2, 0x17A2), (0x17A7, 0x17A7), (0x17AB, 0x17AC), (0x17AF, 0x17AF)] c.toNat

/-- A mark that does not part the letters of a pair. -/
def isPairTransparent (c : Char) : Bool :=
  CodeRanges.includes
    [(0x34F, 0x34F), (0x17B4, 0x17B5), (0x180B, 0x180D), (0x180F, 0x180F), (0x200D, 0x200D), (0xFE00, 0xFE0F),
     (0xE0100, 0xE01EF)] c.toNat

/-! ## What follows a character -/

/-- The first letter of a pair that shares cells, seen from its second half. -/
inductive Pair where
  | lamed (joined : Bool)
  | ya (joined : Bool)
  | yaAfterSign
  | tifinagh (joined : Bool)
  | tifinaghJoiner
  | lisuTone
  | orkhonI (joined : Bool)
  | khmerLetter
  deriving DecidableEq

/-- What stands to the right of a character, as far as it matters for the width. -/
inductive FollowerKind where
  | plain
  | lineFeed
  | skinTone
  | flagLetter
  | flagLetters
  | emoji
  | joinedEmoji
  | joinedKeycap
  | joinedFlagLetter
  | joinedFlags
  | joinedFlagsLetter
  | tagEnd
  | tagLetters (count : Nat)
  | tagDigits (count : Nat)
  | alef
  | pair (pair : Pair)
  | kiratRaiE
  | kiratRaiAi
  deriving DecidableEq

/-- A style that a selector asks for. -/
inductive Style where
  /-- a narrow character -/
  | text
  /-- a picture -/
  | emoji
  /-- a wide quotation mark -/
  | wide
  deriving DecidableEq

/-- The style that a selector asks for. -/
def Style.ofSelector? (c : Char) : Option Style :=
  if c == '\ufe0f' then some .emoji
  else if c == '\ufe0e' then some .text
  else if c == '\ufe01' then some .wide
  else none

/-- What stands to the right of a character, with the style that still waits for its base. -/
structure Follower where
  kind : FollowerKind
  style : Option Style
  deriving DecidableEq

namespace Follower

/-- A follower without a selector. -/
def of (kind : FollowerKind) : Follower :=
  ⟨kind, none⟩

/-- Whether the follower is the second half of a pair that a selector does not part. -/
def isLigature (f : Follower) : Bool :=
  match f.kind with
  | .alef | .pair _ => true
  | _ => false

/-- Whether the follower hangs on a joiner. -/
def isJoined (f : Follower) : Bool :=
  match f.kind with
  | .joinedEmoji | .joinedKeycap => true
  | _ => false

/-- The follower behind a selector. -/
def withStyle (f : Follower) (style : Style) : Follower :=
  if f.isLigature || (f.isJoined && style = .emoji) then ⟨f.kind, some style⟩ else ⟨.plain, some style⟩

/-- The follower once its selector has found no base. -/
def withoutStyle (f : Follower) : Follower :=
  if f.style.isNone || f.isLigature then of f.kind else of .plain

end Follower

/-- The pair with a joiner before its second half. -/
def Pair.join : Pair → Pair
  | .lamed _ => .lamed true
  | .ya _ => .ya true
  | .tifinagh _ => .tifinagh true
  | .orkhonI _ => .orkhonI true
  | p => p

/-- What a character that no neighbour changes is for the character before it. -/
def followerKind (c : Char) : FollowerKind :=
  if isFlagLetter c then .flagLetter
  else if isSkinTone c then .skinTone
  else if emojiRanges.includes c.toNat then .emoji
  else if isAlef c then .alef
  else if isKhmerSubscript c then .pair .khmerLetter
  else if isTifinaghConsonant c then .pair (.tifinagh false)
  else if c == '\u05dc' then .pair (.lamed false)
  else if c == '\u1a10' then .pair (.ya false)
  else if c == '\ua4fc' || c == '\ua4fd' then .pair .lisuTone
  else if c.toNat == 0x10C03 then .pair (.orkhonI false)
  else if c.toNat == 0x16D67 then .kiratRaiE
  else if c.toNat == 0x16D68 then .kiratRaiAi
  else .plain

/-! ## Measuring -/

/-- The step at a character that only the tables describe. -/
def plainStep (c : Char) : Int × Follower :=
  (cells c, .of (followerKind c))

/-- The step that two letters of a pair take together, if `c` is the first of them. -/
def pairStep? (p : Pair) (c : Char) : Option (Int × Follower) :=
  match p with
  | .lamed true => if c == '\u05d0' then some (0, .of .plain) else none
  | .khmerLetter => if c == '\u17d2' then some (-1, .of .plain) else none
  | .ya true => if c == '\u1a17' then some (0, .of (.pair .yaAfterSign)) else none
  | .yaAfterSign => if c == '\u1a15' then some (0, .of .plain) else none
  | .tifinagh joined =>
    if c == '\u2d7f' then some (1, .of (.pair .tifinaghJoiner))
    else if joined && isTifinaghConsonant c then some (0, .of .plain)
    else none
  | .tifinaghJoiner => if isTifinaghConsonant c then some (-1, .of .plain) else none
  | .lisuTone => if 0xA4F8 ≤ c.toNat && c.toNat ≤ 0xA4FB then some (0, .of .plain) else none
  | .orkhonI true => if c.toNat == 0x10C32 then some (0, .of .plain) else none
  | _ => none

/-- The step of a character before an emoji that a joiner ties to it. -/
def joinedStep? (c : Char) : Option (Int × Follower) :=
  if c == '\u20e3' then some (0, .of .joinedKeycap)
  else if isFlagLetter c then some (1, .of .joinedFlagLetter)
  else if isSkinTone c then some (0, .of .skinTone)
  else if c.toNat == 0xE007F then some (0, .of .tagEnd)
  else if emojiRanges.includes c.toNat then some (0, .of .emoji)
  else none

/-- The step inside the tag of a flag, read from its end. -/
def tagStep? (letters digits : Nat) (c : Char) : Option (Int × Follower) :=
  if digits == 0 && letters < 6 && isTagLetter c then some (0, .of (.tagLetters (letters + 1)))
  else if digits < 3 && (digits != 0 || letters < 5) && isTagDigit c then some (0, .of (.tagDigits (digits + 1)))
  else if (digits == 3 || (digits == 0 && 3 ≤ letters)) && c.toNat == 0x1F3F4 then some (0, .of .emoji)
  else none

/-- The step that `c` takes together with what follows it. -/
def groupStep? (kind : FollowerKind) (c : Char) : Option (Int × Follower) :=
  match kind with
  | .alef =>
    if isLam c then some (0, .of .plain)
    else if cells c == 0 && !nonJoiningRanges.includes c.toNat then some (0, .of .alef)
    else none
  | .pair p => pairStep? p c
  | .skinTone =>
    if emojiModifierBaseRanges.includes c.toNat then some (0, .of .emoji)
    else if c == '\u200d' then some (0, .of .joinedEmoji)
    else none
  | .flagLetter => if isFlagLetter c then some (1, .of .flagLetters) else none
  | .flagLetters =>
    if isFlagLetter c then some (1, .of .flagLetters)
    else if c == '\u200d' then some (0, .of .joinedEmoji)
    else none
  | .emoji => if c == '\u200d' then some (0, .of .joinedEmoji) else none
  | .joinedEmoji => joinedStep? c
  | .joinedFlagLetter => if isFlagLetter c then some (-1, .of .joinedFlags) else none
  | .joinedFlags =>
    if isFlagLetter c then some (3, .of .joinedFlagsLetter)
    else if c == '\u200d' then some (0, .of .joinedEmoji)
    else none
  | .joinedFlagsLetter =>
    if isFlagLetter c then some (-1, .of .joinedFlags)
    else if c == '\u200d' then some (0, .of .joinedEmoji)
    else none
  | .tagEnd => tagStep? 0 0 c
  | .tagLetters count => tagStep? count 0 c
  | .tagDigits count => tagStep? 0 count c
  | .kiratRaiE =>
    if c.toNat == 0x16D63 || c.toNat == 0x16D69 then some (0, .of .plain)
    else if c.toNat == 0x16D67 then some (0, .of .kiratRaiAi)
    else if c.toNat == 0x16D68 then some (1, .of .kiratRaiE)
    else none
  | .kiratRaiAi => if c.toNat == 0x16D63 then some (0, .of .plain) else none
  | .plain | .lineFeed | .joinedKeycap => none

/-- The step at a character beyond U+00A0 whose follower waits for no base. -/
def groupedStep (c : Char) (f : Follower) : Int × Follower :=
  match f.kind with
  | .pair p =>
    if c == '\u200d' then (0, .of (.pair p.join))
    else if isPairTransparent c then (0, f)
    else (pairStep? p c).getD (plainStep c)
  | kind => (groupStep? kind c).getD (plainStep c)

/-- The step at a character beyond U+00A0 that is not the base of a picture. -/
def wideStep (c : Char) (f : Follower) : Int × Follower :=
  match Style.ofSelector? c with
  | some style => (0, f.withStyle style)
  | none =>
    if f.style = some .text && takesTextStyle c then (1, .of .plain)
    else if f.style = some .wide && takesWideStyle c then (2, .of .plain)
    else groupedStep c f.withoutStyle

/-- The cells that `c` adds before `f`, and what the two are together for the character before them. -/
def widthStep (c : Char) (f : Follower) : Int × Follower :=
  if f.style = some .emoji && takesEmojiStyle c then (if f.isJoined then 0 else 2, .of .emoji)
  else
    let f := if f.style = some .emoji then f.withoutStyle else f
    if c = '\n' then (1, .of .lineFeed)
    else if c = '\r' && f == .of .lineFeed then (0, .of .plain)
    else if c.toNat ≤ 0xA0 then (1, .of .plain)
    else wideStep c f

/-- The width of a text, and what its beginning is for a character before it. -/
def measure : List Char → Int × Follower
  | [] => (0, .of .plain)
  | c :: cs =>
    let (sum, follower) := measure cs
    let (added, follower) := widthStep c follower
    (sum + added, follower)

/-- The number of terminal cells that a text takes. -/
def width (cs : List Char) : Nat :=
  (measure cs).1.toNat

end KanjiSearch.Text
