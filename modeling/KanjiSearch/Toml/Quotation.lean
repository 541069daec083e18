import KanjiSearch.Text.Hexadecimal

/-!
# Quoted texts in TOML

Texts stand between one or three marks. Double quotes allow escapes, single quotes take every character for itself, and
three marks allow line breaks. Behind three marks a line break is left out, and so are a backslash at the end of a line
and all blanks and line breaks behind it. Up to two marks may stand directly before three closing ones.
-/

namespace KanjiSearch.Toml

/-- Whether `c` is a space or a tab. -/
def isSpace (c : Char) : Bool :=
  c == ' ' || c == '\t'

/-- A text without the space at its beginning. -/
def skipSpace (cs : List Char) : List Char :=
  cs.dropWhile isSpace

/-- Whether a text begins with a line break. -/
def startsBreak : List Char → Bool
  | '\n' :: _ => true
  | '\r' :: '\n' :: _ => true
  | _ => false

/-- A text without the line break at its beginning. -/
def skipBreak : List Char → List Char
  | '\n' :: cs => cs
  | '\r' :: '\n' :: cs => cs
  | cs => cs

/-- Whether `c` may stand in texts and comments as it is: every character but the control codes other than the tab. -/
def isPlain (c : Char) : Bool :=
  c == '\t' || (0x20 ≤ c.toNat && c.toNat != 0x7F)

/-! ## Marks -/

/-- The marks around a text. -/
structure Quote where
  mark : Char
  /-- whether there are three marks -/
  multiline : Bool
  deriving DecidableEq

namespace Quote

/-- Whether a backslash begins an escape. -/
def escapes (q : Quote) : Bool :=
  q.mark == '"'

/-- The marks before and behind a text. -/
def marks (q : Quote) : List Char :=
  if q.multiline then [q.mark, q.mark, q.mark] else [q.mark]

/-- The end of a text, if it is here: the marks that still belong to the text, and what follows the closing ones. -/
def ending? (q : Quote) (cs : List Char) : Option (List Char × List Char) :=
  let run := (cs.takeWhile (· == q.mark)).length
  if q.multiline then
    if 3 ≤ run then some (List.replicate (min run 5 - 3) q.mark, cs.drop (min run 5)) else none
  else if 1 ≤ run then some ([], cs.drop 1) else none

end Quote

/-- The opening marks at the beginning of a text, and what follows them. -/
def opening? : List Char → Option (Quote × List Char)
  | '"' :: '"' :: '"' :: cs => some (⟨'"', true⟩, skipBreak cs)
  | '\'' :: '\'' :: '\'' :: cs => some (⟨'\'', true⟩, skipBreak cs)
  | '"' :: cs => some (⟨'"', false⟩, cs)
  | '\'' :: cs => some (⟨'\'', false⟩, cs)
  | _ => none

/-! ## Texts -/

/-- The character that a backslash and `c` stand for. -/
def shortEscape? (c : Char) : Option Char :=
  match c with
  | 'b' => some '\x08'
  | 't' => some '\t'
  | 'n' => some '\n'
  | 'f' => some '\x0c'
  | 'r' => some '\r'
  | 'e' => some '\x1b'
  | '"' => some '"'
  | '\\' => some '\\'
  | _ => none

/-- The character with a number in hexadecimal digits. -/
def numberedChar? (digits : List Char) : Option Char :=
  match Text.hexValue? digits with
  | some n => if n.isValidChar then some (Char.ofNat n) else none
  | none => none

/-- A text with a character in front. -/
def withChar (c : Option Char) (found : Option (List Char × List Char)) : Option (List Char × List Char) :=
  match c, found with
  | some c, some (text, rest) => some (c :: text, rest)
  | _, _ => none

/-- The text up to its closing marks, and what follows them. While `trim` is set, blanks and line breaks are
left out. -/
def textUpTo (q : Quote) (trim : Bool) : List Char → Option (List Char × List Char)
  | [] => none
  | c :: cs =>
    match q.ending? (c :: cs) with
    | some found => some found
    | none =>
      if q.escapes && c == '\\' then
        match cs with
        | [] => none
        | 'x' :: d₁ :: d₂ :: rest => withChar (numberedChar? [d₁, d₂]) (textUpTo q false rest)
        | 'u' :: d₁ :: d₂ :: d₃ :: d₄ :: rest => withChar (numberedChar? [d₁, d₂, d₃, d₄]) (textUpTo q false rest)
        | 'U' :: d₁ :: d₂ :: d₃ :: d₄ :: d₅ :: d₆ :: d₇ :: d₈ :: rest =>
          withChar (numberedChar? [d₁, d₂, d₃, d₄, d₅, d₆, d₇, d₈]) (textUpTo q false rest)
        | e :: rest =>
          if q.multiline && startsBreak (skipSpace (e :: rest)) then textUpTo q true (e :: rest)
          else withChar (shortEscape? e) (textUpTo q false rest)
      else
        let breaks := q.multiline && startsBreak (c :: cs)
        if trim && (isSpace c || breaks) then textUpTo q trim cs
        else if isPlain c || breaks then withChar (some c) (textUpTo q false cs)
        else none

end KanjiSearch.Toml
