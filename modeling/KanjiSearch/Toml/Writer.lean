import KanjiSearch.Toml.Quotation

/-!
# Writing TOML

Texts and lists of texts. A text is written with the plainest marks that suit it (`quoteFor`). A list of two or more
texts has one on each line.
-/

namespace KanjiSearch.Toml

/-! ## The choice of marks -/

/-- The length of the longest run of `mark` in a text that goes on with a run of length `run`. -/
def longestRun (mark : Char) (run : Nat) : List Char → Nat
  | [] => run
  | c :: cs => if c = mark then longestRun mark (run + 1) cs else max run (longestRun mark 0 cs)

/-- Whether `c` can only be written as an escape. -/
def needsEscape (c : Char) : Bool :=
  !isPlain c && c != '\n'

/-- The marks for a text: one mark if there are no line breaks, and double quotes before single ones; escapes are used
only where nothing else is possible. -/
def quoteFor (cs : List Char) : Quote :=
  let escaped := cs.any needsEscape
  let breaks := cs.contains '\n'
  let doubles := longestRun '"' 0 cs
  let singles := longestRun '\'' 0 cs
  if !escaped && !breaks && !cs.contains '\\' && doubles = 0 then ⟨'"', false⟩
  else if !escaped && !breaks && singles = 0 then ⟨'\'', false⟩
  else if !escaped && !cs.contains '\\' && doubles ≤ 2 then ⟨'"', true⟩
  else if !escaped && singles ≤ 2 then ⟨'\'', true⟩
  else ⟨'"', breaks⟩

/-! ## Texts -/

/-- A character other than a quote between double quotes. -/
def writtenChar (c : Char) : List Char :=
  match c with
  | '\x08' => ['\\', 'b']
  | '\t' => ['\\', 't']
  | '\n' => ['\\', 'n']
  | '\x0c' => ['\\', 'f']
  | '\r' => ['\\', 'r']
  | '\\' => ['\\', '\\']
  | c =>
    if isPlain c then [c]
    else ['\\', 'u', '0', '0', Text.upperHexDigit (c.toNat / 16), Text.upperHexDigit (c.toNat % 16)]

/-- A text between double quotes, `run` of which stand directly before it. Between three quotes every third one in a row
is escaped, and no line break. -/
def writtenChars (multiline : Bool) (run : Nat) : List Char → List Char
  | [] => []
  | c :: cs =>
    if c = '"' then
      if multiline ∧ run < 2 then '"' :: writtenChars multiline (run + 1) cs
      else '\\' :: '"' :: writtenChars multiline 0 cs
    else if multiline ∧ c = '\n' then '\n' :: writtenChars multiline 0 cs
    else writtenChar c ++ writtenChars multiline 0 cs

/-- A text between its marks. Before a text with line breaks there is one more, which is not part of the text. -/
def writtenText (cs : List Char) : List Char :=
  let q := quoteFor cs
  q.marks ++ (if q.multiline && cs.contains '\n' then ['\n'] else []) ++
    (if q.escapes then writtenChars q.multiline 0 cs else cs) ++ q.marks

/-! ## Lists -/

/-- A list of texts. -/
def writtenTexts : List (List Char) → List Char
  | [] => ['[', ']']
  | [text] => '[' :: (writtenText text ++ [']'])
  | texts => '[' :: '\n' :: (texts.flatMap fun text => "    ".toList ++ writtenText text ++ [',', '\n']) ++ [']']

end KanjiSearch.Toml
