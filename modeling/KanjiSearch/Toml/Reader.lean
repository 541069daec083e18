import KanjiSearch.Toml.Moment
import KanjiSearch.Toml.Number
import KanjiSearch.Toml.Quotation
import KanjiSearch.Toml.Table

/-!
# Reading TOML

A document is read in two steps: its text is cut into statements (`statements`), which are then carried out in order
(`tableOf?`). Arrays and tables in braces may go over several lines, also around an equals sign, end with a comma, and
be nested `maxNesting` deep.
-/

namespace KanjiSearch.Toml

/-- The number of arrays and tables in braces that may be open at once. -/
def maxNesting : Nat := 80

/-- A text without the space, line breaks and comments at its beginning. While `comment` is set, a comment goes on.
There is none if a comment has a control code. -/
def skipGap (comment : Bool) : List Char → Option (List Char)
  | [] => some []
  | '\n' :: cs => skipGap false cs
  | '\r' :: '\n' :: cs => skipGap false cs
  | c :: cs =>
    if comment then if isPlain c then skipGap true cs else none
    else if c == '#' then skipGap true cs
    else if isSpace c then skipGap false cs
    else some (c :: cs)

/-- Whether nothing but space and a comment follows on the same line. -/
def endsLine (cs : List Char) : Bool :=
  match skipSpace cs with
  | [] => true
  | c :: cs => c == '#' || startsBreak (c :: cs)

/-! ## Keys -/

/-- Whether `c` may stand in a key without quotes. -/
def isKeyChar (c : Char) : Bool :=
  c.isAlphanum || c == '-' || c == '_'

/-- The part of a key at the beginning of a text, and what follows it. -/
def keyPart? (cs : List Char) : Option (String × List Char) :=
  match opening? cs with
  | some (q, rest) =>
    if q.multiline then none
    else (textUpTo q false rest).map fun (text, rest) => (String.ofList text, rest)
  | none =>
    match cs.takeWhile isKeyChar with
    | [] => none
    | word => some (String.ofList word, cs.drop word.length)

/-- The greatest number of parts in a dotted key. -/
def maxKeyParts : Nat := 80

/-- The dotted key of at most `room` parts at the beginning of a text, and what follows it and the space behind it. -/
def keyWithin? : Nat → List Char → Option (List String × List Char)
  | 0, _ => none
  | room + 1, cs =>
    match keyPart? cs with
    | none => none
    | some (part, rest) =>
      match skipSpace rest with
      | '.' :: rest => (keyWithin? room (skipSpace rest)).map fun (parts, rest) => (part :: parts, rest)
      | rest => some ([part], rest)

/-- The dotted key at the beginning of a text, and what follows it and the space behind it. -/
def key? (cs : List Char) : Option (List String × List Char) :=
  keyWithin? maxKeyParts cs

/-- The key of an entry of a table in braces, and the value behind it. The equals sign may stand on a line of its
own. -/
def memberKey? (cs : List Char) : Option (List String × List Char) :=
  match key? cs with
  | none => none
  | some (path, rest) =>
    match skipGap false rest with
    | some ('=' :: rest) => (skipGap false rest).map fun rest => (path, rest)
    | _ => none

/-! ## Values -/

/-- Whether `c` may stand in a value without quotes and brackets. -/
def isWordChar (c : Char) : Bool :=
  c != '=' && c != ',' && c != '[' && c != ']' && c != '\x7b' && c != '\x7d' && c != '#' && !isSpace c && c != '\r' &&
    c != '\n'

/-- The word at the beginning of a text, and what follows it. -/
def word (cs : List Char) : List Char × List Char :=
  (cs.takeWhile isWordChar, cs.dropWhile isWordChar)

/-- The value that a word spells. -/
def ofWord? (w : List Char) : Option Toml :=
  if w = "true".toList then some (bool true)
  else if w = "false".toList then some (bool false)
  else if isMoment w then some moment
  else
    match float? w with
    | some value => some value
    | none => integer? w

/-- The value without quotes and brackets at the beginning of a text, and what follows it. A date takes a time that a
space separates from it. -/
def scalar? (cs : List Char) : Option (Toml × List Char) :=
  match word cs with
  | (first, ' ' :: rest) =>
    let (second, rest') := word rest
    if isDate first && second.head?.any Char.isDigit then (ofWord? (first ++ ' ' :: second)).map fun v => (v, rest')
    else (ofWord? first).map fun v => (v, ' ' :: rest)
  | (first, rest) => (ofWord? first).map fun v => (v, rest)

mutual

/-- The value at the beginning of a text, and what follows it. There is fuel for `fuel` values and items, and room for
`room` more arrays and tables. -/
def value : Nat → Nat → List Char → Option (Toml × List Char)
  | 0, _, _ => none
  | fuel + 1, room, cs =>
    match cs with
    | '[' :: rest =>
      match room with
      | 0 => none
      | room + 1 => (items fuel room rest).map fun (items, rest) => (array items, rest)
    | '\x7b' :: rest =>
      match room with
      | 0 => none
      | room + 1 => (members fuel room [] rest).map fun (entries, rest) => (table .closed entries, rest)
    | cs =>
      match opening? cs with
      | some (q, rest) => (textUpTo q false rest).map fun (text, rest) => (string (String.ofList text), rest)
      | none => scalar? cs

/-- The items of an array up to its end. -/
def items : Nat → Nat → List Char → Option (List Toml × List Char)
  | 0, _, _ => none
  | fuel + 1, room, cs =>
    match skipGap false cs with
    | some (']' :: rest) => some ([], rest)
    | some cs =>
      match value fuel room cs with
      | none => none
      | some (item, rest) =>
        match skipGap false rest with
        | some (',' :: rest) => (items fuel room rest).map fun (more, rest) => (item :: more, rest)
        | some (']' :: rest) => some ([item], rest)
        | _ => none
    | none => none

/-- The entries of a table in braces up to its end, behind those that have been read. -/
def members : Nat → Nat → Entries → List Char → Option (Entries × List Char)
  | 0, _, _, _ => none
  | fuel + 1, room, entries, cs =>
    match skipGap false cs with
    | some ('\x7d' :: rest) => some (entries, rest)
    | some cs =>
      match memberKey? cs with
      | none => none
      | some (path, rest) =>
        match value fuel room rest with
        | none => none
        | some (item, rest) =>
          match assign? item path entries, skipGap false rest with
          | some entries, some (',' :: rest) => members fuel room entries rest
          | some entries, some ('\x7d' :: rest) => some (entries, rest)
          | _, _ => none
    | none => none

end

/-! ## Statements -/

/-- A statement of a document. -/
inductive Statement where
  | assign (path : List String) (value : Toml)
  /-- a header in single brackets -/
  | header (path : List String)
  /-- a header in double brackets -/
  | rowHeader (path : List String)

/-- The statement at the beginning of a text, and what follows it. -/
def statement? (cs : List Char) : Option (Statement × List Char) :=
  match cs with
  | '[' :: '[' :: rest =>
    match key? (skipSpace rest) with
    | some (path, ']' :: ']' :: rest) => some (.rowHeader path, rest)
    | _ => none
  | '[' :: rest =>
    match key? (skipSpace rest) with
    | some (path, ']' :: rest) => some (.header path, rest)
    | _ => none
  | _ =>
    match key? cs with
    | some (path, '=' :: rest) =>
      (value (2 * cs.length + 2) maxNesting (skipSpace rest)).map fun (v, rest) => (.assign path v, rest)
    | _ => none

/-- The statements of a text, which are at most `fuel`. -/
def statements : Nat → List Char → Option (List Statement)
  | 0, _ => none
  | fuel + 1, cs =>
    match skipGap false cs with
    | none => none
    | some [] => some []
    | some cs =>
      match statement? cs with
      | none => none
      | some (statement, rest) =>
        if endsLine rest then (statements fuel rest).map (statement :: ·) else none

/-! ## Documents -/

/-- A header and the lines below it. -/
structure Section where
  path : List String
  isRow : Bool
  lines : List Assignment

/-- The lines before the first header, and the sections. -/
def sections : List Statement → List Assignment × List Section
  | [] => ([], [])
  | .assign path value :: rest =>
    let (lines, more) := sections rest
    ((path, value) :: lines, more)
  | .header path :: rest =>
    let (lines, more) := sections rest
    ([], ⟨path, false, lines⟩ :: more)
  | .rowHeader path :: rest =>
    let (lines, more) := sections rest
    ([], ⟨path, true, lines⟩ :: more)

/-- Entries with the table of a section. -/
def addSection? (entries : Entries) (s : Section) : Option Entries :=
  alter? (if s.isRow then openNext? s.lines else open? s.lines) s.path entries

/-- The table that statements describe. -/
def tableOf? (ss : List Statement) : Option Entries :=
  let (lines, more) := sections ss
  match assignAll? [] lines with
  | some entries => more.foldlM addSection? entries
  | none => none

/-- A text without the mark of its byte order. -/
def withoutOrderMark : List Char → List Char
  | '\ufeff' :: cs => cs
  | cs => cs

/-- The entries of the table that a whole text spells. -/
def read? (cs : List Char) : Option Entries :=
  match statements (cs.length + 1) (withoutOrderMark cs) with
  | some ss => tableOf? ss
  | none => none

end KanjiSearch.Toml
