import KanjiSearch.Text.Case.Mappings
import KanjiSearch.Text.Case.Properties

/-!
# Letter case

Full upper and lower case of Unicode text: one letter may become several. The lower case of `Σ` depends on its place
(`endsWord`): it is `ς` at the end of a word and `σ` elsewhere. All other letters are mapped one by one.
-/

namespace KanjiSearch.Text

/-! ## One letter -/

/-- The other case of `c` in a list of runs, which ascend. -/
def shifted? : List CaseRun → Nat → Option Nat
  | [], _ => none
  | run :: runs, c =>
    if c < run.first then none
    else if c ≤ run.last && (c - run.first) % run.step == 0 then some (c + run.shift).toNat
    else shifted? runs c

/-- The spelling of the other case of `c` in an ascending list. -/
def spelling? : List (Nat × List Nat) → Nat → Option (List Nat)
  | [], _ => none
  | (letter, spelling) :: rest, c =>
    if c < letter then none else if c == letter then some spelling else spelling? rest c

/-- `c` in the case that `spellings` and `runs` describe. -/
def recase (spellings : List (Nat × List Nat)) (runs : List CaseRun) (c : Char) : List Char :=
  match spelling? spellings c.toNat with
  | some spelling => spelling.map Char.ofNat
  | none =>
    match shifted? runs c.toNat with
    | some other => [Char.ofNat other]
    | none => [c]

/-- The lower case of a letter on its own. -/
def lowerChar (c : Char) : List Char :=
  recase lowerSpellings lowerRuns c

/-- The upper case of a letter. -/
def upperChar (c : Char) : List Char :=
  recase upperSpellings upperRuns c

/-! ## Text -/

/-- Whether `c` is a letter with a case. -/
def isCased (c : Char) : Bool :=
  casedRanges.includes c.toNat

/-- Whether `c` is passed over when the case of a neighbour is looked for. -/
def isCaseIgnorable (c : Char) : Bool :=
  caseIgnorableRanges.includes c.toNat

/-- Whether the first character of `cs` that counts is a letter with a case. -/
def meetsCased (cs : List Char) : Bool :=
  match cs.dropWhile isCaseIgnorable with
  | [] => false
  | c :: _ => isCased c

/-- Whether a letter between `before`, nearest first, and `after` ends a word. -/
def endsWord (before after : List Char) : Bool :=
  meetsCased before && !meetsCased after

/-- The lower case of the text that follows `before`, nearest first. -/
def lowerAfter (before : List Char) : List Char → List Char
  | [] => []
  | c :: cs =>
    (if c = 'Σ' then [if endsWord before cs then 'ς' else 'σ'] else lowerChar c) ++ lowerAfter (c :: before) cs

/-- The lower case of a text. -/
def lower (cs : List Char) : List Char :=
  lowerAfter [] cs

/-- The upper case of a text. -/
def upper (cs : List Char) : List Char :=
  cs.flatMap upperChar

/-- The lower case of a string. -/
def lowerString (s : String) : String :=
  String.ofList (lower s.toList)

end KanjiSearch.Text
