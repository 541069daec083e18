import KanjiSearch.Settings.Basic
import KanjiSearch.Toml.Reader
import KanjiSearch.Toml.Writer

/-!
# Settings as TOML

A settings file is a TOML document with the tables `search` and `data`. Keys without a meaning are ignored, as long as
their values are whole, but a key with a meaning must have a value that suits it. A section may also be an array, whose
first item is its only setting and whose other items are not looked at. One record file may be named without an array
around it.
-/

namespace KanjiSearch

namespace FileSettings

/-- The setting that a value may give. -/
def setting? {α : Type} (read : Toml → Option α) : Option Toml → Option (Option α)
  | none => some none
  | some value => (read value).map some

/-- The number of records that a value gives. -/
def limitOf? : Toml → Option UInt64
  | .integer n => if 0 ≤ n then Text.fit? n.toNat else none
  | _ => none

/-- The record files that a value gives. -/
def filesOf? : Toml → Option (List String)
  | .string file => some [file]
  | value => value.strings?

/-- Whether the entries with other keys than `keys`, which have no meaning, are whole. -/
def othersAreWhole (keys : List String) (entries : Toml.Entries) : Bool :=
  entries.all fun (key, value) => keys.contains key || value.isWhole

/-- The only setting of a section. A date is a section without settings. -/
def sectionOf? {α : Type} (key : String) (read : Toml → Option α) : Toml → Option (Option α)
  | .table _ entries => if othersAreWhole [key] entries then setting? read (entries.lookup key) else none
  | .array items => setting? read items.head?
  | .moment => some none
  | _ => none

/-- Whether a value is true or false. -/
def flagOf? : Toml → Option Bool
  | .bool b => some b
  | _ => none

/-- The settings in the entries of a document. -/
def ofEntries? (entries : Toml.Entries) : Option FileSettings :=
  match setting? flagOf? (entries.lookup "root"),
    setting? (sectionOf? "limit" limitOf?) (entries.lookup "search"),
    setting? (sectionOf? "files" filesOf?) (entries.lookup "data") with
  | some root, some search, some data =>
    if othersAreWhole ["root", "search", "data"] entries then some ⟨root, search.map (⟨·⟩), data.map (⟨·⟩)⟩ else none
  | _, _, _ => none

/-- The settings in the text of a settings file. -/
def ofText? (text : List Char) : Option FileSettings :=
  (Toml.read? text).bind ofEntries?

end FileSettings

/-- The text of a settings file that sets the limit and the record files in force. -/
def Settings.toToml (s : Settings) : List Char :=
  "[search]\nlimit = ".toList ++ Text.decimal s.limit.toNat ++
    "\n\n[data]\nfiles = ".toList ++ Toml.writtenTexts (s.files.map (·.text)) ++ ['\n']

end KanjiSearch
