import KanjiSearch.Toml.Basic

/-!
# Tables of a document

A document adds to its tables in two ways: a line adds a value under a dotted key (`Toml.assign?`), and a header opens a
table (`Toml.open?`) or adds one to a row of tables (`Toml.openNext?`). Both fail if they would change what is there.
-/

namespace KanjiSearch.Toml

/-- Entries with a value for `key`: in the place of the one there, or after all others. -/
def put (key : String) (value : Toml) : Entries → Entries
  | [] => [(key, value)]
  | (k, v) :: entries => if k = key then (key, value) :: entries else (k, v) :: put key value entries

/-- Entries with a value under a dotted key. On the way there may be implied tables, and rows of tables, of which the
last is meant. -/
def assign? (value : Toml) : List String → Entries → Option Entries
  | [], _ => none
  | [key], entries =>
    match entries.lookup key with
    | none => some (put key value entries)
    | some _ => none
  | key :: next :: path, entries =>
    match entries.lookup key with
    | none => (assign? value (next :: path) []).map fun inner => put key (table .dotted inner) entries
    | some (table .dotted inner) =>
      (assign? value (next :: path) inner).map fun inner => put key (table .dotted inner) entries
    | some (table .implied inner) =>
      if path = [] then none
      else (assign? value (next :: path) inner).map fun inner => put key (table .implied inner) entries
    | some (tables (table form inner :: others)) =>
      if path = [] then none
      else (assign? value (next :: path) inner).map fun inner => put key (tables (table form inner :: others)) entries
    | some _ => none

/-- Entries with a new value in the place that a header names. Tables that are missing on the way are implied. -/
def alter? (change : Option Toml → Option Toml) : List String → Entries → Option Entries
  | [], _ => none
  | [key], entries => (change (entries.lookup key)).map fun value => put key value entries
  | key :: path, entries =>
    match entries.lookup key with
    | none => (alter? change path []).map fun inner => put key (table .implied inner) entries
    | some (table form inner) =>
      if form = .closed then none
      else (alter? change path inner).map fun inner => put key (table form inner) entries
    | some (tables (table form inner :: others)) =>
      (alter? change path inner).map fun inner => put key (tables (table form inner :: others)) entries
    | some _ => none

/-- A line of a table: a dotted key and its value. -/
abbrev Assignment := List String × Toml

/-- Entries with the lines of a table. -/
def assignAll? (entries : Entries) (lines : List Assignment) : Option Entries :=
  lines.foldlM (fun entries (path, value) => assign? value path entries) entries

/-- The table that a header opens, with its lines. Only a table that was implied before may be there. -/
def open? (lines : List Assignment) : Option Toml → Option Toml
  | none => (assignAll? [] lines).map (table .opened)
  | some (table .implied entries) => (assignAll? entries lines).map (table .opened)
  | some _ => none

/-- The row of tables with one more table, which has the given lines. -/
def openNext? (lines : List Assignment) : Option Toml → Option Toml
  | none => (assignAll? [] lines).map fun entries => tables [table .opened entries]
  | some (tables items) => (assignAll? [] lines).map fun entries => tables (table .opened entries :: items)
  | some _ => none

end KanjiSearch.Toml
