import KanjiSearch.Command.Basic
import KanjiSearch.Text.Decimal
import KanjiSearch.Text.Pieces

/-!
# Arguments

The arguments of the program name a command and give it operands and options. Options have a long name behind two
dashes, and some a letter behind one dash; letters may be run together. A value follows its option in the next
argument, behind an equals sign, or, for a letter, directly. Behind two dashes alone there are only operands.
-/

namespace KanjiSearch.Arguments

/-- An argument. -/
abbrev Argument := List Char

/-- What an option takes as its value. -/
inductive Takes where
  | nothing
  | number
  | path
  deriving DecidableEq

/-- An option. -/
structure Switch where
  long : String
  letter : Option Char
  takes : Takes
  /-- whether the option may be given more than once -/
  repeats : Bool
  deriving DecidableEq

/-- What a part of an argument gives. -/
inductive Item where
  | operand (text : Argument)
  | option (switch : Switch) (value : Argument)
  /-- a call for help, behind which nothing is looked at -/
  | help
  deriving DecidableEq

/-! ## Reading options -/

/-- Whether an argument may be an operand or a value: a dash alone is one, but otherwise a dash begins options. -/
def isPlain : Argument → Bool
  | '-' :: _ :: _ => false
  | _ => true

/-- Whether a value suits an option. -/
def suits : Takes → Argument → Bool
  | .nothing, _ => true
  | .number, value => (Text.count? value).isSome
  | .path, value => !value.isEmpty

section Reading

variable (switches : List Switch)

/-- The long name and the value behind it in an argument without its two dashes. -/
def splitLong (cs : List Char) : List Char × Option Argument :=
  match Text.splitOnce '=' cs with
  | some (name, value) => (name, some value)
  | none => (cs, none)

/-- What an argument gives behind its two dashes, and the option whose value must follow. -/
def readLong (cs : List Char) : Option (List Item × Option Switch) :=
  match splitLong cs with
  | (name, value) =>
    match switches.find? (·.long == String.ofList name), value with
    | some s, none => if s.takes = .nothing then some ([.option s []], none) else some ([], some s)
    | some s, some value => if s.takes = .nothing then none else some ([.option s value], none)
    | none, none => if name = "help".toList then some ([.help], none) else none
    | none, some _ => none

/-- What letters give, and the option whose value must follow. -/
def readLetters : List Char → Option (List Item × Option Switch)
  | [] => some ([], none)
  | c :: cs =>
    match switches.find? (·.letter == some c) with
    | some s =>
      if s.takes = .nothing then
        (readLetters cs).map fun (items, pending) => (.option s [] :: items, pending)
      else
        match cs with
        | [] => some ([], some s)
        | '=' :: value => some ([.option s value], none)
        | value => some ([.option s value], none)
    | none => if c = 'h' then some ([.help], none) else none

/-- What an argument with options gives, and the option whose value must follow. -/
def readOptions : Argument → Option (List Item × Option Switch)
  | '-' :: '-' :: cs => readLong switches cs
  | '-' :: cs => readLetters switches cs
  | _ => none

/-- The items of arguments, of which the first must be the value of `pending`, if that is given. -/
def items (pending : Option Switch) : List Argument → Option (List Item)
  | [] => if pending.isSome then none else some []
  | arg :: args =>
    match pending with
    | some s => if isPlain arg then (items none args).map (.option s arg :: ·) else none
    | none =>
      if isPlain arg then (items none args).map (.operand arg :: ·)
      else if arg = ['-', '-'] then some (args.map .operand)
      else
        match readOptions switches arg with
        | none => none
        | some (found, pending) =>
          if found.contains .help then some found else (items pending args).map (found ++ ·)

end Reading

/-! ## Given arguments -/

/-- The operands and options that a command was given. -/
structure Given where
  operands : List Argument
  options : List (Switch × Argument)

namespace Given

/-- The operands and options among items. -/
def ofItems : List Item → Given
  | [] => ⟨[], []⟩
  | .operand text :: rest => { ofItems rest with operands := text :: (ofItems rest).operands }
  | .option s value :: rest => { ofItems rest with options := (s, value) :: (ofItems rest).options }
  | .help :: rest => ofItems rest

/-- The values of an option. -/
def values (g : Given) (s : Switch) : List Argument :=
  (g.options.filter (·.1 == s)).map (·.2)

/-- Whether an option was given. -/
def has (g : Given) (s : Switch) : Bool :=
  !(g.values s).isEmpty

/-- Whether a command that takes at most `count` operands can be given these arguments. -/
def isAllowed (g : Given) (count : Nat) : Bool :=
  g.operands.length ≤ count &&
    g.options.all fun (s, value) => suits s.takes value && (s.repeats || (g.values s).length ≤ 1)

end Given

/-! ## Invocations -/

/-- What the arguments ask for. -/
inductive Invocation where
  | command (c : Command)
  | help
  /-- the arguments cannot be understood -/
  | misuse
  deriving DecidableEq

/-- The invocation of a command that takes at most `count` operands; `build` makes the command, if no operand is
missing.
-/
def readCommand (switches : List Switch) (count : Nat) (build : Given → Option Command) (args : List Argument) :
    Invocation :=
  match items switches none args with
  | none => .misuse
  | some found =>
    let given := Given.ofItems (found.takeWhile (· != .help))
    if !given.isAllowed count then .misuse
    else if found.contains .help then .help
    else
      match build given with
      | some c => .command c
      | none => .misuse

/-- The invocation of the command that the first operand names. -/
def readNamed (switches : List Switch) (choose : Argument → List Argument → Invocation) : List Argument → Invocation
  | [] => .misuse
  | arg :: args =>
    if isPlain arg then choose arg args
    else
      match readOptions switches arg with
      | some (found, none) => if found.contains .help then .help else readNamed switches choose args
      | _ => .misuse

/-! ## The options -/

/-- More log messages. -/
def verbose : Switch := ⟨"verbose", some 'v', .nothing, true⟩

/-- A record file. -/
def data : Switch := ⟨"data", some 'd', .path, true⟩

/-- The number of records to show. -/
def limit : Switch := ⟨"limit", some 'n', .number, false⟩

/-- Output as JSON. -/
def json : Switch := ⟨"json", none, .nothing, false⟩

/-- An explanation of the query. -/
def explain : Switch := ⟨"explain", none, .nothing, false⟩

/-- The place of the cursor. -/
def cursor : Switch := ⟨"cursor", some 'c', .number, false⟩

/-- The settings file of the home directory. -/
def atHome : Switch := ⟨"global", none, .nothing, false⟩

/-- A new file in place of an old one. -/
def overwrite : Switch := ⟨"force", none, .nothing, false⟩

/-! ## The commands -/

/-- A command that takes a query. -/
def withQuery (build : String → Given → Command) (g : Given) : Option Command :=
  match g.operands with
  | [query] => some (build (String.ofList query) g)
  | _ => none

/-- The number that an option gives. -/
def Given.number? (g : Given) (s : Switch) : Option UInt64 :=
  (g.values s).head?.bind Text.count?

/-- A search. -/
def buildSearch (query : String) (g : Given) : Command :=
  .search ⟨query, (g.values data).map (⟨·⟩), g.number? limit, g.has json, g.has explain⟩

/-- The invocation of a way to look into a query. -/
def readInspection (name : Argument) (args : List Argument) : Invocation :=
  match String.ofList name with
  | "tokens" => readCommand [json, verbose] 1 (withQuery fun query g => .showTokens query (g.has json)) args
  | "ast" => readCommand [json, verbose] 1 (withQuery fun query g => .showTree query (g.has json)) args
  | "help" => if args.all fun arg => ["tokens", "ast", "help"].contains (String.ofList arg) then .help else .misuse
  | _ => .misuse

/-- The names of the commands. -/
def commandNames : List String :=
  ["search", "check", "suggest", "inspect", "init", "config", "status", "help"]

/-- Whether help can be given on the command that `args` name. -/
def knowsHelpOn (args : List Argument) : Bool :=
  match args.map String.ofList with
  | [] => true
  | [name] => commandNames.contains name
  | [name, inner] => name == "inspect" && ["tokens", "ast", "help"].contains inner
  | _ => false

/-- The invocation of a command. -/
def readNamedCommand (name : Argument) (args : List Argument) : Invocation :=
  match String.ofList name with
  | "search" => readCommand [data, limit, json, explain, verbose] 1 (withQuery buildSearch) args
  | "check" => readCommand [json, verbose] 1 (withQuery fun query g => .check query (g.has json)) args
  | "suggest" => readCommand [cursor, verbose] 1 (withQuery fun query g => .complete query (g.number? cursor)) args
  | "inspect" => readNamed [verbose] readInspection args
  | "init" => readCommand [atHome, overwrite, verbose] 0 (fun g => some (.start (g.has atHome) (g.has overwrite))) args
  | "config" => readCommand [verbose] 0 (fun _ => some .showSettings) args
  | "status" => readCommand [verbose] 0 (fun _ => some .showStatus) args
  | "help" => if knowsHelpOn args then .help else .misuse
  | _ => .misuse

/-- What the arguments of the program ask for. -/
def read (args : List String) : Invocation :=
  readNamed [verbose] readNamedCommand (args.map (·.toList))

end KanjiSearch.Arguments
