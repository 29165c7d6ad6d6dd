import AspectQuery.Query.Grouping
/-!
# Arguments of the command line

A command with its options. An option takes the text behind it, an equals sign between the two or
not, or the next argument; letters of options may be joined behind one dash.
-/

set_option autoImplicit false

namespace AspectQuery.CommandLine

inductive Switch where
  | config
  | dialect
  | schema
  | query
  | database
  | attribute
  | necessary
  | filter
  | grouped
  | groupBy
  | explain
  deriving DecidableEq

namespace Switch

def all : List Switch :=
  [.config, .dialect, .schema, .query, .database, .attribute, .necessary, .filter, .grouped,
    .groupBy, .explain]

def long : Switch → String
  | .config => "config"
  | .dialect => "dialect"
  | .schema => "schema"
  | .query => "query"
  | .database => "db"
  | .attribute => "attribute"
  | .necessary => "necessary"
  | .filter => "filter"
  | .grouped => "grouped"
  | .groupBy => "group-by"
  | .explain => "explain"

def letter? : Switch → Option Char
  | .dialect => some 'd'
  | .schema => some 's'
  | .query => some 'q'
  | .attribute => some 'a'
  | .necessary => some 'n'
  | .filter => some 'f'
  | .grouped => some 'g'
  | _ => none

def takesValue : Switch → Bool
  | .grouped => false
  | .explain => false
  | _ => true

/-- May be given several times. -/
def repeatable : Switch → Bool
  | .necessary => true
  | _ => false

def ofLong? (s : String) : Option Switch := all.find? fun x => x.long == s

def ofLetter? (c : Char) : Option Switch := all.find? fun x => x.letter? == some c

end Switch

inductive Verb where
  | explain
  | search
  | values
  deriving DecidableEq

namespace Verb

def name : Verb → String
  | .explain => "explain"
  | .search => "search"
  | .values => "values"

def ofName? (s : String) : Option Verb := [explain, search, values].find? fun v => v.name == s

/-- The options of a command beside the ones that every command has. -/
def switches : Verb → List Switch
  | .explain => [.schema, .query]
  | .search => [.schema, .query, .database]
  | .values =>
    [.schema, .attribute, .necessary, .filter, .grouped, .groupBy, .explain, .database]

end Verb

def globalSwitches : List Switch := [.config, .dialect]

/-- What is wrong with the arguments. -/
inductive UsageError where
  | unexpected (argument : String)
  | valueMissing (switch : Switch)
  | badValue (switch : Switch) (value : String)
  | repeated (switch : Switch)
  | missing (switch : Switch)
  | commandMissing
  deriving DecidableEq

def UsageError.message : UsageError → String
  | .unexpected argument => "error: unexpected argument '" ++ argument ++ "' found"
  | .valueMissing switch => "error: a value is required for '--" ++ switch.long ++ "'"
  | .badValue switch value =>
    "error: invalid value '" ++ value ++ "' for '--" ++ switch.long ++ "'"
  | .repeated switch =>
    "error: the argument '--" ++ switch.long ++ "' cannot be used multiple times"
  | .missing switch => "error: the argument '--" ++ switch.long ++ "' was not provided"
  | .commandMissing => "error: a command was not provided"

/-- The arguments as they are given, those before the command apart from those behind it. -/
structure Given where
  verb : Option Verb := none
  before : List (Switch × String) := []
  switches : List (Switch × String) := []

/-- One argument: switches with their values, perhaps with one that needs the next argument. -/
structure Piece where
  complete : List (Switch × String)
  open? : Option Switch

/-- The switches of joined letters. -/
def readLetters (argument : String) : List Char → Except UsageError Piece
  | [] => .ok ⟨[], none⟩
  | c :: rest =>
    match Switch.ofLetter? c with
    | none => .error (.unexpected argument)
    | some x =>
      if x.takesValue then
        match rest with
        | [] => .ok ⟨[], some x⟩
        | '=' :: value => .ok ⟨[(x, String.ofList value)], none⟩
        | value => .ok ⟨[(x, String.ofList value)], none⟩
      else do
        let piece ← readLetters argument rest
        return ⟨(x, "") :: piece.complete, piece.open?⟩

def readLong (argument : String) (cs : List Char) : Except UsageError Piece :=
  match Switch.ofLong? (String.ofList (cs.takeWhile (· != '='))) with
  | none => .error (.unexpected argument)
  | some x =>
    match cs.dropWhile (· != '='), x.takesValue with
    | [], true => .ok ⟨[], some x⟩
    | [], false => .ok ⟨[(x, "")], none⟩
    | _ :: value, true => .ok ⟨[(x, String.ofList value)], none⟩
    | _ :: _, false => .error (.unexpected argument)

/-- The switches of an argument; nothing for an argument that is a word. -/
def readPiece? (argument : String) : Option (Except UsageError Piece) :=
  match argument.toList with
  | '-' :: '-' :: cs => some (readLong argument cs)
  | '-' :: c :: cs => some (readLetters argument (c :: cs))
  | _ => none

def Given.addWord (g : Given) (word : String) : Except UsageError Given :=
  match g.verb, Verb.ofName? word with
  | none, some verb => .ok ⟨some verb, g.switches, []⟩
  | _, _ => .error (.unexpected word)

/-- Reads the arguments from the first to the last, where a switch may wait for its value. -/
def readArguments : Option Switch → Given → List String → Except UsageError Given
  | none, g, [] => .ok g
  | some x, _, [] => .error (.valueMissing x)
  | some x, g, value :: rest =>
    readArguments none { g with switches := g.switches ++ [(x, value)] } rest
  | none, g, argument :: rest =>
    match readPiece? argument with
    | none => do readArguments none (← g.addWord argument) rest
    | some piece => do
      let piece ← piece
      readArguments piece.open? { g with switches := g.switches ++ piece.complete } rest

namespace Given

def valuesOf (x : Switch) (ss : List (Switch × String)) : List String :=
  (ss.filter fun s => s.1 = x).map (·.2)

def all (g : Given) (x : Switch) : List String := valuesOf x g.switches

/-- A switch behind the command goes before one that stands in front of it. -/
def value? (g : Given) (x : Switch) : Option String :=
  (g.all x ++ valuesOf x g.before).head?

def has (g : Given) (x : Switch) : Bool := (g.value? x).isSome

def require (g : Given) (x : Switch) : Except UsageError String :=
  match g.value? x with
  | some value => .ok value
  | none => .error (.missing x)

/-- The value of a switch in its own type. -/
def parsed {α : Type} (g : Given) (x : Switch) (parse? : String → Option α) :
    Except UsageError (Option α) :=
  match g.value? x with
  | none => .ok none
  | some value =>
    match parse? value with
    | some a => .ok (some a)
    | none => .error (.badValue x value)

/-- Every switch belongs where it stands and is given there once, unless it may be repeated. -/
def checkPlace (allowed : List Switch) (ss : List (Switch × String)) : Except UsageError Unit :=
  Switch.all.forM fun x => do
    let given := (valuesOf x ss).length
    if 0 < given ∧ x ∉ allowed then throw (.unexpected ("--" ++ x.long))
    if 1 < given ∧ !x.repeatable then throw (.repeated x)

/-- Only the switches that every command has stand before the command. -/
def check (g : Given) (verb : Verb) : Except UsageError Unit := do
  checkPlace globalSwitches g.before
  checkPlace (globalSwitches ++ verb.switches) g.switches

end Given

/-- What the command `values` asks for. -/
structure ValuesCommand where
  schema : String
  attributeText : String
  necessary : List AspectId
  filter : Option String
  grouped : Bool
  grouping : Option Grouping
  explain : Bool
  database : Option String

inductive Command where
  | explain (schema query : String)
  | search (schema query : String) (database : Option String)
  | values (c : ValuesCommand)

structure Invocation where
  config : Option String
  dialect : Option Sql.Dialect
  command : Command

def grouping? (s : String) : Option Grouping :=
  if s = Grouping.firstCharacter.name then some .firstCharacter else none

def Command.ofGiven (g : Given) : Verb → Except UsageError Command
  | .explain => return .explain (← g.require .schema) (← g.require .query)
  | .search => return .search (← g.require .schema) (← g.require .query) (g.value? .database)
  | .values => return .values {
      schema := ← g.require .schema
      attributeText := ← g.require .attribute
      necessary := (g.all .necessary).flatMap fun s => s.splitOn ","
      filter := g.value? .filter
      grouped := g.has .grouped
      grouping := ← g.parsed .groupBy grouping?
      explain := g.has .explain
      database := g.value? .database }

def Invocation.ofArguments (arguments : List String) : Except UsageError Invocation := do
  let g ← readArguments none {} arguments
  match g.verb with
  | none => throw .commandMissing
  | some verb =>
    g.check verb
    return {
      config := g.value? .config
      dialect := ← g.parsed .dialect Sql.Dialect.ofName?
      command := ← Command.ofGiven g verb }

end AspectQuery.CommandLine
