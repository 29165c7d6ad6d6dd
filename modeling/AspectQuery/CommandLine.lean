import AspectQuery.CommandLine.Arguments
import AspectQuery.Database
import AspectQuery.Query.Hydration
import AspectQuery.Schema.Load
import AspectQuery.Settings.Load
/-!
# The command line

Explains the statements of a request or runs them, and does the same for the values of an
attribute.
-/

set_option autoImplicit false

namespace AspectQuery.CommandLine

/-- What a command sees of its surroundings, databases included. -/
structure Machine (m : Type → Type) extends Surroundings m where
  openDatabase : String → m (Except StoreError Database)

/-- Why a command gives up. -/
inductive CommandError where
  | usage (e : UsageError)
  | settings (e : SettingsError)
  | malformedAttribute (text : String)
  | schema (path : String) (e : SchemaError)
  | unreadable (path : String) (fault : FileFault)
  | malformed (path : String)
  | compilation (e : QueryError)
  | query (e : QueryError)
  | databasePath (e : SettingsError)
  | noDatabase
  | cannotOpen (path : String) (e : StoreError)

namespace CommandError

def message : CommandError → String
  | .usage e => e.message
  | .settings e => "Error loading settings: " ++ e.message
  | .malformedAttribute text =>
    "Invalid attribute '" ++ text ++ "': expected <aspect>.<attribute>"
  | .schema path e => "Error loading schema '" ++ path ++ "': " ++ e.message
  | .unreadable path fault => "Error reading file '" ++ path ++ "': " ++ fault.message
  | .malformed path => "Error parsing '" ++ path ++ "': not the JSON that is asked for"
  | .compilation e => "Compilation error: " ++ e.message
  | .query e => "Query error: " ++ e.message
  | .databasePath e => "Error resolving database path: " ++ e.message
  | .noDatabase => "No database given: pass --db or set [store] database"
  | .cannotOpen path e => "Error opening '" ++ path ++ "': " ++ e.message

def code : CommandError → UInt32
  | .usage _ => 2
  | _ => 1

end CommandError

/-- What a command leaves behind. -/
structure Outcome where
  code : UInt32
  output : String
  errors : String
  deriving DecidableEq

namespace Outcome

def ofResult : Except CommandError String → Outcome
  | .ok output => ⟨0, output, ""⟩
  | .error e => ⟨e.code, "", e.message ++ "\n"⟩

end Outcome

def linesText (lines : List String) : String := String.join (lines.map (· ++ "\n"))

def explanationText (es : List Explanation) : String := linesText (Explanation.allLines es)

def listText {α : Type} (document : α → Document) (xs : List α) : String :=
  linesText [Json.pretty (.list (xs.map document))]

/-- Settings, with the options that the arguments change. -/
structure Context where
  settings : Settings
  options : Options

section

variable {m : Type → Type} [Monad m]

def context (w : Machine m) (i : Invocation) : ExceptT CommandError m Context := do
  let load : m (Except SettingsError Settings) :=
    match i.config with
    | some path => Settings.loadFrom w.toSurroundings path
    | none => Settings.load w.toSurroundings
  match ← load with
  | .error e => throw (.settings e)
  | .ok settings =>
    let dialect := i.dialect.getD settings.options.dialect
    return { settings, options := { settings.options with dialect } }

def readSchema (w : Machine m) (c : Context) (path : String) : ExceptT CommandError m Schema := do
  match Schema.ofFile path (← w.read path) c.settings.naming with
  | .error e => throw (.schema path e)
  | .ok schema => return schema

def readJson {α : Type} (w : Machine m) (ofJson? : String → Option α) (path : String) :
    ExceptT CommandError m α := do
  match ← w.read path with
  | .error fault => throw (.unreadable path fault)
  | .ok text =>
    match ofJson? text with
    | none => throw (.malformed path)
    | some a => return a

def compiled {α : Type} (q : Except QueryError α) : ExceptT CommandError m α :=
  ExceptT.mk (pure (q.mapError .compilation))

def answered {α σ : Type} (result : Except QueryError α × σ) : ExceptT CommandError m α :=
  ExceptT.mk (pure (result.1.mapError .query))

/-- The path of the database: an argument goes before the settings. -/
def databasePath (w : Machine m) (c : Context) (argument : Option String) :
    ExceptT CommandError m String := do
  match argument with
  | some path => return path
  | none =>
    let names := Expansion.references (c.settings.database.getD "")
    let values ← names.mapM fun name => (w.lookup? name : m (Option String))
    match c.settings.resolvedDatabase fun name => ((names.zip values).lookup name).join with
    | .error e => throw (.databasePath e)
    | .ok none => throw .noDatabase
    | .ok (some path) => return path

def openDatabase (w : Machine m) (c : Context) (argument : Option String) :
    ExceptT CommandError m Database := do
  let path ← databasePath w c argument
  match ← w.openDatabase path with
  | .error e => throw (.cannotOpen path e)
  | .ok d => return d

def compileItems (w : Machine m) (c : Context) (schema query : String) :
    ExceptT CommandError m ItemQuery := do
  let schema ← readSchema w c schema
  let request ← readJson w Request.ofJson? query
  compiled (ItemQuery.ofRequest schema c.options request)

def explainItems (w : Machine m) (c : Context) (schema query : String) :
    ExceptT CommandError m String := do
  let q ← compileItems w c schema query
  return explanationText (← compiled q.explain)

def searchItems (w : Machine m) (c : Context) (schema query : String)
    (database : Option String) : ExceptT CommandError m String := do
  let q ← compileItems w c schema query
  let d ← openDatabase w c database
  return listText MediaItem.document (← answered (q.execute Database.store d))

def answerValues (w : Machine m) (c : Context) (v : ValuesCommand) (path : AttributePath)
    (q : ValueQuery) : ExceptT CommandError m String := do
  if v.grouped || v.grouping.isSome then
    if v.explain then return explanationText (← compiled q.explainGrouped)
    let d ← openDatabase w c v.database
    let groups ← answered (q.executeGrouped Database.store d)
    match v.grouping with
    | some grouping => return listText ResultGroup.document (grouping.apply path groups)
    | none => return listText ValueGroup.document groups
  else
    if v.explain then return explanationText (← compiled q.explainDistinct)
    let d ← openDatabase w c v.database
    return listText Value.document (← answered (q.executeDistinct Database.store d))

def values (w : Machine m) (c : Context) (v : ValuesCommand) :
    ExceptT CommandError m String := do
  match AttributePath.ofText? v.attributeText with
  | none => throw (.malformedAttribute v.attributeText)
  | some path =>
    let schema ← readSchema w c v.schema
    let filter ← v.filter.mapM (readJson w Filter.ofJson?)
    let q ← compiled (ValueQuery.compile schema c.options path v.necessary filter)
    answerValues w c v path q

def perform (w : Machine m) (i : Invocation) : ExceptT CommandError m String := do
  let c ← context w i
  match i.command with
  | .explain schema query => explainItems w c schema query
  | .search schema query database => searchItems w c schema query database
  | .values v => values w c v

def run (w : Machine m) (arguments : List String) : m Outcome := do
  match Invocation.ofArguments arguments with
  | .error e => return Outcome.ofResult (.error (.usage e))
  | .ok i => return Outcome.ofResult (← (perform w i).run)

end

end AspectQuery.CommandLine
