import AspectQuery.Options
import AspectQuery.Schema.Naming
import AspectQuery.Settings.Error
import AspectQuery.Settings.Expansion
import AspectQuery.Toml.Reader
/-!
# Settings

What a user sets once for all queries: the options of statements, the names of tables and columns,
the database and how much is logged.
-/

set_option autoImplicit false

namespace AspectQuery

structure Settings where
  options : Options := {}
  naming : Naming := {}
  /-- The path of the database, which may refer to variables. -/
  database : Option String := none
  logLevel : String := "warn"

namespace Settings

def database? (d : Document) : Option (Option String) := do
  match ← d.members? .toml ["database"] with
  | [database] => Document.defaulted (Document.optional? Document.text?) none database
  | _ => none

def logLevel? (d : Document) : Option String := do
  match ← d.members? .toml ["level"] with
  | [level] => Document.defaulted Document.text? ({} : Settings).logLevel level
  | _ => none

def ofDocument? (d : Document) : Option Settings := do
  let base : Settings := {}
  match ← d.members? .toml ["engine", "naming", "store", "logging"] with
  | [engine, naming, store, logging] =>
    return {
      options := ← Document.defaulted (Options.ofDocument? .toml) base.options engine
      naming := ← Document.defaulted (Naming.ofDocument? .toml) base.naming naming
      database := ← Document.defaulted database? base.database store
      logLevel := ← Document.defaulted logLevel? base.logLevel logging }
  | _ => none

def document (s : Settings) : Document :=
  .record [
    ("engine", s.options.document),
    ("naming", s.naming.document),
    ("store", .record [("database", Naming.optionalText s.database)]),
    ("logging", .record [("level", .text s.logLevel)])]

/-- A list of values holds at least one, and all names are identifiers. -/
def validate (s : Settings) : Except SettingsError Unit :=
  if s.options.maxInValues = 0 then .error .noValuesInList
  else s.naming.validate.mapError .invalidNaming

def ofToml (text : String) : Except SettingsError Settings := do
  match (Toml.read? text).bind ofDocument? with
  | none => throw .malformedFile
  | some s =>
    s.validate
    return s

/-- The settings that a file holds. -/
def ofFile (path : String) (text : Except FileFault String) : Except SettingsError Settings :=
  match text with
  | .ok text => ofToml text
  | .error fault =>
    if fault.present then .error (.unreadableFile fault) else .error (.fileNotFound path)

/-- The path of the database with the values of its variables. -/
def resolvedDatabase (s : Settings) (lookup? : String → Option String) :
    Except SettingsError (Option String) :=
  match s.database with
  | none => .ok none
  | some path => ((Expansion.expand lookup? path).mapError .missingVariable).map some

end Settings

end AspectQuery
