import AspectQuery.Schema.Error
/-!
# What may be wrong with settings
-/

set_option autoImplicit false

namespace AspectQuery

inductive SettingsError where
  | fileNotFound (path : String)
  | unreadableFile (fault : FileFault)
  | malformedFile
  | missingVariable (name : String)
  | noValuesInList
  | invalidNaming (e : SchemaError)
  deriving DecidableEq

namespace SettingsError

def message : SettingsError → String
  | .fileNotFound path => "Config file not found: " ++ path
  | .unreadableFile fault => "Failed to read config file: " ++ fault.message
  | .malformedFile => "Failed to parse config file: no settings in TOML"
  | .missingVariable name => "Missing environment variable: " ++ name
  | .noValuesInList => "Invalid configuration: engine.max_in_values must be greater than 0"
  | .invalidNaming e => "Invalid configuration: " ++ e.message

end SettingsError

end AspectQuery
