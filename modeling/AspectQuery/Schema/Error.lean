import AspectQuery.Files
/-!
# What may be wrong with a schema
-/

set_option autoImplicit false

namespace AspectQuery

inductive SchemaError where
  | fileNotFound (path : String)
  | unreadableFile (fault : FileFault)
  | malformedFile
  | duplicateAspect (id : String)
  | duplicateAttribute (aspect name : String)
  | invalidIdentifier (role name : String)
  deriving DecidableEq

namespace SchemaError

def message : SchemaError → String
  | .fileNotFound path => "Schema file not found: " ++ path
  | .unreadableFile fault => "Failed to read schema file: " ++ fault.message
  | .malformedFile => "Failed to parse schema file: not a schema in TOML"
  | .duplicateAspect id => "Aspect type '" ++ id ++ "' is defined more than once"
  | .duplicateAttribute aspect name =>
    "Attribute '" ++ name ++ "' is defined more than once on aspect type '" ++ aspect ++ "'"
  | .invalidIdentifier role name =>
    "Invalid " ++ role ++ " name '" ++ name ++ "': must be a plain SQL identifier"

end SchemaError

end AspectQuery
