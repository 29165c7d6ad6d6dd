import AspectQuery.Files
import AspectQuery.Schema.Resolution
import AspectQuery.Toml.Reader
/-!
# Schemas in files

A schema is defined by a text in TOML.
-/

set_option autoImplicit false

namespace AspectQuery.Schema

def ofToml (text : String) (naming : Naming) : Except SchemaError Schema :=
  match (Toml.read? text).bind (SchemaDefinition.ofDocument? .toml) with
  | none => .error .malformedFile
  | some d => ofDefinition d naming

/-- The schema that a file holds. -/
def ofFile (path : String) (text : Except FileFault String) (naming : Naming) :
    Except SchemaError Schema :=
  match text with
  | .ok text => ofToml text naming
  | .error fault =>
    if fault.present then .error (.unreadableFile fault) else .error (.fileNotFound path)

end AspectQuery.Schema
