import AspectQuery.Files
import AspectQuery.Settings
/-!
# Finding the settings

The settings stand in the file that a variable names; else in the working directory; else in the
directory for the configurations of a user. Without any of these files everything is as preset.
-/

set_option autoImplicit false

namespace AspectQuery

/-- What a program sees of its surroundings. -/
structure Surroundings (m : Type → Type) where
  read : String → m (Except FileFault String)
  lookup? : String → m (Option String)

namespace Settings

def configVariable : String := "MEDIAQL_CONFIG"

def localFile : String := "mediaql.toml"

/-- Puts a relative path behind the path of a directory. -/
def joinPath (directory path : String) : String :=
  if directory.isEmpty then path
  else if directory.endsWith "/" then directory ++ path
  else directory ++ "/" ++ path

/-- The directory for the configurations of a user, unless it is unknown. -/
def userDirectory? (configHome home : Option String) : Option String :=
  match configHome.filter fun path => path.startsWith "/" with
  | some path => some path
  | none => (home.filter fun path => !path.isEmpty).map fun path => joinPath path ".config"

def isPresent : Except FileFault String → Bool
  | .ok _ => true
  | .error fault => fault.present

section

variable {m : Type → Type} [Monad m]

def loadFrom (w : Surroundings m) (path : String) : m (Except SettingsError Settings) := do
  return ofFile path (← w.read path)

/-- The settings in the first of several files that is there, or the preset ones. -/
def loadFirst (w : Surroundings m) : List String → m (Except SettingsError Settings)
  | [] => return .ok {}
  | path :: rest => do
    let text ← w.read path
    if isPresent text then return ofFile path text else loadFirst w rest

def load (w : Surroundings m) : m (Except SettingsError Settings) := do
  match ← w.lookup? configVariable with
  | some path => loadFrom w path
  | none =>
    let configHome ← w.lookup? "XDG_CONFIG_HOME"
    let home ← w.lookup? "HOME"
    let user := (userDirectory? configHome home).map fun d => joinPath d "mediaql/config.toml"
    loadFirst w (localFile :: user.toList)

end

end Settings

end AspectQuery
