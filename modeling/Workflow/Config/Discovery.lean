import Workflow.Config.Decode
import Workflow.Host.Basic
/-! # Finding the configuration

The configuration is read in two layers, the later overriding the earlier:

1. the user's file `config.toml` in the user configuration directory: the directory given,
   else `STATELY_CONFIG_DIR` when it is set and not empty, else `stately` in
   `XDG_CONFIG_HOME` when that is an absolute path, else `~/.config/stately`;
2. the project's file `stately.toml` in the project directory, or in the working
   directory.

A layer whose file is missing (or is a directory) is skipped.  A layer that cannot be read
or parsed is skipped with a warning naming the file.  Once both layers are merged, every
handler that cannot be run adds a warning, in name order.
-/

namespace Workflow.Config

/-- The name of the project's configuration file. -/
def projectFile : String := "stately.toml"

/-- The name of the user's configuration file. -/
def userFile : String := "config.toml"

/-- The name of the program's directory inside the user configuration directory. -/
def appName : String := "stately"

/-- A place a layer was looked for, and whether it was read. -/
structure Source where
  path : String
  loaded : Bool
deriving DecidableEq, Repr

/-- The merged configuration, the places looked at (lowest precedence first), and the warnings. -/
structure Loaded where
  settings : Settings
  sources : List Source
  warnings : List String
deriving Repr

/-- The paths of the layers that were read. -/
def Loaded.loadedFrom (l : Loaded) : List String :=
  (l.sources.filter Source.loaded).map Source.path

/-- Read one configuration file. -/
def loadFile (h : Host) (path : String) : Except ConfigError Settings :=
  match h.readText path with
  | .error e => .error (.readFile path e.message)
  | .ok text => Settings.ofToml text

/-- The home directory, when `HOME` is set and not empty. -/
def homeDir (h : Host) : Option String :=
  match h.getEnv "HOME" with
  | some d => if d.isEmpty then none else some d
  | none => none

/-- The platform's configuration directory: `XDG_CONFIG_HOME` when it is absolute, else
`~/.config`. -/
def platformConfigDir (h : Host) : Option String :=
  match h.getEnv "XDG_CONFIG_HOME" with
  | some d => if !d.isEmpty && h.isAbsolute d then some d else (homeDir h).map (h.join · ".config")
  | none => (homeDir h).map (h.join · ".config")

/-- The user configuration directory. -/
def userConfigDir (h : Host) : Option String :=
  match h.getEnv "STATELY_CONFIG_DIR" with
  | some d => if d.isEmpty then (platformConfigDir h).map (h.join · appName) else some d
  | none => (platformConfigDir h).map (h.join · appName)

/-- The user configuration file. -/
def userConfigPath (h : Host) : Option String := (userConfigDir h).map (h.join · userFile)

/-- Merge the layer at a path, if there is one; say where it was looked for. -/
def loadLayer (h : Host) (acc : Settings × List String) (path : String) :
    (Settings × List String) × Source :=
  if !h.isFile path then (acc, ⟨path, false⟩)
  else
    match loadFile h path with
    | .ok layer => ((acc.1.merge layer, acc.2), ⟨path, true⟩)
    | .error e => ((acc.1, acc.2 ++ ["Failed to load " ++ path ++ ": " ++ e.message]), ⟨path, false⟩)

/-- The warnings for handlers that cannot be run, in name order. -/
def handlerWarnings (c : Settings) : List String :=
  c.handlers.filterMap fun (name, hd) =>
    match hd.validate name with
    | .ok () => none
    | .error e => some e.message

/-- Load the user layer (from `configDir` when given) and the project layer (from
`projectDir` when given, else the working directory). -/
def loadWithOptions (h : Host) (projectDir configDir : Option String) : Loaded :=
  let userPath := match configDir with
    | some d => some (h.join d userFile)
    | none => userConfigPath h
  let start : (Settings × List String) × List Source := ((Settings.empty, []), [])
  let afterUser := match userPath with
    | some p => let (acc, src) := loadLayer h start.1 p; (acc, [src])
    | none => start
  let projectPath := match projectDir with
    | some d => h.join d projectFile
    | none => projectFile
  let (acc, src) := loadLayer h afterUser.1 projectPath
  let settings := acc.1
  { settings, sources := afterUser.2 ++ [src], warnings := acc.2 ++ handlerWarnings settings }

/-- Load the layers, the project layer from `projectDir` when given. -/
def discover (h : Host) (projectDir : Option String) : Loaded := loadWithOptions h projectDir none

/-- Use one named file instead of the layers. -/
def loadExplicit (h : Host) (path : String) : Except ConfigError Loaded := do
  let settings ← loadFile h path
  return { settings, sources := [⟨path, true⟩], warnings := [] }

end Workflow.Config
