import Parley.Files
import Parley.Json.Reader
import Parley.Settings.Layer
import Parley.Settings.Reader
import Parley.Toml.Document

/-!
# Loading settings

Settings come in layers, the lowest first: the built-in ones, the user's file, the workspace's file,
the workspace's file for a stage of work such as `development`, and environment variables. Files
that are not there are left out, and so are files that are in no known format.
-/

namespace Parley.Settings

/-! ### Formats -/

/-- The formats that are not read here. -/
inductive ForeignFormat where
  | yaml
  | ini
  | ron
  | json5
deriving DecidableEq, Repr

/-- The formats that settings files are written in. -/
inductive FileFormat where
  | toml
  | json
  | foreign (f : ForeignFormat)
deriving DecidableEq, Repr

/-- What the names of files in a format end with, after a dot. -/
def FileFormat.extensions : FileFormat → List String
  | toml => ["toml"]
  | json => ["json"]
  | foreign .yaml => ["yaml", "yml"]
  | foreign .ini => ["ini"]
  | foreign .ron => ["ron"]
  | foreign .json5 => ["json5"]

/-- All formats. -/
def FileFormat.all : List FileFormat :=
  [toml, json, foreign .yaml, foreign .ini, foreign .ron, foreign .json5]

/-- Where settings are loaded from. -/
structure Surroundings where
  /-- The files of the system. -/
  files : Files
  /-- The environment variables. -/
  environment : List (String × String)
  /-- The folder that the platform has for the user's settings of the program, if it has one. -/
  folder? : Option String
  /-- The formats, in the order in which their extensions are tried. -/
  formats : List FileFormat := FileFormat.all
  /-- The value of a text in a foreign format, or what is wrong with it. -/
  foreign : ForeignFormat → String → Except String Json

/-- The folder that desktop systems have for the user's settings of the program. It lies in the one
that `XDG_CONFIG_HOME` names by a path from the root, otherwise in `.config` at home. Without a home
there is none. -/
def desktopFolder? (environment : List (String × String)) (home? : Option String) :
    Option String :=
  home?.map fun home =>
    let named := (environment.lookup "XDG_CONFIG_HOME").filter Files.isAbsolute
    Files.join (named.getD (Files.join home ".config")) "agent-bridge"

/-! ### Files -/

/-- The text without a byte order mark in front. -/
def unmarked (text : String) : String :=
  match text.toList with
  | '\ufeff' :: cs => String.ofList cs
  | _ => text

/-- How a document that is no table is shown. -/
def rootFound : Tree → String
  | .scalar _ (.int n) => "64-bit integer \x60" ++ toString n ++ "\x60"
  | .scalar _ (.double d) => "floating point \x60" ++ d.text ++ "\x60"
  | t => t.found

/-- The layer that the value of a document amounts to. -/
def layerOf (source : String) : Except String Json → Except SetupError Layer
  | .ok j =>
    match Tree.ofJson (some source) j with
    | .table _ entries => .ok entries
    | t =>
      let misfit := Misfit.group (rootFound t) "a map"
      .error (.configuration (misfit.text ++ " in " ++ source ++ " in " ++ source))
  | .error reason => .error (.configuration (reason ++ " in " ++ source))

namespace Surroundings

/-- The layer of a file with a text in some format. -/
def layer (s : Surroundings) (f : FileFormat) (path text : String) : Except SetupError Layer :=
  let source := s.files.relative path
  let text := unmarked text
  match f with
  | .toml =>
    match Toml.parse? text with
    | some entries => .ok (Tree.ofEntries (some source) entries)
    | none => .error (.configuration "TOML parse error")
  | .json => layerOf source ((Json.parse text).mapError (·.text text))
  | .foreign f => layerOf source (s.foreign f text)

/-- The format that goes with an extension. -/
def format? (s : Surroundings) (extension : String) : Option FileFormat :=
  s.formats.find? (·.extensions.contains extension)

/-- The file that a path with an ending leads to, and its text. -/
def extended? (s : Surroundings) (path : String) (f : FileFormat) (ending : String) :
    Option (FileFormat × String × String) := do
  let path ← Files.extended? path ("." ++ ending)
  let text ← s.files.read? path
  return (f, path, text)

/-- Finds a file of settings, with its format and its text. The extension may be left out of the
path. -/
def find (s : Surroundings) (path : String) : Except String (FileFormat × String × String) :=
  let whole := Files.join s.files.directory path
  match s.files.read? whole with
  | some text =>
    match (Files.extension? whole).bind s.format? with
    | some f => .ok (f, whole, text)
    | none => .error ("configuration file \"" ++ whole ++ "\" is not of a registered file format")
  | none =>
    match s.formats.findSome? fun f => f.extensions.findSome? (s.extended? whole f) with
    | some found => .ok found
    | none => .error ("configuration file \"" ++ path ++ "\" not found")

/-- The layer of a file that must be there. -/
def required (s : Surroundings) (path : String) : Except SetupError Layer :=
  match s.find path with
  | .ok (f, path, text) => s.layer f path text
  | .error reason => .error (.configuration reason)

/-- The layer of a file that need not be there. -/
def optional (s : Surroundings) (path : String) : Except SetupError Layer :=
  if (s.files.resolve? path).isSome then
    match s.find path with
    | .ok (f, path, text) => s.layer f path text
    | .error _ => .ok []
  else .ok []

/-! ### Loading -/

/-- The path of the user's file, if the platform has a folder for it. -/
def userFile? (s : Surroundings) : Option String := s.folder?.map (Files.join · "config.toml")

/-- The layer of the user's file. -/
def user (s : Surroundings) : Except SetupError Layer :=
  match s.userFile? with
  | some path => s.optional path
  | none => .ok []

/-- The stage of work that the environment names. -/
def stage (s : Surroundings) : String :=
  (s.environment.lookup "AGENT_BRIDGE_ENV").getD "development"

/-- All layers for a workspace, the lowest first. -/
def layers (s : Surroundings) (workspace : String) : Except SetupError (List Layer) := do
  let user ← s.user
  let folder := Files.join workspace "config"
  let base ← s.optional (Files.join folder "config.toml")
  let staged ← s.optional (Files.join folder (s.stage ++ ".toml"))
  return [Layer.defaults, user, base, staged, Layer.ofVariables s.environment]

/-- Reads the settings that layers amount to. -/
def settingsOf (ls : List Layer) : Except SetupError Settings :=
  (Settings.read .lenient (Layer.stack ls)).mapError fun e => .configuration e.text

/-- Loads the settings of a workspace as they are. -/
def load (s : Surroundings) (workspace : String) : Except SetupError Settings := do
  settingsOf (← s.layers workspace)

/-- Loads the settings of a workspace and makes sure that they are valid. -/
def loadChecked (s : Surroundings) (workspace : String) : Except SetupError Settings := do
  (← s.load workspace).checked

/-- Loads the settings in a file, with the built-in ones below them. -/
def loadFile (s : Surroundings) (path : String) : Except SetupError Settings := do
  settingsOf [Layer.defaults, ← s.required path]

end Surroundings

end Parley.Settings
