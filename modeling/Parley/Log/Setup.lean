import Parley.Files
import Parley.Log.Filter
import Parley.Log.Line
import Parley.Settings.Error
import Parley.Settings.Logging
import Parley.Text.Lines

/-!
# Setting up logging

How settings and environment variables decide which events are written, how, and where.
`Setup.prepare` goes through the decisions in order, filter, format, output, file, and the first one
that cannot be made gives the error; a `Disk` holds what the system answers when the file is opened.
`Installation.install` takes a prepared set-up into use; only the first one is.
-/

namespace Parley.Log

/-- Environment variables. -/
abbrev Variables := List (String × String)

/-- Where lines are written. -/
inductive Sink where
  | stdout
  | stderr
  | file (path : String)
deriving DecidableEq, Repr

/-- The path of the file that lines are written to. -/
def Sink.path? : Sink → Option String
  | file path => some path
  | stdout | stderr => none

/-- Everything that decides about log lines. -/
structure Setup where
  filter : Filter
  format : Format
  sink : Sink
  color : Bool
deriving DecidableEq, Repr

/-- What the system answers while a log file is set up. -/
structure Disk where
  /-- Makes a directory, and those that lead to it, where there are none; or why that fails. -/
  makeFolder : String → Except String Unit
  /-- Opens a file to write at its end, after its directory has been made; or why that fails. -/
  openFile : String → Except String Unit

namespace Setup

/-! ### Files -/

/-- Opens a log file. If its path names a directory that it lies in, this is made first. -/
def openFile (disk : Disk) (path : String) : Except SetupError Unit := do
  match (Files.parent? path).filter (· ≠ "") with
  | some folder =>
    (disk.makeFolder folder).mapError fun reason =>
      .logging ("Failed to create log directory: " ++ reason)
  | none => pure ()
  (disk.openFile path).mapError fun reason =>
    .logging ("Failed to open log file " ++ Text.quoted path ++ ": " ++ reason)

/-! ### Decisions -/

/-- The directive for a part of the program, both texts without the blanks around them. -/
def moduleDirective (part level : String) : Except SetupError Directive :=
  (Directive.parse (Text.trim part ++ "=" ++ Text.trim level)).mapError fun e =>
    .logging ("Invalid log directive: " ++ e.text)

/-- The parts and levels in a list such as `a=info,b=warn`; what has no equals sign is left out. -/
def moduleList (s : String) : List (String × String) :=
  (s.splitOn ",").filterMap fun item =>
    match item.toList.span (· ≠ '=') with
    | (part, '=' :: level) => some (String.ofList part, String.ofList level)
    | _ => none

/-- The filter that the environment gives, if it gives a right one. -/
def givenFilter (vars : Variables) : Option Filter :=
  (vars.lookup "AGENT_BRIDGE_LOG").bind Filter.parse?

/-- The level of the settings, with the usual one where there are no settings. -/
def level (settings : Option LogSettings) : String := (settings.getD {}).level

/-- The levels for parts of the program, those of the settings first. -/
def modules (settings : Option LogSettings) (vars : Variables) : List (String × String) :=
  (settings.getD {}).modules.entries
    ++ ((vars.lookup "AGENT_BRIDGE_LOG_MODULES").map moduleList).getD []

/-- The filter. The environment's own comes first. Otherwise the level of the settings is taken;
`off` shuts everything, and any other is refined by the levels for parts of the program. -/
def filterFor (settings : Option LogSettings) (vars : Variables) : Except SetupError Filter :=
  match givenFilter vars with
  | some f => .ok f
  | none =>
    if level settings = "off" then .ok (Filter.parseLossy "off").1
    else
      (modules settings vars).foldlM (fun f m => (moduleDirective m.1 m.2).map f.add)
        (Filter.parseLossy (level settings)).1

/-- The lines that are noted on the standard error output while the filter is made. -/
def notes (settings : Option LogSettings) (vars : Variables) : List String :=
  match givenFilter vars with
  | some _ => []
  | none => (Filter.parseLossy (level settings)).2.flatMap Text.lines

/-- The format. The environment's comes first if it is known. -/
def formatFor (settings : Option LogSettings) (vars : Variables) : Except SetupError Format :=
  match (vars.lookup "AGENT_BRIDGE_LOG_FORMAT").bind fun s => (Format.parse s).toOption with
  | some f => .ok f
  | none => (Format.parse (settings.getD {}).format).mapError .logging

/-- The output. The environment's comes first, known or not. -/
def outputFor (settings : Option LogSettings) (vars : Variables) : Except SetupError Output :=
  (Output.parse ((vars.lookup "AGENT_BRIDGE_LOG_OUTPUT").getD (settings.getD {}).output)).mapError
    .logging

/-- Where lines go; a file is opened. -/
def sinkFor (disk : Disk) (settings : Option LogSettings) : Output → Except SetupError Sink
  | .stdout => .ok .stdout
  | .stderr => .ok .stderr
  | .file =>
    let path := (settings.getD {}).file
    (openFile disk path).map fun _ => .file path

/-- Makes all decisions. A file never gets colours. -/
def prepare (disk : Disk) (settings : Option LogSettings) (vars : Variables) :
    Except SetupError Setup := do
  let filter ← filterFor settings vars
  let format ← formatFor settings vars
  let output ← outputFor settings vars
  let sink ← sinkFor disk settings output
  return { filter, format, sink, color := (settings.getD {}).color && output ≠ .file }

/-! ### Lines -/

/-- The lines for an event: none if the filter holds it back. Spans that the filter holds back are
not shown. -/
def lines (s : Setup) (time : String) (e : Event) : List String :=
  match s.filter.pass e, s.format with
  | none, _ => []
  | some e, .text => Text.lines (e.textLine s.color time)
  | some e, .json => [(e.toJson time).text]

end Setup

/-- The state of logging: the set-up in use and what setting up has left behind. -/
structure Installation where
  setup : Option Setup := none
  /-- The paths of the log files that were opened. -/
  files : List String := []
  /-- What was noted on the standard error output. -/
  notes : List String := []

namespace Installation

/-- Sets up logging. A second set-up is refused, but opens its file all the same. -/
def install (i : Installation) (disk : Disk) (settings : Option LogSettings) (vars : Variables) :
    Except SetupError Unit × Installation :=
  let i := { i with notes := i.notes ++ Setup.notes settings vars }
  match Setup.prepare disk settings vars with
  | .error e => (.error e, i)
  | .ok s =>
    let i := { i with files := i.files ++ s.sink.path?.toList }
    if i.setup.isSome then
      (.error (.logging "a global default trace dispatcher has already been set"), i)
    else (.ok (), { i with setup := some s })

/-- The lines that events leave in a sink. -/
def linesAt (i : Installation) (sink : Sink) (time : String) (events : List Event) : List String :=
  match i.setup with
  | some s => if s.sink = sink then events.flatMap (s.lines time) else []
  | none => []

end Installation

end Parley.Log
