/-!
# Files

The files of a system, found by paths. A path that begins with a slash starts from the root, any
other from the working directory. Paths that lead to the same place by `.`, `..` or repeated slashes
are the same path, as long as every place on the way is there.
-/

namespace Parley

/-- The files of a system. -/
structure Files where
  /-- The path of the working directory, from the root. -/
  directory : String
  /-- The texts of files under their paths. -/
  texts : List (String × String) := []
  /-- The paths of directories that are there whatever files there are. -/
  folders : List String := []

namespace Files

/-! ### Paths -/

/-- The steps of a path. An empty one stays where it is. -/
def steps (path : String) : List String := path.splitOn "/"

/-- The step leads nowhere. -/
def isIdle (step : String) : Bool := step = "" || step = "."

/-- The path starts from the root. -/
def isAbsolute (path : String) : Bool := path.toList.head? = some '/'

/-- A path from the place that another path leads to. -/
def join (path next : String) : String :=
  if isAbsolute next ∨ path = "" then next
  else if path.toList.getLast? = some '/' then path ++ next
  else path ++ "/" ++ next

/-- The parts of a path: its steps without idle ones, but for a dot that the path begins with. -/
def parts (path : String) : List String :=
  (if (steps path).head? = some "." then ["."] else []) ++ (steps path).filter (!isIdle ·)

/-- The path with these parts. -/
def ofParts (absolute : Bool) (parts : List String) : String :=
  (if absolute then "/" else "") ++ String.intercalate "/" parts

/-- The path of the directory that a path lies in; none if the path has no parts. -/
def parent? (path : String) : Option String :=
  if parts path = [] then none else some (ofParts (isAbsolute path) (parts path).dropLast)

/-- The last part of a path if it is a name. -/
def name? (path : String) : Option String :=
  (parts path).getLast?.filter fun name => name ≠ "." ∧ name ≠ ".."

/-- The path with an ending put behind its last name; none if it ends with no name. -/
def extended? (path ending : String) : Option String :=
  (name? path).map fun _ => ofParts (isAbsolute path) (parts path) ++ ending

/-- The part after the last dot of the last name. A dot that begins the name does not count. -/
def extension? (path : String) : Option String :=
  match (name? path).map (·.splitOn ".") with
  | none | some [] | some [_] | some ["", _] => none
  | some parts => parts.getLast?

/-- The way from one place to another, both given by the parts of paths from the root. -/
def way : List String → List String → List String
  | here :: base, there :: target =>
    if here = there then way base target
    else List.replicate (base.length + 1) ".." ++ there :: target
  | base, target => List.replicate base.length ".." ++ target

/-! ### Places -/

/-- Where a step leads from a place. Places are given by the names on the way there from the root,
and above the root there is only the root. -/
def walk (place : List String) (step : String) : List String :=
  if isIdle step then place else if step = ".." then place.dropLast else place ++ [step]

/-- Where the steps of a path start. -/
def start (files : Files) (path : String) : List String :=
  if isAbsolute path then [] else (steps files.directory).foldl walk []

/-- Where a path leads if everything on the way is there. -/
def place (files : Files) (path : String) : List String :=
  (steps path).foldl walk (files.start path)

/-- The path from the working directory to where another path leads. -/
def relative (files : Files) (path : String) : String :=
  ofParts false (way (parts files.directory) (parts (join files.directory path)))

/-! ### Looking up -/

/-- The place is the working directory, one of the folders, or on the way there or to a file. -/
def isDirectory (files : Files) (place : List String) : Bool :=
  ("." :: files.folders).any (fun folder => place.isPrefixOf (files.place folder)) ||
    files.texts.any fun f => place.isPrefixOf (files.place f.1) && place ≠ files.place f.1

/-- There is something at the place. -/
def isThere (files : Files) (place : List String) : Bool :=
  files.isDirectory place || files.texts.any fun f => files.place f.1 = place

/-- Follows steps from a place, each from a directory to something that is there. -/
def follow (files : Files) (place : List String) : List String → Option (List String)
  | [] => some place
  | step :: rest =>
    if files.isDirectory place && files.isThere (walk place step) then
      files.follow (walk place step) rest
    else none

/-- The place that a path leads to, if something is there. The empty path leads nowhere. -/
def resolve? (files : Files) (path : String) : Option (List String) :=
  if path = "" then none else files.follow (files.start path) (steps path)

/-- The text of a file. -/
def read? (files : Files) (path : String) : Option String := do
  let place ← files.resolve? path
  let file ← files.texts.find? fun f => files.place f.1 = place
  return file.2

end Files

end Parley
