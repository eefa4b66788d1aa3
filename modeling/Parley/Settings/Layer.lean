import Parley.Settings.Basic
import Parley.Settings.Tree

/-!
# Layers of settings

A layer is what one source says: trees under keys. Layers are laid one on top of the other; what a
higher layer says replaces what lower ones say in the same place.
-/

namespace Parley.Settings

/-- What a source of settings says. -/
abbrev Layer := List (String × Tree)

namespace Layer

/-- Lays a layer on top of a tree. -/
def addTo (t : Tree) (l : Layer) : Tree :=
  l.foldl (fun t (key, u) => Tree.assign u (Route.ofKey key) t) t

/-- All layers together, the lowest first. -/
def stack (ls : List Layer) : Tree := ls.foldl addTo Tree.empty

/-- The lowest layer: the usual values of the settings that must not be missing. -/
def defaults : Layer :=
  let usual : Settings := {}
  [("proxy.manager_id", usual.proxy.managerId), ("proxy.actor_name", usual.proxy.actorName),
   ("proxy.entry_point", usual.proxy.entryPoint), ("logging.level", usual.logging.level)].map
    fun (key, s) => (key, .scalar none (.string s))

/-- What environment variables begin with that are settings. -/
def marker : List Char := "agent_bridge__".toList

/-- What environment variables say. Their names count in lower case, and two underscores stand for a
dot. -/
def ofVariables (vars : List (String × String)) : Layer :=
  Entries.ofList (vars.filterMap fun (name, value) =>
    let name := (Text.lower name).toList
    if marker.isPrefixOf name then
      let key := String.intercalate "." ((String.ofList (name.drop marker.length)).splitOn "__")
      some (key, .scalar (some "the environment") (.string value))
    else none)

end Layer

end Parley.Settings
