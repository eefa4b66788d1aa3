import Parley.Proofs.Files
import Parley.Proofs.Settings.Leaf
import Parley.Proxy
import Parley.Settings.Load

/-!
# Loaded settings

Every leaf of settings that load holds what the highest layer with a verdict about it gives, and its
usual value if that is nothing (`Surroundings.load_layered`). Usual values come from the lowest
layer or, where this has none, from the readers; the two agree (`Leaf.holds_defaults`).

A section gives way to anything in its place that is no table. So what a higher layer leaves out may
still be lost, if this layer has a list or a scalar where lower ones have a section
(`Surroundings.not_byNames`).
-/

namespace Parley

namespace Settings

/-! ### The usual values -/

theorem defaults_verdict (leaf : Leaf) :
    (Layer.defaults.verdict leaf.path).join =
      match leaf with
      | .managerId => some (.string "")
      | .actorName => some (.string "AgentQuery")
      | .entryPoint => some (.string "Query")
      | .level => some (.string "info")
      | _ => none := by
  cases leaf with
  | levelOf part => rfl
  | _ => decide +kernel

/-- The built-in layer gives usual values. -/
theorem Leaf.holds_defaults (leaf : Leaf) :
    leaf.Holds {} (Layer.defaults.verdict leaf.path).join := by
  rw [defaults_verdict]
  cases leaf with
  | managerId | actorName | entryPoint | level => exact ⟨_, rfl, rfl⟩
  | format | output | file | color | levelOf part => rfl

theorem Leaf.Holds.unique {leaf : Leaf} {c c' : Settings} {o : Option Scalar}
    (h : leaf.Holds c o) (h' : leaf.Holds c' o) : leaf.content c = leaf.content c' := by
  cases o with
  | none => exact h.trans h'.symm
  | some s =>
    obtain ⟨x, hx, hc⟩ := h
    obtain ⟨x', hx', hc'⟩ := h'
    rw [hx] at hx'
    cases hx'
    exact hc.trans hc'.symm

/-- Above the built-in layer, the highest layer with a verdict decides, and the value is the usual
one if nothing is left in its place or no layer has a verdict. -/
theorem Leaf.holds_stack {leaf : Leaf} {c : Settings} {ls : List Layer}
    (h : leaf.Holds c ((Layer.stack (Layer.defaults :: ls)).scalar? leaf.path)) :
    leaf.Holds c (ls.reverse.findSome? (·.verdict leaf.path)).join := by
  rw [Layer.scalar?_stack, List.reverse_cons, List.findSome?_append, List.findSome?_singleton] at h
  cases ho : ls.reverse.findSome? (·.verdict leaf.path) with
  | none =>
    -- Only the built-in layer is left, and it gives what the readers would put in.
    rw [ho] at h
    exact h.unique leaf.holds_defaults
  | some o =>
    rw [ho] at h
    exact h

/-! ### Layers from files and variables -/

theorem keysDistinct_defaults : ∀ e ∈ Layer.defaults, e.2.KeysDistinct := by
  intro e he
  obtain ⟨-, -, rfl⟩ := List.mem_map.1 he
  exact .scalar none _

theorem keysDistinct_ofVariables (vars : List (String × String)) :
    ∀ e ∈ Layer.ofVariables vars, e.2.KeysDistinct := by
  intro e he
  obtain ⟨⟨name, value⟩, -, h⟩ := List.mem_filterMap.1 (Entries.mem_of_mem_ofList he)
  simp only at h
  split at h
  · cases h
    exact .scalar _ _
  · cases h

theorem keysDistinct_layerOf {source : String} {value : Except String Json} {l : Layer}
    (h : layerOf source value = .ok l) : ∀ e ∈ l, e.2.KeysDistinct := by
  unfold layerOf at h
  split at h
  · rename_i j
    split at h
    · rename_i heq
      cases h
      have hkeys := Tree.keysDistinct_ofJson (some source) j
      rw [heq] at hkeys
      cases hkeys with
      | table nodup parts => exact parts
    · cases h
  · cases h

namespace Surroundings

/-- Whatever the format, the entries of the layer have distinct keys in all their parts. -/
theorem keysDistinct_layer {s : Surroundings} {f : FileFormat} {path text : String} {l : Layer}
    (h : s.layer f path text = .ok l) : ∀ e ∈ l, e.2.KeysDistinct := by
  unfold layer at h
  extract_lets source text at h
  cases f with
  | toml =>
    simp only at h
    split at h
    · cases h
      exact Tree.keysDistinct_ofEntries _ _
    · cases h
  | json => exact keysDistinct_layerOf h
  | foreign f => exact keysDistinct_layerOf h

theorem keysDistinct_nil : ∀ e ∈ ([] : Layer), e.2.KeysDistinct :=
  fun _ h => absurd h List.not_mem_nil

theorem keysDistinct_optional {s : Surroundings} {path : String} {l : Layer}
    (h : s.optional path = .ok l) : ∀ e ∈ l, e.2.KeysDistinct := by
  unfold optional at h
  split at h
  · split at h
    · exact keysDistinct_layer h
    · cases h
      exact keysDistinct_nil
  · cases h
    exact keysDistinct_nil

theorem keysDistinct_user {s : Surroundings} {l : Layer} (h : s.user = .ok l) :
    ∀ e ∈ l, e.2.KeysDistinct := by
  unfold user at h
  split at h
  · exact keysDistinct_optional h
  · cases h
    exact keysDistinct_nil

/-! ### Three files -/

/-- A file that a path from the root goes down to is a layer, if it ends in `toml` after the one dot
in its name. -/
theorem optional_of_isDescent {s : Surroundings} {path text : String} (name stem : String)
    (hroot : Files.isAbsolute path) (hpath : Files.IsDescent path)
    (hfirst : s.files.texts.find? (fun f => s.files.place f.1 = s.files.place path) =
      some (path, text))
    (hlast : (Files.steps path).getLast? = some name)
    (hname : (name.toList.splitOn '.').map String.ofList = [stem, "toml"]) (hstem : stem ≠ "")
    (hformat : s.format? "toml" = some .toml) :
    s.optional path = s.layer .toml path text := by
  have hread : s.files.read? path = some text := Files.read?_of_isDescent hpath hfirst
  have hthere : (s.files.resolve? path).isSome := by
    obtain ⟨place, hplace, -⟩ := Option.bind_eq_some_iff.1 hread
    rw [hplace, Option.isSome_some]
  have hwhole : Files.join s.files.directory path = path := if_pos (Or.inl hroot)
  have hextension : Files.extension? path = some "toml" :=
    Files.extension?_of_isDescent name stem hpath hlast hname hstem
  have hfind : s.find path = .ok (.toml, path, text) := by
    simp only [find, hwhole, hread, hextension, Option.bind_some, hformat]
  simp only [Surroundings.optional, hthere, if_true, hfind]

/-- A workspace on the stage `staging`, with its two files and the user's, which names an actor. -/
def house (base staged : String) : Surroundings :=
  let environment := [("XDG_CONFIG_HOME", "/ws/xdg"), ("AGENT_BRIDGE_ENV", "staging")]
  { files :=
      { directory := "/home/user"
        texts := [("/ws/xdg/agent-bridge/config.toml", "[proxy]\nactor_name = \"Deputy\"\n"),
          ("/ws/config/config.toml", base), ("/ws/config/staging.toml", staged)] }
    environment
    folder? := desktopFolder? environment (some "/home/user")
    foreign := fun _ _ => .error "no reader" }

theorem house_steps :
    Files.steps "/ws/xdg/agent-bridge/config.toml" =
      ["", "ws", "xdg", "agent-bridge", "config.toml"] ∧
    Files.steps "/ws/config/config.toml" = ["", "ws", "config", "config.toml"] ∧
    Files.steps "/ws/config/staging.toml" = ["", "ws", "config", "staging.toml"] := by
  rw [Files.steps_eq, Files.steps_eq, Files.steps_eq]
  decide +kernel

theorem house_isDescent :
    Files.IsDescent "/ws/xdg/agent-bridge/config.toml" ∧
    Files.IsDescent "/ws/config/config.toml" ∧ Files.IsDescent "/ws/config/staging.toml" := by
  obtain ⟨huser, hbase, hstaged⟩ := house_steps
  rw [Files.IsDescent, Files.IsDescent, Files.IsDescent, huser, hbase, hstaged]
  decide

theorem house_place (files : Files) :
    files.place "/ws/xdg/agent-bridge/config.toml" = ["ws", "xdg", "agent-bridge", "config.toml"] ∧
    files.place "/ws/config/config.toml" = ["ws", "config", "config.toml"] ∧
    files.place "/ws/config/staging.toml" = ["ws", "config", "staging.toml"] := by
  obtain ⟨huserSteps, hbaseSteps, hstagedSteps⟩ := house_steps
  obtain ⟨huser, hbase, hstaged⟩ := house_isDescent
  rw [Files.place_of_isDescent files (by decide) huser, huserSteps,
    Files.place_of_isDescent files (by decide) hbase, hbaseSteps,
    Files.place_of_isDescent files (by decide) hstaged, hstagedSteps]
  decide

theorem house_paths (base staged : String) :
    (house base staged).userFile? = some "/ws/xdg/agent-bridge/config.toml" ∧
    Files.join (Files.join "/ws" "config") "config.toml" = "/ws/config/config.toml" ∧
    Files.join (Files.join "/ws" "config") ((house base staged).stage ++ ".toml") =
      "/ws/config/staging.toml" := by
  -- None of the paths depends on what is in the files.
  change (house "" "").userFile? = _ ∧ _ ∧ Files.join _ ((house "" "").stage ++ ".toml") = _
  decide +kernel

theorem house_optional (base staged : String) :
    (house base staged).optional "/ws/xdg/agent-bridge/config.toml" =
      (house base staged).layer .toml "/ws/xdg/agent-bridge/config.toml"
        "[proxy]\nactor_name = \"Deputy\"\n" ∧
    (house base staged).optional "/ws/config/config.toml" =
      (house base staged).layer .toml "/ws/config/config.toml" base ∧
    (house base staged).optional "/ws/config/staging.toml" =
      (house base staged).layer .toml "/ws/config/staging.toml" staged := by
  obtain ⟨huserSteps, hbaseSteps, hstagedSteps⟩ := house_steps
  obtain ⟨huser, hbase, hstaged⟩ := house_isDescent
  obtain ⟨huserPlace, hbasePlace, hstagedPlace⟩ := house_place (house base staged).files
  have hformat : (house base staged).format? "toml" = some .toml := by
    change FileFormat.all.find? (·.extensions.contains "toml") = some .toml
    decide
  have htexts : (house base staged).files.texts =
      [("/ws/xdg/agent-bridge/config.toml", "[proxy]\nactor_name = \"Deputy\"\n"),
        ("/ws/config/config.toml", base), ("/ws/config/staging.toml", staged)] :=
    rfl
  refine ⟨?user, ?base, ?staged⟩
  case user =>
    apply optional_of_isDescent "config.toml" "config" (by decide) huser
    · exact List.find?_cons_of_pos (by simp)
    · rw [huserSteps]
      rfl
    · decide +kernel
    · decide
    · exact hformat
  case base =>
    apply optional_of_isDescent "config.toml" "config" (by decide) hbase
    · simp [htexts, huserPlace, hbasePlace]
    · rw [hbaseSteps]
      rfl
    · decide +kernel
    · decide
    · exact hformat
  case staged =>
    apply optional_of_isDescent "staging.toml" "staging" (by decide) hstaged
    · simp [htexts, huserPlace, hbasePlace, hstagedPlace]
    · rw [hstagedSteps]
      rfl
    · decide +kernel
    · decide
    · exact hformat

/-- The layers that come from files are the three files. -/
theorem house_layers (base staged : String) :
    let s := house base staged
    s.layers "/ws" = (do
      let user ← s.layer .toml "/ws/xdg/agent-bridge/config.toml"
        "[proxy]\nactor_name = \"Deputy\"\n"
      let base ← s.layer .toml "/ws/config/config.toml" base
      let staged ← s.layer .toml "/ws/config/staging.toml" staged
      return [Layer.defaults, user, base, staged, Layer.ofVariables s.environment]) := by
  intro s
  obtain ⟨huser, hbase, hstaged⟩ := house_optional base staged
  obtain ⟨huserPath, hbasePath, hstagedPath⟩ := house_paths base staged
  simp only [layers, Surroundings.user, s, huserPath, hbasePath, hstagedPath, huser, hbase, hstaged]

/-! ### Loading -/

/-- What layers above the built-in one amount to. Where a list has come to stand for a section, its
items are the parts. -/
theorem settingsOf_layered {ls : List Layer} {c : Settings}
    (h : settingsOf (Layer.defaults :: ls) = .ok c)
    (hkeys : ∀ l ∈ ls, ∀ e ∈ l, e.2.KeysDistinct) (leaf : Leaf) :
    let t := Layer.stack (Layer.defaults :: ls)
    leaf.Holds c (if t.meetsList leaf.path then t.at? leaf.place
      else (ls.reverse.findSome? (·.verdict leaf.path)).join) := by
  intro t
  have hread : Settings.read .lenient t = .ok c := Except.mapError_eq_ok.1 h
  have ht : t.KeysDistinct :=
    Layer.keysDistinct_stack (List.forall_mem_cons.2 ⟨keysDistinct_defaults, hkeys⟩)
  have hleaf := holds_of_read hread ht leaf
  split
  · exact hleaf
  · rename_i hlist
    rw [Tree.at?_eq_scalar? (Bool.eq_false_of_not_eq_true hlist)] at hleaf
    exact Leaf.holds_stack hleaf

theorem invalid_eq_nil {c : Settings} :
    c.invalid = [] ↔ c.proxy.validate = .ok () ∧ c.logging.validate = .ok () := by
  unfold invalid
  cases c.proxy.validate <;> cases c.logging.validate <;> simp

theorem checked_eq_ok {c c' : Settings} :
    c.checked = .ok c' ↔ c = c' ∧ c.proxy.validate = .ok () ∧ c.logging.validate = .ok () := by
  rw [← invalid_eq_nil]
  unfold checked
  cases c.invalid <;> simp

theorem loadChecked_eq_ok {s : Surroundings} {workspace : String} {c : Settings} :
    s.loadChecked workspace = .ok c ↔
      s.load workspace = .ok c ∧ c.proxy.validate = .ok () ∧ c.logging.validate = .ok () := by
  constructor
  · intro h
    obtain ⟨c', hload, h⟩ := Except.bind_eq_ok.1 h
    obtain ⟨rfl, hvalid⟩ := checked_eq_ok.1 h
    exact ⟨hload, hvalid⟩
  · rintro ⟨hload, hvalid⟩
    exact Except.bind_eq_ok.2 ⟨c, hload, checked_eq_ok.2 ⟨rfl, hvalid⟩⟩

/-- Every leaf of settings that load holds what the highest of the layers with a verdict about it
gives, and its usual value if that is nothing. If a list has come to stand for a section, the leaf
holds what the item in its place gives. Settings that are checked are given out just if both
sections are valid, and then make a proxy that has them. -/
theorem load_layered (s : Surroundings) (workspace : String) :
    (∀ c, s.load workspace = .ok c →
      ∃ user base staged,
        s.user = .ok user ∧
        s.optional (Files.join (Files.join workspace "config") "config.toml") = .ok base ∧
        s.optional (Files.join (Files.join workspace "config") (s.stage ++ ".toml")) = .ok staged ∧
        ∀ leaf : Leaf,
          let layers := [user, base, staged, Layer.ofVariables s.environment]
          let t := Layer.stack (Layer.defaults :: layers)
          leaf.Holds c (if t.meetsList leaf.path then t.at? leaf.place
            else (layers.reverse.findSome? (·.verdict leaf.path)).join)) ∧
    (∀ c, s.loadChecked workspace = .ok c ↔
      s.load workspace = .ok c ∧ c.proxy.validate = .ok () ∧ c.logging.validate = .ok ()) ∧
    ∀ c closed, s.loadChecked workspace = .ok c →
      Proxy.checked c.proxy closed = .ok { settings := c.proxy, closed } := by
  refine ⟨fun c h => ?_, fun c => loadChecked_eq_ok, fun c closed h => ?_⟩
  · obtain ⟨ls, hls, hread⟩ := Except.bind_eq_ok.1 h
    obtain ⟨user, huser, hls⟩ := Except.bind_eq_ok.1 hls
    obtain ⟨base, hbase, hls⟩ := Except.bind_eq_ok.1 hls
    obtain ⟨staged, hstaged, hls⟩ := Except.bind_eq_ok.1 hls
    cases hls
    refine ⟨user, base, staged, huser, hbase, hstaged, settingsOf_layered hread ?_⟩
    simp only [List.forall_mem_cons]
    exact ⟨keysDistinct_user huser, keysDistinct_optional hbase, keysDistinct_optional hstaged,
      keysDistinct_ofVariables s.environment, fun _ h => absurd h List.not_mem_nil⟩
  · obtain ⟨-, hvalid, -⟩ := loadChecked_eq_ok.1 h
    rw [Proxy.checked, hvalid]

theorem load_layered_house :
    let s := house "[proxy]\nmanager_id = \"base-manager\"\n"
      "[proxy]\nactor_name = \"StagingActor\"\n"
    let c : Settings := { proxy := { managerId := "base-manager", actorName := "StagingActor" } }
    s.loadChecked "/ws" = .ok c ∧
    (∃ user base staged,
      s.user = .ok user ∧
      s.optional (Files.join (Files.join "/ws" "config") "config.toml") = .ok base ∧
      s.optional (Files.join (Files.join "/ws" "config") (s.stage ++ ".toml")) = .ok staged ∧
      ∀ leaf : Leaf,
        let layers := [user, base, staged, Layer.ofVariables s.environment]
        let t := Layer.stack (Layer.defaults :: layers)
        leaf.Holds c (if t.meetsList leaf.path then t.at? leaf.place
          else (layers.reverse.findSome? (·.verdict leaf.path)).join)) ∧
    Proxy.checked c.proxy none = .ok { settings := c.proxy } := by
  intro s c
  have hload : s.load "/ws" = .ok c := by
    apply Except.toOption_eq_some.1
    rw [load, house_layers]
    decide +kernel
  have hchecked : s.loadChecked "/ws" = .ok c :=
    ((load_layered s "/ws").2.1 c).2 ⟨hload, by decide +kernel⟩
  exact ⟨hchecked, (load_layered s "/ws").1 c hload, (load_layered s "/ws").2.2 c none hchecked⟩

/-! ### Sections that give way -/

/-- Every leaf holds what the highest layer that sets it gives, whatever else layers do. -/
def ByNames (s : Surroundings) (workspace : String) : Prop :=
  ∀ c ls, s.load workspace = .ok c → s.layers workspace = .ok ls →
    ∀ leaf : Leaf,
      leaf.Holds c (ls.reverse.findSome? fun l => (Layer.stack [l]).scalar? leaf.path)

theorem not_byNames_of {s : Surroundings} {workspace : String} {c : Settings} {leaf : Leaf}
    {o : Option Scalar} (hload : (s.load workspace).toOption = some c)
    (hset : (s.layers workspace).toOption.map (fun ls =>
      ls.reverse.findSome? fun l => (Layer.stack [l]).scalar? leaf.path) = some o)
    (hleaf : ¬ leaf.Holds c o) : ¬ s.ByNames workspace := by
  intro h
  obtain ⟨ls, hls, rfl⟩ := Option.map_eq_some_iff.1 hset
  exact hleaf (h c ls (Except.toOption_eq_some.1 hload) (Except.toOption_eq_some.1 hls) leaf)

/-- A list takes the place of the section that names the actor, or a number does, and then a section
takes the place of the number. The actor is lost either way. -/
theorem not_byNames :
    ¬ (house "proxy = [\"m\"]\n" "").ByNames "/ws" ∧
    ¬ (house "proxy = 3\n" "[proxy]\nmanager_id = \"m\"\n").ByNames "/ws" := by
  have hactor :
      ¬ Leaf.actorName.Holds { proxy := { managerId := "m" } } (some (.string "Deputy")) := by
    rintro ⟨x, hx, hc⟩
    cases hx
    exact absurd hc (by decide +kernel)
  constructor <;> apply not_byNames_of _ _ hactor <;> simp only [load, house_layers] <;>
    decide +kernel

end Surroundings

end Settings

end Parley
