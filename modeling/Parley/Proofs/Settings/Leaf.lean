import Parley.Proofs.Entries
import Parley.Proofs.Except
import Parley.Proofs.Host.Property
import Parley.Proofs.Settings.Merging
import Parley.Settings.Reader

/-!
# Single values among the settings

A `Leaf` is a single value among the settings. Names lead to it in a tree (`Leaf.path`), or
positions where a list stands for a section (`Leaf.place`). Reading settings off a tree gives every
leaf what the scalar in its place means, and its usual value where the tree has no such scalar
(`Settings.holds_of_read`).
-/

namespace Parley

namespace Settings

/-! ### Places -/

/-- A place among settings: from section to section the name of a part, and with it the names of all
parts that the items of a list would be, in their order. -/
abbrev Place := List (List String × String)

namespace Tree

/-- The part of a section under a name. -/
def part? (names : List String) : Tree → String → Option Tree
  | table _ entries, name => Entries.get? entries name
  | list _ items, name => Entries.get? (names.zip items) name
  | scalar _ _, _ => none

/-- The scalar in a place. -/
def at? : Tree → Place → Option Scalar
  | scalar _ s, [] => some s
  | _, [] => none
  | t, (names, name) :: place => (t.part? names name).bind (·.at? place)

theorem at?_cons (t : Tree) (names : List String) (name : String) (place : Place) :
    t.at? ((names, name) :: place) = (t.part? names name).bind (·.at? place) := by
  cases t <;> rfl

/-- Where no list stands for a section, names are all that counts. -/
theorem at?_eq_scalar? {t : Tree} {place : Place}
    (h : t.meetsList (place.map Prod.snd) = false) :
    t.at? place = t.scalar? (place.map Prod.snd) := by
  induction place generalizing t with
  | nil => cases t <;> rfl
  | cons step place ih =>
    obtain ⟨names, name⟩ := step
    rw [at?_cons, List.map_cons, scalar?_cons]
    cases t with
    | scalar origin s => rfl
    | list origin items => cases h
    | table origin entries =>
      show (Entries.get? entries name).bind _ = (Entries.get? entries name).bind _
      cases hu : Entries.get? entries name with
      | none => rfl
      | some u => exact ih ((meetsList_cons (t := table origin entries) hu _).symm.trans h)

theorem KeysDistinct.part? {t u : Tree} (ht : t.KeysDistinct) {names : List String} {name : String}
    (hu : t.part? names name = some u) : u.KeysDistinct := by
  cases ht with
  | scalar origin s => cases hu
  | list parts => exact parts u (List.of_mem_zip (Entries.mem_of_get? hu)).2
  | table nodup parts => exact parts _ (Entries.mem_of_get? hu)

end Tree

/-! ### Leaves -/

/-- A single value among the settings. -/
inductive Leaf where
  | managerId
  | actorName
  | entryPoint
  | level
  | format
  | output
  | file
  | color
  /-- The level for a part of the program. -/
  | levelOf (part : String)
deriving DecidableEq, Repr

/-- A text or a truth value. -/
inductive Content where
  | text (s : String)
  | flag (b : Bool)
deriving DecidableEq, Repr

/-- Reads a text off a scalar. -/
def scalarText (s : Scalar) : Except String String := Manner.lenient.text (.scalar none s)

/-- Reads a truth value off a scalar. -/
def scalarFlag (s : Scalar) : Except String Bool := Manner.lenient.flag (.scalar none s)

/-- The sections in their order. -/
def sections : List String := ["proxy", "logging"]

/-- The parts of the section of a proxy in their order. -/
def proxyParts : List String := ["manager_id", "actor_name", "entry_point"]

/-- The parts of the section of logging in their order. -/
def loggingParts : List String := ["level", "format", "output", "file", "color", "modules"]

namespace Leaf

/-- Where a leaf stands. -/
def place : Leaf → Place
  | managerId => inProxy "manager_id"
  | actorName => inProxy "actor_name"
  | entryPoint => inProxy "entry_point"
  | level => inLogging "level"
  | format => inLogging "format"
  | output => inLogging "output"
  | file => inLogging "file"
  | color => inLogging "color"
  | levelOf part => inLogging "modules" ++ [([], part)]
where
  inProxy (name : String) : Place := [(sections, "proxy"), (proxyParts, name)]
  inLogging (name : String) : Place := [(sections, "logging"), (loggingParts, name)]

/-- The names that lead to a leaf. -/
def path (leaf : Leaf) : List String := leaf.place.map Prod.snd

/-- What a leaf holds. Only levels for parts of the program may be missing. -/
def content (c : Settings) : Leaf → Option Content
  | managerId => some (.text c.proxy.managerId)
  | actorName => some (.text c.proxy.actorName)
  | entryPoint => some (.text c.proxy.entryPoint)
  | level => some (.text c.logging.level)
  | format => some (.text c.logging.format)
  | output => some (.text c.logging.output)
  | file => some (.text c.logging.file)
  | color => some (.flag c.logging.color)
  | levelOf part => (c.logging.modules.get? part).map .text

/-- What a scalar means for a leaf. -/
def read : Leaf → Scalar → Except String Content
  | color, s => (scalarFlag s).map .flag
  | _, s => (scalarText s).map .text

/-- The leaf holds what a scalar means for it, or what it usually holds if there is no scalar. -/
def Holds (leaf : Leaf) (c : Settings) : Option Scalar → Prop
  | some s => ∃ x, leaf.read s = .ok x ∧ leaf.content c = some x
  | none => leaf.content c = leaf.content {}

end Leaf

/-! ### Reading one value -/

/-- The value is the one that a scalar is read as, or the usual one if there is no scalar. -/
def Reads {α : Type} (read : Scalar → Except String α) (usual x : α) : Option Scalar → Prop
  | some s => read s = .ok x
  | none => x = usual

theorem Reads.holds {α : Type} {read : Scalar → Except String α} {usual x : α} {o : Option Scalar}
    (h : Reads read usual x o) {leaf : Leaf} {c : Settings} {f : α → Content}
    (hread : ∀ s, leaf.read s = (read s).map f) (hx : leaf.content c = some (f x))
    (husual : leaf.content {} = some (f usual)) : leaf.Holds c o := by
  cases o with
  | none =>
    obtain rfl : x = usual := h
    exact hx.trans husual.symm
  | some s => exact ⟨f x, (hread s).trans (Except.map_eq_ok.2 ⟨x, h, rfl⟩), hx⟩

/-- A level for a part of the program may be missing, and is by itself. -/
theorem Reads.holds_levelOf {c : Settings} {part : String} {o : Option Scalar}
    (h : Reads (fun s => (scalarText s).map some) none (c.logging.modules.get? part) o) :
    (Leaf.levelOf part).Holds c o := by
  cases o with
  | none => exact congrArg (Option.map Content.text) h
  | some s =>
    obtain ⟨x, hx, hget⟩ := Except.map_eq_ok.1 h
    exact ⟨.text x, Except.map_eq_ok.2 ⟨x, hx, rfl⟩, congrArg (Option.map Content.text) hget.symm⟩

/-! ### Reading sections -/

theorem get?_map_key {α β : Type} (f : String → α → β) (es : List (String × α)) (name : String) :
    Entries.get? (es.map fun (k, a) => (k, f k a)) name = (Entries.get? es name).map (f name) := by
  induction es with
  | nil => rfl
  | cons e es ih =>
    obtain ⟨k, a⟩ := e
    by_cases h : k = name
    · simp [Entries.get?, h]
    · simpa [Entries.get?, h] using ih

/-- Numbering entries changes nothing about where they stand. -/
theorem get?_map_zipIdx {α β γ : Type} (f : String → α → Nat → β) (g : β → γ) (g' : α → γ)
    (hf : ∀ k a n, g (f k a n) = g' a) (es : List (String × α)) (n : Nat) (name : String) :
    (Entries.get? ((es.zipIdx n).map fun ((k, a), n) => (k, f k a n)) name).map g =
      (Entries.get? es name).map g' := by
  induction es generalizing n with
  | nil => rfl
  | cons e es ih =>
    obtain ⟨k, a⟩ := e
    by_cases h : k = name
    · simp [Entries.get?, h, hf]
    · simpa [Entries.get?, h] using ih (n + 1)

/-- The parts that were found in a section are those of the tree. -/
def PartsOf (t : Tree) (names : List String) (parts : List (String × Part)) : Prop :=
  ∀ name, (Entries.get? parts name).map Part.tree = t.part? names name

theorem readSection_eq_ok {m : Manner} {wanted : String} {names : List String} {p : Part}
    {parts : List (String × Part)} (h : readSection m wanted names p = .ok parts) :
    PartsOf p.tree names parts := by
  obtain ⟨pos, t⟩ := p
  intro name
  cases t with
  | scalar origin s => cases h
  | list origin items =>
    simp only [readSection] at h
    split at h
    · cases h
      exact (get?_map_zipIdx (fun _ u n => (⟨pos ++ [.index n], u⟩ : Part)) Part.tree id
        (fun _ _ _ => rfl) (names.zip items) 0 name).trans Option.map_id'
    · cases h
  | table origin entries =>
    cases h
    have h := get?_map_key (fun k u => (⟨pos ++ [.field k], u⟩ : Part)) entries name
    exact (congrArg (Option.map Part.tree) h).trans ((Option.map_map _ _ _).trans Option.map_id')

section Parts

variable {t : Tree} {names : List String} {parts : List (String × Part)}
  (hparts : PartsOf t names parts) {name : String}
include hparts

/-- A part of a section has its usual value, or there is a tree that it is read off. -/
theorem readPart_eq_ok {α : Type} {read : Part → Except Misfit α} {usual x : α}
    (h : readPart read usual parts name = .ok x) :
    (t.part? names name = none ∧ x = usual) ∨
      ∃ p : Part, t.part? names name = some p.tree ∧ read p = .ok x := by
  rw [← hparts]
  unfold readPart at h
  cases hp : Entries.get? parts name with
  | none =>
    rw [hp] at h
    exact Or.inl ⟨rfl, (Except.ok.inj h).symm⟩
  | some p =>
    rw [hp] at h
    exact Or.inr ⟨p, rfl, h⟩

/-- A part that is read off scalars only is read off the scalar in its place, if there is one. -/
theorem readPart_reads {α : Type} {read : Part → Except Misfit α} {of : Scalar → Except String α}
    (hread : ∀ {p x}, read p = .ok x → ∃ origin s, p.tree = .scalar origin s ∧ of s = .ok x)
    {usual x : α} (h : readPart read usual parts name = .ok x) :
    Reads of usual x (t.at? [(names, name)]) := by
  rw [Tree.at?_cons]
  rcases readPart_eq_ok hparts h with ⟨hnone, hx⟩ | ⟨p, hp, hx⟩
  · rw [hnone]
    exact hx
  · obtain ⟨origin, s, hs, hof⟩ := hread hx
    rw [hp, hs]
    exact hof

end Parts

/-- Texts are read off scalars only, wherever these come from. -/
theorem readText_eq_ok {p : Part} {x : String} (h : readText .lenient p = .ok x) :
    ∃ origin s, p.tree = .scalar origin s ∧ scalarText s = .ok x := by
  have h := Except.mapError_eq_ok.1 h
  obtain ⟨pos, t⟩ := p
  cases t with
  | scalar origin s => cases s <;> exact ⟨origin, _, rfl, h⟩
  | list origin items => cases h
  | table origin entries => cases h

/-- Truth values are read off scalars only, wherever these come from. -/
theorem readFlag_eq_ok {p : Part} {x : Bool} (h : readFlag .lenient p = .ok x) :
    ∃ origin s, p.tree = .scalar origin s ∧ scalarFlag s = .ok x := by
  have h := Except.mapError_eq_ok.1 h
  obtain ⟨pos, t⟩ := p
  cases t with
  | scalar origin s => cases s <;> exact ⟨origin, _, rfl, h⟩
  | list origin items => cases h
  | table origin entries => cases h

/-- Every entry of a table of texts is read off its scalar, and there are no others. -/
theorem mapM_readText_reads {pos : Path} {entries : List (String × Tree)}
    {pairs : List (String × String)}
    (h : (entries.mapM fun (k, t) => do
      let s ← readText .lenient ⟨pos ++ [Segment.field k], t⟩
      return (k, s)) = .ok pairs) :
    Entries.keys pairs = Entries.keys entries ∧
      ∀ k, Reads (fun s => (scalarText s).map some) none (Entries.get? pairs k)
        ((Entries.get? entries k).bind (·.at? [])) := by
  induction entries generalizing pairs with
  | nil =>
    cases h
    exact ⟨rfl, fun _ => rfl⟩
  | cons e entries ih =>
    obtain ⟨key, t⟩ := e
    rw [List.mapM_cons] at h
    obtain ⟨pair, hpair, h⟩ := Except.bind_eq_ok.1 h
    obtain ⟨rest, hrest, h⟩ := Except.bind_eq_ok.1 h
    obtain ⟨x, hx, hpair⟩ := Except.bind_eq_ok.1 hpair
    cases hpair
    cases h
    obtain ⟨hkeys, hreads⟩ := ih hrest
    refine ⟨congrArg (key :: ·) hkeys, fun k => ?_⟩
    rw [Entries.get?, Entries.get?]
    split
    · obtain ⟨origin, s, hs, htext⟩ := readText_eq_ok hx
      obtain rfl : t = .scalar origin s := hs
      exact Except.map_eq_ok.2 ⟨x, htext, rfl⟩
    · exact hreads k

theorem readTexts_reads {p : Part} {r : Record String} (h : readTexts .lenient p = .ok r)
    (hkeys : p.tree.KeysDistinct) (k : String) :
    Reads (fun s => (scalarText s).map some) none (r.get? k) (p.tree.at? [([], k)]) := by
  obtain ⟨pos, t⟩ := p
  cases t with
  | scalar origin s => cases h
  | list origin items => cases h
  | table origin entries =>
    obtain ⟨pairs, hpairs, h⟩ := Except.bind_eq_ok.1 h
    cases h
    cases hkeys with
    | table nodup parts =>
      obtain ⟨hkeys, hreads⟩ := mapM_readText_reads hpairs
      have hentries : (Record.ofList pairs).entries = pairs := by
        rw [Record.entries_ofList, Entries.ofList_of_nodup (hkeys ▸ nodup)]
      rw [Record.get?, hentries]
      exact hreads k

/-! ### Reading all settings -/

section Sections

variable {t : Tree} {names : List String} {parts : List (String × Part)}
  (hparts : PartsOf t names parts) {name : String}
include hparts

theorem proxy_reads {c : ProxySettings}
    (h : readPart (ProxySettings.read .lenient) {} parts name = .ok c) :
    let usual : ProxySettings := {}
    let place (part : String) : Place := [(names, name), (proxyParts, part)]
    Reads scalarText usual.managerId c.managerId (t.at? (place "manager_id")) ∧
    Reads scalarText usual.actorName c.actorName (t.at? (place "actor_name")) ∧
    Reads scalarText usual.entryPoint c.entryPoint (t.at? (place "entry_point")) := by
  simp only [Tree.at?_cons t]
  -- A section that is not there leaves all its parts as usual; one that is has parts of its own.
  rcases readPart_eq_ok hparts h with ⟨hnone, rfl⟩ | ⟨p, hp, h⟩
  · rw [hnone]
    exact ⟨rfl, rfl, rfl⟩
  · rw [hp]
    obtain ⟨parts', hparts', h⟩ := Except.bind_eq_ok.1 h
    have hparts' := readSection_eq_ok hparts'
    obtain ⟨managerId, hmanagerId, h⟩ := Except.bind_eq_ok.1 h
    obtain ⟨actorName, hactorName, h⟩ := Except.bind_eq_ok.1 h
    obtain ⟨entryPoint, hentryPoint, h⟩ := Except.bind_eq_ok.1 h
    cases h
    exact ⟨readPart_reads hparts' readText_eq_ok hmanagerId,
      readPart_reads hparts' readText_eq_ok hactorName,
      readPart_reads hparts' readText_eq_ok hentryPoint⟩

/-- The levels for parts of the program are the entries of a table of texts, if there is one. -/
theorem modules_reads (hkeys : t.KeysDistinct) {r : Record String}
    (h : readPart (readTexts .lenient) .empty parts name = .ok r) (part : String) :
    Reads (fun s => (scalarText s).map some) none (r.get? part)
      (t.at? [(names, name), ([], part)]) := by
  rw [Tree.at?_cons]
  rcases readPart_eq_ok hparts h with ⟨hnone, rfl⟩ | ⟨p, hp, hr⟩
  · rw [hnone]
    rfl
  · rw [hp]
    exact readTexts_reads hr (hkeys.part? hp) part

theorem logging_reads (hkeys : t.KeysDistinct) {c : LogSettings}
    (h : readPart (LogSettings.read .lenient) {} parts name = .ok c) :
    let usual : LogSettings := {}
    let place (part : String) : Place := [(names, name), (loggingParts, part)]
    Reads scalarText usual.level c.level (t.at? (place "level")) ∧
    Reads scalarText usual.format c.format (t.at? (place "format")) ∧
    Reads scalarText usual.output c.output (t.at? (place "output")) ∧
    Reads scalarText usual.file c.file (t.at? (place "file")) ∧
    Reads scalarFlag usual.color c.color (t.at? (place "color")) ∧
    ∀ part, Reads (fun s => (scalarText s).map some) none (c.modules.get? part)
      (t.at? (place "modules" ++ [([], part)])) := by
  simp only [Tree.at?_cons t, List.cons_append, List.nil_append]
  rcases readPart_eq_ok hparts h with ⟨hnone, rfl⟩ | ⟨p, hp, h⟩
  · rw [hnone]
    exact ⟨rfl, rfl, rfl, rfl, rfl, fun _ => rfl⟩
  · rw [hp]
    obtain ⟨parts', hparts', h⟩ := Except.bind_eq_ok.1 h
    have hparts' := readSection_eq_ok hparts'
    obtain ⟨level, hlevel, h⟩ := Except.bind_eq_ok.1 h
    obtain ⟨format, hformat, h⟩ := Except.bind_eq_ok.1 h
    obtain ⟨output, houtput, h⟩ := Except.bind_eq_ok.1 h
    obtain ⟨file, hfile, h⟩ := Except.bind_eq_ok.1 h
    obtain ⟨color, hcolor, h⟩ := Except.bind_eq_ok.1 h
    obtain ⟨modules, hmodules, h⟩ := Except.bind_eq_ok.1 h
    cases h
    exact ⟨readPart_reads hparts' readText_eq_ok hlevel,
      readPart_reads hparts' readText_eq_ok hformat,
      readPart_reads hparts' readText_eq_ok houtput,
      readPart_reads hparts' readText_eq_ok hfile,
      readPart_reads hparts' readFlag_eq_ok hcolor,
      modules_reads hparts' (hkeys.part? hp) hmodules⟩

end Sections

/-- What is read off a tree holds in every leaf what the scalar in its place means. -/
theorem holds_of_read {t : Tree} {c : Settings} (h : Settings.read .lenient t = .ok c)
    (hkeys : t.KeysDistinct) (leaf : Leaf) : leaf.Holds c (t.at? leaf.place) := by
  obtain ⟨parts, hparts, h⟩ := Except.bind_eq_ok.1 h
  obtain ⟨proxy, hproxy, h⟩ := Except.bind_eq_ok.1 h
  obtain ⟨logging, hlogging, h⟩ := Except.bind_eq_ok.1 h
  cases h
  -- All leaves are read at once; each then holds what its own scalar means.
  have hparts := readSection_eq_ok hparts
  obtain ⟨hmanagerId, hactorName, hentryPoint⟩ := proxy_reads hparts hproxy
  obtain ⟨hlevel, hformat, houtput, hfile, hcolor, hmodules⟩ := logging_reads hparts hkeys hlogging
  cases leaf with
  | managerId => exact hmanagerId.holds (fun _ => rfl) rfl rfl
  | actorName => exact hactorName.holds (fun _ => rfl) rfl rfl
  | entryPoint => exact hentryPoint.holds (fun _ => rfl) rfl rfl
  | level => exact hlevel.holds (fun _ => rfl) rfl rfl
  | format => exact hformat.holds (fun _ => rfl) rfl rfl
  | output => exact houtput.holds (fun _ => rfl) rfl rfl
  | file => exact hfile.holds (fun _ => rfl) rfl rfl
  | color => exact hcolor.holds (fun _ => rfl) rfl rfl
  | levelOf part => exact Reads.holds_levelOf (hmodules part)

end Settings

end Parley
