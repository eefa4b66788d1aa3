import Parley.Proofs.Entries
import Parley.Settings.Layer

/-!
# Merging settings

Layers are merged place by place. A layer has a verdict about a path of names (`Layer.verdict`) if
one of its entries gives a scalar under the path, or puts something that is no table in a place on
the way there, so that nothing is left under the path. The highest layer with a verdict decides what
stands under the path, and all other layers might as well not be there (`Layer.scalar?_stack`).

One merging step is `Tree.scalar?_onto` for a tree and `Tree.scalar?_assign` for one with a route.
-/

namespace Parley.Settings

/-! ### What stands under a path -/

namespace Tree

/-- The entry of a table under a name, which is written as in the table. -/
def child? : Tree → String → Option Tree
  | table _ entries, name => Entries.get? entries name
  | _, _ => none

theorem get?_eq_child? (t : Tree) (name : String) : t.get? name = t.child? (Text.lower name) := by
  cases t <;> rfl

/-- The scalar that names lead to, from table to table. -/
def scalar? : Tree → List String → Option Scalar
  | scalar _ s, [] => some s
  | _, [] => none
  | t, name :: path => (t.child? name).bind (·.scalar? path)

/-- The names lead into a list, whose items have no names. -/
def meetsList : Tree → List String → Bool
  | _, [] => false
  | list _ _, _ :: _ => true
  | t, name :: path => (t.child? name).any (·.meetsList path)

@[simp] theorem scalar?_empty (path : List String) : empty.scalar? path = none := by
  cases path <;> rfl

theorem scalar?_cons (t : Tree) (name : String) (path : List String) :
    t.scalar? (name :: path) = (t.child? name).bind (·.scalar? path) := by
  cases t <;> rfl

theorem meetsList_cons {t u : Tree} {name : String} (hu : t.child? name = some u)
    (path : List String) : t.meetsList (name :: path) = u.meetsList path := by
  cases t with
  | scalar origin s => cases hu
  | list origin items => cases hu
  | table origin entries =>
    show ((table origin entries).child? name).any (·.meetsList path) = _
    rw [hu, Option.any_some]

/-- Setting a name changes no other entry. The name counts in lower case. -/
theorem child?_put (t : Tree) (name : String) (u : Tree) (key : String) :
    (t.put name u).child? key = if Text.lower name = key then some u else t.child? key := by
  split
  · rename_i h
    subst h
    rw [← get?_eq_child?, get?_put_self t rfl]
  · rename_i h
    cases t with
    | table origin entries => exact Entries.get?_insert_of_ne _ (Ne.symm h) u
    | scalar origin s => exact if_neg h
    | list origin items => exact if_neg h

/-! ### Verdicts -/

/-- The verdict where something is put under a name: there is no scalar in the place of the table
that the name stands in, and below the name there is a verdict of its own. -/
def under (name : String) (inner : List String → Option (Option Scalar)) :
    List String → Option (Option Scalar)
  | [] => some none
  | key :: path => if Text.lower name = key then inner path else none

/-- Setting a name decides what its new entry decides, if the entry leaves the rest as it was. -/
theorem scalar?_put (t : Tree) (name : String) (u : Tree)
    {inner : List String → Option (Option Scalar)}
    (hu : ∀ path, u.scalar? path = (inner path).getD ((t.get? name).bind (·.scalar? path)))
    (path : List String) :
    (t.put name u).scalar? path = (under name inner path).getD (t.scalar? path) := by
  cases path with
  | nil => cases t <;> rfl
  | cons key path =>
    rw [scalar?_cons, scalar?_cons, child?_put, under]
    split
    · rename_i h
      subst h
      rw [← get?_eq_child?]
      exact hu path
    · rfl

mutual

/-- What merging a tree decides about the scalar under a path: nothing (`none`), or that there is
none (`some none`), or which one it is. Of a table's entries, the last with a verdict counts. -/
def verdict : Tree → List String → Option (Option Scalar)
  | scalar _ s, path => some (if path = [] then some s else none)
  | list _ _, _ => some none
  | table _ entries, path => entriesVerdict entries path

def entriesVerdict : List (String × Tree) → List String → Option (Option Scalar)
  | [], _ => none
  | (name, u) :: es, path => (entriesVerdict es path).or (under name u.verdict path)

end

mutual

/-- Where a tree has no verdict, merging it into a place leaves what was there. -/
theorem scalar?_onto (u : Tree) (before : Option Tree) (path : List String) :
    (onto before u).scalar? path = (u.verdict path).getD (before.bind (·.scalar? path)) := by
  cases u with
  | scalar origin s => cases path <;> rfl
  | list origin items => cases path <;> rfl
  | table origin entries =>
    rw [onto, verdict, scalar?_addAll]
    cases before <;> simp

theorem scalar?_addAll (es : List (String × Tree)) (t : Tree) (path : List String) :
    (addAll t es).scalar? path = (entriesVerdict es path).getD (t.scalar? path) := by
  match es with
  | [] => rfl
  | (name, u) :: es =>
    rw [addAll, scalar?_addAll es, entriesVerdict, Option.getD_or,
      scalar?_put t name _ (scalar?_onto u (t.get? name))]

end

end Tree

/-- What merging a tree along a route decides about the scalar under a path. Names do not lead to
positions in a list. -/
def Route.verdict (u : Tree) : Route → List String → Option (Option Scalar)
  | [], path => some (u.scalar? path)
  | .item _ :: _, _ => some none
  | [.name name], path => Tree.under name u.verdict path
  | .name name :: route, path => Tree.under name (Route.verdict u route) path

/-- Whatever is merged further in, there is no scalar where a route goes on. -/
theorem Route.verdict_nil {u : Tree} {route : Route} (h : route ≠ []) :
    Route.verdict u route [] = some none := by
  match route with
  | .item _ :: _ => rfl
  | [.name _] => rfl
  | .name _ :: _ :: _ => rfl

/-- Where a tree with a route has no verdict, merging it leaves what was there. -/
theorem Tree.scalar?_assign (u : Tree) (route : Route) (t : Tree) (path : List String) :
    (Tree.assign u route t).scalar? path = (Route.verdict u route path).getD (t.scalar? path) := by
  match route with
  | [] => rfl
  | .item position :: route => cases path <;> rfl
  | [.name name] => exact scalar?_put t name _ (scalar?_onto u (t.get? name)) path
  | .name name :: step :: route =>
    -- A node that is made on the way has no scalar, just as if nothing were there.
    refine scalar?_put t name _ (fun path => ?_) path
    rw [scalar?_assign u (step :: route)]
    cases path with
    | nil => rw [Route.verdict_nil (List.cons_ne_nil _ _)]; rfl
    | cons key path => cases t.get? name <;> rfl

/-! ### Layers -/

/-- Of steps that are taken one after the other, the last with a verdict decides, if those without
leave the value as it was. -/
theorem foldl_eq_findSome? {σ α β : Type} {step : σ → α → σ} (value : σ → β)
    {verdict : α → Option β}
    (hstep : ∀ s a, value (step s a) = (verdict a).getD (value s)) (as : List α) (s : σ) :
    value (as.foldl step s) = (as.reverse.findSome? verdict).getD (value s) := by
  induction as generalizing s with
  | nil => rfl
  | cons a as ih =>
    rw [List.foldl_cons, ih, hstep, List.reverse_cons, List.findSome?_append, Option.getD_or,
      List.findSome?_singleton]

namespace Layer

/-- What laying a layer on top of others decides about the scalar under a path. The last entry with
a verdict counts. -/
def verdict (l : Layer) (path : List String) : Option (Option Scalar) :=
  l.reverse.findSome? fun e => Route.verdict e.2 (Route.ofKey e.1) path

/-- Where a layer has no verdict, laying it on top leaves what was there. -/
theorem scalar?_addTo (l : Layer) (t : Tree) (path : List String) :
    (addTo t l).scalar? path = (l.verdict path).getD (t.scalar? path) :=
  foldl_eq_findSome? (·.scalar? path)
    (fun t e => Tree.scalar?_assign e.2 (Route.ofKey e.1) t path) l t

/-- Of all layers, the highest with a verdict about a path decides what stands there. -/
theorem scalar?_stack (ls : List Layer) (path : List String) :
    (stack ls).scalar? path = (ls.reverse.findSome? (·.verdict path)).join := by
  rw [stack, foldl_eq_findSome? (·.scalar? path) (fun t l => scalar?_addTo l t path),
    Tree.scalar?_empty]
  cases ls.reverse.findSome? (·.verdict path) <;> rfl

end Layer

/-! ### Distinct keys -/

namespace Tree

/-- No key stands twice in a table. -/
inductive KeysDistinct : Tree → Prop where
  | scalar (origin : Option String) (s : Scalar) : KeysDistinct (.scalar origin s)
  | list {origin : Option String} {items : List Tree} (parts : ∀ t ∈ items, KeysDistinct t) :
      KeysDistinct (.list origin items)
  | table {origin : Option String} {entries : List (String × Tree)}
      (nodup : (Entries.keys entries).Nodup) (parts : ∀ e ∈ entries, KeysDistinct e.2) :
      KeysDistinct (.table origin entries)

theorem keysDistinct_empty : KeysDistinct empty :=
  .table List.nodup_nil fun _ h => absurd h List.not_mem_nil

theorem keysDistinct_nil : KeysDistinct nil := .scalar none .nil

mutual

/-- A document's tree has no key twice, even if the document has. -/
theorem keysDistinct_ofJson (source : Option String) (j : Json) :
    (ofJson source j).KeysDistinct := by
  match j with
  | .null | .bool _ | .int _ | .double _ | .string _ => exact .scalar _ _
  | .array items => exact .list (keysDistinct_ofItems source items)
  | .object entries =>
    exact .table (Entries.remembers_ofList _).distinct fun e he =>
      keysDistinct_ofEntries source entries e (Entries.mem_of_mem_ofList he)

theorem keysDistinct_ofItems (source : Option String) (js : List Json) :
    ∀ t ∈ ofItems source js, t.KeysDistinct := by
  match js with
  | [] => exact fun _ h => absurd h List.not_mem_nil
  | j :: js =>
    exact List.forall_mem_cons.2 ⟨keysDistinct_ofJson source j, keysDistinct_ofItems source js⟩

theorem keysDistinct_ofEntries (source : Option String) (es : List (String × Json)) :
    ∀ e ∈ ofEntries source es, e.2.KeysDistinct := by
  match es with
  | [] => exact fun _ h => absurd h List.not_mem_nil
  | (_, j) :: es =>
    exact List.forall_mem_cons.2 ⟨keysDistinct_ofJson source j, keysDistinct_ofEntries source es⟩

end

theorem KeysDistinct.get? {t u : Tree} (ht : t.KeysDistinct) {name : String}
    (hu : t.get? name = some u) : u.KeysDistinct := by
  cases ht with
  | scalar origin s => cases hu
  | list parts => cases hu
  | table nodup parts => exact parts _ (Entries.mem_of_get? hu)

theorem KeysDistinct.items {t : Tree} (ht : t.KeysDistinct) : ∀ u ∈ t.items, u.KeysDistinct := by
  cases ht with
  | scalar origin s => exact fun _ h => absurd h List.not_mem_nil
  | list parts => exact parts
  | table nodup parts => exact fun _ h => absurd h List.not_mem_nil

theorem KeysDistinct.put {t u : Tree} (ht : t.KeysDistinct) (hu : u.KeysDistinct) (name : String) :
    (t.put name u).KeysDistinct := by
  have hone : KeysDistinct (.table none [(Text.lower name, u)]) :=
    .table (by simp [Entries.keys]) fun e he => by rwa [List.mem_singleton.1 he]
  cases ht with
  | scalar origin s => exact hone
  | list parts => exact hone
  | table nodup parts =>
    refine .table (Entries.keys_insert_nodup nodup _ _) fun e he => ?_
    rcases Entries.mem_of_mem_insert he with rfl | he
    · exact hu
    · exact parts e he

theorem KeysDistinct.putItem {t u : Tree} (ht : t.KeysDistinct) (hu : u.KeysDistinct)
    (position : Int) : (t.putItem position u).KeysDistinct := by
  refine .list fun x hx => ?_
  rcases List.mem_or_eq_of_mem_set hx with hx | rfl
  · rcases List.mem_append.1 hx with hx | hx
    · exact ht.items x hx
    · rw [List.eq_of_mem_replicate hx]
      exact keysDistinct_nil
  · exact hu

mutual

theorem KeysDistinct.onto {u : Tree} (hu : u.KeysDistinct) {before : Option Tree}
    (h : ∀ t ∈ before, t.KeysDistinct) : (onto before u).KeysDistinct := by
  match u, hu with
  | .scalar origin s, hu => exact hu
  | .list origin items, hu => exact hu
  | .table origin entries, .table nodup parts =>
    apply keysDistinct_addAll parts
    cases before with
    | none => exact keysDistinct_empty
    | some t => exact h t rfl

theorem keysDistinct_addAll {es : List (String × Tree)} (hes : ∀ e ∈ es, e.2.KeysDistinct)
    {t : Tree} (h : t.KeysDistinct) : (addAll t es).KeysDistinct := by
  match es with
  | [] => exact h
  | (name, u) :: es =>
    obtain ⟨hu, hes⟩ := List.forall_mem_cons.1 hes
    exact keysDistinct_addAll hes (h.put (hu.onto fun _ hb => h.get? hb) name)

end

/-- Where nothing stands, nothing stands twice. -/
theorem keysDistinct_getD_nil {o : Option Tree} (h : ∀ t ∈ o, t.KeysDistinct) :
    (o.getD nil).KeysDistinct := by
  cases o with
  | none => exact keysDistinct_nil
  | some t => exact h t rfl

theorem KeysDistinct.assign {u : Tree} (hu : u.KeysDistinct) (route : Route) {t : Tree}
    (ht : t.KeysDistinct) : (Tree.assign u route t).KeysDistinct := by
  match route with
  | [] => exact hu
  | .item position :: route =>
    refine ht.putItem (hu.assign route (keysDistinct_getD_nil fun _ hb => ?_)) position
    exact ht.items _ (List.mem_of_getElem? hb)
  | [.name name] => exact ht.put (hu.onto fun _ hb => ht.get? hb) name
  | .name name :: step :: route =>
    exact ht.put (hu.assign (step :: route) (keysDistinct_getD_nil fun _ hb => ht.get? hb)) name

end Tree

theorem Layer.keysDistinct_addTo {l : Layer} (hl : ∀ e ∈ l, e.2.KeysDistinct) {t : Tree}
    (h : t.KeysDistinct) : (addTo t l).KeysDistinct :=
  List.foldlRecOn l _ h fun _ ht e he => (hl e he).assign (Route.ofKey e.1) ht

/-- No key stands twice in what layers amount to, if none does in what the layers say. -/
theorem Layer.keysDistinct_stack {ls : List Layer} (hls : ∀ l ∈ ls, ∀ e ∈ l, e.2.KeysDistinct) :
    (stack ls).KeysDistinct :=
  List.foldlRecOn ls _ Tree.keysDistinct_empty fun _ ht l hl => keysDistinct_addTo (hls l hl) ht

end Parley.Settings
