import Mathlib.Data.List.Perm.Basic
import Parley.Proofs.Entries
import Parley.Proofs.Json
import Parley.Proofs.Shape.WellFormed
import Parley.Proofs.Value.Induction

/-!
# What a rendering keeps

A rendering drops undefined properties and the order in which properties were set; besides, undefined
items and numbers that are not finite become null, and binary objects are summed up. Where nothing of
the latter occurs (`Value.Shown`), two values have the same rendering if and only if they differ in
undefined properties and in the order of properties at most (`Value.Alike`, `toJson_eq_iff`).

The entries of an object are rendered one by one and then sorted (`perm_entriesToJson`), and a list can
be sorted in one way only.
-/

namespace Parley.Value

/-! ### Values that are shown as they are -/

mutual

/-- The rendering shows everything: undefined values are properties, no binary object occurs, and all
doubles are finite. -/
def Shown : Value → Prop
  | undefined => False
  | double d => d.isFinite = true
  | blob _ => False
  | array items => ShownItems items
  | object entries => ShownEntries entries
  | _ => True

def ShownItems : List Value → Prop
  | [] => True
  | v :: vs => Shown v ∧ ShownItems vs

def ShownEntries : List (String × Value) → Prop
  | [] => True
  | (_, v) :: es => (v.isUndefined = false → Shown v) ∧ ShownEntries es

end

/-- The properties that are not undefined. -/
def defined (es : List (String × Value)) : List (String × Value) :=
  es.filter fun e => !e.2.isUndefined

/-- The values are the same, but for the order of properties and for undefined properties, at any
depth. -/
inductive Alike : Value → Value → Prop
  | refl (v : Value) : Alike v v
  | array {xs ys : List Value} : List.Forall₂ Alike xs ys → Alike (array xs) (array ys)
  /-- The defined properties of one object, put into another order, are those of the other. -/
  | object {es es' ds : List (String × Value)} : (defined es).Perm ds →
    Entries.keys ds = Entries.keys (defined es') →
      List.Forall₂ Alike (ds.map Prod.snd) ((defined es').map Prod.snd) →
        Alike (object es) (object es')

theorem shown_array {items : List Value} : (array items).Shown ↔ ∀ x ∈ items, x.Shown := by
  rw [Shown]
  induction items with
  | nil => simp [ShownItems]
  | cons x items ih => simp [ShownItems, ih]

theorem defined_cons (e : String × Value) (es : List (String × Value)) :
    defined (e :: es) = if e.2.isUndefined then defined es else e :: defined es := by
  rw [defined, List.filter_cons]
  cases e.2.isUndefined <;> rfl

theorem mem_defined {es : List (String × Value)} {e : String × Value} :
    e ∈ defined es ↔ e ∈ es ∧ e.2.isUndefined = false := by
  simp [defined]

theorem shown_object {es : List (String × Value)} :
    (object es).Shown ↔ ∀ e ∈ defined es, e.2.Shown := by
  have hentries : ShownEntries es ↔ ∀ e ∈ es, e.2.isUndefined = false → e.2.Shown := by
    induction es with
    | nil => simp [ShownEntries]
    | cons e es ih => simp [ShownEntries, ih]
  rw [Shown, hentries]
  simp only [mem_defined, and_imp]

/-! ### Items and entries -/

theorem itemsToJson_eq_map (items : List Value) : itemsToJson items = items.map toJson := by
  induction items with
  | nil => rfl
  | cons v items ih => rw [itemsToJson, ih, List.map_cons]

theorem toJson_array (items : List Value) :
    (array items).toJson = .array (items.map toJson) := by
  rw [toJson, itemsToJson_eq_map]

variable {es : List (String × Value)}

/-- Entries are rendered in the order of their keys, each key once. -/
theorem ascending_entriesToJson (es : List (String × Value)) :
    Json.Ascending (entriesToJson es) := by
  induction es with
  | nil => exact List.Pairwise.nil
  | cons e es ih =>
    rw [entriesToJson]
    split
    · exact ih
    · exact Json.ascending_insertSorted ih _

/-- The keys that are rendered are those of the defined properties. -/
theorem mem_keys_entriesToJson {key : String} :
    key ∈ Entries.keys (entriesToJson es) ↔ key ∈ Entries.keys (defined es) := by
  induction es with
  | nil => rfl
  | cons e es ih =>
    rw [entriesToJson, defined_cons]
    split
    · exact ih
    · rw [Json.mem_keys_insertSorted, ih]
      exact List.mem_cons.symm

/-- Every entry that is rendered is that of a defined property. -/
theorem exists_of_mem_entriesToJson {key : String} {j : Json} (h : (key, j) ∈ entriesToJson es) :
    ∃ x, (key, x) ∈ defined es ∧ j = x.toJson := by
  induction es with
  | nil => cases h
  | cons e es ih =>
    obtain ⟨k, v⟩ := e
    have hrest : (key, j) ∈ entriesToJson es → ∃ x, (key, x) ∈ defined ((k, v) :: es) ∧
        j = x.toJson := by
      intro h
      obtain ⟨x, hx, hj⟩ := ih h
      rw [mem_defined] at hx
      exact ⟨x, mem_defined.2 ⟨List.mem_cons_of_mem _ hx.1, hx.2⟩, hj⟩
    rw [entriesToJson] at h
    split at h
    · exact hrest h
    · rename_i hv
      rcases Json.mem_of_mem_insertSorted h with heq | h
      · cases heq
        exact ⟨v, mem_defined.2 ⟨List.mem_cons_self, Bool.eq_false_iff.2 hv⟩, rfl⟩
      · exact hrest h

theorem keys_defined_sublist (es : List (String × Value)) :
    (Entries.keys (defined es)).Sublist (Entries.keys es) :=
  List.filter_sublist.map Prod.fst

/-- Where no key stands twice, every defined property is rendered once. -/
theorem perm_entriesToJson (h : (Entries.keys es).Nodup) :
    (entriesToJson es).Perm ((defined es).map (Prod.map id toJson)) := by
  induction es with
  | nil => exact List.Perm.refl _
  | cons e es ih =>
    obtain ⟨hkey, hes⟩ := List.nodup_cons.1 h
    rw [entriesToJson, defined_cons]
    split
    · exact ih hes
    · have hnot : e.1 ∉ Entries.keys (entriesToJson es) := fun hmem =>
        hkey ((keys_defined_sublist es).subset (mem_keys_entriesToJson.1 hmem))
      exact (Json.perm_insertSorted hnot _).trans ((ih hes).cons _)

/-! ### The same rendering -/

/-- Lists that are the same in any order after a map are so before, with what the map takes for the
same in the same places. -/
theorem exists_perm_of_map_perm {α β : Type} {f : α → β} {as bs : List α}
    (h : (as.map f).Perm (bs.map f)) : ∃ cs, as.Perm cs ∧ cs.map f = bs.map f := by
  have hcomp := congrFun (congrFun (List.eq_map_comp_perm f) (bs.map f)) as
  obtain ⟨cs, hcs, hperm⟩ := hcomp.mpr h.symm
  exact ⟨cs, hperm.symm, hcs.symm⟩

/-- What a value that is shown was, as far as its rendering tells. -/
inductive ShownAs : Value → Json → Prop
  | null : ShownAs null .null
  | bool (b : Bool) : ShownAs (bool b) (.bool b)
  | int (n : Int32) {m : Int} : n.toInt = m → ShownAs (int n) (.int m)
  | double (d : Double) : ShownAs (double d) (.double d)
  | string (s : String) : ShownAs (string s) (.string s)
  | array {items : List Value} {js : List Json} :
    items.map toJson = js → ShownAs (array items) (.array js)
  | object {es : List (String × Value)} {js : List (String × Json)} :
    entriesToJson es = js → ShownAs (object es) (.object js)

theorem toJson_double {d : Double} (h : d.isFinite = true) : (double d).toJson = .double d := by
  rw [toJson, if_pos h]

theorem Shown.shownAs {v : Value} (h : v.Shown) : v.ShownAs v.toJson := by
  cases v with
  | undefined => cases h
  | null => exact .null
  | bool b => exact .bool b
  | int n => exact .int n rfl
  | double d =>
    rw [toJson_double h]
    exact .double d
  | string s => exact .string s
  | array items =>
    rw [toJson_array]
    exact .array rfl
  | object es => exact .object rfl
  | blob b => cases h

/-- Items are rendered one by one. -/
theorem map_toJson_eq_iff {R : Value → Value → Prop} {xs ys : List Value}
    (hR : ∀ x ∈ xs, ∀ y ∈ ys, (x.toJson = y.toJson ↔ R x y)) :
    xs.map toJson = ys.map toJson ↔ List.Forall₂ R xs ys := by
  induction xs generalizing ys with
  | nil => simp [eq_comm]
  | cons x xs ih =>
    cases ys with
    | nil => simp
    | cons y ys =>
      have hrest := ih fun x' hx' y' hy' =>
        hR x' (List.mem_cons_of_mem _ hx') y' (List.mem_cons_of_mem _ hy')
      rw [List.map_cons, List.map_cons, List.cons_eq_cons, List.forall₂_cons, hrest,
        hR x List.mem_cons_self y List.mem_cons_self]

/-- Entries are the same after a map if their keys are, and what the map makes of their values. -/
theorem map_entries_eq_iff {f : Value → Json} {ds ds' : List (String × Value)} :
    ds.map (Prod.map id f) = ds'.map (Prod.map id f) ↔
      Entries.keys ds = Entries.keys ds' ∧
        (ds.map Prod.snd).map f = (ds'.map Prod.snd).map f := by
  induction ds generalizing ds' with
  | nil => cases ds' <;> simp [Entries.keys]
  | cons d ds ih =>
    cases ds' with
    | nil => simp [Entries.keys]
    | cons d' ds' =>
      simp only [List.map_cons, List.cons_eq_cons, Entries.keys, ih, Prod.ext_iff, Prod.map_fst,
        Prod.map_snd, id_eq]
      exact and_and_and_comm

variable {es' : List (String × Value)}

/-- Objects have the same rendering if the defined properties of one, in some order, are rendered like
those of the other. -/
theorem entriesToJson_eq_iff (h : (Entries.keys es).Nodup) (h' : (Entries.keys es').Nodup) :
    entriesToJson es = entriesToJson es' ↔
      ∃ ds, (defined es).Perm ds ∧ Entries.keys ds = Entries.keys (defined es') ∧
        (ds.map Prod.snd).map toJson = ((defined es').map Prod.snd).map toJson := by
  constructor
  · intro heq
    have hperm := heq ▸ perm_entriesToJson h
    obtain ⟨ds, hds, hmap⟩ := exists_perm_of_map_perm (hperm.symm.trans (perm_entriesToJson h'))
    exact ⟨ds, hds, map_entries_eq_iff.1 hmap⟩
  · rintro ⟨ds, hds, hmap⟩
    apply Json.eq_of_ascending (ascending_entriesToJson es) (ascending_entriesToJson es')
    have hperm := (perm_entriesToJson h).trans (hds.map (Prod.map id toJson))
    rw [map_entries_eq_iff.2 hmap] at hperm
    exact hperm.trans (perm_entriesToJson h').symm

theorem toJson_array_eq_iff {xs ys : List Value}
    (h : ∀ x ∈ xs, ∀ y ∈ ys, (x.toJson = y.toJson ↔ x.Alike y)) :
    (array xs).toJson = (array ys).toJson ↔ (array xs).Alike (array ys) := by
  rw [toJson_array, toJson_array, Json.array.injEq, map_toJson_eq_iff h]
  constructor
  · exact Alike.array
  · intro hlike
    cases hlike with
    | refl => exact List.forall₂_same.2 fun x _ => .refl x
    | array h => exact h

theorem toJson_object_eq_iff (hes : (Entries.keys es).Nodup) (hes' : (Entries.keys es').Nodup)
    (h : ∀ x ∈ (defined es).map Prod.snd, ∀ y ∈ (defined es').map Prod.snd,
      (x.toJson = y.toJson ↔ x.Alike y)) :
    (object es).toJson = (object es').toJson ↔ (object es).Alike (object es') := by
  have hvalues {ds : List (String × Value)} (hds : (defined es).Perm ds) :
      (ds.map Prod.snd).map toJson = ((defined es').map Prod.snd).map toJson ↔
        List.Forall₂ Alike (ds.map Prod.snd) ((defined es').map Prod.snd) :=
    map_toJson_eq_iff fun x hx => h x ((hds.map Prod.snd).mem_iff.2 hx)
  rw [toJson, toJson, Json.object.injEq]
  constructor
  · intro heq
    obtain ⟨ds, hds, hkeys, hjson⟩ := (entriesToJson_eq_iff hes hes').1 heq
    exact .object hds hkeys ((hvalues hds).1 hjson)
  · intro hlike
    cases hlike with
    | refl => rfl
    | object hds hkeys hlike =>
      exact (entriesToJson_eq_iff hes hes').2 ⟨_, hds, hkeys, (hvalues hds).2 hlike⟩

/-- The value of a property that is rendered. -/
theorem of_mem_defined {v : Value} (hv : (object es).WellFormed) (hs : (object es).Shown)
    (h : v ∈ (defined es).map Prod.snd) : v.WellFormed ∧ v.Shown := by
  obtain ⟨e, he, rfl⟩ := List.mem_map.1 h
  exact ⟨(wellFormed_object.1 hv).2 e (mem_defined.1 he).1, shown_object.1 hs e he⟩

/-- Two values have the same rendering if and only if they are alike. -/
theorem toJson_eq_iff {v w : Value} (hv : v.WellFormed) (hw : w.WellFormed) (hvs : v.Shown)
    (hws : w.Shown) : v.toJson = w.toJson ↔ v.Alike w := by
  have hshown := hws.shownAs
  induction v generalizing w with
  | undefined | blob => cases hvs
  | null | bool | string =>
    constructor
    · intro h
      rw [← h] at hshown
      cases hshown
      exact .refl _
    · rintro ⟨⟩
      rfl
  | int n =>
    constructor
    · intro h
      rw [← h] at hshown
      cases hshown with
      | int m hm =>
        rw [Int32.toInt_inj.1 hm]
        exact .refl _
    · rintro ⟨⟩
      rfl
  | double d =>
    constructor
    · intro h
      rw [← h, toJson_double hvs] at hshown
      cases hshown
      exact .refl _
    · rintro ⟨⟩
      rfl
  | array xs ih =>
    have hiff {ys : List Value} (hw : (array ys).WellFormed) (hws : (array ys).Shown) :
        (array xs).toJson = (array ys).toJson ↔ (array xs).Alike (array ys) := by
      refine toJson_array_eq_iff fun x hx y hy => ?_
      have hys := shown_array.1 hws y hy
      exact ih x hx (wellFormed_array.1 hv x hx) (wellFormed_array.1 hw y hy)
        (shown_array.1 hvs x hx) hys hys.shownAs
    constructor
    · intro h
      have hxs := hshown
      rw [← h, toJson_array] at hxs
      cases hxs
      exact (hiff hw hws).1 h
    · intro h
      cases h with
      | refl => rfl
      | array h => exact (hiff hw hws).2 (.array h)
  | object es ih =>
    have hiff {es' : List (String × Value)} (hw : (object es').WellFormed)
        (hws : (object es').Shown) :
        (object es).toJson = (object es').toJson ↔ (object es).Alike (object es') := by
      refine toJson_object_eq_iff (wellFormed_object.1 hv).1 (wellFormed_object.1 hw).1
        fun x hx y hy => ?_
      obtain ⟨hxw, hxs⟩ := of_mem_defined hv hvs hx
      obtain ⟨hyw, hys⟩ := of_mem_defined hw hws hy
      obtain ⟨e, he, rfl⟩ := List.mem_map.1 hx
      exact ih e (mem_defined.1 he).1 hxw hyw hxs hys hys.shownAs
    constructor
    · intro h
      have hes := hshown
      rw [← h] at hes
      cases hes
      exact (hiff hw hws).1 h
    · intro h
      cases h with
      | refl => rfl
      | object hds hkeys h => exact (hiff hw hws).2 (.object hds hkeys h)

/-! ### Order -/

/-- Every object in a rendering lists its keys in byte order, each of them once. -/
theorem ordered_toJson (v : Value) : v.toJson.Ordered := by
  induction v with
  | array items ih =>
    rw [toJson_array, Json.ordered_array]
    intro j hj
    obtain ⟨x, hx, rfl⟩ := List.mem_map.1 hj
    exact ih x hx
  | object es ih =>
    refine Json.ordered_object.2 ⟨ascending_entriesToJson es, ?_⟩
    rintro ⟨key, j⟩ he
    obtain ⟨x, hx, rfl⟩ := exists_of_mem_entriesToJson he
    exact ih (key, x) (mem_defined.1 hx).1
  | double d =>
    rw [toJson]
    split <;> trivial
  | blob b =>
    have hkeys : Text.before "binary" "byteLength" = true := by decide
    exact Json.ordered_object.2 ⟨List.pairwise_pair.2 hkeys, by simp [Json.Ordered]⟩
  | _ => trivial

/-! ### Main statement -/

/-- Values that are shown as they are have the same rendering if and only if they differ in the order
of properties and in undefined properties at most. In every rendering the keys of an object differ and
are in byte order, and they are those of the defined properties; items that are undefined or no finite
number are null, so that arrays keep their lengths. -/
theorem toJson_faithful :
    (∀ v w : Value, v.WellFormed → w.WellFormed → v.Shown → w.Shown →
      (v.toJson = w.toJson ↔ v.Alike w)) ∧
    (∀ v : Value, v.toJson.Ordered) ∧
    (∀ es : List (String × Value), ∃ js, (object es).toJson = .object js ∧
      (∀ key, key ∈ Entries.keys js ↔ key ∈ Entries.keys (defined es)) ∧
      (∀ key, (Entries.keys es).Nodup → Entries.get? es key = some undefined →
        key ∉ Entries.keys js) ∧
      ∀ key j, (key, j) ∈ js → ∃ x, (key, x) ∈ defined es ∧ j = x.toJson) ∧
    (∀ items : List Value, ∃ js, (array items).toJson = .array js ∧ js.length = items.length ∧
      ∀ (n : Nat) (x : Value), items[n]? = some x → js[n]? = some x.toJson) ∧
    undefined.toJson = .null ∧
    ∀ d : Double, d.isFinite = false → (double d).toJson = .null := by
  refine ⟨fun v w => toJson_eq_iff, ordered_toJson, ?_, ?_, rfl, ?_⟩
  · intro es
    refine ⟨entriesToJson es, rfl, fun _ => mem_keys_entriesToJson, ?_,
      fun _ _ => exists_of_mem_entriesToJson⟩
    intro key hnodup hundefined hkey
    obtain ⟨⟨k, x⟩, hx, rfl⟩ := List.mem_map.1 (mem_keys_entriesToJson.1 hkey)
    obtain ⟨hmem, hdefined⟩ := mem_defined.1 hx
    rw [(Entries.get?_eq_some_iff hnodup).2 hmem] at hundefined
    cases hundefined
    cases hdefined
  · intro items
    refine ⟨items.map toJson, toJson_array items, List.length_map _, ?_⟩
    intro n x hx
    rw [List.getElem?_map, hx]
    rfl
  · intro d hd
    rw [toJson, if_neg (by simp [hd])]

/-- Properties in another order, one of them undefined; and two ways to hold a number. -/
theorem toJson_faithful_reordered :
    (object [("b", undefined), ("c", array [int 1]), ("a", string "x")]).Alike
      (object [("a", string "x"), ("c", array [int 1])]) ∧
    (int 1).toJson ≠ (double (Double.ofInt 1)).toJson := by
  constructor
  · refine (toJson_faithful.1 _ _ ?_ ?_ ?_ ?_).1 rfl
    all_goals simp [WellFormed, WellFormedItems, WellFormedEntries, Entries.keys, Shown, ShownItems,
      ShownEntries, isUndefined]
  · intro h
    have hlike := (toJson_faithful.1 (int 1) (double (Double.ofInt 1)) trivial trivial trivial
      (by decide +kernel : (Double.ofInt 1).isFinite = true)).1 h
    cases hlike

end Parley.Value
