import Parley.Proofs.Entries
import Parley.Proofs.Shape.Induction
import Parley.Proofs.Value.Rendering

/-!
# Replacing binary objects

A function on binary objects replaces them all, at any depth: in a dynamic value
(`Value.mapBlobs`) and in what a shape describes (`Shape.mapBlobs`). Nothing else of either changes,
and a rendering shows no more of a binary object than its kind and its size
(`Value.toJson_mapBlobs`).
-/

namespace Parley

/-- The record with the values of its entries mapped. -/
def Record.map {α β : Type} (f : α → β) (r : Record α) : Record β where
  entries := r.entries.map (Prod.map id f)
  distinct := by
    rw [Entries.keys_map]
    exact r.distinct

namespace Record

variable {α β : Type} (f : α → β)

theorem map_insert (r : Record α) (key : String) (a : α) :
    (r.insert key a).map f = (r.map f).insert key (f a) :=
  eq_of_entries (Entries.insert_map f r.entries key a).symm

end Record

/-! ### Dynamic values -/

namespace Value

mutual

/-- The value with every binary object in it replaced, at any depth. -/
def mapBlobs (φ : Blob → Blob) : Value → Value
  | array items => array (mapBlobsItems φ items)
  | object entries => object (mapBlobsEntries φ entries)
  | blob b => blob (φ b)
  | v => v

def mapBlobsItems (φ : Blob → Blob) : List Value → List Value
  | [] => []
  | v :: vs => mapBlobs φ v :: mapBlobsItems φ vs

def mapBlobsEntries (φ : Blob → Blob) : List (String × Value) → List (String × Value)
  | [] => []
  | (k, v) :: es => (k, mapBlobs φ v) :: mapBlobsEntries φ es

end

variable (φ : Blob → Blob)

theorem mapBlobs_array (items : List Value) :
    (array items).mapBlobs φ = array (items.map (mapBlobs φ)) := by
  have hitems : mapBlobsItems φ items = items.map (mapBlobs φ) := by
    induction items with
    | nil => rfl
    | cons v items ih => rw [mapBlobsItems, ih, List.map_cons]
  rw [mapBlobs, hitems]

theorem mapBlobs_object (es : List (String × Value)) :
    (object es).mapBlobs φ = object (es.map (Prod.map id (mapBlobs φ))) := by
  have hentries : mapBlobsEntries φ es = es.map (Prod.map id (mapBlobs φ)) := by
    induction es with
    | nil => rfl
    | cons e es ih =>
      rw [mapBlobsEntries, ih, List.map_cons]
      rfl
  rw [mapBlobs, hentries]

theorem isUndefined_mapBlobs (v : Value) : (v.mapBlobs φ).isUndefined = v.isUndefined := by
  cases v <;> rfl

/-- Kinds and sizes are all that a rendering shows of binary objects. -/
theorem toJson_mapBlobs {φ : Blob → Blob} (hkind : ∀ b, (φ b).kind = b.kind)
    (hsize : ∀ b, (φ b).size = b.size) (v : Value) : (v.mapBlobs φ).toJson = v.toJson := by
  induction v with
  | array items ih =>
    rw [mapBlobs_array, toJson_array, toJson_array, List.map_map]
    exact congrArg Json.array (List.map_congr_left ih)
  | object es ih =>
    have hentries : entriesToJson (es.map (Prod.map id (mapBlobs φ))) = entriesToJson es := by
      induction es with
      | nil => rfl
      | cons e es ih' =>
        obtain ⟨he, hes⟩ := List.forall_mem_cons.1 ih
        rw [List.map_cons, Prod.map, entriesToJson, entriesToJson, isUndefined_mapBlobs, he, ih' hes]
        rfl
    rw [mapBlobs_object, toJson, toJson, hentries]
  | blob b => rw [mapBlobs, toJson, toJson, hkind, hsize]
  | _ => rfl

end Value

/-! ### Values of shapes -/

namespace Shape

mutual

/-- What a shape describes, with every binary object in it replaced, at any depth. -/
def mapBlobs (φ : Blob → Blob) : (s : Shape) → s.Val → s.Val
  | bool, x => x
  | number, x => x
  | string, x => x
  | int _, x => x
  | null, x => x
  | unit, x => x
  | blob _, b => φ b
  | literal _, x => x
  | option content, x => Option.map (mapBlobs φ content) x
  | list item, xs => List.map (mapBlobs φ item) xs
  | record entry, r => Record.map (mapBlobs φ entry) r
  | struct _ fields, xs => mapBlobsFields φ fields xs
  | union _ variants, x => mapBlobsVariant φ variants x

def mapBlobsFields (φ : Blob → Blob) : (fs : List (Label × Shape)) → FieldVals fs → FieldVals fs
  | [], xs => xs
  | (_, s) :: fs, (x, xs) => (mapBlobs φ s x, mapBlobsFields φ fs xs)

def mapBlobsVariant (φ : Blob → Blob) :
    (vs : List (String × Shape)) → VariantVal vs → VariantVal vs
  | [], x => x
  | (_, s) :: vs, x => Sum.map (mapBlobs φ s) (mapBlobsVariant φ vs) x

end

theorem mapBlobsFields_id {fields : List (Label × Shape)}
    (h : ∀ f ∈ fields, ∀ x, f.2.mapBlobs id x = x) (xs : FieldVals fields) :
    mapBlobsFields id fields xs = xs := by
  induction fields with
  | nil => rfl
  | cons f fields ih =>
    obtain ⟨x, xs⟩ := xs
    obtain ⟨hf, hfields⟩ := List.forall_mem_cons.1 h
    exact congrArg₂ Prod.mk (hf x) (ih hfields xs)

theorem mapBlobsVariant_id {variants : List (String × Shape)}
    (h : ∀ c ∈ variants, ∀ x, c.2.mapBlobs id x = x) (x : VariantVal variants) :
    mapBlobsVariant id variants x = x := by
  induction variants with
  | nil => rfl
  | cons c variants ih =>
    obtain ⟨hc, hvariants⟩ := List.forall_mem_cons.1 h
    cases x with
    | inl x => exact congrArg Sum.inl (hc x)
    | inr x => exact congrArg Sum.inr (ih hvariants x)

/-- Nothing changes where every binary object is replaced by itself. -/
theorem mapBlobs_id (s : Shape) (x : s.Val) : s.mapBlobs id x = x := by
  induction s with
  | option content ih =>
    cases x with
    | none => rfl
    | some y => exact congrArg some (ih y)
  | list item ih => exact (List.map_congr_left fun y _ => ih y).trans (List.map_id x)
  | record entry ih =>
    have hentries := List.map_congr_left (f := Prod.map id (entry.mapBlobs id)) (g := id)
      (l := Record.entries x) fun e _ => Prod.ext rfl (ih e.2)
    exact Record.eq_of_entries (hentries.trans (List.map_id _))
  | struct name fields ih => exact mapBlobsFields_id ih x
  | union name variants ih => exact mapBlobsVariant_id ih x
  | _ => rfl

end Shape

end Parley
