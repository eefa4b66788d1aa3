import Parley.Proofs.Shape.Codec
import Parley.Proofs.Shape.Induction
import Parley.Proofs.Shape.Union

/-!
# Parts of a value

A value of a described type holds other values, each at the end of a path: the name of a property for
a field, a position for an item, a key for an entry, and no step at all for the content of an optional
or of a union.

* `Shape.Leads` says that a path leads from a value to one of its parts.
* `Shape.parts` lists all parts: fields in the order of the declaration, items and entries in the
  order in which they stand, and what a part holds before the part itself.

They speak of the same parts (`Shape.mem_parts`).
-/

namespace Parley

/-- A part of a value: where it stands, and what it is. -/
structure Part where
  path : Path
  shape : Shape
  value : shape.Val

/-- The same part, seen from a value that holds the first one under the segment `g`. -/
def Part.under (g : Segment) (p : Part) : Part := { p with path := g :: p.path }

namespace Shape

open Codec

/-! ### Following a path -/

/-- The path leads from a value to a part of it. -/
inductive Leads : (s : Shape) → s.Val → Path → (t : Shape) → t.Val → Prop
  | here (s : Shape) (x : s.Val) : Leads s x [] s x
  | content {content t : Shape} {y : content.Val} {z : t.Val} {path : Path} :
      Leads content y path t z → Leads (option content) (some y) path t z
  | item {item t : Shape} {xs : List item.Val} {n : Nat} {y : item.Val} {z : t.Val} {path : Path} :
      xs[n]? = some y → Leads item y path t z → Leads (list item) xs (.index n :: path) t z
  | entry {entry t : Shape} {r : Record entry.Val} {e : String × entry.Val} {z : t.Val}
      {path : Path} :
      e ∈ r.entries → Leads entry e.2 path t z → Leads (record entry) r (.key e.1 :: path) t z
  | field {name : String} {fields : List (Label × Shape)} {xs : FieldVals fields}
      {f : (f : Label × Shape) × f.2.Val} {t : Shape} {z : t.Val} {path : Path} :
      f ∈ fieldList fields xs → Leads f.1.2 f.2 path t z →
        Leads (struct name fields) xs (.field f.1.1.wire :: path) t z
  | candidate {name : String} {variants : List (String × Shape)} {x : VariantVal variants}
      {t : Shape} {z : t.Val} {path : Path} :
      Leads (chosen variants x).1.2 (chosen variants x).2 path t z →
        Leads (union name variants) x path t z

/-! ### All parts -/

mutual

/-- The parts of a value, each after the parts that it holds. -/
def parts : (s : Shape) → s.Val → List Part
  | option content, x =>
    (match x with
      | none => []
      | some y => content.parts y) ++ [⟨[], option content, x⟩]
  | list item, (xs : List item.Val) =>
    (xs.zipIdx.flatMap fun y => (item.parts y.1).map (Part.under (.index y.2)))
      ++ [⟨[], list item, xs⟩]
  | record entry, (r : Record entry.Val) =>
    (r.entries.flatMap fun e => (entry.parts e.2).map (Part.under (.key e.1)))
      ++ [⟨[], record entry, r⟩]
  | struct name fields, xs => partsOfFields fields xs ++ [⟨[], struct name fields, xs⟩]
  | union name variants, x => partsOfVariant variants x ++ [⟨[], union name variants, x⟩]
  | s, x => [⟨[], s, x⟩]

/-- The parts of the fields, under their names. -/
def partsOfFields : (fs : List (Label × Shape)) → FieldVals fs → List Part
  | [], _ => []
  | (l, s) :: fs, (x, xs) => (s.parts x).map (Part.under (.field l.wire)) ++ partsOfFields fs xs

/-- The parts of a value of whichever candidate is given. -/
def partsOfVariant : (vs : List (String × Shape)) → VariantVal vs → List Part
  | [], x => nomatch x
  | (_, s) :: vs, x =>
    match x with
    | .inl x => s.parts x
    | .inr x => partsOfVariant vs x

end

theorem mem_partsOfFields {fields : List (Label × Shape)} {xs : FieldVals fields} {p : Part} :
    p ∈ partsOfFields fields xs ↔
      ∃ f ∈ fieldList fields xs, ∃ q ∈ f.1.2.parts f.2, q.under (.field f.1.1.wire) = p := by
  induction fields with
  | nil => simp [partsOfFields, fieldList]
  | cons f fields ih =>
    obtain ⟨x, xs⟩ := xs
    rw [partsOfFields, List.mem_append, ih, List.mem_map, fieldList]
    simp only [List.mem_cons, exists_eq_or_imp]

theorem parts_union {name : String} {variants : List (String × Shape)}
    (x : (union name variants).Val) : (union name variants).parts x =
      (chosen variants x).1.2.parts (chosen variants x).2 ++ [⟨[], union name variants, x⟩] := by
  have hvariant : partsOfVariant variants x =
      (chosen variants x).1.2.parts (chosen variants x).2 := by
    induction variants with
    | nil => exact nomatch x
    | cons c variants ih =>
      cases x with
      | inl y => rfl
      | inr x => exact ih x
  rw [← hvariant]
  rfl

/-- A value is the last of its own parts. -/
theorem self_mem_parts (s : Shape) (x : s.Val) : ⟨[], s, x⟩ ∈ s.parts x := by
  cases s with
  | option | list | record | struct | union =>
    exact List.mem_append_right _ (List.mem_singleton.2 rfl)
  | _ => exact List.mem_singleton.2 rfl

theorem leads_of_mem_parts {s : Shape} {x : s.Val} {p : Part} (h : p ∈ s.parts x) :
    Leads s x p.path p.shape p.value := by
  induction s generalizing p with
  | bool | number | string | int | null | unit | blob | literal =>
    cases List.mem_singleton.1 h
    exact .here _ _
  | option content ih =>
    rcases List.mem_append.1 h with h | h
    · cases x with
      | none => exact absurd h List.not_mem_nil
      | some y => exact .content (ih h)
    · cases List.mem_singleton.1 h
      exact .here _ _
  | list item ih =>
    rcases List.mem_append.1 h with h | h
    · obtain ⟨y, hy, h⟩ := List.mem_flatMap.1 h
      obtain ⟨q, hq, rfl⟩ := List.mem_map.1 h
      exact .item (List.mem_zipIdx_iff_getElem?.1 hy) (ih hq)
    · cases List.mem_singleton.1 h
      exact .here _ _
  | record entry ih =>
    rcases List.mem_append.1 h with h | h
    · obtain ⟨e, he, h⟩ := List.mem_flatMap.1 h
      obtain ⟨q, hq, rfl⟩ := List.mem_map.1 h
      exact .entry he (ih hq)
    · cases List.mem_singleton.1 h
      exact .here _ _
  | struct name fields ih =>
    rcases List.mem_append.1 h with h | h
    · obtain ⟨f, hf, q, hq, rfl⟩ := mem_partsOfFields.1 h
      exact .field hf (ih f.1 (mem_of_mem_fieldList hf) hq)
    · cases List.mem_singleton.1 h
      exact .here _ _
  | union name variants ih =>
    rw [parts_union] at h
    rcases List.mem_append.1 h with h | h
    · exact .candidate (ih _ (chosen_mem x) h)
    · cases List.mem_singleton.1 h
      exact .here _ _

theorem mem_parts_of_leads {s t : Shape} {x : s.Val} {path : Path} {z : t.Val}
    (h : Leads s x path t z) : ⟨path, t, z⟩ ∈ s.parts x := by
  induction h with
  | here s x => exact self_mem_parts s x
  | content _ ih => exact List.mem_append_left _ ih
  | @item item t xs n y z path hy _ ih =>
    apply List.mem_append_left
    exact List.mem_flatMap.2 ⟨(y, n), List.mem_zipIdx_iff_getElem?.2 hy, List.mem_map.2 ⟨_, ih, rfl⟩⟩
  | entry he _ ih =>
    apply List.mem_append_left
    exact List.mem_flatMap.2 ⟨_, he, List.mem_map.2 ⟨_, ih, rfl⟩⟩
  | field hf _ ih => exact List.mem_append_left _ (mem_partsOfFields.2 ⟨_, hf, _, ih, rfl⟩)
  | candidate _ ih => exact (parts_union _).symm ▸ List.mem_append_left _ ih

/-- The listed parts are those to which a path leads. -/
theorem mem_parts {s : Shape} {x : s.Val} {p : Part} :
    p ∈ s.parts x ↔ Leads s x p.path p.shape p.value :=
  ⟨leads_of_mem_parts, mem_parts_of_leads⟩

end Shape

end Parley
