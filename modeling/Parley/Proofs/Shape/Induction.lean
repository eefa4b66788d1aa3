import Parley.Shape

/-!
# Induction on shapes

Structs and unions hold their parts in lists, so the recursor of `Shape` speaks of lists and pairs as
well. `Shape.induction` is the principle that proofs want: one case for each kind of shape, and for a
struct or a union the property of every field or candidate.

* `Shape.Throughout` extends a condition on a single shape to all shapes that it is built from.
* `Shape.readers` are the shapes that look into a value, optionals and unions taken apart.
* `Shape.DistinctWires` is the condition that structs name their properties apart.
-/

namespace Parley

namespace Shape

/-- A property holds of every shape if each kind of shape has it whenever its parts have it. -/
@[elab_as_elim, induction_eliminator]
theorem induction {motive : Shape → Prop}
    (bool : motive .bool) (number : motive .number) (string : motive .string)
    (int : ∀ kind, motive (.int kind)) (null : motive .null) (unit : motive .unit)
    (blob : ∀ kind, motive (.blob kind)) (literal : ∀ text, motive (.literal text))
    (option : ∀ content, motive content → motive (.option content))
    (list : ∀ item, motive item → motive (.list item))
    (record : ∀ entry, motive entry → motive (.record entry))
    (struct : ∀ name fields, (∀ f ∈ fields, motive f.2) → motive (.struct name fields))
    (union : ∀ name variants, (∀ c ∈ variants, motive c.2) → motive (.union name variants))
    (s : Shape) : motive s := by
  refine Shape.rec (motive_1 := motive) (motive_2 := fun fields => ∀ f ∈ fields, motive f.2)
    (motive_3 := fun variants => ∀ c ∈ variants, motive c.2)
    (motive_4 := fun f => motive f.2) (motive_5 := fun c => motive c.2)
    bool number string int null unit blob literal option list record struct union
    ?_ ?_ ?_ ?_ ?_ ?_ s
  · exact fun _ hf => absurd hf List.not_mem_nil
  · exact fun _ _ hf hfs => List.forall_mem_cons.2 ⟨hf, hfs⟩
  · exact fun _ hc => absurd hc List.not_mem_nil
  · exact fun _ _ hc hcs => List.forall_mem_cons.2 ⟨hc, hcs⟩
  · exact fun _ _ h => h
  · exact fun _ _ h => h

/-! ### Conditions on every part -/

mutual

/-- The condition holds of the shape and of every shape inside it, at any depth. -/
def Throughout (p : Shape → Prop) : Shape → Prop
  | option content => p (option content) ∧ Throughout p content
  | list item => p (list item) ∧ Throughout p item
  | record entry => p (record entry) ∧ Throughout p entry
  | struct name fields => p (struct name fields) ∧ ThroughoutFields p fields
  | union name variants => p (union name variants) ∧ ThroughoutVariants p variants
  | s => p s

/-- The condition holds throughout the shape of every field. -/
def ThroughoutFields (p : Shape → Prop) : List (Label × Shape) → Prop
  | [] => True
  | (_, s) :: fs => Throughout p s ∧ ThroughoutFields p fs

/-- The condition holds throughout every candidate. -/
def ThroughoutVariants (p : Shape → Prop) : List (String × Shape) → Prop
  | [] => True
  | (_, s) :: vs => Throughout p s ∧ ThroughoutVariants p vs

end

variable {p : Shape → Prop}

theorem throughoutFields_iff {fields : List (Label × Shape)} :
    ThroughoutFields p fields ↔ ∀ f ∈ fields, f.2.Throughout p := by
  induction fields with
  | nil => simp [ThroughoutFields]
  | cons f fields ih => simp [ThroughoutFields, ih]

theorem throughoutVariants_iff {variants : List (String × Shape)} :
    ThroughoutVariants p variants ↔ ∀ c ∈ variants, c.2.Throughout p := by
  induction variants with
  | nil => simp [ThroughoutVariants]
  | cons c variants ih => simp [ThroughoutVariants, ih]

theorem throughout_struct {name : String} {fields : List (Label × Shape)} :
    (struct name fields).Throughout p ↔
      p (struct name fields) ∧ ∀ f ∈ fields, f.2.Throughout p := by
  rw [Throughout, throughoutFields_iff]

theorem throughout_union {name : String} {variants : List (String × Shape)} :
    (union name variants).Throughout p ↔
      p (union name variants) ∧ ∀ c ∈ variants, c.2.Throughout p := by
  rw [Throughout, throughoutVariants_iff]

theorem Throughout.imp {q : Shape → Prop} (hpq : ∀ s, p s → q s) {s : Shape}
    (h : s.Throughout p) : s.Throughout q := by
  induction s with
  | option _ ih | list _ ih | record _ ih => exact ⟨hpq _ h.1, ih h.2⟩
  | struct name fields ih =>
    obtain ⟨hs, hfields⟩ := throughout_struct.1 h
    exact throughout_struct.2 ⟨hpq _ hs, fun f hf => ih f hf (hfields f hf)⟩
  | union name variants ih =>
    obtain ⟨hs, hvariants⟩ := throughout_union.1 h
    exact throughout_union.2 ⟨hpq _ hs, fun c hc => ih c hc (hvariants c hc)⟩
  | _ => exact hpq _ h

/-! ### What reads a value -/

mutual

/-- The shapes as which a value may be read: in the place of an optional its content, and in the
place of a union its candidates. -/
def readers : Shape → List Shape
  | option content => content.readers
  | union _ variants => variantReaders variants
  | s => [s]

/-- The shapes as which the candidates may read a value. -/
def variantReaders : List (String × Shape) → List Shape
  | [] => []
  | (_, s) :: vs => s.readers ++ variantReaders vs

end

theorem mem_variantReaders {variants : List (String × Shape)} {r : Shape} :
    r ∈ variantReaders variants ↔ ∃ c ∈ variants, r ∈ c.2.readers := by
  induction variants with
  | nil => simp [variantReaders]
  | cons c variants ih => simp [variantReaders, ih]

/-! ### Names -/

/-- The names under which the fields of a struct travel. -/
def wires (fields : List (Label × Shape)) : List String := fields.map fun f => f.1.wire

/-- No struct, at any depth, has two fields that travel under one name. -/
def DistinctWires : Shape → Prop :=
  Throughout fun
    | struct _ fields => (wires fields).Nodup
    | _ => True

end Shape

end Parley
