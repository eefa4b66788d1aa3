import Parley.Proofs.Shape.RoundTrip

/-!
# Kinds of binary objects

A shape declares the kind of its binary objects, but a value of the described type may hold the other
kind: reading checks the kind (`wellKinded_of_decode`), writing does not. So a round-trippable shape
restores exactly the well-kinded ones among the values that it writes
(`RoundTrippable.preserves_iff`), and all of them if no binary object occurs in it.
-/

namespace Parley

namespace Codec

variable {α V : Type} [Host V]

/-- Every entry of a record that was read, those that were there before apart, was read from a
property. -/
theorem mem_of_readEntries {decode : V → Except DecodeError α} {v : V} {keys : List String}
    {r r' : Record α} (h : readEntries decode v keys r = .ok r') {e : String × α}
    (he : e ∈ r'.entries) : e ∈ r.entries ∨ ∃ w, decode w = .ok e.2 := by
  induction keys generalizing r with
  | nil =>
    cases h
    exact Or.inl he
  | cons key keys ih =>
    rw [readEntries] at h
    obtain ⟨a, ha, h⟩ := Except.bind_eq_ok.1 h
    rcases ih h with he | he
    · rcases Entries.mem_of_mem_insert he with rfl | he
      · exact Or.inr ⟨_, Except.mapError_eq_ok.1 ha⟩
      · exact Or.inl he
    · exact Or.inr he

end Codec

namespace Shape

open Codec

/-! ### What is read -/

/-- Fields that give well-kinded values give well-kinded structs. -/
theorem wellKindedFields_of_decode {fields : List (Label × Shape)}
    (ih : ∀ f ∈ fields, ∀ (v : Value) (x : f.2.Val), f.2.decode v = .ok x → f.2.WellKinded x)
    {v : Value} {xs : FieldVals fields} (h : decodeFields fields v = .ok xs) :
    WellKindedFields fields xs := by
  apply wellKindedFields_iff.2
  intro p hp
  have hread := (readField_eq_ok fun a ha => probe_of_decode ha).1 (decodeFields_eq_ok_iff.1 h p hp)
  exact ih p.1 (mem_of_mem_fieldList hp) _ p.2 hread

/-- Candidates that give well-kinded values give well-kinded unions. -/
theorem wellKindedVariant_of_decode {name : String} {variants : List (String × Shape)}
    (ih : ∀ c ∈ variants, ∀ (v : Value) (x : c.2.Val), c.2.decode v = .ok x → c.2.WellKinded x)
    {v : Value} {x : VariantVal variants} (h : decodeVariants name variants v = .ok x) :
    WellKindedVariant variants x := by
  obtain ⟨-, hread⟩ := committed_of_decode h
  exact wellKindedVariant_iff.2 (ih _ (chosen_mem x) v _ hread)

/-- What is read has the declared kinds. -/
theorem wellKinded_of_decode {s : Shape} {v : Value} {x : s.Val} (h : s.decode v = .ok x) :
    s.WellKinded x := by
  induction s generalizing v with
  | bool | number | string | int | null | unit | literal => trivial
  | blob kind =>
    rw [decode] at h
    obtain ⟨_, hkind⟩ := Option.filter_eq_some_iff.1 (orMismatch_eq_ok.1 h)
    show Blob.kind x = kind
    exact of_decide_eq_true hkind
  | option content ih =>
    rcases decode_option_eq_ok h with ⟨-, rfl⟩ | ⟨-, y, hy, rfl⟩
    · trivial
    · exact ih hy
  | list item ih =>
    obtain ⟨items, rfl, hitems⟩ := decode_list_eq_ok h
    intro y hy
    obtain ⟨n, hn, rfl⟩ := List.getElem_of_mem hy
    exact ih (hitems.get (hitems.length_eq ▸ hn) hn)
  | record entry ih =>
    obtain ⟨es, rfl, hread⟩ := decode_record_eq_ok h
    intro e he
    rcases mem_of_readEntries hread he with hempty | ⟨w, hw⟩
    · exact absurd hempty List.not_mem_nil
    · exact ih hw
  | struct name fields ih =>
    obtain ⟨es, rfl, hread⟩ := decode_struct_eq_ok h
    exact wellKindedFields_of_decode (fun f hf _ _ hx => ih f hf hx) hread
  | union name variants ih =>
    rw [decode] at h
    exact wellKindedVariant_of_decode (fun c hc _ _ hx => ih c hc hx) h

/-! ### Shapes without binary objects -/

/-- No binary object occurs in the shape. -/
def WithoutBlobs : Shape → Prop :=
  Throughout fun
    | blob _ => False
    | _ => True

theorem wellKindedFields_of_forall {fields : List (Label × Shape)}
    (h : ∀ f ∈ fields, ∀ x : f.2.Val, f.2.WellKinded x) (xs : FieldVals fields) :
    WellKindedFields fields xs :=
  wellKindedFields_iff.2 fun p hp => h p.1 (mem_of_mem_fieldList hp) p.2

theorem wellKindedVariant_of_forall {variants : List (String × Shape)}
    (h : ∀ c ∈ variants, ∀ x : c.2.Val, c.2.WellKinded x) (x : VariantVal variants) :
    WellKindedVariant variants x :=
  wellKindedVariant_iff.2 (h _ (chosen_mem x) _)

/-- Where no binary object occurs, there is no kind to get wrong. -/
theorem WithoutBlobs.wellKinded {s : Shape} (hs : s.WithoutBlobs) (x : s.Val) :
    s.WellKinded x := by
  induction s with
  | bool | number | string | int | null | unit | literal => trivial
  | blob kind => exact hs.elim
  | option content ih =>
    cases x with
    | none => trivial
    | some y => exact ih hs.2 y
  | list item ih => exact fun y _ => ih hs.2 y
  | record entry ih => exact fun e _ => ih hs.2 e.2
  | struct name fields ih =>
    obtain ⟨_, hfields⟩ := throughout_struct.1 hs
    exact wellKindedFields_of_forall (fun f hf => ih f hf (hfields f hf)) x
  | union name variants ih =>
    obtain ⟨_, hvariants⟩ := throughout_union.1 hs
    exact wellKindedVariant_of_forall (fun c hc => ih c hc (hvariants c hc)) x

/-! ### Values that survive -/

/-- Writing the value refuses it, or gives something that reads as the same value. -/
def Preserves (s : Shape) (x : s.Val) : Prop :=
  (∃ e, s.encode Value x = .error e) ∨ ∃ v, s.encode Value x = .ok v ∧ s.decode v = .ok x

/-- Of the values that it does not refuse, a round-trippable shape preserves the well-kinded ones. -/
theorem RoundTrippable.preserves_iff {s : Shape} (hs : s.RoundTrippable) (x : s.Val) :
    s.Preserves x ↔ (∃ e, s.encode Value x = .error e) ∨ s.WellKinded x := by
  constructor
  · rintro (herror | ⟨v, _, hread⟩)
    · exact Or.inl herror
    · exact Or.inr (wellKinded_of_decode hread)
  · rintro (herror | hkind)
    · exact Or.inl herror
    · cases h : s.encode Value x with
      | error e => exact Or.inl ⟨e, h⟩
      | ok v => exact Or.inr ⟨v, h, hs.restores x v hkind h⟩

end Shape

end Parley
