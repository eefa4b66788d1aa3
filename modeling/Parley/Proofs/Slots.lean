import Mathlib.Data.List.Basic

/-!
# Lists of slots

Sessions keep their parts in lists and name them by position. A position may be none of the list,
and a slot may have been emptied; modifying there leaves the list as it is (`Slots.modify_of_fixed`,
`Slots.modify_of_vacant`). What a slot holds after the list has been modified or has grown was there
before, or is what was put in (`Slots.held_of_modify`, `Slots.held_of_append`).
-/

namespace Parley.Slots

/-- Modifying an item that stays the same, or one that is not there, changes nothing. -/
theorem modify_of_fixed {α : Type} {as : List α} {i : Nat} {f : α → α}
    (h : ∀ a, as[i]? = some a → f a = a) : as.modify i f = as := by
  apply List.ext_getElem?
  intro j
  rw [List.getElem?_modify]
  by_cases hij : i = j
  · subst hij
    cases ha : as[i]? with
    | none => rfl
    | some a => simp [h a ha]
  · simp [hij]

/-- Nothing changes either where no item is left. -/
theorem modify_of_vacant {α : Type} {slots : List (Option α)} {i : Nat}
    {f : Option α → Option α} (h : ∀ a, slots[i]? ≠ some (some a)) (hf : f none = none) :
    slots.modify i f = slots := by
  apply modify_of_fixed
  intro slot hslot
  cases slot with
  | none => exact hf
  | some a => exact absurd hslot (h a)

/-- Modifying an item that is there sets it. -/
theorem modify_of_getElem? {α : Type} {as : List α} {i : Nat} {a : α}
    (h : as[i]? = some a) (f : α → α) : as.modify i f = as.set i (f a) := by
  rw [List.modify_eq_set_getElem?, h]
  rfl

/-- What is in a slot after a modification was there before, unless the modification makes it. -/
theorem held_of_modify {α : Type} {slots : List (Option α)} {i j : Nat}
    {f : Option α → Option α} {a : α} (hf : ∀ slot, f slot = some a → slot = some a)
    (h : (slots.modify i f)[j]? = some (some a)) : slots[j]? = some (some a) := by
  by_cases hij : i = j
  · subst hij
    rw [List.getElem?_modify_eq] at h
    obtain ⟨slot, hslot, ha⟩ := Option.map_eq_some_iff.mp h
    rw [hslot, hf slot ha]
  · rwa [List.getElem?_modify_ne _ _ hij] at h

/-- What is in a slot of a longer list was there before, or was added. -/
theorem held_of_append {α : Type} {slots : List (Option α)} {i : Nat} {a b : α}
    (h : (slots ++ [some b])[i]? = some (some a)) :
    slots[i]? = some (some a) ∨ i = slots.length ∧ a = b := by
  rw [List.getElem?_append] at h
  split at h
  · exact .inl h
  · rw [List.getElem?_singleton] at h
    split at h
    · exact .inr ⟨by omega, (Option.some.inj (Option.some.inj h)).symm⟩
    · cases h

end Parley.Slots
