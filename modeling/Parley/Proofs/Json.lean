import Parley.Entries
import Parley.Json

/-!
# Objects that are ordered by their keys

Byte order is a strict total order on texts. Where the keys of an object are in byte order and differ
(`Json.Ascending`), adding an entry keeps them so (`ascending_insertSorted`), and the entries, in
whatever order they were found, stand in one order only (`eq_of_ascending`).
-/

namespace Parley

/-! ### Byte order -/

namespace Text

theorem bytes_injective : Function.Injective bytes := by
  intro a b h
  rw [bytes, bytes, Array.toList_inj] at h
  exact String.toByteArray_inj.1 (ByteArray.ext h)

theorem before_iff {a b : String} : before a b = true ↔ bytes a < bytes b := decide_eq_true_iff

theorem before_trans {a b c : String} (hab : before a b = true) (hbc : before b c = true) :
    before a c = true :=
  before_iff.2 (List.lt_trans (before_iff.1 hab) (before_iff.1 hbc))

theorem before_asymm {a b : String} (h : before a b = true) : ¬before b a = true := fun h' =>
  List.lt_asymm (before_iff.1 h) (before_iff.1 h')

/-- Of two texts one comes first. -/
theorem before_of_ne {a b : String} (hne : a ≠ b) (h : ¬before a b = true) : before b a = true := by
  by_cases h' : before b a = true
  · exact h'
  · rw [before_iff] at h h'
    exact absurd (bytes_injective (List.le_antisymm (List.not_lt.1 h') (List.not_lt.1 h))) hne

end Text

namespace Json

/-! ### Ordered entries -/

/-- The keys differ and are in byte order. -/
def Ascending (js : List (String × Json)) : Prop :=
  (Entries.keys js).Pairwise fun k l => Text.before k l = true

variable {js : List (String × Json)} {key : String}

theorem mem_keys_insertSorted {j : Json} {k : String} :
    k ∈ Entries.keys (insertSorted key j js) ↔ k = key ∨ k ∈ Entries.keys js := by
  induction js with
  | nil => simp [insertSorted, Entries.keys]
  | cons e js ih =>
    obtain ⟨l, i⟩ := e
    simp only [Entries.keys] at ih
    simp only [insertSorted, Entries.keys]
    split
    · rename_i hl
      simp [hl]
    · split
      · simp
      · simp only [List.map_cons, List.mem_cons, ih]
        exact or_left_comm

theorem mem_of_mem_insertSorted {j : Json} {e : String × Json} (h : e ∈ insertSorted key j js) :
    e = (key, j) ∨ e ∈ js := by
  induction js with
  | nil => exact Or.inl (List.mem_singleton.1 h)
  | cons e' js ih =>
    rw [insertSorted] at h
    split at h
    · exact Or.inr h
    · split at h
      · exact List.mem_cons.1 h
      · rcases List.mem_cons.1 h with rfl | h
        · exact Or.inr List.mem_cons_self
        · exact (ih h).imp_right (List.mem_cons_of_mem _)

/-- A new entry finds its place among the others. -/
theorem ascending_insertSorted (h : Ascending js) (j : Json) :
    Ascending (insertSorted key j js) := by
  induction js with
  | nil => exact List.pairwise_singleton _ _
  | cons e js ih =>
    obtain ⟨k, i⟩ := e
    obtain ⟨hk, hjs⟩ := List.pairwise_cons.1 h
    rw [insertSorted]
    split
    · exact h
    · rename_i hne
      split
      · rename_i hbefore
        refine List.pairwise_cons.2 ⟨?_, h⟩
        intro l hl
        rcases List.mem_cons.1 hl with rfl | hl
        · exact hbefore
        · exact Text.before_trans hbefore (hk l hl)
      · rename_i hafter
        refine List.pairwise_cons.2 ⟨?_, ih hjs⟩
        intro l hl
        rcases mem_keys_insertSorted.1 hl with rfl | hl
        · exact Text.before_of_ne (Ne.symm hne) hafter
        · exact hk l hl

/-- A key that was not there brings one more entry. -/
theorem perm_insertSorted (h : key ∉ Entries.keys js) (j : Json) :
    (insertSorted key j js).Perm ((key, j) :: js) := by
  induction js with
  | nil => exact List.Perm.refl _
  | cons e js ih =>
    obtain ⟨hne, hjs⟩ := not_or.1 fun h' => h (List.mem_cons.2 h')
    rw [insertSorted, if_neg (Ne.symm hne)]
    split
    · exact List.Perm.refl _
    · exact ((ih hjs).cons e).trans (List.Perm.swap _ _ _)

/-- Entries in order of their keys can be put together in one way only. -/
theorem eq_of_ascending {is : List (String × Json)} (hi : Ascending is) (hj : Ascending js)
    (h : is.Perm js) : is = js := by
  refine List.Perm.eq_of_pairwise ?_ (List.pairwise_map.1 hi) (List.pairwise_map.1 hj) h
  intro a b _ _ hab hba
  exact absurd hba (Text.before_asymm hab)

/-! ### Every depth -/

mutual

/-- Every object, at any depth, lists its keys in byte order and each of them once. -/
def Ordered : Json → Prop
  | array items => OrderedItems items
  | object entries => Ascending entries ∧ OrderedEntries entries
  | _ => True

def OrderedItems : List Json → Prop
  | [] => True
  | j :: js => Ordered j ∧ OrderedItems js

def OrderedEntries : List (String × Json) → Prop
  | [] => True
  | (_, j) :: es => Ordered j ∧ OrderedEntries es

end

theorem ordered_array {items : List Json} : (array items).Ordered ↔ ∀ j ∈ items, j.Ordered := by
  rw [Ordered]
  induction items with
  | nil => simp [OrderedItems]
  | cons j items ih => simp [OrderedItems, ih]

theorem ordered_object : (object js).Ordered ↔ Ascending js ∧ ∀ e ∈ js, e.2.Ordered := by
  have hentries : OrderedEntries js ↔ ∀ e ∈ js, e.2.Ordered := by
    induction js with
    | nil => simp [OrderedEntries]
    | cons e js ih => simp [OrderedEntries, ih]
  rw [Ordered, hentries]

end Json

end Parley
