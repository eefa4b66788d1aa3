import Mathlib.Data.List.Basic
import Mathlib.Data.List.Induction
import Parley.Entries

/-!
# Entries as maps that remember an order

A list of entries is known by the changes that were made to it: entries that were inserted, and keys
that were removed. Read as a map (`Entries.Remembers`), it finds for a key what was inserted last,
if that was not removed, and it lists the keys in the order in which they arrived. A key keeps its
place when its entry is replaced, and gets a new one when it comes back after a removal.

One change keeps this (`Entries.Remembers.concat`), so that every sequence of changes has it
(`Entries.remembers_after`). A change leaves all other entries as they are and in the same order
(`Entries.filter_apply`).
-/

namespace Parley.Entries

variable {α : Type}

/-! ### Histories -/

/-- A change to the entry of one key. -/
inductive Change (α : Type) where
  | insert (key : String) (a : α)
  | remove (key : String)

/-- The key whose entry changes. -/
def Change.key : Change α → String
  | insert key _ => key
  | remove key => key

/-- The entries after a change. -/
def Change.apply (es : List (String × α)) : Change α → List (String × α)
  | insert key a => Entries.insert es key a
  | remove key => (Entries.remove es key).2

/-- What was inserted last for the key, if nothing has happened to the key since. -/
def Latest (history : List (Change α)) (key : String) (a : α) : Prop :=
  ∃ i : Nat, history[i]? = some (.insert key a) ∧
    ∀ (j : Nat) (c : Change α), i < j → history[j]? = some c → c.key ≠ key

/-- The key was removed later than at position `i`. -/
def RemovedAfter (history : List (Change α)) (key : String) (i : Nat) : Prop :=
  ∃ j, i < j ∧ history[j]? = some (.remove key)

/-- Whenever the key was inserted, it was removed later. -/
def Absent (history : List (Change α)) (key : String) : Prop :=
  ∀ (i : Nat) (a : α), history[i]? = some (.insert key a) → RemovedAfter history key i

/-- The change at position `i` first inserted the key since it was last removed: the key was absent
before, and it was not removed later. -/
def Arrived (history : List (Change α)) (key : String) (i : Nat) : Prop :=
  (∃ a, history[i]? = some (.insert key a)) ∧ Absent (history.take i) key ∧
    ¬RemovedAfter history key i

/-- A map, given by its keys in order and by what they find, that remembers a history: no key stands
twice, every key finds what was inserted last, the keys are those that arrived and were not removed,
and of two keys the one that arrived first stands first. -/
structure Remembers (history : List (Change α)) (keys : List String)
    (get? : String → Option α) : Prop where
  distinct : keys.Nodup
  get?_eq_some : ∀ key a, get? key = some a ↔ Latest history key a
  mem_keys : ∀ key, key ∈ keys ↔ ∃ i, Arrived history key i
  order : keys.Pairwise fun k l => ∀ i j, Arrived history k i → Arrived history l j → i < j

/-! ### Histories that grow by one change -/

section Concat

variable {history : List (Change α)} {c : Change α} {key : String}

theorem getElem?_concat {x : Change α} {i : Nat} :
    (history ++ [c])[i]? = some x ↔ history[i]? = some x ∨ i = history.length ∧ c = x := by
  rcases Nat.lt_trichotomy i history.length with h | rfl | h
  · simp [List.getElem?_append_left h, Nat.ne_of_lt h]
  · simp
  · have hlen : (history ++ [c]).length ≤ i := by
      rw [List.length_append, List.length_singleton]
      exact h
    simp [List.getElem?_eq_none hlen, List.getElem?_eq_none (Nat.le_of_lt h), Nat.ne_of_gt h]

theorem lt_length {x : Change α} {i : Nat} (h : history[i]? = some x) : i < history.length :=
  (List.getElem?_eq_some_iff.1 h).1

theorem latest_concat {a : α} :
    Latest (history ++ [c]) key a ↔ c = .insert key a ∨ c.key ≠ key ∧ Latest history key a := by
  constructor
  · rintro ⟨i, hi, hlast⟩
    rcases getElem?_concat.1 hi with hi | ⟨-, rfl⟩
    · right
      refine ⟨hlast _ c (lt_length hi) (getElem?_concat.2 (.inr ⟨rfl, rfl⟩)), i, hi, ?_⟩
      intro j d hj hd
      exact hlast j d hj (getElem?_concat.2 (.inl hd))
    · exact .inl rfl
  · rintro (rfl | ⟨hc, i, hi, hlast⟩)
    · refine ⟨history.length, getElem?_concat.2 (.inr ⟨rfl, rfl⟩), ?_⟩
      intro j d hj hd
      have hlt := lt_length hd
      rw [List.length_append, List.length_singleton] at hlt
      omega
    · refine ⟨i, getElem?_concat.2 (.inl hi), ?_⟩
      intro j d hj hd
      rcases getElem?_concat.1 hd with hd | ⟨-, rfl⟩
      · exact hlast j d hj hd
      · exact hc

theorem removedAfter_concat {i : Nat} :
    RemovedAfter (history ++ [c]) key i ↔
      RemovedAfter history key i ∨ i < history.length ∧ c = .remove key := by
  constructor
  · rintro ⟨j, hj, hremove⟩
    rcases getElem?_concat.1 hremove with hremove | ⟨rfl, rfl⟩
    · exact .inl ⟨j, hj, hremove⟩
    · exact .inr ⟨hj, rfl⟩
  · rintro (⟨j, hj, hremove⟩ | ⟨hi, rfl⟩)
    · exact ⟨j, hj, getElem?_concat.2 (.inl hremove)⟩
    · exact ⟨_, hi, getElem?_concat.2 (.inr ⟨rfl, rfl⟩)⟩

/-- Nothing comes after the last change. -/
theorem not_removedAfter_length : ¬RemovedAfter history key history.length := by
  rintro ⟨j, hj, hremove⟩
  exact absurd (lt_length hremove) (Nat.lt_asymm hj)

theorem absent_concat :
    Absent (history ++ [c]) key ↔
      c = .remove key ∨ (∀ a, c ≠ .insert key a) ∧ Absent history key := by
  constructor
  · intro h
    by_cases hc : c = .remove key
    · exact .inl hc
    · refine .inr ⟨?_, ?_⟩
      · rintro a rfl
        rcases removedAfter_concat.1 (h _ a (getElem?_concat.2 (.inr ⟨rfl, rfl⟩))) with h | ⟨h, -⟩
        · exact not_removedAfter_length h
        · exact Nat.lt_irrefl _ h
      · intro i a hi
        have hremoved := removedAfter_concat.1 (h i a (getElem?_concat.2 (.inl hi)))
        exact hremoved.resolve_right fun h => hc h.2
  · rintro (rfl | ⟨hc, h⟩) i a hi
    · rcases getElem?_concat.1 hi with hi | ⟨-, hi⟩
      · exact removedAfter_concat.2 (.inr ⟨lt_length hi, rfl⟩)
      · cases hi
    · rcases getElem?_concat.1 hi with hi | ⟨-, hi⟩
      · exact removedAfter_concat.2 (.inl (h i a hi))
      · exact absurd hi (hc a)

theorem arrived_concat {i : Nat} :
    Arrived (history ++ [c]) key i ↔ (c ≠ .remove key ∧ Arrived history key i) ∨
      i = history.length ∧ Absent history key ∧ ∃ a, c = .insert key a := by
  constructor
  · rintro ⟨⟨a, hi⟩, habsent, hkept⟩
    rw [removedAfter_concat, not_or] at hkept
    rcases getElem?_concat.1 hi with hi | ⟨rfl, rfl⟩
    · left
      have hlt := lt_length hi
      rw [List.take_append_of_le_length (Nat.le_of_lt hlt)] at habsent
      exact ⟨fun hc => hkept.2 ⟨hlt, hc⟩, ⟨a, hi⟩, habsent, hkept.1⟩
    · right
      rw [List.take_left] at habsent
      exact ⟨rfl, habsent, a, rfl⟩
  · rintro (⟨hc, ⟨a, hi⟩, habsent, hkept⟩ | ⟨rfl, habsent, a, rfl⟩)
    · refine ⟨⟨a, getElem?_concat.2 (.inl hi)⟩, ?_, ?_⟩
      · rw [List.take_append_of_le_length (Nat.le_of_lt (lt_length hi))]
        exact habsent
      · rw [removedAfter_concat, not_or]
        exact ⟨hkept, fun h => hc h.2⟩
    · refine ⟨⟨a, getElem?_concat.2 (.inr ⟨rfl, rfl⟩)⟩, ?_, ?_⟩
      · rw [List.take_left]
        exact habsent
      · rw [removedAfter_concat, not_or]
        exact ⟨not_removedAfter_length, fun h => Nat.lt_irrefl _ h.1⟩

end Concat

/-- A key that is not absent has a latest entry. -/
theorem exists_latest_iff (history : List (Change α)) (key : String) :
    (∃ a, Latest history key a) ↔ ¬Absent history key := by
  induction history using List.reverseRecOn with
  | nil => simp [Latest, Absent]
  | append_singleton history c ih =>
    simp only [latest_concat, absent_concat]
    cases c with
    | insert k a =>
      by_cases hk : k = key <;> simp [Change.key, hk, ih]
    | remove k =>
      by_cases hk : k = key <;> simp [Change.key, hk, ih]

/-- A key that is not absent has arrived at some time. -/
theorem exists_arrived_iff (history : List (Change α)) (key : String) :
    (∃ i, Arrived history key i) ↔ ¬Absent history key := by
  induction history using List.reverseRecOn with
  | nil => simp [Arrived, Absent]
  | append_singleton history c ih =>
    simp only [arrived_concat, absent_concat, exists_or, exists_and_left, exists_eq_left, ih]
    cases c with
    | insert k a =>
      by_cases hk : k = key <;> simp [hk, Classical.em, or_comm]
    | remove k =>
      by_cases hk : k = key <;> simp [hk]

/-! ### Entries that remember -/

/-- Looking up is enough to tell which keys there are. -/
theorem Remembers.of_get? {history : List (Change α)} {es : List (String × α)}
    (hdistinct : (keys es).Nodup) (hget : ∀ key a, get? es key = some a ↔ Latest history key a)
    (horder : (keys es).Pairwise fun k l =>
      ∀ i j, Arrived history k i → Arrived history l j → i < j) :
    Remembers history (keys es) (get? es) where
  distinct := hdistinct
  get?_eq_some := hget
  mem_keys key := by
    rw [exists_arrived_iff, ← exists_latest_iff, ← isSome_get?_iff, Option.isSome_iff_exists]
    simp only [hget]
  order := horder

namespace Remembers

variable {history : List (Change α)} {es : List (String × α)}

theorem mem_keys_iff (h : Remembers history (keys es) (get? es)) (key : String) :
    key ∈ keys es ↔ ¬Absent history key := by
  rw [h.mem_keys, exists_arrived_iff]

/-- A present key keeps its place. -/
theorem arrived_of_concat (h : Remembers history (keys es) (get? es)) {c : Change α} {key : String}
    (hkey : key ∈ keys es) {i : Nat} (hi : Arrived (history ++ [c]) key i) :
    Arrived history key i := by
  rcases arrived_concat.1 hi with ⟨-, hi⟩ | ⟨-, habsent, -⟩
  · exact hi
  · exact absurd habsent ((h.mem_keys_iff key).1 hkey)

theorem order_concat (h : Remembers history (keys es) (get? es)) (c : Change α) :
    (keys es).Pairwise fun k l =>
      ∀ i j, Arrived (history ++ [c]) k i → Arrived (history ++ [c]) l j → i < j := by
  apply h.order.imp_of_mem
  intro k l hk hl hkl i j hi hj
  exact hkl i j (h.arrived_of_concat hk hi) (h.arrived_of_concat hl hj)

/-- Inserting is remembered. -/
theorem insert (h : Remembers history (keys es) (get? es)) (key : String) (a : α) :
    Remembers (history ++ [.insert key a]) (keys (Entries.insert es key a))
      (get? (Entries.insert es key a)) := by
  apply of_get? (keys_insert_nodup h.distinct key a)
  · intro k b
    rw [latest_concat]
    by_cases hk : k = key
    · subst hk
      rw [get?_insert_self]
      simp [Change.key]
    · rw [get?_insert_of_ne es hk, h.get?_eq_some]
      simp [Change.key, Ne.symm hk]
  · by_cases hkey : key ∈ keys es
    · rw [keys_insert_of_mem hkey]
      exact h.order_concat _
    · -- the key arrives with this change, behind all the others
      rw [keys_insert_of_not_mem hkey, List.pairwise_append]
      refine ⟨h.order_concat _, List.pairwise_singleton _ _, ?_⟩
      intro k hk l hl i j hi hj
      obtain rfl := List.mem_singleton.1 hl
      have hlt : i < history.length := by
        obtain ⟨⟨b, hb⟩, -⟩ := h.arrived_of_concat hk hi
        exact lt_length hb
      rcases arrived_concat.1 hj with ⟨-, hj⟩ | ⟨rfl, -⟩
      · exact absurd ((h.mem_keys l).2 ⟨j, hj⟩) hkey
      · exact hlt

/-- Removing is remembered. -/
theorem erase (h : Remembers history (keys es) (get? es)) (key : String) :
    Remembers (history ++ [.remove key]) (keys (Entries.erase es key))
      (get? (Entries.erase es key)) := by
  apply of_get? (keys_erase_nodup h.distinct key)
  · intro k b
    rw [latest_concat]
    by_cases hk : k = key
    · subst hk
      rw [get?_erase_self h.distinct]
      simp [Change.key]
    · rw [get?_erase_of_ne es hk, h.get?_eq_some]
      simp [Change.key, Ne.symm hk]
  · exact (h.order_concat _).sublist (keys_erase_sublist es key)

/-- Every change is remembered. -/
theorem concat (h : Remembers history (keys es) (get? es)) (c : Change α) :
    Remembers (history ++ [c]) (keys (c.apply es)) (get? (c.apply es)) := by
  cases c with
  | insert key a => exact h.insert key a
  | remove key => exact h.erase key

end Remembers

/-- The insertions of a list of pairs. -/
def insertions (pairs : List (String × α)) : List (Change α) :=
  pairs.map fun p => .insert p.1 p.2

/-- The entries after a list of pairs and then some changes. -/
def after (pairs : List (String × α)) (changes : List (Change α)) : List (String × α) :=
  changes.foldl Change.apply (ofList pairs)

theorem after_eq_foldl (pairs : List (String × α)) (changes : List (Change α)) :
    after pairs changes = (insertions pairs ++ changes).foldl Change.apply [] := by
  rw [List.foldl_append, insertions, List.foldl_map]
  rfl

/-- Whatever changes are made, the entries remember them. -/
theorem remembers_foldl (history : List (Change α)) :
    Remembers history (keys (history.foldl Change.apply []))
      (get? (history.foldl Change.apply [])) := by
  induction history using List.reverseRecOn with
  | nil =>
    refine Remembers.of_get? List.nodup_nil ?_ List.Pairwise.nil
    simp [Latest]
  | append_singleton history c ih =>
    rw [List.foldl_append]
    exact ih.concat c

theorem remembers_after (pairs : List (String × α)) (changes : List (Change α)) :
    Remembers (insertions pairs ++ changes) (keys (after pairs changes))
      (get? (after pairs changes)) := by
  rw [after_eq_foldl]
  exact remembers_foldl _

/-- A key that comes back stands last, and one that gets a new entry stays where it is. -/
example : after [("a", 1), ("b", 2)] [.remove "a", .insert "a" 3, .insert "b" 4] =
    [("b", 4), ("a", 3)] := by decide

theorem remembers_ofList (pairs : List (String × α)) :
    Remembers (insertions pairs) (keys (ofList pairs)) (get? (ofList pairs)) := by
  have h := remembers_after pairs []
  rw [List.append_nil] at h
  exact h

theorem foldl_insert_of_nodup (es pairs : List (String × α)) (h : (keys (es ++ pairs)).Nodup) :
    pairs.foldl (fun es p => insert es p.1 p.2) es = es ++ pairs := by
  induction pairs generalizing es with
  | nil => exact (List.append_nil es).symm
  | cons p pairs ih =>
    have hp : p.1 ∉ keys es := by
      rw [keys_append] at h
      exact fun hmem => (List.nodup_append.1 h).2.2 _ hmem _ List.mem_cons_self rfl
    rw [List.foldl_cons, insert_of_not_mem hp, ih, List.append_assoc, List.singleton_append]
    rwa [List.append_assoc, List.singleton_append]

/-- Pairs with distinct keys stay as they are. -/
theorem ofList_of_nodup {pairs : List (String × α)} (h : (keys pairs).Nodup) :
    ofList pairs = pairs :=
  foldl_insert_of_nodup [] pairs h

theorem mem_of_mem_ofList {pairs : List (String × α)} {e : String × α} (h : e ∈ ofList pairs) :
    e ∈ pairs := by
  refine List.foldlRecOn pairs _ (motive := fun es => ∀ e ∈ es, e ∈ pairs)
    (fun _ h => absurd h List.not_mem_nil) (fun es hes p hp e he => ?_) e h
  rcases mem_of_mem_insert he with rfl | he
  · exact hp
  · exact hes e he

/-! ### What a change leaves alone -/

theorem filter_insert (es : List (String × α)) (key : String) (a : α) :
    (insert es key a).filter (·.1 ≠ key) = es.filter (·.1 ≠ key) := by
  induction es with
  | nil => simp [insert]
  | cons e es ih =>
    obtain ⟨k, b⟩ := e
    by_cases hk : k = key
    · simp [insert, hk]
    · simpa [insert, hk] using ih

theorem filter_erase {es : List (String × α)} (key : String) :
    (erase es key).filter (·.1 ≠ key) = es.filter (·.1 ≠ key) := by
  induction es with
  | nil => rfl
  | cons e es ih =>
    obtain ⟨k, b⟩ := e
    by_cases hk : k = key
    · simp [erase, hk]
    · simpa [erase, hk] using ih

/-- A change leaves the entries of the other keys as they are and in their order. -/
theorem filter_apply (es : List (String × α)) (c : Change α) :
    (c.apply es).filter (·.1 ≠ c.key) = es.filter (·.1 ≠ c.key) := by
  cases c with
  | insert key a => exact filter_insert es key a
  | remove key => exact filter_erase key

/-- Entries are listed in the order of their keys, each with what the key finds. -/
theorem filterMap_keys {es : List (String × α)} (h : (keys es).Nodup) :
    (keys es).filterMap (fun key => (get? es key).map (Prod.mk key)) = es := by
  rw [keys, List.filterMap_map]
  have hentry : ∀ e ∈ es, ((fun key => (get? es key).map (Prod.mk key)) ∘ Prod.fst) e = some e := by
    intro e he
    rw [Function.comp_apply, (get?_eq_some_iff h).2 he]
    rfl
  rw [List.filterMap_congr hentry, List.filterMap_some]

/-! ### Entries with other values -/

section Map

variable {β : Type} (f : α → β)

theorem keys_map (es : List (String × α)) : keys (es.map (Prod.map id f)) = keys es := by
  simp [keys]

theorem get?_map (es : List (String × α)) (key : String) :
    get? (es.map (Prod.map id f)) key = (get? es key).map f := by
  induction es with
  | nil => rfl
  | cons e es ih =>
    obtain ⟨k, a⟩ := e
    simp only [List.map_cons, get?, Prod.map_apply, id_eq, ih]
    split <;> rfl

theorem insert_map (es : List (String × α)) (key : String) (a : α) :
    insert (es.map (Prod.map id f)) key (f a) = (insert es key a).map (Prod.map id f) := by
  induction es with
  | nil => rfl
  | cons e es ih =>
    obtain ⟨k, b⟩ := e
    simp only [List.map_cons, insert, Prod.map_apply, id_eq, ih]
    split <;> rfl

theorem ofList_map (pairs : List (String × α)) :
    ofList (pairs.map (Prod.map id f)) = (ofList pairs).map (Prod.map id f) := by
  induction pairs using List.reverseRecOn with
  | nil => rfl
  | append_singleton pairs p ih =>
    simp only [ofList, List.map_append, List.foldl_append] at ih ⊢
    rw [ih]
    exact insert_map f _ p.1 p.2

end Map

end Parley.Entries
