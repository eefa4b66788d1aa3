/-!
# Entries

Lists of keyed entries, read as maps that remember the order in which keys first arrived. Replacing
the entry of a present key leaves it where it is; a new key goes to the end.

The operations keep keys pairwise distinct (`keys_insert_nodup`, `keys_erase_nodup`).
-/

namespace Parley.Entries

variable {α : Type}

/-- The keys in order. -/
def keys (es : List (String × α)) : List String := es.map Prod.fst

/-- The entry of a key. -/
def get? : List (String × α) → String → Option α
  | [], _ => none
  | (k, a) :: es, key => if k = key then some a else get? es key

/-- Replaces the entry of a present key where it stands; adds an absent key at the end. -/
def insert : List (String × α) → String → α → List (String × α)
  | [], key, b => [(key, b)]
  | (k, a) :: es, key, b => if k = key then (k, b) :: es else (k, a) :: insert es key b

/-- Removes the entry of a key. -/
def erase : List (String × α) → String → List (String × α)
  | [], _ => []
  | (k, a) :: es, key => if k = key then es else (k, a) :: erase es key

/-- `erase` together with the entry that it removed. -/
def remove (es : List (String × α)) (key : String) : Option α × List (String × α) :=
  (get? es key, erase es key)

/-- Inserts the pairs of a list one after the other. -/
def ofList (pairs : List (String × α)) : List (String × α) :=
  pairs.foldl (fun es p => insert es p.1 p.2) []

/-! ### Looking up -/

@[simp] theorem get?_nil (key : String) : get? ([] : List (String × α)) key = none := rfl

/-- The key that was just inserted has the new entry. -/
theorem get?_insert_self (es : List (String × α)) (key : String) (b : α) :
    get? (insert es key b) key = some b := by
  induction es with
  | nil => simp [insert, get?]
  | cons e es ih =>
    obtain ⟨k, a⟩ := e
    by_cases h : k = key
    · simp [insert, get?, h]
    · simp [insert, get?, h, ih]

/-- Inserting leaves the entries of all other keys alone. -/
theorem get?_insert_of_ne (es : List (String × α)) {key k : String} (h : k ≠ key) (b : α) :
    get? (insert es key b) k = get? es k := by
  induction es with
  | nil => simp [insert, get?, Ne.symm h]
  | cons e es ih =>
    obtain ⟨k', a⟩ := e
    by_cases hk : k' = key
    · subst hk
      simp [insert, get?, Ne.symm h]
    · by_cases hk' : k' = k
      · subst hk'
        simp [insert, get?, hk]
      · simp [insert, get?, hk, hk', ih]

/-- The keys are those that have an entry. -/
theorem isSome_get?_iff {es : List (String × α)} {key : String} :
    (get? es key).isSome ↔ key ∈ keys es := by
  induction es with
  | nil => simp [keys, get?]
  | cons e es ih =>
    obtain ⟨k, a⟩ := e
    by_cases h : k = key
    · simp [keys, get?, h]
    · have h' : ¬ key = k := fun e => h e.symm
      simpa [keys, get?, h, h'] using ih

theorem get?_eq_none_iff {es : List (String × α)} {key : String} :
    get? es key = none ↔ key ∉ keys es := by
  rw [← isSome_get?_iff, Option.not_isSome_iff_eq_none]

/-- Where no key stands twice, every entry is the one that its key finds. -/
theorem get?_eq_some_iff {es : List (String × α)} (h : (keys es).Nodup) {key : String} {a : α} :
    get? es key = some a ↔ (key, a) ∈ es := by
  induction es with
  | nil => simp
  | cons e es ih =>
    obtain ⟨k, b⟩ := e
    obtain ⟨hk, hes⟩ := List.nodup_cons.1 h
    rw [get?, List.mem_cons]
    by_cases hkey : k = key
    · subst hkey
      have hnot : (k, a) ∉ es := fun hmem => hk (List.mem_map.2 ⟨_, hmem, rfl⟩)
      simp [hnot, eq_comm]
    · rw [if_neg hkey, ih hes]
      simp [Ne.symm hkey]

/-- What a key finds is one of the entries. -/
theorem mem_of_get? {es : List (String × α)} {key : String} {a : α} (h : get? es key = some a) :
    (key, a) ∈ es := by
  induction es with
  | nil => cases h
  | cons e es ih =>
    obtain ⟨k, b⟩ := e
    rw [get?] at h
    split at h
    · rename_i hk
      cases h
      exact hk ▸ List.mem_cons_self
    · exact List.mem_cons_of_mem _ (ih h)

/-- The order of the entries does not matter to what is found. -/
theorem get?_perm {es es' : List (String × α)} (h : (keys es).Nodup) (hp : es.Perm es')
    (key : String) : get? es' key = get? es key := by
  have h' : (keys es').Nodup := (hp.map Prod.fst).nodup_iff.1 h
  ext a
  rw [get?_eq_some_iff h, get?_eq_some_iff h', hp.mem_iff]

/-- Removing leaves the entries of all other keys alone. -/
theorem get?_erase_of_ne (es : List (String × α)) {key k : String} (h : k ≠ key) :
    get? (erase es key) k = get? es k := by
  induction es with
  | nil => rfl
  | cons e es ih =>
    obtain ⟨k', a⟩ := e
    by_cases hk' : k' = key
    · subst hk'
      simp [erase, get?, Ne.symm h]
    · simp [erase, get?, hk', ih]

/-- A removed key is found no more. -/
theorem get?_erase_self {es : List (String × α)} (h : (keys es).Nodup) (key : String) :
    get? (erase es key) key = none := by
  induction es with
  | nil => rfl
  | cons e es ih =>
    obtain ⟨k, a⟩ := e
    obtain ⟨hk, hes⟩ := List.nodup_cons.1 h
    by_cases hkey : k = key
    · subst hkey
      simpa [erase] using get?_eq_none_iff.2 hk
    · simp [erase, get?, hkey, ih hes]

/-- Behind entries of other keys a key is found where it stands. -/
theorem get?_append_cons {es : List (String × α)} {key : String} (h : key ∉ keys es) (a : α)
    (es' : List (String × α)) : get? (es ++ (key, a) :: es') key = some a := by
  induction es with
  | nil => simp [get?]
  | cons e es ih =>
    obtain ⟨hne, hes⟩ := not_or.1 fun h' => h (List.mem_cons.2 h')
    rw [List.cons_append, get?, if_neg (Ne.symm hne), ih hes]

/-- An absent key goes to the end. -/
theorem insert_of_not_mem {es : List (String × α)} {key : String} (h : key ∉ keys es) (a : α) :
    insert es key a = es ++ [(key, a)] := by
  induction es with
  | nil => rfl
  | cons e es ih =>
    obtain ⟨hne, hes⟩ := not_or.1 fun h' => h (List.mem_cons.2 h')
    rw [insert, if_neg (Ne.symm hne), ih hes, List.cons_append]

/-! ### Keys -/

theorem keys_append (es es' : List (String × α)) : keys (es ++ es') = keys es ++ keys es' :=
  List.map_append

theorem mem_keys_insert {es : List (String × α)} {key k : String} {b : α} :
    k ∈ keys (insert es key b) ↔ k = key ∨ k ∈ keys es := by
  induction es with
  | nil => simp [keys, insert]
  | cons e es ih =>
    obtain ⟨k', a⟩ := e
    by_cases h : k' = key
    · subst h; simp [keys, insert]
    · simp only [keys, insert, h, if_false, List.map_cons, List.mem_cons] at ih ⊢
      rw [ih]; grind

/-- Inserting brings in no entry but the one of the key. -/
theorem mem_of_mem_insert {es : List (String × α)} {key : String} {b : α} {e : String × α}
    (h : e ∈ insert es key b) : e = (key, b) ∨ e ∈ es := by
  induction es with
  | nil => exact Or.inl (List.mem_singleton.1 h)
  | cons e' es ih =>
    rw [insert] at h
    split at h
    · rename_i hk
      subst hk
      exact (List.mem_cons.1 h).imp_right (List.mem_cons_of_mem _)
    · rcases List.mem_cons.1 h with rfl | h
      · exact Or.inr List.mem_cons_self
      · exact (ih h).imp_right (List.mem_cons_of_mem _)

theorem keys_insert_nodup {es : List (String × α)} (h : (keys es).Nodup) (key : String) (b : α) :
    (keys (insert es key b)).Nodup := by
  induction es with
  | nil => simp [keys, insert]
  | cons e es ih =>
    obtain ⟨k, a⟩ := e
    have hk : k ∉ keys es := (List.nodup_cons.1 h).1
    have hes : (keys es).Nodup := (List.nodup_cons.1 h).2
    by_cases hkey : k = key
    · subst hkey; simpa [insert, keys] using h
    · have : k ∉ keys (insert es key b) := by
        rw [mem_keys_insert]; exact fun h' => h'.elim hkey hk
      simpa [insert, hkey, keys] using ⟨by simpa [keys] using this, by simpa [keys] using ih hes⟩

/-- A present key keeps its place. -/
theorem keys_insert_of_mem {es : List (String × α)} {key : String} (h : key ∈ keys es) (a : α) :
    keys (insert es key a) = keys es := by
  induction es with
  | nil => cases h
  | cons e es ih =>
    obtain ⟨k, b⟩ := e
    rw [insert]
    split
    · rfl
    · rename_i hk
      have hmem : key ∈ keys es := (List.mem_cons.1 h).resolve_left (Ne.symm hk)
      exact congrArg (k :: ·) (ih hmem)

/-- An absent key goes to the end. -/
theorem keys_insert_of_not_mem {es : List (String × α)} {key : String} (h : key ∉ keys es) (a : α) :
    keys (insert es key a) = keys es ++ [key] := by
  rw [insert_of_not_mem h, keys_append]
  rfl

theorem keys_erase_sublist (es : List (String × α)) (key : String) :
    (keys (erase es key)).Sublist (keys es) := by
  induction es with
  | nil => simp [keys, erase]
  | cons e es ih =>
    obtain ⟨k, a⟩ := e
    by_cases h : k = key
    · simp [keys, erase, h]
    · simpa [keys, erase, h] using ih

theorem keys_erase_nodup {es : List (String × α)} (h : (keys es).Nodup) (key : String) :
    (keys (erase es key)).Nodup :=
  h.sublist (keys_erase_sublist es key)

end Parley.Entries
