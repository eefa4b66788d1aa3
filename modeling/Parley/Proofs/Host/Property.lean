import Parley.Proofs.Entries
import Parley.Proofs.Host.Blobless
import Parley.Record

/-!
# Properties and records

Records, objects, and the properties of values on either host are insertion-ordered maps
(`Parley.insertion_ordered`): whatever was done to them, they remember it in the sense of
`Entries.Remembers`. On a host a property may be refused, and this is as if nobody had tried to set
it (`Host.assign_refused`, `Host.Blobless.assign_refused`).
-/

namespace Parley

/-! ### Records -/

namespace Record

variable {α : Type}

theorem entries_foldl_insert (pairs : List (String × α)) (r : Record α) :
    (pairs.foldl (fun r p => r.insert p.1 p.2) r).entries =
      pairs.foldl (fun es p => Entries.insert es p.1 p.2) r.entries := by
  induction pairs generalizing r with
  | nil => rfl
  | cons p pairs ih => exact ih (r.insert p.1 p.2)

theorem entries_ofList (pairs : List (String × α)) :
    (ofList pairs).entries = Entries.ofList pairs :=
  entries_foldl_insert pairs empty

/-- The record that a list of pairs makes, after further insertions. -/
def after (pairs more : List (String × α)) : Record α :=
  more.foldl (fun r p => (r.replace p.1 p.2).2) (ofList pairs)

theorem after_eq (pairs more : List (String × α)) : after pairs more = ofList (pairs ++ more) := by
  rw [ofList, List.foldl_append]
  rfl

/-- A record remembers what was inserted. -/
theorem remembers_after (pairs more : List (String × α)) :
    Entries.Remembers (Entries.insertions (pairs ++ more)) (after pairs more).keys
      (after pairs more).get? := by
  have h := Entries.remembers_ofList (pairs ++ more)
  rw [← entries_ofList, ← after_eq] at h
  exact h

end Record

/-! ### Properties -/

namespace Host

/-- How setting a property of a value ended, and the value that is there afterwards. -/
def assign {V : Type} [Host V] (v : V) (key : String) (x : V) : Except HostError Unit × V :=
  match Host.set v key x with
  | .ok w => (.ok (), w)
  | .error e => (.error e, v)

/-- The value that is there after some properties were set, or refused. -/
def assignAll {V : Type} [Host V] (v : V) (sets : List (String × V)) : V :=
  sets.foldl (fun v p => (assign v p.1 p.2).2) v

/-- Objects take every property. -/
theorem assign_object (es : List (String × Value)) (key : String) (x : Value) :
    assign (Value.object es) key x = (.ok (), .object (Entries.insert es key x)) := rfl

/-- Nothing else takes one. -/
theorem assign_refused {v : Value} (hv : Host.isObject v = false) (key : String) (x : Value) :
    assign v key x = (.error (.notAnObject key v.typeName), v) := by
  cases v with
  | object es => cases hv
  | _ => rfl

theorem assignAll_object (es : List (String × Value)) (sets : List (String × Value)) :
    assignAll (Value.object es) sets =
      .object (sets.foldl (fun es p => Entries.insert es p.1 p.2) es) := by
  induction sets generalizing es with
  | nil => rfl
  | cons p sets ih => exact ih (Entries.insert es p.1 p.2)

/-- An object remembers the properties that were set. -/
theorem remembers_assignAll (pairs sets : List (String × Value)) :
    Entries.Remembers (Entries.insertions (pairs ++ sets))
      (Host.keys (assignAll (Value.object (Entries.ofList pairs)) sets))
      (Host.get? (assignAll (Value.object (Entries.ofList pairs)) sets)) := by
  have h := Entries.remembers_ofList (pairs ++ sets)
  rw [Entries.ofList, List.foldl_append] at h
  rw [assignAll_object]
  exact h

namespace Blobless

/-- Objects take every property that is not binary. -/
theorem assign_object (es : List (String × Value)) (key : String) {x : Blobless}
    (hx : x.value.blob? = none) :
    assign (⟨.object es⟩ : Blobless) key x =
      (.ok (), ⟨.object (Entries.insert es key x.value)⟩) := by
  rw [assign, set_object es key x.value, hx]
  rfl

theorem assign_blob (v : Blobless) (key : String) {x : Blobless} (hx : x.value.blob?.isSome) :
    assign v key x = (.error (.rejected ("binary property " ++ key)), v) := by
  have hset : Host.set v key x = .error (.rejected ("binary property " ++ key)) := if_pos hx
  rw [assign, hset]

/-- Binary properties are refused, and all properties of what is no object. -/
theorem assign_refused {v x : Blobless} (h : Host.isObject v = false ∨ (Host.blob? x).isSome)
    (key : String) : ∃ e, assign v key x = (.error e, v) := by
  by_cases hx : x.value.blob?.isSome
  · exact ⟨_, assign_blob v key hx⟩
  · have hv : Host.isObject v.value = false := h.resolve_right hx
    have hset : Host.set v key x = (v.value.set key x.value).map Blobless.mk := if_neg hx
    rw [assign, hset]
    obtain ⟨w⟩ := v
    cases w with
    | object es => cases hv
    | _ => exact ⟨_, rfl⟩

theorem assignAll_object (es : List (String × Value)) (sets : List (String × Blobless)) :
    assignAll (⟨.object es⟩ : Blobless) sets =
      ⟨.object (((sets.filter fun p => p.2.value.blob?.isNone).map (Prod.map id value)).foldl
        (fun es p => Entries.insert es p.1 p.2) es)⟩ := by
  induction sets generalizing es with
  | nil => rfl
  | cons p sets ih =>
    rw [assignAll, List.foldl_cons]
    cases hx : p.2.value.blob? with
    | none =>
      rw [assign_object es p.1 hx, List.filter_cons_of_pos (by rw [hx]; rfl)]
      exact ih _
    | some b =>
      rw [assign_blob _ p.1 (by rw [hx]; rfl), List.filter_cons_of_neg (by rw [hx]; simp)]
      exact ih es

/-- An object remembers the properties that were set and are not binary. -/
theorem remembers_assignAll (pairs : List (String × Value)) (sets : List (String × Blobless)) :
    Entries.Remembers
      (Entries.insertions (pairs.map (Prod.map id Blobless.mk) ++
        sets.filter fun p => p.2.value.blob?.isNone))
      (Host.keys (assignAll (⟨.object (Entries.ofList pairs)⟩ : Blobless) sets))
      (Host.get? (assignAll (⟨.object (Entries.ofList pairs)⟩ : Blobless) sets)) := by
  rw [assignAll_object]
  generalize hkept : sets.filter (fun p => p.2.value.blob?.isNone) = kept
  have hwrap : (kept.map (Prod.map id value)).map (Prod.map id Blobless.mk) = kept := by
    rw [List.map_map]
    exact List.map_id kept
  have h := Entries.remembers_ofList
    ((pairs ++ kept.map (Prod.map id value)).map (Prod.map id Blobless.mk))
  rw [Entries.ofList_map, Entries.keys_map, List.map_append, hwrap, Entries.ofList,
    List.foldl_append] at h
  have hget : ∀ es : List (String × Value),
      Entries.get? (es.map (Prod.map id Blobless.mk)) = Host.get? (⟨.object es⟩ : Blobless) := by
    intro es
    funext key
    exact Entries.get?_map Blobless.mk es key
  rw [hget] at h
  exact h

end Blobless

end Host

open Entries

/-- Records, objects, and objects as the hosts present them are insertion-ordered maps: from any
list of pairs on, and after any changes, keys find what was inserted last, stand in the order of
arrival, and list the entries in this order. What an insertion replaces and what a removal takes out
is the latest entry. A change leaves the entries of other keys and their order alone, and a refused
property leaves the value alone. -/
theorem insertion_ordered :
    -- objects
    (∀ (pairs : List (String × Value)) (changes : List (Change Value)),
      Remembers (insertions pairs ++ changes) (keys (Entries.after pairs changes))
        (Entries.get? (Entries.after pairs changes)) ∧
      (keys (Entries.after pairs changes)).filterMap
        (fun key => (Entries.get? (Entries.after pairs changes) key).map (Prod.mk key)) =
          Entries.after pairs changes ∧
      ∀ key x, (Entries.remove (Entries.after pairs changes) key).1 = some x ↔
        Latest (insertions pairs ++ changes) key x) ∧
    -- records
    (∀ (α : Type) (pairs more : List (String × α)),
      Remembers (insertions (pairs ++ more)) (Record.after pairs more).keys
        (Record.after pairs more).get? ∧
      (Record.after pairs more).keys.filterMap
        (fun key => ((Record.after pairs more).get? key).map (Prod.mk key)) =
          (Record.after pairs more).entries ∧
      ∀ key a b, ((Record.after pairs more).replace key a).1 = some b ↔
        Latest (insertions (pairs ++ more)) key b) ∧
    -- properties of values, and of values on the host that refuses binary ones
    (∀ pairs sets : List (String × Value),
      Remembers (insertions (pairs ++ sets))
        (Host.keys (Host.assignAll (Value.object (ofList pairs)) sets))
        (Host.get? (Host.assignAll (Value.object (ofList pairs)) sets))) ∧
    (∀ (pairs : List (String × Value)) (sets : List (String × Host.Blobless)),
      Remembers
        (insertions (pairs.map (Prod.map id Host.Blobless.mk) ++
          sets.filter fun p => p.2.value.blob?.isNone))
        (Host.keys (Host.assignAll (⟨.object (ofList pairs)⟩ : Host.Blobless) sets))
        (Host.get? (Host.assignAll (⟨.object (ofList pairs)⟩ : Host.Blobless) sets))) ∧
    -- what a change, or an attempt at one, leaves alone
    (∀ (α : Type) (es : List (String × α)) (c : Change α),
      (c.apply es).filter (·.1 ≠ c.key) = es.filter (·.1 ≠ c.key)) ∧
    (∀ (es : List (String × Value)) (key : String) (x : Value),
      Host.assign (Value.object es) key x = (.ok (), .object ((Change.insert key x).apply es))) ∧
    (∀ (es : List (String × Value)) (key : String) (x : Host.Blobless), x.value.blob? = none →
      Host.assign (⟨.object es⟩ : Host.Blobless) key x =
        (.ok (), ⟨.object ((Change.insert key x.value).apply es)⟩)) ∧
    (∀ (v : Value) (key : String) (x : Value), Host.isObject v = false →
      ∃ e, Host.assign v key x = (.error e, v)) ∧
    ∀ (v : Host.Blobless) (key : String) (x : Host.Blobless),
      Host.isObject v = false ∨ (Host.blob? x).isSome →
        ∃ e, Host.assign v key x = (.error e, v) := by
  refine ⟨?_, ?_, Host.remembers_assignAll, Host.Blobless.remembers_assignAll, ?_,
    Host.assign_object, ?_, ?_, ?_⟩
  · intro pairs changes
    have h := remembers_after pairs changes
    exact ⟨h, filterMap_keys h.distinct, h.get?_eq_some⟩
  · intro α pairs more
    have h := Record.remembers_after pairs more
    exact ⟨h, filterMap_keys h.distinct, fun key _ => h.get?_eq_some key⟩
  · intro α es c
    exact filter_apply es c
  · intro es key x hx
    exact Host.Blobless.assign_object es key hx
  · intro v key x hv
    exact ⟨_, Host.assign_refused hv key x⟩
  · intro v key x h
    exact Host.Blobless.assign_refused h key

/-- Null takes no property, and an object takes null but, on the host without binary properties, no
binary object. -/
theorem insertion_ordered_refused :
    Host.isObject Value.null = false ∧
      (∃ e, Host.assign Value.null "key" Value.null = (.error e, Value.null)) ∧
      (Host.blob? (⟨.blob ⟨.buffer, []⟩⟩ : Host.Blobless)).isSome ∧
      (∃ e, Host.assign (⟨.object []⟩ : Host.Blobless) "key" ⟨.blob ⟨.buffer, []⟩⟩ =
        (.error e, ⟨.object []⟩)) ∧
      Value.null.blob? = none ∧
      Host.assign (⟨.object []⟩ : Host.Blobless) "key" ⟨.null⟩ =
        (.ok (), ⟨.object [("key", .null)]⟩) := by
  obtain ⟨-, -, -, -, -, -, hset, hvalue, hblobless⟩ := insertion_ordered
  refine ⟨rfl, hvalue _ _ _ rfl, rfl, hblobless _ _ _ (.inr rfl), rfl, ?_⟩
  exact hset [] "key" ⟨.null⟩ rfl

end Parley
