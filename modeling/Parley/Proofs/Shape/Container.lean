import Parley.Proofs.Entries
import Parley.Proofs.Shape.Normal
import Parley.Proofs.Shape.Result

/-!
# Containers, component by component

A container is read as its components are: lists by index, records by key and structs by field
(`Shape.decode_components`). Reading goes on as long as the components can be read, and the first that
cannot (`Codec.Reaches`) gives the error, under its index, key or field. A field that is absent is
missing instead.
-/

namespace Parley

namespace Codec

variable {α V : Type} [Host V]

/-- Keys that go one by one with entries are the keys of the entries. -/
theorem keys_of_forall₂ {keys : List String} {es : List (String × α)} {P : String × α → Prop}
    (h : List.Forall₂ (fun key e => key = e.1 ∧ P e) keys es) :
    keys = Entries.keys es ∧ ∀ e ∈ es, P e := by
  induction h with
  | nil => exact ⟨rfl, fun e he => absurd he List.not_mem_nil⟩
  | @cons key e keys es he _ ih =>
    obtain ⟨rfl, he⟩ := he
    obtain ⟨rfl, hes⟩ := ih
    exact ⟨rfl, List.forall_mem_cons.2 ⟨he, hes⟩⟩

/-- What was read of distinct keys is the record of what their properties were read as. -/
theorem get?_of_readEntries {decode : V → Except DecodeError α} {v : V} {keys : List String}
    {r : Record α} (hn : keys.Nodup) (h : readEntries decode v keys .empty = .ok r) :
    keys = r.keys ∧ ∀ key a, r.get? key = some a → decode (Host.property v key) = .ok a := by
  have hn' : ((Record.empty : Record α).keys ++ keys).Nodup := hn
  obtain ⟨es, hes, hread⟩ := entries_of_readEntries hn' h
  have hes : r.entries = es := hes
  have hpairs : List.Forall₂
      (fun key (e : String × α) => key = e.1 ∧ decode (Host.property v e.1) = .ok e.2) keys es := by
    apply hread.imp
    rintro key e ⟨rfl, he⟩
    exact ⟨rfl, he⟩
  obtain ⟨hkeys, hentries⟩ := keys_of_forall₂ hpairs
  rw [← hes] at hkeys hentries
  refine ⟨hkeys, ?_⟩
  intro key a ha
  exact hentries _ ((Entries.get?_eq_some_iff r.distinct).1 ha)

end Codec

theorem Record.exists_get? {α : Type} {r : Record α} {key : String} (h : key ∈ r.keys) :
    ∃ a, r.get? key = some a :=
  Option.isSome_iff_exists.1 (Entries.isSome_get?_iff.2 h)

/-- A record is determined by its keys in order and by what they find. -/
theorem Record.ext_get? {α : Type} {r r' : Record α} (hkeys : r.keys = r'.keys)
    (hget : ∀ key ∈ r.keys, r.get? key = r'.get? key) : r = r' := by
  apply Record.eq_of_entries
  rw [← Entries.filterMap_keys r.distinct, ← Entries.filterMap_keys r'.distinct]
  have hkeys : Entries.keys r.entries = Entries.keys r'.entries := hkeys
  rw [← hkeys]
  apply List.filterMap_congr
  intro key hkey
  exact congrArg (Option.map (Prod.mk key)) (hget key hkey)

theorem forall₂_iff_getElem? {α β : Type} {R : α → β → Prop} {as : List α} {bs : List β} :
    List.Forall₂ R as bs ↔ as.length = bs.length ∧
      ∀ (i : Nat) a b, as[i]? = some a → bs[i]? = some b → R a b := by
  rw [List.forall₂_iff_get]
  apply and_congr_right
  intro _
  constructor
  · intro h i a b ha hb
    obtain ⟨hi, rfl⟩ := List.getElem?_eq_some_iff.1 ha
    obtain ⟨hj, rfl⟩ := List.getElem?_eq_some_iff.1 hb
    exact h i hi hj
  · intro h i hi hj
    exact h i _ _ (List.getElem?_eq_getElem hi) (List.getElem?_eq_getElem hj)

namespace Shape

open Codec

/-! ### Fields of dynamic values -/

/-- The value can be read as the shape. -/
def Decodes (s : Shape) (v : Value) : Prop := ∃ x, s.decode v = .ok x

theorem not_decodes_iff {s : Shape} {v : Value} : ¬s.Decodes v ↔ ∃ e, s.decode v = .error e := by
  cases h : s.decode v with
  | ok x => simp [Decodes, h]
  | error e => simp [Decodes, h]

/-- A shape that looks as if it took undefined does take it. -/
theorem decodes_undefined_iff {s : Shape} :
    s.Decodes .undefined ↔ s.probe Value.undefined = true := by
  constructor
  · rintro ⟨x, hx⟩
    exact probe_of_decode hx
  · intro hp
    by_contra hnot
    obtain ⟨e, he⟩ := not_decodes_iff.1 hnot
    -- the error would be inside an element, and undefined has none
    obtain ⟨fault, rfl, -⟩ := fails_undefined (fails_of_decode he)
    obtain ⟨g, hg, -⟩ := (fails_of_decode he).inside hp
    exact absurd hg List.not_mem_nil

section Fields

variable {s : Shape} {v : Value} {wire : String}

theorem readField_eq_ok_iff {x : s.Val} :
    readField wire s.probe s.decode v = .ok x ↔ s.decode (Host.property v wire) = .ok x :=
  readField_eq_ok fun _ ha => probe_of_decode ha

/-- A field fails as its property does; an absent property is missing. -/
theorem readField_eq_error_iff {e : DecodeError} :
    readField wire s.probe s.decode v = .error e ↔
      ∃ e', s.decode (Host.property v wire) = .error e' ∧
        e = if wire ∈ Host.keys v then e'.under (.field wire) else .missing wire := by
  have hget : Host.get? v wire = v.get? wire := rfl
  by_cases hkey : wire ∈ Host.keys v
  · obtain ⟨x, hx⟩ := Option.ne_none_iff_exists'.1 fun h => Value.get?_eq_none.1 h hkey
    simp only [readField, Host.property, hget, hx, Option.getD_some, if_pos hkey]
    rw [Except.mapError_eq_error]
    simp only [eq_comm]
  · have hnone := Value.get?_eq_none.2 hkey
    have hundefined : (Host.undefined : Value) = .undefined := rfl
    simp only [readField, Host.property, hget, hnone, Option.getD_none, if_neg hkey, hundefined]
    cases hp : s.probe Value.undefined with
    | true =>
      obtain ⟨x, hx⟩ := decodes_undefined_iff.2 hp
      simp [hx, Except.mapError]
    | false =>
      have hnot : ¬s.Decodes .undefined := by
        rw [decodes_undefined_iff, hp]
        exact Bool.false_ne_true
      obtain ⟨e', he'⟩ := not_decodes_iff.1 hnot
      simp [he', eq_comm]

end Fields

/-! ### Containers -/

section Containers

variable {part : Shape} {name : String} {fields : List (Label × Shape)} {v : Value}

theorem decode_list_eq_ok_iff {xs : List part.Val} :
    (list part).decode v = .ok xs ↔ ∃ items, v = .array items ∧ items.length = xs.length ∧
      ∀ (i : Nat) a x, items[i]? = some a → xs[i]? = some x → part.decode a = .ok x := by
  simp only [← forall₂_iff_getElem?]
  constructor
  · exact decode_list_eq_ok
  · rintro ⟨items, rfl, h⟩
    exact eachItem_eq_ok.2 h

theorem decode_list_eq_error_iff {items : List Value} {e : DecodeError} :
    (list part).decode (Value.array items) = .error e ↔ ∃ i a, Reaches part.Decodes items i a ∧
      ∃ e', part.decode a = .error e' ∧ e = e'.under (.index i) := by
  have h : eachItem DecodeError.under (part.decode (V := Value)) 0 items = .error e ↔ _ :=
    eachItem_eq_error_iff
  simp only [Nat.zero_add] at h
  exact h

theorem decode_record_eq_error_iff (hv : Host.isObject v = true) {e : DecodeError} :
    (record part).decode v = .error e ↔
      ∃ i key, Reaches (fun k => part.Decodes (Host.property v k)) (Host.keys v) i key ∧
        ∃ e', part.decode (Host.property v key) = .error e' ∧ e = e'.under (.key key) := by
  obtain ⟨es, rfl⟩ := Value.host_isObject_iff.1 hv
  exact readEntries_eq_error_iff

/-- A record is read from an object whose keys are distinct, key by key. -/
theorem decode_record_eq_ok_iff (hn : (Host.keys v).Nodup) {r : Record part.Val} :
    (record part).decode v = .ok r ↔ Host.isObject v = true ∧ Host.keys v = r.keys ∧
      ∀ key a, r.get? key = some a → part.decode (Host.property v key) = .ok a := by
  constructor
  · intro h
    obtain ⟨es, rfl, hread⟩ := decode_record_eq_ok h
    exact ⟨rfl, get?_of_readEntries hn hread⟩
  · rintro ⟨hv, hkeys, hget⟩
    cases h : (record part).decode v with
    | ok r' =>
      obtain ⟨es, rfl, hread⟩ := decode_record_eq_ok h
      obtain ⟨hkeys', hget'⟩ := get?_of_readEntries hn hread
      have hsame : r' = r := by
        apply Record.ext_get? (hkeys'.symm.trans hkeys)
        intro key hkey
        obtain ⟨a', ha'⟩ := Record.exists_get? hkey
        obtain ⟨a, ha⟩ := Record.exists_get? (hkeys ▸ hkeys'.symm ▸ hkey : key ∈ r.keys)
        have hread := hget key a ha
        rw [hget' key a' ha'] at hread
        rw [ha', ha, Except.ok.inj hread]
      rw [hsame]
    | error e =>
      -- every property can be read, so that no key can be the first that cannot
      obtain ⟨i, key, ⟨hkey, -⟩, e', he', -⟩ := (decode_record_eq_error_iff hv).1 h
      have hmem : key ∈ r.keys := hkeys ▸ List.mem_of_getElem? hkey
      obtain ⟨a, ha⟩ := Record.exists_get? hmem
      rw [hget key a ha] at he'
      cases he'

theorem decode_struct_eq_ok_iff {xs : FieldVals fields} :
    (struct name fields).decode v = .ok xs ↔ Host.isObject v = true ∧
      ∀ p ∈ fieldList fields xs, p.1.2.decode (Host.property v p.1.1.wire) = .ok p.2 := by
  constructor
  · intro h
    obtain ⟨es, rfl, hfields⟩ := decode_struct_eq_ok h
    refine ⟨rfl, ?_⟩
    intro p hp
    exact readField_eq_ok_iff.1 (decodeFields_eq_ok_iff.1 hfields p hp)
  · rintro ⟨hv, hfields⟩
    obtain ⟨es, rfl⟩ := Value.host_isObject_iff.1 hv
    apply decodeFields_eq_ok_iff.2
    intro p hp
    exact readField_eq_ok_iff.2 (hfields p hp)

theorem decode_struct_eq_error_iff (hv : Host.isObject v = true) {e : DecodeError} :
    (struct name fields).decode v = .error e ↔
      ∃ i f, Reaches (fun g => g.2.Decodes (Host.property v g.1.wire)) fields i f ∧
        ∃ e', f.2.decode (Host.property v f.1.wire) = .error e' ∧
          e = if f.1.wire ∈ Host.keys v then e'.under (.field f.1.wire)
            else .missing f.1.wire := by
  obtain ⟨es, rfl⟩ := Value.host_isObject_iff.1 hv
  have h : decodeFields fields (Value.object es) = .error e ↔ _ := decodeFields_eq_error_iff
  simp only [readField_eq_ok_iff, readField_eq_error_iff] at h
  exact h

/-- A struct can be read if its fields can, each from its property or from undefined. -/
theorem decodes_struct_iff : (struct name fields).Decodes v ↔
    Host.isObject v = true ∧ ∀ f ∈ fields, f.2.Decodes (Host.property v f.1.wire) := by
  constructor
  · rintro ⟨xs, h⟩
    obtain ⟨hv, hfields⟩ := decode_struct_eq_ok_iff.1 h
    refine ⟨hv, ?_⟩
    intro f hf
    obtain ⟨x, hx⟩ := exists_mem_fieldList xs hf
    exact ⟨x, hfields _ hx⟩
  · rintro ⟨hv, hfields⟩
    by_contra hnot
    obtain ⟨e, he⟩ := not_decodes_iff.1 hnot
    obtain ⟨i, f, ⟨hf, -⟩, e', he', -⟩ := (decode_struct_eq_error_iff hv).1 he
    exact not_decodes_iff.2 ⟨e', he'⟩ (hfields f (List.mem_of_getElem? hf))

end Containers

/-- Containers are read component by component. A list is read from an array of as many items, a
record from an object with the same keys in order (no object repeats one), and a struct from any
object, where each component is what its item, property or field is read as. Otherwise the error is
that of the first component that cannot be read, under its index, key or field, or says that the
field is missing where there is no such property; all components in front of it can be read. -/
theorem decode_components (part : Shape) (name : String) (fields : List (Label × Shape))
    (v : Value) :
    (∀ xs : List part.Val, (list part).decode v = .ok xs ↔
      ∃ items, v = .array items ∧ items.length = xs.length ∧
        ∀ (i : Nat) a x, items[i]? = some a → xs[i]? = some x → part.decode a = .ok x) ∧
    ((Host.keys v).Nodup → ∀ r : Record part.Val, (record part).decode v = .ok r ↔
      Host.isObject v = true ∧ Host.keys v = r.keys ∧
        ∀ key a, r.get? key = some a → part.decode (Host.property v key) = .ok a) ∧
    (∀ xs : FieldVals fields, (struct name fields).decode v = .ok xs ↔
      Host.isObject v = true ∧
        ∀ p ∈ fieldList fields xs, p.1.2.decode (Host.property v p.1.1.wire) = .ok p.2) ∧
    ((struct name fields).Decodes v ↔
      Host.isObject v = true ∧ ∀ f ∈ fields, f.2.Decodes (Host.property v f.1.wire)) ∧
    (∀ items e, v = .array items → ((list part).decode v = .error e ↔
      ∃ i a, Reaches part.Decodes items i a ∧
        ∃ e', part.decode a = .error e' ∧ e = e'.under (.index i))) ∧
    (Host.isObject v = true → ∀ e, (record part).decode v = .error e ↔
      ∃ i key, Reaches (fun k => part.Decodes (Host.property v k)) (Host.keys v) i key ∧
        ∃ e', part.decode (Host.property v key) = .error e' ∧ e = e'.under (.key key)) ∧
    (Host.isObject v = true → ∀ e, (struct name fields).decode v = .error e ↔
      ∃ i f, Reaches (fun g => g.2.Decodes (Host.property v g.1.wire)) fields i f ∧
        ∃ e', f.2.decode (Host.property v f.1.wire) = .error e' ∧
          e = if f.1.wire ∈ Host.keys v then e'.under (.field f.1.wire)
            else .missing f.1.wire) := by
  refine ⟨fun _ => decode_list_eq_ok_iff, fun hn _ => decode_record_eq_ok_iff hn,
    fun _ => decode_struct_eq_ok_iff, decodes_struct_iff, ?_, ?_, ?_⟩
  · rintro items e rfl
    exact decode_list_eq_error_iff
  · intro hv e
    exact decode_record_eq_error_iff hv
  · intro hv e
    exact decode_struct_eq_error_iff hv

/-- The second property is no truth value, and a third one is not there. -/
theorem decode_components_second :
    (Host.keys (Value.object [("a", .bool true)])).Nodup ∧
      (record bool).decode (Value.object [("a", .bool true)]) = .ok (Record.ofList [("a", true)]) ∧
      (record bool).decode (Value.object [("a", .bool true), ("b", .null)]) =
        .error ((mismatch "boolean" Value.null).under (.key "b")) ∧
      (struct "Pair" [(⟨"a", "a"⟩, bool), (⟨"c", "c"⟩, bool)]).decode
        (Value.object [("a", .bool true), ("b", .null)]) = .error (.missing "c") := by
  obtain ⟨-, hread, -⟩ := decode_components bool "Pair" [] (.object [("a", .bool true)])
  obtain ⟨-, -, -, -, -, hrecord, hstruct⟩ := decode_components bool "Pair"
    [(⟨"a", "a"⟩, bool), (⟨"c", "c"⟩, bool)] (.object [("a", .bool true), ("b", .null)])
  have hn : (Host.keys (Value.object [("a", .bool true)])).Nodup := by decide
  refine ⟨hn, (hread hn _).2 ⟨rfl, rfl, ?_⟩, (hrecord rfl _).2 ?_, (hstruct rfl _).2 ?_⟩
  · intro key a ha
    cases List.mem_singleton.1 (Entries.mem_of_get? ha)
    rfl
  · refine ⟨1, "b", ⟨rfl, ?_⟩, _, rfl, rfl⟩
    intro k hk
    cases List.mem_singleton.1 hk
    exact ⟨true, rfl⟩
  · refine ⟨1, (⟨"c", "c"⟩, bool), ⟨rfl, ?_⟩, _, rfl, rfl⟩
    intro f hf
    cases List.mem_singleton.1 hf
    exact ⟨true, rfl⟩

end Shape

end Parley
