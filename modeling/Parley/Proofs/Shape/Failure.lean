import Parley.Proofs.Shape.Codec
import Parley.Proofs.Shape.Induction

/-!
# How decoding fails

`Shape.Fails s v e` lists the ways in which reading `v` as `s` can give the error `e`: a fault of the
value itself, which the probe sees as well, or a failure further in, with one more step in front of
its path. `fails_of_decode` says that there are no others, so that what holds of every error is proved
by going through the ways once.
-/

namespace Parley

/-- What a fault reports of the value at which it arose. A missing field reports nothing: there is no
value. -/
def DecodeFault.Describes : DecodeFault → Value → Prop
  | mismatch _ found, w => found = w.typeName
  | missingField, _ => False
  | literal _ found, w => found = w.string?.getD w.typeName
  | noVariant _ found, w => found = w.typeName
  | notInteger value, w => w.number? = some value
  | outOfRange value _, w => w.number? = some value

namespace Shape

open Codec

/-- The ways in which reading a value as a shape fails. -/
inductive Fails : Shape → Value → DecodeError → Prop
  /-- The value itself does not look like the shape, and the fault says what it is. -/
  | here {s : Shape} {v : Value} {fault : DecodeFault} :
      s.probe v = false → fault.Describes v → Fails s v (.here fault)
  | content {s : Shape} {v : Value} {e : DecodeError} :
      v.isUndefined = false → Fails s v e → Fails (option s) v e
  | item {s : Shape} {items : List Value} {n : Nat} {w : Value} {e : DecodeError} :
      items[n]? = some w → Fails s w e → Fails (list s) (.array items) (e.under (.index n))
  | entry {s : Shape} {entries : List (String × Value)} {key : String} {w : Value}
      {e : DecodeError} :
      Entries.get? entries key = some w → Fails s w e →
        Fails (record s) (.object entries) (e.under (.key key))
  | field {name : String} {fields : List (Label × Shape)} {f : Label × Shape}
      {entries : List (String × Value)} {e : DecodeError} :
      f ∈ fields → Fails f.2 (Host.property (Value.object entries) f.1.wire) e →
        Fails (struct name fields) (.object entries) (e.under (.field f.1.wire))
  /-- The field does not take undefined, and there is no such property. -/
  | missing {name : String} {fields : List (Label × Shape)} {f : Label × Shape}
      {entries : List (String × Value)} :
      f ∈ fields → Entries.get? entries f.1.wire = none → f.2.probe Value.undefined = false →
        Fails (struct name fields) (.object entries) (.missing f.1.wire)
  | candidate {name : String} {variants : List (String × Shape)} {c : String × Shape}
      {v : Value} {e : DecodeError} :
      committed variants v = some c → Fails c.2 v e → Fails (union name variants) v e

/-- A value of the wrong type is described by its type. -/
theorem fails_mismatch {s : Shape} {v : Value} {expected : String} (hp : s.probe v = false) :
    s.Fails v (mismatch expected v) :=
  .here hp (v.host_typeName)

theorem fails_readInt {kind : IntKind} {v : Value} {e : DecodeError}
    (h : readInt kind v = .error e) : (int kind).Fails v e := by
  have hp : (int kind).probe v = false := by rw [probe, h]; rfl
  unfold readInt at h
  cases hv : Host.number? v with
  | none =>
    rw [hv] at h
    cases h
    exact fails_mismatch hp
  | some d =>
    rw [hv] at h
    cases hn : d.toInt? with
    | none =>
      simp only [hn] at h
      cases h
      exact .here hp hv
    | some n =>
      simp only [hn] at h
      split at h
      · cases h
      · cases h
        exact .here hp hv

/-- Every error of decoding arises in one of the listed ways. -/
theorem fails_of_decode {s : Shape} {v : Value} {e : DecodeError} (h : s.decode v = .error e) :
    s.Fails v e := by
  induction s generalizing v e with
  | bool | number | string | blob kind =>
    rw [decode] at h
    obtain ⟨hv, rfl⟩ := orMismatch_eq_error.1 h
    apply fails_mismatch
    simp only [probe, Value.host_isBool, Value.host_isNumber, Value.host_isString, hv]
    rfl
  | int kind =>
    rw [decode] at h
    exact fails_readInt h
  | null =>
    rw [decode] at h
    split at h
    · cases h
    · rename_i hv
      cases h
      exact fails_mismatch (by rw [probe]; simpa using hv)
  | unit => cases h
  | literal text =>
    rw [decode] at h
    obtain ⟨hv, rfl⟩ := readLiteral_eq_error.1 h
    refine .here (by rw [probe]; simpa using hv) ?_
    rw [v.host_typeName]
    rfl
  | option content ih =>
    rw [decode] at h
    split at h
    · cases h
    · rename_i hv
      exact .content (Bool.eq_false_iff.2 hv) (ih (Except.map_eq_error.1 h))
  | list item ih =>
    rw [decode] at h
    cases v with
    | array items =>
      obtain ⟨n, w, e', hw, he, rfl⟩ := eachItem_eq_error h
      rw [Nat.zero_add]
      exact .item hw (ih he)
    | _ =>
      cases h
      exact fails_mismatch rfl
  | record entry ih =>
    rw [decode] at h
    cases v with
    | object entries =>
      obtain ⟨key, hkey, e', he, rfl⟩ := readEntries_eq_error h
      -- A key that is enumerated has an entry, so the property is not read as undefined here.
      rw [Value.host_keys_object] at hkey
      obtain ⟨w, hw⟩ := Option.isSome_iff_exists.1 (Entries.isSome_get?_iff.2 hkey)
      rw [Value.property_object, hw, Option.getD_some] at he
      exact .entry hw (ih he)
    | _ =>
      cases h
      exact fails_mismatch rfl
  | struct name fields ih =>
    rw [decode] at h
    cases v with
    | object entries =>
      obtain ⟨f, hf, h⟩ := decodeFields_eq_error h
      rcases readField_eq_error h with ⟨e', he, rfl⟩ | ⟨hv, hu, rfl⟩
      · exact .field hf (ih f hf he)
      · exact .missing hf hv hu
    | _ =>
      cases h
      exact fails_mismatch rfl
  | union name variants ih =>
    rw [decode] at h
    rcases decodeVariants_eq_error h with ⟨hc, rfl⟩ | ⟨c, hc, he⟩
    · exact .here (by rw [probe, probeVariants_eq, hc]; rfl) v.host_typeName
    · exact .candidate hc (ih c (committed_eq_some hc).1 he)

end Shape

end Parley
