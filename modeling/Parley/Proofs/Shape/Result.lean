import Parley.Proofs.Shape.Agree
import Parley.Proofs.Shape.Probe

/-!
# Reading values that agree

Values that a shape does not tell apart are read as the same value, or both are refused
(`Shape.Agree.decode`). The two errors then stand at the same place and have the same fault, with one
exception: a property may be missing on one side and explicitly undefined on the other
(`Value.SameError`).

Results are compared by `Value.SameResult`, which goes through the parts of a codec one by one.
-/

namespace Parley

namespace Value

/-! ### Places in a value -/

/-- One step into a value. Under a field, a property that is not there reads as undefined. -/
def step? (v : Value) : Segment → Option Value
  | .field name => v.entries?.map fun _ => Host.property v name
  | .key key => v.get? key
  | .index n => v.items?.bind fun items => items[n]?

/-- The value at the end of a path. -/
def follow? : Value → Path → Option Value
  | v, [] => some v
  | v, g :: path => (v.step? g).bind (·.follow? path)

/-- The errors stand at one property, which is missing in `v` and explicitly undefined in `w`, and
the latter error says that it found undefined there. -/
def AbsentOrUndefined (v w : Value) (e e' : DecodeError) : Prop :=
  ∃ path key es es', e.path = path ++ [.field key] ∧
    v.follow? path = some (object es) ∧ Entries.get? es key = none ∧
    w.follow? path = some (object es') ∧ Entries.get? es' key = some undefined ∧
    e.fault = .missingField ∧ e'.fault.Describes undefined

/-- The errors of `v` and `w` stand at the same place and have the same fault, a missing field being
as good as an undefined one. -/
def SameError (v w : Value) (e e' : DecodeError) : Prop :=
  e.path = e'.path ∧
    (e.fault = e'.fault ∨ AbsentOrUndefined v w e e' ∨ AbsentOrUndefined w v e' e)

variable {v w x y : Value} {e e' : DecodeError}

theorem AbsentOrUndefined.under (h : AbsentOrUndefined x y e e') {g : Segment}
    (hv : v.step? g = some x) (hw : w.step? g = some y) :
    AbsentOrUndefined v w (e.under g) (e'.under g) := by
  obtain ⟨path, key, es, es', hpath, hx, hes, hy, hes', hfault, hfault'⟩ := h
  refine ⟨g :: path, key, es, es', ?_, ?_, hes, ?_, hes', hfault, hfault'⟩
  · exact congrArg (g :: ·) hpath
  · rw [follow?, hv, Option.bind_some, hx]
  · rw [follow?, hw, Option.bind_some, hy]

/-- Errors of parts, seen from the values that hold the parts at the same place. -/
theorem SameError.under (h : SameError x y e e') {g : Segment} (hv : v.step? g = some x)
    (hw : w.step? g = some y) : SameError v w (e.under g) (e'.under g) := by
  obtain ⟨hpath, hfault⟩ := h
  refine ⟨congrArg (g :: ·) hpath, ?_⟩
  rcases hfault with hfault | hfault | hfault
  · exact Or.inl hfault
  · exact Or.inr (Or.inl (hfault.under hv hw))
  · exact Or.inr (Or.inr (hfault.under hw hv))

/-! ### Results -/

/-- Reading `v` and reading `w` have given the same value, or the same error. -/
inductive SameResult {α : Type} (v w : Value) :
    Except DecodeError α → Except DecodeError α → Prop
  | ok (a : α) : SameResult v w (.ok a) (.ok a)
  | error {e e' : DecodeError} : SameError v w e e' → SameResult v w (.error e) (.error e')

namespace SameResult

variable {α β : Type} {r r' : Except DecodeError α}

theorem symm (h : SameResult v w r r') : SameResult w v r' r := by
  cases h with
  | ok a => exact .ok a
  | error he => exact .error ⟨he.1.symm, he.2.imp Eq.symm Or.symm⟩

theorem of_eq (h : r = r') : SameResult v w r r' := by
  subst h
  cases r with
  | ok a => exact .ok a
  | error e => exact .error ⟨rfl, Or.inl rfl⟩

theorem bind (h : SameResult v w r r') {f f' : α → Except DecodeError β}
    (hf : ∀ a, SameResult v w (f a) (f' a)) : SameResult v w (r >>= f) (r' >>= f') := by
  cases h with
  | ok a => exact hf a
  | error he => exact .error he

theorem map (h : SameResult v w r r') (f : α → β) : SameResult v w (r.map f) (r'.map f) := by
  cases h with
  | ok a => exact .ok (f a)
  | error he => exact .error he

theorem under (h : SameResult x y r r') {g : Segment} (hv : v.step? g = some x)
    (hw : w.step? g = some y) :
    SameResult v w (r.mapError (DecodeError.under g)) (r'.mapError (DecodeError.under g)) := by
  cases h with
  | ok a => exact .ok a
  | error he => exact .error (he.under hv hw)

/-- Where no property is missing on one side only, the results are the same altogether. -/
theorem eq_of_not (h : SameResult v w r r')
    (hnot : ∀ e e', ¬ AbsentOrUndefined v w e e' ∧ ¬ AbsentOrUndefined w v e e') : r = r' := by
  cases h with
  | ok a => rfl
  | @error e e' he =>
    obtain ⟨hpath, hfault | habsent | habsent⟩ := he
    · cases e
      cases e'
      cases hpath
      cases hfault
      rfl
    · exact absurd habsent (hnot e e').1
    · exact absurd habsent (hnot e' e).2

end SameResult

end Value

namespace Codec

open Value

variable {α : Type} {decode : Value → Except DecodeError α}

theorem sameResult_eachItem {v w : Value} {xs ys : List Value}
    (h : List.Forall₂ (fun x y => SameResult x y (decode x) (decode y)) xs ys) {i : Nat}
    (hv : ∀ n, v.step? (.index (i + n)) = xs[n]?) (hw : ∀ n, w.step? (.index (i + n)) = ys[n]?) :
    SameResult v w (eachItem DecodeError.under decode i xs)
      (eachItem DecodeError.under decode i ys) := by
  -- The items that are left start at a higher index of the two arrays.
  induction h generalizing i with
  | nil => exact .ok []
  | @cons x y xs ys hxy _ ih =>
    have hnext (n : Nat) : i + 1 + n = i + (n + 1) := by omega
    have htail : SameResult v w (eachItem DecodeError.under decode (i + 1) xs)
        (eachItem DecodeError.under decode (i + 1) ys) := by
      refine ih (fun n => ?_) (fun n => ?_)
      · rw [hnext, hv, List.getElem?_cons_succ]
      · rw [hnext, hw, List.getElem?_cons_succ]
    exact (hxy.under (hv 0) (hw 0)).bind fun a => htail.bind fun as => .ok (a :: as)

theorem sameResult_readEntries {es es' : List (String × Value)} {keys : List String}
    (h : ∀ key ∈ keys, ∃ x y, Entries.get? es key = some x ∧ Entries.get? es' key = some y ∧
      SameResult x y (decode x) (decode y)) (r : Record α) :
    SameResult (object es) (object es') (readEntries decode (object es) keys r)
      (readEntries decode (object es') keys r) := by
  induction keys generalizing r with
  | nil => exact .ok r
  | cons key keys ih =>
    obtain ⟨⟨x, y, hx, hy, hxy⟩, hkeys⟩ := List.forall_mem_cons.1 h
    rw [readEntries, readEntries, property_object, property_object, hx, hy]
    have hv : (object es).step? (.key key) = some x := hx
    have hw : (object es').step? (.key key) = some y := hy
    exact (hxy.under hv hw).bind fun a => ih hkeys (r.insert key a)

/-- A field that does not take undefined says so at the value itself. -/
theorem fails_undefined {s : Shape} {e : DecodeError} (h : s.Fails undefined e) :
    ∃ fault, e = .here fault ∧ fault.Describes undefined := by
  generalize hu : undefined = u at h
  induction h with
  | here _ hd => exact ⟨_, rfl, hd⟩
  | content hv _ _ =>
    subst hu
    cases hv
  | candidate _ _ ih => exact ih hu
  | _ => cases hu

end Codec

namespace Shape

open Codec Value

variable {v w : Value} {s : Shape}

/-! ### Reading -/

/-- Entries that are related one by one have the same keys, and what is found for a key is related
as well. -/
theorem get?_of_forall₂ {R : Value → Value → Prop} {es es' : List (String × Value)}
    (h : List.Forall₂ (fun e e' => e.1 = e'.1 ∧ R e.2 e'.2) es es') :
    Entries.keys es = Entries.keys es' ∧
      ∀ key x, Entries.get? es key = some x → ∃ y, Entries.get? es' key = some y ∧ R x y := by
  induction h with
  | nil => exact ⟨rfl, fun _ _ hx => by cases hx⟩
  | @cons e e' es es' he _ ih =>
    obtain ⟨k, a⟩ := e
    obtain ⟨k', a'⟩ := e'
    obtain ⟨rfl, ha⟩ := he
    obtain ⟨hkeys, hget⟩ := ih
    refine ⟨congrArg (k :: ·) hkeys, ?_⟩
    intro key x hx
    rw [Entries.get?] at hx ⊢
    split at hx
    · rename_i hk
      cases hx
      exact ⟨a', if_pos hk, ha⟩
    · rename_i hk
      rw [if_neg hk]
      exact hget key x hx

section Fields

variable {wire : String} {es es' : List (String × Value)}

/-- A field that is missing here and undefined there. -/
theorem sameResult_of_absent (s : Shape) (hes : Entries.get? es wire = none)
    (hes' : Entries.get? es' wire = some .undefined) :
    SameResult (object es) (object es') (readField wire s.probe s.decode (object es))
      (readField wire s.probe s.decode (object es')) := by
  have hu : (Host.undefined : Value) = .undefined := rfl
  simp only [readField, host_get?_object, hes, hes', hu]
  by_cases hp : s.probe Value.undefined = true
  · exact .of_eq (if_pos hp)
  · rw [if_neg hp]
    cases hd : s.decode Value.undefined with
    | ok x => exact absurd (probe_of_decode hd) hp
    | error e =>
      obtain ⟨fault, rfl, hdescribes⟩ := fails_undefined (fails_of_decode hd)
      refine .error ⟨rfl, Or.inr (Or.inl ?_)⟩
      exact ⟨[], wire, es, es', rfl, rfl, hes, rfl, hes', rfl, hdescribes⟩

theorem sameResult_readField {s : Shape}
    (hs : s.Agree (Host.property (object es) wire) (Host.property (object es') wire))
    (hr : SameResult (Host.property (object es) wire) (Host.property (object es') wire)
      (s.decode (Host.property (object es) wire)) (s.decode (Host.property (object es') wire))) :
    SameResult (object es) (object es') (readField wire s.probe s.decode (object es))
      (readField wire s.probe s.decode (object es')) := by
  have hunder := hr.under (v := object es) (w := object es') (g := .field wire) rfl rfl
  have houtline := hs.outline
  simp only [property_object] at hunder houtline
  cases hx : Entries.get? es wire with
  | some x =>
    cases hy : Entries.get? es' wire with
    | some y =>
      rw [hx, hy] at hunder
      simp only [readField, host_get?_object, hx, hy]
      exact hunder
    | none =>
      rw [hx, hy] at houtline
      cases outline_eq_undefined.1 houtline
      exact (sameResult_of_absent s hy hx).symm
  | none =>
    cases hy : Entries.get? es' wire with
    | some y =>
      rw [hx, hy] at houtline
      cases outline_eq_undefined.1 houtline.symm
      exact sameResult_of_absent s hx hy
    | none =>
      simp only [readField, host_get?_object, hx, hy]
      exact .of_eq rfl

end Fields

theorem sameResult_decodeFields {fields : List (Label × Shape)} {es es' : List (String × Value)}
    (h : ∀ f ∈ fields, SameResult (object es) (object es')
      (readField f.1.wire f.2.probe f.2.decode (object es))
      (readField f.1.wire f.2.probe f.2.decode (object es'))) :
    SameResult (object es) (object es') (decodeFields fields (object es))
      (decodeFields fields (object es')) := by
  induction fields with
  | nil => exact .ok ()
  | cons f fields ih =>
    obtain ⟨hf, h⟩ := List.forall_mem_cons.1 h
    rw [decodeFields, decodeFields]
    exact hf.bind fun x => (ih h).bind fun xs => .ok (x, xs)

theorem sameResult_decodeVariants {name : String} {variants : List (String × Shape)}
    (houtline : v.outline = w.outline) (hp : ∀ c ∈ variants, c.2.probe v = c.2.probe w)
    (h : ∀ c ∈ variants, SameResult v w (c.2.decode v) (c.2.decode w)) :
    SameResult v w (decodeVariants name variants v) (decodeVariants name variants w) := by
  induction variants with
  | nil =>
    have htype : Host.typeName v = Host.typeName w := by
      rw [host_typeName, host_typeName, typeName_congr houtline]
    rw [decodeVariants, decodeVariants, htype]
    exact .of_eq rfl
  | cons c variants ih =>
    obtain ⟨hpc, hp⟩ := List.forall_mem_cons.1 hp
    obtain ⟨hc, h⟩ := List.forall_mem_cons.1 h
    rw [decodeVariants, decodeVariants, hpc]
    split
    · exact hc.map Sum.inl
    · exact (ih hp h).map Sum.inr

/-- Values that agree are read as the same, or fail at the same place. -/
theorem Agree.decode (h : s.Agree v w) : SameResult v w (s.decode v) (s.decode w) := by
  have houtline := h.outline
  induction s generalizing v w with
  | bool | number | string | int | null | unit | blob | literal =>
    exact .of_eq (congr_of_outline _ (fun u => by cases u <;> rfl) houtline)
  | option content ih =>
    have hu : Host.isUndefined v = Host.isUndefined w := isUndefined_congr houtline
    rw [Shape.decode, Shape.decode, hu]
    split
    · exact .ok none
    · exact (ih h houtline).map some
  | list item ih =>
    have hitems := h.2
    rw [Shape.decode, Shape.decode]
    rcases arrays_of_outline houtline with ⟨xs, ys, rfl, rfl⟩ | ⟨hv, hw⟩
    · have hparts := hitems.imp fun x y hxy => ih hxy hxy.outline
      refine sameResult_eachItem hparts ?_ ?_ <;>
      · intro n
        rw [Nat.zero_add]
        rfl
    · have hv : Host.items? v = none := hv
      have hw : Host.items? w = none := hw
      rw [hv, hw]
      exact .of_eq (congrArg Except.error (mismatch_congr houtline "array"))
  | record entry ih =>
    have hentries := h.2
    rw [Shape.decode, Shape.decode]
    rcases objects_of_outline houtline with ⟨es, es', rfl, rfl⟩ | ⟨hv, hw⟩
    · obtain ⟨hkeys, hget⟩ := get?_of_forall₂ hentries
      have hkeys : Entries.keys es = Entries.keys es' := hkeys
      have hparts : ∀ key ∈ Entries.keys es, ∃ x y, Entries.get? es key = some x ∧
          Entries.get? es' key = some y ∧ SameResult x y (entry.decode x) (entry.decode y) := by
        intro key hkey
        obtain ⟨x, hx⟩ := Option.isSome_iff_exists.1 (Entries.isSome_get?_iff.2 hkey)
        obtain ⟨y, hy, hxy⟩ := hget key x hx
        exact ⟨x, y, hx, hy, ih hxy hxy.outline⟩
      show SameResult _ _ (readEntries entry.decode (object es) (Entries.keys es) .empty)
        (readEntries entry.decode (object es') (Entries.keys es') .empty)
      rw [← hkeys]
      exact sameResult_readEntries hparts .empty
    · have hv : Host.isObject v = false := congrArg Option.isSome hv
      have hw : Host.isObject w = false := congrArg Option.isSome hw
      rw [hv, hw]
      exact .of_eq (congrArg Except.error (mismatch_congr houtline "object"))
  | struct name fields ih =>
    have hfields := agreeFields_iff.1 h.2
    rw [Shape.decode, Shape.decode]
    rcases objects_of_outline houtline with ⟨es, es', rfl, rfl⟩ | ⟨hv, hw⟩
    · refine sameResult_decodeFields fun f hf => ?_
      have hprop := hfields f hf
      exact sameResult_readField hprop (ih f hf hprop hprop.outline)
    · have hv : Host.isObject v = false := congrArg Option.isSome hv
      have hw : Host.isObject w = false := congrArg Option.isSome hw
      rw [hv, hw]
      exact .of_eq (congrArg Except.error (mismatch_congr houtline name))
  | union name variants ih =>
    have hvariants := agreeVariants_iff.1 h.2
    exact sameResult_decodeVariants houtline (fun c hc => (hvariants c hc).probe)
      fun c hc => ih c hc (hvariants c hc) houtline

end Shape

end Parley
