import Parley.Host.Blobless
import Parley.Proofs.Envelope
import Parley.Proofs.Host.Reading

/-!
# The codec over a host without binary properties

A value and its wrapping under `Host.Blobless` read alike (`Host.Blobless.reads`). Writing agrees as
far as the host goes: something can be written exactly if it can be written as a dynamic value in
which no object has a binary property, and then that value is what is written
(`Host.Blobless.agrees_encode`). The host may refuse in the middle of a value that is being written;
since nothing that was set is set again, such a property would show in the finished value.
-/

namespace Parley

/-! ### Values without binary properties -/

namespace Value

mutual

/-- No object, at any depth, has a binary property. -/
def NoBlobProperty : Value → Prop
  | array items => NoBlobPropertyItems items
  | object entries => NoBlobPropertyEntries entries
  | _ => True

@[inherit_doc NoBlobProperty]
def NoBlobPropertyItems : List Value → Prop
  | [] => True
  | v :: vs => NoBlobProperty v ∧ NoBlobPropertyItems vs

@[inherit_doc NoBlobProperty]
def NoBlobPropertyEntries : List (String × Value) → Prop
  | [] => True
  | (_, v) :: es => (v.blob? = none ∧ NoBlobProperty v) ∧ NoBlobPropertyEntries es

end

theorem noBlobProperty_array {items : List Value} :
    (array items).NoBlobProperty ↔ ∀ v ∈ items, v.NoBlobProperty := by
  rw [NoBlobProperty]
  induction items with
  | nil => simp [NoBlobPropertyItems]
  | cons v items ih => simp [NoBlobPropertyItems, ih]

theorem noBlobProperty_object {es : List (String × Value)} :
    (object es).NoBlobProperty ↔ ∀ e ∈ es, e.2.blob? = none ∧ e.2.NoBlobProperty := by
  rw [NoBlobProperty]
  induction es with
  | nil => simp [NoBlobPropertyEntries]
  | cons e es ih => simp only [NoBlobPropertyEntries, ih, List.forall_mem_cons]

theorem noBlobProperty_number (d : Double) : (number d).NoBlobProperty := by
  rcases number_eq d with ⟨n, hn⟩ | hd
  · rw [hn]
    trivial
  · rw [hd]
    trivial

/-- Of an object without binary properties only the new property matters. -/
theorem noBlobProperty_insert {es : List (String × Value)} (h : (object es).NoBlobProperty)
    {key : String} {x : Value} :
    (object (Entries.insert es key x)).NoBlobProperty ↔ x.blob? = none ∧ x.NoBlobProperty := by
  constructor
  · intro hinsert
    have hmem := Entries.mem_of_get? (Entries.get?_insert_self es key x)
    exact noBlobProperty_object.1 hinsert _ hmem
  · intro hx
    apply noBlobProperty_object.2
    intro e he
    rcases Entries.mem_of_mem_insert he with rfl | he
    · exact hx
    · exact noBlobProperty_object.1 h e he

/-- What was set and stayed is no binary property. -/
theorem noBlobProperty_insert_of_get? {es es' : List (String × Value)} {key : String} {x : Value}
    (h : (object es).NoBlobProperty) (h' : (object es').NoBlobProperty)
    (hkey : Entries.get? es' key = Entries.get? (Entries.insert es key x) key) :
    (object (Entries.insert es key x)).NoBlobProperty := by
  rw [Entries.get?_insert_self] at hkey
  exact (noBlobProperty_insert h).2 (noBlobProperty_object.1 h' _ (Entries.mem_of_get? hkey))

end Value

namespace Host.Blobless

open Codec

/-- Everything that is read off a value is read off its wrapping. -/
theorem reads : Reads Blobless.mk where
  undefined := rfl
  isUndefined _ := rfl
  isNull _ := rfl
  isBool v := v.host_isBool.symm
  isNumber v := v.host_isNumber.symm
  isString v := v.host_isString.symm
  isArray _ := rfl
  isObject _ := rfl
  bool? _ := rfl
  number? _ := rfl
  string? _ := rfl
  blob? _ := rfl
  items? _ := rfl
  get? _ _ := rfl
  keys _ := rfl

/-! ### Agreement -/

/-- The one succeeds exactly if the other does with a value without binary properties, which then is
the value of both. -/
def Agrees (p : Except EncodeError Blobless) (q : Except EncodeError Value) : Prop :=
  ∀ w : Blobless, p = .ok w ↔ q = .ok w.value ∧ w.value.NoBlobProperty

section

variable {p : Except EncodeError Blobless} {q : Except EncodeError Value}

theorem agrees_ok {v : Value} (hv : v.NoBlobProperty) : Agrees (.ok ⟨v⟩) (.ok v) := by
  intro w
  constructor
  · rintro ⟨⟩
    exact ⟨rfl, hv⟩
  · rintro ⟨h, -⟩
    cases h
    rfl

theorem agrees_error (e e' : EncodeError) : Agrees (.error e) (.error e') :=
  fun _ => ⟨(nomatch ·), (nomatch ·.1)⟩

/-- What the host refuses has a binary property. -/
theorem agrees_refused {v : Value} (hv : ¬v.NoBlobProperty) (e : EncodeError) :
    Agrees (.error e) (.ok v) := by
  intro w
  constructor
  · exact (nomatch ·)
  · rintro ⟨h, hw⟩
    cases Except.ok.inj h
    exact absurd hw hv

theorem Agrees.mapError (h : Agrees p q) (f f' : EncodeError → EncodeError) :
    Agrees (p.mapError f) (q.mapError f') := by
  intro w
  rw [Except.mapError_eq_ok, Except.mapError_eq_ok]
  exact h w

/-- Two steps agree if each of them does, and if binary properties that the first step makes stay. -/
theorem Agrees.bind (h : Agrees p q) {k : Blobless → Except EncodeError Blobless}
    {k' : Value → Except EncodeError Value}
    (hk : ∀ v, q = .ok v → v.NoBlobProperty → Agrees (k ⟨v⟩) (k' v))
    (hback : ∀ v w, q = .ok v → k' v = .ok w → w.NoBlobProperty → v.NoBlobProperty) :
    Agrees (p >>= k) (q >>= k') := by
  intro w
  rw [Except.bind_eq_ok, Except.bind_eq_ok]
  constructor
  · rintro ⟨v, hv, hw⟩
    obtain ⟨hv, hvp⟩ := (h v).1 hv
    obtain ⟨hw, hwp⟩ := (hk v.value hv hvp w).1 hw
    exact ⟨⟨v.value, hv, hw⟩, hwp⟩
  · rintro ⟨⟨v, hv, hw⟩, hwp⟩
    have hvp := hback v w.value hv hw hwp
    exact ⟨⟨v⟩, (h ⟨v⟩).2 ⟨hv, hvp⟩, (hk v hv hvp w).2 ⟨hw, hwp⟩⟩

end

/-! ### Properties -/

theorem set_object (es : List (String × Value)) (key : String) (x : Value) :
    Host.set (⟨.object es⟩ : Blobless) key ⟨x⟩ =
      if x.blob?.isSome then .error (.rejected ("binary property " ++ key))
      else .ok ⟨.object (Entries.insert es key x)⟩ := rfl

/-- Setting a property agrees. -/
theorem agrees_set {es : List (String × Value)} (hes : (Value.object es).NoBlobProperty)
    {key : String} {x : Value} (hx : x.NoBlobProperty) (f f' : HostError → EncodeError) :
    Agrees ((Host.set (⟨.object es⟩ : Blobless) key ⟨x⟩).mapError f)
      ((Host.set (Value.object es) key x).mapError f') := by
  have hset : Host.set (Value.object es) key x = .ok (.object (Entries.insert es key x)) := rfl
  rw [set_object, hset]
  cases hblob : x.blob? with
  | none => exact agrees_ok ((Value.noBlobProperty_insert hes).2 ⟨hblob, hx⟩)
  | some b =>
    apply agrees_refused
    intro h
    rw [Value.noBlobProperty_insert hes, hblob] at h
    exact nomatch h.1

section

variable {p : Except EncodeError Blobless} {q : Except EncodeError Value}

/-- Writing a field agrees. -/
theorem agrees_writeField (h : Agrees p q) (wire : String) {os : List (String × Value)}
    (hos : (Value.object os).NoBlobProperty) :
    Agrees (writeField wire p ⟨.object os⟩) (writeField wire q (.object os)) := by
  apply (h.mapError _ _).bind
  · intro x _ hx
    show Agrees (if x.isUndefined = true then _ else _) (if x.isUndefined = true then _ else _)
    split
    · exact agrees_ok hos
    · exact agrees_set hos hx _ _
  · intro x w _ hw hwp
    rw [Value.host_isUndefined] at hw
    split at hw
    · rename_i hu
      cases x with
      | undefined => trivial
      | _ => cases hu
    · cases hw
      exact ((Value.noBlobProperty_insert hos).1 hwp).2

/-- A present optional agrees. -/
theorem agrees_present (h : Agrees p q) : Agrees (present p) (present q) := by
  apply h.bind
  · intro x _ hx
    show Agrees (if x.isUndefined = true then _ else _) (if x.isUndefined = true then _ else _)
    split
    · exact agrees_error _ _
    · exact agrees_ok hx
  · intro x w _ hw hwp
    split at hw
    · cases hw
    · cases hw
      exact hwp

end

/-! ### Items and entries -/

section

variable {α : Type} {f : α → Except EncodeError Blobless} {g : α → Except EncodeError Value}

/-- Items are written over the one host as they are over the other, if no item has a binary property.
-/
theorem forall₂_agrees (h : ∀ a, Agrees (f a) (g a)) {as : List α} {ws : List Blobless} :
    List.Forall₂ (fun a w => f a = .ok w) as ws ↔
      List.Forall₂ (fun a v => g a = .ok v) as (ws.map Blobless.value) ∧
        ∀ v ∈ ws.map Blobless.value, v.NoBlobProperty := by
  induction as generalizing ws with
  | nil => cases ws <;> simp
  | cons a as ih =>
    cases ws with
    | nil => simp
    | cons w ws =>
      rw [List.map_cons, List.forall₂_cons, List.forall₂_cons, List.forall_mem_cons, ih, h a w,
        and_and_and_comm]

/-- Writing a list agrees. An array takes any item. -/
theorem agrees_ofItems (h : ∀ a, Agrees (f a) (g a)) (as : List α) :
    Agrees ((eachItem EncodeError.under f 0 as).map Host.ofItems)
      ((eachItem EncodeError.under g 0 as).map Host.ofItems) := by
  rintro ⟨w⟩
  rw [Except.map_eq_ok, Except.map_eq_ok]
  simp only [eachItem_eq_ok]
  constructor
  · rintro ⟨ws, hws, hw⟩
    obtain ⟨hws, hp⟩ := (forall₂_agrees h).1 hws
    cases hw
    exact ⟨⟨_, hws, rfl⟩, Value.noBlobProperty_array.2 hp⟩
  · rintro ⟨⟨vs, hvs, hw⟩, hp⟩
    cases hw
    have hmap : (vs.map Blobless.mk).map Blobless.value = vs := by
      rw [List.map_map]
      exact List.map_id vs
    refine ⟨vs.map Blobless.mk, (forall₂_agrees h).2 ?_, ?_⟩
    · rw [hmap]
      exact ⟨hvs, Value.noBlobProperty_array.1 hp⟩
    · show (⟨.array _⟩ : Blobless) = ⟨.array vs⟩
      rw [hmap]

/-- Writing entries agrees, if no key stands twice. -/
theorem agrees_writeEntries (h : ∀ a, Agrees (f a) (g a)) {es : List (String × α)}
    (hn : (Entries.keys es).Nodup) {os : List (String × Value)}
    (hos : (Value.object os).NoBlobProperty) :
    Agrees (writeEntries f es ⟨.object os⟩) (writeEntries g es (.object os)) := by
  induction es generalizing os with
  | nil => exact agrees_ok hos
  | cons e es ih =>
    obtain ⟨key, a⟩ := e
    obtain ⟨hnot, hn⟩ := List.nodup_cons.1 hn
    -- the property stays as it was set, so that it shows at the end
    have hstays {x w : Value} (hw : writeEntries g es (.object (Entries.insert os key x)) = .ok w)
        (hwp : w.NoBlobProperty) : (Value.object (Entries.insert os key x)).NoBlobProperty := by
      obtain ⟨os', rfl, hframe⟩ := writeEntries_frame hw
      exact Value.noBlobProperty_insert_of_get? hos hwp (hframe key hnot)
    rw [writeEntries, writeEntries]
    apply ((h a).mapError _ _).bind
    · intro x _ hx
      apply (agrees_set hos hx _ _).bind
      · intro object hset hobject
        cases hset
        exact ih hn hobject
      · intro object w hset hw hwp
        cases hset
        exact hstays hw hwp
    · intro x w _ hw hwp
      obtain ⟨object, hset, hw⟩ := Except.bind_eq_ok.1 hw
      cases hset
      exact ((Value.noBlobProperty_insert hos).1 (hstays hw hwp)).2

end

/-! ### Shapes -/

open Shape

theorem agrees_encodeFields {fields : List (Label × Shape)} (hn : (wires fields).Nodup)
    (h : ∀ f ∈ fields, ∀ x : f.2.Val, Agrees (f.2.encode Blobless x) (f.2.encode Value x))
    (xs : FieldVals fields) {os : List (String × Value)}
    (hos : (Value.object os).NoBlobProperty) :
    Agrees (encodeFields Blobless fields xs ⟨.object os⟩)
      (encodeFields Value fields xs (.object os)) := by
  induction fields generalizing os with
  | nil => exact agrees_ok hos
  | cons f fields ih =>
    obtain ⟨x, xs⟩ := xs
    obtain ⟨hnot, hn⟩ := List.nodup_cons.1 hn
    obtain ⟨hhead, h⟩ := List.forall_mem_cons.1 h
    rw [encodeFields, encodeFields]
    apply (agrees_writeField (hhead x) f.1.wire hos).bind
    · intro object hobject hop
      obtain ⟨_, os', -, rfl, -⟩ := writeField_eq_ok hobject
      exact ih hn h xs hop
    · intro object w hobject hw hwp
      rw [writeField] at hobject
      obtain ⟨y, -, hobject⟩ := Except.bind_eq_ok.1 hobject
      split at hobject
      · cases hobject
        exact hos
      · -- the property stays as it was set, so that it shows at the end
        cases hobject
        obtain ⟨os', rfl, hframe⟩ := encodeFields_frame hw
        exact Value.noBlobProperty_insert_of_get? hos hwp (hframe _ hnot)

theorem agrees_writeInt (kind : IntKind) (n : kind.Word) :
    Agrees (writeInt kind n) (writeInt kind n) := by
  rw [writeInt, writeInt]
  split
  · exact agrees_ok (Value.noBlobProperty_number _)
  · exact agrees_error _ _

/-- Writing agrees, if structs name their properties apart. -/
theorem agrees_encode {s : Shape} (hs : s.DistinctWires) (x : s.Val) :
    Agrees (s.encode Blobless x) (s.encode Value x) := by
  induction s with
  | bool | string | null | unit | blob | literal => exact agrees_ok trivial
  | number => exact agrees_ok (Value.noBlobProperty_number _)
  | int kind => exact agrees_writeInt kind x
  | option content ih =>
    cases x with
    | none => exact agrees_ok trivial
    | some y => exact agrees_present (ih hs.2 y)
  | list item ih => exact agrees_ofItems (ih hs.2) x
  | record entry ih =>
    exact agrees_writeEntries (ih hs.2) (Record.distinct x) trivial
  | struct name fields ih =>
    obtain ⟨hn, hfields⟩ := throughout_struct.1 hs
    exact agrees_encodeFields hn (fun f hf => ih f hf (hfields f hf)) x trivial
  | union name variants ih =>
    obtain ⟨-, hvariants⟩ := throughout_union.1 hs
    rw [encode_union, encode_union]
    exact ih _ (chosen_mem x) (hvariants _ (chosen_mem x)) _

/-- If two fields share a property, the second may cover a binary value that was refused. -/
example :
    let twice := struct "Twice" [(⟨"data", "x"⟩, blob .buffer), (⟨"flag", "x"⟩, bool)]
    let x : twice.Val := ((⟨.buffer, []⟩ : Blob), true, ())
    twice.encode Value x = .ok (.object [("x", .bool true)]) ∧
      (twice.encode Blobless x).isOk = false :=
  ⟨rfl, rfl⟩

end Host.Blobless

end Parley
