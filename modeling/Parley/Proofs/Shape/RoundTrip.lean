import Mathlib.Data.List.Nodup
import Parley.Proofs.Number
import Parley.Proofs.Shape.Union
import Parley.Schema.Channel

/-!
# Round trips

What a shape writes it takes back (`decode_of_encode`), if its structs name their properties apart and
its unions cannot mistake one candidate for an earlier one (`RoundTrippable`), and if binary objects
have the declared kind (`WellKinded`).

Containers are opened once each: `writeEntries` appends entries to an object and `readEntries` takes
them up in the same order; `encodeFields` leaves all properties but its own alone, so that a field is
found as it was written whatever was written after it.
-/

namespace Parley

/-! ### Entries -/

namespace Codec

variable {α : Type}

/-- Entries of new keys are written behind those that are there. -/
theorem writeEntries_eq_ok {encode : α → Except EncodeError Value} {es : List (String × α)}
    {os : List (String × Value)} (hn : (Entries.keys os ++ Entries.keys es).Nodup) {v : Value}
    (h : writeEntries encode es (.object os) = .ok v) :
    ∃ ws, v = .object (os ++ ws) ∧
      List.Forall₂ (fun e w => e.1 = w.1 ∧ encode e.2 = .ok w.2) es ws := by
  -- The object grows by the entry that is written, so `os` varies.
  induction es generalizing os with
  | nil =>
    cases h
    exact ⟨[], by rw [List.append_nil], .nil⟩
  | cons e es ih =>
    obtain ⟨key, a⟩ := e
    rw [writeEntries] at h
    obtain ⟨x, hx, h⟩ := Except.bind_eq_ok.1 h
    obtain ⟨object, hset, h⟩ := Except.bind_eq_ok.1 h
    have hnew : key ∉ Entries.keys os := by
      intro hk
      exact List.disjoint_of_nodup_append hn hk List.mem_cons_self
    have hobject : object = .object (os ++ [(key, x)]) := by
      rw [← Entries.insert_of_not_mem hnew]
      exact (Except.ok.inj (Except.mapError_eq_ok.1 hset)).symm
    subst hobject
    have hn' : (Entries.keys (os ++ [(key, x)]) ++ Entries.keys es).Nodup := by
      rw [Entries.keys_append, List.append_assoc]
      exact hn
    obtain ⟨ws, rfl, hws⟩ := ih hn' h
    refine ⟨(key, x) :: ws, ?_, .cons ⟨rfl, Except.mapError_eq_ok.1 hx⟩ hws⟩
    rw [List.append_assoc, List.singleton_append]

/-- Writing entries leaves all other properties as they are. -/
theorem writeEntries_frame {encode : α → Except EncodeError Value}
    {es : List (String × α)} {os : List (String × Value)} {v : Value}
    (h : writeEntries encode es (.object os) = .ok v) :
    ∃ os', v = .object os' ∧ ∀ key ∉ Entries.keys es, Entries.get? os' key = Entries.get? os key := by
  induction es generalizing os with
  | nil =>
    cases h
    exact ⟨os, rfl, fun _ _ => rfl⟩
  | cons e es ih =>
    obtain ⟨key, a⟩ := e
    rw [writeEntries] at h
    obtain ⟨x, -, h⟩ := Except.bind_eq_ok.1 h
    obtain ⟨object, hset, h⟩ := Except.bind_eq_ok.1 h
    cases hset
    obtain ⟨os', rfl, hframe⟩ := ih h
    refine ⟨os', rfl, ?_⟩
    intro key' hkey'
    obtain ⟨hne, hnot⟩ := not_or.1 fun h' => hkey' (List.mem_cons.2 h')
    rw [hframe key' hnot, Entries.get?_insert_of_ne os hne]

/-- Entries of new keys are read behind those that are there; `os` are the entries of the object that
have been read before. -/
theorem readEntries_eq_ok {decode : Value → Except DecodeError α} {es : List (String × α)}
    {os ws : List (String × Value)} {r : Record α} (hkeys : Entries.keys os = r.keys)
    (hn : (r.keys ++ Entries.keys es).Nodup)
    (h : List.Forall₂ (fun w e => w.1 = e.1 ∧ decode w.2 = .ok e.2) ws es) :
    ∃ r', readEntries decode (.object (os ++ ws)) (Entries.keys ws) r = .ok r' ∧
      r'.entries = r.entries ++ es := by
  -- Entries move from `ws` to `os` in step with those that arrive in `r`.
  induction h generalizing os r with
  | nil => exact ⟨r, rfl, by rw [List.append_nil]⟩
  | @cons w e ws es hw _ ih =>
    obtain ⟨key, x⟩ := w
    obtain ⟨key', a⟩ := e
    obtain ⟨rfl, hx⟩ := hw
    have hnew : key ∉ r.keys := by
      intro hk
      exact List.disjoint_of_nodup_append hn hk List.mem_cons_self
    have hinsert := Record.keys_insert_of_not_mem hnew a
    have hkeys' : Entries.keys (os ++ [(key, x)]) = (r.insert key a).keys := by
      rw [hinsert, Entries.keys_append, hkeys]
      rfl
    have hn' : ((r.insert key a).keys ++ Entries.keys es).Nodup := by
      rw [hinsert, List.append_assoc]
      exact hn
    obtain ⟨r', hread, hr'⟩ := ih hkeys' hn'
    refine ⟨r', ?_, ?_⟩
    · rw [List.append_assoc, List.singleton_append] at hread
      show readEntries decode _ (key :: Entries.keys ws) r = _
      rw [readEntries, Value.property_object, Entries.get?_append_cons (hkeys ▸ hnew),
        Option.getD_some, hx]
      exact hread
    · rw [hr', Record.entries_insert_of_not_mem hnew, List.append_assoc, List.singleton_append]

/-! ### Fields -/

/-- A field that is written into an object without its property reads as what was written, an omitted
one as undefined. Other properties stay as they are. -/
theorem writeField_eq_ok {wire : String} {encoded : Except EncodeError Value}
    {os : List (String × Value)} {object : Value}
    (h : writeField wire encoded (.object os) = .ok object) :
    ∃ x os', encoded = .ok x ∧ object = .object os' ∧
      (Entries.get? os wire = none → (Entries.get? os' wire).getD .undefined = x) ∧
      ∀ key, key ≠ wire → Entries.get? os' key = Entries.get? os key := by
  rw [writeField] at h
  obtain ⟨x, hx, h⟩ := Except.bind_eq_ok.1 h
  have hx := Except.mapError_eq_ok.1 hx
  by_cases hu : Host.isUndefined x = true
  · -- Nothing is written: the property is read as undefined, which is what `x` is.
    simp only [hu, if_true] at h
    cases h
    have hxu : x = .undefined := by
      cases x with
      | undefined => rfl
      | _ => cases hu
    refine ⟨x, os, hx, rfl, ?_, fun _ _ => rfl⟩
    intro hnew
    rw [hnew, Option.getD_none, hxu]
  · simp only [hu, Bool.false_eq_true, if_false] at h
    cases Except.mapError_eq_ok.1 h
    refine ⟨x, Entries.insert os wire x, hx, rfl, ?_, ?_⟩
    · intro _
      rw [Entries.get?_insert_self, Option.getD_some]
    · intro key hkey
      exact Entries.get?_insert_of_ne os hkey x

/-- A present optional is not written as undefined. -/
theorem present_eq_ok {encoded : Except EncodeError Value} {v : Value}
    (h : present encoded = .ok v) : encoded = .ok v ∧ v.isUndefined = false := by
  rw [present] at h
  obtain ⟨x, hx, h⟩ := Except.bind_eq_ok.1 h
  by_cases hu : Host.isUndefined x = true
  · simp only [hu, if_true] at h
    cases h
  · simp only [hu, Bool.false_eq_true, if_false] at h
    cases h
    exact ⟨hx, Bool.eq_false_iff.2 hu⟩

end Codec

namespace Shape

open Codec

/-! ### Conditions -/

mutual

/-- The binary objects inside the value have the kinds that the shape declares. -/
def WellKinded : (s : Shape) → s.Val → Prop
  | blob kind, b => Blob.kind b = kind
  | option content, x =>
    match x with
    | none => True
    | some y => content.WellKinded y
  | list item, (xs : List item.Val) => ∀ x ∈ xs, item.WellKinded x
  | record entry, (r : Record entry.Val) => ∀ e ∈ r.entries, entry.WellKinded e.2
  | struct _ fields, xs => WellKindedFields fields xs
  | union _ variants, x => WellKindedVariant variants x
  | bool, _ | number, _ | string, _ | int _, _ | null, _ | unit, _ | literal _, _ => True

/-- The value of every field is well-kinded. -/
def WellKindedFields : (fs : List (Label × Shape)) → FieldVals fs → Prop
  | [], _ => True
  | (_, s) :: fs, (x, xs) => s.WellKinded x ∧ WellKindedFields fs xs

/-- The value is well-kinded for whichever candidate it belongs to. -/
def WellKindedVariant : (vs : List (String × Shape)) → VariantVal vs → Prop
  | [], x => nomatch x
  | (_, s) :: vs, x =>
    match x with
    | .inl x => s.WellKinded x
    | .inr x => WellKindedVariant vs x

end

theorem wellKindedFields_iff {fields : List (Label × Shape)} {xs : FieldVals fields} :
    WellKindedFields fields xs ↔ ∀ p ∈ fieldList fields xs, p.1.2.WellKinded p.2 := by
  induction fields with
  | nil => simp [WellKindedFields, fieldList]
  | cons f fields ih =>
    obtain ⟨x, xs⟩ := xs
    rw [WellKindedFields, fieldList, List.forall_mem_cons, ih]

theorem wellKindedVariant_iff {variants : List (String × Shape)} {x : VariantVal variants} :
    WellKindedVariant variants x ↔ (chosen variants x).1.2.WellKinded (chosen variants x).2 := by
  induction variants with
  | nil => exact nomatch x
  | cons c variants ih =>
    cases x with
    | inl y => exact Iff.rfl
    | inr x => exact ih

/-- What a candidate writes does not look like any candidate before it. -/
def Separated (variants : List (String × Shape)) : Prop :=
  variants.Pairwise fun early late => ∀ (x : late.2.Val) (v : Value),
    late.2.WellKinded x → late.2.encode Value x = .ok v → early.2.probe v = false

/-- Literals of different texts are separated. -/
theorem separated_literals (texts : List (String × String)) (hn : (texts.map Prod.snd).Nodup) :
    Separated (texts.map fun t => (t.1, literal t.2)) := by
  apply List.pairwise_map.2
  apply (List.pairwise_map.1 hn).imp
  intro early late hne x v _ h
  cases h
  exact beq_false_of_ne fun he => hne (Option.some.inj he).symm

/-- At any depth, structs name their properties apart and the candidates of unions are separated. -/
def RoundTrippable : Shape → Prop :=
  Throughout fun
    | struct _ fields => (wires fields).Nodup
    | union _ variants => Separated variants
    | _ => True

section

variable {name text : String} {kind : IntKind} {blobKind : BlobKind} {part : Shape}
  {fields : List (Label × Shape)} {variants : List (String × Shape)}

@[simp] theorem roundTrippable_bool : bool.RoundTrippable := trivial

@[simp] theorem roundTrippable_number : number.RoundTrippable := trivial

@[simp] theorem roundTrippable_string : string.RoundTrippable := trivial

@[simp] theorem roundTrippable_int : (int kind).RoundTrippable := trivial

@[simp] theorem roundTrippable_null : null.RoundTrippable := trivial

@[simp] theorem roundTrippable_blob : (blob blobKind).RoundTrippable := trivial

@[simp] theorem roundTrippable_literal : (literal text).RoundTrippable := trivial

@[simp] theorem roundTrippable_option : (option part).RoundTrippable ↔ part.RoundTrippable :=
  iff_of_eq (true_and _)

@[simp] theorem roundTrippable_list : (list part).RoundTrippable ↔ part.RoundTrippable :=
  iff_of_eq (true_and _)

@[simp] theorem roundTrippable_record : (record part).RoundTrippable ↔ part.RoundTrippable :=
  iff_of_eq (true_and _)

theorem roundTrippable_struct : (struct name fields).RoundTrippable ↔
    (wires fields).Nodup ∧ ∀ f ∈ fields, f.2.RoundTrippable :=
  throughout_struct

theorem roundTrippable_union : (union name variants).RoundTrippable ↔
    Separated variants ∧ ∀ c ∈ variants, c.2.RoundTrippable :=
  throughout_union

end

/-- The shape reads what it has written. -/
def Restores (s : Shape) : Prop :=
  ∀ (x : s.Val) (v : Value), s.WellKinded x → s.encode Value x = .ok v → s.decode v = .ok x

/-! ### Structs -/

/-- Writing fields leaves all other properties as they are. -/
theorem encodeFields_frame {fields : List (Label × Shape)} {xs : FieldVals fields}
    {os : List (String × Value)} {v : Value}
    (h : encodeFields Value fields xs (.object os) = .ok v) :
    ∃ os', v = .object os' ∧ ∀ key ∉ wires fields, Entries.get? os' key = Entries.get? os key := by
  induction fields generalizing os with
  | nil =>
    cases h
    exact ⟨os, rfl, fun _ _ => rfl⟩
  | cons f fields ih =>
    obtain ⟨x, xs⟩ := xs
    rw [encodeFields] at h
    obtain ⟨object, hf, h⟩ := Except.bind_eq_ok.1 h
    obtain ⟨_, os', _, rfl, _, hhead⟩ := writeField_eq_ok hf
    obtain ⟨os'', rfl, htail⟩ := ih h
    refine ⟨os'', rfl, ?_⟩
    intro key hkey
    obtain ⟨hne, hnot⟩ := not_or.1 fun h' => hkey (List.mem_cons.2 h')
    rw [htail key hnot, hhead key hne]

/-- The property of a field is what the field was written as, or undefined if it was left out. -/
theorem property_of_encodeFields {fields : List (Label × Shape)} (hn : (wires fields).Nodup)
    {xs : FieldVals fields} {os : List (String × Value)}
    (hnew : ∀ wire ∈ wires fields, Entries.get? os wire = none) {v : Value}
    (h : encodeFields Value fields xs (.object os) = .ok v) :
    ∀ p ∈ fieldList fields xs, p.1.2.encode Value p.2 = .ok (Host.property v p.1.1.wire) := by
  induction fields generalizing os with
  | nil => exact fun p hp => absurd hp List.not_mem_nil
  | cons f fields ih =>
    obtain ⟨x, xs⟩ := xs
    obtain ⟨hnot, hn⟩ := List.nodup_cons.1 hn
    rw [encodeFields] at h
    obtain ⟨object, hf, h⟩ := Except.bind_eq_ok.1 h
    obtain ⟨y, os', hy, rfl, hself, hhead⟩ := writeField_eq_ok hf
    have hnew' : ∀ wire ∈ wires fields, Entries.get? os' wire = none := by
      intro wire hwire
      have hne : wire ≠ f.1.wire := by
        rintro rfl
        exact hnot hwire
      rw [hhead wire hne, hnew wire (List.mem_cons_of_mem _ hwire)]
    rw [forall_mem_fieldList_cons]
    refine ⟨?_, ih hn hnew' h⟩
    -- What is written after the field does not touch its property.
    obtain ⟨os'', rfl, hframe⟩ := encodeFields_frame h
    rw [Value.property_object, hframe _ hnot, hself (hnew _ List.mem_cons_self)]
    exact hy

/-- Fields with names of their own that are written into an object without them are read as they
were. -/
theorem decodeFields_encodeFields {fields : List (Label × Shape)} (hn : (wires fields).Nodup)
    (hr : ∀ f ∈ fields, f.2.Restores) {xs : FieldVals fields} (hk : WellKindedFields fields xs)
    {os : List (String × Value)} (hnew : ∀ wire ∈ wires fields, Entries.get? os wire = none)
    {v : Value} (h : encodeFields Value fields xs (.object os) = .ok v) :
    decodeFields fields v = .ok xs := by
  apply decodeFields_eq_ok_iff.2
  intro p hp
  apply (readField_eq_ok fun a ha => probe_of_decode ha).2
  have hwritten := property_of_encodeFields hn hnew h p hp
  exact hr p.1 (mem_of_mem_fieldList hp) p.2 _ (wellKindedFields_iff.1 hk p hp) hwritten

/-! ### Unions -/

/-- What a union writes is written by one of its candidates. -/
theorem encodeVariants_eq_ok {variants : List (String × Shape)} {x : VariantVal variants}
    (hk : WellKindedVariant variants x) {v : Value}
    (h : encodeVariants Value variants x = .ok v) :
    ∃ c ∈ variants, ∃ y : c.2.Val, c.2.WellKinded y ∧ c.2.encode Value y = .ok v := by
  rw [encodeVariants_eq] at h
  exact ⟨_, chosen_mem x, _, wellKindedVariant_iff.1 hk, h⟩

/-- Separated candidates are told apart by their probes. -/
theorem decodeVariants_encodeVariants {name : String} {variants : List (String × Shape)}
    (hs : Separated variants) (hr : ∀ c ∈ variants, c.2.Restores) {x : VariantVal variants}
    (hk : WellKindedVariant variants x) {v : Value}
    (h : encodeVariants Value variants x = .ok v) :
    decodeVariants name variants v = .ok x := by
  induction variants with
  | nil => exact nomatch x
  | cons c variants ih =>
    obtain ⟨hfirst, hs⟩ := List.pairwise_cons.1 hs
    obtain ⟨hrc, hr⟩ := List.forall_mem_cons.1 hr
    cases x with
    | inl y =>
      have hread : c.2.decode v = .ok y := hrc y v hk h
      rw [decodeVariants_cons_of_probe (probe_of_decode hread), hread]
      rfl
    | inr x =>
      -- Some later candidate has written the value, so the first one does not accept it.
      have hk : WellKindedVariant variants x := hk
      obtain ⟨c', hc', y, hky, hy⟩ := encodeVariants_eq_ok hk h
      have hprobe : c.2.probe v = false := hfirst c' hc' y v hky hy
      rw [decodeVariants_cons_of_not_probe hprobe, ih hs hr hk h]
      rfl

/-! ### All shapes -/

theorem restores_option {content : Shape} (hr : content.Restores) : (option content).Restores := by
  intro x v hk h
  rw [decode]
  cases x with
  | none =>
    cases h
    rfl
  | some x =>
    obtain ⟨hx, hu⟩ := present_eq_ok h
    have hread : content.decode v = .ok x := hr x v hk hx
    rw [hread]
    show (if v.isUndefined = true then _ else _) = _
    rw [hu]
    rfl

theorem restores_list {item : Shape} (hr : item.Restores) : (list item).Restores := by
  intro xs v hk h
  rw [encode] at h
  obtain ⟨ws, hws, rfl⟩ := Except.map_eq_ok.1 h
  show eachItem DecodeError.under item.decode 0 ws = .ok xs
  have hpairs := (List.forall₂_and_left _ _).2 ⟨hk, eachItem_eq_ok.1 hws⟩
  have hback := hpairs.imp fun x w (hw : item.WellKinded x ∧ _) => hr x w hw.1 hw.2
  exact eachItem_eq_ok.2 hback.flip

/-- A record is written as an object with one entry for each of its own. -/
theorem encode_record_eq_ok {entry : Shape} {r : Record entry.Val} {v : Value}
    (h : (record entry).encode Value r = .ok v) :
    ∃ ws, v = .object ws ∧
      List.Forall₂ (fun e w => e.1 = w.1 ∧ entry.encode Value e.2 = .ok w.2) r.entries ws := by
  have hn : (Entries.keys ([] : List (String × Value)) ++ Entries.keys r.entries).Nodup :=
    r.distinct
  exact writeEntries_eq_ok hn h

theorem restores_record {entry : Shape} (hr : entry.Restores) : (record entry).Restores := by
  intro r v hk h
  obtain ⟨ws, rfl, hws⟩ := encode_record_eq_ok h
  have hpairs := (List.forall₂_and_left _ _).2 ⟨hk, hws⟩
  have hback := hpairs.imp fun (e : String × entry.Val) (w : String × Value) he =>
    And.intro he.2.1.symm (hr e.2 w.2 he.1 he.2.2)
  have hkeys : Entries.keys ([] : List (String × Value)) =
      Record.keys (Record.empty : Record entry.Val) := rfl
  obtain ⟨r', hread, hr'⟩ := readEntries_eq_ok hkeys r.distinct hback.flip
  have hrr : r' = r := Record.eq_of_entries hr'
  rw [← hrr]
  exact hread

/-- Every round-trippable shape reads what it has written. -/
theorem RoundTrippable.restores {s : Shape} (hs : s.RoundTrippable) : s.Restores := by
  induction s with
  | bool | string =>
    intro x v _ h
    cases h
    rfl
  | null | unit =>
    intro x v _ h
    cases h
    rfl
  | literal text =>
    intro x v _ h
    cases h
    exact readLiteral_eq_ok.2 rfl
  | number =>
    intro d v _ h
    cases h
    apply orMismatch_eq_ok.2
    exact Value.number?_number d
  | int kind => exact fun n v _ h => readInt_of_writeInt h
  | blob kind =>
    intro b v hk h
    cases h
    have hkind : Blob.kind b = kind := hk
    apply orMismatch_eq_ok.2
    show (some b).filter (fun b => b.kind = kind) = some b
    rw [Option.filter_some, if_pos (decide_eq_true hkind)]
  | option content ih => exact restores_option (ih hs.2)
  | list item ih => exact restores_list (ih hs.2)
  | record entry ih => exact restores_record (ih hs.2)
  | struct name fields ih =>
    obtain ⟨hn, hfields⟩ := throughout_struct.1 hs
    have hr : ∀ f ∈ fields, f.2.Restores := fun f hf => ih f hf (hfields f hf)
    intro xs v hk h
    obtain ⟨os, rfl, _⟩ := encodeFields_frame h
    exact decodeFields_encodeFields hn hr hk (fun _ _ => rfl) h
  | union name variants ih =>
    obtain ⟨hsep, hvariants⟩ := throughout_union.1 hs
    have hr : ∀ c ∈ variants, c.2.Restores := fun c hc => ih c hc (hvariants c hc)
    exact fun x v hk h => decodeVariants_encodeVariants hsep hr hk h

/-! ### Main statement -/

/-- What a round-trippable shape writes for a well-kinded value looks like the shape and reads as the
same value. -/
theorem decode_of_encode (s : Shape) (hs : s.RoundTrippable) (x : s.Val) (hx : s.WellKinded x)
    (v : Value) (h : s.encode Value x = .ok v) : s.probe v = true ∧ s.decode v = .ok x := by
  have hread : s.decode v = .ok x := hs.restores x v hx h
  exact ⟨probe_of_decode hread, hread⟩

open Schema in
theorem channelMetadata_roundTrippable : channelMetadata.RoundTrippable := by
  have hsep := separated_literals [("Direct", "direct"), ("Relayed", "relayed")] (by decide)
  simp only [channelMetadata, webAppActor, channelTransport, field, RoundTrippable, Throughout,
    ThroughoutFields, ThroughoutVariants, and_true, true_and]
  exact ⟨by decide, by decide, hsep⟩

open Schema in
/-- A relayed channel without a label comes back, with its peers and attributes. -/
theorem decode_of_encode_channelMetadata :
    ∃ (x : channelMetadata.Val) (v : Value), channelMetadata.WellKinded x ∧
      channelMetadata.encode Value x = .ok v ∧
      channelMetadata.probe v = true ∧ channelMetadata.decode v = .ok x := by
  let attributes : Record String := Record.empty.insert "region" "eu"
  let x : channelMetadata.Val :=
    ("c1", ("key", ()), none, Sum.inr (Sum.inl ()), ["p1", "p2"], attributes, ())
  let v : Value := .object
    [("channelId", .string "c1"), ("webAppActor", .object [("ed25519Key", .string "key")]),
      ("transport", .string "relayed"), ("peers", .array [.string "p1", .string "p2"]),
      ("attributes", .object [("region", .string "eu")])]
  have hx : channelMetadata.WellKinded x := by
    simp [x, channelMetadata, webAppActor, channelTransport, field, WellKinded, WellKindedFields,
      WellKindedVariant]
  exact ⟨x, v, hx, rfl, decode_of_encode channelMetadata channelMetadata_roundTrippable x hx v rfl⟩

end Shape

end Parley
