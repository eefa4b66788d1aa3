import Parley.Proofs.Shape.RoundTrip

/-!
# Objects without repeated keys

Every operation on dynamic values keeps the keys of an object apart, so that what a shape writes is
well formed (`wellFormed_of_encode`).
-/

namespace Parley

namespace Value

theorem wellFormed_array {items : List Value} :
    (array items).WellFormed ↔ ∀ v ∈ items, v.WellFormed := by
  rw [WellFormed]
  induction items with
  | nil => simp [WellFormedItems]
  | cons v items ih => simp [WellFormedItems, ih]

theorem wellFormed_object {es : List (String × Value)} :
    (object es).WellFormed ↔ (Entries.keys es).Nodup ∧ ∀ e ∈ es, e.2.WellFormed := by
  have hentries : WellFormedEntries es ↔ ∀ e ∈ es, e.2.WellFormed := by
    induction es with
    | nil => simp [WellFormedEntries]
    | cons e es ih => simp [WellFormedEntries, ih]
  rw [WellFormed, hentries]

theorem wellFormed_empty : (object []).WellFormed := ⟨List.nodup_nil, trivial⟩

theorem wellFormed_number (d : Double) : (number d).WellFormed := by
  rcases number_eq d with ⟨n, hn⟩ | hd
  · rw [hn]
    trivial
  · rw [hd]
    trivial

/-- Setting a property keeps an object well formed. -/
theorem wellFormed_insert {es : List (String × Value)} (h : (object es).WellFormed) (key : String)
    {x : Value} (hx : x.WellFormed) : (object (Entries.insert es key x)).WellFormed := by
  obtain ⟨hn, hes⟩ := wellFormed_object.1 h
  apply wellFormed_object.2
  refine ⟨Entries.keys_insert_nodup hn key x, ?_⟩
  intro e he
  rcases Entries.mem_of_mem_insert he with rfl | he
  · exact hx
  · exact hes e he

theorem WellFormed.property {v : Value} (h : v.WellFormed) (key : String) :
    (Host.property v key).WellFormed := by
  cases v with
  | object es =>
    obtain ⟨-, hes⟩ := wellFormed_object.1 h
    rw [property_object]
    cases hx : Entries.get? es key with
    | none => trivial
    | some x => exact hes _ (Entries.mem_of_get? hx)
  | _ => trivial

end Value

namespace Shape

open Codec

/-- Entries of well-formed values are written into well-formed objects. -/
theorem wellFormed_writeEntries {α : Type} {encode : α → Except EncodeError Value}
    (he : ∀ a w, encode a = .ok w → w.WellFormed) {es : List (String × α)}
    {os : List (String × Value)} (hos : (Value.object os).WellFormed) {w : Value}
    (h : writeEntries encode es (.object os) = .ok w) : w.WellFormed := by
  induction es generalizing os with
  | nil =>
    cases h
    exact hos
  | cons e es ih =>
    obtain ⟨key, a⟩ := e
    rw [writeEntries] at h
    obtain ⟨x, hx, h⟩ := Except.bind_eq_ok.1 h
    obtain ⟨object, hset, h⟩ := Except.bind_eq_ok.1 h
    cases Except.mapError_eq_ok.1 hset
    exact ih (Value.wellFormed_insert hos key (he a x (Except.mapError_eq_ok.1 hx))) h

theorem wellFormed_encodeFields {fields : List (Label × Shape)}
    (hf : ∀ f ∈ fields, ∀ (x : f.2.Val) w, f.2.encode Value x = .ok w → w.WellFormed)
    {xs : FieldVals fields} {os : List (String × Value)} (hos : (Value.object os).WellFormed)
    {w : Value} (h : encodeFields Value fields xs (.object os) = .ok w) : w.WellFormed := by
  induction fields generalizing os with
  | nil =>
    cases h
    exact hos
  | cons f fields ih =>
    obtain ⟨x, xs⟩ := xs
    obtain ⟨hhead, hf⟩ := List.forall_mem_cons.1 hf
    rw [encodeFields, writeField] at h
    obtain ⟨object, hset, h⟩ := Except.bind_eq_ok.1 h
    obtain ⟨y, hy, hset⟩ := Except.bind_eq_ok.1 hset
    have hy := hhead x y (Except.mapError_eq_ok.1 hy)
    split at hset
    · cases hset
      exact ih hf hos h
    · cases Except.mapError_eq_ok.1 hset
      exact ih hf (Value.wellFormed_insert hos f.1.wire hy) h

/-- No object that is written holds a key twice. -/
theorem wellFormed_of_encode {s : Shape} {x : s.Val} {w : Value} (h : s.encode Value x = .ok w) :
    w.WellFormed := by
  induction s generalizing w with
  | bool | string | null | unit | blob | literal =>
    cases h
    trivial
  | number =>
    cases h
    exact Value.wellFormed_number _
  | int kind =>
    rw [(writeInt_eq_ok h).1]
    exact Value.wellFormed_number _
  | option content ih =>
    cases x with
    | none =>
      cases h
      trivial
    | some y => exact ih (present_eq_ok h).1
  | list item ih =>
    rw [encode] at h
    obtain ⟨ws, hws, rfl⟩ := Except.map_eq_ok.1 h
    apply Value.wellFormed_array.2
    have hitems := eachItem_eq_ok.1 hws
    intro w hw
    obtain ⟨n, hn, rfl⟩ := List.getElem_of_mem hw
    exact ih (hitems.get (hitems.length_eq ▸ hn) hn)
  | record entry ih => exact wellFormed_writeEntries (fun _ _ => ih) Value.wellFormed_empty h
  | struct name fields ih =>
    exact wellFormed_encodeFields (fun f hf _ _ => ih f hf) Value.wellFormed_empty h
  | union name variants ih =>
    rw [encode_union] at h
    exact ih _ (chosen_mem x) h

end Shape

end Parley
