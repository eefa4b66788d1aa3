import Parley.Proofs.Shape.Edit
import Parley.Proofs.Shape.Kind
import Parley.Proofs.Shape.Representation
import Parley.Proofs.Shape.Total
import Parley.Proofs.Shape.WellFormed

/-!
# Reading and writing again

What was read can be written again, if no optional can hold something that is written as undefined
(`NoUnitOption.rewrites`). What comes of it is a normal form of the received value
(`Shape.normalize`): a struct keeps the properties of its fields, in the order of the fields and
without undefined ones; a number keeps its double, or its integer where one is read; and nothing is
kept where the shape ignores what stands there. The normal form reads as the received value does and
is its own normal form (`encode_of_decode`).
-/

namespace Parley

namespace Entries

/-- The entry of a property that shows, none for an undefined one. -/
def shown (key : String) (x : Value) : List (String × Value) :=
  if x.isUndefined then [] else [(key, x)]

theorem eq_of_mem_keys_shown {key k : String} {x : Value} (h : k ∈ keys (shown key x)) :
    k = key := by
  rw [shown] at h
  split at h
  · exact absurd h List.not_mem_nil
  · exact List.mem_singleton.1 h

end Entries

namespace Codec

variable {α V : Type}

/-- Entries are written if each of them is. -/
theorem writeEntries_ok {encode : α → Except EncodeError Value} {es : List (String × α)}
    (h : ∀ e ∈ es, ∃ v, encode e.2 = .ok v) (os : List (String × Value)) :
    ∃ os', writeEntries encode es (.object os) = .ok (.object os') := by
  induction es generalizing os with
  | nil => exact ⟨os, rfl⟩
  | cons e es ih =>
    obtain ⟨key, a⟩ := e
    obtain ⟨⟨v, hv⟩, h⟩ := List.forall_mem_cons.1 h
    rw [writeEntries, hv]
    exact ih h (Entries.insert os key v)

/-- A field is written behind the entries of an object without its property. -/
theorem writeField_of_not_mem {wire : String} {encoded : Except EncodeError Value}
    {os : List (String × Value)} (hnew : wire ∉ Entries.keys os) {object : Value}
    (h : writeField wire encoded (.object os) = .ok object) :
    ∃ x, encoded = .ok x ∧ object = .object (os ++ Entries.shown wire x) := by
  rw [writeField] at h
  obtain ⟨x, hx, h⟩ := Except.bind_eq_ok.1 h
  refine ⟨x, Except.mapError_eq_ok.1 hx, ?_⟩
  rw [Entries.shown]
  rw [Value.host_isUndefined] at h
  split at h
  · rename_i hx
    cases h
    rw [if_pos hx, List.append_nil]
  · rename_i hx
    cases Except.mapError_eq_ok.1 h
    rw [if_neg hx, Entries.insert_of_not_mem hnew]

/-- A record that was read has the keys of the object, and what their properties were read as. -/
theorem entries_of_readEntries [Host V] {decode : V → Except DecodeError α} {v : V}
    {keys : List String} {r r' : Record α} (hn : (r.keys ++ keys).Nodup)
    (h : readEntries decode v keys r = .ok r') :
    ∃ es, r'.entries = r.entries ++ es ∧
      List.Forall₂ (fun key e => key = e.1 ∧ decode (Host.property v key) = .ok e.2) keys es := by
  -- What was read before stays in front, so `r` varies.
  induction keys generalizing r with
  | nil =>
    cases h
    exact ⟨[], (List.append_nil _).symm, .nil⟩
  | cons key keys ih =>
    rw [readEntries] at h
    obtain ⟨a, ha, h⟩ := Except.bind_eq_ok.1 h
    have hnew : key ∉ r.keys := fun hk => List.disjoint_of_nodup_append hn hk List.mem_cons_self
    have hn' : ((r.insert key a).keys ++ keys).Nodup := by
      rw [Record.keys_insert_of_not_mem hnew, List.append_assoc]
      exact hn
    obtain ⟨es, hes, hread⟩ := ih hn' h
    refine ⟨(key, a) :: es, ?_, .cons ⟨rfl, Except.mapError_eq_ok.1 ha⟩ hread⟩
    rw [hes, Record.entries_insert_of_not_mem hnew, List.append_assoc, List.singleton_append]

end Codec

namespace Shape

open Codec

/-! ### What was read can be written -/

/-- No optional has a content that may be read as the unit. -/
def NoUnitOption : Shape → Prop :=
  Throughout fun
    | option content => unit ∉ content.readers
    | _ => True

/-- What was read as the shape is written again. It is undefined only if undefined was read, or if
the shape may be the unit. -/
def Rewrites (s : Shape) : Prop :=
  ∀ (v : Value) (x : s.Val), s.decode v = .ok x → ∃ w, s.encode Value x = .ok w ∧
    (unit ∉ s.readers → v.isUndefined = false → w.isUndefined = false)

theorem rewrites_option {content : Shape} (hc : content.Rewrites)
    (hunit : unit ∉ content.readers) : (option content).Rewrites := by
  intro v x h
  rcases decode_option_eq_ok h with ⟨hv, rfl⟩ | ⟨hv, y, hy, rfl⟩
  · refine ⟨.undefined, rfl, fun _ hv' => ?_⟩
    rw [hv'] at hv
    cases hv
  · obtain ⟨w, hw, hdefined⟩ := hc v y hy
    -- The content is there, so that it is not mistaken for an absent one.
    have hw' : Host.isUndefined w = false := hdefined hunit hv
    refine ⟨w, ?_, fun _ _ => hw'⟩
    show present (content.encode Value y) = .ok w
    rw [present, hw]
    exact if_neg (Bool.eq_false_iff.1 hw')

theorem rewrites_list {item : Shape} (hi : item.Rewrites) : (list item).Rewrites := by
  intro v xs h
  obtain ⟨items, rfl, hitems⟩ := decode_list_eq_ok h
  have hwritten : ∃ ws, List.Forall₂ (fun x w => item.encode Value x = .ok w) xs ws := by
    clear h
    induction hitems with
    | nil => exact ⟨[], .nil⟩
    | cons hx _ ih =>
      obtain ⟨w, hw, -⟩ := hi _ _ hx
      obtain ⟨ws, hws⟩ := ih
      exact ⟨w :: ws, .cons hw hws⟩
  obtain ⟨ws, hws⟩ := hwritten
  refine ⟨.array ws, ?_, fun _ _ => rfl⟩
  rw [encode]
  exact Except.map_eq_ok.2 ⟨ws, eachItem_eq_ok.2 hws, rfl⟩

theorem rewrites_record {entry : Shape} (he : entry.Rewrites) : (record entry).Rewrites := by
  intro v r h
  obtain ⟨es, rfl, hread⟩ := decode_record_eq_ok h
  have hentries : ∀ e ∈ Record.entries r, ∃ w, entry.encode Value e.2 = .ok w := by
    intro e hmem
    rcases mem_of_readEntries hread hmem with hempty | ⟨u, hu⟩
    · exact absurd hempty List.not_mem_nil
    · obtain ⟨w, hw, -⟩ := he u e.2 hu
      exact ⟨w, hw⟩
  obtain ⟨os, hos⟩ := writeEntries_ok hentries []
  exact ⟨.object os, hos, fun _ _ => rfl⟩

theorem rewrites_fields {fields : List (Label × Shape)} (hf : ∀ f ∈ fields, f.2.Rewrites)
    {v : Value} {xs : FieldVals fields} (h : decodeFields fields v = .ok xs)
    (os : List (String × Value)) :
    ∃ os', encodeFields Value fields xs (.object os) = .ok (.object os') := by
  induction fields generalizing os with
  | nil => exact ⟨os, rfl⟩
  | cons f fields ih =>
    obtain ⟨hhead, hf⟩ := List.forall_mem_cons.1 hf
    rw [decodeFields] at h
    obtain ⟨x, hx, h⟩ := Except.bind_eq_ok.1 h
    obtain ⟨xs', hxs, h⟩ := Except.bind_eq_ok.1 h
    cases h
    have hread := (readField_eq_ok fun a ha => probe_of_decode ha).1 hx
    obtain ⟨w, hw, -⟩ := hhead _ x hread
    obtain ⟨os', hos'⟩ := writeField_ok f.1.wire w os
    rw [encodeFields, hw, hos']
    exact ih hf hxs os'

theorem rewrites_variants {name : String} {variants : List (String × Shape)}
    (hc : ∀ c ∈ variants, c.2.Rewrites) {v : Value} {x : VariantVal variants}
    (h : decodeVariants name variants v = .ok x) :
    ∃ w, encodeVariants Value variants x = .ok w ∧
      (unit ∉ variantReaders variants → v.isUndefined = false → w.isUndefined = false) := by
  obtain ⟨-, hread⟩ := committed_of_decode h
  obtain ⟨w, hw, hdefined⟩ := hc _ (chosen_mem x) v _ hread
  rw [encodeVariants_eq]
  refine ⟨w, hw, fun hunit => hdefined fun hmem => hunit ?_⟩
  exact mem_variantReaders.2 ⟨_, chosen_mem x, hmem⟩

/-- What was read can be written, if no optional can hold the unit. -/
theorem NoUnitOption.rewrites {s : Shape} (hs : s.NoUnitOption) : s.Rewrites := by
  induction s with
  | bool | string | null | blob | literal => exact fun _ x _ => ⟨_, rfl, fun _ _ => rfl⟩
  | number => exact fun _ d _ => ⟨_, rfl, fun _ _ => Value.isUndefined_number d⟩
  | int kind =>
    intro v n h
    exact ⟨_, (writeInt_of_readInt h).2, fun _ _ => Value.isUndefined_number _⟩
  | unit => exact fun _ _ _ => ⟨_, rfl, fun hunit => absurd (List.mem_singleton.2 rfl) hunit⟩
  | option content ih => exact rewrites_option (ih hs.2) hs.1
  | list item ih => exact rewrites_list (ih hs.2)
  | record entry ih => exact rewrites_record (ih hs.2)
  | struct name fields ih =>
    obtain ⟨_, hfields⟩ := throughout_struct.1 hs
    intro v xs h
    obtain ⟨es, rfl, hread⟩ := decode_struct_eq_ok h
    obtain ⟨os, hos⟩ := rewrites_fields (fun f hf => ih f hf (hfields f hf)) hread []
    exact ⟨.object os, hos, fun _ _ => rfl⟩
  | union name variants ih =>
    obtain ⟨_, hvariants⟩ := throughout_union.1 hs
    exact fun v x h => rewrites_variants (fun c hc => ih c hc (hvariants c hc)) h

/-! ### The normal form -/

mutual

/-- The normal form that the shape gives to a value that it reads. -/
def normalize : Shape → Value → Value
  | number, v => (v.number?.map Value.number).getD v
  | int _, v => ((v.number?.bind Double.toInt?).map fun n => .number (Double.ofInt n)).getD v
  | unit, _ => .undefined
  | option content, v => if v.isUndefined then .undefined else content.normalize v
  | list item, v => .array ((v.items?.getD []).map item.normalize)
  | record entry, v =>
    .object ((Host.keys v).map fun key => (key, entry.normalize (Host.property v key)))
  | struct _ fields, v => .object (normalizeFields fields v)
  | union _ variants, v => normalizeVariants variants v
  | _, v => v

/-- The normal forms of the properties that the fields read, without undefined ones. -/
def normalizeFields : List (Label × Shape) → Value → List (String × Value)
  | [], _ => []
  | (l, s) :: fs, v =>
    Entries.shown l.wire (s.normalize (Host.property v l.wire)) ++ normalizeFields fs v

/-- The normal form that the first candidate gives whose probe accepts. -/
def normalizeVariants : List (String × Shape) → Value → Value
  | [], v => v
  | (_, s) :: vs, v => if s.probe v then s.normalize v else normalizeVariants vs v

end

theorem map_eq_of_forall₂ {α β : Type} {f : α → β} {as : List α} {bs : List β}
    (h : List.Forall₂ (fun a b => f a = b) as bs) : as.map f = bs := by
  rw [← List.forall₂_eq_eq_eq]
  exact List.forall₂_map_left_iff.2 h

/-- What was read of a well-formed value is written as the normal form. -/
def Normalizes (s : Shape) : Prop :=
  ∀ (v : Value) (x : s.Val) (w : Value), v.WellFormed → s.decode v = .ok x →
    s.encode Value x = .ok w → w = s.normalize v

theorem normalizes_option {content : Shape} (hc : content.Normalizes) :
    (option content).Normalizes := by
  intro v x w hv h hw
  rw [normalize]
  rcases decode_option_eq_ok h with ⟨hu, rfl⟩ | ⟨hu, y, hy, rfl⟩
  · cases hw
    exact (if_pos hu).symm
  · obtain ⟨hw, -⟩ := present_eq_ok hw
    rw [if_neg (Bool.eq_false_iff.1 hu)]
    exact hc v y w hv hy hw

theorem normalizes_list {item : Shape} (hi : item.Normalizes) : (list item).Normalizes := by
  intro v xs w hv h hw
  obtain ⟨items, rfl, hitems⟩ := decode_list_eq_ok h
  rw [encode] at hw
  obtain ⟨ws, hws, rfl⟩ := Except.map_eq_ok.1 hw
  have hread := (List.forall₂_and_left _ _).2 ⟨Value.wellFormed_array.1 hv, hitems⟩
  have hboth : List.Forall₂ (fun a w => item.normalize a = w) items ws :=
    forall₂_comp hread (eachItem_eq_ok.1 hws) fun a x w ha hx => (hi a x w ha.1 ha.2 hx).symm
  rw [← map_eq_of_forall₂ hboth]
  rfl

theorem normalizes_record {entry : Shape} (he : entry.Normalizes) :
    (record entry).Normalizes := by
  intro v r w hv h hw
  obtain ⟨es, rfl, hread⟩ := decode_record_eq_ok h
  have hkeys : ((Record.empty : Record entry.Val).keys ++ Entries.keys es).Nodup :=
    (Value.wellFormed_object.1 hv).1
  obtain ⟨rs, hrs, hentries⟩ := entries_of_readEntries hkeys hread
  obtain ⟨ws, rfl, hws⟩ := encode_record_eq_ok hw
  have hrs : Record.entries r = rs := hrs
  rw [hrs] at hws
  have hboth : List.Forall₂
      (fun key w => (key, entry.normalize (Host.property (Value.object es) key)) = w)
      (Entries.keys es) ws := by
    refine forall₂_comp hentries hws fun key e w hread hwrite => ?_
    obtain ⟨rfl, hx⟩ := hread
    obtain ⟨hkey, hy⟩ := hwrite
    exact Prod.ext hkey (he _ _ _ (hv.property e.1) hx hy).symm
  rw [← map_eq_of_forall₂ hboth]
  rfl

/-- Fields with names of their own are written in order, behind the entries that are there. -/
theorem normalizes_fields {fields : List (Label × Shape)} (hf : ∀ f ∈ fields, f.2.Normalizes)
    (hn : (wires fields).Nodup) {v : Value} (hv : v.WellFormed) {xs : FieldVals fields}
    (h : decodeFields fields v = .ok xs) {os : List (String × Value)}
    (hnew : ∀ wire ∈ wires fields, wire ∉ Entries.keys os) {w : Value}
    (hw : encodeFields Value fields xs (.object os) = .ok w) :
    w = .object (os ++ normalizeFields fields v) := by
  induction fields generalizing os with
  | nil =>
    cases hw
    rw [normalizeFields, List.append_nil]
  | cons f fields ih =>
    obtain ⟨x, xs⟩ := xs
    obtain ⟨hhead, hf⟩ := List.forall_mem_cons.1 hf
    obtain ⟨hnot, hn⟩ := List.nodup_cons.1 hn
    obtain ⟨hwire, hnew⟩ := List.forall_mem_cons.1 hnew
    rw [decodeFields] at h
    obtain ⟨x', hx, h⟩ := Except.bind_eq_ok.1 h
    obtain ⟨xs', hxs, h⟩ := Except.bind_eq_ok.1 h
    cases h
    have hread := (readField_eq_ok fun a ha => probe_of_decode ha).1 hx
    rw [encodeFields] at hw
    obtain ⟨object, hset, hw⟩ := Except.bind_eq_ok.1 hw
    obtain ⟨y, hy, rfl⟩ := writeField_of_not_mem hwire hset
    have hy : y = f.2.normalize (Host.property v f.1.wire) :=
      hhead _ x y (hv.property f.1.wire) hread hy
    have hnew' : ∀ wire ∈ wires fields,
        wire ∉ Entries.keys (os ++ Entries.shown f.1.wire y) := by
      intro wire hmem hkey
      rw [Entries.keys_append, List.mem_append] at hkey
      rcases hkey with hkey | hkey
      · exact hnew wire hmem hkey
      · rw [Entries.eq_of_mem_keys_shown hkey] at hmem
        exact hnot hmem
    rw [ih hf hn hxs hnew' hw, normalizeFields, ← hy, List.append_assoc]

theorem normalizeVariants_of_committed {variants : List (String × Shape)} {v : Value}
    {c : String × Shape} (hc : committed variants v = some c) :
    normalizeVariants variants v = c.2.normalize v := by
  induction variants with
  | nil => cases hc
  | cons c' variants ih =>
    rw [committed_cons] at hc
    rw [normalizeVariants]
    split at hc
    · rename_i hp
      cases hc
      exact if_pos hp
    · rename_i hp
      exact (if_neg hp).trans (ih hc)

theorem normalizes_variants {name : String} {variants : List (String × Shape)}
    (hc : ∀ c ∈ variants, c.2.Normalizes) {v : Value} (hv : v.WellFormed)
    {x : VariantVal variants} (h : decodeVariants name variants v = .ok x) {w : Value}
    (hw : encodeVariants Value variants x = .ok w) : w = normalizeVariants variants v := by
  obtain ⟨hcommitted, hread⟩ := committed_of_decode h
  rw [encodeVariants_eq] at hw
  rw [normalizeVariants_of_committed hcommitted]
  exact hc _ (chosen_mem x) v _ w hv hread hw

theorem DistinctWires.normalizes {s : Shape} (hs : s.DistinctWires) : s.Normalizes := by
  induction s with
  | bool =>
    intro v b w _ h hw
    cases hw
    cases v with
    | bool b' =>
      cases h
      rfl
    | _ => cases h
  | string =>
    intro v text w _ h hw
    cases hw
    cases v with
    | string text' =>
      cases h
      rfl
    | _ => cases h
  | null =>
    intro v x w _ h hw
    cases hw
    cases v with
    | null => rfl
    | _ => cases h
  | blob kind =>
    intro v b w _ h hw
    cases hw
    rw [decode] at h
    cases v with
    | blob b' =>
      obtain ⟨hb, -⟩ := Option.filter_eq_some_iff.1 (orMismatch_eq_ok.1 h)
      cases hb
      rfl
    | _ => cases h
  | literal text =>
    intro v x w _ h hw
    cases hw
    have htext := readLiteral_eq_ok.1 h
    cases v with
    | string text' =>
      cases htext
      rfl
    | _ => cases htext
  | number =>
    intro v d w _ h hw
    cases hw
    have hd : v.number? = some d := orMismatch_eq_ok.1 h
    rw [normalize, hd]
    rfl
  | int kind =>
    intro v n w _ h hw
    obtain ⟨hn, hwrite⟩ := writeInt_of_readInt h
    cases hwrite.symm.trans hw
    rw [normalize, hn]
    rfl
  | unit =>
    intro v x w _ _ hw
    cases hw
    rfl
  | option content ih => exact normalizes_option (ih hs.2)
  | list item ih => exact normalizes_list (ih hs.2)
  | record entry ih => exact normalizes_record (ih hs.2)
  | struct name fields ih =>
    obtain ⟨hn, hfields⟩ := throughout_struct.1 hs
    intro v xs w hv h hw
    obtain ⟨es, rfl, hread⟩ := decode_struct_eq_ok h
    exact normalizes_fields (fun f hf => ih f hf (hfields f hf)) hn hv hread
      (fun _ _ => List.not_mem_nil) hw
  | union name variants ih =>
    obtain ⟨_, hvariants⟩ := throughout_union.1 hs
    intro v x w hv h hw
    exact normalizes_variants (fun c hc => ih c hc (hvariants c hc)) hv h hw

theorem RoundTrippable.distinctWires {s : Shape} (hs : s.RoundTrippable) : s.DistinctWires := by
  refine Throughout.imp (fun t ht => ?_) hs
  cases t with
  | struct => exact ht
  | _ => trivial

/-! ### Main statement -/

/-- What was read can be written. A round-trippable shape reads the outcome as it read the received
value and writes it again; for well-formed values it is the normal form of what was received, which
is a normal form of itself. -/
theorem encode_of_decode (s : Shape) (hs : s.NoUnitOption) (v : Value) (x : s.Val)
    (h : s.decode v = .ok x) : ∃ v', s.encode Value x = .ok v' ∧
      (s.RoundTrippable → s.decode v' = .ok x ∧
        (∀ y, s.decode v' = .ok y → s.encode Value y = .ok v') ∧
        (v.WellFormed → v' = s.normalize v ∧ s.normalize v' = v')) := by
  obtain ⟨v', hv', -⟩ := hs.rewrites v x h
  refine ⟨v', hv', fun hround => ?_⟩
  have hread : s.decode v' = .ok x := hround.restores x v' (wellKinded_of_decode h) hv'
  have hnormal := hround.distinctWires.normalizes
  refine ⟨hread, fun y hy => ?_, fun hv => ⟨hnormal v x v' hv h hv', ?_⟩⟩
  · rw [hread] at hy
    cases hy
    exact hv'
  · exact (hnormal v' x v' (wellFormed_of_encode hv') hread hv').symm

/-- The note is explicitly undefined, there is a property that no field names, and the number stands
as a double. -/
theorem encode_of_decode_sample : ∃ (s : Shape) (v : Value) (x : s.Val), s.NoUnitOption ∧
    s.RoundTrippable ∧ v.WellFormed ∧ s.decode v = .ok x ∧
      s.encode Value x = .ok (.object [("id", .int 7)]) ∧
      s.decode (Value.object [("id", .int 7)]) = .ok x := by
  let s : Shape := struct "Sample"
    [(⟨"id", "id"⟩, int .uint32), (⟨"note", "note"⟩, option string)]
  let v : Value := .object
    [("note", .undefined), ("extra", .null), ("id", .double (Double.ofInt 7))]
  let x : s.Val := ((7 : UInt32), none, ())
  have hs : s.NoUnitOption := by
    simp [s, NoUnitOption, Throughout, ThroughoutFields, readers]
  have hround : s.RoundTrippable := roundTrippable_struct.2 ⟨by decide, by simp⟩
  have hv : v.WellFormed :=
    Value.wellFormed_object.2 ⟨by decide, by simp [Value.WellFormed]⟩
  have h : s.decode v = .ok x := rfl
  obtain ⟨v', hv', hagain⟩ := encode_of_decode s hs v x h
  obtain ⟨hread, -, hnormal⟩ := hagain hround
  have hnormal : v' = .object [("id", .int 7)] := (hnormal hv).1
  subst hnormal
  exact ⟨s, v, x, hs, hround, hv, h, hv', hread⟩

/-- A value without parts is not edited. -/
theorem Edits.eq_of_leaf {s : Shape} {v w : Value} (h : s.Edits v w) (hitems : v.items? = none)
    (hentries : v.entries? = none) : w = v := by
  rcases h.cases_head with rfl | ⟨u, hedit, -⟩
  · rfl
  · cases hedit with
    | entries => cases hentries
    | property => cases hentries
    | item => cases hitems

/-- More is lost than edits and representations of numbers: whatever stands where the unit is read,
the sign of a zero that is read as an integer, and the order of properties. -/
theorem lost_in_normal_form :
    (∃ v', unit.NoUnitOption ∧ unit.RoundTrippable ∧
      (∃ x, unit.decode (Value.string "abc") = .ok x ∧ unit.encode Value x = .ok v') ∧
        ¬ ∃ u, unit.Edits (.string "abc") u ∧ u.Renumbered v') ∧
    (∃ v', (int .uint32).NoUnitOption ∧ (int .uint32).RoundTrippable ∧
      (∃ x, (int .uint32).decode (Value.double Double.negativeZero) = .ok x ∧
        (int .uint32).encode Value x = .ok v') ∧
        ¬ ∃ u, (int .uint32).Edits (.double Double.negativeZero) u ∧ u.Renumbered v') ∧
    ∃ s : Shape, s.NoUnitOption ∧ s.RoundTrippable ∧
      ∃ x, s.decode (Value.object [("b", .null), ("a", .null)]) = .ok x ∧
        s.encode Value x = .ok (Value.object [("a", .null), ("b", .null)]) := by
  have hzero : (int .uint32).decode (Value.double Double.negativeZero) = .ok (0 : UInt32) := by
    show readInt .uint32 (Value.double Double.negativeZero) = _
    have hnumber : Host.number? (Value.double Double.negativeZero) = some Double.negativeZero := rfl
    simp only [readInt, hnumber, Double.toInt?_negativeZero]
    rfl
  refine ⟨⟨.undefined, trivial, trivial, ⟨(), rfl, rfl⟩, ?_⟩,
    ⟨_, trivial, trivial, ⟨(0 : UInt32), hzero, (writeInt_of_readInt hzero).2⟩, ?_⟩,
    struct "Pair" [(⟨"a", "a"⟩, null), (⟨"b", "b"⟩, null)], ?_,
    roundTrippable_struct.2 ⟨by decide, by simp⟩, ((), (), ()), rfl, rfl⟩
  · rintro ⟨u, hedits, hu⟩
    rw [hedits.eq_of_leaf rfl rfl] at hu
    cases hu
  · rintro ⟨u, hedits, hu⟩
    rw [hedits.eq_of_leaf rfl rfl] at hu
    have hnumber := Value.congr_of_outline Value.number? (fun u => by cases u <;> rfl) hu.outline
    rw [Value.number?_number] at hnumber
    exact absurd (Option.some.inj hnumber) (by decide)
  · simp [NoUnitOption, Throughout, ThroughoutFields]

end Shape

end Parley
