import Parley.Proofs.Shape.Failure

/-!
# Probing and decoding

`probe` and `decode` are two recursions over the same shape. This module compares them on dynamic
values: what decodes has been accepted by the probe (`probe_sound`), and what the probe accepts fails
to decode only inside an item of a list or an entry of a record (`probe_shallow`), the two places
where the probe does not look.
-/

namespace Parley

/-- The step leads to an item of a list or to an entry of a record. -/
def Segment.isElement : Segment → Bool
  | .field _ => false
  | .index _ => true
  | .key _ => true

namespace Shape

open Codec

/-! ### Soundness of the probe -/

/-- A value that decodes looks like the shape. -/
theorem probe_of_decode {s : Shape} {v : Value} {x : s.Val} (h : s.decode v = .ok x) :
    s.probe v = true := by
  induction s generalizing v with
  | bool | number | string | blob kind =>
    rw [decode] at h
    simp only [probe, Value.host_isBool, Value.host_isNumber, Value.host_isString,
      orMismatch_eq_ok.1 h]
    rfl
  | int kind =>
    rw [decode] at h
    rw [probe, h]
    rfl
  | null =>
    rw [decode] at h
    rw [probe]
    by_cases hv : Host.isNull v = true
    · exact hv
    · simp [hv] at h
  | unit => rfl
  | literal text =>
    rw [decode] at h
    rw [probe, readLiteral_eq_ok.1 h]
    exact beq_self_eq_true _
  | option content ih =>
    rw [decode] at h
    rw [probe]
    by_cases hv : Host.isUndefined v = true
    · rw [hv, Bool.true_or]
    · simp only [hv] at h
      obtain ⟨y, hy, _⟩ := Except.map_eq_ok.1 h
      rw [ih hy, Bool.or_true]
  | list item ih =>
    rw [decode] at h
    rw [probe]
    show (Host.items? v).isSome = true
    cases hv : Host.items? v with
    | none => rw [hv] at h; cases h
    | some items => rfl
  | record entry ih =>
    rw [decode] at h
    rw [probe]
    by_cases hv : Host.isObject v = true
    · exact hv
    · simp [hv] at h
  | struct name fields ih =>
    rw [decode] at h
    rw [probe]
    by_cases hv : Host.isObject v = true
    · simp only [hv] at h
      rw [hv, Bool.true_and, probeFields_iff]
      intro f hf
      obtain ⟨x, hx⟩ := decodeFields_eq_ok h f hf
      -- A missing property is read as undefined by both, as the field itself takes undefined.
      exact ih f hf ((readField_eq_ok fun a ha => ih f hf ha).1 hx)
    · simp [hv] at h
  | union name variants ih =>
    rw [decode] at h
    obtain ⟨c, hc, _⟩ := decodeVariants_eq_ok h
    rw [probe, probeVariants_eq, hc]
    rfl

/-! ### Errors behind an accepting probe -/

/-- If the probe accepts, decoding can only fail inside an item or an entry. -/
theorem Fails.inside {s : Shape} {v : Value} {e : DecodeError} (h : s.Fails v e)
    (hp : s.probe v = true) : ∃ g ∈ e.path, g.isElement = true := by
  induction h with
  | here hn _ =>
    rw [hn] at hp
    cases hp
  | content hv _ ih =>
    rw [probe] at hp
    exact ih ((Bool.or_eq_true_iff.1 hp).resolve_left (Bool.eq_false_iff.1 hv))
  | item _ _ _ => exact ⟨_, List.mem_cons_self, rfl⟩
  | entry _ _ _ => exact ⟨_, List.mem_cons_self, rfl⟩
  | field hf _ ih =>
    rw [probe, Bool.and_eq_true, probeFields_iff] at hp
    obtain ⟨g, hg, hge⟩ := ih (hp.2 _ hf)
    exact ⟨g, List.mem_cons_of_mem _ hg, hge⟩
  | missing hf hv hu =>
    -- The probe was asked about undefined in the place of the missing field.
    rw [probe, Bool.and_eq_true, probeFields_iff] at hp
    have hpf := hp.2 _ hf
    rw [Value.property_object, hv, Option.getD_none, hu] at hpf
    cases hpf
  | candidate hc _ ih => exact ih (committed_eq_some hc).2

/-! ### Shapes without lists and records -/

/-- Neither a list nor a record occurs in the shape. -/
def Flat : Shape → Prop :=
  Throughout fun
    | list _ => False
    | record _ => False
    | _ => True

/-- Where there are no items and no entries, every step to an error is a field. -/
theorem Fails.path_of_flat {s : Shape} {v : Value} {e : DecodeError} (h : s.Fails v e)
    (hs : s.Flat) : ∀ g ∈ e.path, g.isElement = false := by
  induction h with
  | here _ _ => exact fun g hg => absurd hg List.not_mem_nil
  | content _ _ ih => exact ih hs.2
  | item _ _ _ => exact hs.1.elim
  | entry _ _ _ => exact hs.1.elim
  | field hf _ ih =>
    have hsf := (throughout_struct.1 hs).2 _ hf
    exact List.forall_mem_cons.2 ⟨rfl, ih hsf⟩
  | missing _ _ _ => exact List.forall_mem_singleton.2 rfl
  | candidate hc _ ih =>
    have hsc := (throughout_union.1 hs).2 _ (committed_eq_some hc).1
    exact ih hsc

/-- What the probe of such a shape accepts decodes. -/
theorem Flat.decode_of_probe {s : Shape} (hs : s.Flat) {v : Value} (hp : s.probe v = true) :
    ∃ x, s.decode v = .ok x := by
  cases h : s.decode v with
  | ok x => exact ⟨x, rfl⟩
  | error e =>
    have hf := fails_of_decode h
    obtain ⟨g, hg, hge⟩ := hf.inside hp
    rw [hf.path_of_flat hs g hg] at hge
    cases hge

/-! ### Main statements -/

/-- The probe never refuses a value that decodes: what it refuses does not decode. -/
theorem probe_sound (s : Shape) (v : Value) :
    ((s.decode v).isOk = true → s.probe v = true) ∧
      (s.probe v = false → ∃ e, s.decode v = .error e) := by
  refine ⟨fun h => ?_, fun hp => ?_⟩
  · obtain ⟨x, hx⟩ := Except.isOk_iff.1 h
    exact probe_of_decode hx
  · cases h : s.decode v with
    | ok x =>
      rw [probe_of_decode h] at hp
      cases hp
    | error e => exact ⟨e, rfl⟩

/-- Two fields that share a property, and a union whose first candidate takes all that the second
does. -/
theorem probe_sound_overlapping :
    (struct "Pair" [(⟨"a", "x"⟩, option string), (⟨"b", "x"⟩, literal "on")]).probe
        (Value.object [("x", .string "on")]) = true ∧
      ∃ e, (union "Tag" [("Text", string), ("On", literal "on")]).decode Value.null = .error e :=
  ⟨(probe_sound _ _).1 rfl, (probe_sound _ _).2 rfl⟩

/-- The probe is shallow at items and entries only. Behind a probe that accepts, every error lies
inside one of them; without lists and records probing and decoding accept the same values, and a union
commits only to candidates that decode. -/
theorem probe_shallow (s : Shape) (v : Value) :
    (∀ e, s.probe v = true → s.decode v = .error e → ∃ g ∈ e.path, g.isElement = true) ∧
      (s.Flat → (s.probe v = true ↔ (s.decode v).isOk = true)) ∧
      ∀ name variants c, s = union name variants → s.Flat →
        committed variants v = some c → (c.2.decode v).isOk = true := by
  refine ⟨fun e hp h => (fails_of_decode h).inside hp, fun hs => ⟨fun hp => ?_, fun h => ?_⟩, ?_⟩
  · exact Except.isOk_iff.2 (hs.decode_of_probe hp)
  · obtain ⟨x, hx⟩ := Except.isOk_iff.1 h
    exact probe_of_decode hx
  · rintro name variants c rfl hs hc
    obtain ⟨hmem, hpc⟩ := committed_eq_some hc
    have hsc : c.2.Flat := (throughout_union.1 hs).2 c hmem
    exact Except.isOk_iff.2 (hsc.decode_of_probe hpc)

/-- A list that the probe accepts fails in its second item; a union of texts commits to the one that
decodes. -/
theorem probe_shallow_list :
    (∃ e, (list string).probe (Value.array [.string "a", .null]) = true ∧
      (list string).decode (Value.array [.string "a", .null]) = .error e ∧
        ∃ g ∈ e.path, g.isElement = true) ∧
      ((union "Tag" [("On", literal "on"), ("Text", string)]).decode
        (Value.string "off")).isOk = true ∧ (string.decode (Value.string "off")).isOk = true := by
  have hflat : (union "Tag" [("On", literal "on"), ("Text", string)]).Flat := by
    simp [Flat, Throughout, ThroughoutVariants]
  have hunion := probe_shallow (union "Tag" [("On", literal "on"), ("Text", string)])
    (Value.string "off")
  have hlist := probe_shallow (list string) (Value.array [.string "a", .null])
  refine ⟨⟨_, rfl, rfl, hlist.1 _ rfl rfl⟩, (hunion.2.1 hflat).1 rfl, ?_⟩
  exact hunion.2.2 _ _ ("Text", string) rfl hflat rfl

end Shape

end Parley
