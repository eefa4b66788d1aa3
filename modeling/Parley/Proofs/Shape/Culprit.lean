import Parley.Proofs.Shape.Probe

/-!
# The cause of a decoding error

The path of an error is put together backwards, on the way out of the recursion. Followed forwards
from the value and the shape (`Shape.locate`) it must lead to the value that is to blame:
`decode_error_culprit` says that it stays inside both, that the value it ends at does not look like
the shape it ends at, and that the fault describes that value.
-/

namespace Parley

namespace Shape

open Codec

/-! ### Following a path -/

mutual

/-- Follows a path from a shape and a value side by side. An index leads to an item of an array and a
key to an entry of an object; a field leads to a property of an object, or to undefined if there is no
such property. On the way the content of an optional stands for the optional, and the candidate that
a union commits to stands for the union. -/
def locate : Shape → Value → Path → Option (Shape × Value)
  | s, v, [] => some (s, v)
  | option content, v, g :: path => locate content v (g :: path)
  | list item, .array items, .index n :: path => items[n]?.bind fun w => locate item w path
  | record entry, .object entries, .key k :: path =>
    (Entries.get? entries k).bind fun w => locate entry w path
  | struct _ fields, .object entries, .field wire :: path =>
    locateField fields wire (Host.property (Value.object entries) wire) path
  | union _ variants, v, g :: path => locateVariant variants v (g :: path)
  | _, _, _ :: _ => none

/-- Follows a path from the property of the field that travels under the given name. -/
def locateField : List (Label × Shape) → String → Value → Path → Option (Shape × Value)
  | [], _, _, _ => none
  | (l, s) :: fs, wire, w, path =>
    if l.wire = wire then locate s w path else locateField fs wire w path

/-- Follows a path from the first candidate whose probe accepts. -/
def locateVariant : List (String × Shape) → Value → Path → Option (Shape × Value)
  | [], _, _ => none
  | (_, s) :: vs, v, path => if s.probe v then locate s v path else locateVariant vs v path

end

theorem locate_nil (s : Shape) (v : Value) : s.locate v [] = some (s, v) := by
  cases s <;> rfl

/-- With distinct wire names, the name of a field leads to that field. -/
theorem locateField_of_mem {fields : List (Label × Shape)} (hn : (wires fields).Nodup)
    {f : Label × Shape} (hf : f ∈ fields) (w : Value) (path : Path) :
    locateField fields f.1.wire w path = f.2.locate w path := by
  induction fields with
  | nil => exact absurd hf List.not_mem_nil
  | cons f' fields ih =>
    rw [wires, List.map_cons] at hn
    obtain ⟨hnot, hn⟩ := List.nodup_cons.1 hn
    rw [locateField]
    rcases List.mem_cons.1 hf with rfl | hf
    · rw [if_pos rfl]
    · have hne : f'.1.wire ≠ f.1.wire := by
        intro he
        rw [he] at hnot
        exact hnot (List.mem_map.2 ⟨f, hf, rfl⟩)
      rw [if_neg hne, ih hn hf]

theorem locateVariant_of_committed {variants : List (String × Shape)} {v : Value}
    {c : String × Shape} (hc : committed variants v = some c) (path : Path) :
    locateVariant variants v path = c.2.locate v path := by
  induction variants with
  | nil => cases hc
  | cons c' variants ih =>
    rw [committed_cons] at hc
    rw [locateVariant]
    by_cases hp : c'.2.probe v = true
    · rw [if_pos hp] at hc ⊢
      cases hc
      rfl
    · rw [if_neg hp] at hc ⊢
      exact ih hc

/-! ### Culprits -/

/-- The error `e` of reading `v` as `s` is due to `w`, which stands where `t` was expected. -/
structure Culprit (s : Shape) (v : Value) (e : DecodeError) (t : Shape) (w : Value) : Prop where
  /-- The path of the error leads to `w`, and the shapes along it to `t`. -/
  located : s.locate v e.path = some (t, w)
  /-- `w` does not look like `t`. -/
  refused : t.probe w = false
  /-- A missing field is no key of the object before it. -/
  missing : e.fault = .missingField → ∃ path key u entries,
    e.path = path ++ [.field key] ∧ s.locate v path = some (u, .object entries) ∧
      Entries.get? entries key = none
  /-- Any other fault says what `w` is. -/
  described : e.fault ≠ .missingField → e.fault.Describes w

variable {s s' t : Shape} {v v' w : Value} {e : DecodeError}

/-- An error of a part, seen from the whole: the path gets the step to the part in front. -/
theorem Culprit.under {g : Segment}
    (hstep : ∀ path, s.locate v (g :: path) = s'.locate v' path) (h : Culprit s' v' e t w) :
    Culprit s v (e.under g) t w where
  located := by
    rw [← h.located]
    exact hstep e.path
  refused := h.refused
  missing := by
    intro hm
    obtain ⟨path, key, u, entries, hpath, hloc, hget⟩ := h.missing hm
    refine ⟨g :: path, key, u, entries, ?_, ?_, hget⟩
    · exact congrArg (g :: ·) hpath
    · rw [hstep, hloc]
  described := h.described

/-- An error of a shape that stands for another one on the way. If the path is empty the other shape
is the one that refuses. -/
theorem Culprit.through (hstep : ∀ g path, s.locate v (g :: path) = s'.locate v (g :: path))
    (hprobe : s'.probe v = false → s.probe v = false) (h : Culprit s' v e t w) :
    ∃ t', Culprit s v e t' w := by
  have hloc := h.located
  cases hpath : e.path with
  | nil =>
    -- The path ends before the step, so that the shape itself is the one to blame.
    rw [hpath, locate_nil] at hloc
    cases hloc
    refine ⟨s, by rw [hpath, locate_nil], hprobe h.refused, ?_, h.described⟩
    intro hm
    obtain ⟨path, key, u, entries, hp, _⟩ := h.missing hm
    rw [hpath] at hp
    exact absurd hp.symm (List.append_ne_nil_of_right_ne_nil _ (List.cons_ne_nil _ _))
  | cons g rest =>
    rw [hpath] at hloc
    refine ⟨t, by rw [hpath, hstep, hloc], h.refused, ?_, h.described⟩
    intro hm
    obtain ⟨path, key, u, entries, hp, hu, hget⟩ := h.missing hm
    cases path with
    | nil =>
      rw [locate_nil] at hu
      cases hu
      exact ⟨[], key, s, entries, hp, locate_nil _ _, hget⟩
    | cons g' path => exact ⟨g' :: path, key, u, entries, hp, by rw [hstep, hu], hget⟩

/-- Every way of failing has a culprit. -/
theorem Fails.culprit (h : s.Fails v e) (hs : s.DistinctWires) : ∃ t w, Culprit s v e t w := by
  induction h with
  | @here s v fault hp hd =>
    have hne : fault ≠ .missingField := by
      rintro rfl
      exact hd
    exact ⟨s, v, locate_nil s v, hp, fun hm => absurd hm hne, fun _ => hd⟩
  | @content s v e hv _ ih =>
    obtain ⟨t, w, h⟩ := ih hs.2
    have hprobe (hp : s.probe v = false) : (option s).probe v = false := by
      rw [probe, hp, Bool.or_false]
      exact hv
    have hstep (g : Segment) (path : Path) :
        (option s).locate v (g :: path) = s.locate v (g :: path) := rfl
    obtain ⟨t', h⟩ := h.through hstep hprobe
    exact ⟨t', w, h⟩
  | @item s items n a e ha _ ih =>
    obtain ⟨t, w, h⟩ := ih hs.2
    refine ⟨t, w, h.under ?_⟩
    intro path
    rw [locate, ha, Option.bind_some]
  | @entry s entries key a e ha _ ih =>
    obtain ⟨t, w, h⟩ := ih hs.2
    refine ⟨t, w, h.under ?_⟩
    intro path
    rw [locate, ha, Option.bind_some]
  | @field name fields f entries e hf _ ih =>
    obtain ⟨hn, hsf⟩ := throughout_struct.1 hs
    obtain ⟨t, w, h⟩ := ih (hsf f hf)
    refine ⟨t, w, h.under ?_⟩
    intro path
    rw [locate, locateField_of_mem hn hf]
  | @missing name fields f entries hf hv hu =>
    obtain ⟨hn, _⟩ := throughout_struct.1 hs
    refine ⟨f.2, .undefined, ?_, hu, fun _ => ?_, fun hne => absurd rfl hne⟩
    · show locate _ _ [.field f.1.wire] = _
      rw [locate, locateField_of_mem hn hf, locate_nil, Value.property_object, hv, Option.getD_none]
    · exact ⟨[], f.1.wire, _, entries, rfl, locate_nil _ _, hv⟩
  | @candidate name variants c v e hc _ ih =>
    obtain ⟨hmem, hpc⟩ := committed_eq_some hc
    obtain ⟨t, w, h⟩ := ih ((throughout_union.1 hs).2 c hmem)
    -- The candidate was chosen because it accepts, so the union is never the one to blame.
    have hprobe (hp : c.2.probe v = false) : (union name variants).probe v = false := by
      rw [hpc] at hp
      cases hp
    have hstep (g : Segment) (path : Path) :
        (union name variants).locate v (g :: path) = c.2.locate v (g :: path) := by
      rw [locate, locateVariant_of_committed hc]
    obtain ⟨t', h⟩ := h.through hstep hprobe
    exact ⟨t', w, h⟩

/-- A decoding error points at its cause, if structs name their properties apart. -/
theorem decode_error_culprit (s : Shape) (hs : s.DistinctWires) (v : Value) (e : DecodeError)
    (h : s.decode v = .error e) : ∃ t w, Culprit s v e t w :=
  (fails_of_decode h).culprit hs

/-- Inside an entry of a record, behind the candidate of a union, a field is missing. -/
theorem decode_error_culprit_nested :
    ∃ t w, Culprit
      (record (union "Entry"
        [("Text", string), ("Peers", list (struct "Peer" [(⟨"id", "id"⟩, bool)]))]))
      (.object [("a", .string "x"), ("b", .array [.object []])])
      ⟨[.key "b", .index 0, .field "id"], .missingField⟩ t w := by
  refine decode_error_culprit _ ?_ _ _ rfl
  simp [DistinctWires, Throughout, ThroughoutFields, ThroughoutVariants, wires]

end Shape

end Parley
