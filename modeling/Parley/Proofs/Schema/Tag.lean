import Parley.Proofs.Shape.RoundTrip
import Parley.Schema.Challenge

/-!
# Tagged structs

A struct that begins with a type tag writes the tag's text under `type` and looks only at values that
hold it there. Structs with different tags are therefore separated, whatever the rest of their
layouts is (`separated_tagged`).
-/

namespace Parley.Schema

open Shape Codec

/-- The property in which tags travel. -/
def tagKey : String := "type"

/-- What looks like a tagged struct holds the tag. -/
theorem tag_of_probe {name tag : String} {fields : List (Label × Shape)} {v : Value}
    (h : (Shape.struct name (typeTag tag :: fields)).probe v = true) :
    Host.property v tagKey = .string tag := by
  rw [probe, Bool.and_eq_true, probeFields_iff] at h
  have htag : Value.string? (Host.property v tagKey) = some tag :=
    eq_of_beq (h.2 _ List.mem_cons_self)
  cases hv : Host.property v tagKey with
  | string found =>
    rw [hv] at htag
    exact congrArg Value.string (Option.some.inj htag)
  | _ =>
    rw [hv] at htag
    cases htag

/-- What a tagged struct writes holds the tag. -/
theorem tag_of_encode {name tag : String} {fields : List (Label × Shape)}
    (hfields : tagKey ∉ wires fields) {x : (Shape.struct name (typeTag tag :: fields)).Val}
    {v : Value} (h : (Shape.struct name (typeTag tag :: fields)).encode Value x = .ok v) :
    Host.property v tagKey = .string tag := by
  obtain ⟨u, xs⟩ := x
  have h : (do
      let object ← writeField tagKey (.ok (Value.string tag)) (Value.object [])
      encodeFields Value fields xs object) = .ok v := h
  obtain ⟨object, hfirst, h⟩ := Except.bind_eq_ok.1 h
  cases hfirst
  -- The other fields travel in other properties and leave the tag alone.
  obtain ⟨os, rfl, hframe⟩ := encodeFields_frame h
  rw [Value.property_object, hframe tagKey hfields]
  rfl

/-- Structs with tags of their own are separated. -/
theorem separated_tagged {α : Type} {candidate : α → String × Shape} {tag : α → String}
    (hc : ∀ a, ∃ name fields,
      (candidate a).2 = .struct name (typeTag (tag a) :: fields) ∧ tagKey ∉ wires fields)
    {as : List α} (hn : (as.map tag).Nodup) : Separated (as.map candidate) := by
  apply List.pairwise_map.2
  apply (List.pairwise_map.1 hn).imp
  intro early late hne x v _ hv
  obtain ⟨earlyName, earlyFields, hearly, _⟩ := hc early
  obtain ⟨lateName, lateFields, hlate, hwires⟩ := hc late
  rw [hearly]
  generalize (candidate late).2 = s at hlate x
  subst hlate
  apply Bool.eq_false_iff.2
  intro hp
  have htag := (tag_of_probe hp).symm.trans (tag_of_encode hwires hv)
  exact hne (Value.string.inj htag)

/-! ### Challenges and responses -/

namespace ChallengeKind

/-- The candidate for challenges of a kind is tagged with their type name. -/
theorem message_tagged (k : ChallengeKind) : ∃ name fields,
    k.message.2 = .struct name (typeTag k.requestType :: fields) ∧ tagKey ∉ wires fields := by
  cases k <;> exact ⟨_, _, rfl, by decide⟩

/-- The candidate for responses of a kind is tagged with their type name. -/
theorem response_tagged (k : ChallengeKind) : ∃ name fields,
    k.response.2 = .struct name (typeTag k.responseType :: fields) ∧ tagKey ∉ wires fields := by
  cases k <;> exact ⟨_, _, rfl, by decide⟩

theorem requestTypes_nodup : (all.map requestType).Nodup := by decide

theorem responseTypes_nodup : (all.map responseType).Nodup := by decide

end ChallengeKind

end Parley.Schema
