import Parley.Proofs.Schema.RoundTrip
import Parley.Proofs.Shape.Union

/-!
# The unions of the schema are unambiguous

No value looks like two candidates of a union of the schema: literals, type tags or the types of the
values tell them apart (`unambiguous_of_mem`). The tags of challenges and responses differ as well,
so that nothing is both, and the kind of what was read is the one that the tag names
(`unions_unambiguous`).
-/

namespace Parley.Schema

open Shape

/-- No value looks like two candidates, if the shape is a union. -/
def Unambiguous : Shape → Prop
  | .union _ variants => Exclusive variants
  | _ => True

/-! ### Unions without tags -/

theorem channelTransport_unambiguous : Unambiguous channelTransport :=
  exclusive_literals [("Direct", "direct"), ("Relayed", "relayed")] (by decide)

theorem agentState_unambiguous : Unambiguous agentState :=
  exclusive_literals [("Ready", "ready"), ("Locked", "locked"), ("Updating", "updating")]
    (by decide)

theorem nullableString_unambiguous : Unambiguous nullableString := by
  refine List.pairwise_pair.2 fun v hv => ?_
  cases v with
  | string text => rfl
  | _ => cases hv

theorem bufferSource_unambiguous : Unambiguous bufferSource := by
  refine List.pairwise_pair.2 fun v hv => ?_
  cases v with
  | blob b =>
    obtain ⟨kind, bytes⟩ := b
    cases kind with
    | buffer => rfl
    | view => cases hv
  | _ => cases hv

/-! ### Tagged unions -/

/-- A text in a property stands in the entry of an object. -/
theorem entries_of_property {v : Value} {key text : String}
    (h : Host.property v key = .string text) :
    ∃ entries, v = .object entries ∧ Entries.get? entries key = some (.string text) := by
  have hget : v.get? key = some (.string text) := by
    have hproperty : (v.get? key).getD .undefined = .string text := h
    cases hx : v.get? key with
    | none =>
      rw [hx] at hproperty
      cases hproperty
    | some x =>
      rw [hx] at hproperty
      exact congrArg some hproperty
  exact Value.get?_eq_some.mp hget

namespace ChallengeKind

theorem mem_all (k : ChallengeKind) : k ∈ all := by cases k <;> decide

theorem tag_of_message (k : ChallengeKind) (v : Value) (h : k.message.2.probe v = true) :
    Host.property v tagKey = .string k.requestType := by
  obtain ⟨name, fields, hshape, -⟩ := k.message_tagged
  rw [hshape] at h
  exact tag_of_probe h

theorem tag_of_response (k : ChallengeKind) (v : Value) (h : k.response.2.probe v = true) :
    Host.property v tagKey = .string k.responseType := by
  obtain ⟨name, fields, hshape, -⟩ := k.response_tagged
  rw [hshape] at h
  exact tag_of_probe h

/-- No challenge has the type name of a response. -/
theorem requestType_ne_responseType (k k' : ChallengeKind) : k.requestType ≠ k'.responseType := by
  have hne : ∀ k ∈ all, ∀ k' ∈ all, k.requestType ≠ k'.responseType := by decide
  exact hne k k.mem_all k' k'.mem_all

theorem chosen_fst (candidate : ChallengeKind → String × Shape) (ks : List ChallengeKind)
    (x : VariantVal (ks.map candidate)) :
    (chosen (ks.map candidate) x).1 = candidate (ofVariant candidate ks x) := by
  induction ks with
  | nil => exact nomatch x
  | cons k ks ih =>
    cases x with
    | inl x => rfl
    | inr x => exact ih x

end ChallengeKind

section Tagged

variable {candidate : ChallengeKind → String × Shape} {tag : ChallengeKind → String}
  (ht : ∀ (k : ChallengeKind) (v : Value), (candidate k).2.probe v = true →
    Host.property v tagKey = .string (tag k))
  {name : String} {ks : List ChallengeKind} {v : Value}
include ht

/-- Candidates with tags of their own exclude each other. -/
theorem exclusive_of_tag (hn : (ks.map tag).Nodup) : Exclusive (ks.map candidate) := by
  apply List.pairwise_map.2
  apply (List.pairwise_map.1 hn).imp
  intro k k' hne v hv
  rw [← Bool.not_eq_true]
  intro hv'
  have htags := (ht k v hv).symm.trans (ht k' v hv')
  exact hne (Value.string.inj htags)

/-- What looks like one of the candidates holds its tag. -/
theorem tag_of_probe_union (h : (Shape.union name (ks.map candidate)).probe v = true) :
    ∃ k, Host.property v tagKey = .string (tag k) := by
  rw [probe, probeVariants_eq] at h
  obtain ⟨c, hc⟩ := Option.isSome_iff_exists.mp h
  obtain ⟨hmem, hv⟩ := committed_eq_some hc
  obtain ⟨k, -, rfl⟩ := List.mem_map.mp hmem
  exact ⟨k, ht k v hv⟩

/-- What was read holds the tag of its kind. -/
theorem tag_of_decode_union {x : VariantVal (ks.map candidate)}
    (h : (Shape.union name (ks.map candidate)).decode v = .ok x) :
    Host.property v tagKey = .string (tag (ChallengeKind.ofVariant candidate ks x)) := by
  obtain ⟨hcommitted, -⟩ := committed_of_decode h
  have hv := (committed_eq_some hcommitted).2
  rw [ChallengeKind.chosen_fst] at hv
  exact ht _ v hv

end Tagged

theorem challengeMessage_unambiguous : Unambiguous challengeMessage :=
  exclusive_of_tag ChallengeKind.tag_of_message ChallengeKind.requestTypes_nodup

theorem challengeResponse_unambiguous : Unambiguous challengeResponse :=
  exclusive_of_tag ChallengeKind.tag_of_response ChallengeKind.responseTypes_nodup

theorem unambiguous_of_mem {s : Shape} (hs : s ∈ unions) : Unambiguous s := by
  simp only [unions, List.mem_cons, List.not_mem_nil, or_false] at hs
  rcases hs with rfl | rfl | rfl | rfl | rfl | rfl
  · exact channelTransport_unambiguous
  · exact bufferSource_unambiguous
  · exact agentState_unambiguous
  · exact nullableString_unambiguous
  · exact challengeMessage_unambiguous
  · exact challengeResponse_unambiguous

/-- Nothing looks like a challenge and like a response. -/
theorem not_message_and_response (v : Value) :
    ¬ (challengeMessage.probe v = true ∧ challengeResponse.probe v = true) := by
  rintro ⟨hm, hr⟩
  obtain ⟨k, hk⟩ := tag_of_probe_union ChallengeKind.tag_of_message hm
  obtain ⟨k', hk'⟩ := tag_of_probe_union ChallengeKind.tag_of_response hr
  exact k.requestType_ne_responseType k' (Value.string.inj (hk.symm.trans hk'))

/-! ### Main statement -/

/-- Whatever a value is, at most one candidate of each union of the schema accepts it, and the union
reads the same content by the same candidate, or fails in the same way, however its candidates are
ordered. Nothing is accepted as a challenge and as a response, and what is read as either is an
object whose `type` is the type name of the kind that was read. -/
theorem unions_unambiguous (v : Value) :
    (∀ name variants, Shape.union name variants ∈ unions →
      variants.countP (fun c => c.2.probe v) ≤ 1 ∧
      ∀ reordered, variants.Perm reordered →
        ((Shape.union name reordered).decode v).map (chosen reordered) =
          ((Shape.union name variants).decode v).map (chosen variants)) ∧
    ¬ (challengeMessage.probe v = true ∧ challengeResponse.probe v = true) ∧
    (∀ m, challengeMessage.decode v = .ok m → ∃ entries, v = .object entries ∧
      Entries.get? entries "type" = some (.string (ChallengeMessage.kind m).requestType)) ∧
    ∀ r, challengeResponse.decode v = .ok r → ∃ entries, v = .object entries ∧
      Entries.get? entries "type" = some (.string (ChallengeResponse.kind r).responseType) := by
  refine ⟨fun name variants hs => ?_, not_message_and_response v,
    fun m hm => entries_of_property (tag_of_decode_union ChallengeKind.tag_of_message hm),
    fun r hr => entries_of_property (tag_of_decode_union ChallengeKind.tag_of_response hr)⟩
  have hexclusive : Exclusive variants := unambiguous_of_mem hs
  exact ⟨hexclusive.countP_le_one v, fun reordered hp => hexclusive.chosen_decode_perm hp name v⟩

/-- A response with properties of other layouts besides its own: turning the candidates around
changes nothing, and no challenge accepts it. -/
theorem unions_unambiguous_pong :
    let v : Value := .object [("nonce", .string "n"), ("type", .string "pong"),
      ("sequence", .int 7), ("accepted", .bool true)]
    let variants := ChallengeKind.all.map ChallengeKind.response
    challengeResponse ∈ unions ∧ variants.Perm variants.reverse ∧
    variants.countP (fun c => c.2.probe v) ≤ 1 ∧
    ((Shape.union "ChallengeResponse" variants.reverse).decode v).map (chosen variants.reverse) =
      (challengeResponse.decode v).map (chosen variants) ∧
    ∃ r, challengeResponse.decode v = .ok r ∧ ∃ entries, v = .object entries ∧
      Entries.get? entries "type" = some (.string (ChallengeResponse.kind r).responseType) := by
  intro v variants
  obtain ⟨hunions, -, -, hresponse⟩ := unions_unambiguous v
  have hmem : challengeResponse ∈ unions := by simp [unions]
  obtain ⟨hcount, hperm⟩ := hunions _ _ hmem
  have hp : variants.Perm variants.reverse := variants.reverse_perm.symm
  have hread : challengeResponse.decode v = .ok (.inr (.inl ((), (7 : UInt32), ()))) := rfl
  exact ⟨hmem, hp, hcount, hperm _ hp, _, hread, hresponse _ hread⟩

end Parley.Schema
