import Parley.Proofs.Schema.Tag
import Parley.Proofs.Shape.Kind
import Parley.Schema.Channel
import Parley.Schema.Status

/-!
# Round trips of the schema

All structs and unions of the schema are round-trippable (`roundTrippable_of_mem`): the wire names of
a struct differ, and the candidates of a union are told apart by a literal, by a type tag, or by the
type of the value. What they write comes back, unless a buffer stands where a view is declared or the
other way round: such a value is neither refused nor restored (`preserves_iff_wellKinded`,
`mixed_kind_not_preserved`).
-/

namespace Parley.Schema

open Shape

/-- The unions of the schema. -/
def unions : List Shape :=
  [channelTransport, bufferSource, agentState, nullableString, challengeMessage, challengeResponse]

/-- The structs of the schema that are no challenges and no responses. -/
def structs : List Shape :=
  [requestContext, webAppActor, getSigningKeyArgs, channelMetadata, closeChannelArgs,
   listChannelsArgs, getChannelPeersArgs, peerInfo, signPayloadArgs, agentStatus,
   respondToChallengeArgs]

/-- All structs and unions of the schema. -/
def shapes : List Shape :=
  unions ++ structs ++ ChallengeKind.all.map (fun k => k.message.2)
    ++ ChallengeKind.all.map (fun k => k.response.2)

/-! ### Unions -/

@[simp] theorem channelTransport_roundTrippable : channelTransport.RoundTrippable := by
  have hsep := separated_literals [("Direct", "direct"), ("Relayed", "relayed")] (by decide)
  exact roundTrippable_union.2 ⟨hsep, by simp⟩

@[simp] theorem agentState_roundTrippable : agentState.RoundTrippable := by
  have hsep := separated_literals
    [("Ready", "ready"), ("Locked", "locked"), ("Updating", "updating")] (by decide)
  exact roundTrippable_union.2 ⟨hsep, by simp⟩

/-- Null is no text. -/
@[simp] theorem nullableString_roundTrippable : nullableString.RoundTrippable := by
  refine roundTrippable_union.2 ⟨List.pairwise_pair.2 ?_, by simp⟩
  intro x v _ h
  cases h
  rfl

/-- A view is no buffer. -/
@[simp] theorem bufferSource_roundTrippable : bufferSource.RoundTrippable := by
  refine roundTrippable_union.2 ⟨List.pairwise_pair.2 ?_, by simp⟩
  intro b v hkind h
  cases h
  have hkind : Blob.kind b = .view := hkind
  show ((some b).filter fun b => b.kind = .buffer).isSome = false
  simp [hkind]

@[simp] theorem message_roundTrippable (k : ChallengeKind) : k.message.2.RoundTrippable := by
  cases k <;> exact roundTrippable_struct.2 ⟨by decide, by simp [typeTag, field]⟩

@[simp] theorem response_roundTrippable (k : ChallengeKind) : k.response.2.RoundTrippable := by
  cases k <;> exact roundTrippable_struct.2 ⟨by decide, by simp [typeTag, field]⟩

@[simp] theorem challengeMessage_roundTrippable : challengeMessage.RoundTrippable := by
  have hsep := separated_tagged ChallengeKind.message_tagged ChallengeKind.requestTypes_nodup
  exact roundTrippable_union.2 ⟨hsep, by simp⟩

@[simp] theorem challengeResponse_roundTrippable : challengeResponse.RoundTrippable := by
  have hsep := separated_tagged ChallengeKind.response_tagged ChallengeKind.responseTypes_nodup
  exact roundTrippable_union.2 ⟨hsep, by simp⟩

/-! ### Structs -/

@[simp] theorem webAppActor_roundTrippable : webAppActor.RoundTrippable :=
  roundTrippable_struct.2 ⟨by decide, by simp [field]⟩

theorem roundTrippable_of_mem_unions {s : Shape} (hs : s ∈ unions) : s.RoundTrippable := by
  simp only [unions, List.mem_cons, List.not_mem_nil, or_false] at hs
  rcases hs with rfl | rfl | rfl | rfl | rfl | rfl <;> simp

theorem roundTrippable_of_mem_structs {s : Shape} (hs : s ∈ structs) : s.RoundTrippable := by
  simp only [structs, List.mem_cons, List.not_mem_nil, or_false] at hs
  rcases hs with rfl | rfl | rfl | rfl | rfl | rfl | rfl | rfl | rfl | rfl | rfl <;>
    exact roundTrippable_struct.2 ⟨by decide, by simp [field]⟩

/-- Every struct and every union of the schema is round-trippable. -/
theorem roundTrippable_of_mem {s : Shape} (hs : s ∈ shapes) : s.RoundTrippable := by
  rw [shapes, List.mem_append, List.mem_append, List.mem_append] at hs
  rcases hs with ((hs | hs) | hs) | hs
  · exact roundTrippable_of_mem_unions hs
  · exact roundTrippable_of_mem_structs hs
  · obtain ⟨k, _, rfl⟩ := List.mem_map.1 hs
    exact message_roundTrippable k
  · obtain ⟨k, _, rfl⟩ := List.mem_map.1 hs
    exact response_roundTrippable k

/-! ### Main statement -/

/-- A value of the schema is preserved if and only if it is refused or well-kinded. Where no binary
object occurs every value is preserved. -/
theorem preserves_iff_wellKinded (s : Shape) (hs : s ∈ shapes) :
    (∀ x : s.Val, s.Preserves x ↔ (∃ e, s.encode Value x = .error e) ∨ s.WellKinded x) ∧
      (s.WithoutBlobs → ∀ x : s.Val, s.Preserves x) := by
  have hiff := (roundTrippable_of_mem hs).preserves_iff
  exact ⟨hiff, fun hb x => (hiff x).2 (Or.inr (hb.wellKinded x))⟩

/-- A view to be signed, declared as one, and what is known of a peer. -/
theorem preserves_signPayloadArgs :
    (∃ x : signPayloadArgs.Val, signPayloadArgs ∈ shapes ∧ signPayloadArgs.WellKinded x ∧
      signPayloadArgs.Preserves x) ∧
    (peerInfo ∈ shapes ∧ peerInfo.WithoutBlobs ∧ ∀ x : peerInfo.Val, peerInfo.Preserves x) := by
  have hsign : signPayloadArgs ∈ shapes := by simp [shapes, structs]
  have hpeer : peerInfo ∈ shapes := by simp [shapes, structs]
  let view : Blob := ⟨.view, [1, 2]⟩
  let x : signPayloadArgs.Val := (("key", ()), .inr (.inl view), ())
  have hx : signPayloadArgs.WellKinded x := ⟨⟨trivial, trivial⟩, rfl, trivial⟩
  have hblobs : peerInfo.WithoutBlobs := ⟨trivial, ⟨trivial, trivial⟩, trivial, trivial, trivial⟩
  exact ⟨⟨x, hsign, hx, ((preserves_iff_wellKinded signPayloadArgs hsign).1 x).2 (Or.inr hx)⟩,
    hpeer, hblobs, (preserves_iff_wellKinded peerInfo hpeer).2 hblobs⟩

/-- Not all values of the schema are preserved: a view that is declared a buffer is written all the
same, and then reads as the other candidate. -/
theorem mixed_kind_not_preserved : ¬ ∀ s ∈ shapes, ∀ x : s.Val, s.Preserves x := by
  intro h
  have hmem : bufferSource ∈ shapes := by simp [shapes, unions]
  let view : Blob := ⟨.view, [1]⟩
  rcases h bufferSource hmem (.inl view) with ⟨e, he⟩ | ⟨v, hv, hread⟩
  · cases he
  · cases hv
    cases hread

end Parley.Schema
