import Parley.Proofs.Failure
import Parley.Proofs.Schema.Unambiguous
import Parley.Proofs.Shape.Total

/-!
# Challenges and the responses that they ask for

Whatever a challenge says, it has a dynamic value (`respondToChallengeArgs_total`).

A response is read by a union of nine structs, and its kind is compared with that of the challenge
afterwards. Since the candidates exclude each other, this comes to reading the one struct that is
paired with the challenge (`Reading.outcome_challenge`): every other payload is an error.
-/

namespace Parley

namespace Schema

open Shape

/-! ### Sending challenges -/

@[simp] theorem bufferSource_total : bufferSource.Total := total_union (by simp)

theorem message_total (k : ChallengeKind) : k.message.2.Total := by
  cases k <;> exact total_struct (by simp [typeTag, field])

@[simp] theorem challengeMessage_total : challengeMessage.Total := by
  refine total_union fun c hc => ?_
  obtain ⟨k, -, rfl⟩ := List.mem_map.mp hc
  exact message_total k

@[simp] theorem webAppActor_total : webAppActor.Total := total_struct (by simp [field])

/-- A challenge can be sent whatever it says. -/
theorem respondToChallengeArgs_total : respondToChallengeArgs.Total :=
  total_struct (by simp [field])

/-! ### Responses of a kind -/

/-- The response of a kind with the given content. -/
def ChallengeResponse.of : (k : ChallengeKind) → k.response.2.Val → challengeResponse.Val
  | .hello, x => .inl x
  | .ping, x => .inr (.inl x)
  | .signRequest, x => .inr (.inr (.inl x))
  | .keyRotation, x => .inr (.inr (.inr (.inl x)))
  | .attestation, x => .inr (.inr (.inr (.inr (.inl x))))
  | .nonceRequest, x => .inr (.inr (.inr (.inr (.inr (.inl x)))))
  | .capabilityQuery, x => .inr (.inr (.inr (.inr (.inr (.inr (.inl x))))))
  | .sessionResume, x => .inr (.inr (.inr (.inr (.inr (.inr (.inr (.inl x)))))))
  | .close, x => .inr (.inr (.inr (.inr (.inr (.inr (.inr (.inr (.inl x))))))))

namespace ChallengeResponse

@[simp] theorem kind_of (k : ChallengeKind) (x : k.response.2.Val) : kind (of k x) = k := by
  cases k <;> rfl

theorem chosen_of (k : ChallengeKind) (x : k.response.2.Val) :
    chosen (ChallengeKind.all.map ChallengeKind.response) (of k x) = ⟨k.response, x⟩ := by
  cases k <;> rfl

end ChallengeResponse

theorem responses_nodup : (ChallengeKind.all.map ChallengeKind.response).Nodup := by
  -- already their names differ
  have hnames : ((ChallengeKind.all.map ChallengeKind.response).map Prod.fst).Nodup := by decide
  exact hnames.of_map Prod.fst

/-- A value is read as a response exactly if the struct of some kind reads it. -/
theorem decode_response_eq_ok {v : Value} {r : challengeResponse.Val} :
    challengeResponse.decode v = .ok r ↔
      ∃ k x, k.response.2.decode v = .ok x ∧ r = ChallengeResponse.of k x := by
  constructor
  · intro h
    obtain ⟨-, hread⟩ := committed_of_decode h
    have hkind := ChallengeKind.chosen_fst ChallengeKind.response ChallengeKind.all r
    -- the candidate is replaced by the one of its kind, and its content with it
    cases hchosen : chosen (ChallengeKind.all.map ChallengeKind.response) r with
    | mk c x =>
      rw [hchosen] at hread hkind
      obtain rfl : c = _ := hkind
      refine ⟨_, x, hread, chosen_injective responses_nodup ?_⟩
      rw [hchosen, ChallengeResponse.chosen_of]
  · rintro ⟨k, x, hread, rfl⟩
    have hexclusive : Exclusive (ChallengeKind.all.map ChallengeKind.response) :=
      challengeResponse_unambiguous
    exact hexclusive.decode_eq_ok responses_nodup (ChallengeResponse.chosen_of k x) hread

end Schema

open Schema

/-! ### What a reply comes to -/

namespace Reading

variable {kind k : ChallengeKind} {payload : Value}

theorem outcome_of_response {x : k.response.2.Val} (h : k.response.2.decode payload = .ok x) :
    (challenge kind).outcome (.ok payload) =
      if k = kind then .ok (.read (.shaped challengeResponse) (ChallengeResponse.of k x))
      else .error (.wrongResponse kind k) := by
  have hread : (Contract.shaped challengeResponse).decode payload =
      .ok (ChallengeResponse.of k x) := decode_response_eq_ok.mpr ⟨k, x, h, rfl⟩
  simp only [outcome, hread, ChallengeResponse.kind_of]

theorem outcome_of_unread {e : DecodeError} (h : challengeResponse.decode payload = .error e) :
    (challenge kind).outcome (.ok payload) = .error (.decoding e) := by
  have hread : (Contract.shaped challengeResponse).decode payload = .error e := h
  simp only [outcome, hread]

/-- A payload that is the response to no kind of challenge does not decode. -/
theorem outcome_of_no_response
    (h : ∀ k : ChallengeKind, (k.response.2.decode payload).isOk = false) :
    ∃ e, (challenge kind).outcome (.ok payload) = .error (.decoding e) := by
  cases hread : challengeResponse.decode payload with
  | error e => exact ⟨e, outcome_of_unread hread⟩
  | ok r =>
    obtain ⟨k, x, hx, -⟩ := decode_response_eq_ok.mp hread
    have hnot := h k
    rw [hx] at hnot
    cases hnot

/-- A reply answers a challenge exactly if it names the paired type of response and the paired
struct reads it; what it answers is that struct. -/
theorem outcome_challenge {s : Settlement} {a : Answer} :
    (challenge kind).outcome s = .ok a ↔
      ∃ payload x, s = .ok payload ∧ payload.get? "type" = some (.string kind.responseType) ∧
        kind.response.2.decode payload = .ok x ∧
        a = .read (.shaped challengeResponse) (ChallengeResponse.of kind x) := by
  constructor
  · intro h
    cases s with
    | error payload => cases h
    | ok payload =>
      cases hread : challengeResponse.decode payload with
      | error e =>
        rw [outcome_of_unread hread] at h
        cases h
      | ok r =>
        obtain ⟨k, x, hx, -⟩ := decode_response_eq_ok.mp hread
        rw [outcome_of_response hx] at h
        by_cases hkind : k = kind
        · subst hkind
          rw [if_pos rfl] at h
          have htag := k.tag_of_response payload (Shape.probe_of_decode hx)
          have hentry := Value.get?_eq_some.mpr (entries_of_property htag)
          exact ⟨payload, x, rfl, hentry, hx, (Except.ok.inj h).symm⟩
        · rw [if_neg hkind] at h
          cases h
  · rintro ⟨payload, x, rfl, -, hx, rfl⟩
    rw [outcome_of_response hx, if_pos rfl]

end Reading

end Parley
