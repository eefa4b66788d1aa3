import Parley.Proofs.Dispatch
import Parley.Proofs.Number

/-!
# Failures on this side and from the other one

A failure arises on this side (`Failure.Local`), and is then never an abort, or it is what a
rejection says: `Failure.ofRejection` reads a code and a message off any payload, and the failure is
an abort exactly if the payload names the number 20 (`Failure.kind_ofRejection`).
-/

namespace Parley

/-! ### Numbers as integers -/

/-- The integer that a value holds, if it is a number that equals one. -/
def Value.integer? (v : Value) : Option Int := v.number?.bind Double.toInt?

theorem Value.integer?_int (n : Int32) : (Value.int n).integer? = some n.toInt := by
  have hlow := Int32.le_toInt n
  have hhigh := Int32.toInt_lt n
  show (Double.ofInt n.toInt).toInt? = some n.toInt
  exact Double.toInt?_ofInt_of_lt (by omega)

/-- Twenty is held by one small integer and by one double. -/
theorem Value.integer?_eq_twenty {v : Value} :
    v.integer? = some 20 ↔ v = .int 20 ∨ v = .double (Double.ofInt 20) := by
  constructor
  · intro h
    cases v with
    | int n =>
      rw [integer?_int] at h
      have hn : n.toInt = (20 : Int32).toInt := Option.some.inj h
      exact .inl (congrArg int (Int32.toInt_inj.mp hn))
    | double d =>
      have hd : d.toInt? = some 20 := h
      -- minus zero is the one double that its integer does not give back
      have hz : d ≠ Double.negativeZero := by
        intro hz
        rw [hz, Double.toInt?_negativeZero] at hd
        cases hd
      exact .inr (congrArg double (Double.ofInt_of_toInt? hd hz).symm)
    | _ => cases h
  · rintro (rfl | rfl)
    · exact integer?_int 20
    · exact Double.toInt?_ofInt_of_lt (n := 20) (by decide)

/-- The double twenty. -/
example : Double.ofInt 20 = ⟨0x4034000000000000⟩ := by decide

namespace Failure

/-! ### Failures on this side -/

/-- The failures that arise on this side: of queries that are refused, of replies that are not what
they should be, and of results that are asked in vain. -/
inductive Local : Failure → Prop
  | disabled : Local disabled
  | encoding (e : EncodeError) : Local (encoding e)
  | unreached (e : TransportError) : Local (invalidState e.text)
  | decoding (e : DecodeError) : Local (decoding e)
  | wrongResponse (expected found : Schema.ChallengeKind) : Local (wrongResponse expected found)
  | abandoned : Local abandoned

theorem Local.code_eq {f : Failure} (h : f.Local) : f.code = invalidStateCode := by
  cases h <;> rfl

theorem Local.kind_eq {f : Failure} (h : f.Local) : f.kind = .invalidState := by
  rw [kind, h.code_eq]
  rfl

/-! ### Rejections -/

variable (payload : Value)

theorem toOption_readInt_int64 (v : Value) :
    (Codec.readInt .int64 v).toOption =
      (v.integer?.filter fun n => n.natAbs < 2 ^ 53).map Int64.ofInt := by
  have hrange : ∀ n, IntKind.int64.inRange n = decide (n.natAbs < 2 ^ 53) := by
    intro n
    rw [Bool.eq_iff_iff, decide_eq_true_iff, IntKind.inRange, Bool.and_eq_true, decide_eq_true_iff,
      decide_eq_true_iff]
    simp only [IntKind.least, IntKind.greatest, IntKind.maxSafe]
    omega
  have hnumber : Host.number? v = v.number? := rfl
  rw [Codec.readInt, hnumber, Value.integer?]
  cases v.number? with
  | none => rfl
  | some d =>
    rw [Option.bind_some]
    cases hd : d.toInt? with
    | none => simp [Except.toOption, hd]
    | some n =>
      simp only [hd, hrange, Option.filter_some, decide_eq_true_eq]
      split <;> rfl

/-- The code of a rejection is the integer in its `result`, if that is one which every double tells
apart from the others, and else zero. -/
theorem toInt_code_ofRejection :
    (ofRejection payload).code.toInt =
      (((payload.get? "result").bind Value.integer?).filter fun n => n.natAbs < 2 ^ 53).getD 0 := by
  rw [ofRejection]
  show (Option.getD (Option.bind (payload.get? "result") _) unknownCode).toInt = _
  cases payload.get? "result" with
  | none => rfl
  | some v =>
    have hread := toOption_readInt_int64 v
    refine (congrArg (fun code : Option Int64 => (code.getD unknownCode).toInt) hread).trans ?_
    rw [Option.bind_some]
    cases hn : v.integer?.filter fun n => n.natAbs < 2 ^ 53 with
    | none => rfl
    | some n =>
      have hlt : n.natAbs < 2 ^ 53 := by simpa using (Option.filter_eq_some_iff.mp hn).2
      exact Int64.toInt_ofInt_of_le (by omega) (by omega)

theorem message_ofRejection :
    (ofRejection payload).message = (payload.get? "message").bind Value.string? := by
  show ((payload.get? "message").bind fun v => (Shape.decode .string v).toOption) = _
  congr 1
  funext v
  cases v <;> rfl

/-- The payload of a rejection says that the operation was aborted: it is an object whose `result`
is the number 20. -/
def Aborts (payload : Value) : Prop :=
  ∃ entries, payload = .object entries ∧
    (Entries.get? entries "result" = some (.int 20) ∨
      Entries.get? entries "result" = some (.double (Double.ofInt 20)))

theorem aborts_iff :
    Aborts payload ↔ ∃ v, payload.get? "result" = some v ∧ v.integer? = some 20 := by
  simp only [Value.get?_eq_some, Value.integer?_eq_twenty, Aborts]
  constructor
  · rintro ⟨entries, rfl, h | h⟩
    · exact ⟨_, ⟨entries, rfl, h⟩, .inl rfl⟩
    · exact ⟨_, ⟨entries, rfl, h⟩, .inr rfl⟩
  · rintro ⟨v, ⟨entries, rfl, h⟩, rfl | rfl⟩
    · exact ⟨entries, rfl, .inl h⟩
    · exact ⟨entries, rfl, .inr h⟩

theorem kind_eq_abort {f : Failure} : f.kind = .abort ↔ f.code.toInt = 20 := by
  have hcode : f.code.toInt = 20 ↔ f.code = abortCode := Int64.toInt_inj (y := abortCode)
  rw [hcode, kind]
  split <;> simp [*]

/-- A rejection is an abort if its payload says so, and never otherwise. -/
theorem kind_ofRejection : (ofRejection payload).kind = .abort ↔ Aborts payload := by
  rw [kind_eq_abort, toInt_code_ofRejection, aborts_iff, ← Option.bind_eq_some_iff]
  cases (payload.get? "result").bind Value.integer? with
  | none => simp
  | some n =>
    rw [Option.filter_some, Option.some_inj]
    split
    · rfl
    · rename_i hn
      have hne : n ≠ 20 := by
        rintro rfl
        exact hn rfl
      simp [hne]

end Failure

/-! ### What callers see -/

namespace AgentError

theorem message_ofFailure {f : Failure} {message : String} (h : f.message = some message)
    (hne : message ≠ "") : (ofFailure f).message = message := by
  simp [ofFailure, h, Option.filter_some, hne]

theorem message_ofFailure_of_empty {f : Failure} (h : f.message.getD "" = "") :
    (ofFailure f).message = Failure.defaultMessage := by
  rw [ofFailure]
  cases hm : f.message with
  | none => rfl
  | some message =>
    rw [hm] at h
    have hempty : message = "" := h
    simp [hempty, Option.filter_some]

/-- The message of an error is never empty. -/
theorem message_ofFailure_ne (f : Failure) : (ofFailure f).message ≠ "" := by
  cases hm : f.message with
  | none =>
    rw [message_ofFailure_of_empty (by rw [hm]; rfl)]
    decide
  | some message =>
    by_cases hne : message = ""
    · rw [message_ofFailure_of_empty (by rw [hm, hne]; rfl)]
      decide
    · rw [message_ofFailure hm hne]
      exact hne

end AgentError

/-! ### Where failures come from -/

/-- A query is refused on this side. -/
theorem Proxy.local_of_refusal {p : Proxy} {t : Transport} {q : Query} {f : Failure}
    (h : p.refusal? t q = some f) : f.Local := by
  rw [refusal?] at h
  split at h
  · exact Option.some.inj h ▸ .disabled
  · split at h
    · exact Option.some.inj h ▸ .encoding _
    · exact Option.some.inj h ▸ .unreached _
    · cases h

/-- A payload that is not what it should be is refused on this side. -/
theorem Reading.local_of_resolved {r : Reading} {payload : Value} {f : Failure}
    (h : r.outcome (.ok payload) = .error f) : f.Local := by
  cases r with
  | raw => cases h
  | typed c =>
    rw [outcome] at h
    split at h
    · cases h
    · exact Except.error.inj h ▸ .decoding _
  | challenge kind =>
    rw [outcome] at h
    split at h
    · simp only at h
      split at h
      · cases h
      · exact Except.error.inj h ▸ .wrongResponse _ _
    · exact Except.error.inj h ▸ .decoding _

end Parley
