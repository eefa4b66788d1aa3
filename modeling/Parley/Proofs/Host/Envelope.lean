import Parley.Proofs.Host.Blobless

/-!
# Envelopes over a host without binary properties

Context and arguments become properties of the envelope, so this is where a binary object that stands
alone is refused at last: `Host.Blobless.envelope_eq` says in which order. `Host.Blobless.codec_agrees`
puts together what the two hosts have in common.
-/

namespace Parley

/-- No struct inside the contract has two fields that travel under one name. -/
def Contract.DistinctWires : Contract → Prop
  | shaped s => s.DistinctWires
  | barred _ _ => True

namespace Host.Blobless

theorem agrees_payload {p : Payload} (hp : p.contract.DistinctWires) :
    Agrees (p.encode Blobless) (p.encode Value) := by
  obtain ⟨contract, x⟩ := p
  cases contract with
  | shaped s => exact agrees_encode hp x
  | barred name reason => exact agrees_error _ _

/-- A binary payload is written over either host. -/
theorem encode_blob {p : Payload} (hp : p.contract.DistinctWires) {b : Blob}
    (h : p.encode Value = .ok (.blob b)) : p.encode Blobless = .ok ⟨.blob b⟩ :=
  (agrees_payload hp ⟨.blob b⟩).2 ⟨h, trivial⟩

/-! ### Envelopes -/

/-- The error of a part of an envelope that is binary itself. -/
def refused (key : String) : EncodeError :=
  (EncodeError.ofHost (.rejected ("binary property " ++ key))).under (.field key)

theorem place_eq (es : List (String × Value)) (key : String) (x : Value) :
    Address.envelope.place Blobless key ⟨x⟩ ⟨.object es⟩ =
      if x.blob?.isSome then .error (refused key)
      else .ok ⟨.object (Entries.insert es key x)⟩ := by
  rw [Address.envelope.place, set_object]
  split <;> rfl

/-- Parts that can be written make an envelope, unless one of them is binary itself. -/
theorem envelope_eq (a : Address) (context : Payload) (args : Option Payload) :
    a.envelope Blobless context args = do
      let c ← (context.encode Blobless).mapError (EncodeError.under (.field "context"))
      let x ← args.mapM fun p => (p.encode Blobless).mapError (EncodeError.under (.field "args"))
      if c.value.blob?.isSome then .error (refused "context")
      else if (x.bind fun x => x.value.blob?).isSome then .error (refused "args")
      else return ⟨.object (a.entries c.value (x.map Blobless.value))⟩ := by
  rw [Address.envelope]
  refine bind_congr fun c => bind_congr fun x => ?_
  -- the three texts are set without more ado
  let texts : List (String × Value) :=
    [("managerId", .string a.managerId), ("group", .string a.group), ("method", .string a.method)]
  have hcontext : Address.envelope.place Blobless "context" c ⟨.object texts⟩ = _ :=
    place_eq texts "context" c.value
  cases x with
  | none =>
    show Address.envelope.place Blobless "context" c ⟨.object texts⟩ >>= pure = _
    rw [hcontext]
    split <;> rfl
  | some x =>
    show (Address.envelope.place Blobless "context" c ⟨.object texts⟩ >>= fun e =>
      if x.value.isUndefined then pure e else Address.envelope.place Blobless "args" x e) = _
    rw [hcontext]
    split
    · rfl
    · show (if x.value.isUndefined then Except.ok (⟨.object _⟩ : Blobless)
        else Address.envelope.place Blobless "args" x _) = _
      -- what is undefined is not binary, and is left out
      obtain ⟨x⟩ := x
      cases x <;> rfl

theorem noBlobProperty_entries {a : Address} {c : Value} {x : Option Value} :
    (Value.object (a.entries c x)).NoBlobProperty ↔
      (c.blob? = none ∧ c.NoBlobProperty) ∧ ∀ v ∈ x, v.blob? = none ∧ v.NoBlobProperty := by
  rw [Value.noBlobProperty_object, Address.entries]
  simp only [List.forall_mem_append, List.forall_mem_cons]
  have htext (t : String) : (Value.string t).blob? = none ∧ (Value.string t).NoBlobProperty :=
    ⟨rfl, trivial⟩
  cases x with
  | none => simp [htext]
  | some v =>
    cases v with
    | undefined => simp [Value.isUndefined, Value.blob?, Value.NoBlobProperty]
    | _ => simp [htext, Value.isUndefined]

/-- An envelope gets through if no part is binary. -/
theorem agrees_entries (a : Address) {c : Value} (hc : c.NoBlobProperty) {x : Option Value}
    (hx : ∀ v ∈ x, v.NoBlobProperty) :
    Agrees
      (if c.blob?.isSome then .error (refused "context")
        else if (x.bind Value.blob?).isSome then .error (refused "args")
        else .ok ⟨.object (a.entries c x)⟩)
      (.ok (.object (a.entries c x))) := by
  split
  · rename_i hblob
    apply agrees_refused
    intro hp
    rw [(noBlobProperty_entries.1 hp).1.1] at hblob
    cases hblob
  · rename_i hcblob
    split
    · rename_i hblob
      apply agrees_refused
      intro hp
      obtain ⟨b, hb⟩ := Option.isSome_iff_exists.1 hblob
      obtain ⟨v, hv, hb⟩ := Option.bind_eq_some_iff.1 hb
      rw [((noBlobProperty_entries.1 hp).2 v hv).1] at hb
      cases hb
    · rename_i hxblob
      apply agrees_ok
      rw [Option.not_isSome_iff_eq_none] at hcblob hxblob
      refine noBlobProperty_entries.2 ⟨⟨hcblob, hc⟩, fun v hv => ⟨?_, hx v hv⟩⟩
      exact Option.bind_eq_none_iff.1 hxblob v hv

/-- Building an envelope agrees. -/
theorem agrees_envelope (a : Address) {context : Payload} {args : Option Payload}
    (hcontext : context.contract.DistinctWires) (hargs : ∀ p ∈ args, p.contract.DistinctWires) :
    Agrees (a.envelope Blobless context args) (a.envelope Value context args) := by
  rw [envelope_eq, Address.envelope_eq]
  apply ((agrees_payload hcontext).mapError _ _).bind
  · intro c _ hc
    cases args with
    | none =>
      have hx : ∀ v ∈ (none : Option Value), v.NoBlobProperty := by simp
      exact agrees_entries a hc hx
    | some p =>
      simp only [Option.mapM_some, bind_map_left]
      apply ((agrees_payload (hargs p rfl)).mapError _ _).bind
      · intro x _ hx
        have hx : ∀ v ∈ some x, v.NoBlobProperty := by simpa using hx
        exact agrees_entries a hc hx
      · intro x w _ hw hwp
        cases hw
        exact ((noBlobProperty_entries.1 hwp).2 x rfl).2
  · intro c w _ hw hwp
    obtain ⟨x, -, hw⟩ := Except.bind_eq_ok.1 hw
    cases hw
    exact (noBlobProperty_entries.1 hwp).1.2

/-! ### Main statement -/

/-- Over the host without binary properties, probing, reading and classifying rejections do what they
do over dynamic values. Writing succeeds there exactly if over dynamic values it gives a value in which
no object has a binary property, and gives the same value. The same holds of building an envelope;
a binary context is refused under its name, and so are binary arguments. -/
theorem codec_agrees :
    (∀ (s : Shape) (v : Value),
      s.probe (⟨v⟩ : Blobless) = s.probe v ∧ s.decode (⟨v⟩ : Blobless) = s.decode v) ∧
    (∀ v : Value, Failure.ofRejection (⟨v⟩ : Blobless) = Failure.ofRejection v) ∧
    (∀ s : Shape, s.DistinctWires → ∀ (x : s.Val) (w : Blobless),
      s.encode Blobless x = .ok w ↔ s.encode Value x = .ok w.value ∧ w.value.NoBlobProperty) ∧
    ∀ (a : Address) (context : Payload) (args : Option Payload),
      context.contract.DistinctWires → (∀ p ∈ args, p.contract.DistinctWires) →
        (∀ e : Blobless, a.envelope Blobless context args = .ok e ↔
          a.envelope Value context args = .ok e.value ∧ e.value.NoBlobProperty) ∧
        (∀ b, context.encode Value = .ok (.blob b) →
          (∀ p ∈ args, ∃ x, p.encode Blobless = .ok x) →
            a.envelope Blobless context args = .error (refused "context")) ∧
        ∀ c p b, context.encode Blobless = .ok c → c.value.blob? = none → args = some p →
          p.encode Value = .ok (.blob b) →
            a.envelope Blobless context args = .error (refused "args") := by
  refine ⟨fun s v => ⟨reads.probe s v, reads.decode s v⟩, reads.ofRejection,
    fun s hs x => agrees_encode hs x, ?_⟩
  intro a context args hcontext hargs
  refine ⟨agrees_envelope a hcontext hargs, ?_, ?_⟩
  · intro b hb hx
    rw [envelope_eq, encode_blob hcontext hb]
    cases args with
    | none => rfl
    | some p =>
      obtain ⟨x, hx⟩ := hx p rfl
      simp only [Option.mapM_some, hx]
      rfl
  · rintro c p b hc hcblob rfl hb
    rw [envelope_eq, hc]
    simp only [Option.mapM_some, encode_blob (hargs p rfl) hb]
    show (if c.value.blob?.isSome then _ else _) = _
    rw [hcblob]
    rfl

open Shape in
/-- An upload is refused as a field and as arguments; in an array it gets through. -/
theorem codec_agrees_upload :
    ∃ (a : Address) (context : Payload) (b : Blob) (e : Value),
      (∀ w, (struct "Upload" [(⟨"blob", "blob"⟩, blob .buffer)]).encode Blobless (b, ()) ≠ .ok w) ∧
      a.envelope Blobless context (some (.of (list (blob .buffer)) [b])) = .ok ⟨e⟩ ∧
      a.envelope Blobless context (some (.of (blob .buffer) b)) = .error (refused "args") := by
  let a : Address := ⟨"mgr-1", "manager", "upload"⟩
  let context : Payload := .of string "https://app.example"
  let b : Blob := ⟨.buffer, [1]⟩
  let e : Value := .object (a.entries (.string "https://app.example") (some (.array [.blob b])))
  obtain ⟨-, -, hencode, henvelope⟩ := codec_agrees
  refine ⟨a, context, b, e, ?_, ?_, ?_⟩
  · intro w hw
    have hs : (struct "Upload" [(⟨"blob", "blob"⟩, blob .buffer)]).DistinctWires := by
      simp [DistinctWires, Throughout, ThroughoutFields, wires]
    obtain ⟨hwritten, hp⟩ := (hencode _ hs (b, ()) w).1 hw
    rw [← Except.ok.inj hwritten, Value.noBlobProperty_object] at hp
    obtain ⟨hblob, -⟩ := hp ("blob", .blob b) List.mem_cons_self
    cases hblob
  · have hargs : ∀ p ∈ some (Payload.of (list (blob .buffer)) [b]), p.contract.DistinctWires := by
      rintro p ⟨⟩
      exact ⟨trivial, trivial⟩
    have hp : e.NoBlobProperty := noBlobProperty_entries.2 ⟨⟨rfl, trivial⟩, by
      rintro v ⟨⟩
      exact ⟨rfl, trivial, trivial⟩⟩
    exact ((henvelope a context _ trivial hargs).1 ⟨e⟩).2 ⟨rfl, hp⟩
  · have hargs : ∀ p ∈ some (Payload.of (blob .buffer) b), p.contract.DistinctWires := by
      rintro p ⟨⟩
      exact trivial
    exact (henvelope a context _ trivial hargs).2.2 _ _ b rfl rfl rfl rfl

end Host.Blobless

end Parley
