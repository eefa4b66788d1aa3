import Parley.Envelope
import Parley.Host.Blobless
import Parley.Proofs.Except
import Parley.Proofs.Host.Replacing
import Parley.Proofs.Number

/-!
# Replacing binary objects in both hosts

Replacing the binary objects of a value by others of their kind keeps whatever can be read off it and
whatever is built, over dynamic values and over the host without binary properties alike. So nothing
that a codec does depends on the bytes of binary objects (`Host.BlobBlind`), and neither does an envelope.
-/

namespace Parley

/-! ### Requests -/

/-- A payload of the contract with every binary object in it replaced. -/
def Contract.mapBlobs (φ : Blob → Blob) : (c : Contract) → c.Val → c.Val
  | shaped s, x => s.mapBlobs φ x
  | barred _ _, x => x

/-- The payload with every binary object in it replaced. -/
def Payload.mapBlobs (φ : Blob → Blob) (p : Payload) : Payload :=
  ⟨p.contract, p.contract.mapBlobs φ p.value⟩

namespace Host

variable {V W : Type} [Host V] [Host W] {φ : Blob → Blob} {f : V → W}

theorem ReadsReplaced.decode_contract (h : ReadsReplaced φ f) (c : Contract) (v : V) :
    c.decode (f v) = (c.decode v).map (c.mapBlobs φ) := by
  cases c with
  | shaped s => exact h.decode s v
  | barred name reason => exact congrArg Except.error (h.mismatch name v)

namespace BuildsReplaced

variable (h : BuildsReplaced φ f)
include h

theorem encode_payload (p : Payload) : (p.mapBlobs φ).encode W = (p.encode V).map f := by
  obtain ⟨contract, x⟩ := p
  cases contract with
  | shaped s => exact h.encode s x
  | barred name reason => rfl

theorem set_text (v : V) (key s : String) :
    (Host.set (f v) key (Host.ofString s)).mapError EncodeError.ofHost =
      ((Host.set v key (Host.ofString s)).mapError EncodeError.ofHost).map f := by
  rw [← h.ofString]
  exact h.set_mapError v key (Host.ofString s) _

theorem place (key : String) (x e : V) :
    Address.envelope.place W key (f x) (f e) = (Address.envelope.place V key x e).map f :=
  h.set_mapError e key x _

theorem encode_part (key : String) (p : Payload) :
    ((p.mapBlobs φ).encode W).mapError (EncodeError.under (.field key)) =
      ((p.encode V).mapError (EncodeError.under (.field key))).map f := by
  rw [h.encode_payload, Except.mapError_map]

theorem encode_args (args : Option Payload) :
    (args.map (Payload.mapBlobs φ)).mapM
        (fun p : Payload => (p.encode W).mapError (EncodeError.under (.field "args"))) =
      (args.mapM fun p : Payload => (p.encode V).mapError (EncodeError.under (.field "args"))).map
        (Option.map f) := by
  cases args with
  | none => rfl
  | some p =>
    rw [Option.map_some, Option.mapM_some, Option.mapM_some, h.encode_part]
    cases (p.encode V).mapError (EncodeError.under (.field "args")) <;> rfl

/-- An envelope is built in the same way whatever the binary objects in it hold. -/
theorem envelope (a : Address) (context : Payload) (args : Option Payload) :
    a.envelope W (context.mapBlobs φ) (args.map (Payload.mapBlobs φ)) =
      (a.envelope V context args).map f := by
  refine Except.bind_map (h.encode_part "context" context) fun c => ?_
  refine Except.bind_map (h.encode_args args) fun x => ?_
  rw [← h.emptyObject]
  refine Except.bind_map (h.set_text _ "managerId" a.managerId) fun e => ?_
  refine Except.bind_map (h.set_text e "group" a.group) fun e => ?_
  refine Except.bind_map (h.set_text e "method" a.method) fun e => ?_
  refine Except.bind_map (h.place "context" c e) fun e => ?_
  cases x with
  | none => rfl
  | some x =>
    show (if Host.isUndefined (f x) = true then _ else Address.envelope.place W "args" (f x) (f e)) =
      Except.map f (if _ then _ else Address.envelope.place V "args" x e)
    rw [h.isUndefined, h.place]
    split <;> rfl

end BuildsReplaced

/-! ### Blindness -/

/-- Nothing that codecs do over the host depends on the bytes of binary objects: with the map `f`,
which replaces those in a value by `φ`, everything commutes, and all errors are the same. -/
structure BlobBlind (V : Type) [Host V] (φ : Blob → Blob) (f : V → V) : Prop where
  probe (s : Shape) (v : V) : s.probe (f v) = s.probe v
  decode (s : Shape) (v : V) : s.decode (f v) = (s.decode v).map (s.mapBlobs φ)
  encode (s : Shape) (x : s.Val) : s.encode V (s.mapBlobs φ x) = (s.encode V x).map f
  envelope (a : Address) (context : Payload) (args : Option Payload) :
    a.envelope V (context.mapBlobs φ) (args.map (Payload.mapBlobs φ)) =
      (a.envelope V context args).map f
  ofRejection (v : V) : Failure.ofRejection (f v) = Failure.ofRejection v

theorem blobBlind_of_replaced {f : V → V} (hreads : ReadsReplaced φ f) (hbuilds : BuildsReplaced φ f) :
    BlobBlind V φ f where
  probe := hreads.probe
  decode := hreads.decode
  encode := hbuilds.encode
  envelope := hbuilds.envelope
  ofRejection := hreads.ofRejection

end Host

/-! ### Dynamic values -/

namespace Value

variable {φ : Blob → Blob}

theorem items?_mapBlobs (v : Value) :
    (v.mapBlobs φ).items? = v.items?.map fun items => items.map (mapBlobs φ) := by
  cases v with
  | array items =>
    rw [mapBlobs_array]
    rfl
  | _ => rfl

theorem entries?_mapBlobs (v : Value) :
    (v.mapBlobs φ).entries? = v.entries?.map fun es => es.map (Prod.map id (mapBlobs φ)) := by
  cases v with
  | object es =>
    rw [mapBlobs_object]
    rfl
  | _ => rfl

theorem get?_mapBlobs (v : Value) (key : String) :
    (v.mapBlobs φ).get? key = (v.get? key).map (mapBlobs φ) := by
  rw [get?, get?, entries?_mapBlobs]
  cases v.entries? with
  | none => rfl
  | some es => exact Entries.get?_map (mapBlobs φ) es key

theorem keys_mapBlobs (v : Value) : (v.mapBlobs φ).keys = v.keys := by
  rw [keys, keys, entries?_mapBlobs]
  cases v.entries? with
  | none => rfl
  | some es => exact Entries.keys_map (mapBlobs φ) es

theorem mapBlobs_number (d : Double) : (number d).mapBlobs φ = number d := by
  rcases number_eq d with ⟨n, hn⟩ | hd
  · rw [hn]
    rfl
  · rw [hd]
    rfl

theorem set_mapBlobs (v : Value) (key : String) (x : Value) :
    (v.mapBlobs φ).set key (x.mapBlobs φ) = (v.set key x).map (mapBlobs φ) := by
  cases v with
  | object es =>
    rw [mapBlobs_object, set, Entries.insert_map, ← mapBlobs_object]
    rfl
  | array items =>
    rw [mapBlobs_array]
    rfl
  | _ => rfl

theorem isSome_items?_mapBlobs (v : Value) : (v.mapBlobs φ).items?.isSome = v.items?.isSome := by
  rw [items?_mapBlobs, Option.isSome_map]

theorem isSome_entries?_mapBlobs (v : Value) :
    (v.mapBlobs φ).entries?.isSome = v.entries?.isSome := by
  rw [entries?_mapBlobs, Option.isSome_map]

theorem readsReplaced (hkind : ∀ b, (φ b).kind = b.kind) :
    Host.ReadsReplaced φ (mapBlobs φ) where
  kind := hkind
  undefined := rfl
  isUndefined := isUndefined_mapBlobs φ
  isNull v := by cases v <;> rfl
  isBool v := by cases v <;> rfl
  isNumber v := by cases v <;> rfl
  isString v := by cases v <;> rfl
  isArray := isSome_items?_mapBlobs
  isObject := isSome_entries?_mapBlobs
  bool? v := by cases v <;> rfl
  number? v := by cases v <;> rfl
  string? v := by cases v <;> rfl
  blob? v := by cases v <;> rfl
  items? := items?_mapBlobs
  get? := get?_mapBlobs
  keys := keys_mapBlobs

theorem buildsReplaced : Host.BuildsReplaced φ (mapBlobs φ) where
  undefined := rfl
  null := rfl
  ofBool _ := rfl
  ofNumber := mapBlobs_number
  ofString _ := rfl
  ofItems := mapBlobs_array φ
  emptyObject := rfl
  ofBlob _ := rfl
  isUndefined := isUndefined_mapBlobs φ
  set := set_mapBlobs

end Value

/-! ### The host without binary properties -/

namespace Host.Blobless

variable {φ : Blob → Blob}

/-- The value with every binary object in it replaced, at any depth. -/
def mapBlobs (φ : Blob → Blob) (v : Blobless) : Blobless := ⟨v.value.mapBlobs φ⟩

theorem items?_mapBlobs (v : Blobless) :
    Host.items? (mapBlobs φ v) = (Host.items? v).map fun items => items.map (mapBlobs φ) := by
  show (v.value.mapBlobs φ).items?.map (List.map mk) = (v.value.items?.map (List.map mk)).map _
  rw [Value.items?_mapBlobs]
  cases v.value.items? with
  | none => rfl
  | some items => simp [mapBlobs]

theorem get?_mapBlobs (v : Blobless) (key : String) :
    Host.get? (mapBlobs φ v) key = (Host.get? v key).map (mapBlobs φ) := by
  show ((v.value.mapBlobs φ).get? key).map mk = ((v.value.get? key).map mk).map _
  rw [Value.get?_mapBlobs, Option.map_map, Option.map_map]
  rfl

/-- A binary property is refused whatever it holds. -/
theorem set_mapBlobs (v : Blobless) (key : String) (x : Blobless) :
    Host.set (mapBlobs φ v) key (mapBlobs φ x) = (Host.set v key x).map (mapBlobs φ) := by
  have hblob : (x.value.mapBlobs φ).blob?.isSome = x.value.blob?.isSome := by
    cases x.value <;> rfl
  show (if (x.value.mapBlobs φ).blob?.isSome = true then _
      else ((v.value.mapBlobs φ).set key (x.value.mapBlobs φ)).map mk) =
    Except.map _ (if _ then _ else (v.value.set key x.value).map mk)
  rw [hblob, Value.set_mapBlobs]
  split
  · rfl
  · cases v.value.set key x.value <;> rfl

theorem readsReplaced (hkind : ∀ b, (φ b).kind = b.kind) : ReadsReplaced φ (mapBlobs φ) :=
  let h := Value.readsReplaced hkind
  { kind := hkind
    undefined := rfl
    isUndefined := fun v => h.isUndefined v.value
    isNull := fun v => h.isNull v.value
    isBool := fun v => congrArg Option.isSome (h.bool? v.value)
    isNumber := fun v => congrArg Option.isSome (h.number? v.value)
    isString := fun v => congrArg Option.isSome (h.string? v.value)
    isArray := fun v => h.isArray v.value
    isObject := fun v => h.isObject v.value
    bool? := fun v => h.bool? v.value
    number? := fun v => h.number? v.value
    string? := fun v => h.string? v.value
    blob? := fun v => h.blob? v.value
    items? := items?_mapBlobs
    get? := get?_mapBlobs
    keys := fun v => h.keys v.value }

theorem buildsReplaced : BuildsReplaced φ (mapBlobs φ) where
  undefined := rfl
  null := rfl
  ofBool _ := rfl
  ofNumber d := congrArg mk (Value.mapBlobs_number d)
  ofString _ := rfl
  ofItems vs := by
    show (⟨(Value.array (vs.map value)).mapBlobs φ⟩ : Blobless) = ⟨.array ((vs.map (mapBlobs φ)).map value)⟩
    rw [Value.mapBlobs_array, List.map_map, List.map_map]
    rfl
  emptyObject := rfl
  ofBlob _ := rfl
  isUndefined v := v.value.isUndefined_mapBlobs φ
  set := set_mapBlobs

end Host.Blobless

/-! ### Both hosts -/

/-- Codecs over either host are blind for the bytes of binary objects. -/
theorem Host.blobBlind {φ : Blob → Blob} (hkind : ∀ b, (φ b).kind = b.kind) :
    BlobBlind Value φ (Value.mapBlobs φ) ∧ BlobBlind Blobless φ (Blobless.mapBlobs φ) :=
  ⟨blobBlind_of_replaced (Value.readsReplaced hkind) Value.buildsReplaced,
    blobBlind_of_replaced (Blobless.readsReplaced hkind) Blobless.buildsReplaced⟩

end Parley
