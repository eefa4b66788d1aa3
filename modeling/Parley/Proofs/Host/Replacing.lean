import Parley.Proofs.Shape.Blobs
import Parley.Proofs.Shape.Codec
import Parley.Proofs.Shape.Union
import Parley.Reply

/-!
# Binary objects are opaque to codecs

Codecs know values by the capabilities of their host alone, and look at no more of a binary object
than its kind. So if a map between hosts keeps whatever can be read off a value, binary objects being
replaced by others of their kind (`Host.ReadsReplaced`), then a value and its image look like the same
shapes (`probe`), are read as the same things up to the replacement, or fail in the same way
(`decode`), and stand for the same failure (`ofRejection`). If it keeps whatever is built
(`Host.BuildsReplaced`), then writing is the same up to the replacement, too (`encode`).
-/

namespace Parley

/-- Going through the images of some items is going through the items. -/
theorem Codec.eachItem_map {α β γ ε : Type} {under : Segment → ε → ε} {f : β → Except ε γ}
    {g : α → β} {i : Nat} {as : List α} :
    eachItem under f i (as.map g) = eachItem under (fun a => f (g a)) i as := by
  induction as generalizing i with
  | nil => rfl
  | cons a as ih => rw [List.map_cons, eachItem, eachItem, ih]

/-- What is done to every result may be done to all of them at the end. -/
theorem Codec.eachItem_comp {α β γ ε : Type} {under : Segment → ε → ε} {f : α → Except ε β}
    {g : β → γ} {i : Nat} {as : List α} :
    eachItem under (fun a => (f a).map g) i as = (eachItem under f i as).map (List.map g) := by
  induction as generalizing i with
  | nil => rfl
  | cons a as ih =>
    rw [eachItem, eachItem, ih]
    cases f a with
    | error e => rfl
    | ok b => cases eachItem under f (i + 1) as <;> rfl

namespace Host

variable {V W : Type} [Host V] [Host W]

/-- Whatever can be read off a value can be read off its image, where binary objects are replaced by
others of their kind. -/
structure ReadsReplaced (φ : Blob → Blob) (f : V → W) : Prop where
  kind (b : Blob) : (φ b).kind = b.kind
  undefined : f undefined = undefined
  isUndefined (v : V) : isUndefined (f v) = isUndefined v
  isNull (v : V) : isNull (f v) = isNull v
  isBool (v : V) : isBool (f v) = isBool v
  isNumber (v : V) : isNumber (f v) = isNumber v
  isString (v : V) : isString (f v) = isString v
  isArray (v : V) : isArray (f v) = isArray v
  isObject (v : V) : isObject (f v) = isObject v
  bool? (v : V) : bool? (f v) = bool? v
  number? (v : V) : number? (f v) = number? v
  string? (v : V) : string? (f v) = string? v
  blob? (v : V) : blob? (f v) = (blob? v).map φ
  items? (v : V) : items? (f v) = (items? v).map fun items => items.map f
  get? (v : V) (key : String) : get? (f v) key = (get? v key).map f
  keys (v : V) : keys (f v) = keys v

/-- Whatever is built has the image that is built of the images, where binary objects are
replaced. -/
structure BuildsReplaced (φ : Blob → Blob) (f : V → W) : Prop where
  undefined : f undefined = undefined
  null : f null = null
  ofBool (b : Bool) : f (ofBool b) = ofBool b
  ofNumber (d : Double) : f (ofNumber d) = ofNumber d
  ofString (s : String) : f (ofString s) = ofString s
  ofItems (vs : List V) : f (ofItems vs) = ofItems (vs.map f)
  emptyObject : f emptyObject = emptyObject
  ofBlob (b : Blob) : f (ofBlob b) = ofBlob (φ b)
  isUndefined (v : V) : Host.isUndefined (f v) = Host.isUndefined v
  set (v : V) (key : String) (x : V) : set (f v) key (f x) = (set v key x).map f

namespace ReadsReplaced

open Codec

variable {φ : Blob → Blob} {f : V → W} (h : ReadsReplaced φ f) {α : Type}
include h

theorem typeName (v : V) : typeName (f v) = typeName v := by
  simp only [Host.typeName, h.isUndefined, h.isNull, h.isBool, h.isNumber, h.isString, h.isArray,
    h.blob?, Option.isSome_map]

theorem property (v : V) (key : String) : property (f v) key = f (property v key) := by
  rw [Host.property, Host.property, h.get?]
  cases Host.get? v key with
  | some x => rfl
  | none => exact h.undefined.symm

/-! ### Parts of codecs -/

theorem mismatch (expected : String) (v : V) : mismatch expected (f v) = mismatch expected v := by
  rw [Codec.mismatch, Codec.mismatch, h.typeName]

theorem orMismatch (expected : String) (v : V) (g : α → α) {o o' : Option α} (ho : o = o'.map g) :
    orMismatch expected (f v) o = (orMismatch expected v o').map g := by
  subst ho
  cases o' with
  | some a => rfl
  | none => exact congrArg Except.error (h.mismatch expected v)

theorem readInt (kind : IntKind) (v : V) : readInt kind (f v) = readInt kind v := by
  rw [Codec.readInt, Codec.readInt, h.number?, h.mismatch]

theorem readLiteral (text : String) (v : V) : readLiteral text (f v) = readLiteral text v := by
  rw [Codec.readLiteral, Codec.readLiteral, h.string?, h.typeName]

theorem blobOf? (kind : BlobKind) (v : V) : blobOf? kind (f v) = (blobOf? kind v).map φ := by
  rw [Codec.blobOf?, Codec.blobOf?, h.blob?, Option.filter_map]
  simp only [Function.comp_def, h.kind]

section

variable {decode : W → Except DecodeError α} {decode' : V → Except DecodeError α} {g : α → α}

theorem readEntries (hd : ∀ v, decode (f v) = (decode' v).map g) (v : V) (keys : List String)
    (r : Record α) :
    readEntries decode (f v) keys (r.map g) = (readEntries decode' v keys r).map (Record.map g) := by
  induction keys generalizing r with
  | nil => rfl
  | cons key keys ih =>
    rw [Codec.readEntries, Codec.readEntries, h.property, hd]
    cases decode' (Host.property v key) with
    | error e => rfl
    | ok a =>
      show Codec.readEntries decode (f v) keys ((r.map g).insert key (g a)) = _
      rw [← Record.map_insert]
      exact ih _

theorem readField {probe : W → Bool} {probe' : V → Bool} (hp : ∀ v, probe (f v) = probe' v)
    (hd : ∀ v, decode (f v) = (decode' v).map g) (wire : String) (v : V) :
    readField wire probe decode (f v) = (readField wire probe' decode' v).map g := by
  rw [Codec.readField, Codec.readField, h.get?, ← h.undefined, hp, hd, Except.mapError_map]
  cases Host.get? v wire with
  | some x =>
    show (decode (f x)).mapError _ = _
    rw [hd, Except.mapError_map]
  | none =>
    show (if probe' Host.undefined = true then _ else _) = Except.map g (if _ then _ else _)
    split <;> rfl

end

/-! ### Shapes -/

/-- A value and its image look like the same shapes. -/
theorem probe (s : Shape) (v : V) : s.probe (f v) = s.probe v := by
  induction s generalizing v with
  | bool => exact h.isBool v
  | number => exact h.isNumber v
  | string => exact h.isString v
  | int kind => rw [Shape.probe, Shape.probe, h.readInt]
  | null => exact h.isNull v
  | unit => rfl
  | blob kind => rw [Shape.probe, Shape.probe, h.blobOf?, Option.isSome_map]
  | literal text => rw [Shape.probe, Shape.probe, h.string?]
  | option content ih => rw [Shape.probe, Shape.probe, h.isUndefined, ih]
  | list item => exact h.isArray v
  | record entry => exact h.isObject v
  | struct name fields ih =>
    have hfields : Shape.probeFields fields (f v) = Shape.probeFields fields v := by
      apply Bool.eq_iff_iff.2
      rw [Shape.probeFields_iff, Shape.probeFields_iff]
      refine forall₂_congr fun field hfield => ?_
      rw [h.property, ih field hfield]
    rw [Shape.probe, Shape.probe, h.isObject, hfields]
  | union name variants ih =>
    apply Bool.eq_iff_iff.2
    rw [Shape.probe, Shape.probe, Shape.probeVariants_iff, Shape.probeVariants_iff]
    refine exists_congr fun c => and_congr_right fun hc => ?_
    rw [ih c hc]

theorem decodeFields {fields : List (Label × Shape)}
    (hd : ∀ field ∈ fields, ∀ v, field.2.decode (f v) = (field.2.decode v).map (field.2.mapBlobs φ))
    (v : V) :
    Shape.decodeFields fields (f v) =
      (Shape.decodeFields fields v).map (Shape.mapBlobsFields φ fields) := by
  induction fields with
  | nil => rfl
  | cons field fields ih =>
    obtain ⟨hhead, hd⟩ := List.forall_mem_cons.1 hd
    rw [Shape.decodeFields, Shape.decodeFields, h.readField (h.probe field.2) hhead, ih hd]
    cases Codec.readField field.1.wire field.2.probe field.2.decode v with
    | error e => rfl
    | ok x => cases Shape.decodeFields fields v <;> rfl

theorem decodeVariants {name : String} {variants : List (String × Shape)}
    (hd : ∀ c ∈ variants, ∀ v, c.2.decode (f v) = (c.2.decode v).map (c.2.mapBlobs φ)) (v : V) :
    Shape.decodeVariants name variants (f v) =
      (Shape.decodeVariants name variants v).map (Shape.mapBlobsVariant φ variants) := by
  induction variants with
  | nil =>
    rw [Shape.decodeVariants, Shape.decodeVariants, h.typeName]
    rfl
  | cons c variants ih =>
    obtain ⟨hhead, hd⟩ := List.forall_mem_cons.1 hd
    rw [Shape.decodeVariants, Shape.decodeVariants, h.probe, hhead, ih hd]
    split
    · cases c.2.decode v <;> rfl
    · cases Shape.decodeVariants name variants v <;> rfl

/-- A value and its image are read as the same thing, binary objects being replaced, or fail in the
same way. -/
theorem decode (s : Shape) (v : V) : s.decode (f v) = (s.decode v).map (s.mapBlobs φ) := by
  have hmap {α : Type} (x : Except DecodeError α) : x = x.map fun a => a := by cases x <;> rfl
  induction s generalizing v with
  | bool => exact h.orMismatch _ v _ ((h.bool? v).trans Option.map_id'.symm)
  | number => exact h.orMismatch _ v _ ((h.number? v).trans Option.map_id'.symm)
  | string => exact h.orMismatch _ v _ ((h.string? v).trans Option.map_id'.symm)
  | int kind => exact (h.readInt kind v).trans (hmap _)
  | null =>
    rw [Shape.decode, Shape.decode, h.isNull, h.mismatch]
    exact hmap _
  | unit => rfl
  | blob kind => exact h.orMismatch _ v φ (h.blobOf? kind v)
  | literal text => exact (h.readLiteral text v).trans (hmap _)
  | option content ih =>
    rw [Shape.decode, Shape.decode, h.isUndefined, ih]
    split
    · rfl
    · cases content.decode v <;> rfl
  | list item ih =>
    rw [Shape.decode, Shape.decode, h.items?, h.mismatch]
    cases Host.items? v with
    | none => rfl
    | some items =>
      show eachItem DecodeError.under item.decode 0 (items.map f) = _
      rw [eachItem_map, funext ih, eachItem_comp]
      rfl
  | record entry ih =>
    rw [Shape.decode, Shape.decode, h.isObject, h.keys, h.mismatch]
    cases Host.isObject v with
    | true => exact h.readEntries ih v (Host.keys v) .empty
    | false => rfl
  | struct name fields ih =>
    rw [Shape.decode, Shape.decode, h.isObject, h.mismatch, h.decodeFields ih]
    cases Host.isObject v <;> rfl
  | union name variants ih => exact h.decodeVariants ih v

/-- A rejection and its image stand for the same failure. -/
theorem ofRejection (payload : V) :
    Failure.ofRejection (f payload) = Failure.ofRejection payload := by
  have hread (s : Shape) (hs : ∀ x, s.mapBlobs φ x = x) (key : String) :
      ((Host.get? (f payload) key).bind fun v => (s.decode v).toOption) =
        (Host.get? payload key).bind fun v => (s.decode v).toOption := by
    have hdecode (v : V) : (s.decode (f v)).toOption = (s.decode v).toOption := by
      rw [h.decode]
      cases s.decode v with
      | error e => rfl
      | ok x => exact congrArg some (hs x)
    simp only [h.get?, Option.bind_map, Function.comp_def, hdecode]
  have hcode := congrArg (fun o => Option.getD o Failure.unknownCode)
    (hread (.int .int64) (fun _ => rfl) "result")
  exact congrArg₂ Failure.mk hcode (hread .string (fun _ => rfl) "message")

end ReadsReplaced

namespace BuildsReplaced

open Codec

variable {φ : Blob → Blob} {f : V → W} (h : BuildsReplaced φ f) {α : Type}
include h

/-! ### Parts of codecs -/

theorem set_mapError (v : V) (key : String) (x : V) (under : HostError → EncodeError) :
    (Host.set (f v) key (f x)).mapError under = ((Host.set v key x).mapError under).map f := by
  rw [h.set, Except.mapError_map]

theorem present {encoded : Except EncodeError W} {encoded' : Except EncodeError V}
    (he : encoded = encoded'.map f) : present encoded = (present encoded').map f := by
  subst he
  cases encoded' with
  | error e => rfl
  | ok x =>
    show (if Host.isUndefined (f x) = true then _ else _) = Except.map f (if _ then _ else _)
    rw [h.isUndefined]
    split <;> rfl

theorem writeField (wire : String) {encoded : Except EncodeError W}
    {encoded' : Except EncodeError V} (he : encoded = encoded'.map f) (object : V) :
    writeField wire encoded (f object) = (writeField wire encoded' object).map f := by
  subst he
  cases encoded' with
  | error e => rfl
  | ok x =>
    show (if Host.isUndefined (f x) = true then _ else (Host.set (f object) wire (f x)).mapError _) =
      Except.map f (if _ then _ else (Host.set object wire x).mapError _)
    rw [h.isUndefined, h.set_mapError]
    split <;> rfl

theorem writeInt (kind : IntKind) (n : kind.Word) :
    writeInt kind n = (writeInt kind n : Except EncodeError V).map f := by
  rw [Codec.writeInt, Codec.writeInt]
  split
  · exact congrArg Except.ok (h.ofNumber _).symm
  · rfl

section

variable {encode : α → Except EncodeError W} {encode' : α → Except EncodeError V} {g : α → α}

theorem writeItems (he : ∀ a, encode (g a) = (encode' a).map f) (as : List α) :
    (eachItem EncodeError.under encode 0 (as.map g)).map Host.ofItems =
      ((eachItem EncodeError.under encode' 0 as).map Host.ofItems).map f := by
  rw [eachItem_map, funext he, eachItem_comp]
  cases eachItem EncodeError.under encode' 0 as with
  | error e => rfl
  | ok vs => exact congrArg Except.ok (h.ofItems vs).symm

theorem writeEntries (he : ∀ a, encode (g a) = (encode' a).map f) (es : List (String × α))
    (object : V) :
    writeEntries encode (es.map (Prod.map id g)) (f object) =
      (writeEntries encode' es object).map f := by
  induction es generalizing object with
  | nil => rfl
  | cons e es ih =>
    obtain ⟨key, a⟩ := e
    rw [List.map_cons, Prod.map, id, Codec.writeEntries, Codec.writeEntries, he]
    cases encode' a with
    | error e => rfl
    | ok x =>
      show (Host.set (f object) key (f x)).mapError _ >>= _ =
        Except.map f ((Host.set object key x).mapError _ >>= _)
      rw [h.set_mapError]
      cases Host.set object key x with
      | error e => rfl
      | ok object => exact ih object

end

/-! ### Shapes -/

theorem encodeFields {fields : List (Label × Shape)}
    (he : ∀ field ∈ fields, ∀ x : field.2.Val,
      field.2.encode W (field.2.mapBlobs φ x) = (field.2.encode V x).map f)
    (xs : Shape.FieldVals fields) (object : V) :
    Shape.encodeFields W fields (Shape.mapBlobsFields φ fields xs) (f object) =
      (Shape.encodeFields V fields xs object).map f := by
  induction fields generalizing object with
  | nil => rfl
  | cons field fields ih =>
    obtain ⟨x, xs⟩ := xs
    obtain ⟨hhead, he⟩ := List.forall_mem_cons.1 he
    rw [Shape.mapBlobsFields, Shape.encodeFields, Shape.encodeFields,
      h.writeField field.1.wire (hhead x)]
    cases Codec.writeField field.1.wire (field.2.encode V x) object with
    | error e => rfl
    | ok object => exact ih he xs object

omit h in
theorem encodeVariants {variants : List (String × Shape)}
    (he : ∀ c ∈ variants, ∀ x : c.2.Val,
      c.2.encode W (c.2.mapBlobs φ x) = (c.2.encode V x).map f)
    (x : Shape.VariantVal variants) :
    Shape.encodeVariants W variants (Shape.mapBlobsVariant φ variants x) =
      (Shape.encodeVariants V variants x).map f := by
  induction variants with
  | nil => nomatch x
  | cons c variants ih =>
    obtain ⟨hhead, he⟩ := List.forall_mem_cons.1 he
    cases x with
    | inl x => exact hhead x
    | inr x => exact ih he x

/-- What is built of something with other binary objects is what is built of it, with these binary
objects; and it fails in the same way. -/
theorem encode (s : Shape) (x : s.Val) :
    s.encode W (s.mapBlobs φ x) = (s.encode V x).map f := by
  induction s with
  | bool => exact congrArg Except.ok (h.ofBool x).symm
  | number => exact congrArg Except.ok (h.ofNumber x).symm
  | string => exact congrArg Except.ok (h.ofString x).symm
  | int kind => exact h.writeInt kind x
  | null => exact congrArg Except.ok h.null.symm
  | unit => exact congrArg Except.ok h.undefined.symm
  | blob kind => exact congrArg Except.ok (h.ofBlob x).symm
  | literal text => exact congrArg Except.ok (h.ofString text).symm
  | option content ih =>
    cases x with
    | none => exact congrArg Except.ok h.undefined.symm
    | some x => exact h.present (ih x)
  | list item ih => exact h.writeItems ih x
  | record entry ih =>
    have hentries := h.writeEntries ih (Record.entries x) Host.emptyObject
    rw [h.emptyObject] at hentries
    exact hentries
  | struct name fields ih =>
    have hfields := h.encodeFields ih x Host.emptyObject
    rw [h.emptyObject] at hfields
    exact hfields
  | union name variants ih => exact encodeVariants ih x

end BuildsReplaced

end Host

end Parley
