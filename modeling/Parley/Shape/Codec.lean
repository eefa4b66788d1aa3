import Parley.Host
import Parley.Shape

/-!
# Codecs

Each shape comes with three functions over any host:

* `Shape.probe` tells whether a dynamic value looks like the shape, without ever failing. Items of
  lists and entries of records are not looked into.
* `Shape.decode` reads a value of the described type, or says where and why that failed.
* `Shape.encode` builds a fresh dynamic value.

A struct reads its fields by name and ignores every other property. A union commits to the first
candidate whose probe accepts, whatever its decoding does then.
-/

namespace Parley

/-! ### Parts of containers -/

namespace Codec

variable {α β ε V : Type}

/-- Applies `f` to the items, the first of which has index `i`, and stops at the first failure,
which is placed under its index. -/
def eachItem (under : Segment → ε → ε) (f : α → Except ε β) : Nat → List α → Except ε (List β)
  | _, [] => .ok []
  | i, a :: as => do
    let b ← (f a).mapError (under (.index i))
    let bs ← eachItem under f (i + 1) as
    return b :: bs

variable [Host V]

/-- Reads the properties with the given keys into a record. -/
def readEntries (decode : V → Except DecodeError α) (v : V) :
    List String → Record α → Except DecodeError (Record α)
  | [], r => .ok r
  | key :: keys, r => do
    let a ← (decode (Host.property v key)).mapError (DecodeError.under (.key key))
    readEntries decode v keys (r.insert key a)

/-- Sets one property for each entry. -/
def writeEntries (encode : α → Except EncodeError V) :
    List (String × α) → V → Except EncodeError V
  | [], object => .ok object
  | (key, a) :: es, object => do
    let x ← (encode a).mapError (EncodeError.under (.key key))
    let object ← (Host.set object key x).mapError fun e => (EncodeError.ofHost e).under (.key key)
    writeEntries encode es object

/-- Reads a field. A property that is not there at all counts as missing, unless the field takes
undefined. -/
def readField (wire : String) (probe : V → Bool) (decode : V → Except DecodeError α) (v : V) :
    Except DecodeError α :=
  match Host.get? v wire with
  | some x => (decode x).mapError (DecodeError.under (.field wire))
  | none =>
    if probe Host.undefined then
      (decode Host.undefined).mapError (DecodeError.under (.field wire))
    else .error (DecodeError.missing wire)

/-- Writes a field into an object. Undefined is left out, so that an absent optional shows no
property. -/
def writeField (wire : String) (encoded : Except EncodeError V) (object : V) :
    Except EncodeError V := do
  let x ← encoded.mapError (EncodeError.under (.field wire))
  if Host.isUndefined x then return object
  (Host.set object wire x).mapError fun e => (EncodeError.ofHost e).under (.field wire)

/-- The error that a value of another type than expected gives. -/
def mismatch (expected : String) (v : V) : DecodeError :=
  .here (.mismatch expected (Host.typeName v))

/-- Reads a number as an integer of the given type. -/
def readInt (kind : IntKind) (v : V) : Except DecodeError kind.Word :=
  match Host.number? v with
  | none => .error (mismatch kind.label v)
  | some d =>
    match d.toInt? with
    | none => .error (.here (.notInteger d))
    | some n =>
      if kind.inRange n then .ok (kind.ofInt n) else .error (.here (.outOfRange d kind.label))

/-- Writes an integer as a number. The range is checked after rounding to a double: rounding keeps
order, so what is outside stays outside. -/
def writeInt (kind : IntKind) (n : kind.Word) : Except EncodeError V :=
  let d := Double.ofInt (kind.toInt n)
  if d.toInt?.any kind.inRange then .ok (Host.ofNumber d)
  else .error (.here (.unrepresentable (toString (kind.toInt n)) kind.label))

/-- Reads a literal text. -/
def readLiteral (text : String) (v : V) : Except DecodeError Unit :=
  match Host.string? v with
  | some found => if found = text then .ok () else .error (.here (.literal text found))
  | none => .error (.here (.literal text (Host.typeName v)))

/-- A binary object of the given kind. -/
def blobOf? (kind : BlobKind) (v : V) : Option Blob :=
  (Host.blob? v).filter (·.kind = kind)

/-- A present optional must not look like an absent one. -/
def present (encoded : Except EncodeError V) : Except EncodeError V := do
  let x ← encoded
  if Host.isUndefined x then .error (.here .ambiguousOptional) else return x

/-- A value, or the error of a missing one. -/
def orMismatch (expected : String) (v : V) : Option α → Except DecodeError α
  | some a => .ok a
  | none => .error (mismatch expected v)

end Codec

namespace Shape

open Codec

/-- What messages call a shape. -/
def expected : Shape → String
  | bool => "boolean"
  | number => "number"
  | string => "string"
  | int kind => kind.label
  | null => "null"
  | unit => "any"
  | blob .buffer => "ArrayBuffer"
  | blob .view => "ArrayBufferView"
  | literal text => "\"" ++ text ++ "\""
  | option content => content.expected
  | list _ => "array"
  | record _ => "object"
  | struct name _ => name
  | union name _ => name

variable {V : Type} [Host V]

mutual

/-- The value looks like the shape. -/
def probe : Shape → V → Bool
  | bool, v => Host.isBool v
  | number, v => Host.isNumber v
  | string, v => Host.isString v
  | int kind, v => (readInt kind v).isOk
  | null, v => Host.isNull v
  | unit, _ => true
  | blob kind, v => (blobOf? kind v).isSome
  | literal text, v => Host.string? v == some text
  | option content, v => Host.isUndefined v || content.probe v
  | list _, v => Host.isArray v
  | record _, v => Host.isObject v
  | struct _ fields, v => Host.isObject v && probeFields fields v
  | union _ variants, v => probeVariants variants v

/-- Every field's property, or undefined where there is none, looks like the field. -/
def probeFields : List (Label × Shape) → V → Bool
  | [], _ => true
  | (l, s) :: fs, v => s.probe (Host.property v l.wire) && probeFields fs v

/-- The value looks like one of the candidates. -/
def probeVariants : List (String × Shape) → V → Bool
  | [], _ => false
  | (_, s) :: vs, v => s.probe v || probeVariants vs v

end

mutual

/-- Reads a value of the described type. -/
def decode : (s : Shape) → V → Except DecodeError s.Val
  | bool, v => orMismatch "boolean" v (Host.bool? v)
  | number, v => orMismatch "number" v (Host.number? v)
  | string, v => orMismatch "string" v (Host.string? v)
  | int kind, v => readInt kind v
  | null, v => if Host.isNull v then .ok () else .error (mismatch "null" v)
  | unit, _ => .ok ()
  | blob kind, v => orMismatch (blob kind).expected v (blobOf? kind v)
  | literal text, v => readLiteral text v
  | option content, v => if Host.isUndefined v then .ok none else (content.decode v).map some
  | list item, v =>
    match Host.items? v with
    | some items => eachItem DecodeError.under item.decode 0 items
    | none => .error (mismatch "array" v)
  | record entry, v =>
    if Host.isObject v then readEntries entry.decode v (Host.keys v) .empty
    else .error (mismatch "object" v)
  | struct name fields, v =>
    if Host.isObject v then decodeFields fields v else .error (mismatch name v)
  | union name variants, v => decodeVariants name variants v

/-- Reads the fields in order, up to the first failure. -/
def decodeFields : (fs : List (Label × Shape)) → V → Except DecodeError (FieldVals fs)
  | [], _ => .ok ()
  | (l, s) :: fs, v => do
    let x ← readField l.wire s.probe s.decode v
    let xs ← decodeFields fs v
    return (x, xs)

/-- Reads the first candidate that the value looks like. -/
def decodeVariants (name : String) :
    (vs : List (String × Shape)) → V → Except DecodeError (VariantVal vs)
  | [], v => .error (.here (.noVariant name (Host.typeName v)))
  | (_, s) :: vs, v =>
    if s.probe v then (s.decode v).map Sum.inl else (decodeVariants name vs v).map Sum.inr

end

variable (V) in
mutual

/-- Builds the dynamic value. -/
def encode : (s : Shape) → s.Val → Except EncodeError V
  | bool, b => .ok (Host.ofBool b)
  | number, d => .ok (Host.ofNumber d)
  | string, s => .ok (Host.ofString s)
  | int kind, n => writeInt kind n
  | null, _ => .ok Host.null
  | unit, _ => .ok Host.undefined
  | blob _, b => .ok (Host.ofBlob b)
  | literal text, _ => .ok (Host.ofString text)
  | option content, x =>
    match x with
    | none => .ok Host.undefined
    | some x => present (content.encode x)
  | list item, xs => (eachItem EncodeError.under item.encode 0 xs).map Host.ofItems
  | record entry, r => writeEntries entry.encode r.entries Host.emptyObject
  | struct _ fields, xs => encodeFields fields xs Host.emptyObject
  | union _ variants, x => encodeVariants variants x

/-- Writes the fields into an object, in order. -/
def encodeFields : (fs : List (Label × Shape)) → FieldVals fs → V → Except EncodeError V
  | [], _, object => .ok object
  | (l, s) :: fs, (x, xs), object => do
    let object ← writeField l.wire (s.encode x) object
    encodeFields fs xs object

/-- Builds the dynamic value of whichever candidate is given. -/
def encodeVariants : (vs : List (String × Shape)) → VariantVal vs → Except EncodeError V
  | [], x => nomatch x
  | (_, s) :: vs, x =>
    match x with
    | .inl x => s.encode x
    | .inr x => encodeVariants vs x

end

end Shape

end Parley
