import Parley.Proofs.Host.Replacing

/-!
# Hosts that read alike

Codecs know values by the capabilities of their host alone. If a map from one host to another keeps
whatever can be read off a value (`Host.Reads`), then a value and its image look like the same shapes
(`Host.Reads.probe`), are read as the same things or fail in the same way (`Host.Reads.decode`), and
stand for the same failure (`Host.Reads.ofRejection`). Nothing is assumed about building values. It is
the case of `Host.ReadsReplaced` where every binary object is replaced by itself.
-/

namespace Parley

namespace Host

variable {V W : Type} [Host V] [Host W]

/-- Whatever can be read off a value can be read off its image. -/
structure Reads (f : V → W) : Prop where
  undefined : f undefined = undefined
  isUndefined (v : V) : isUndefined (f v) = isUndefined v
  isNull (v : V) : isNull (f v) = isNull v
  isBool (v : V) : isBool (f v) = isBool v
  isNumber (v : V) : isNumber (f v) = isNumber v
  isString (v : V) : isString (f v) = isString v
  isArray (v : V) : isArray (f v) = isArray v
  isObject (v : V) : isObject (f v) = isObject v
  bool? (v : V) : bool? (f v) = bool? v
  number? (v : V) : number? (f v) = number? v
  string? (v : V) : string? (f v) = string? v
  blob? (v : V) : blob? (f v) = blob? v
  items? (v : V) : items? (f v) = (items? v).map fun items => items.map f
  get? (v : V) (key : String) : get? (f v) key = (get? v key).map f
  keys (v : V) : keys (f v) = keys v

namespace Reads

variable {f : V → W} (h : Reads f)
include h

theorem replaced : ReadsReplaced id f where
  kind _ := rfl
  undefined := h.undefined
  isUndefined := h.isUndefined
  isNull := h.isNull
  isBool := h.isBool
  isNumber := h.isNumber
  isString := h.isString
  isArray := h.isArray
  isObject := h.isObject
  bool? := h.bool?
  number? := h.number?
  string? := h.string?
  blob? v := (h.blob? v).trans Option.map_id'.symm
  items? := h.items?
  get? := h.get?
  keys := h.keys

/-- A value and its image look like the same shapes. -/
theorem probe (s : Shape) (v : V) : s.probe (f v) = s.probe v := h.replaced.probe s v

/-- A value and its image are read as the same thing, or fail in the same way. -/
theorem decode (s : Shape) (v : V) : s.decode (f v) = s.decode v := by
  rw [h.replaced.decode]
  cases s.decode v with
  | error e => rfl
  | ok x => exact congrArg Except.ok (s.mapBlobs_id x)

/-- A rejection and its image stand for the same failure. -/
theorem ofRejection (payload : V) :
    Failure.ofRejection (f payload) = Failure.ofRejection payload := h.replaced.ofRejection payload

end Reads

end Host

end Parley
