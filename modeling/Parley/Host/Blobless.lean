import Parley.Host

/-!
# A host without binary properties

`Host.Blobless` wraps values and differs from them in one point: its objects take no binary value as
a property. Binary objects may still stand alone, in arrays, or inside objects made elsewhere.
-/

namespace Parley

/-- A value whose objects refuse binary properties. -/
structure Host.Blobless where
  value : Value

namespace Host.Blobless

/-- Sets a property unless the value is binary. -/
def set (v : Blobless) (key : String) (x : Blobless) : Except HostError Blobless :=
  if x.value.blob?.isSome then .error (.rejected ("binary property " ++ key))
  else (v.value.set key x.value).map Blobless.mk

instance : Host Blobless where
  undefined := ⟨.undefined⟩
  null := ⟨.null⟩
  ofBool b := ⟨.bool b⟩
  ofNumber d := ⟨.number d⟩
  ofString s := ⟨.string s⟩
  ofItems items := ⟨.array (items.map Blobless.value)⟩
  emptyObject := ⟨.object []⟩
  ofBlob b := ⟨.blob b⟩
  isUndefined v := v.value.isUndefined
  isNull v := v.value.isNull
  bool? v := v.value.bool?
  number? v := v.value.number?
  string? v := v.value.string?
  isArray v := v.value.items?.isSome
  items? v := v.value.items?.map (·.map Blobless.mk)
  isObject v := v.value.entries?.isSome
  blob? v := v.value.blob?
  get? v key := (v.value.get? key).map Blobless.mk
  set := set
  keys v := v.value.keys

end Host.Blobless

end Parley
