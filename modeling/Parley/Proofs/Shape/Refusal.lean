import Parley.Proofs.Shape.Part
import Parley.Proofs.Shape.WellFormed

/-!
# What cannot be written

Over dynamic values, writing fails on a part that has no faithful form of its own, and on nothing
else: an integer that a double may round, or a present optional whose content is written as undefined
(`Shape.refusal`). The error is that of the first such part (`encode_error_first`).

Each part of the codec is shown to fail as a list of parts tells (`Codec.FailsAs`); the list grows
with what is written.
-/

namespace Parley

namespace Shape

open Codec

/-! ### Values that are written as undefined -/

mutual

/-- The value is written as undefined: an absent optional, the unit, or a candidate of a union that
is one of them. -/
def blank : (s : Shape) → s.Val → Bool
  | unit, _ => true
  | option _, x => Option.isNone x
  | union _ variants, x => blankVariant variants x
  | _, _ => false

/-- The value is written as undefined, whichever candidate it belongs to. -/
def blankVariant : (vs : List (String × Shape)) → VariantVal vs → Bool
  | [], x => nomatch x
  | (_, s) :: vs, x =>
    match x with
    | .inl x => s.blank x
    | .inr x => blankVariant vs x

end

theorem blank_union {name : String} {variants : List (String × Shape)}
    (x : (union name variants).Val) :
    (union name variants).blank x = (chosen variants x).1.2.blank (chosen variants x).2 := by
  show blankVariant variants x = _
  induction variants with
  | nil => exact nomatch x
  | cons c variants ih =>
    cases x with
    | inl y => rfl
    | inr x => exact ih x

/-- What is written shows whether the value is one of those. -/
theorem isUndefined_of_encode {s : Shape} {x : s.Val} {v : Value} (h : s.encode Value x = .ok v) :
    v.isUndefined = s.blank x := by
  induction s generalizing v with
  | bool | string | null | unit | blob | literal =>
    cases h
    rfl
  | number =>
    cases h
    exact Value.isUndefined_number _
  | int kind =>
    rw [(writeInt_eq_ok h).1]
    exact Value.isUndefined_number _
  | option content ih =>
    cases x with
    | none =>
      cases h
      rfl
    | some y => exact (present_eq_ok h).2
  | list item ih =>
    rw [encode] at h
    obtain ⟨ws, -, rfl⟩ := Except.map_eq_ok.1 h
    rfl
  | record entry ih =>
    obtain ⟨ws, rfl, -⟩ := encode_record_eq_ok h
    rfl
  | struct name fields ih =>
    obtain ⟨os, rfl, -⟩ := encodeFields_frame h
    rfl
  | union name variants ih =>
    rw [encode_union] at h
    rw [blank_union]
    exact ih _ (chosen_mem x) h

/-- Such a value is always written. -/
theorem encode_of_blank {s : Shape} {x : s.Val} (h : s.blank x = true) :
    s.encode Value x = .ok .undefined := by
  induction s with
  | unit => rfl
  | option content ih =>
    cases x with
    | none => rfl
    | some y => cases h
  | union name variants ih =>
    rw [blank_union] at h
    rw [encode_union]
    exact ih _ (chosen_mem x) h
  | _ => cases h

theorem blank_iff {s : Shape} {x : s.Val} :
    s.blank x = true ↔ s.encode Value x = .ok .undefined :=
  ⟨encode_of_blank, fun h => (isUndefined_of_encode h).symm⟩

/-! ### Refused values -/

/-- Why a value is refused itself, whatever its parts are: an integer outside the range in which every
integer is a double of its own, or a present optional that would read as an absent one. -/
def refusal : (s : Shape) → s.Val → Option EncodeFault
  | int kind, n =>
    if IntKind.maxSafe < (kind.toInt n).natAbs then
      some (.unrepresentable (toString (kind.toInt n)) kind.label)
    else none
  | option content, (some y : Option content.Val) =>
    if content.blank y then some .ambiguousOptional else none
  | _, _ => none

/-- Integers of 32 bits are too small to be refused. -/
theorem refusal_uint32 (n : UInt32) : (int .uint32).refusal n = none := by
  have h := UInt32.toNat_lt n
  apply if_neg
  simp only [IntKind.maxSafe, IntKind.toInt]
  omega

end Shape

/-- The error of a part that is refused itself. -/
def Part.refusal? (p : Part) : Option EncodeError :=
  (p.shape.refusal p.value).map (EncodeError.mk p.path)

theorem Part.refusal?_under (g : Segment) (p : Part) :
    (p.under g).refusal? = p.refusal?.map (EncodeError.under g) := by
  rw [refusal?, refusal?, Option.map_map]
  rfl

theorem Part.refusal?_eq_none {p : Part} :
    p.refusal? = none ↔ p.shape.refusal p.value = none :=
  Option.map_eq_none_iff

theorem Part.refusal?_eq_some {p : Part} {e : EncodeError} :
    p.refusal? = some e ↔ p.shape.refusal p.value = some e.fault ∧ p.path = e.path := by
  rw [refusal?, Option.map_eq_some_iff]
  constructor
  · rintro ⟨fault, hfault, rfl⟩
    exact ⟨hfault, rfl⟩
  · rintro ⟨hfault, hpath⟩
    exact ⟨e.fault, hfault, by rw [hpath]⟩

namespace Codec

open Shape

/-! ### Failing as a list of parts tells -/

/-- The computation fails if one of the parts is refused, and then with the error of the first of
them. -/
def FailsAs {α : Type} (r : Except EncodeError α) (ps : List Part) : Prop :=
  ∀ e, r = .error e ↔ ps.findSome? Part.refusal? = some e

namespace FailsAs

variable {α β : Type} {r : Except EncodeError α} {f : α → Except EncodeError β} {ps qs : List Part}

theorem ok (a : α) (hps : ps.findSome? Part.refusal? = none) : FailsAs (.ok a) ps := by
  intro e
  rw [hps]
  exact iff_of_false (fun h => nomatch h) (fun h => nomatch h)

theorem self_ok {s : Shape} {x : s.Val} (hx : s.refusal x = none) (a : α) :
    FailsAs (.ok a) [⟨[], s, x⟩] := by
  apply ok
  rw [List.findSome?_singleton, Part.refusal?, hx]
  rfl

theorem self_error {s : Shape} {x : s.Val} {fault : EncodeFault} (hx : s.refusal x = some fault) :
    FailsAs (.error (.here fault) : Except EncodeError α) [⟨[], s, x⟩] := by
  intro e
  rw [List.findSome?_singleton, Part.refusal?, hx, Option.map_some, Option.some_inj,
    Except.error.injEq]
  rfl

theorem findSome?_eq_none (h : FailsAs r ps) {a : α} (hr : r = .ok a) :
    ps.findSome? Part.refusal? = none := by
  rw [Option.eq_none_iff_forall_ne_some]
  intro e he
  rw [← h, hr] at he
  cases he

theorem bind (h : FailsAs r ps) (hf : ∀ a, r = .ok a → FailsAs (f a) qs) :
    FailsAs (r >>= f) (ps ++ qs) := by
  intro e
  rw [List.findSome?_append]
  cases hr : r with
  | ok a =>
    rw [h.findSome?_eq_none hr, Option.none_or]
    exact hf a hr e
  | error e' =>
    -- what comes after is not looked at, and its parts stand behind
    rw [(h e').1 hr, Option.some_or, Option.some_inj]
    show Except.error e' = Except.error e ↔ _
    rw [Except.error.injEq]

/-- A step that never fails adds no part. -/
theorem bind_of_ok (h : FailsAs r ps) (hf : ∀ a, r = .ok a → ∃ b, f a = .ok b) :
    FailsAs (r >>= f) ps := by
  rw [← List.append_nil ps]
  apply h.bind
  intro a ha
  obtain ⟨b, hb⟩ := hf a ha
  rw [hb]
  exact .ok b rfl

theorem map (h : FailsAs r ps) (g : α → β) : FailsAs (r.map g) ps := by
  intro e
  rw [Except.map_eq_error, h]

theorem under (h : FailsAs r ps) (g : Segment) :
    FailsAs (r.mapError (EncodeError.under g)) (ps.map (Part.under g)) := by
  intro e
  have hfun : Part.refusal? ∘ Part.under g = Option.map (EncodeError.under g) ∘ Part.refusal? :=
    funext (Part.refusal?_under g)
  rw [List.findSome?_map, hfun, ← List.map_findSome?, Option.map_eq_some_iff,
    Except.mapError_eq_error]
  simp only [h _]

/-- A part that is not refused may stand behind. -/
theorem append (h : FailsAs r ps) {p : Part} (hp : p.refusal? = none) : FailsAs r (ps ++ [p]) := by
  intro e
  rw [List.findSome?_append, List.findSome?_singleton, hp, Option.or_none]
  exact h e

end FailsAs

/-! ### The parts of a codec -/

section

variable {α : Type} {f : α → Except EncodeError Value} {g : α → List Part}

theorem failsAs_eachItem (h : ∀ a, FailsAs (f a) (g a)) (as : List α) (i : Nat) :
    FailsAs (eachItem EncodeError.under f i as)
      ((as.zipIdx i).flatMap fun a => (g a.1).map (Part.under (.index a.2))) := by
  induction as generalizing i with
  | nil => exact .ok [] rfl
  | cons a as ih =>
    rw [eachItem, List.zipIdx_cons, List.flatMap_cons]
    apply ((h a).under (.index i)).bind
    intro b _
    exact (ih (i + 1)).bind_of_ok fun bs _ => ⟨b :: bs, rfl⟩

theorem failsAs_writeEntries (h : ∀ a, FailsAs (f a) (g a)) (es : List (String × α))
    (os : List (String × Value)) :
    FailsAs (writeEntries f es (.object os))
      (es.flatMap fun e => (g e.2).map (Part.under (.key e.1))) := by
  induction es generalizing os with
  | nil => exact .ok _ rfl
  | cons e es ih =>
    obtain ⟨key, a⟩ := e
    rw [writeEntries, List.flatMap_cons]
    apply ((h a).under (.key key)).bind
    intro x _
    -- an object takes every property
    exact ih (Entries.insert os key x)

end

theorem failsAs_writeField {encoded : Except EncodeError Value} {ps : List Part}
    (h : FailsAs encoded ps) (wire : String) (os : List (String × Value)) :
    FailsAs (writeField wire encoded (.object os)) (ps.map (Part.under (.field wire))) := by
  rw [writeField]
  apply (h.under (.field wire)).bind_of_ok
  intro x _
  split
  · exact ⟨_, rfl⟩
  · exact ⟨.object (Entries.insert os wire x), rfl⟩

theorem failsAs_writeInt (kind : IntKind) (n : kind.Word) :
    FailsAs (writeInt (V := Value) kind n) [⟨[], int kind, n⟩] := by
  rw [writeInt_eq]
  by_cases hn : IntKind.maxSafe < (kind.toInt n).natAbs
  · rw [if_neg fun hrange => absurd hn (Int.not_lt.mpr (kind.inRange_toInt.mp hrange))]
    exact .self_error (if_pos hn)
  · rw [if_pos (kind.inRange_toInt.mpr (Int.not_lt.mp hn))]
    have hself : (int kind).refusal n = none := if_neg hn
    exact .self_ok hself _

end Codec

namespace Shape

open Codec

theorem failsAs_present {content : Shape} {y : content.Val}
    (h : FailsAs (content.encode Value y) (content.parts y)) :
    FailsAs (present (content.encode Value y)) ((option content).parts (some y)) := by
  apply h.bind
  intro v hv
  rw [Value.host_isUndefined, isUndefined_of_encode hv]
  cases hy : content.blank y with
  | true => exact .self_error (if_pos hy)
  | false =>
    have hself : (option content).refusal (some y) = none := if_neg (Bool.eq_false_iff.mp hy)
    exact .self_ok hself v

theorem failsAs_encodeFields {fields : List (Label × Shape)}
    (h : ∀ f ∈ fields, ∀ x : f.2.Val, FailsAs (f.2.encode Value x) (f.2.parts x))
    (xs : FieldVals fields) (os : List (String × Value)) :
    FailsAs (encodeFields Value fields xs (.object os)) (partsOfFields fields xs) := by
  induction fields generalizing os with
  | nil => exact .ok _ rfl
  | cons f fields ih =>
    obtain ⟨x, xs⟩ := xs
    obtain ⟨hhead, h⟩ := List.forall_mem_cons.1 h
    rw [encodeFields, partsOfFields]
    apply (failsAs_writeField (hhead x) f.1.wire os).bind
    intro object hobject
    obtain ⟨_, os', -, rfl, -⟩ := writeField_eq_ok hobject
    exact ih h xs os'

/-- Writing a value fails as its parts tell. -/
theorem failsAs_encode (s : Shape) (x : s.Val) : FailsAs (s.encode Value x) (s.parts x) := by
  induction s with
  | bool | number | string | null | unit | blob | literal => exact .ok _ rfl
  | int kind => exact failsAs_writeInt kind x
  | option content ih =>
    cases x with
    | none => exact .ok _ rfl
    | some y => exact failsAs_present (ih y)
  | list item ih => exact ((failsAs_eachItem ih x 0).map _).append rfl
  | record entry ih => exact (failsAs_writeEntries ih (Record.entries x) []).append rfl
  | struct name fields ih => exact (failsAs_encodeFields ih x []).append rfl
  | union name variants ih =>
    rw [encode_union, parts_union]
    exact (ih _ (chosen_mem x) _).append rfl

/-- A value is never refused for a reason of the host. -/
theorem refusal_ne_host {s : Shape} {x : s.Val} {fault : EncodeFault}
    (h : s.refusal x = some fault) (e : HostError) : fault ≠ .host e := by
  cases s with
  | int kind =>
    rw [refusal] at h
    split at h
    · cases h
      exact fun he => nomatch he
    · cases h
  | option content =>
    cases x with
    | none => cases h
    | some y =>
      rw [refusal] at h
      split at h
      · cases h
        exact fun he => nomatch he
      · cases h
  | _ => cases h

/-- The error is that of the first part that is refused. -/
theorem encode_eq_error_iff {s : Shape} {x : s.Val} {e : EncodeError} :
    s.encode Value x = .error e ↔ ∃ before p after,
      s.parts x = before ++ p :: after ∧ (∀ q ∈ before, q.shape.refusal q.value = none) ∧
        p.shape.refusal p.value = some e.fault ∧ p.path = e.path := by
  rw [failsAs_encode s x e, List.findSome?_eq_some_iff]
  simp only [Part.refusal?_eq_some, Part.refusal?_eq_none]
  constructor
  · rintro ⟨before, p, after, hparts, hp, hbefore⟩
    exact ⟨before, p, after, hparts, hbefore, hp⟩
  · rintro ⟨before, p, after, hparts, hbefore, hp⟩
    exact ⟨before, p, after, hparts, hp, hbefore⟩

/-- There is an error if a part is refused. -/
theorem exists_error_iff_leads {s : Shape} {x : s.Val} :
    (∃ e, s.encode Value x = .error e) ↔
      ∃ (path : Path) (t : Shape) (y : t.Val), Leads s x path t y ∧ (t.refusal y).isSome := by
  constructor
  · rintro ⟨e, he⟩
    obtain ⟨before, p, after, hparts, -, hp, -⟩ := encode_eq_error_iff.1 he
    have hmem : p ∈ s.parts x := by
      rw [hparts]
      exact List.mem_append_right _ List.mem_cons_self
    exact ⟨p.path, p.shape, p.value, mem_parts.1 hmem, by rw [hp]; rfl⟩
  · rintro ⟨path, t, y, hleads, hy⟩
    obtain ⟨fault, hfault⟩ := Option.isSome_iff_exists.1 hy
    have hmem : (⟨path, t, y⟩ : Part) ∈ s.parts x := mem_parts.2 hleads
    have hsome : ((s.parts x).findSome? Part.refusal?).isSome := by
      rw [List.findSome?_isSome_iff]
      exact ⟨_, hmem, by rw [Part.refusal?, hfault]; rfl⟩
    obtain ⟨e, he⟩ := Option.isSome_iff_exists.1 hsome
    exact ⟨e, (failsAs_encode s x e).2 he⟩

/-! ### Main statement -/

/-- Writing a value fails if a path leads to a part that is refused, an integer of 64 bits that a
double may round or a present optional that is written as undefined, and never because of the host.
The error has the path and the fault of the first such part. -/
theorem encode_error_first (s : Shape) (x : s.Val) :
    ((∃ e, s.encode Value x = .error e) ↔
        ∃ (path : Path) (t : Shape) (y : t.Val), Leads s x path t y ∧ (t.refusal y).isSome) ∧
      (∀ e, s.encode Value x = .error e ↔ ∃ before p after,
        s.parts x = before ++ p :: after ∧ (∀ q ∈ before, q.shape.refusal q.value = none) ∧
          p.shape.refusal p.value = some e.fault ∧ p.path = e.path) ∧
      (∀ e, s.encode Value x = .error e → ∀ h, e.fault ≠ .host h) ∧
      (∀ n, (int .uint32).refusal n = none) ∧
      ∀ (t : Shape) (y : t.Val), t.blank y = true ↔ t.encode Value y = .ok .undefined := by
  refine ⟨exists_error_iff_leads, fun e => encode_eq_error_iff, ?_, refusal_uint32,
    fun t y => blank_iff⟩
  intro e he
  obtain ⟨_, p, _, -, -, hp, -⟩ := encode_eq_error_iff.1 he
  exact refusal_ne_host hp

end Shape

end Parley
