import Parley.Proofs.Number
import Parley.Proofs.Shape.Union

/-!
# Shapes that write all their values

Writing can fail, where an integer is out of range or a present optional looks like an absent one. A
shape without such places writes everything (`Shape.Total`), which is shown part by part.
-/

namespace Parley

namespace Shape

open Codec

/-- Every value of the shape is written. -/
def Total (s : Shape) : Prop := ∀ x : s.Val, ∃ v, s.encode Value x = .ok v

@[simp] theorem total_string : string.Total := fun _ => ⟨_, rfl⟩

@[simp] theorem total_blob (kind : BlobKind) : (blob kind).Total := fun _ => ⟨_, rfl⟩

@[simp] theorem total_literal (text : String) : (literal text).Total := fun _ => ⟨_, rfl⟩

/-- The words of 32 bits are all in range. -/
@[simp] theorem total_uint32 : (int .uint32).Total := by
  intro (n : UInt32)
  have hlt := n.toNat_lt
  have hrange : IntKind.uint32.inRange (IntKind.uint32.toInt n) = true := by
    rw [IntKind.inRange, Bool.and_eq_true, decide_eq_true_iff, decide_eq_true_iff]
    simp only [IntKind.least, IntKind.greatest, IntKind.toInt]
    omega
  exact ⟨_, (writeInt_eq .uint32 n).trans (if_pos hrange)⟩

/-- A text is never taken for an absent one. -/
@[simp] theorem total_option_string : (option string).Total := by
  intro x
  cases x with
  | none => exact ⟨_, rfl⟩
  | some text => exact ⟨_, rfl⟩

@[simp] theorem total_list {item : Shape} (h : item.Total) : (list item).Total := by
  intro xs
  rw [encode]
  cases hwritten : eachItem EncodeError.under (item.encode Value) 0 xs with
  | ok vs => exact ⟨_, rfl⟩
  | error e =>
    -- a list fails only where one of its items does
    obtain ⟨_, x, e', -, hx, -⟩ := eachItem_eq_error hwritten
    obtain ⟨v, hv⟩ := h x
    rw [hv] at hx
    cases hx

/-! ### Structs and unions -/

/-- A field that is written leaves an object behind. -/
theorem writeField_ok (wire : String) (x : Value) (os : List (String × Value)) :
    ∃ os', writeField wire (.ok x) (.object os) = .ok (.object os') := by
  cases x with
  | undefined => exact ⟨os, rfl⟩
  | _ => exact ⟨_, rfl⟩

theorem encodeFields_ok {fields : List (Label × Shape)} (h : ∀ f ∈ fields, f.2.Total)
    (xs : FieldVals fields) (os : List (String × Value)) :
    ∃ v, encodeFields Value fields xs (.object os) = .ok v := by
  induction fields generalizing os with
  | nil => exact ⟨_, rfl⟩
  | cons f fields ih =>
    obtain ⟨x, xs⟩ := xs
    obtain ⟨hf, hfields⟩ := List.forall_mem_cons.mp h
    obtain ⟨v, hv⟩ := hf x
    obtain ⟨os', hos'⟩ := writeField_ok f.1.wire v os
    rw [encodeFields, hv, hos']
    exact ih hfields xs os'

theorem total_struct {name : String} {fields : List (Label × Shape)}
    (h : ∀ f ∈ fields, f.2.Total) : (struct name fields).Total := by
  intro xs
  rw [encode]
  exact encodeFields_ok h xs []

theorem total_union {name : String} {variants : List (String × Shape)}
    (h : ∀ c ∈ variants, c.2.Total) : (union name variants).Total := by
  intro x
  rw [encode_union]
  exact h _ (chosen_mem x) _

end Shape

end Parley
