import Parley.Value

/-!
# Induction on values

Arrays and objects hold their parts in lists, so the recursor of `Value` speaks of lists and pairs as
well. `Value.induction` has one case for each kind of value, and for an array or an object the
property of every item or entry.
-/

namespace Parley.Value

/-- A property holds of every value if each kind of value has it whenever its parts have it. -/
@[elab_as_elim, induction_eliminator]
theorem induction {motive : Value → Prop} (undefined : motive .undefined) (null : motive .null)
    (bool : ∀ b, motive (.bool b)) (int : ∀ n, motive (.int n)) (double : ∀ d, motive (.double d))
    (string : ∀ s, motive (.string s))
    (array : ∀ items, (∀ x ∈ items, motive x) → motive (.array items))
    (object : ∀ entries, (∀ e ∈ entries, motive e.2) → motive (.object entries))
    (blob : ∀ b, motive (.blob b)) (v : Value) : motive v := by
  refine Value.rec (motive_1 := motive) (motive_2 := fun items => ∀ x ∈ items, motive x)
    (motive_3 := fun entries => ∀ e ∈ entries, motive e.2) (motive_4 := fun e => motive e.2)
    undefined null bool int double string array object blob ?_ ?_ ?_ ?_ ?_ v
  · exact fun _ hx => absurd hx List.not_mem_nil
  · exact fun _ _ hx hxs => List.forall_mem_cons.2 ⟨hx, hxs⟩
  · exact fun _ he => absurd he List.not_mem_nil
  · exact fun _ _ he hes => List.forall_mem_cons.2 ⟨he, hes⟩
  · exact fun _ _ h => h

end Parley.Value
