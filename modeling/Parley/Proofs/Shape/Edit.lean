import Mathlib.Logic.Relation
import Parley.Proofs.Shape.Result

/-!
# Edits that go unseen

An object that is read as a struct holds more than the struct asks for: an order of its properties,
properties that no field names, and properties that are explicitly undefined. `Shape.Edit` changes
any of these, in an object at any depth of a value. Every edit leaves two values that agree
(`Edit.agree`), so that after any number of them the value is read as before, or fails at the same
place (`edits_unseen`).

Which names a field gives hangs on who reads the object. A value is read by several shapes where a
union stands, so that edits are relative to the list of its readers (`Shape.readers`).
-/

namespace Parley

/-- An edit of the entries of an object that keeps the entries of the declared keys, apart from
undefined ones. -/
inductive Entries.Edit (declared : List String) (es : List (String × Value)) :
    List (String × Value) → Prop
  | reorder {es' : List (String × Value)} : es.Perm es' → Edit declared es es'
  | addUndefined {key : String} :
    Entries.get? es key = none → Edit declared es (Entries.insert es key .undefined)
  | removeUndefined {key : String} :
    Entries.get? es key = some .undefined → Edit declared es (Entries.erase es key)
  | set {key : String} (x : Value) : key ∉ declared → Edit declared es (Entries.insert es key x)
  | remove {key : String} : key ∉ declared → Edit declared es (Entries.erase es key)

namespace Shape

open Value

/-! ### Readers of parts -/

/-- The shapes as which the readers of an array read its items. -/
def itemReaders (rs : List Shape) : List Shape :=
  rs.flatMap fun
    | list item => item.readers
    | _ => []

/-- The shapes as which the readers of an object read the property with the given key. -/
def propertyReaders (rs : List Shape) (key : String) : List Shape :=
  rs.flatMap fun
    | struct _ fields => (fields.filter fun f => f.1.wire = key).flatMap fun f => f.2.readers
    | record entry => entry.readers
    | _ => []

/-- The keys that the structs among the readers of an object ask for. -/
def declaredKeys (rs : List Shape) : List String :=
  rs.flatMap fun
    | struct _ fields => wires fields
    | _ => []

/-- The value is edited in one place, at any depth. Only objects are edited that none of their
readers takes for a record, which would see every key. -/
inductive Edit : List Shape → Value → Value → Prop
  | entries {rs : List Shape} {es es' : List (String × Value)} :
    (∀ entry, record entry ∉ rs) → (Entries.keys es).Nodup →
      Entries.Edit (declaredKeys rs) es es' → Edit rs (.object es) (.object es')
  | property {rs : List Shape} {es : List (String × Value)} {key : String} {x y : Value} :
    Entries.get? es key = some x → Edit (propertyReaders rs key) x y →
      Edit rs (.object es) (.object (Entries.insert es key y))
  | item {rs : List Shape} {items : List Value} {n : Nat} {x y : Value} :
    items[n]? = some x → Edit (itemReaders rs) x y →
      Edit rs (.array items) (.array (items.set n y))

/-! ### Agreement of readers -/

variable {s : Shape} {v w : Value}

/-- Two objects agree if the structs and the records that read them see no difference. -/
theorem agree_object {es es' : List (String × Value)}
    (hstruct : ∀ name fields, struct name fields ∈ s.readers → ∀ f ∈ fields,
      f.2.Agree (Host.property (object es) f.1.wire) (Host.property (object es') f.1.wire))
    (hrecord : ∀ entry, record entry ∈ s.readers →
      List.Forall₂ (fun e e' => e.1 = e'.1 ∧ entry.Agree e.2 e'.2) es es') :
    s.Agree (object es) (object es') := by
  induction s with
  | option content ih => exact ih hstruct hrecord
  | list item ih => exact ⟨rfl, .nil⟩
  | record entry ih => exact ⟨rfl, hrecord entry (List.mem_singleton.2 rfl)⟩
  | struct name fields ih =>
    exact ⟨rfl, agreeFields_iff.2 (hstruct name fields (List.mem_singleton.2 rfl))⟩
  | union name variants ih =>
    refine ⟨rfl, agreeVariants_iff.2 fun c hc => ih c hc ?_ ?_⟩
    · intro name' fields hr
      exact hstruct name' fields (mem_variantReaders.2 ⟨c, hc, hr⟩)
    · intro entry hr
      exact hrecord entry (mem_variantReaders.2 ⟨c, hc, hr⟩)
  | _ => rfl

/-- Two arrays agree if the lists that read them see no difference. -/
theorem agree_array {xs ys : List Value}
    (hlist : ∀ item, list item ∈ s.readers → List.Forall₂ item.Agree xs ys) :
    s.Agree (array xs) (array ys) := by
  induction s with
  | option content ih => exact ih hlist
  | list item ih => exact ⟨rfl, hlist item (List.mem_singleton.2 rfl)⟩
  | record entry ih => exact ⟨rfl, .nil⟩
  | struct name fields ih => exact ⟨rfl, agreeFields_iff.2 fun f _ => Agree.refl f.2 _⟩
  | union name variants ih =>
    refine ⟨rfl, agreeVariants_iff.2 fun c hc => ih c hc fun item hr => ?_⟩
    exact hlist item (mem_variantReaders.2 ⟨c, hc, hr⟩)
  | _ => rfl

end Shape

/-! ### One edit -/

namespace Entries

/-- After an edit the declared keys read as before. -/
theorem Edit.property_eq {declared : List String} {es es' : List (String × Value)}
    (h : Edit declared es es') (hn : (keys es).Nodup) {wire : String} (hwire : wire ∈ declared) :
    Host.property (Value.object es') wire = Host.property (Value.object es) wire := by
  rw [Value.property_object, Value.property_object]
  cases h with
  | reorder hp => rw [get?_perm hn hp]
  | @addUndefined key hkey =>
    by_cases hne : wire = key
    · subst hne
      rw [get?_insert_self, hkey]
      rfl
    · rw [get?_insert_of_ne es hne]
  | @removeUndefined key hkey =>
    by_cases hne : wire = key
    · subst hne
      rw [get?_erase_self hn, hkey]
      rfl
    · rw [get?_erase_of_ne es hne]
  | set x hkey =>
    have hne := ne_of_mem_of_not_mem hwire hkey
    rw [get?_insert_of_ne es hne]
  | remove hkey =>
    have hne := ne_of_mem_of_not_mem hwire hkey
    rw [get?_erase_of_ne es hne]

/-- Replacing an entry by a related one keeps all entries related. -/
theorem forall₂_insert {R : Value → Value → Prop} (hR : ∀ z, R z z) {es : List (String × Value)}
    {key : String} {x y : Value} (hx : get? es key = some x) (hxy : R x y) :
    List.Forall₂ (fun e e' => e.1 = e'.1 ∧ R e.2 e'.2) es (insert es key y) := by
  induction es with
  | nil => cases hx
  | cons e es ih =>
    obtain ⟨k, z⟩ := e
    rw [get?] at hx
    rw [insert]
    split at hx
    · rename_i hk
      cases hx
      rw [if_pos hk]
      exact .cons ⟨rfl, hxy⟩ (List.forall₂_same.2 fun e _ => ⟨rfl, hR e.2⟩)
    · rename_i hk
      rw [if_neg hk]
      exact .cons ⟨rfl, hR z⟩ (ih hx)

end Entries

namespace Shape

open Value

/-- Replacing an item by a related one keeps all items related. -/
theorem forall₂_set {R : Value → Value → Prop} (hR : ∀ z, R z z) {items : List Value} {n : Nat}
    {x y : Value} (hx : items[n]? = some x) (hxy : R x y) :
    List.Forall₂ R items (items.set n y) := by
  induction items generalizing n with
  | nil => cases hx
  | cons z items ih =>
    cases n with
    | zero =>
      cases hx
      exact .cons hxy (List.forall₂_same.2 fun e _ => hR e)
    | succ n => exact .cons (hR z) (ih hx)

/-- No reader of the value sees an edit. -/
theorem Edit.agree {rs : List Shape} {s : Shape} {v w : Value} (h : Edit rs v w)
    (hs : ∀ r ∈ s.readers, r ∈ rs) : s.Agree v w := by
  induction h generalizing s with
  | entries hrecord hn hedit =>
    refine agree_object ?_ fun entry hr => absurd (hs _ hr) (hrecord entry)
    intro name fields hr f hf
    have hwire : f.1.wire ∈ declaredKeys _ :=
      List.mem_flatMap.2 ⟨_, hs _ hr, List.mem_map.2 ⟨f, hf, rfl⟩⟩
    rw [hedit.property_eq hn hwire]
    exact Agree.refl f.2 _
  | @property rs es key x y hx _ ih =>
    refine agree_object ?_ ?_
    · intro name fields hr f hf
      rw [property_object, property_object]
      by_cases hkey : f.1.wire = key
      · -- The edit lies in the property of this field.
        have hreaders : ∀ r ∈ f.2.readers, r ∈ propertyReaders rs key := by
          intro r hmem
          have hf' : f ∈ fields.filter fun f => f.1.wire = key :=
            List.mem_filter.2 ⟨hf, decide_eq_true hkey⟩
          exact List.mem_flatMap.2 ⟨_, hs _ hr, List.mem_flatMap.2 ⟨f, hf', hmem⟩⟩
        rw [hkey, Entries.get?_insert_self, hx]
        exact ih hreaders
      · rw [Entries.get?_insert_of_ne es hkey]
        exact Agree.refl f.2 _
    · intro entry hr
      have hreaders : ∀ r ∈ entry.readers, r ∈ propertyReaders rs key := fun r hmem =>
        List.mem_flatMap.2 ⟨_, hs _ hr, hmem⟩
      exact Entries.forall₂_insert (Agree.refl entry) hx (ih hreaders)
  | @item rs items n x y hx _ ih =>
    refine agree_array fun item hr => ?_
    have hreaders : ∀ r ∈ item.readers, r ∈ itemReaders rs := fun r hmem =>
      List.mem_flatMap.2 ⟨_, hs _ hr, hmem⟩
    exact forall₂_set (Agree.refl item) hx (ih hreaders)

/-! ### Any number of edits -/

/-- The second value comes from the first one by any number of edits. -/
def Edits (s : Shape) : Value → Value → Prop :=
  Relation.ReflTransGen (Edit s.readers)

theorem Edits.agree {s : Shape} {v w : Value} (h : s.Edits v w) : s.Agree v w := by
  induction h with
  | refl => exact Agree.refl s v
  | tail _ hedit ih => exact ih.trans (hedit.agree fun _ hr => hr)

/-- Edits change neither what the probe says nor what is read. Where nothing is read, both errors
stand at the same place and have the same fault, unless the property there is missing in the one
value and explicitly undefined in the other. -/
theorem edits_unseen (s : Shape) {v w : Value} (h : s.Edits v w) :
    s.probe v = s.probe w ∧
      ((∃ x, s.decode v = .ok x ∧ s.decode w = .ok x) ∨
        ∃ e e', s.decode v = .error e ∧ s.decode w = .error e' ∧ e.path = e'.path ∧
          (e.fault = e'.fault ∨ v.AbsentOrUndefined w e e' ∨ w.AbsentOrUndefined v e' e)) := by
  refine ⟨h.agree.probe, ?_⟩
  have hresult := h.agree.decode
  generalize s.decode v = r at hresult ⊢
  generalize s.decode w = r' at hresult ⊢
  cases hresult with
  | ok x => exact Or.inl ⟨x, rfl, rfl⟩
  | error he => exact Or.inr ⟨_, _, rfl, rfl, he.1, he.2⟩

/-- In an item of a list, behind a union, the name of a sample is missing. It is added as undefined,
next to a property that no field names, and the properties are put into another order. -/
theorem edits_unseen_sample : ∃ (s : Shape) (v w : Value) (e e' : DecodeError), s.Edits v w ∧
    s.decode v = .error e ∧ s.decode w = .error e' ∧ e.path = e'.path ∧
      v.AbsentOrUndefined w e e' := by
  let sample : Shape := struct "Sample"
    [(⟨"name", "name"⟩, string), (⟨"note", "note"⟩, option string)]
  let s : Shape := union "Samples" [("One", sample), ("All", list sample)]
  let es : List (String × Value) := [("note", .string "n")]
  let es₁ : List (String × Value) := Entries.insert es "name" .undefined
  let es₂ : List (String × Value) := Entries.insert es₁ "extra" .null
  let es₃ : List (String × Value) :=
    [("name", .undefined), ("note", .string "n"), ("extra", .null)]
  have hedit {es es' : List (String × Value)} (hn : (Entries.keys es).Nodup)
      (h : Entries.Edit ["name", "note"] es es') :
      Edit s.readers (.array [.object es]) (.array [.object es']) := by
    have hrecord : ∀ entry, record entry ∉ itemReaders s.readers := by
      intro entry hmem
      have heq : record entry = sample := List.mem_singleton.1 hmem
      simp [sample] at heq
    exact .item (n := 0) rfl (.entries hrecord hn h)
  have e₁ : Entries.Edit ["name", "note"] es es₁ := .addUndefined rfl
  have e₂ : Entries.Edit ["name", "note"] es₁ es₂ := .set .null (by decide)
  have e₃ : Entries.Edit ["name", "note"] es₂ es₃ := .reorder (.swap _ _ _)
  have h₁ := hedit (by decide) e₁
  have h₂ := hedit (by decide) e₂
  have h₃ := hedit (by decide) e₃
  have h : s.Edits (.array [.object es]) (.array [.object es₃]) :=
    ((Relation.ReflTransGen.single h₁).tail h₂).tail h₃
  obtain ⟨_, ⟨x, hx, _⟩ | ⟨e, e', he, he', hpath, hfault⟩⟩ := edits_unseen s h
  · cases hx
  · refine ⟨s, _, _, e, e', h, he, he', hpath, ?_⟩
    cases he
    cases he'
    rcases hfault with hfault | habsent | habsent
    · cases hfault
    · exact habsent
    · obtain ⟨_, _, _, _, -, -, -, -, -, hfault, -⟩ := habsent
      cases hfault

end Shape

end Parley
