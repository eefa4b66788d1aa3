import Mathlib.Data.List.Forall2
import Parley.Proofs.Except
import Parley.Shape.Codec

/-!
# What the parts of a codec do

One statement for each part that a codec is put together from: when it succeeds, and which errors it
gives. Everything about whole shapes is proved from these, so that no later proof opens a loop over
items, entries, fields or candidates.
-/

namespace Parley

namespace Codec

variable {α β γ ε V : Type}

/-! ### The first failure -/

/-- A run that goes on as long as the elements of a list are `fine` comes to `c`, which stands at
position `n`. -/
def Reaches (fine : γ → Prop) (cs : List γ) (n : Nat) (c : γ) : Prop :=
  cs[n]? = some c ∧ ∀ b ∈ cs.take n, fine b

/-- A run stops at the first element, or goes on behind it. -/
theorem exists_reaches_cons {fine : γ → Prop} {c : γ} {cs : List γ} {P : Nat → γ → Prop} :
    (∃ n d, Reaches fine (c :: cs) n d ∧ P n d) ↔
      P 0 c ∨ fine c ∧ ∃ n d, Reaches fine cs n d ∧ P (n + 1) d := by
  constructor
  · rintro ⟨n, d, ⟨hd, hfine⟩, h⟩
    cases n with
    | zero =>
      cases hd
      exact .inl h
    | succ n =>
      obtain ⟨hc, hfine⟩ := List.forall_mem_cons.1 hfine
      exact .inr ⟨hc, n, d, ⟨hd, hfine⟩, h⟩
  · rintro (h | ⟨hc, n, d, ⟨hd, hfine⟩, h⟩)
    · exact ⟨0, c, ⟨rfl, by simp⟩, h⟩
    · exact ⟨n + 1, d, ⟨hd, List.forall_mem_cons.2 ⟨hc, hfine⟩⟩, h⟩

theorem not_exists_reaches_nil {fine : γ → Prop} {P : Nat → γ → Prop} :
    ¬∃ n d, Reaches fine [] n d ∧ P n d := by
  rintro ⟨n, d, ⟨hd, -⟩, -⟩
  simp at hd

/-! ### Items -/

/-- A list goes through if every item does. -/
theorem eachItem_eq_ok {under : Segment → ε → ε} {f : α → Except ε β} {i : Nat} {as : List α}
    {bs : List β} :
    eachItem under f i as = .ok bs ↔ List.Forall₂ (fun a b => f a = .ok b) as bs := by
  induction as generalizing i bs with
  | nil =>
    rw [List.forall₂_nil_left_iff, eachItem, Except.ok.injEq, eq_comm]
  | cons a as ih =>
    rw [eachItem, Except.bind_eq_ok, List.forall₂_cons_left_iff]
    constructor
    · rintro ⟨b, hb, h⟩
      obtain ⟨bs', hbs, h⟩ := Except.bind_eq_ok.1 h
      cases h
      exact ⟨b, bs', Except.mapError_eq_ok.1 hb, ih.1 hbs, rfl⟩
    · rintro ⟨b, bs', hb, hbs, rfl⟩
      exact ⟨b, Except.mapError_eq_ok.2 hb, Except.bind_eq_ok.2 ⟨bs', ih.2 hbs, rfl⟩⟩

/-- A list of items fails with the error of the first item that fails. -/
theorem eachItem_eq_error_iff {under : Segment → ε → ε} {f : α → Except ε β} {i : Nat}
    {as : List α} {e : ε} :
    eachItem under f i as = .error e ↔
      ∃ n a, Reaches (fun b => ∃ x, f b = .ok x) as n a ∧
        ∃ e', f a = .error e' ∧ e = under (.index (i + n)) e' := by
  -- the items that are left start at a higher index
  induction as generalizing i with
  | nil => exact iff_of_false (by simp [eachItem]) not_exists_reaches_nil
  | cons a as ih =>
    rw [exists_reaches_cons, eachItem, Except.bind_eq_error]
    apply or_congr
    · rw [Except.mapError_eq_error]
      simp only [Nat.add_zero, eq_comm]
    · constructor
      · rintro ⟨b, hb, h⟩
        refine ⟨⟨b, Except.mapError_eq_ok.1 hb⟩, ?_⟩
        rcases Except.bind_eq_error.1 h with h | ⟨bs, -, h⟩
        · obtain ⟨n, d, hd, e', he', rfl⟩ := ih.1 h
          exact ⟨n, d, hd, e', he', by rw [Nat.add_right_comm, Nat.add_assoc]⟩
        · cases h
      · rintro ⟨⟨b, hb⟩, n, d, hd, e', he', rfl⟩
        have h : eachItem under f (i + 1) as = .error (under (.index (i + (n + 1))) e') :=
          ih.2 ⟨n, d, hd, e', he', by rw [Nat.add_right_comm, Nat.add_assoc]⟩
        exact ⟨b, Except.mapError_eq_ok.2 hb, Except.bind_eq_error.2 (.inl h)⟩

/-- The error of a list is that of one of its items, placed under the index of the item. -/
theorem eachItem_eq_error {under : Segment → ε → ε} {f : α → Except ε β} {i : Nat} {as : List α}
    {e : ε} (h : eachItem under f i as = .error e) :
    ∃ n a e', as[n]? = some a ∧ f a = .error e' ∧ e = under (.index (i + n)) e' := by
  obtain ⟨n, a, ⟨ha, -⟩, e', he', rfl⟩ := eachItem_eq_error_iff.1 h
  exact ⟨n, a, e', ha, he', rfl⟩

/-! ### Entries and fields -/

variable [Host V]

/-- A record fails with the error of the first key whose property fails. -/
theorem readEntries_eq_error_iff {decode : V → Except DecodeError α} {v : V} {keys : List String}
    {r : Record α} {e : DecodeError} :
    readEntries decode v keys r = .error e ↔
      ∃ n key, Reaches (fun k => ∃ a, decode (Host.property v k) = .ok a) keys n key ∧
        ∃ e', decode (Host.property v key) = .error e' ∧ e = e'.under (.key key) := by
  induction keys generalizing r with
  | nil => exact iff_of_false (by simp [readEntries]) not_exists_reaches_nil
  | cons key keys ih =>
    rw [exists_reaches_cons, readEntries, Except.bind_eq_error]
    apply or_congr
    · rw [Except.mapError_eq_error]
      simp only [eq_comm]
    · constructor
      · rintro ⟨a, ha, h⟩
        exact ⟨⟨a, Except.mapError_eq_ok.1 ha⟩, ih.1 h⟩
      · rintro ⟨⟨a, ha⟩, h⟩
        exact ⟨a, Except.mapError_eq_ok.2 ha, ih.2 h⟩

/-- The error of a record is that of the property of one of the keys, placed under the key. -/
theorem readEntries_eq_error {decode : V → Except DecodeError α} {v : V} {keys : List String}
    {r : Record α} {e : DecodeError} (h : readEntries decode v keys r = .error e) :
    ∃ key ∈ keys, ∃ e', decode (Host.property v key) = .error e' ∧ e = e'.under (.key key) := by
  obtain ⟨n, key, ⟨hkey, -⟩, he⟩ := readEntries_eq_error_iff.1 h
  exact ⟨key, List.mem_of_getElem? hkey, he⟩

/-- A field reads what its property, or undefined in its place, reads as. -/
theorem readField_eq_ok {wire : String} {probe : V → Bool} {decode : V → Except DecodeError α}
    (hp : ∀ a, decode Host.undefined = .ok a → probe Host.undefined = true) {v : V} {a : α} :
    readField wire probe decode v = .ok a ↔ decode (Host.property v wire) = .ok a := by
  unfold readField Host.property
  cases Host.get? v wire with
  | some x => exact Except.mapError_eq_ok
  | none =>
    by_cases h : probe Host.undefined = true
    · simp only [h, if_true, Except.mapError_eq_ok, Option.getD_none]
    · simp only [h, Option.getD_none]
      exact ⟨fun h' => by simp at h', fun h' => absurd (hp a h') h⟩

/-- A field fails as its property does, or is missing. -/
theorem readField_eq_error {wire : String} {probe : V → Bool} {decode : V → Except DecodeError α}
    {v : V} {e : DecodeError} (h : readField wire probe decode v = .error e) :
    (∃ e', decode (Host.property v wire) = .error e' ∧ e = e'.under (.field wire)) ∨
      (Host.get? v wire = none ∧ probe Host.undefined = false ∧ e = .missing wire) := by
  unfold readField at h
  unfold Host.property
  cases hv : Host.get? v wire with
  | some x =>
    rw [hv] at h
    obtain ⟨e', hx, rfl⟩ := Except.mapError_eq_error.1 h
    exact Or.inl ⟨e', hx, rfl⟩
  | none =>
    rw [hv] at h
    by_cases hp : probe Host.undefined = true
    · simp only [hp, if_true] at h
      obtain ⟨e', hx, rfl⟩ := Except.mapError_eq_error.1 h
      exact Or.inl ⟨e', hx, rfl⟩
    · simp only [hp] at h
      cases h
      exact Or.inr ⟨rfl, by simpa using hp, rfl⟩

/-! ### Leaves -/

theorem orMismatch_eq_ok {expected : String} {v : V} {o : Option α} {a : α} :
    orMismatch expected v o = .ok a ↔ o = some a := by
  cases o <;> simp [orMismatch]

theorem orMismatch_eq_error {expected : String} {v : V} {o : Option α} {e : DecodeError} :
    orMismatch expected v o = .error e ↔ o = none ∧ mismatch expected v = e := by
  cases o <;> simp [orMismatch]

theorem readLiteral_eq_ok {text : String} {v : V} {u : Unit} :
    readLiteral text v = .ok u ↔ Host.string? v = some text := by
  unfold readLiteral
  cases Host.string? v with
  | none => simp
  | some found => by_cases h : found = text <;> simp [h]

theorem readLiteral_eq_error {text : String} {v : V} {e : DecodeError} :
    readLiteral text v = .error e ↔ Host.string? v ≠ some text ∧
      e = .here (.literal text ((Host.string? v).getD (Host.typeName v))) := by
  unfold readLiteral
  cases Host.string? v with
  | none => simp [eq_comm]
  | some found => by_cases h : found = text <;> simp [h, eq_comm (b := e)]

end Codec

namespace Shape

open Codec

variable {V : Type} [Host V]

/-! ### Structs -/

theorem probeFields_iff {fields : List (Label × Shape)} {v : V} :
    probeFields fields v = true ↔ ∀ f ∈ fields, f.2.probe (Host.property v f.1.wire) = true := by
  induction fields with
  | nil => simp [probeFields]
  | cons f fields ih => simp [probeFields, ih]

/-- The fields of a struct with their values, in order. -/
def fieldList : (fields : List (Label × Shape)) → FieldVals fields →
    List ((f : Label × Shape) × f.2.Val)
  | [], _ => []
  | (l, s) :: fs, (x, xs) => ⟨(l, s), x⟩ :: fieldList fs xs

theorem forall_mem_fieldList_cons {P : (f : Label × Shape) × f.2.Val → Prop} {f : Label × Shape}
    {fields : List (Label × Shape)} {x : f.2.Val} {xs : FieldVals fields} :
    (∀ p ∈ fieldList (f :: fields) (x, xs), P p) ↔ P ⟨f, x⟩ ∧ ∀ p ∈ fieldList fields xs, P p :=
  List.forall_mem_cons

theorem mem_of_mem_fieldList {fields : List (Label × Shape)} {xs : FieldVals fields}
    {p : (f : Label × Shape) × f.2.Val} (h : p ∈ fieldList fields xs) : p.1 ∈ fields := by
  induction fields with
  | nil => exact absurd h List.not_mem_nil
  | cons f fields ih =>
    obtain ⟨x, xs⟩ := xs
    rcases List.mem_cons.1 h with rfl | h
    · exact List.mem_cons_self
    · exact List.mem_cons_of_mem _ (ih h)

theorem exists_mem_fieldList {fields : List (Label × Shape)} (xs : FieldVals fields)
    {f : Label × Shape} (h : f ∈ fields) : ∃ x, ⟨f, x⟩ ∈ fieldList fields xs := by
  induction fields with
  | nil => exact absurd h List.not_mem_nil
  | cons f' fields ih =>
    obtain ⟨x, xs⟩ := xs
    rcases List.mem_cons.1 h with rfl | h
    · exact ⟨x, List.mem_cons_self⟩
    · obtain ⟨y, hy⟩ := ih xs h
      exact ⟨y, List.mem_cons_of_mem _ hy⟩

/-- A struct is read as the values that its fields are read as. -/
theorem decodeFields_eq_ok_iff {fields : List (Label × Shape)} {v : V} {xs : FieldVals fields} :
    decodeFields fields v = .ok xs ↔
      ∀ p ∈ fieldList fields xs, readField p.1.1.wire p.1.2.probe p.1.2.decode v = .ok p.2 := by
  induction fields with
  | nil => exact iff_of_true rfl fun p hp => absurd hp List.not_mem_nil
  | cons f fields ih =>
    obtain ⟨x, xs⟩ := xs
    rw [forall_mem_fieldList_cons, ← ih]
    constructor
    · intro h
      obtain ⟨x', hx, h⟩ := Except.bind_eq_ok.1 h
      obtain ⟨xs', hxs, h⟩ := Except.bind_eq_ok.1 h
      cases h
      exact ⟨hx, hxs⟩
    · rintro ⟨hx, hxs⟩
      exact Except.bind_eq_ok.2 ⟨x, hx, Except.bind_eq_ok.2 ⟨xs, hxs, rfl⟩⟩

/-- A struct is read only if every field is. -/
theorem decodeFields_eq_ok {fields : List (Label × Shape)} {v : V} {xs : FieldVals fields}
    (h : decodeFields fields v = .ok xs) :
    ∀ f ∈ fields, ∃ x, readField f.1.wire f.2.probe f.2.decode v = .ok x := by
  intro f hf
  obtain ⟨x, hx⟩ := exists_mem_fieldList xs hf
  exact ⟨x, decodeFields_eq_ok_iff.1 h _ hx⟩

/-- A struct fails with the error of the first field that fails. -/
theorem decodeFields_eq_error_iff {fields : List (Label × Shape)} {v : V} {e : DecodeError} :
    decodeFields fields v = .error e ↔
      ∃ n f, Reaches (fun g => ∃ x, readField g.1.wire g.2.probe g.2.decode v = .ok x) fields n f ∧
        readField f.1.wire f.2.probe f.2.decode v = .error e := by
  induction fields with
  | nil => exact iff_of_false (by simp [decodeFields]) not_exists_reaches_nil
  | cons f fields ih =>
    rw [exists_reaches_cons, ← ih]
    constructor
    · intro h
      rcases Except.bind_eq_error.1 h with h | ⟨x, hx, h⟩
      · exact .inl h
      · rcases Except.bind_eq_error.1 h with h | ⟨xs, -, h⟩
        · exact .inr ⟨⟨x, hx⟩, h⟩
        · cases h
    · intro h
      apply Except.bind_eq_error.2
      rcases h with h | ⟨⟨x, hx⟩, h⟩
      · exact .inl h
      · exact .inr ⟨x, hx, Except.bind_eq_error.2 (.inl h)⟩

/-- The error of a struct is that of one of its fields. -/
theorem decodeFields_eq_error {fields : List (Label × Shape)} {v : V} {e : DecodeError}
    (h : decodeFields fields v = .error e) :
    ∃ f ∈ fields, readField f.1.wire f.2.probe f.2.decode v = .error e := by
  obtain ⟨n, f, ⟨hf, -⟩, he⟩ := decodeFields_eq_error_iff.1 h
  exact ⟨f, List.mem_of_getElem? hf, he⟩

/-! ### Unions -/

/-- The candidate that a union commits to: the first whose probe accepts. -/
def committed (variants : List (String × Shape)) (v : V) : Option (String × Shape) :=
  variants.find? fun c => c.2.probe v

theorem committed_cons {c : String × Shape} {variants : List (String × Shape)} {v : V} :
    committed (c :: variants) v = if c.2.probe v then some c else committed variants v := by
  rw [committed, List.find?_cons]
  cases c.2.probe v <;> rfl

theorem committed_eq_some {variants : List (String × Shape)} {v : V} {c : String × Shape}
    (h : committed variants v = some c) : c ∈ variants ∧ c.2.probe v = true := by
  rw [committed] at h
  exact ⟨List.mem_of_find?_eq_some h, by simpa using List.find?_some h⟩

theorem probeVariants_eq {variants : List (String × Shape)} {v : V} :
    probeVariants variants v = (committed variants v).isSome := by
  induction variants with
  | nil => rfl
  | cons c variants ih =>
    rw [probeVariants, ih, committed_cons]
    cases c.2.probe v <;> rfl

theorem probeVariants_iff {variants : List (String × Shape)} {v : V} :
    probeVariants variants v = true ↔ ∃ c ∈ variants, c.2.probe v = true := by
  rw [probeVariants_eq, committed, List.find?_isSome]

theorem decodeVariants_cons_of_probe {name : String} {c : String × Shape}
    {variants : List (String × Shape)} {v : V} (hc : c.2.probe v = true) :
    decodeVariants name (c :: variants) v = (c.2.decode v).map .inl :=
  if_pos hc

theorem decodeVariants_cons_of_not_probe {name : String} {c : String × Shape}
    {variants : List (String × Shape)} {v : V} (hc : c.2.probe v = false) :
    decodeVariants name (c :: variants) v = (decodeVariants name variants v).map .inr :=
  if_neg (Bool.eq_false_iff.mp hc)

/-- A union is read only by the candidate that it commits to. -/
theorem decodeVariants_eq_ok {name : String} {variants : List (String × Shape)} {v : V}
    {x : VariantVal variants} (h : decodeVariants name variants v = .ok x) :
    ∃ c, committed variants v = some c ∧ ∃ y, c.2.decode v = .ok y := by
  induction variants with
  | nil => cases h
  | cons c variants ih =>
    rw [committed_cons]
    cases hc : c.2.probe v with
    | true =>
      rw [decodeVariants_cons_of_probe hc] at h
      obtain ⟨y, hy, _⟩ := Except.map_eq_ok.1 h
      exact ⟨c, rfl, y, hy⟩
    | false =>
      rw [decodeVariants_cons_of_not_probe hc] at h
      obtain ⟨y, hy, _⟩ := Except.map_eq_ok.1 h
      exact ih hy

/-- The error of a union is that of the candidate that it commits to, or says that there is none. -/
theorem decodeVariants_eq_error {name : String} {variants : List (String × Shape)} {v : V}
    {e : DecodeError} (h : decodeVariants name variants v = .error e) :
    (committed variants v = none ∧ e = .here (.noVariant name (Host.typeName v))) ∨
      ∃ c, committed variants v = some c ∧ c.2.decode v = .error e := by
  induction variants with
  | nil =>
    cases h
    exact Or.inl ⟨rfl, rfl⟩
  | cons c variants ih =>
    rw [committed_cons]
    cases hc : c.2.probe v with
    | true =>
      rw [decodeVariants_cons_of_probe hc] at h
      exact Or.inr ⟨c, rfl, Except.map_eq_error.1 h⟩
    | false =>
      rw [decodeVariants_cons_of_not_probe hc] at h
      exact ih (Except.map_eq_error.1 h)

/-! ### What dynamic values read as -/

section

variable {v : Value} {name : String} {part : Shape} {fields : List (Label × Shape)}

theorem decode_option_eq_ok {x : Option part.Val} (h : (option part).decode v = .ok x) :
    (v.isUndefined = true ∧ x = none) ∨
      (v.isUndefined = false ∧ ∃ y, part.decode v = .ok y ∧ x = some y) := by
  rw [decode, Value.host_isUndefined] at h
  cases hv : v.isUndefined with
  | true =>
    rw [hv] at h
    cases h
    exact Or.inl ⟨rfl, rfl⟩
  | false =>
    rw [hv] at h
    obtain ⟨y, hy, rfl⟩ := Except.map_eq_ok.1 h
    exact Or.inr ⟨rfl, y, hy, rfl⟩

/-- A list is read from an array, item by item. -/
theorem decode_list_eq_ok {xs : List part.Val} (h : (list part).decode v = .ok xs) :
    ∃ items, v = .array items ∧ List.Forall₂ (fun a x => part.decode a = .ok x) items xs := by
  cases v with
  | array items => exact ⟨items, rfl, eachItem_eq_ok.1 h⟩
  | _ => cases h

theorem decode_record_eq_ok {r : Record part.Val} (h : (record part).decode v = .ok r) :
    ∃ es, v = .object es ∧
      readEntries part.decode (Value.object es) (Entries.keys es) .empty = .ok r := by
  cases v with
  | object es => exact ⟨es, rfl, h⟩
  | _ => cases h

theorem decode_struct_eq_ok {xs : FieldVals fields} (h : (struct name fields).decode v = .ok xs) :
    ∃ es, v = .object es ∧ decodeFields fields (Value.object es) = .ok xs := by
  cases v with
  | object es => exact ⟨es, rfl, h⟩
  | _ => cases h

end

end Shape

end Parley
