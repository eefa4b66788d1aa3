import Parley.Path
import Parley.Proofs.Schema.RoundTrip
import Parley.Proofs.Text.Quoted
import Parley.Text.Alphanumeric

/-!
# Reading paths back

Fields have names of letters, digits and underscores, but the keys of entries come from the other
side and may hold any text, brackets and quotes and dots among them. The text of a path is
unambiguous all the same (`text_inj`): the first character of a step tells what it is, and every kind
of step shows where it ends (`Segment.text_append_inj`).
-/

namespace Parley

/-- Letters, digits and underscores. -/
def Text.isWordChar (c : Char) : Bool := Text.isAlphanumeric c || c = '_'

namespace Segment

/-- The name, if the step is to a field, has only letters, digits and underscores. -/
def Plain : Segment → Prop
  | field name => ∀ c ∈ name.toList, Text.isWordChar c = true
  | index _ => True
  | key _ => True

instance : DecidablePred Plain
  | field name => decidable_of_iff (name.toList.all Text.isWordChar = true) List.all_eq_true
  | index _ => .isTrue trivial
  | key _ => .isTrue trivial

/-! ### One step -/

theorem field_append (name : String) (r : List Char) :
    (field name).text.toList ++ r = '.' :: (name.toList ++ r) := by
  simp [text]

theorem index_append (n : Nat) (r : List Char) :
    (index n).text.toList ++ r = '[' :: (Nat.toDigits 10 n ++ ']' :: r) := by
  simp [text, Nat.repr]

theorem key_append (k : String) (r : List Char) :
    (key k).text.toList ++ r = '[' :: ((Text.quoted k).toList ++ ']' :: r) := by
  simp [text]

/-- The characters of a path behind those of the value itself. -/
def chars (p : Path) : List Char := p.flatMap fun g => g.text.toList

@[simp] theorem chars_cons (g : Segment) (p : Path) :
    chars (g :: p) = g.text.toList ++ chars p := List.flatMap_cons

/-- No step starts like the name of a field. -/
theorem takeWhile_chars (p : Path) : (chars p).takeWhile Text.isWordChar = [] := by
  have hdot : Text.isWordChar '.' = false := by decide +kernel
  have hbracket : Text.isWordChar '[' = false := by decide +kernel
  cases p with
  | nil => rfl
  | cons g p =>
    cases g with
    | field name => simp [field_append, hdot]
    | index n => simp [index_append, hbracket]
    | key k => simp [key_append, hbracket]

/-- No number starts with a quote, so that indices and keys are told apart. -/
theorem toDigits_append_ne (n : Nat) (r r' : List Char) :
    Nat.toDigits 10 n ++ ']' :: r ≠ '"' :: r' := by
  intro h
  cases hd : Nat.toDigits 10 n with
  | nil =>
    rw [hd] at h
    exact absurd (List.cons.inj h).1 (by decide)
  | cons d ds =>
    rw [hd] at h
    have hmem : d ∈ Nat.toDigits 10 n := hd ▸ List.mem_cons_self
    have hdigit : d.isDigit = true :=
      Nat.isDigit_of_mem_toDigits (by decide) (Nat.le_refl 10) hmem
    rw [(List.cons.inj h).1] at hdigit
    exact absurd hdigit (by decide)

/-- A number ends where its digits do. -/
theorem toDigits_append_inj {n n' : Nat} {r r' : List Char}
    (h : Nat.toDigits 10 n ++ ']' :: r = Nat.toDigits 10 n' ++ ']' :: r') : n = n' ∧ r = r' := by
  have hdigit (m : Nat) : ∀ c ∈ Nat.toDigits 10 m, c.isDigit = true := fun c hc =>
    Nat.isDigit_of_mem_toDigits (by decide) (Nat.le_refl 10) hc
  have hstop (s : List Char) : (']' :: s).takeWhile Char.isDigit = [] := rfl
  obtain ⟨hdigits, hr⟩ := Text.append_inj_of_stop (hdigit n) (hdigit n') (hstop r) (hstop r') h
  refine ⟨?_, (List.cons.inj hr).2⟩
  rw [← Nat.ofDigitChars_ten_toDigits (n := n), hdigits, Nat.ofDigitChars_ten_toDigits]

/-- The text of a step tells which step it is, and where the other steps begin. -/
theorem text_append_inj {g g' : Segment} (hg : g.Plain) (hg' : g'.Plain) {p p' : Path}
    (h : g.text.toList ++ chars p = g'.text.toList ++ chars p') : g = g' ∧ chars p = chars p' := by
  cases g with
  | field name =>
    rw [field_append] at h
    cases g' with
    | field name' =>
      rw [field_append] at h
      obtain ⟨hname, hrest⟩ := Text.append_inj_of_stop hg hg' (takeWhile_chars p)
        (takeWhile_chars p') (List.cons.inj h).2
      exact ⟨congrArg field (String.toList_injective hname), hrest⟩
    | index n =>
      rw [index_append] at h
      exact absurd (List.cons.inj h).1 (by decide)
    | key k =>
      rw [key_append] at h
      exact absurd (List.cons.inj h).1 (by decide)
  | index n =>
    rw [index_append] at h
    cases g' with
    | field name' =>
      rw [field_append] at h
      exact absurd (List.cons.inj h).1 (by decide)
    | index n' =>
      rw [index_append] at h
      obtain ⟨rfl, hrest⟩ := toDigits_append_inj (List.cons.inj h).2
      exact ⟨rfl, hrest⟩
    | key k =>
      rw [key_append, Text.toList_quoted] at h
      exact absurd (List.cons.inj h).2 (toDigits_append_ne n _ _)
  | key k =>
    rw [key_append] at h
    cases g' with
    | field name' =>
      rw [field_append] at h
      exact absurd (List.cons.inj h).1 (by decide)
    | index n' =>
      rw [index_append, Text.toList_quoted] at h
      exact absurd (List.cons.inj h).2.symm (toDigits_append_ne n' _ _)
    | key k' =>
      rw [key_append] at h
      obtain ⟨rfl, hrest⟩ := Text.quoted_append_inj (List.cons.inj h).2
      exact ⟨rfl, (List.cons.inj hrest).2⟩

end Segment

/-! ### Paths -/

namespace Path

open Segment

theorem toList_text (p : Path) : p.text.toList = '$' :: chars p := by
  simp [text, chars, String.toList_join, List.flatMap_map]

theorem chars_cons_ne (g : Segment) (p : Path) : chars (g :: p) ≠ [] := by
  cases g <;> simp [field_append, index_append, key_append]

/-- Step by step, the characters tell the path. -/
theorem chars_inj {p q : Path} (hp : ∀ g ∈ p, g.Plain) (hq : ∀ g ∈ q, g.Plain)
    (h : chars p = chars q) : p = q := by
  induction p generalizing q with
  | nil =>
    cases q with
    | nil => rfl
    | cons g q => exact absurd h.symm (chars_cons_ne g q)
  | cons g p ih =>
    cases q with
    | nil => exact absurd h (chars_cons_ne g p)
    | cons g' q =>
      obtain ⟨hg, hps⟩ := List.forall_mem_cons.1 hp
      obtain ⟨hg', hqs⟩ := List.forall_mem_cons.1 hq
      rw [chars_cons, chars_cons] at h
      obtain ⟨rfl, hrest⟩ := text_append_inj hg hg' h
      exact congrArg (g :: ·) (ih hps hqs hrest)

theorem text_inj {p q : Path} (hp : ∀ g ∈ p, g.Plain) (hq : ∀ g ∈ q, g.Plain)
    (h : p.text = q.text) : p = q := by
  have hchars := congrArg String.toList h
  rw [toList_text, toList_text] at hchars
  exact chars_inj hp hq (List.cons.inj hchars).2

end Path

/-! ### Names of the schema -/

namespace Shape

mutual

/-- The names under which properties travel, at any depth. -/
def names : Shape → List String
  | option content => content.names
  | list item => item.names
  | record entry => entry.names
  | struct _ fields => fieldNames fields
  | union _ variants => variantNames variants
  | _ => []

def fieldNames : List (Label × Shape) → List String
  | [] => []
  | (label, s) :: fs => label.wire :: (s.names ++ fieldNames fs)

def variantNames : List (String × Shape) → List String
  | [] => []
  | (_, s) :: vs => s.names ++ variantNames vs

end

end Shape

namespace Schema

/-- Every property of the schema has a name of letters, digits and underscores. -/
theorem plain_of_mem_names :
    ∀ s ∈ shapes, ∀ wire ∈ s.names, wire ≠ "" ∧ (Segment.field wire).Plain := by
  decide +kernel

end Schema

/-! ### Main statement -/

namespace Path

/-- Where the names of fields consist of letters, digits and underscores, as they do throughout the
schema, paths with the same text are the same, whatever their keys hold. -/
theorem text_unambiguous :
    (∀ p q : Path, (∀ g ∈ p, g.Plain) → (∀ g ∈ q, g.Plain) → (p.text = q.text ↔ p = q)) ∧
      ∀ s ∈ Schema.shapes, ∀ wire ∈ s.names, wire ≠ "" ∧ (Segment.field wire).Plain := by
  refine ⟨?_, Schema.plain_of_mem_names⟩
  intro p q hp hq
  exact ⟨text_inj hp hq, congrArg text⟩

/-- A key that holds what looks like its end and further steps, against these steps. -/
theorem text_unambiguous_key :
    text [.key "a\"][0].b[\"c"] ≠ text [.key "a", .index 0, .field "b", .key "c"] := by
  intro h
  have hp : ∀ g ∈ [Segment.key "a\"][0].b[\"c"], g.Plain := by decide +kernel
  have hq : ∀ g ∈ [Segment.key "a", .index 0, .field "b", .key "c"], g.Plain := by decide +kernel
  exact absurd ((text_unambiguous.1 _ _ hp hq).1 h) (by decide)

end Path

end Parley
