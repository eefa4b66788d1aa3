import Mathlib.Tactic.SplitIfs
import Parley.Text.Hex
import Parley.Text.Quoted

/-!
# Quoted texts can be read back

Every character inside a quoted text is written so that it can be told where its writing ends and what
it was (`unescape_escape`), and none is written with a quote in front. So a quoted text shows where it
ends, whatever stands behind it, and which text it quotes (`quoted_append_inj`).
-/

namespace Parley.Text

/-! ### Runs of characters -/

/-- Where a run of some class of characters is followed by one outside, its end is known. -/
theorem append_inj_of_stop {p : Char → Bool} {s s' r r' : List Char} (hs : ∀ c ∈ s, p c = true)
    (hs' : ∀ c ∈ s', p c = true) (hr : r.takeWhile p = []) (hr' : r'.takeWhile p = [])
    (h : s ++ r = s' ++ r') : s = s' ∧ r = r' := by
  have hrun := congrArg (List.takeWhile p) h
  rw [List.takeWhile_append_of_pos hs, List.takeWhile_append_of_pos hs', hr, hr', List.append_nil,
    List.append_nil] at hrun
  subst hrun
  exact ⟨rfl, List.append_cancel_left h⟩

/-! ### Hexadecimal numbers -/

theorem hexDigit?_digitChar {d : Nat} (hd : d < 16) : hexDigit? d.digitChar = some d := by
  revert d
  decide

/-- The digits of a number stand for it. -/
theorem hex?_toDigits (n : Nat) : hex? (Nat.toDigits 16 n) = some n := by
  induction n using Nat.strongRecOn with
  | ind n ih =>
    rw [Nat.toDigits_eq_if (by decide)]
    split
    · rename_i hn
      simp [hex?, hexDigit?_digitChar hn]
    · rename_i hn
      have hrest : hex? (Nat.toDigits 16 (n / 16)) = some (n / 16) := ih _ (by omega)
      have hlast : hexDigit? (n % 16).digitChar = some (n % 16) := hexDigit?_digitChar (by omega)
      rw [hex?] at hrest ⊢
      rw [List.foldlM_append, hrest]
      simp [hlast, Nat.div_add_mod]

/-- A digit is no brace. -/
theorem ne_brace_of_mem_toDigits {n : Nat} {c : Char} (hc : c ∈ Nat.toDigits 16 n) :
    c ≠ '\x7d' := by
  induction n using Nat.strongRecOn with
  | ind n ih =>
    have hdigit : ∀ d < 16, Nat.digitChar d ≠ '\x7d' := by decide
    rw [Nat.toDigits_eq_if (by decide)] at hc
    split at hc
    · rename_i hn
      rw [List.mem_singleton.1 hc]
      exact hdigit n hn
    · rcases List.mem_append.1 hc with hc | hc
      · exact ih _ (by omega) hc
      · rw [List.mem_singleton.1 hc]
        exact hdigit _ (by omega)

theorem charOfNat?_toNat (c : Char) : charOfNat? c.toNat = some c := by
  have hvalid : c.toNat.isValidChar := c.valid
  rw [charOfNat?, dif_pos hvalid]
  rfl

/-! ### One character -/

/-- Reads one character as it is written inside a quoted text, and gives what stands behind it. -/
def unescape : List Char → Option (Char × List Char)
  | [] => none
  | '\\' :: '"' :: r => some ('"', r)
  | '\\' :: '\\' :: r => some ('\\', r)
  | '\\' :: 'n' :: r => some ('\n', r)
  | '\\' :: 'r' :: r => some ('\r', r)
  | '\\' :: 't' :: r => some ('\t', r)
  | '\\' :: '0' :: r => some ('\x00', r)
  | '\\' :: 'u' :: '\x7b' :: r =>
    ((hex? (r.takeWhile (· ≠ '\x7d'))).bind charOfNat?).map
      (·, (r.dropWhile (· ≠ '\x7d')).tail)
  | '\\' :: _ => none
  | c :: r => some (c, r)

theorem unescape_of_ne {c : Char} (hc : c ≠ '\\') (r : List Char) :
    unescape (c :: r) = some (c, r) := by
  unfold unescape
  split <;> simp_all

/-- A character that is written by its number. -/
theorem unescape_number (c : Char) (r : List Char) :
    unescape ('\\' :: 'u' :: '\x7b' :: (Nat.toDigits 16 c.toNat ++ '\x7d' :: r)) = some (c, r) := by
  have hdigits : ∀ d ∈ Nat.toDigits 16 c.toNat, decide (d ≠ '\x7d') = true := fun d hd =>
    decide_eq_true (ne_brace_of_mem_toDigits hd)
  rw [unescape, List.takeWhile_append_of_pos hdigits, List.dropWhile_append_of_pos hdigits]
  simp [hex?_toDigits, charOfNat?_toNat]

/-- Every character is read back, and nothing behind it is touched. -/
theorem unescape_escape (c : Char) (r : List Char) : unescape (escape c ++ r) = some (c, r) := by
  rw [escape]
  split_ifs with hquote hbackslash hnewline hreturn htab hzero hgraphic
  · subst hquote; rfl
  · subst hbackslash; rfl
  · subst hnewline; rfl
  · subst hreturn; rfl
  · subst htab; rfl
  · subst hzero; rfl
  · exact unescape_of_ne hbackslash r
  · simpa using unescape_number c r

/-- No character is written with a quote in front, for it would be read back as a quote. -/
theorem escape_append_ne (c : Char) (r r' : List Char) : escape c ++ r ≠ '"' :: r' := by
  intro h
  have hread := congrArg unescape h
  rw [unescape_escape, unescape_of_ne (by decide), Option.some_inj, Prod.mk.injEq] at hread
  obtain ⟨rfl, -⟩ := hread
  have hquote : escape '"' = ['\\', '"'] := rfl
  rw [hquote] at h
  exact absurd (List.cons.inj h).1 (by decide)

/-! ### Texts -/

/-- A text that is closed by a quote. -/
theorem flatMap_escape_inj {s s' r r' : List Char}
    (h : s.flatMap escape ++ '"' :: r = s'.flatMap escape ++ '"' :: r') : s = s' ∧ r = r' := by
  induction s generalizing s' with
  | nil =>
    cases s' with
    | nil => exact ⟨rfl, (List.cons.inj h).2⟩
    | cons c' s' =>
      rw [List.flatMap_cons, List.append_assoc] at h
      exact absurd h.symm (escape_append_ne c' _ _)
  | cons c s ih =>
    cases s' with
    | nil =>
      rw [List.flatMap_cons, List.append_assoc] at h
      exact absurd h (escape_append_ne c _ _)
    | cons c' s' =>
      rw [List.flatMap_cons, List.flatMap_cons, List.append_assoc, List.append_assoc] at h
      have hread := congrArg unescape h
      rw [unescape_escape, unescape_escape, Option.some_inj, Prod.mk.injEq] at hread
      obtain ⟨rfl, hrest⟩ := hread
      obtain ⟨rfl, hr⟩ := ih hrest
      exact ⟨rfl, hr⟩

theorem toList_quoted (s : String) :
    (quoted s).toList = '"' :: (s.toList.flatMap escape ++ ['"']) := by
  rw [quoted, String.toList_ofList, List.cons_append]

/-- A quoted text tells which text it quotes and where it ends. -/
theorem quoted_append_inj {s s' : String} {r r' : List Char}
    (h : (quoted s).toList ++ r = (quoted s').toList ++ r') : s = s' ∧ r = r' := by
  rw [toList_quoted, toList_quoted, List.cons_append, List.cons_append, List.append_assoc,
    List.append_assoc] at h
  obtain ⟨hs, hr⟩ := flatMap_escape_inj (List.cons.inj h).2
  exact ⟨String.toList_injective hs, hr⟩

end Parley.Text
