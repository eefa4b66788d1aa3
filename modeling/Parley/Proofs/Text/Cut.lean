import Mathlib.Data.List.DropRight
import Mathlib.Data.String.Basic
import Parley.Text.Blank

/-!
# Cutting and trimming texts

A text is cut at a character as its list of characters is (`Text.splitOn_char`). Trimming leaves no
white space at the ends, and changes nothing where there is none (`Text.isTrimmed_trimList`,
`Text.IsTrimmed.trimList_eq`).
-/

namespace Parley.Text

open String

/-- The characters `l` belong to finished words, `m` to the word that is being read, and `r`
are left. -/
theorem splitOnAux_char (c : Char) (l m r : List Char) (acc : List String) :
    splitOnAux (ofList (l ++ m ++ r)) (ofList [c]) ⟨utf8Len l⟩ ⟨utf8Len l + utf8Len m⟩ 0 acc =
      acc.reverse ++ (List.splitOnPPrepend (· == c) r m.reverse).map ofList := by
  -- The separator is a single character, so one comparison tells all: either a word ends here, or
  -- the character belongs to the word, and nothing is ever taken back.
  have hget : Pos.Raw.get (ofList [c]) 0 = c := get_of_valid [] [c]
  have hnext : Pos.Raw.next (ofList [c]) 0 = ⟨c.utf8Size⟩ := by
    simpa using next_of_valid [] c []
  have hend : Pos.Raw.atEnd (ofList [c]) ⟨c.utf8Size⟩ := by
    simpa using (atEnd_of_valid [c] []).2 rfl
  induction r generalizing l m acc with
  | nil =>
    have hlast : Pos.Raw.atEnd (ofList (l ++ m ++ [])) ⟨utf8Len l + utf8Len m⟩ := by
      simpa using (atEnd_of_valid (l ++ m) []).2 rfl
    rw [splitOnAux, if_pos hlast]
    simpa using extract_of_valid l m []
  | cons d r ih =>
    have hmore : ¬ Pos.Raw.atEnd (ofList (l ++ m ++ d :: r)) ⟨utf8Len l + utf8Len m⟩ := by
      simpa using mt (atEnd_of_valid (l ++ m) (d :: r)).1
    have hd : Pos.Raw.get (ofList (l ++ m ++ d :: r)) ⟨utf8Len l + utf8Len m⟩ = d := by
      simpa using get_of_valid (l ++ m) (d :: r)
    have hd' : Pos.Raw.next (ofList (l ++ m ++ d :: r)) ⟨utf8Len l + utf8Len m⟩ =
        ⟨utf8Len l + utf8Len m + d.utf8Size⟩ := by
      simpa using next_of_valid (l ++ m) d r
    rw [splitOnAux, if_neg hmore, hd, hget]
    by_cases h : d = c
    · subst h
      have hword : Pos.Raw.extract (ofList (l ++ m ++ d :: r)) ⟨utf8Len l⟩
          ⟨utf8Len l + utf8Len m⟩ = ofList m := extract_of_valid l m (d :: r)
      have hback : (⟨utf8Len l + utf8Len m + d.utf8Size⟩ : Pos.Raw).unoffsetBy ⟨d.utf8Size⟩ =
          ⟨utf8Len l + utf8Len m⟩ := by simp [Pos.Raw.ext_iff]
      have hrest := ih (l ++ m ++ [d]) [] (ofList m :: acc)
      rw [if_pos (by simp), hd', hnext]
      simp only [hend, if_true, hback, hword]
      simpa [-ofList_append, -ofList_cons, List.splitOnPPrepend_cons_eq_if, Nat.add_assoc]
        using hrest
    · have hback : (⟨utf8Len l + utf8Len m⟩ : Pos.Raw).unoffsetBy 0 =
          ⟨utf8Len l + utf8Len m⟩ := by simp
      have hrest := ih l (m ++ [d]) acc
      rw [if_neg (by simpa using h), hback, hd']
      simpa [-ofList_append, -ofList_cons, List.splitOnPPrepend_cons_eq_if, h, Nat.add_assoc]
        using hrest

/-- A text is cut at a character as its list of characters is. -/
theorem splitOn_char (s : String) (c : Char) :
    s.splitOn (ofList [c]) = (s.toList.splitOn c).map ofList := by
  have h := splitOnAux_char c [] [] s.toList []
  rw [splitOn, if_neg (by simp), List.splitOn, List.splitOnP_eq_splitOnPPrepend]
  rwa [List.append_nil, List.nil_append, ofList_toList] at h

/-! ### White space at the ends -/

/-- Neither end is white space. -/
def IsTrimmed (cs : List Char) : Prop :=
  (∀ c ∈ cs.head?, isBlank c = false) ∧ ∀ c ∈ cs.getLast?, isBlank c = false

theorem isBlank_of_head?_dropWhile {cs : List Char} {c : Char}
    (h : c ∈ (cs.dropWhile isBlank).head?) : isBlank c = false := by
  have hnot := List.head?_dropWhile_not isBlank cs
  rw [Option.mem_def.1 h] at hnot
  exact hnot

theorem isTrimmed_trimList (cs : List Char) : IsTrimmed (trimList cs) := by
  constructor
  · intro c hc
    obtain ⟨rest, hrest⟩ := List.rdropWhile_prefix isBlank (cs.dropWhile isBlank)
    have hhead : c ∈ (cs.dropWhile isBlank).head? := by
      rw [← hrest, List.head?_append]
      exact Option.or_eq_some_iff.2 (Or.inl hc)
    exact isBlank_of_head?_dropWhile hhead
  · intro c hc
    rw [trimList, List.getLast?_reverse] at hc
    exact isBlank_of_head?_dropWhile hc

theorem dropWhile_eq_self {cs : List Char} (h : ∀ c ∈ cs.head?, isBlank c = false) :
    cs.dropWhile isBlank = cs := by
  cases cs with
  | nil => rfl
  | cons c cs => exact List.dropWhile_cons_of_neg (by simp [h c rfl])

theorem IsTrimmed.trimList_eq {cs : List Char} (h : IsTrimmed cs) : trimList cs = cs := by
  rw [trimList, dropWhile_eq_self h.1, dropWhile_eq_self, List.reverse_reverse]
  rw [List.head?_reverse]
  exact h.2

/-- What is trimmed may be joined with something that is no white space. -/
theorem IsTrimmed.append_cons {as bs : List Char} (ha : IsTrimmed as) (hb : IsTrimmed bs) {c : Char}
    (hc : isBlank c = false) : IsTrimmed (as ++ c :: bs) := by
  constructor
  · cases as with
    | nil => simpa using hc
    | cons a as => exact ha.1
  · rw [List.getLast?_append_cons]
    cases bs with
    | nil => simpa using hc
    | cons b bs =>
      rw [List.getLast?_cons_cons]
      exact hb.2

end Parley.Text
