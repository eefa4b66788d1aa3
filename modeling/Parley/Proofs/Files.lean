import Parley.Files
import Parley.Proofs.Text.Cut

/-!
# Paths that go down

A path goes down if it has no step up and ends with a name. From the place where it starts it leads
to the place with its names below (`Files.foldl_walk_of_down`), and the file there is found under it
(`Files.read?_of_isDescent`). The last name tells the extension (`Files.extension?_of_isDescent`).
-/

namespace Parley.Files

theorem steps_eq (path : String) : steps path = (path.toList.splitOn '/').map String.ofList :=
  Text.splitOn_char path '/'

/-- The last step, if there is one, leads somewhere. -/
def EndsBusy (steps : List String) : Prop := ∀ step ∈ steps.getLast?, isIdle step = false

instance (steps : List String) : Decidable (EndsBusy steps) :=
  inferInstanceAs (Decidable (∀ step ∈ steps.getLast?, isIdle step = false))

/-- The path has no step up, and its last step is a name. -/
def IsDescent (path : String) : Prop := ".." ∉ steps path ∧ EndsBusy (steps path)

theorem EndsBusy.of_cons {step : String} {rest : List String} (h : EndsBusy (step :: rest))
    (hrest : rest ≠ []) : EndsBusy rest := by
  unfold EndsBusy at h
  rwa [List.getLast?_cons_of_ne_nil hrest] at h

theorem EndsBusy.getLast?_filter {steps : List String} (h : EndsBusy steps) :
    (steps.filter (!isIdle ·)).getLast? = steps.getLast? := by
  cases steps using List.reverseRecOn with
  | nil => rfl
  | append_singleton steps last =>
    have hlast : isIdle last = false := by
      apply h
      rw [List.getLast?_concat]
      rfl
    simp [List.filter_append, hlast]

theorem EndsBusy.filter_ne_nil {steps : List String} (h : EndsBusy steps) (hne : steps ≠ []) :
    steps.filter (!isIdle ·) ≠ [] := by
  intro hnil
  have hlast := h.getLast?_filter
  rw [hnil, List.getLast?_nil, eq_comm, List.getLast?_eq_none_iff] at hlast
  exact hne hlast

/-! ### Places -/

/-- Without steps up, the names among the steps are put to the place. -/
theorem foldl_walk_of_down {steps : List String} (h : ".." ∉ steps) (place : List String) :
    steps.foldl walk place = place ++ steps.filter (!isIdle ·) := by
  induction steps generalizing place with
  | nil => exact (List.append_nil place).symm
  | cons step steps ih =>
    obtain ⟨hup, hrest⟩ := List.ne_and_not_mem_of_not_mem_cons h
    rw [List.foldl_cons, ih hrest, walk, if_neg hup.symm]
    cases hidle : isIdle step with
    | true => simp [hidle]
    | false => simp [hidle]

theorem place_of_isDescent (files : Files) {path : String} (hroot : isAbsolute path)
    (hpath : IsDescent path) : files.place path = (steps path).filter (!isIdle ·) := by
  rw [place, start, if_pos hroot, foldl_walk_of_down hpath.1, List.nil_append]

section

variable {files : Files} {f : String × String} (hf : f ∈ files.texts)
include hf

/-- On the way to a file there are directories. -/
theorem isDirectory_of_place {place rest : List String} (h : files.place f.1 = place ++ rest)
    (hrest : rest ≠ []) : files.isDirectory place := by
  have hbefore : place.isPrefixOf (files.place f.1) && place ≠ files.place f.1 := by
    rw [h]
    simpa using hrest
  unfold isDirectory
  apply Bool.or_eq_true_iff.2
  exact Or.inr (List.any_eq_true.2 ⟨f, hf, hbefore⟩)

theorem isThere_of_place {place : List String} (h : files.place f.1 = place) :
    files.isThere place := by
  unfold isThere
  apply Bool.or_eq_true_iff.2
  exact Or.inr (List.any_eq_true.2 ⟨f, hf, decide_eq_true h⟩)

/-- Steps that go down to a file can be followed. -/
theorem follow_of_place {place rest : List String} (h : files.place f.1 = rest.foldl walk place)
    (hdown : ".." ∉ rest) (hends : EndsBusy rest) :
    files.follow place rest = some (files.place f.1) := by
  induction rest generalizing place with
  | nil => rw [follow, h, List.foldl_nil]
  | cons step rest ih =>
    have hdownRest : ".." ∉ rest := List.not_mem_of_not_mem_cons hdown
    have hdirectory : files.isDirectory place :=
      isDirectory_of_place hf (h.trans (foldl_walk_of_down hdown place))
        (hends.filter_ne_nil (List.cons_ne_nil step rest))
    rw [List.foldl_cons] at h
    -- After the last step there is the file, and after any other the rest still leads down to it.
    have hnext : files.isThere (walk place step) ∧
        files.follow (walk place step) rest = some (files.place f.1) := by
      cases rest with
      | nil => exact ⟨isThere_of_place hf h, by rw [follow, h, List.foldl_nil]⟩
      | cons next rest =>
        have hendsRest : EndsBusy (next :: rest) := hends.of_cons (List.cons_ne_nil next rest)
        have hbelow : files.isDirectory (walk place step) :=
          isDirectory_of_place hf (h.trans (foldl_walk_of_down hdownRest (walk place step)))
            (hendsRest.filter_ne_nil (List.cons_ne_nil next rest))
        exact ⟨Bool.or_eq_true_iff.2 (Or.inl hbelow), ih h hdownRest hendsRest⟩
    rw [follow, hdirectory, hnext.1]
    exact hnext.2

end

/-- The first file in the place that a path goes down to is found. -/
theorem read?_of_isDescent {files : Files} {path text : String} (hpath : IsDescent path)
    (hfirst : files.texts.find? (fun f => files.place f.1 = files.place path) =
      some (path, text)) :
    files.read? path = some text := by
  have hne : path ≠ "" := by
    rintro rfl
    have hsteps : steps "" = [""] := by
      rw [steps_eq]
      decide +kernel
    have hlast : isIdle "" = false := by
      apply hpath.2
      rw [hsteps]
      rfl
    exact absurd hlast (by decide)
  have hfollow : files.follow (files.start path) (steps path) = some (files.place path) :=
    follow_of_place (List.mem_of_find?_eq_some hfirst) rfl hpath.1 hpath.2
  rw [read?, resolve?, if_neg hne, hfollow]
  simp only [bind, Option.bind, hfirst]
  rfl

/-! ### Names -/

theorem name?_of_isDescent {path name : String} (hpath : IsDescent path)
    (hlast : (steps path).getLast? = some name) : name? path = some name := by
  have hbusy : isIdle name = false := hpath.2 name hlast
  have hdot : name ≠ "." := by
    rintro rfl
    exact absurd hbusy (by decide)
  have hup : name ≠ ".." := by
    rintro rfl
    exact hpath.1 (List.mem_of_getLast? hlast)
  have hne : steps path ≠ [] := List.ne_nil_of_mem (List.mem_of_getLast? hlast)
  have hparts : (parts path).getLast? = some name := by
    rw [parts, List.getLast?_append_of_ne_nil _ (hpath.2.filter_ne_nil hne),
      hpath.2.getLast?_filter, hlast]
  rw [name?, hparts, Option.filter_some_pos (by simpa using ⟨hdot, hup⟩)]

/-- A last name with one dot inside has the extension after the dot. -/
theorem extension?_of_isDescent {path ending : String} (name stem : String)
    (hpath : IsDescent path) (hlast : (steps path).getLast? = some name)
    (hparts : (name.toList.splitOn '.').map String.ofList = [stem, ending]) (hstem : stem ≠ "") :
    extension? path = some ending := by
  have hname := name?_of_isDescent hpath hlast
  have hsplit : name.splitOn "." = [stem, ending] := (Text.splitOn_char name '.').trans hparts
  simp [extension?, hname, hsplit, hstem]

end Parley.Files
