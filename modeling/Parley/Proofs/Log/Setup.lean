import Parley.Log.Setup
import Parley.Proofs.Except
import Parley.Proofs.Text.Cut

/-!
# Setting up logging with valid settings

Validation reads the level, the format and the output as setting up does. So where no environment
variable has a say, these decisions can be made, and only those about parts of the program and about
the log file may fail (`install_of_validate`).

Levels for parts of the program are not validated. One that would pass as the level of the settings
makes a directive with any name that is a target (`moduleDirective_of_isLevel`), but nothing keeps
valid settings from holding others (`loud_not_installed`).
-/

namespace Parley

namespace Log

open Text

/-! ### Texts of levels -/

/-- The text is a level that validation lets pass. -/
def IsLevel (s : String) : Prop := s = "off" ∨ (Level.parse? s).isSome

/-- A character that is neither white space nor a comma stands inside a word. -/
def IsInner (c : Char) : Prop := isBlank c = false ∧ c ≠ ','

theorem isInner_of_isAlphanum {c : Char} (h : c.isAlphanum) : IsInner c := by
  change (decide (65 ≤ c.val ∧ c.val ≤ 90) || (decide (97 ≤ c.val) && decide (c.val ≤ 122)) ||
    (decide (48 ≤ c.val) && decide (c.val ≤ 57))) = true at h
  simp only [Bool.or_eq_true, Bool.and_eq_true, decide_eq_true_eq, UInt32.le_iff_toNat_le] at h
  change ((65 ≤ c.toNat ∧ c.toNat ≤ 90) ∨ (97 ≤ c.toNat ∧ c.toNat ≤ 122)) ∨
    (48 ≤ c.toNat ∧ c.toNat ≤ 57) at h
  constructor
  · simp only [isBlank, Ranges.has, blankRanges, List.any_cons, List.any_nil, Bool.or_false,
      Bool.or_eq_false_iff, Bool.and_eq_false_imp, decide_eq_true_eq, decide_eq_false_iff_not]
    omega
  · rintro rfl
    revert h
    decide

theorem isInner_of_isDigit {c : Char} (h : c.isDigit) : IsInner c :=
  isInner_of_isAlphanum (Bool.or_eq_true_iff.2 (Or.inr h))

/-- Letter case makes no difference. -/
theorem isInner_of_toLower {c : Char} (h : IsInner c.toLower) : IsInner c := by
  by_cases hc : c.val ≥ 'A'.val ∧ c.val ≤ 'Z'.val
  · have halpha : c.isAlpha := Bool.or_eq_true_iff.2 (Or.inl (decide_eq_true hc))
    exact isInner_of_isAlphanum (Bool.or_eq_true_iff.2 (Or.inl halpha))
  · have hlower : c.toLower = c := dif_neg hc
    rwa [hlower] at h

theorem isInner_of_digits? {s : String} {n : Nat} (h : digits? s = some n) :
    ∀ c ∈ s.toList, IsInner c := by
  simp only [digits?, Option.ite_none_right_eq_some, List.all_eq_true] at h
  obtain ⟨⟨-, hdigits⟩, -⟩ := h
  split at hdigits
  · rename_i ds hs
    rw [hs]
    exact List.forall_mem_cons.2 ⟨⟨by decide +kernel, by decide⟩,
      fun c hc => isInner_of_isDigit (hdigits c hc)⟩
  · exact fun c hc => isInner_of_isDigit (hdigits c hc)

theorem isInner_of_parse? {s : String} {l : Level} (h : Level.parse? s = some l) :
    ∀ c ∈ s.toList, IsInner c := by
  unfold Level.parse? at h
  split at h
  · rename_i hn
    exact isInner_of_digits? hn
  · intro c hc
    have hl : lowerAscii l.label = lowerAscii s := by
      simpa using List.find?_some h
    have hmem : c.toLower ∈ (lowerAscii l.label).toList := by
      rw [hl, lowerAscii, String.toList_ofList]
      exact List.mem_map_of_mem hc
    have hlabel : (lowerAscii l.label).toList.all Char.isAlphanum := by
      cases l <;> decide
    exact isInner_of_toLower (isInner_of_isAlphanum (List.all_eq_true.1 hlabel _ hmem))

theorem IsLevel.isInner {s : String} (h : IsLevel s) : ∀ c ∈ s.toList, IsInner c := by
  rcases h with rfl | h
  · have hoff : "off".toList.all Char.isAlphanum := by decide
    exact fun c hc => isInner_of_isAlphanum (List.all_eq_true.1 hoff c hc)
  · obtain ⟨l, hl⟩ := Option.isSome_iff_exists.1 h
    exact isInner_of_parse? hl

theorem IsLevel.threshold {s : String} (h : IsLevel s) : (Threshold.parse? s).isSome := by
  unfold Threshold.parse?
  rcases h with rfl | h
  · rfl
  · split_ifs
    · rfl
    · rfl
    · rwa [Option.isSome_map]

/-! ### Directives for parts of the program -/

/-- The level that a directive gives after its equals sign. -/
def readThreshold (level : String) : Option Threshold :=
  if level = "" then some (some .trace) else Threshold.parse? level

/-- A name that a directive can start with: it shows by its first character that it is one, and has
no character that ends it. -/
def IsTarget (name : String) : Prop :=
  name.toList.head?.any Directive.opens ∧ name.toList.all (!Directive.endsTarget ·)

theorem word_eq (ends : Char → Bool) (cs ds : List Char) (hcs : ∀ c ∈ cs, ends c = false)
    (hds : ∀ c ∈ ds.head?, ends c = true) :
    Directive.Writing.word ⟨cs ++ ds, cs ++ ds⟩ ends = (String.ofList cs, ⟨ds, ds⟩) := by
  have htake : (cs ++ ds).takeWhile (!ends ·) = cs := by
    rw [List.takeWhile_append_of_pos (by simpa using hcs)]
    cases ds with
    | nil => simp
    | cons d ds => rw [List.takeWhile_cons_of_neg (by simp [hds d rfl]), List.append_nil]
  simp only [Directive.Writing.word, htake, List.take_left, List.drop_left]

/-- A target and a level with an equals sign between them are a directive if the level is one. -/
theorem parse_target {name level : String} (hname : IsTarget name)
    (hnameEnds : IsTrimmed name.toList) (hlevelEnds : IsTrimmed level.toList)
    (hlevel : ∀ c ∈ level.toList, c ≠ ',') :
    Directive.parse (name ++ "=" ++ level) =
      match readThreshold level with
      | some threshold => .ok { target := some name, threshold }
      | none => .error .unknownLevel := by
  obtain ⟨c, hc, hopens⟩ := (Option.any_eq_true _ _).1 hname.1
  have hends : ∀ c ∈ name.toList, Directive.endsTarget c = false := by simpa using hname.2
  obtain ⟨cs, hcs⟩ : ∃ cs, name.toList = c :: cs := List.head?_eq_some_iff.1 hc
  -- A bracket would begin a directive about a span, which is read in another way.
  have hbracket : c ≠ '[' := by
    rintro rfl
    exact absurd (hends '[' (List.mem_of_mem_head? hc)) (by decide)
  have hwriting : Directive.Writing.ofString (name ++ "=" ++ level) =
      ⟨name.toList ++ '=' :: level.toList, name.toList ++ '=' :: level.toList⟩ := by
    have hchars : (name ++ "=" ++ level).toList = name.toList ++ '=' :: level.toList := by simp
    rw [Directive.Writing.ofString, hchars,
      (hnameEnds.append_cons hlevelEnds (by decide +kernel)).trimList_eq]
  have hword : Directive.Writing.word
      ⟨name.toList ++ '=' :: level.toList, name.toList ++ '=' :: level.toList⟩
      Directive.endsTarget = (name, ⟨'=' :: level.toList, '=' :: level.toList⟩) := by
    rw [word_eq _ _ _ hends (by simp [Directive.endsTarget]), String.ofList_toList]
  -- Without a comma, all that is left after the equals sign is the level.
  have hlast : Directive.Writing.word ⟨level.toList, level.toList⟩ (· = ',') =
      (level, ⟨[], []⟩) := by
    have h := word_eq (· = ',') level.toList [] (by simpa using hlevel) (by simp)
    simpa using h
  have hlevelRead : Directive.readLevel { target := some name } ⟨level.toList, level.toList⟩ =
      match readThreshold level with
      | some threshold => .ok { target := some name, threshold }
      | none => .error .unknownLevel := by
    simp only [Directive.readLevel, hlast, String.ofList_toList, readThreshold]
    rfl
  unfold Directive.parse
  rw [hwriting]
  simp only [hword, Directive.Writing.tail, List.drop_succ_cons, List.drop_zero, hlevelRead]
  rw [hcs]
  simp [hopens]

/-- A part whose name is a target has a directive if its level is one. -/
theorem moduleDirective_eq {part level : String} (hpart : IsTarget (trim part))
    (hlevel : ∀ c ∈ (trim level).toList, c ≠ ',') :
    Setup.moduleDirective part level =
      match readThreshold (trim level) with
      | some threshold => .ok { target := some (trim part), threshold }
      | none =>
        .error (.logging ("Invalid log directive: " ++ DirectiveError.text .unknownLevel)) := by
  have hends (s : String) : IsTrimmed (trim s).toList := by
    rw [trim, String.toList_ofList]
    exact isTrimmed_trimList s.toList
  rw [Setup.moduleDirective, parse_target hpart (hends part) (hends level) hlevel]
  cases readThreshold (trim level) <;> rfl

/-- A level that validation would let pass as that of the settings does for a part as well. -/
theorem moduleDirective_of_isLevel {part level : String} (hpart : IsTarget (trim part))
    (hlevel : IsLevel level) :
    ∃ threshold, Setup.moduleDirective part level =
      .ok { target := some (trim part), threshold } := by
  have htrim : trim level = level := by
    have hends : IsTrimmed level.toList :=
      ⟨fun c hc => (hlevel.isInner c (List.mem_of_mem_head? hc)).1,
        fun c hc => (hlevel.isInner c (List.mem_of_mem_getLast? hc)).1⟩
    rw [trim, hends.trimList_eq, String.ofList_toList]
  have hsome : (readThreshold level).isSome := by
    unfold readThreshold
    split
    · rfl
    · exact hlevel.threshold
  obtain ⟨threshold, hthreshold⟩ := Option.isSome_iff_exists.1 hsome
  refine ⟨threshold, ?_⟩
  rw [moduleDirective_eq hpart (by rw [htrim]; exact fun c hc => (hlevel.isInner c hc).2), htrim,
    hthreshold]

/-! ### Decisions without environment variables -/

/-- No environment variable has a say in logging. -/
def Quiet (vars : Variables) : Prop :=
  ∀ name ∈ ["AGENT_BRIDGE_LOG", "AGENT_BRIDGE_LOG_FORMAT", "AGENT_BRIDGE_LOG_OUTPUT",
    "AGENT_BRIDGE_LOG_MODULES"], vars.lookup name = none

/-- A level for a part of the program that makes no directive, and the error. With the level `off`
nobody looks. -/
def WrongPart (s : LogSettings) (e : SetupError) : Prop :=
  s.level ≠ "off" ∧ ∃ m ∈ s.modules.entries, Setup.moduleDirective m.1 m.2 = .error e

/-- A part is not wrong if its name is a target and its level would do for the settings. -/
theorem not_wrongPart {s : LogSettings}
    (h : ∀ m ∈ s.modules.entries, IsTarget (trim m.1) ∧ IsLevel m.2) (e : SetupError) :
    ¬ WrongPart s e := by
  rintro ⟨-, m, hm, he⟩
  obtain ⟨hpart, hlevel⟩ := h m hm
  obtain ⟨threshold, hthreshold⟩ := moduleDirective_of_isLevel hpart hlevel
  rw [hthreshold] at he
  cases he

/-- What validation makes sure of. -/
theorem validate_eq_ok {s : LogSettings} (h : s.validate = .ok ()) :
    (∃ f, Format.parse s.format = .ok f) ∧ (∃ o, Output.parse s.output = .ok o) ∧
      IsLevel s.level := by
  obtain ⟨f, hf, h⟩ := Except.bind_eq_ok.1 h
  obtain ⟨o, ho, h⟩ := Except.bind_eq_ok.1 h
  refine ⟨⟨f, hf⟩, ⟨o, ho⟩, ?_⟩
  split at h
  · assumption
  · cases h

theorem output_eq_file {s : String} {o : Output} (h : Output.parse s = .ok o) :
    o = .file ↔ s = "file" := by
  unfold Output.parse at h
  split_ifs at h <;> cases h <;> simp_all

section Quiet

variable {s : LogSettings} {vars : Variables} {disk : Disk} (hquiet : Quiet vars)
include hquiet

/-- Without variables, the settings alone give the filter. -/
theorem filterFor_eq :
    Setup.filterFor (some s) vars =
      if s.level = "off" then .ok (Filter.parseLossy "off").1
      else s.modules.entries.foldlM (fun f m => (Setup.moduleDirective m.1 m.2).map f.add)
        (Filter.parseLossy s.level).1 := by
  have hgiven : Setup.givenFilter vars = none := by
    rw [Setup.givenFilter, hquiet "AGENT_BRIDGE_LOG" (by decide), Option.bind_none]
  have hmodules : Setup.modules (some s) vars = s.modules.entries := by
    rw [Setup.modules, hquiet "AGENT_BRIDGE_LOG_MODULES" (by decide)]
    exact List.append_nil _
  rw [Setup.filterFor, hgiven, hmodules]
  rfl

theorem filterFor_eq_error {e : SetupError} (h : Setup.filterFor (some s) vars = .error e) :
    WrongPart s e := by
  rw [filterFor_eq hquiet] at h
  split at h
  · cases h
  · rename_i hoff
    exact ⟨hoff, Except.foldlM_map_eq_error h⟩

theorem filterFor_eq_ok {f : Filter} (h : Setup.filterFor (some s) vars = .ok f) (e : SetupError) :
    ¬ WrongPart s e := by
  rintro ⟨hoff, m, hm, he⟩
  rw [filterFor_eq hquiet, if_neg hoff] at h
  obtain ⟨d, hd⟩ := Except.foldlM_map_eq_ok h m hm
  rw [hd] at he
  cases he

theorem formatFor_eq :
    Setup.formatFor (some s) vars = (Format.parse s.format).mapError .logging := by
  rw [Setup.formatFor, hquiet "AGENT_BRIDGE_LOG_FORMAT" (by decide)]
  rfl

theorem outputFor_eq :
    Setup.outputFor (some s) vars = (Output.parse s.output).mapError .logging := by
  rw [Setup.outputFor, hquiet "AGENT_BRIDGE_LOG_OUTPUT" (by decide)]
  rfl

/-- Valid settings make a set-up unless a part of the program is wrong or the file cannot be
opened. -/
theorem prepare_eq_error (hs : s.validate = .ok ()) {e : SetupError}
    (h : Setup.prepare disk (some s) vars = .error e) :
    WrongPart s e ∨ s.output = "file" ∧ Setup.openFile disk s.file = .error e := by
  obtain ⟨⟨f, hf⟩, ⟨o, ho⟩, -⟩ := validate_eq_ok hs
  -- One decision after the other: validation has read the format and the output already.
  rcases Except.bind_eq_error.1 h with h | ⟨filter, -, h⟩
  · exact Or.inl (filterFor_eq_error hquiet h)
  rcases Except.bind_eq_error.1 h with h | ⟨format, -, h⟩
  · rw [formatFor_eq hquiet, hf] at h
    cases h
  rcases Except.bind_eq_error.1 h with h | ⟨output, houtput, h⟩
  · rw [outputFor_eq hquiet, ho] at h
    cases h
  rcases Except.bind_eq_error.1 h with h | ⟨sink, -, h⟩
  · rw [outputFor_eq hquiet] at houtput
    have hfile := output_eq_file (Except.mapError_eq_ok.1 houtput)
    cases output with
    | stdout | stderr => cases h
    | file => exact Or.inr ⟨hfile.1 rfl, Except.map_eq_error.1 h⟩
  · cases h

theorem prepare_eq_ok {setup : Setup} (h : Setup.prepare disk (some s) vars = .ok setup) :
    (∀ e, ¬ WrongPart s e) ∧ (s.output = "file" → Setup.openFile disk s.file = .ok ()) := by
  obtain ⟨filter, hfilter, h⟩ := Except.bind_eq_ok.1 h
  obtain ⟨format, -, h⟩ := Except.bind_eq_ok.1 h
  obtain ⟨output, houtput, h⟩ := Except.bind_eq_ok.1 h
  obtain ⟨sink, hsink, -⟩ := Except.bind_eq_ok.1 h
  refine ⟨filterFor_eq_ok hquiet hfilter, fun hfile => ?_⟩
  rw [outputFor_eq hquiet] at houtput
  obtain rfl := (output_eq_file (Except.mapError_eq_ok.1 houtput)).2 hfile
  obtain ⟨_, hopen, -⟩ := Except.map_eq_ok.1 hsink
  exact hopen

end Quiet

/-! ### Setting up -/

/-- The error of a second set-up. -/
def taken : SetupError := .logging "a global default trace dispatcher has already been set"

theorem install_fst (i : Installation) (disk : Disk) (settings : Option LogSettings)
    (vars : Variables) :
    (i.install disk settings vars).1 =
      (Setup.prepare disk settings vars).bind fun _ =>
        if i.setup.isSome then .error taken else .ok () := by
  unfold Installation.install
  cases Setup.prepare disk settings vars with
  | error e => rfl
  | ok setup =>
    simp only [Except.bind]
    split_ifs <;> rfl

section

variable {s : LogSettings} {vars : Variables} (hs : s.validate = .ok ()) (hquiet : Quiet vars)
  (i : Installation) {disk : Disk}
include hs hquiet

theorem install_eq_error {e : SetupError} (h : (i.install disk (some s) vars).1 = .error e) :
    WrongPart s e ∨ (s.output = "file" ∧ Setup.openFile disk s.file = .error e) ∨
      (i.setup.isSome ∧ e = taken) := by
  rw [install_fst] at h
  rcases Except.bind_eq_error.1 h with h | ⟨setup, -, h⟩
  · rcases prepare_eq_error hquiet hs h with h | h
    · exact Or.inl h
    · exact Or.inr (Or.inl h)
  · split at h
    · cases h
      exact Or.inr (Or.inr ⟨‹_›, rfl⟩)
    · cases h

theorem install_eq_ok :
    (i.install disk (some s) vars).1 = .ok () ↔
      (∀ e, ¬ WrongPart s e) ∧ (s.output = "file" → Setup.openFile disk s.file = .ok ()) ∧
        i.setup.isSome = false := by
  constructor
  · intro h
    rw [install_fst] at h
    obtain ⟨setup, hsetup, h⟩ := Except.bind_eq_ok.1 h
    obtain ⟨hparts, hfile⟩ := prepare_eq_ok hquiet hsetup
    refine ⟨hparts, hfile, ?_⟩
    split at h
    · cases h
    · exact Bool.eq_false_of_not_eq_true ‹_›
  · rintro ⟨hparts, hfile, hfree⟩
    cases hresult : (i.install disk (some s) vars).1 with
    | ok u => rfl
    | error e =>
      -- None of the three reasons to fail is there.
      rcases install_eq_error hs hquiet i hresult with h | ⟨houtput, h⟩ | ⟨htaken, -⟩
      · exact absurd h (hparts e)
      · rw [hfile houtput] at h
        cases h
      · rw [hfree] at htaken
        cases htaken

end

/-- A system on which all files can be opened. -/
def willing : Disk where
  makeFolder := fun _ => .ok ()
  openFile := fun _ => .ok ()

/-- With valid settings and no environment variables, setting up fails only for a part of the
program that is wrong, for a log file that cannot be opened, or because logging is set up already,
and it does fail for any of these, whatever the system answers about the file. No part is wrong if
its name is a target and its level would pass validation as the level of the settings. -/
theorem install_of_validate {s : LogSettings} (hs : s.validate = .ok ()) {vars : Variables}
    (hquiet : Quiet vars) (i : Installation) (disk : Disk) :
    (∀ e, (i.install disk (some s) vars).1 = .error e →
      WrongPart s e ∨ (s.output = "file" ∧ Setup.openFile disk s.file = .error e) ∨
        (i.setup.isSome ∧ e = taken)) ∧
    ((i.install disk (some s) vars).1 = .ok () ↔
      (∀ e, ¬ WrongPart s e) ∧ (s.output = "file" → Setup.openFile disk s.file = .ok ()) ∧
        i.setup.isSome = false) ∧
    ((∀ m ∈ s.modules.entries, IsTarget (trim m.1) ∧ IsLevel m.2) → ∀ e, ¬ WrongPart s e) :=
  ⟨fun _ => install_eq_error hs hquiet i, install_eq_ok hs hquiet i, not_wrongPart⟩

theorem install_of_validate_proxy :
    let s : LogSettings := { modules := Record.ofList [("agent_bridge::proxy", "debug")] }
    s.validate = .ok () ∧ Quiet [] ∧
      (({} : Installation).install willing (some s) []).1 = .ok () := by
  intro s
  have hs : s.validate = .ok () := Except.toOption_eq_some.1 (by decide +kernel)
  have hquiet : Quiet [] := fun _ _ => rfl
  have hentries : s.modules.entries = [("agent_bridge::proxy", "debug")] := by decide +kernel
  have hpart : ∀ m ∈ s.modules.entries, IsTarget (trim m.1) ∧ IsLevel m.2 := by
    rw [hentries, List.forall_mem_singleton]
    exact ⟨⟨by decide +kernel, by decide +kernel⟩, Or.inr (by decide +kernel)⟩
  obtain ⟨-, hok, hparts⟩ := install_of_validate hs hquiet {} willing
  exact ⟨hs, hquiet, hok.2 ⟨hparts hpart, fun h => absurd h (by decide), rfl⟩⟩

/-- A level that there is not, for a part of the program, passes validation and stops setting up. -/
theorem loud_not_installed :
    ¬ ∀ (s : LogSettings) (vars : Variables) (i : Installation) (disk : Disk) (e : SetupError),
      s.validate = .ok () → Quiet vars → (i.install disk (some s) vars).1 = .error e →
        (s.output = "file" ∧ Setup.openFile disk s.file = .error e) ∨ i.setup.isSome := by
  intro h
  let s : LogSettings := { modules := Record.ofList [("a", "loud")] }
  have hs : s.validate = .ok () := Except.toOption_eq_some.1 (by decide +kernel)
  cases hresult : (({} : Installation).install willing (some s) []).1 with
  | ok u =>
    have hnone : (({} : Installation).install willing (some s) []).1.toOption = none := by
      decide +kernel
    rw [hresult] at hnone
    cases hnone
  | error e =>
    rcases h s [] {} willing e hs (fun _ _ => rfl) hresult with ⟨houtput, -⟩ | hsome
    · exact absurd houtput (by decide)
    · cases hsome

end Log

end Parley
