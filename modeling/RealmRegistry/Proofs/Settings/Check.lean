/-
Which settings will do.

All that is wrong with settings is collected, and only then sorted into warnings and errors, by the
words for it.  Some of these words are texts from the settings; still no text makes an error look
like a warning, since the words of the settings never come first.

* `problems_eq_filter` — of all that can be said against settings, what is true of them;
* `Problem.isWarning_eq` — the problems that are no obstacle are those of a log in production;
* `accept_eq` — errors are sorted out by what is wrong, not by how it is worded;
* `accept_ok_iff` — settings will do if no other problem is there;
* `valid_iff_forall_not_has` — settings have no error exactly if each section of them is sound;
* `settings_checked` — what is returned for valid settings, and for all others.
-/
import RealmRegistry.Proofs.Access.Problems
import RealmRegistry.Settings.Failure
import RealmRegistry.Text.Split

namespace RealmRegistry

open Access

/-! ### Blank texts and first parts -/

namespace Text

@[simp] theorem isVacant_iff {s : String} : isVacant s = true ↔ trim s = "" := by
  rw [isVacant, trim, List.isEmpty_iff, String.ofList_eq_empty_iff]

@[simp] theorem head?_splitAt (separator : Char) (s : List Char) :
    (splitAt separator s).head? = some (s.takeWhile (· != separator)) := by
  induction s with
  | nil => rfl
  | cons c r ih =>
    rw [splitAt]
    by_cases hc : c = separator
    · rw [if_pos hc, List.head?_cons, List.takeWhile_cons_of_neg (by simp [hc])]
    · rw [if_neg hc, List.takeWhile_cons_of_pos (by simp [hc])]
      cases hr : splitAt separator r with
      | nil => exact absurd hr (splitAt_ne_nil separator r)
      | cons part more =>
        rw [hr, List.head?_cons, Option.some_inj] at ih
        rw [List.head?_cons, ih]

end Text

namespace Settings

/-! ### Problems that are no obstacle -/

/-- Whether a problem is one of a log in production. -/
def Problem.isOfProduction : Problem → Bool
  | consoleInProduction => true
  | singleFileInProduction => true
  | _ => false

theorem head?_append {a b : String} {c : Char} (h : a.toList.head? = some c) :
    (a ++ b).toList.head? = some c := by
  rw [String.toList_append, List.head?_append, h, Option.some_or]

theorem Problem.isWarning_eq (p : Problem) : p.isWarning = p.isOfProduction := by
  have hprefix : "Warning:".toList = 'W' :: "arning:".toList := by decide +kernel
  -- the words for any other problem begin with another letter
  have hother {c : Char} (hc : 'W' ≠ c) {text : String} (h : text.toList.head? = some c) :
      "Warning:".toList.isPrefixOf text.toList = false := by
    obtain ⟨r, hr⟩ := List.head?_eq_some_iff.1 h
    rw [hr, hprefix, List.isPrefixOf_cons_cons, beq_eq_false_iff_ne.2 hc, Bool.false_and]
  have hI : 'W' ≠ 'I' := by decide
  have hA : 'W' ≠ 'A' := by decide
  cases p with
  | badEnvironment environment => exact hother hI (head?_append (head?_append (by decide +kernel)))
  | badFilter filter => exact hother hI (head?_append (head?_append (by decide +kernel)))
  | badOutput output => exact hother hI (head?_append (head?_append (by decide +kernel)))
  | badGroup cause => exact hother hA (head?_append (by decide +kernel))
  | _ => decide +kernel

/-- Errors are sorted out by what is wrong, not by how it is worded. -/
theorem accept_eq (s : Settings) :
    s.accept =
      let warnings := s.problems.filter Problem.isOfProduction
      let errors := s.problems.filter (!·.isOfProduction)
      if errors = [] then .ok (warnings.map Problem.message)
      else .error (.invalid (errors.map Problem.message)) := by
  have hsorted : s.problems.partition Problem.isWarning =
      (s.problems.filter Problem.isOfProduction, s.problems.filter (!·.isOfProduction)) := by
    rw [List.partition_eq_filter_filter, funext Problem.isWarning_eq, Function.comp_def]
  rw [accept, check, hsorted]
  generalize s.problems.filter (!·.isOfProduction) = errors
  cases errors <;> rfl

theorem accept_ok_iff {s : Settings} :
    (∃ warnings, s.accept = .ok warnings) ↔ ∀ p ∈ s.problems, p.isOfProduction = true := by
  have hnone : s.problems.filter (!·.isOfProduction) = [] ↔
      ∀ p ∈ s.problems, p.isOfProduction = true := by
    simp
  rw [← hnone, accept_eq]
  by_cases h : s.problems.filter (!·.isOfProduction) = []
  · exact iff_of_true ⟨_, if_pos h⟩ h
  · refine iff_of_false ?_ h
    rintro ⟨warnings, hok⟩
    cases hok.symm.trans (if_neg h)

/-! ### What could be wrong with settings -/

/-- All that could be wrong with the storage in use. -/
def possibleStorageErrors (s : Settings) : List Problem :=
  match s.storage.kind with
  | .sqlite => [.noFilePath, .noFileConnections]
  | .postgres => [.noServer, .noServerAddress, .noServerConnections]

/-- All that could be wrong with the groups of actions. -/
def possibleGroupErrors (s : Settings) : List Problem :=
  (s.authorization.scopes.flatMap ActionGroup.possibleProblems).map .badGroup

/-- All that could keep an instance from running, in the order in which it is looked for. -/
def possibleErrors (s : Settings) : List Problem :=
  [.noName, .badEnvironment s.environment, .badFilter s.observability.filter,
      .badOutput s.observability.log.output] ++
    s.possibleStorageErrors ++ s.possibleGroupErrors

/-- All that could be said against a log in production. -/
def possibleWarnings : List Problem :=
  [.consoleInProduction, .singleFileInProduction]

/-- Whether a filter begins with a level, up to a comma. -/
def BeginsWithLevel (filter : String) : Prop :=
  ∃ part ∈ (Text.splitAt ',' filter.toList).head?,
    Text.trim (String.ofList part) ∈ ["trace", "debug", "info", "warn", "error"]

instance decidableBeginsWithLevel (filter : String) : Decidable (BeginsWithLevel filter) :=
  inferInstanceAs (Decidable (∃ part ∈ (Text.splitAt ',' filter.toList).head?, _))

/-- What a problem says is true of the settings. -/
def Has (s : Settings) : Problem → Prop
  | .noName => Text.trim s.name = ""
  | .badEnvironment environment => environment ∉ ["dev", "prod", "test"]
  | .badFilter filter => ¬BeginsWithLevel filter
  | .badOutput output => output ∉ ["console", "file"]
  | .noFilePath => Text.trim s.sqlitePath = ""
  | .noFileConnections => s.storage.file.maxConnections = 0
  | .noServer => s.storage.server = none
  | .noServerAddress =>
    ∃ server ∈ s.storage.server, Text.trim server.host = "" ∨ Text.trim server.database = ""
  | .noServerConnections => ∃ server ∈ s.storage.server, server.poolSize = 0
  | .badGroup cause => cause.Occurs Catalog.standard
  | .consoleInProduction => s.environment = "prod" ∧ s.observability.log.output = "console"
  | .singleFileInProduction =>
    s.environment = "prod" ∧ s.observability.log.output = "file" ∧ s.observability.log.rotate = false

instance decidableHas (s : Settings) : DecidablePred s.Has
  | .noName | .noFilePath => inferInstanceAs (Decidable (Text.trim _ = ""))
  | .badEnvironment _ | .badOutput _ => inferInstanceAs (Decidable (_ ∉ _))
  | .badFilter filter => inferInstanceAs (Decidable (¬BeginsWithLevel filter))
  | .noFileConnections => inferInstanceAs (Decidable (_ = (0 : UInt32)))
  | .noServer => inferInstanceAs (Decidable (s.storage.server = none))
  | .noServerAddress | .noServerConnections =>
    inferInstanceAs (Decidable (∃ server ∈ s.storage.server, _))
  | .badGroup cause => inferInstanceAs (Decidable (cause.Occurs Catalog.standard))
  | .consoleInProduction | .singleFileInProduction => inferInstanceAs (Decidable (_ ∧ _))

variable {s : Settings}

theorem mainLevel_mem_levels_iff {filter : String} :
    mainLevel filter ∈ levels ↔ BeginsWithLevel filter := by
  rw [BeginsWithLevel, Text.head?_splitAt, mainLevel, levels]
  simp only [Option.mem_some_iff, exists_eq_left', Text.trim, String.toList_ofList]

theorem complainIf_eq {bad : Bool} {p : Problem} (h : bad = true ↔ s.Has p) :
    complainIf bad p = [p].filter s.Has := by
  rw [complainIf, List.filter_cons, List.filter_nil]
  simp only [h, decide_eq_true_eq]

theorem fileProblems_eq :
    s.fileProblems = [.noFilePath, .noFileConnections].filter s.Has := by
  have hpath : Text.isVacant s.sqlitePath = true ↔ s.Has .noFilePath := Text.isVacant_iff
  have hconnections : (s.storage.file.maxConnections == 0) = true ↔ s.Has .noFileConnections :=
    beq_iff_eq
  rw [fileProblems, complainIf_eq hpath, complainIf_eq hconnections, ← List.filter_append]
  rfl

theorem serverProblems_eq :
    s.serverProblems = [.noServer, .noServerAddress, .noServerConnections].filter s.Has := by
  unfold serverProblems
  cases hserver : s.storage.server with
  -- nothing is looked for in a section that is not there
  | none => simp [Has, hserver]
  | some server =>
    have hthere : ¬s.Has .noServer := by simp [Has, hserver]
    have haddress : (Text.isVacant server.host || Text.isVacant server.database) = true ↔
        s.Has .noServerAddress := by
      simp [Has, hserver]
    have hconnections : (server.poolSize == 0) = true ↔ s.Has .noServerConnections := by
      simp [Has, hserver]
    simp only [complainIf_eq haddress, complainIf_eq hconnections]
    rw [← List.filter_append]
    exact (List.filter_cons_of_neg (by simpa using hthere)).symm

theorem productionProblems_eq :
    s.productionProblems = possibleWarnings.filter s.Has := by
  unfold productionProblems
  by_cases hprod : s.environment = "prod"
  · have hconsole : s.logsToConsole = true ↔ s.Has .consoleInProduction := by
      simp [Has, hprod, logsToConsole]
    have hsingle : (s.observability.log.output == "file" && !s.observability.log.rotate) = true ↔
        s.Has .singleFileInProduction := by
      simp [Has, hprod]
    rw [if_pos hprod, complainIf_eq hconsole, complainIf_eq hsingle, ← List.filter_append]
    rfl
  · simp [possibleWarnings, Has, hprod]

theorem storageProblems_eq : s.storageProblems = s.possibleStorageErrors.filter s.Has := by
  rw [storageProblems, possibleStorageErrors]
  cases s.storage.kind with
  | sqlite => exact fileProblems_eq
  | postgres => exact serverProblems_eq

theorem groupProblems_eq :
    (Catalog.standard.problems s.authorization.scopes).map .badGroup =
      s.possibleGroupErrors.filter s.Has := by
  rw [Access.problems_eq_filter, possibleGroupErrors, List.filter_map]
  rfl

/-- Of all that can be said against settings, what is true of them. -/
theorem problems_eq_filter :
    s.problems = s.possibleErrors.filter s.Has ++ possibleWarnings.filter s.Has := by
  have hname : Text.isVacant s.name = true ↔ s.Has .noName := Text.isVacant_iff
  have hmissing {l : List String} {a : String} : (!l.contains a) = true ↔ a ∉ l := by
    rw [Bool.not_eq_true', ← Bool.not_eq_true, List.contains_iff_mem]
  have henvironment : (!(["dev", "prod", "test"].contains s.environment)) = true ↔
      s.Has (.badEnvironment s.environment) := hmissing
  have hfilter : (!levels.contains (mainLevel s.observability.filter)) = true ↔
      s.Has (.badFilter s.observability.filter) :=
    hmissing.trans (not_congr mainLevel_mem_levels_iff)
  have houtput : (!(["console", "file"].contains s.observability.log.output)) = true ↔
      s.Has (.badOutput s.observability.log.output) := hmissing
  rw [problems, complainIf_eq hname, complainIf_eq henvironment, complainIf_eq hfilter,
    complainIf_eq houtput, storageProblems_eq, groupProblems_eq, productionProblems_eq,
    possibleErrors]
  simp only [← List.filter_append]
  rfl

theorem isOfProduction_of_mem_possibleErrors {p : Problem} (h : p ∈ s.possibleErrors) :
    p.isOfProduction = false := by
  rw [possibleErrors, List.mem_append, List.mem_append] at h
  rcases h with (h | h) | h
  · revert p
    simp [Problem.isOfProduction]
  · revert p
    cases hkind : s.storage.kind <;>
      simp [possibleStorageErrors, hkind, Problem.isOfProduction]
  · obtain ⟨cause, -, rfl⟩ := List.mem_map.1 h
    rfl

theorem isOfProduction_of_mem_possibleWarnings {p : Problem} (h : p ∈ possibleWarnings) :
    p.isOfProduction = true := by
  revert p
  decide

/-- Settings with an error are refused with all their errors, and others are taken with their
warnings. -/
theorem accept_eq_of_has :
    s.accept =
      if s.possibleErrors.filter s.Has = [] then
        .ok ((possibleWarnings.filter s.Has).map Problem.message)
      else .error (.invalid ((s.possibleErrors.filter s.Has).map Problem.message)) := by
  have herror {p : Problem} (hp : p ∈ s.possibleErrors.filter s.Has) : p.isOfProduction = false :=
    isOfProduction_of_mem_possibleErrors (List.mem_filter.1 hp).1
  have hwarning {p : Problem} (hp : p ∈ possibleWarnings.filter s.Has) : p.isOfProduction = true :=
    isOfProduction_of_mem_possibleWarnings (List.mem_filter.1 hp).1
  have herrors : (s.possibleErrors.filter s.Has).filter (!·.isOfProduction) =
      s.possibleErrors.filter s.Has :=
    List.filter_eq_self.2 fun p hp => by rw [herror hp, Bool.not_false]
  have hwarnings : (possibleWarnings.filter s.Has).filter Problem.isOfProduction =
      possibleWarnings.filter s.Has :=
    List.filter_eq_self.2 fun p hp => hwarning hp
  have hnoWarning : (s.possibleErrors.filter s.Has).filter Problem.isOfProduction = [] :=
    List.filter_eq_nil_iff.2 fun p hp => by rw [herror hp]; exact Bool.false_ne_true
  have hnoError : (possibleWarnings.filter s.Has).filter (!·.isOfProduction) = [] :=
    List.filter_eq_nil_iff.2 fun p hp => by rw [hwarning hp]; exact Bool.false_ne_true
  rw [accept_eq, problems_eq_filter]
  simp only [List.filter_append, herrors, hwarnings, hnoWarning, hnoError, List.append_nil,
    List.nil_append]

/-! ### Valid settings -/

/-- What an instance needs of the storage in use. -/
def SoundStorage (s : Settings) : Prop :=
  match s.storage.kind with
  | .sqlite => Text.trim s.sqlitePath ≠ "" ∧ 0 < s.storage.file.maxConnections
  | .postgres => ∃ server, s.storage.server = some server ∧
    Text.trim server.host ≠ "" ∧ Text.trim server.database ≠ "" ∧ 0 < server.poolSize

/-- What an instance needs of its settings. -/
structure Valid (s : Settings) : Prop where
  name : Text.trim s.name ≠ ""
  environment : s.environment ∈ ["dev", "prod", "test"]
  filter : BeginsWithLevel s.observability.filter
  output : s.observability.log.output ∈ ["console", "file"]
  storage : s.SoundStorage
  groups : Catalog.standard.problems s.authorization.scopes = []

theorem not_has_storageErrors_iff :
    (∀ p ∈ s.possibleStorageErrors, ¬s.Has p) ↔ s.SoundStorage := by
  have hpos (n : UInt32) : 0 < n ↔ n ≠ 0 := UInt32.pos_iff_ne_zero
  rw [possibleStorageErrors, SoundStorage]
  cases s.storage.kind with
  | sqlite => simp [Has, hpos]
  | postgres => cases hserver : s.storage.server <;> simp [Has, hserver, hpos, and_assoc]

theorem not_has_groupErrors_iff :
    (∀ p ∈ s.possibleGroupErrors, ¬s.Has p) ↔
      Catalog.standard.problems s.authorization.scopes = [] := by
  rw [← List.map_eq_nil_iff, groupProblems_eq, List.filter_eq_nil_iff]
  simp only [decide_eq_true_eq]

/-- Settings have no error exactly if each section of them is sound. -/
theorem valid_iff_forall_not_has : s.Valid ↔ ∀ p ∈ s.possibleErrors, ¬s.Has p := by
  rw [possibleErrors, List.forall_mem_append, List.forall_mem_append, not_has_storageErrors_iff,
    not_has_groupErrors_iff]
  have hname : ¬s.Has .noName ↔ Text.trim s.name ≠ "" := .rfl
  have henvironment : ¬s.Has (.badEnvironment s.environment) ↔
      s.environment ∈ ["dev", "prod", "test"] := Decidable.not_not
  have hfilter : ¬s.Has (.badFilter s.observability.filter) ↔
      BeginsWithLevel s.observability.filter := Decidable.not_not
  have houtput : ¬s.Has (.badOutput s.observability.log.output) ↔
      s.observability.log.output ∈ ["console", "file"] := Decidable.not_not
  rw [List.forall_mem_cons, List.forall_mem_cons, List.forall_mem_cons, List.forall_mem_singleton,
    hname, henvironment, hfilter, houtput]
  constructor
  · intro h
    exact ⟨⟨⟨h.name, h.environment, h.filter, h.output⟩, h.storage⟩, h.groups⟩
  · rintro ⟨⟨⟨hname, henvironment, hfilter, houtput⟩, hstorage⟩, hgroups⟩
    exact ⟨hname, henvironment, hfilter, houtput, hstorage, hgroups⟩

/-! ### Warnings -/

theorem warnings_eq_nil (h : s.environment ≠ "prod") : possibleWarnings.filter s.Has = [] := by
  simp [possibleWarnings, Has, h]

theorem length_warnings (hprod : s.environment = "prod")
    (houtput : s.observability.log.output ∈ ["console", "file"]) :
    (possibleWarnings.filter s.Has).length = if s.rotatesLogs then 0 else 1 := by
  rcases List.mem_cons.1 houtput with hconsole | hfile
  · simp [possibleWarnings, Has, rotatesLogs, hprod, hconsole]
  · rw [List.mem_singleton] at hfile
    cases hrotate : s.observability.log.rotate <;>
      simp [possibleWarnings, Has, rotatesLogs, hprod, hfile, hrotate]

theorem isPrefixOf_warning_iff {p : Problem} :
    "Warning:".toList <+: p.message.toList ↔ p.isOfProduction = true := by
  rw [← List.isPrefixOf_iff_prefix, ← Problem.isWarning_eq]
  rfl

/-! ### What is returned -/

/-- What is returned for settings. -/
structure Checked (s : Settings) : Prop where
  /-- The valid settings are taken, and no others. -/
  taken_iff : (∃ warnings, s.accept = .ok warnings) ↔ s.Valid
  /-- They have no warnings, unless they are for production. -/
  elsewhere : ∀ warnings, s.accept = .ok warnings → s.environment ≠ "prod" → warnings = []
  /-- In production they have one, unless there is a new log file each day. -/
  production : ∀ warnings, s.accept = .ok warnings → s.environment = "prod" →
    warnings.length = if s.rotatesLogs then 0 else 1
  /-- Others are refused with the words for each error there is, in order; of all that can be said
  against the settings, this leaves out nothing but what is said of a log in production.  None of
  the words begin as those of a warning do. -/
  refused : ∀ cause, s.accept = .error cause → ∃ texts, cause = .invalid texts ∧ texts ≠ [] ∧
    texts = (s.possibleErrors.filter s.Has).map Problem.message ∧
    s.problems.map Problem.message =
      texts ++ (possibleWarnings.filter s.Has).map Problem.message ∧
    (∀ text ∈ texts, ¬"Warning:".toList <+: text.toList) ∧
    ∀ p ∈ possibleWarnings, "Warning:".toList <+: p.message.toList

/-- Valid settings are taken, with a warning about their log if there is one, and all others are
refused for all their errors, whatever texts they hold. -/
theorem settings_checked (s : Settings) : Checked s := by
  have hvalid : s.Valid ↔ s.possibleErrors.filter s.Has = [] := by
    rw [valid_iff_forall_not_has, List.filter_eq_nil_iff]
    simp only [decide_eq_true_eq]
  have haccept := accept_eq_of_has (s := s)
  -- only the errors decide, so the warnings are looked at where there are none of these
  by_cases h : s.possibleErrors.filter s.Has = []
  · rw [if_pos h] at haccept
    refine ⟨iff_of_true ⟨_, haccept⟩ (hvalid.2 h), ?_, ?_, ?_⟩
    · intro warnings hok hplace
      cases haccept.symm.trans hok
      rw [warnings_eq_nil hplace, List.map_nil]
    · intro warnings hok hprod
      cases haccept.symm.trans hok
      rw [List.length_map, length_warnings hprod (hvalid.2 h).output]
    · intro cause herror
      cases haccept.symm.trans herror
  · rw [if_neg h] at haccept
    have hno {warnings : List String} (hok : s.accept = .ok warnings) : False := by
      cases haccept.symm.trans hok
    refine ⟨iff_of_false (fun ⟨_, hok⟩ => hno hok) (h ∘ hvalid.1),
      fun _ hok => (hno hok).elim, fun _ hok => (hno hok).elim, ?_⟩
    intro cause herror
    cases haccept.symm.trans herror
    refine ⟨_, rfl, mt List.map_eq_nil_iff.1 h, rfl, ?_, ?_, ?_⟩
    · rw [problems_eq_filter, List.map_append]
    · intro text htext
      obtain ⟨p, hp, rfl⟩ := List.mem_map.1 htext
      rw [isPrefixOf_warning_iff, isOfProduction_of_mem_possibleErrors (List.mem_filter.1 hp).1]
      exact Bool.false_ne_true
    · exact fun p hp => isPrefixOf_warning_iff.2 (isOfProduction_of_mem_possibleWarnings hp)

/-- Settings for production that log to the console get a warning; an environment that begins as a
warning does is an error. -/
theorem settings_checked_for_production :
    let production : Settings := { fresh with environment := "prod" }
    let misnamed : Settings := { fresh with environment := "Warning: prod" }
    (∃ warning, production.accept = .ok [warning]) ∧
      misnamed.accept = .error (.invalid
        ["Invalid environment 'Warning: prod', must be one of: dev, prod, test"]) := by
  intro production misnamed
  constructor
  · have hvalid : production.Valid := valid_iff_forall_not_has.2 (by decide +kernel)
    obtain ⟨warnings, hok⟩ := (settings_checked production).taken_iff.2 hvalid
    have hone : warnings.length = 1 :=
      (settings_checked production).production warnings hok rfl
    obtain ⟨warning, rfl⟩ := List.length_eq_one_iff.1 hone
    exact ⟨warning, hok⟩
  · have hbad : ¬misnamed.Valid := fun h => absurd h.environment (by decide)
    cases herror : misnamed.accept with
    | ok warnings => exact absurd ((settings_checked misnamed).taken_iff.1 ⟨_, herror⟩) hbad
    | error cause =>
      obtain ⟨texts, rfl, -, rfl, -⟩ := (settings_checked misnamed).refused cause herror
      refine congrArg (Except.error ∘ SettingsFailure.invalid) (?_ : _ = [_])
      decide +kernel

end Settings

end RealmRegistry
