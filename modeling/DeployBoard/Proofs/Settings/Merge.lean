import DeployBoard.Proofs.Text.Numeral
import DeployBoard.Settings.Search

/-!
# `Proofs.Settings.Merge` — every setting is the first that is present

Each setting has its own order of places, and is the first value in that order that is present (`firstPresent`), whatever
the places say about other settings. The time between polls is raised to the least one after that. Two things are told on
the way: a value of the environment that was needed and is no number (`Unusable`), and a time that was raised. `Merged`
says all of it, and the settings of a run are so (`each_setting_first_present`).
-/

namespace DeployBoard.Settings

open Text

/-- **The first value that is present**, or the default if there is none. -/
def firstPresent {α : Type} (default : α) : List (Option α) → α
  | [] => default
  | some value :: _ => value
  | none :: rest => firstPresent default rest

/-- The variable of the environment for the time between polls. -/
def frequencyKey : String := "RDASH_UPDATE_FREQUENCY_MS"

/-- **The time between polls that is asked for.** The environment's value counts if it is a number without the blanks
    around it. -/
def askedFrequency (given : CommandLine) (env : Environment) (project global : Layer) : Nat :=
  firstPresent 5000
    [given.updateFrequencyMs, (env frequencyKey).bind fun value => unsigned? (trim value), project.updateFrequencyMs,
      global.updateFrequencyMs]

/-- **The environment's time between polls is of no use**: the command line gives none, and the value is no number, for this
    reason. -/
structure Unusable (given : CommandLine) (env : Environment) (value reason : String) : Prop where
  silent : given.updateFrequencyMs = none
  present : env frequencyKey = some value
  notNumber : unsigned? (trim value) = none
  because : ∃ e, readUnsigned64 (trim value) = .error e ∧ e.message = reason

/-- **One notice if the environment's value is of no use**, and otherwise none. -/
inductive Complains (given : CommandLine) (env : Environment) : List Notice → Prop where
  | silent (h : ∀ value reason, ¬ Unusable given env value reason) : Complains given env []
  | unusable {value reason : String} (h : Unusable given env value reason) :
      Complains given env [.badEnv frequencyKey value reason]

/-- **Settings as the four places make them**, and what is told of that after the earlier notices. -/
structure Merged (given : CommandLine) (env : Environment) (project global : Layer) (earlier : List Notice)
    (found : Settings × List Notice) : Prop where
  serverUrl : found.1.serverUrl = firstPresent "http://localhost:8080"
    [given.serverUrl, env "RDASH_SERVER_URL", project.serverUrl, global.serverUrl]
  logFile : found.1.logFile = firstPresent "./rdash.log"
    [given.logFile, env "RDASH_LOG_FILE", project.logFile, global.logFile]
  theme : found.1.theme = firstPresent "dark" [given.theme, project.theme, global.theme]
  connectTimeout : found.1.http.connectTimeoutMs = firstPresent 5000
    [project.http.bind (·.connectTimeoutMs), global.http.bind (·.connectTimeoutMs)]
  requestTimeout : found.1.http.requestTimeoutMs = firstPresent 10000
    [project.http.bind (·.requestTimeoutMs), global.http.bind (·.requestTimeoutMs)]
  updateFrequency : found.1.updateFrequencyMs = max 250 (askedFrequency given env project global)
  period : found.1.updateFrequencyMs ≠ 0
  notices : ∃ complaints, Complains given env complaints ∧
    found.2 = earlier ++ complaints ++
      if askedFrequency given env project global < 250 then [.clamped (askedFrequency given env project global)] else []

variable {given : CommandLine} {env : Environment} {project global : Layer}

/-! ## The first that is present -/

theorem firstPresent_nil {α : Type} (default : α) : firstPresent default [] = default := rfl

theorem firstPresent_cons {α : Type} (default : α) (value : Option α) (rest : List (Option α)) :
    firstPresent default (value :: rest) = value.getD (firstPresent default rest) := by
  cases value <;> rfl

/-- **A time limit is taken by itself**, whatever else the same table sets. -/
theorem limit_eq_firstPresent {field : HttpLayer → Option Nat} (h : field {} = none) (default : Nat) :
    limit field project global default = firstPresent default [project.http.bind field, global.http.bind field] := by
  have hbind : ∀ table : Option HttpLayer, field (table.getD {}) = table.bind field := by
    intro table
    cases table with
    | none => exact h
    | some table => rfl
  simp only [limit, hbind, Option.getD_or, firstPresent_cons, firstPresent_nil]

/-! ## The time between polls -/

/-- **The environment's value**: none, a number, or of no use to a command line that gives none. -/
theorem envFrequency_cases (env : Environment) :
    (env frequencyKey = none ∧ envFrequency env = (none, [])) ∨
      (∃ value n, env frequencyKey = some value ∧ unsigned? (trim value) = some n ∧ envFrequency env = (some n, [])) ∨
      ∃ value reason, envFrequency env = (none, [.badEnv frequencyKey value reason]) ∧
        ∀ given : CommandLine, given.updateFrequencyMs = none → Unusable given env value reason := by
  unfold envFrequency
  split
  · rename_i hnone
    exact .inl ⟨hnone, rfl⟩
  · rename_i value hvalue
    have hnumber := toOption_readUnsigned64 (trim value)
    split
    · rename_i n hread
      rw [hread] at hnumber
      exact .inr (.inl ⟨value, n, hvalue, hnumber.symm, rfl⟩)
    · rename_i e hread
      rw [hread] at hnumber
      exact .inr (.inr ⟨value, e.message, rfl, fun _ hsilent => ⟨hsilent, hvalue, hnumber.symm, e, hread, rfl⟩⟩)

theorem requestedFrequency_fst :
    (requestedFrequency given env project global).1 = askedFrequency given env project global := by
  unfold requestedFrequency askedFrequency
  cases hgiven : given.updateFrequencyMs with
  | some n => rfl
  | none =>
      have hvalue : (envFrequency env).1 = (env frequencyKey).bind fun value => unsigned? (trim value) := by
        obtain ⟨hnone, heq⟩ | ⟨value, n, hvalue, hnumber, heq⟩ | ⟨value, reason, heq, hunusable⟩ := envFrequency_cases env
        · rw [heq, hnone]
          rfl
        · rw [heq, hvalue, Option.bind_some, hnumber]
        · have h := hunusable given hgiven
          rw [heq, h.present, Option.bind_some, h.notNumber]
      simp only [hvalue, Option.getD_or, Option.getD_none, firstPresent_cons, firstPresent_nil]

/-- **What is told of the environment's value.** The command line decides whether it is looked at. -/
theorem complains_requestedFrequency :
    Complains given env (requestedFrequency given env project global).2 := by
  unfold requestedFrequency
  cases hgiven : given.updateFrequencyMs with
  | some n =>
      refine .silent fun value reason h => ?_
      rw [h.silent] at hgiven
      cases hgiven
  | none =>
      obtain ⟨hnone, heq⟩ | ⟨value, n, hvalue, hnumber, heq⟩ | ⟨value, reason, heq, hunusable⟩ := envFrequency_cases env
      · rw [heq]
        refine .silent fun value reason h => ?_
        rw [h.present] at hnone
        cases hnone
      · rw [heq]
        refine .silent fun other reason h => ?_
        obtain rfl : value = other := Option.some.inj (hvalue.symm.trans h.present)
        rw [h.notNumber] at hnumber
        cases hnumber
      · rw [heq]
        exact .unusable (hunusable given hgiven)

/-! ## All settings -/

/-- **The four places come to settings as they should.** -/
theorem merged_merge (earlier : List Notice) :
    Merged given env project global earlier
      ((merge given env project global).1, earlier ++ (merge given env project global).2) where
  serverUrl := by
    simp only [merge, Option.getD_or, firstPresent_cons, firstPresent_nil]
  logFile := by
    simp only [merge, Option.getD_or, firstPresent_cons, firstPresent_nil]
  theme := by
    simp only [merge, Option.getD_or, firstPresent_cons, firstPresent_nil]
  connectTimeout := limit_eq_firstPresent rfl _
  requestTimeout := limit_eq_firstPresent rfl _
  updateFrequency := congrArg (max 250) requestedFrequency_fst
  period := by
    have hleast : 250 ≤ (merge given env project global).1.updateFrequencyMs := Nat.le_max_left _ _
    exact Nat.ne_of_gt (Nat.lt_of_lt_of_le (by decide) hleast)
  notices := by
    have hcomplains : Complains given env (requestedFrequency given env project global).2 := complains_requestedFrequency
    refine ⟨_, hcomplains, ?_⟩
    rw [List.append_assoc, ← requestedFrequency_fst]
    rfl

/-- **Every setting of a run is the first that is present**, for all that can be on the command line, in the environment and in
    the two files; and the notices are those about the files, then one about a value of the environment that is of no use, and
    then one about a time between polls that is too short. -/
theorem each_setting_first_present (given : CommandLine) (env : Environment) :
    (∀ project global earlier, Merged given env project global earlier
        ((merge given env project global).1, earlier ++ (merge given env project global).2)) ∧
      ∀ complaint files directory account,
        Merged given env (projectLayer complaint files (projectPath directory)).1
          (globalLayer complaint files (candidates env account)).1
          ((projectLayer complaint files (projectPath directory)).2 ++
            (globalLayer complaint files (candidates env account)).2)
          (find given env files directory account complaint) :=
  ⟨fun _ _ earlier => merged_merge earlier, fun _ _ _ _ => merged_merge _⟩

/-- A value that is no number is told of, and the time is the one of the project's file, which is too short. -/
example :
    merge {} (fun key => if key = frequencyKey then some " 1 s" else none) { updateFrequencyMs := some 100 } {} =
      ({ updateFrequencyMs := 250 },
        [.badEnv frequencyKey " 1 s" "invalid digit found in string", .clamped 100]) := by decide

end DeployBoard.Settings
