import DeployBoard.LineCommand
import DeployBoard.Proofs.Text.Words

/-!
# `Proofs.LineCommand` — the grammar of command lines

`Asks` is the grammar of the lines that run a command, word by word: `/deploy` with a repository and a tag, `/auto` with a
repository and a switch, `/reset` with a repository. Reading a line accepts exactly this (`parse_eq_run_iff`), and every
command whose repository and tag are words has a line that asks for it (`parse_line`).

What is read depends on the words alone, but for a line that is no command, which is answered with its own text
(`ofWords_cases`). `commands_read_by_grammar` puts this together.
-/

namespace DeployBoard

open Text

/-- **The command can be said in words**: its repository is a word, and so is its tag, if it has one. -/
structure Command.Sayable (command : Command) : Prop where
  repo : IsWord command.repo
  tag : ∀ tag, command.action = .deploy tag → IsWord tag

/-- The words of a command. -/
def Command.words (command : Command) : List String :=
  match command.action with
  | .deploy tag => ["/deploy", command.repo, tag]
  | .setAutoDeploy enabled => ["/auto", command.repo, if enabled then "on" else "off"]
  | .reset => ["/reset", command.repo]

/-- **The line of a command**: its words, with a space between them. -/
def Command.line (command : Command) : String := " ".intercalate command.words

/-- The words of a command that can be said in words are words. -/
theorem Command.Sayable.isWord {command : Command} (h : command.Sayable) : ∀ w ∈ command.words, IsWord w := by
  obtain ⟨repo, action⟩ := command
  have hrepo : IsWord repo := h.repo
  cases action with
  | deploy tag =>
      have hname : IsWord "/deploy" := isWord_of_check (by decide)
      have htag : IsWord tag := h.tag tag rfl
      show ∀ w ∈ ["/deploy", repo, tag], IsWord w
      simp [hname, hrepo, htag]
  | setAutoDeploy enabled =>
      have hname : IsWord "/auto" := isWord_of_check (by decide)
      have hflag : IsWord (if enabled then "on" else "off") := isWord_of_check (by cases enabled <;> decide)
      show ∀ w ∈ ["/auto", repo, if enabled then "on" else "off"], IsWord w
      simp [hname, hrepo, hflag]
  | reset =>
      have hname : IsWord "/reset" := isWord_of_check (by decide)
      show ∀ w ∈ ["/reset", repo], IsWord w
      simp [hname, hrepo]

namespace LineCommand

/-- The words for the two positions of a switch. -/
inductive Switches : String → Bool → Prop where
  | on : Switches "on" true
  | yes : Switches "true" true
  | off : Switches "off" false
  | no : Switches "false" false

/-- **The words ask for the command.** -/
inductive Asks : List String → Command → Prop where
  | deploy (repo tag : String) : Asks ["/deploy", repo, tag] ⟨repo, .deploy tag⟩
  | auto {flag : String} {enabled : Bool} (repo : String) (h : Switches flag enabled) :
      Asks ["/auto", repo, flag] ⟨repo, .setAutoDeploy enabled⟩
  | reset (repo : String) : Asks ["/reset", repo] ⟨repo, .reset⟩

/-- **The two lines are answered alike**: with the same, or both as unknown, each with its own text. -/
inductive Alike (line other : String) : Prop where
  | same (h : parse other = parse line) (hknown : ∀ text, parse line ≠ some (.unknown text))
  | unknown (h : parse line = some (.unknown (trim line))) (hother : parse other = some (.unknown (trim other)))

variable {line other : String} {ws : List String} {command : Command}

/-! ## From words to commands -/

/-- **The words that run a command** are those that ask for it. -/
theorem ofWords_eq_run_iff : ofWords line ws = some (.run command) ↔ Asks ws command := by
  constructor
  · intro h
    unfold ofWords at h
    split at h
    case h_7 repo tag =>
      cases h
      exact .deploy repo tag
    case h_9 repo flag =>
      split at h
      · rename_i hon
        cases h
        rcases hon with rfl | rfl
        · exact .auto repo .on
        · exact .auto repo .yes
      · split at h
        · rename_i hoff
          cases h
          rcases hoff with rfl | rfl
          · exact .auto repo .off
          · exact .auto repo .no
        · cases h
    case h_11 repo =>
      cases h
      exact .reset repo
    -- No other line runs a command.
    all_goals cases h
  · intro h
    cases h with
    | deploy repo tag => rfl
    | auto repo hset => cases hset <;> rfl
    | reset repo => rfl

/-- **The words are no command**, whatever the line that has them, **or have one answer**, whatever the line. -/
theorem ofWords_cases (ws : List String) :
    (∀ line, ofWords line ws = some (.unknown (trim line))) ∨
      ∀ line, ofWords line ws = ofWords "" ws ∧ ∀ text, ofWords line ws ≠ some (.unknown text) := by
  fun_cases ofWords "" ws
  -- Last of the cases is the one of words that nothing else is said of.
  case case15 => exact .inl fun line => by simp [ofWords, *]
  all_goals exact .inr fun line => by simp [ofWords, *]

theorem ofWords_eq_none_iff : ofWords line ws = none ↔ ws = [] := by
  constructor
  · intro hnone
    unfold ofWords at hnone
    split at hnone
    case h_1 => rfl
    case h_9 =>
      split at hnone
      · cases hnone
      · split at hnone <;> cases hnone
    all_goals cases hnone
  · intro hempty
    subst hempty
    rfl

/-! ## From lines to commands -/

/-- **The lines that run a command** are those whose words ask for it. -/
theorem parse_eq_run_iff : parse line = some (.run command) ↔ Asks (words line) command := ofWords_eq_run_iff

/-- Lines with the same words are answered alike. -/
theorem alike_of_words_eq (h : words other = words line) : Alike line other := by
  rcases ofWords_cases (words line) with hunknown | hanswer
  · refine .unknown (hunknown line) ?_
    unfold parse
    rw [h]
    exact hunknown other
  · refine .same ?_ (hanswer line).2
    unfold parse
    rw [h, (hanswer other).1, (hanswer line).1]

/-- What is asked for in words can be said in words. -/
theorem Asks.sayable (h : Asks ws command) (hws : ∀ w ∈ ws, IsWord w) : command.Sayable := by
  cases h with
  | deploy repo tag =>
      refine ⟨hws repo (by simp), ?_⟩
      rintro _ ⟨⟩
      exact hws tag (by simp)
  | auto repo _ =>
      refine ⟨hws repo (by simp), ?_⟩
      rintro _ ⟨⟩
  | reset repo =>
      refine ⟨hws repo (by simp), ?_⟩
      rintro _ ⟨⟩

/-- A command's own words ask for it. -/
theorem asks_words (command : Command) : Asks command.words command := by
  obtain ⟨repo, action⟩ := command
  cases action with
  | deploy tag => exact .deploy repo tag
  | setAutoDeploy enabled =>
      cases enabled with
      | true => exact .auto repo .on
      | false => exact .auto repo .off
  | reset => exact .reset repo

/-- **A command that can be said in words is asked for by its line.** -/
theorem parse_line (h : command.Sayable) : parse command.line = some (.run command) := by
  rw [parse_eq_run_iff]
  have hread : Text.words command.line = command.words := words_intercalate h.isWord
  rw [hread]
  exact asks_words command

/-- **Which lines run which commands.** A line runs a command exactly when its words, which white space separates, ask for
    it by the grammar. The repository and the tag of what it runs are words then; and a command of which this is so has a
    line that runs it. A line asks for nothing exactly when it has no words. Lines with the same words are answered alike. -/
theorem commands_read_by_grammar (line : String) (command : Command) :
    (parse line = some (.run command) ↔ ∃ ws, HasWords line.toList ws ∧ Asks ws command) ∧
      (parse line = some (.run command) → command.Sayable) ∧
      (command.Sayable → parse command.line = some (.run command)) ∧
      (parse line = none ↔ HasWords line.toList []) ∧
      ∀ (other : String) (ws : List String), HasWords line.toList ws → HasWords other.toList ws → Alike line other := by
  refine ⟨?_, ?_, parse_line, ?_, ?_⟩
  · rw [parse_eq_run_iff]
    constructor
    · intro hasks
      exact ⟨words line, words_eq_iff.mp rfl, hasks⟩
    · rintro ⟨ws, hwords, hasks⟩
      rw [words_eq_iff.mpr hwords]
      exact hasks
  · intro hrun
    exact (parse_eq_run_iff.mp hrun).sayable fun w hw => isWord_of_mem_words hw
  · rw [← words_eq_iff]
    exact ofWords_eq_none_iff
  · intro other ws hline hother
    apply alike_of_words_eq
    rw [words_eq_iff.mpr hline, words_eq_iff.mpr hother]

/-- White space of any kind and amount separates words: a wide space before the name, a tab after it, no-break spaces behind the
    repository, and a line break at the end. -/
theorem deploy_read_between_blanks :
    HasWords "\u3000/deploy\tweb\u00A0\u00A0v1\n".toList ["/deploy", "web", "v1"] ∧
      parse "\u3000/deploy\tweb\u00A0\u00A0v1\n" = some (.run ⟨"web", .deploy "v1"⟩) := by
  have hwords : HasWords "\u3000/deploy\tweb\u00A0\u00A0v1\n".toList ["/deploy", "web", "v1"] :=
    words_eq_iff.mp (by decide)
  exact ⟨hwords, (commands_read_by_grammar _ _).1.mpr ⟨_, hwords, .deploy "web" "v1"⟩⟩

end LineCommand

end DeployBoard
