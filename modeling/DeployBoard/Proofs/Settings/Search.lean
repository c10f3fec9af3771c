import DeployBoard.Settings.Search

/-!
# `Proofs.Settings.Search` — which file is taken as the user's

The user's file should be the first candidate that holds a configuration, whatever is wrong with those before it, and
each of them that is there should be told of (`Searches`). The search goes through the candidates one by one: those that
are missing or malformed are passed over (`globalLayer_append`), and it ends with the first that holds a
configuration, but also with the first that cannot be read. So the settings are found as they should be exactly when all
candidates before the one that is taken can be read (`user_file_found_iff`).
-/

namespace DeployBoard

/-- The path of the file that a notice is about. -/
def Notice.path? : Notice → Option String
  | .loaded path => some path
  | .malformed file => some file.path
  | .badEnv _ _ _ | .clamped _ => none

namespace Settings

/-! ## What the candidates hold -/

/-- **What the file at a path sets**, if there is one that is a configuration. -/
def layerAt? (files : Files) (path : String) : Option Layer :=
  match files path with
  | .text text => Layer.parse? text
  | .missing | .unreadable => none

/-- **There is something at the path, but no configuration**: it cannot be read, or is malformed. -/
def isFaulty (files : Files) (path : String) : Bool := files path ≠ .missing && (layerAt? files path).isNone

/-- The first candidate that holds a configuration. -/
def used? (files : Files) (paths : List String) : Option String := paths.find? fun path => (layerAt? files path).isSome

/-- **The candidates before the one that is used**, or all of them. -/
def skipped (files : Files) (paths : List String) : List String :=
  paths.takeWhile fun path => (layerAt? files path).isNone

/-- What is said of the file at a path by its reader. -/
def complaintAt (complaint : String → String) (files : Files) (path : String) : String :=
  match files path with
  | .text text => complaint text
  | .missing | .unreadable => ""

/-- The notice that a file is malformed. -/
def malformedAt (complaint : String → String) (files : Files) (path : String) : Notice :=
  .malformed ⟨path, complaintAt complaint files path⟩

/-- **The search as it should be**: it brings what the first candidate that holds a configuration sets, or nothing, and one
    notice for each candidate before it that is there all the same, in the order of the search, and then one for the file that
    is used. The notice about a text has what the reader says of that text. -/
structure Searches (complaint : String → String) (files : Files) (paths : List String) (found : Layer × List Notice) :
    Prop where
  layer : found.1 = ((used? files paths).bind (layerAt? files)).getD {}
  notices : ∃ error : String → String, (∀ path text, files path = .text text → error path = complaint text) ∧
    found.2 = ((skipped files paths).filter (isFaulty files)).map (fun path => .malformed ⟨path, error path⟩) ++
      (used? files paths).toList.map .loaded

variable {complaint : String → String} {files : Files} {path : String} {paths rest : List String}

/-! ## The search, step by step -/

theorem globalLayer_used {layer : Layer} (h : layerAt? files path = some layer) :
    globalLayer complaint files (path :: rest) = (layer, [.loaded path]) := by
  unfold layerAt? at h
  rw [globalLayer]
  split at h
  · rename_i text htext
    simp only [htext, readLayer, h]
  · cases h
  · cases h

theorem globalLayer_unreadable (h : files path = .unreadable) :
    globalLayer complaint files (path :: rest) = ({}, []) := by
  rw [globalLayer]
  simp only [h]

/-- **A candidate that can be read and holds no configuration is passed over**, with a notice if it is there. -/
theorem globalLayer_passed (complaint : String → String) (hnone : (layerAt? files path).isNone)
    (hread : files path ≠ .unreadable) (rest : List String) :
    globalLayer complaint files (path :: rest) =
      ((globalLayer complaint files rest).1,
        ([path].filter (isFaulty files)).map (malformedAt complaint files) ++ (globalLayer complaint files rest).2) := by
  have hlayer : layerAt? files path = none := Option.isNone_iff_eq_none.mp hnone
  cases hfile : files path with
  | missing =>
      have hfaulty : isFaulty files path = false := by simp [isFaulty, hfile]
      rw [globalLayer, List.filter_cons_of_neg (by simp [hfaulty])]
      simp only [hfile]
      rfl
  | unreadable => exact absurd hfile hread
  | text text =>
      have hfaulty : isFaulty files path = true := by simp [isFaulty, hfile, hlayer]
      have hnotice : malformedAt complaint files path = .malformed ⟨path, complaint text⟩ := by
        simp only [malformedAt, complaintAt, hfile]
      have hparse : Layer.parse? text = none := by
        unfold layerAt? at hlayer
        simpa only [hfile] using hlayer
      rw [globalLayer, List.filter_cons_of_pos hfaulty, List.map_cons, hnotice]
      simp only [hfile, readLayer, hparse]
      rfl

/-- Candidates that can be read and hold no configuration are passed over, each with a notice if it is there. -/
theorem globalLayer_append (complaint : String → String) (hnone : ∀ path ∈ paths, (layerAt? files path).isNone)
    (hread : ∀ path ∈ paths, files path ≠ .unreadable) (rest : List String) :
    globalLayer complaint files (paths ++ rest) =
      ((globalLayer complaint files rest).1,
        (paths.filter (isFaulty files)).map (malformedAt complaint files) ++ (globalLayer complaint files rest).2) := by
  induction paths with
  | nil => rfl
  | cons path paths ih =>
      have hpassed :=
        globalLayer_passed complaint (hnone path List.mem_cons_self) (hread path List.mem_cons_self) (paths ++ rest)
      have hothers := ih (fun p hp => hnone p (List.mem_cons_of_mem path hp))
        fun p hp => hread p (List.mem_cons_of_mem path hp)
      rw [List.cons_append, hpassed, hothers]
      show _ = (_, (([path] ++ paths).filter (isFaulty files)).map (malformedAt complaint files) ++ _)
      rw [List.filter_append, List.map_append, List.append_assoc]

/-! ## The whole search -/

theorem isNone_of_mem_skipped (h : path ∈ skipped files paths) : (layerAt? files path).isNone :=
  List.all_eq_true.mp List.all_takeWhile path h

/-- **The candidates are those that are skipped and what is left**, which is nothing, or begins with the one that is
    used. -/
theorem skipped_cases (files : Files) (paths : List String) :
    (paths = skipped files paths ∧ used? files paths = none) ∨
      ∃ path rest layer, paths = skipped files paths ++ path :: rest ∧ used? files paths = some path ∧
        layerAt? files path = some layer := by
  cases hused : used? files paths with
  | none =>
      left
      have hnone : ∀ path ∈ paths, (layerAt? files path).isNone := by
        intro path hmem
        simpa using List.find?_eq_none.mp hused path hmem
      have hall : skipped files (paths ++ []) = paths ++ skipped files [] := List.takeWhile_append_of_pos hnone
      have hnil : skipped files [] = [] := rfl
      rw [hnil, List.append_nil] at hall
      exact ⟨hall.symm, rfl⟩
  | some path =>
      right
      obtain ⟨hpath, before, rest, hsplit, hbefore⟩ := List.find?_eq_some_iff_append.mp hused
      obtain ⟨layer, hlayer⟩ := Option.isSome_iff_exists.mp hpath
      have hnone : ∀ path ∈ before, (layerAt? files path).isNone := by
        intro path hmem
        simpa using hbefore path hmem
      have hskipped : skipped files paths = before := by
        unfold skipped
        rw [hsplit, List.takeWhile_append_of_pos hnone, List.takeWhile_cons_of_neg (by simp [hlayer]), List.append_nil]
      refine ⟨path, rest, layer, ?_, rfl, hlayer⟩
      rw [hskipped]
      exact hsplit

/-- **Where all that is skipped can be read, the search is as it should be.** -/
theorem searches_globalLayer (h : ∀ path ∈ skipped files paths, files path ≠ .unreadable) :
    Searches complaint files paths (globalLayer complaint files paths) := by
  have hnone : ∀ path ∈ skipped files paths, (layerAt? files path).isNone := fun _ => isNone_of_mem_skipped
  have herror : ∀ path text, files path = .text text → complaintAt complaint files path = complaint text := by
    intro path text htext
    simp only [complaintAt, htext]
  rcases skipped_cases files paths with ⟨hall, hused⟩ | ⟨used, rest, layer, hsplit, hused, hlayer⟩
  · have hsearch := globalLayer_append complaint hnone h []
    rw [List.append_nil, ← hall] at hsearch
    rw [hsearch]
    refine ⟨?_, complaintAt complaint files, herror, ?_⟩
    · rw [hused]
      rfl
    · rw [hused, ← hall]
      rfl
  · have hsearch := globalLayer_append complaint hnone h (used :: rest)
    rw [← hsplit, globalLayer_used hlayer] at hsearch
    rw [hsearch]
    refine ⟨?_, complaintAt complaint files, herror, ?_⟩
    · rw [hused, Option.bind_some, hlayer, Option.getD_some]
    · rw [hused]
      rfl

/-- **A candidate that cannot be read ends the search**, and nothing is said of it. -/
theorem globalLayer_of_unreadable {before after : List String} (hsplit : skipped files paths = before ++ path :: after)
    (hbefore : ∀ q ∈ before, files q ≠ .unreadable) (hpath : files path = .unreadable) :
    globalLayer complaint files paths = ({}, (before.filter (isFaulty files)).map (malformedAt complaint files)) := by
  have hnone : ∀ q ∈ before, (layerAt? files q).isNone := by
    intro q hq
    have hmem : q ∈ skipped files paths := by
      rw [hsplit]
      exact List.mem_append_left _ hq
    exact isNone_of_mem_skipped hmem
  obtain ⟨rest, hrest⟩ : ∃ rest, paths = before ++ path :: rest := by
    have hprefix : skipped files paths <+: paths := List.takeWhile_prefix _
    obtain ⟨tail, htail⟩ := hprefix
    refine ⟨after ++ tail, ?_⟩
    rw [← htail, hsplit, List.append_assoc, List.cons_append]
  rw [hrest, globalLayer_append complaint hnone hbefore, globalLayer_unreadable hpath, List.append_nil]

/-- Of candidates one of which cannot be read there is a first. -/
theorem exists_first_unreadable (hmem : path ∈ paths) (hpath : files path = .unreadable) :
    ∃ before first after, paths = before ++ first :: after ∧ (∀ q ∈ before, files q ≠ .unreadable) ∧
      files first = .unreadable := by
  have hsome : (paths.find? fun q => decide (files q = .unreadable)).isSome :=
    List.find?_isSome.mpr ⟨path, hmem, decide_eq_true hpath⟩
  obtain ⟨first, hfind⟩ := Option.isSome_iff_exists.mp hsome
  obtain ⟨hfirst, before, after, hsplit, hbefore⟩ := List.find?_eq_some_iff_append.mp hfind
  refine ⟨before, first, after, hsplit, ?_, of_decide_eq_true hfirst⟩
  intro q hq
  simpa using hbefore q hq

/-! ## The settings of a run -/

/-- The settings and notices of a run in which `global` was found as the user's file. -/
def foundWith (given : CommandLine) (env : Environment) (complaint : String → String) (files : Files)
    (workingDirectory : String) (global : Layer × List Notice) : Settings × List Notice :=
  let project := projectLayer complaint files (projectPath workingDirectory)
  let merged := merge given env project.1 global.1
  (merged.1, project.2 ++ global.2 ++ merged.2)

/-- No notice of merging is about a file. -/
theorem path?_of_mem_merge {given : CommandLine} {env : Environment} {project global : Layer} {notice : Notice}
    (h : notice ∈ (merge given env project global).2) : notice.path? = none := by
  have henv : ∀ n ∈ (envFrequency env).2, n.path? = none := by
    intro n hn
    unfold envFrequency at hn
    split at hn
    · cases hn
    split at hn
    · cases hn
    · rw [List.mem_singleton.mp hn]
      rfl
  have hfrequency : ∀ n ∈ (requestedFrequency given env project global).2, n.path? = none := by
    intro n hn
    unfold requestedFrequency at hn
    split at hn
    · cases hn
    · exact henv n hn
  have hmerge : (merge given env project global).2 = (requestedFrequency given env project global).2 ++
      if (requestedFrequency given env project global).1 < minUpdateFrequencyMs then
        [.clamped (requestedFrequency given env project global).1] else [] := rfl
  rw [hmerge] at h
  rcases List.mem_append.mp h with hmem | hmem
  · exact hfrequency notice hmem
  · split at hmem
    · rw [List.mem_singleton.mp hmem]
      rfl
    · cases hmem

/-- **The files that notices are about are told by what was found**: what comes of merging adds none. -/
theorem paths_eq_of_foundWith {given : CommandLine} {env : Environment} {workingDirectory : String}
    {global other : Layer × List Notice}
    (h : foundWith given env complaint files workingDirectory global =
      foundWith given env complaint files workingDirectory other) :
    global.2.filterMap Notice.path? = other.2.filterMap Notice.path? := by
  have hmerge : ∀ layer : Layer,
      (merge given env (projectLayer complaint files (projectPath workingDirectory)).1 layer).2.filterMap Notice.path? =
        [] :=
    fun layer => List.filterMap_eq_nil_iff.mpr fun _ => path?_of_mem_merge
  have hnotices := congrArg (fun found => found.2.filterMap Notice.path?) h
  simp only [foundWith, List.filterMap_append, hmerge, List.append_nil] at hnotices
  exact List.append_cancel_left hnotices

theorem filterMap_path?_malformed (error : String → String) (paths : List String) :
    (paths.map fun path => Notice.malformed ⟨path, error path⟩).filterMap Notice.path? = paths := by
  rw [List.filterMap_map]
  exact List.filterMap_some

/-- **The user's file is found as it should be exactly when every candidate before it can be read.** The settings
    of a run are those that the four places come to with the first candidate that holds a configuration as the user's
    file, and each candidate before it that is there has its notice, if and only if none of these is unreadable. One that is
    ends the search: whatever lies behind it is not used, and neither it nor what lies behind it is told of. So it is for
    every environment, every home directory of the user's account, and whatever the reader says of malformed files. -/
theorem user_file_found_iff (given : CommandLine) (env : Environment) (files : Files) (workingDirectory : String)
    (account : Option String) (complaint : String → String) :
    ((∃ global, Searches complaint files (candidates env account) global ∧
        find given env files workingDirectory account complaint =
          foundWith given env complaint files workingDirectory global) ↔
      ∀ path ∈ skipped files (candidates env account), files path ≠ .unreadable) ∧
    ∀ before path after, skipped files (candidates env account) = before ++ path :: after →
      (∀ q ∈ before, files q ≠ .unreadable) → files path = .unreadable →
        find given env files workingDirectory account complaint =
          foundWith given env complaint files workingDirectory
            ({}, (before.filter (isFaulty files)).map (malformedAt complaint files)) := by
  have hfind : find given env files workingDirectory account complaint =
      foundWith given env complaint files workingDirectory (globalLayer complaint files (candidates env account)) := rfl
  refine ⟨⟨?_, ?_⟩, ?_⟩
  · rintro ⟨global, hsearches, hfound⟩ unread hmem hunread
    obtain ⟨before, path, after, hsplit, hbefore, hpath⟩ := exists_first_unreadable hmem hunread
    obtain ⟨error, -, hnotices⟩ := hsearches.notices
    have hmalformed : malformedAt complaint files = fun path => .malformed ⟨path, complaintAt complaint files path⟩ := rfl
    have hpaths := paths_eq_of_foundWith (hfind.symm.trans hfound)
    rw [globalLayer_of_unreadable hsplit hbefore hpath, hnotices, List.filterMap_append, hmalformed,
      filterMap_path?_malformed, filterMap_path?_malformed, hsplit, List.filter_append, List.append_assoc] at hpaths
    -- The unreadable candidate is one of those that should be told of.
    have hfaulty : isFaulty files path = true := by simp [isFaulty, layerAt?, hpath]
    rw [List.filter_cons_of_pos hfaulty, List.cons_append] at hpaths
    exact absurd (List.append_right_eq_self.mp hpaths.symm) (List.cons_ne_nil _ _)
  · intro hread
    exact ⟨globalLayer complaint files (candidates env account), searches_globalLayer hread, hfind⟩
  · intro before path after hsplit hbefore hpath
    rw [hfind, globalLayer_of_unreadable hsplit hbefore hpath]

/-- A file that is no text, and a configuration below the home directory. -/
def sampleTree : FileTree :=
  FileTree.place (.file [0xFF]) ["broken"]
    (FileTree.place (.file (Text.encodeUtf8 "theme = \x22light\x22".toList))
      ["home", ".config", "rdash", "config.toml"] .empty)

/-- What stands at the paths of the tree. -/
def sampleFiles : Files := fun path => FileTree.stateOf (sampleTree.find? "/" path)

/-- The environment that names the file that is no text, and the home directory. -/
def sampleEnvironment : Environment := fun name =>
  if name = "RDASH_CONFIG" then some "/broken" else if name = "HOME" then some "/home" else none

/-- **Behind a candidate that cannot be read the search finds nothing**, though there is a configuration, and no notice says
    so. -/
theorem not_found_behind_unreadable :
    used? sampleFiles (candidates sampleEnvironment) = some "/home/.config/rdash/config.toml" ∧
      layerAt? sampleFiles "/home/.config/rdash/config.toml" = some { theme := some "light" } ∧
      find {} sampleEnvironment sampleFiles "/work" = ({ theme := "dark" }, []) ∧
      ∀ complaint, ¬ ∃ global, Searches complaint sampleFiles (candidates sampleEnvironment) global ∧
        find {} sampleEnvironment sampleFiles "/work" =
          foundWith {} sampleEnvironment complaint sampleFiles "/work" global := by
  have hused : used? sampleFiles (candidates sampleEnvironment) = some "/home/.config/rdash/config.toml" := by
    decide +kernel
  have hlayer : layerAt? sampleFiles "/home/.config/rdash/config.toml" = some { theme := some "light" } := by
    decide +kernel
  have hfind : find {} sampleEnvironment sampleFiles "/work" = ({ theme := "dark" }, []) := by decide +kernel
  have hproject : ∀ complaint, projectLayer complaint sampleFiles (projectPath "/work") = ({}, []) := by
    have hmissing : sampleFiles (projectPath "/work") = .missing := by decide +kernel
    intro complaint
    unfold projectLayer
    rw [hmissing]
  refine ⟨hused, hlayer, hfind, ?_⟩
  rintro complaint ⟨global, hsearches, hfound⟩
  have hlight : global.1 = { theme := some "light" } := by
    rw [hsearches.layer, hused, Option.bind_some, hlayer, Option.getD_some]
  have htheme : (foundWith {} sampleEnvironment complaint sampleFiles "/work" global).1.theme = "light" := by
    unfold foundWith
    rw [hproject, hlight]
    show (merge {} sampleEnvironment {} { theme := some "light" }).1.theme = "light"
    decide +kernel
  rw [← hfound, hfind] at htheme
  exact absurd htheme (by decide)

end Settings

end DeployBoard
