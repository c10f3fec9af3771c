import DeployBoard.Proofs.Dashboard.Ledger
import Mathlib.Data.List.Induction

/-!
# `Proofs.Dashboard.Numbers` — commands by their numbers

The begin of a command answers with a number, and its end is reported under it. Ends come in any order, some come twice,
and some under numbers that were never given out; polls may have replaced the index in between.

Numbers are given out in order from zero (`numbers_run`), so no two commands have the same. A command is **outstanding**
while its end has not been reported since its begin. The commands under way are just those (`entered_run`), from which
`commands_by_number` tells what every begin and every end answers.
-/

namespace DeployBoard
namespace Dashboard

/-- The operation begins a command, or tries to. -/
def Operation.begins : Operation → Bool
  | .begin _ => true
  | _ => false

/-- The number that an operation gives out, if it begins a command. -/
def number? (s : Dashboard) : Operation → Option Nat
  | .begin c => (s.beginCommand c).2
  | _ => none

/-- **The numbers given out in a run**, in the order of the run. -/
def numbers : Dashboard → List Operation → List Nat
  | _, [] => []
  | s, op :: ops => (s.number? op).toList ++ (s.step op).numbers ops

/-- **The command `c` was begun under `id`**, and no end has been reported under `id` since. -/
def Outstanding (s : Dashboard) (id : Nat) (c : Command) : List Operation → Prop :=
  Since (fun before op => op = .begin c ∧ ((s.run before).beginCommand c).2 = some id)
    fun op => ∀ error, op ≠ .finish id error

/-- The command `c` is under way under `id`. -/
def Entered (s : Dashboard) (id : Nat) (c : Command) : Prop := ∃ p ∈ s.pending, p.id = id ∧ p.command = c

variable {s t : Dashboard} {op : Operation} {id : Nat} {c : Command}

/-! ## What begins and ends answer -/

/-- **A begin answers the next number**, if the repository is in the index. -/
theorem beginCommand_answer (s : Dashboard) (c : Command) :
    (s.beginCommand c).2 = if s.index.contains c.repo then some s.nextId else none := by
  unfold beginCommand Catalog.contains
  cases s.index.get? c.repo with
  | none => rfl
  | some previous => rfl

/-- Without its repository a command does nothing. -/
theorem beginCommand_of_unknown (h : s.index.contains c.repo = false) : s.beginCommand c = (s, none) := by
  unfold beginCommand
  rw [Catalog.contains_eq_false_iff.mp h]

/-- **An end answers the command under its number**, if there is one. -/
theorem finishCommand_answer (s : Dashboard) (id : Nat) (error : Option ClientError) :
    (s.finishCommand id error).2 = (s.pending.find? (·.id = id)).map (·.command) := by
  unfold finishCommand
  cases s.pending.find? (·.id = id) with
  | none => rfl
  | some p => cases error <;> rfl

theorem finishCommand_of_unknown (h : s.pending.find? (·.id = id) = none) (error : Option ClientError) :
    s.finishCommand id error = (s, none) := by
  unfold finishCommand
  rw [h]

theorem find_eq_none_of_not_entered (h : ∀ c, ¬ Entered s id c) : s.pending.find? (·.id = id) = none := by
  rw [List.find?_eq_none]
  intro p hp hid
  exact h p.command ⟨p, hp, of_decide_eq_true hid, rfl⟩

theorem Numbered.finish_eq_some_iff (hs : Numbered s) (error : Option ClientError) :
    (s.finishCommand id error).2 = some c ↔ Entered s id c := by
  rw [finishCommand_answer, Option.map_eq_some_iff]
  constructor
  · rintro ⟨p, hfind, hcommand⟩
    obtain ⟨hp, hid⟩ := mem_of_find_id hfind
    exact ⟨p, hp, hid, hcommand⟩
  · rintro ⟨p, hp, rfl, hcommand⟩
    exact ⟨p, hs.find_id hp, hcommand⟩

theorem isPending_iff (s : Dashboard) (repo : String) :
    s.isPending repo = true ↔ ∃ id c, Entered s id c ∧ c.repo = repo := by
  unfold isPending
  rw [List.any_eq_true]
  constructor
  · rintro ⟨p, hp, hrepo⟩
    exact ⟨p.id, p.command, ⟨p, hp, rfl, rfl⟩, of_decide_eq_true hrepo⟩
  · rintro ⟨id, c, ⟨p, hp, _, rfl⟩, hrepo⟩
    exact ⟨p, hp, decide_eq_true hrepo⟩

/-- What a begin enters is the command under the next number. -/
theorem beginCommand_pending {previous : Record} (h : s.index.get? c.repo = some previous) :
    (s.beginCommand c).1.pending = s.pending ++ [⟨s.nextId, c, previous, c.action.apply previous⟩] := by
  unfold beginCommand
  rw [h]
  exact refilter_pending _

/-- An end takes out what is under its number, whatever becomes of the record. -/
theorem finishCommand_pending (s : Dashboard) (id : Nat) (error : Option ClientError) :
    (s.finishCommand id error).1.pending = s.pending.filter (·.id ≠ id) := by
  cases hfind : s.pending.find? (·.id = id) with
  | none =>
      rw [finishCommand_of_unknown hfind, eq_comm, List.filter_eq_self]
      exact fun p hp => decide_eq_true fun hid => List.find?_eq_none.mp hfind p hp (decide_eq_true hid)
  | some p =>
      -- What a failure puts back is in the index, not among the commands under way.
      unfold finishCommand revert
      rw [hfind]
      cases error with
      | none => rfl
      | some e =>
          simp only
          split
          · exact refilter_pending _
          · rfl

/-! ## The numbers -/

/-- Numbers go to the commands that are begun, and to nothing else. -/
theorem number?_eq (s : Dashboard) (op : Operation) :
    s.number? op = ((s.happening? op).bind Happening.begun?).map (·.id) := by
  cases op with
  | begin c =>
      cases hprevious : s.index.get? c.repo with
      | none => simp only [number?, happening?, beginCommand, hprevious, Option.map_none, Option.bind_none]
      | some previous =>
          simp only [number?, happening?, beginCommand, hprevious, Option.map_some, Option.bind_some,
            Happening.begun?]
  | finish id error =>
      cases hfind : s.pending.find? (·.id = id) with
      | none => simp only [number?, happening?, hfind, Option.map_none, Option.bind_none]
      | some p => cases error <;> simp [number?, happening?, hfind, Happening.begun?]
  | poll now event => cases event <;> rfl
  | setFreeText | addTerm | removeTerm | popTerm | clearQuery | moveCursor | cycleTag | selectTag | setTagInput => rfl

theorem begins_of_number? {n : Nat} (h : s.number? op = some n) : op.begins = true := by
  cases op with
  | begin => rfl
  | setFreeText | addTerm | removeTerm | popTerm | clearQuery | poll | moveCursor | cycleTag | selectTag | setTagInput
  | finish => cases h

/-- **An operation gives out the next number, or none.** -/
theorem number?_cases (s : Dashboard) (op : Operation) :
    s.number? op = none ∧ (s.step op).nextId = s.nextId ∨
      s.number? op = some s.nextId ∧ (s.step op).nextId = s.nextId + 1 := by
  have htransition := transition_step s op
  rw [number?_eq]
  generalize s.happening? op = what at htransition ⊢
  cases htransition with
  | quiet _ _ hnext => exact .inl ⟨rfl, hnext⟩
  | polled _ _ _ hnext => exact .inl ⟨rfl, hnext⟩
  | begun p hid _ _ _ _ hnext => exact .inr ⟨congrArg some hid, hnext⟩
  | accepted _ _ _ _ hnext => exact .inl ⟨rfl, hnext⟩
  | withdrawn _ _ _ _ _ hnext => exact .inl ⟨rfl, hnext⟩
  | overtaken _ _ _ _ _ _ _ hnext => exact .inl ⟨rfl, hnext⟩

theorem numbers_cons (s : Dashboard) (op : Operation) (ops : List Operation) :
    s.numbers (op :: ops) = (s.number? op).toList ++ (s.step op).numbers ops := rfl

/-- **Along a run the numbers are given out one after the other**, from the next one on. -/
theorem numbers_run (s : Dashboard) (ops : List Operation) :
    s.numbers ops = List.range' s.nextId (s.numbers ops).length ∧
      (s.run ops).nextId = s.nextId + (s.numbers ops).length := by
  -- The next number at the start of the rest is the one at the start, or one more if the first operation took it.
  induction ops generalizing s with
  | nil => exact ⟨rfl, rfl⟩
  | cons op ops ih =>
      obtain ⟨hrange, hlast⟩ := ih (s.step op)
      have hrun : s.run (op :: ops) = (s.step op).run ops := rfl
      rw [numbers_cons, hrun]
      rcases s.number?_cases op with ⟨hnone, hnext⟩ | ⟨hsome, hnext⟩
      · rw [hnone, Option.toList_none, List.nil_append]
        rw [hnext] at hrange hlast
        exact ⟨hrange, hlast⟩
      · rw [hsome, Option.toList_some, List.singleton_append, List.length_cons]
        rw [hnext] at hrange hlast
        refine ⟨?_, ?_⟩
        · rw [List.range'_succ, ← hrange]
        · omega

/-- No more numbers are given out than commands are begun. -/
theorem length_numbers_le (s : Dashboard) (ops : List Operation) : (s.numbers ops).length ≤ ops.countP (·.begins) := by
  induction ops generalizing s with
  | nil => exact Nat.le_refl 0
  | cons op ops ih =>
      have hrest := ih (s.step op)
      rw [numbers_cons, List.length_append, List.countP_cons]
      cases hnumber : s.number? op with
      | none =>
          rw [Option.toList_none, List.length_nil]
          omega
      | some n =>
          rw [Option.toList_some, List.length_singleton, if_pos (begins_of_number? hnumber)]
          omega

/-! ## The commands under way -/

/-- **A begin enters its command** under the number that it answers, and leaves what is entered. -/
theorem entered_begin_iff (s : Dashboard) (command : Command) :
    Entered (s.beginCommand command).1 id c ↔
      (command = c ∧ (s.beginCommand command).2 = some id) ∨ Entered s id c := by
  rw [beginCommand_answer]
  cases hprevious : s.index.get? command.repo with
  | none =>
      have hunknown : s.index.contains command.repo = false := Catalog.contains_eq_false_iff.mpr hprevious
      rw [beginCommand_of_unknown hunknown, hunknown, if_neg Bool.false_ne_true]
      simp
  | some previous =>
      have hknown : s.index.contains command.repo = true := Catalog.contains_of_get? hprevious
      unfold Entered
      rw [beginCommand_pending hprevious, if_pos hknown]
      simp only [List.mem_append, List.mem_singleton, or_and_right, exists_or, exists_eq_left, Option.some.injEq]
      rw [or_comm, and_comm]

/-- **An end takes its command out**, and no other. -/
theorem entered_finish_iff (s : Dashboard) (ended : Nat) (error : Option ClientError) :
    Entered (s.finishCommand ended error).1 id c ↔ ended ≠ id ∧ Entered s id c := by
  unfold Entered
  rw [finishCommand_pending]
  constructor
  · rintro ⟨p, hp, hid, hcommand⟩
    obtain ⟨hbefore, hother⟩ := List.mem_filter.mp hp
    exact ⟨fun h => of_decide_eq_true hother (hid.trans h.symm), p, hbefore, hid, hcommand⟩
  · rintro ⟨hother, p, hp, hid, hcommand⟩
    exact ⟨p, List.mem_filter.mpr ⟨hp, decide_eq_true fun h => hother (h.symm.trans hid)⟩, hid, hcommand⟩

/-- Only begins and ends are about the commands under way; a poll leaves them, whatever index it brings. -/
theorem step_pending_of_not_command (hbegin : ∀ command, op ≠ .begin command)
    (hfinish : ∀ id error, op ≠ .finish id error) : (s.step op).pending = s.pending := by
  cases op with
  | begin command => exact absurd rfl (hbegin command)
  | finish id error => exact absurd rfl (hfinish id error)
  | poll now event =>
      cases event with
      | updated index => exact refilter_pending _
      | failed error => rfl
  | setFreeText | addTerm | removeTerm | popTerm | clearQuery | moveCursor | cycleTag | selectTag | setTagInput =>
      exact (step_of_quiet rfl).2

/-- **One operation more**: a command is entered by its own begin, or it was before and this is not its end. -/
theorem entered_step_iff :
    Entered (s.step op) id c ↔
      (op = .begin c ∧ (s.beginCommand c).2 = some id) ∨ (∀ error, op ≠ .finish id error) ∧ Entered s id c := by
  by_cases hbegin : ∃ command, op = .begin command
  · obtain ⟨command, rfl⟩ := hbegin
    show Entered (s.beginCommand command).1 id c ↔ _
    rw [entered_begin_iff]
    constructor
    · rintro (⟨rfl, hid⟩ | h)
      · exact .inl ⟨rfl, hid⟩
      · exact .inr ⟨nofun, h⟩
    · rintro (⟨hsame, hid⟩ | ⟨_, h⟩)
      · cases hsame
        exact .inl ⟨rfl, hid⟩
      · exact .inr h
  by_cases hfinish : ∃ ended error, op = .finish ended error
  · obtain ⟨ended, error, rfl⟩ := hfinish
    show Entered (s.finishCommand ended error).1 id c ↔ _
    rw [entered_finish_iff]
    constructor
    · rintro ⟨hne, h⟩
      exact .inr ⟨fun _ hsame => by cases hsame; exact hne rfl, h⟩
    · rintro (⟨hsame, _⟩ | ⟨hother, h⟩)
      · cases hsame
      · exact ⟨fun hsame => hother error (by rw [hsame]), h⟩
  · have hpending : (s.step op).pending = s.pending :=
      step_pending_of_not_command (fun command h => hbegin ⟨command, h⟩) fun id error h => hfinish ⟨id, error, h⟩
    unfold Entered
    rw [hpending]
    constructor
    · exact fun h => .inr ⟨fun error hsame => hfinish ⟨id, error, hsame⟩, h⟩
    · rintro (⟨hsame, _⟩ | ⟨_, h⟩)
      · exact absurd ⟨c, hsame⟩ hbegin
      · exact h

/-- **After a run a command is under way just if it is outstanding.** -/
theorem entered_run (hidle : s.pending = []) (ops : List Operation) :
    Entered (s.run ops) id c ↔ Outstanding s id c ops := by
  -- By the last operation: what is outstanding after it is told by it and by what was outstanding before it.
  induction ops using List.reverseRecOn with
  | nil =>
      refine iff_of_false ?_ not_since_nil
      rintro ⟨p, hp, _⟩
      rw [run, List.foldl_nil, hidle] at hp
      exact absurd hp List.not_mem_nil
  | append_singleton ops op ih =>
      have hlast : s.run (ops ++ [op]) = (s.run ops).step op := run_append s ops [op]
      rw [hlast, entered_step_iff, ih, Outstanding, since_concat_iff]

/-- **The ledger of commands.** After any run from the start: the numbers given out are 0, 1, 2, … in the order of the
    run, no two the same, and no more than begins (so machine words hold them, for fewer than 2^64 begins). A begin on a
    repository outside the index answers nothing and changes nothing; any other answers the next number. An end
    answers the command that is outstanding under its number, and where there is none it answers nothing and
    changes nothing. A repository is busy just if a command on it is outstanding. -/
theorem commands_by_number (ops : List Operation) :
    ((numbers {} ops).Nodup ∧ numbers {} ops = List.range (run {} ops).nextId ∧
      (run {} ops).nextId ≤ ops.countP (·.begins)) ∧
    (∀ c, if (run {} ops).index.contains c.repo
      then ((run {} ops).beginCommand c).2 = some (run {} ops).nextId
      else (run {} ops).beginCommand c = (run {} ops, none)) ∧
    (∀ id error c, ((run {} ops).finishCommand id error).2 = some c ↔ Outstanding {} id c ops) ∧
    (∀ id error, (∀ c, ¬ Outstanding {} id c ops) → (run {} ops).finishCommand id error = (run {} ops, none)) ∧
    ∀ repo, (run {} ops).isPending repo = true ↔ ∃ id c, Outstanding {} id c ops ∧ c.repo = repo := by
  have hentered : ∀ id c, Entered (run {} ops) id c ↔ Outstanding {} id c ops := fun id c => entered_run rfl ops
  have hnumbered : Numbered (run {} ops) := (numbered_of_idle rfl).run ops
  obtain ⟨hrange, hnext⟩ := numbers_run {} ops
  have hlength : (run {} ops).nextId = (numbers {} ops).length := hnext.trans (Nat.zero_add _)
  have hnumbers : numbers {} ops = List.range (run {} ops).nextId := by
    rw [hlength, List.range_eq_range']
    exact hrange
  refine ⟨⟨?_, hnumbers, ?_⟩, ?_, ?_, ?_, ?_⟩
  · rw [hnumbers]
    exact List.nodup_range
  · rw [hlength]
    exact length_numbers_le {} ops
  · intro c
    cases hknown : (run {} ops).index.contains c.repo with
    | true => rw [if_pos rfl, beginCommand_answer, hknown, if_pos rfl]
    | false =>
        rw [if_neg Bool.false_ne_true]
        exact beginCommand_of_unknown hknown
  · intro id error c
    rw [hnumbered.finish_eq_some_iff, hentered]
  · intro id error hnone
    exact finishCommand_of_unknown (find_eq_none_of_not_entered fun c h => hnone c ((hentered id c).mp h)) error
  · intro repo
    rw [isPending_iff]
    simp only [hentered]

/-- Three begins, one of them on no repository; then a poll lists nothing any more, and the second command ends
    twice. -/
def sampleEnds : List Operation :=
  [.poll "12:00:00" (.updated (Catalog.ofList [("api", { tags := ["v1"] }), ("web", {})])),
   .begin ⟨"api", .deploy "v1"⟩, .begin ⟨"gone", .reset⟩, .begin ⟨"web", .reset⟩,
   .poll "12:00:05" (.updated ∅), .finish 1 none, .finish 1 (some .network)]

/-- The first command is still outstanding, so its repository is busy and its end is answered; the second is not any
    more. -/
theorem first_command_outstanding :
    numbers {} sampleEnds = [0, 1] ∧ (run {} sampleEnds).isPending "api" = true ∧
      ((run {} sampleEnds).finishCommand 0 (some .network)).2 = some ⟨"api", .deploy "v1"⟩ ∧
      (run {} sampleEnds).finishCommand 1 none = (run {} sampleEnds, none) := by
  obtain ⟨⟨_, hnumbers, _⟩, _, hend, hspent, hbusy⟩ := commands_by_number sampleEnds
  have hfirst : Outstanding {} 0 ⟨"api", .deploy "v1"⟩ sampleEnds :=
    ⟨sampleEnds.take 1, _, sampleEnds.drop 2, rfl, ⟨rfl, by decide⟩, by simp [sampleEnds]⟩
  have hsecond : ∀ c, ¬ Outstanding {} 1 c sampleEnds := by
    intro c h
    have hanswer := (hend 1 none c).mpr h
    rw [show ((run {} sampleEnds).finishCommand 1 none).2 = none by decide] at hanswer
    cases hanswer
  refine ⟨?_, (hbusy "api").mpr ⟨0, _, hfirst, rfl⟩, (hend 0 _ _).mpr hfirst, hspent 1 none hsecond⟩
  rw [hnumbers]
  decide

end Dashboard
end DeployBoard
