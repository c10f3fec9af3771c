import DeployBoard.Text.Blank
import DeployBoard.Text.Lowercase

/-!
# `Proofs.Text.Lowercase` — lower case is lower already

Lower case is taken of names, of tags and of what is typed, and of some texts twice. The second time it changes
nothing (`lowercase_lowercase`), and it neither makes white space nor takes any away (`isBlankText_lowercase`).

Both are facts of single characters: every character that the mapping writes is **settled**, it is its own small
letter and no sigma. Outside ASCII this is read off the table: no small letter of a run is a capital of another
(`lowercaseRuns_miss`), and the capitals and small letters of every run are letters (`lowercaseRuns_letters`).
-/

namespace DeployBoard.Text

/-! ## The table -/

/-- The first small letter of a run. -/
def CaseRun.firstSmall (run : CaseRun) : Nat := (run.first + run.offset).toNat

/-- The last small letter of a run. -/
def CaseRun.lastSmall (run : CaseRun) : Nat := (run.last + run.offset).toNat

/-- No small letter of `a` is a capital of `b`: the two stretches are apart, or in both every second code point counts,
    and never the same one. -/
def CaseRun.misses (a b : CaseRun) : Bool :=
  a.lastSmall.blt b.first || b.last.blt a.firstSmall ||
    (a.first == a.last || a.step == 2) && b.step == 2 && (a.firstSmall + b.first) % 2 == 1

/-- The code points from `low` to `high` hold no white space. -/
def noBlank (low high : Nat) : Bool := whiteSpace.all fun r => high.blt r.1 || r.2.blt low

/-- **A run of letters**: its small letters are characters and no capitals of ASCII, the dotted capital I is not among
    them, and there is no white space among the letters of either case. -/
def CaseRun.letters (run : CaseRun) : Bool :=
  (run.lastSmall.blt 0xD800 || Nat.blt 0xDFFF run.firstSmall && run.lastSmall.blt 0x110000) &&
    Nat.blt 90 run.firstSmall && (run.lastSmall.blt 0x130 || Nat.blt 0x130 run.firstSmall) &&
    noBlank run.first run.last && noBlank run.firstSmall run.lastSmall

theorem lowercaseRuns_miss : lowercaseRuns.all (fun a => lowercaseRuns.all a.misses) = true := by decide +kernel

theorem lowercaseRuns_letters : lowercaseRuns.all CaseRun.letters = true := by decide +kernel

variable {run other : CaseRun} {n m : Nat}

theorem CaseRun.lower?_eq_some_iff :
    run.lower? n = some m ↔
      (run.first ≤ n ∧ n ≤ run.last ∧ (n - run.first) % run.step = 0) ∧ ((n : Int) + run.offset).toNat = m := by
  unfold lower?
  split
  · rename_i hin
    simp [hin]
  · rename_i hout
    simp [hout]

/-- A small letter lies between the first and the last of its run. -/
theorem CaseRun.small_bounds (h : run.lower? n = some m) : run.firstSmall ≤ m ∧ m ≤ run.lastSmall := by
  obtain ⟨⟨hfirst, hlast, _⟩, hm⟩ := lower?_eq_some_iff.mp h
  unfold firstSmall lastSmall
  omega

theorem CaseRun.lower?_of_misses (hmiss : run.misses other = true) (hpos : 0 < run.firstSmall)
    (h : run.lower? n = some m) : other.lower? m = none := by
  have hbounds := small_bounds h
  obtain ⟨⟨hfirst, hlast, hstep⟩, hm⟩ := lower?_eq_some_iff.mp h
  rw [Option.eq_none_iff_forall_ne_some]
  intro k hk
  obtain ⟨⟨hfirst', hlast', hstep'⟩, _⟩ := lower?_eq_some_iff.mp hk
  unfold misses at hmiss
  simp only [Bool.or_eq_true, Bool.and_eq_true, Nat.blt_eq, beq_iff_eq] at hmiss
  rcases hmiss with (hbelow | habove) | ⟨⟨hspaced, hother⟩, hodd⟩
  · omega
  · omega
  · -- The distance of `m` to the first capital of `other` is odd.
    rw [hother] at hstep'
    have heven : (n - run.first) % 2 = 0 := by
      rcases hspaced with hone | htwo
      · omega
      · rwa [htwo] at hstep
    unfold firstSmall at hodd hpos
    omega

/-- What `noBlank` rules out. -/
theorem isBlank_of_noBlank {low high : Nat} (h : noBlank low high = true) {c : Char} (hlow : low ≤ c.toNat)
    (hhigh : c.toNat ≤ high) : isBlank c = false := by
  rw [Bool.eq_false_iff]
  intro hblank
  obtain ⟨r, hr, hfirst, hlast⟩ := CodeRanges.has_iff.mp hblank
  have hapart := List.all_eq_true.mp h r hr
  simp only [Bool.or_eq_true, Nat.blt_eq] at hapart
  omega

theorem toNat_ofNat (h : m.isValidChar) : (Char.ofNat m).toNat = m := by
  unfold Char.ofNat
  rw [dif_pos h]
  rfl

/-! ## Settled characters -/

/-- **A character that lower case leaves as it is**, wherever it stands. -/
def Settled (c : Char) : Prop := lowercaseChar c = [c] ∧ c ≠ capitalSigma

instance (c : Char) : Decidable (Settled c) := inferInstanceAs (Decidable (_ ∧ _))

/-- Outside ASCII a character that is no capital of any run is settled. -/
theorem settled_of_no_capital {c : Char} (hlarge : ¬ c.toNat < 128)
    (hnone : lowercaseRuns.findSome? (·.lower? c.toNat) = none) (hdotted : c ≠ '\u0130') : Settled c := by
  constructor
  · unfold lowercaseChar simpleLower
    rw [if_neg hdotted, if_neg hlarge, hnone]
  · intro hsigma
    rw [hsigma] at hnone
    exact absurd hnone (by decide +kernel)

/-- ASCII characters behind the capitals are settled. -/
theorem settled_ascii : ∀ m < 128, 90 < m → Settled (Char.ofNat m) := by decide +kernel

/-- **The small letters of the table are settled**, and no letter of it is white space. -/
theorem settled_small {c : Char} (hrun : run ∈ lowercaseRuns) (h : run.lower? c.toNat = some m) :
    Settled (Char.ofNat m) ∧ isBlank (Char.ofNat m) = false ∧ isBlank c = false := by
  have hletters := List.all_eq_true.mp lowercaseRuns_letters run hrun
  unfold CaseRun.letters at hletters
  simp only [Bool.and_eq_true, Bool.or_eq_true, Nat.blt_eq] at hletters
  obtain ⟨⟨⟨⟨hvalid, hascii⟩, hdotted⟩, hcapitals⟩, hsmalls⟩ := hletters
  have hbounds := CaseRun.small_bounds h
  have hin := (CaseRun.lower?_eq_some_iff.mp h).1
  have hcode : (Char.ofNat m).toNat = m := by
    apply toNat_ofNat
    unfold Nat.isValidChar
    omega
  refine ⟨?_, ?_, isBlank_of_noBlank hcapitals hin.1 hin.2.1⟩
  · by_cases hsmall : m < 128
    · exact settled_ascii m hsmall (by omega)
    · apply settled_of_no_capital
      · rwa [hcode]
      · rw [hcode, List.findSome?_eq_none_iff]
        intro other hother
        have hmiss := List.all_eq_true.mp (List.all_eq_true.mp lowercaseRuns_miss run hrun) other hother
        exact CaseRun.lower?_of_misses hmiss (by omega) h
      · intro heq
        rw [heq] at hcode
        have : ('\u0130').toNat = 0x130 := rfl
        omega
  · apply isBlank_of_noBlank hsmalls
    · rw [hcode]; exact hbounds.1
    · rw [hcode]; exact hbounds.2

/-- In ASCII the small letter is settled, and white space if the character is. -/
theorem simpleLower_ascii : ∀ n < 128, Settled (simpleLower (Char.ofNat n)) ∧
    isBlank (simpleLower (Char.ofNat n)) = isBlank (Char.ofNat n) := by decide +kernel

/-- **The small letter of a character is settled**, and white space just if the character is. -/
theorem settled_simpleLower {c : Char} (hdotted : c ≠ '\u0130') :
    Settled (simpleLower c) ∧ isBlank (simpleLower c) = isBlank c := by
  by_cases hsmall : c.toNat < 128
  · have h := simpleLower_ascii c.toNat hsmall
    rwa [Char.ofNat_toNat] at h
  · cases hfind : lowercaseRuns.findSome? (·.lower? c.toNat) with
    | none =>
        have hsame : simpleLower c = c := by
          unfold simpleLower
          rw [if_neg hsmall, hfind]
        rw [hsame]
        exact ⟨settled_of_no_capital hsmall hfind hdotted, rfl⟩
    | some m =>
        obtain ⟨run, hrun, hlower⟩ := List.exists_of_findSome?_eq_some hfind
        have hletter : simpleLower c = Char.ofNat m := by
          unfold simpleLower
          rw [if_neg hsmall, hfind]
        obtain ⟨hsettled, hblank, hcapital⟩ := settled_small hrun hlower
        rw [hletter, hblank, hcapital]
        exact ⟨hsettled, rfl⟩

/-- **Every character that lower case writes is settled**, and white space just if what it is written for is. -/
theorem settled_of_mem_lowercaseBetween {before after : List Char} {c d : Char}
    (h : d ∈ lowercaseBetween before c after) : Settled d ∧ isBlank d = isBlank c := by
  unfold lowercaseBetween at h
  split at h
  · rename_i hsigma
    subst hsigma
    rw [List.mem_singleton] at h
    subst h
    split <;> decide +kernel
  · unfold lowercaseChar at h
    split at h
    · rename_i hdotted
      subst hdotted
      simp only [List.mem_cons, List.not_mem_nil, or_false] at h
      rcases h with rfl | rfl <;> decide +kernel
    · rename_i hdotted
      rw [List.mem_singleton] at h
      subst h
      exact settled_simpleLower hdotted

/-! ## Whole texts -/

theorem settled_of_mem_lowercaseFrom {before cs : List Char} {d : Char} (h : d ∈ lowercaseFrom before cs) :
    Settled d := by
  induction cs generalizing before with
  | nil => exact absurd h List.not_mem_nil
  | cons c cs ih =>
      rw [lowercaseFrom_cons, List.mem_append] at h
      rcases h with hfirst | hrest
      · exact (settled_of_mem_lowercaseBetween hfirst).1
      · exact ih hrest

/-- A text of settled characters is its own lower case. -/
theorem lowercaseFrom_of_settled {before cs : List Char} (h : ∀ c ∈ cs, Settled c) : lowercaseFrom before cs = cs := by
  induction cs generalizing before with
  | nil => rfl
  | cons c cs ih =>
      obtain ⟨hchar, hsigma⟩ := h c List.mem_cons_self
      have hrest : ∀ d ∈ cs, Settled d := fun d hd => h d (List.mem_cons_of_mem c hd)
      rw [lowercaseFrom_cons, lowercaseBetween, if_neg hsigma, hchar, ih hrest]
      rfl

/-- **Lower case taken twice is lower case.** -/
@[simp] theorem lowercase_lowercase (s : String) : lowercase (lowercase s) = lowercase s := by
  have hsettled : ∀ c ∈ (lowercase s).toList, Settled c := by
    intro c hc
    rw [toList_lowercase] at hc
    exact settled_of_mem_lowercaseFrom hc
  have hsame : lowercaseChars (lowercase s).toList = (lowercase s).toList := lowercaseFrom_of_settled hsettled
  rw [lowercase, hsame, String.ofList_toList]

theorem all_isBlank_lowercaseFrom (before cs : List Char) :
    (lowercaseFrom before cs).all isBlank = cs.all isBlank := by
  induction cs generalizing before with
  | nil => rfl
  | cons c cs ih =>
      have hfirst : (lowercaseBetween before c cs).all isBlank = isBlank c := by
        rw [Bool.eq_iff_iff, List.all_eq_true]
        constructor
        · intro hall
          obtain ⟨d, hd⟩ := List.exists_mem_of_ne_nil _ (lowercaseBetween_ne_nil before c cs)
          rw [← (settled_of_mem_lowercaseBetween hd).2]
          exact hall d hd
        · intro hblank d hd
          rw [(settled_of_mem_lowercaseBetween hd).2]
          exact hblank
      rw [lowercaseFrom_cons, List.all_append, hfirst, ih, List.all_cons]

/-- **Lower case neither makes a text blank nor fills a blank one.** -/
@[simp] theorem isBlankText_lowercase (s : String) : isBlankText (lowercase s) = isBlankText s := by
  unfold isBlankText
  rw [toList_lowercase]
  exact all_isBlank_lowercaseFrom [] s.toList

end DeployBoard.Text
