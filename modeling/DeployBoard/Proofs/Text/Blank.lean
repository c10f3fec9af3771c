import DeployBoard.Text.Blank
import Mathlib.Data.List.TakeWhile

/-!
# `Proofs.Text.Blank` — white space around texts and between words

Trimming takes white space away and nothing else, so a text is blank just if nothing is left of it
(`trim_eq_empty_iff`). It leaves none at the ends (`trimmed_trimChars`), and a text without any there is left as it is.
Words written one after the other, with a space between them, are read back as they are (`words_intercalate`).
-/

namespace DeployBoard.Text

variable {cs : List Char} {s : String}

/-! ## Trimming -/

/-- A text checked for white space, character by character. -/
theorem no_blank_of_all (h : s.toList.all (!isBlank ·) = true) : ∀ c ∈ s.toList, isBlank c = false := by
  intro c hc
  have hchecked := List.all_eq_true.mp h c hc
  rwa [Bool.not_eq_true'] at hchecked

/-- **No white space at either end.** -/
def Trimmed (cs : List Char) : Prop :=
  (∀ c ∈ cs.head?, isBlank c = false) ∧ ∀ c ∈ cs.getLast?, isBlank c = false

/-- What is left from the front does not begin with white space. -/
theorem isBlank_of_head?_dropWhile {c : Char} (hc : c ∈ (cs.dropWhile isBlank).head?) : isBlank c = false := by
  have hfirst := List.head?_dropWhile_not isBlank cs
  rw [Option.mem_def.mp hc] at hfirst
  exact hfirst

theorem dropWhile_isBlank_of_head? (h : ∀ c ∈ cs.head?, isBlank c = false) : cs.dropWhile isBlank = cs := by
  cases cs with
  | nil => rfl
  | cons c cs => exact List.dropWhile_cons_of_neg (Bool.eq_false_iff.mp (h c rfl))

/-- What is trimmed at the end comes behind what is left. -/
theorem trimChars_append_blank (cs : List Char) :
    trimChars cs ++ ((trimStart cs).reverse.takeWhile isBlank).reverse = trimStart cs := by
  unfold trimChars trimEnd
  rw [← List.reverse_append, List.takeWhile_append_dropWhile, List.reverse_reverse]

/-- A trimmed text is not trimmed further. -/
theorem trimChars_of_trimmed (h : Trimmed cs) : trimChars cs = cs := by
  have hreverse : ∀ c ∈ cs.reverse.head?, isBlank c = false := by
    rw [List.head?_reverse]
    exact h.2
  unfold trimChars trimEnd trimStart
  rw [dropWhile_isBlank_of_head? h.1, dropWhile_isBlank_of_head? hreverse, List.reverse_reverse]

/-- **Trimming leaves no white space at the ends.** -/
theorem trimmed_trimChars (cs : List Char) : Trimmed (trimChars cs) := by
  constructor
  · -- What is left begins as it did before the end was trimmed.
    intro c hc
    have hstart : c ∈ (trimStart cs).head? := by
      rw [← trimChars_append_blank, List.head?_append, Option.mem_def, Option.mem_def.mp hc]
      rfl
    exact isBlank_of_head?_dropWhile hstart
  · intro c hc
    unfold trimChars trimEnd at hc
    rw [List.getLast?_reverse] at hc
    exact isBlank_of_head?_dropWhile hc

/-- A text without white space is not trimmed. -/
theorem trim_of_no_blank (h : ∀ c ∈ s.toList, isBlank c = false) : trim s = s := by
  have htrimmed : Trimmed s.toList :=
    ⟨fun c hc => h c (List.mem_of_head? hc), fun c hc => h c (List.mem_of_getLast? hc)⟩
  unfold trim
  rw [trimChars_of_trimmed htrimmed, String.ofList_toList]

/-- What is dropped at the start is white space. -/
theorem all_isBlank_dropWhile (cs : List Char) : (cs.dropWhile isBlank).all isBlank = cs.all isBlank := by
  have hsplit := congrArg (List.all · isBlank) (List.takeWhile_append_dropWhile (p := isBlank) (l := cs))
  simp only [List.all_append, List.all_takeWhile, Bool.true_and] at hsplit
  exact hsplit

/-- **Trimming takes white space away and nothing else**: what it leaves stands between two pieces of white space. -/
theorem trimChars_split (cs : List Char) :
    ∃ lead trail, cs = lead ++ trimChars cs ++ trail ∧ (∀ c ∈ lead, isBlank c = true) ∧
      ∀ c ∈ trail, isBlank c = true := by
  refine ⟨cs.takeWhile isBlank, ((trimStart cs).reverse.takeWhile isBlank).reverse, ?_, ?_, ?_⟩
  · rw [List.append_assoc, trimChars_append_blank]
    exact List.takeWhile_append_dropWhile.symm
  · intro c hc
    exact List.mem_takeWhile_imp hc
  · intro c hc
    exact List.mem_takeWhile_imp (List.mem_reverse.mp hc)

/-- **Trimming neither makes a text blank nor fills a blank one.** -/
@[simp] theorem isBlankText_trim (s : String) : isBlankText (trim s) = isBlankText s := by
  unfold isBlankText
  rw [toList_trim, trimChars, trimEnd, List.all_reverse, all_isBlank_dropWhile, List.all_reverse, trimStart,
    all_isBlank_dropWhile]

/-- **Nothing is left of a blank text**, and of blank texts only. -/
theorem trim_eq_empty_iff : trim s = "" ↔ isBlankText s = true := by
  constructor
  · intro hempty
    rw [← isBlankText_trim, hempty]
    rfl
  · intro hblank
    have hstart : trimStart s.toList = [] := trimStart_eq_nil_iff.mpr (List.all_eq_true.mp hblank)
    unfold trim trimChars
    rw [hstart]
    rfl

/-! ## Words -/

/-- Characters that are no white space go to the word being read. -/
theorem splitWords_append (h : ∀ c ∈ cs, isBlank c = false) (word rest : List Char) :
    splitWords word (cs ++ rest) = splitWords (cs.reverse ++ word) rest := by
  induction cs generalizing word with
  | nil => rfl
  | cons c cs ih =>
      have hfirst : isBlank c = false := h c List.mem_cons_self
      have hrest : ∀ d ∈ cs, isBlank d = false := fun d hd => h d (List.mem_cons_of_mem c hd)
      rw [List.cons_append, splitWords, hfirst, if_neg Bool.false_ne_true, ih hrest]
      rw [List.reverse_cons, List.append_assoc, List.singleton_append]

/-- **Words with a space between them are read back.** -/
theorem splitWords_intercalate {ws : List (List Char)} (h : ∀ w ∈ ws, w ≠ [] ∧ ∀ c ∈ w, isBlank c = false) :
    splitWords [] ([' '].intercalate ws) = ws := by
  induction ws with
  | nil => rfl
  | cons w ws ih =>
      obtain ⟨hne, hword⟩ := h w List.mem_cons_self
      have hfull : w.reverse.isEmpty = false := List.isEmpty_eq_false_iff.mpr (List.reverse_ne_nil_iff.mpr hne)
      cases ws with
      | nil =>
          -- The last word ends with the line, and no space follows it.
          have hread := splitWords_append hword [] []
          rw [List.append_nil, List.append_nil] at hread
          rw [List.intercalate_singleton, hread, splitWords, hfull, if_neg Bool.false_ne_true, List.reverse_reverse]
      | cons v ws =>
          have hspace : isBlank ' ' = true := by decide
          rw [List.intercalate_cons_cons, List.append_assoc, splitWords_append hword, List.append_nil,
            List.singleton_append, splitWords, if_pos hspace, hfull, if_neg Bool.false_ne_true, List.reverse_reverse,
            ih fun u hu => h u (List.mem_cons_of_mem w hu)]

theorem words_intercalate {ws : List String} (h : ∀ w ∈ ws, w ≠ "" ∧ ∀ c ∈ w.toList, isBlank c = false) :
    words (" ".intercalate ws) = ws := by
  have hspace : (" ".intercalate ws).toList = [' '].intercalate (ws.map String.toList) := String.toList_intercalate
  unfold words
  rw [hspace, splitWords_intercalate, List.map_map]
  · simp
  · intro w hw
    obtain ⟨v, hv, rfl⟩ := List.mem_map.mp hw
    obtain ⟨hne, hword⟩ := h v hv
    exact ⟨fun hnil => hne (String.toList_eq_nil_iff.mp hnil), hword⟩

end DeployBoard.Text
