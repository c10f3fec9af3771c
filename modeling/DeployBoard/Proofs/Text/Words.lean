import DeployBoard.Proofs.Text.Blank

/-!
# `Proofs.Text.Words` — which words a line has

A word is some text without white space. A line has certain words when it is made of them, in their order, with white space
before, after and between them; a word goes on until there is white space or the line ends (`HasWords`). Cutting a line gives
words that it has, and a line has no others, so `words` is the relation as a function (`words_eq_iff`).
-/

namespace DeployBoard.Text

/-- **A word**: some text, and no white space. -/
def IsWord (w : String) : Prop := w ≠ "" ∧ ∀ c ∈ w.toList, isBlank c = false

/-- **The characters are these words**, with white space around them. -/
inductive HasWords : List Char → List String → Prop where
  | none : HasWords [] []
  | blank {c : Char} {cs : List Char} {ws : List String} (hblank : isBlank c = true) (h : HasWords cs ws) :
      HasWords (c :: cs) ws
  | word {w : String} {cs : List Char} {ws : List String} (hword : IsWord w) (hend : ∀ c ∈ cs.head?, isBlank c = true)
      (h : HasWords cs ws) : HasWords (w.toList ++ cs) (w :: ws)

variable {word cs : List Char} {ws : List String} {s : String}

/-- A text checked for being a word. -/
theorem isWord_of_check (h : (s ≠ "" && s.toList.all (!isBlank ·)) = true) : IsWord s := by
  rw [Bool.and_eq_true, decide_eq_true_eq] at h
  exact ⟨h.1, no_blank_of_all h.2⟩

theorem HasWords.isWord (h : HasWords cs ws) : ∀ w ∈ ws, IsWord w := by
  induction h with
  | none => exact fun w hw => absurd hw List.not_mem_nil
  | blank _ _ ih => exact ih
  | word hword _ _ ih => exact List.forall_mem_cons.mpr ⟨hword, ih⟩

/-! ## How a line is cut -/

/-- White space between words is passed over. -/
theorem splitWords_blank {c : Char} (h : isBlank c = true) (cs : List Char) :
    splitWords [] (c :: cs) = splitWords [] cs := by
  rw [splitWords, if_pos h]
  rfl

/-- A word ends where there is white space, and at the end of the line. -/
theorem splitWords_end (hword : word ≠ []) (hend : ∀ c ∈ cs.head?, isBlank c = true) :
    splitWords word cs = word.reverse :: splitWords [] cs := by
  have hfull : word.isEmpty = false := List.isEmpty_eq_false_iff.mpr hword
  cases cs with
  | nil =>
      rw [splitWords, hfull]
      rfl
  | cons c cs =>
      have hblank : isBlank c = true := hend c rfl
      rw [splitWords_blank hblank, splitWords, if_pos hblank, hfull]
      rfl

/-- **A line is cut into the words that it has.** -/
theorem HasWords.splitWords_eq (h : HasWords cs ws) : splitWords [] cs = ws.map String.toList := by
  induction h with
  | none => rfl
  | blank hblank _ ih => rw [splitWords_blank hblank, ih]
  | @word w cs ws hword hend _ ih =>
      have hne : w.toList ≠ [] := fun hnil => hword.1 (String.toList_eq_nil_iff.mp hnil)
      rw [splitWords_append hword.2, List.append_nil, splitWords_end (List.reverse_ne_nil_iff.mpr hne) hend,
        List.reverse_reverse, ih, List.map_cons]

/-- What has been read of a word is the rest of a word, and its end is where the reading of it ends. -/
theorem HasWords.reversed (hne : word ≠ []) (hword : ∀ c ∈ word, isBlank c = false)
    (hend : ∀ c ∈ cs.head?, isBlank c = true) (h : HasWords cs ws) :
    HasWords (word.reverse ++ cs) (String.ofList word.reverse :: ws) := by
  have hfull : IsWord (String.ofList word.reverse) := by
    refine ⟨?_, ?_⟩
    · intro hempty
      exact hne (List.reverse_eq_nil_iff.mp (String.ofList_eq_empty_iff.mp hempty))
    · intro c hc
      rw [String.toList_ofList] at hc
      exact hword c (List.mem_reverse.mp hc)
  have hwords := HasWords.word hfull hend h
  rwa [String.toList_ofList] at hwords

/-- **A line has the words that it is cut into**, where `word` has been read, from its end, of the first. -/
theorem hasWords_splitWords (hword : ∀ c ∈ word, isBlank c = false) (cs : List Char) :
    HasWords (word.reverse ++ cs) ((splitWords word cs).map String.ofList) := by
  induction cs generalizing word with
  | nil =>
      by_cases hempty : word = []
      · subst hempty
        exact .none
      · rw [splitWords_end hempty (fun c hc => by cases hc)]
        exact .reversed hempty hword (fun c hc => by cases hc) .none
  | cons c cs ih =>
      cases hblank : isBlank c with
      | true =>
          -- White space ends the word, if one is being read, and is passed over.
          have hrest : HasWords (c :: cs) ((splitWords [] (c :: cs)).map String.ofList) := by
            rw [splitWords_blank hblank]
            exact .blank hblank (ih fun d hd => absurd hd List.not_mem_nil)
          by_cases hempty : word = []
          · subst hempty
            exact hrest
          · have hend : ∀ d ∈ (c :: cs).head?, isBlank d = true := by
              intro d hd
              obtain rfl : c = d := Option.some.inj hd
              exact hblank
            rw [splitWords_end hempty hend]
            exact .reversed hempty hword hend hrest
      | false =>
          have hlonger : ∀ d ∈ c :: word, isBlank d = false := List.forall_mem_cons.mpr ⟨hblank, hword⟩
          have hrest := ih hlonger
          rw [List.reverse_cons, List.append_assoc, List.singleton_append] at hrest
          rw [splitWords, hblank, if_neg Bool.false_ne_true]
          exact hrest

/-- **The words of a line** are the words that it has. -/
theorem words_eq_iff : words s = ws ↔ HasWords s.toList ws := by
  constructor
  · intro hcut
    have hwords := hasWords_splitWords (fun c hc => absurd hc List.not_mem_nil) s.toList
    exact hcut ▸ hwords
  · intro h
    unfold words
    rw [h.splitWords_eq, List.map_map]
    simp

/-- What a line is cut into are words. -/
theorem isWord_of_mem_words {w : String} (h : w ∈ words s) : IsWord w :=
  (words_eq_iff.mp rfl).isWord w h

end DeployBoard.Text
