import DeployBoard.Proofs.Text.Blank
import DeployBoard.Proofs.Text.Lowercase
import DeployBoard.Proofs.Text.Parts
import DeployBoard.Text.Occurrence
import Mathlib.Data.List.Basic

/-!
# `Proofs.Text.Neighbours` — lower case and what stands around a text

Lower case looks at the neighbours of a capital sigma, and of those only at whether a letter is next on either side.
So the lower case of a text goes on as before when what stands around it is exchanged for something with the same
answer (`lowercaseFrom_congr`, `lowercaseFrom_append`).

White space is no letter, and case does not ignore it: next to it a text is written as if it stood alone. Hence the
lower case of a trimmed text is a part of that of the whole (`occurs_lowercase_trim`), and it is trimmed as well
(`trim_lowercase_trim`).

Lower case is settled for the letters of ASCII as well, so folding those once more changes nothing
(`toLower_lowercase`).
-/

namespace DeployBoard.Text

variable {before before' xs ys cs : List Char} {c : Char}

/-! ## Exchanging what stands around -/

/-- Of what precedes a text only the nearest letter matters. -/
theorem lowercaseFrom_congr (h : casedNext before = casedNext before') (cs : List Char) :
    lowercaseFrom before cs = lowercaseFrom before' cs := by
  rw [← lowercaseWithin_nil, ← lowercaseWithin_nil, lowercaseWithin_eq_iff]
  rintro u v -
  unfold endsWord
  rw [casedNext_append, casedNext_append _ before', h]

/-- A text is written as if it stood alone when no letter follows it. -/
theorem lowercaseFrom_append (h : casedNext ys = false) (before xs : List Char) :
    lowercaseFrom before (xs ++ ys) = lowercaseFrom before xs ++ lowercaseFrom (xs.reverse ++ before) ys := by
  have halone : lowercaseWithin before xs ys = lowercaseWithin before xs [] := by
    rw [lowercaseWithin_eq_iff]
    rintro u v -
    unfold endsWord
    rw [casedNext_append v, casedNext_append v, h]
    rfl
  rw [lowercaseFrom_parts, halone, lowercaseWithin_nil]

/-- Whatever precedes a text, its lower case comes last. -/
theorem lowercaseFrom_suffix (before xs ys : List Char) :
    lowercaseFrom (xs.reverse ++ before) ys <:+ lowercaseFrom before (xs ++ ys) := by
  rw [lowercaseFrom_parts]
  exact List.suffix_append _ _

/-! ## White space around a text -/

/-- There is no white space among the letters, nor among what case ignores. -/
theorem letters_noBlank :
    (cased.all fun r => noBlank r.1 r.2) = true ∧ (caseIgnorable.all fun r => noBlank r.1 r.2) = true := by
  decide +kernel

theorem isBlank_of_has {ranges : CodeRanges} (h : (ranges.all fun r => noBlank r.1 r.2) = true)
    (hc : ranges.has c = true) : isBlank c = false := by
  obtain ⟨r, hr, hlow, hhigh⟩ := CodeRanges.has_iff.mp hc
  exact isBlank_of_noBlank (List.all_eq_true.mp h r hr) hlow hhigh

/-- **In white space no letter is next.** -/
theorem casedNext_of_blank (h : ∀ c ∈ cs, isBlank c = true) : casedNext cs = false := by
  cases cs with
  | nil => rfl
  | cons c cs =>
      have hblank : isBlank c = true := h c List.mem_cons_self
      have hmisses : ∀ ranges : CodeRanges, (ranges.all fun r => noBlank r.1 r.2) = true →
          ranges.has c = false := by
        intro ranges hranges
        cases hhas : ranges.has c with
        | false => rfl
        | true =>
            rw [isBlank_of_has hranges hhas] at hblank
            cases hblank
      rw [casedNext_cons, hmisses _ letters_noBlank.2, if_neg Bool.false_ne_true, hmisses _ letters_noBlank.1]

/-- **The lower case of a trimmed text** is a part of the lower case of the text. -/
theorem occurs_lowercase_trim (s : String) : (lowercase (trim s)).toList <:+: (lowercase s).toList := by
  obtain ⟨lead, trail, hsplit, hlead, htrail⟩ := trimChars_split s.toList
  rw [toList_lowercase, toList_lowercase, toList_trim, lowercaseChars, lowercaseChars]
  generalize trimChars s.toList = middle at hsplit ⊢
  rw [hsplit, List.append_assoc]
  -- No letter is next before the middle, and none is next behind it.
  have hbefore : lowercaseFrom (lead.reverse ++ []) (middle ++ trail) = lowercaseFrom [] (middle ++ trail) := by
    refine lowercaseFrom_congr (casedNext_of_blank ?_) _
    intro c hc
    rw [List.append_nil] at hc
    exact hlead c (List.mem_reverse.mp hc)
  have hpart : lowercaseFrom [] middle <+: lowercaseFrom [] (middle ++ trail) := by
    rw [lowercaseFrom_append (casedNext_of_blank htrail)]
    exact List.prefix_append _ _
  have hlast := lowercaseFrom_suffix [] lead (middle ++ trail)
  rw [hbefore] at hlast
  exact hpart.isInfix.trans hlast.isInfix

/-- **Lower case puts no white space at the ends of a text.** -/
theorem trimmed_lowercaseFrom (h : Trimmed cs) (before : List Char) : Trimmed (lowercaseFrom before cs) := by
  constructor
  · cases cs with
    | nil => exact h.1
    | cons c rest =>
        intro d hd
        rw [lowercaseFrom_cons, List.head?_append_of_ne_nil _ (lowercaseBetween_ne_nil _ _ _)] at hd
        rw [(settled_of_mem_lowercaseBetween (List.mem_of_head? hd)).2]
        exact h.1 c rfl
  · rcases List.eq_nil_or_concat cs with rfl | ⟨front, c, rfl⟩
    · exact h.2
    · intro d hd
      rw [List.concat_eq_append] at h hd
      rw [lowercaseFrom_parts, lowercaseFrom_cons, lowercaseFrom_nil, List.append_nil,
        List.getLast?_append_of_ne_nil _ (lowercaseBetween_ne_nil _ _ _)] at hd
      rw [(settled_of_mem_lowercaseBetween (List.mem_of_getLast? hd)).2]
      exact h.2 c List.getLast?_concat

/-- **A trimmed text in lower case is trimmed.** -/
theorem trim_lowercase_trim (s : String) : trim (lowercase (trim s)) = lowercase (trim s) := by
  have htrimmed : Trimmed (lowercase (trim s)).toList := by
    rw [toList_lowercase, toList_trim]
    exact trimmed_lowercaseFrom (trimmed_trimChars s.toList) []
  rw [trim, trimChars_of_trimmed htrimmed, String.ofList_toList]

/-! ## The letters of ASCII -/

/-- A settled character is no capital of ASCII. -/
theorem toLower_of_settled (h : Settled c) : c.toLower = c := by
  obtain ⟨hchar, _⟩ := h
  by_cases hsmall : c.toNat < 128
  · have hdotted : c ≠ '\u0130' := by
      rintro rfl
      exact absurd hsmall (by decide)
    unfold lowercaseChar simpleLower at hchar
    rw [if_neg hdotted, if_pos hsmall] at hchar
    exact List.singleton_inj.mp hchar
  · unfold Char.toLower
    split
    · rename_i hletter
      have hbound : c.toNat ≤ 90 := hletter.2
      omega
    · rfl

/-- **Lower case holds no capital of ASCII.** -/
theorem toLower_lowercase (s : String) : (lowercase s).toLower = lowercase s := by
  have hsettled : ∀ c ∈ (lowercase s).toList, c.toLower = c := by
    intro c hc
    rw [toList_lowercase] at hc
    exact toLower_of_settled (settled_of_mem_lowercaseFrom hc)
  apply String.toList_inj.mp
  unfold String.toLower
  rw [String.toList_map, List.map_congr_left hsettled]
  exact List.map_id _

/-- Texts that agree but for the case of ASCII letters are the same when those are folded. -/
theorem equalIgnoringAsciiCase_iff {a b : String} : equalIgnoringAsciiCase a b = true ↔ a.toLower = b.toLower := by
  unfold equalIgnoringAsciiCase String.toLower
  rw [beq_iff_eq, ← String.toList_inj, String.toList_map, String.toList_map]

end DeployBoard.Text
