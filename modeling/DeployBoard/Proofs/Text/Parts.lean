import DeployBoard.Text.Lowercase
import Mathlib.Logic.Basic

/-!
# `Proofs.Text.Parts` — parts of a text in lower case

A part of a text need not be a part of it in lower case: its neighbours can decide whether a capital sigma in it is
written in the final form. `lowercaseWithin` is what becomes of a part where it stands. It depends on the neighbours by
the sigmas alone (`lowercaseWithin_eq_iff`), and of these at most the first and the last letter of the part can be
concerned.

A text is **steady** when no neighbours can change a sigma of it. Steady texts, and no others, stay a part of every text
that they are a part of (`lowercase_part_iff`). For the converse a letter is put next to the text. What it changes, it
changes in one direction, so the whole has too few sigmas of one form to hold the lower case of the text anywhere
(`lowercaseWithin_eq_or_count_lt`).
-/

namespace DeployBoard.Text

variable {before before' after after' cs : List Char} {c : Char} {P : List Char → List Char → Prop}

/-! ## Is a letter next? -/

theorem casedNext_cons (c : Char) (cs : List Char) :
    casedNext (c :: cs) = if caseIgnorable.has c then casedNext cs else cased.has c := by
  unfold casedNext
  by_cases hignored : caseIgnorable.has c = true
  · rw [List.dropWhile_cons_of_pos hignored, if_pos hignored]
  · rw [List.dropWhile_cons_of_neg hignored, if_neg hignored]

/-- What follows matters only where everything before it is ignored. -/
theorem casedNext_append (xs ys : List Char) :
    casedNext (xs ++ ys) = if xs.all caseIgnorable.has then casedNext ys else casedNext xs := by
  induction xs with
  | nil => rfl
  | cons x xs ih =>
      rw [List.cons_append, casedNext_cons, casedNext_cons, ih, List.all_cons]
      cases caseIgnorable.has x <;> simp

theorem casedNext_of_ignorable (h : cs.all caseIgnorable.has = true) : casedNext cs = false := by
  have happend := casedNext_append cs []
  rw [List.append_nil, if_pos h] at happend
  exact happend

/-- A letter put behind is next unless something else is. -/
theorem casedNext_append_letter (cs : List Char) :
    casedNext (cs ++ ['A']) = (cs.all caseIgnorable.has || casedNext cs) := by
  have hletter : casedNext ['A'] = true := by decide +kernel
  rw [casedNext_append, hletter]
  cases cs.all caseIgnorable.has <;> rfl

/-! ## The sigmas of a text -/

/-- **`P` holds at every capital sigma** of `cs`, of the characters before it (nearest first) and those after it. -/
def AtSigmas (P : List Char → List Char → Prop) (cs : List Char) : Prop :=
  ∀ u v, cs = u ++ capitalSigma :: v → P u.reverse v

theorem atSigmas_nil : AtSigmas P [] := by
  intro u v h
  exact absurd h.symm (List.append_ne_nil_of_right_ne_nil u (List.cons_ne_nil _ v))

theorem atSigmas_cons :
    AtSigmas P (c :: cs) ↔ (c = capitalSigma → P [] cs) ∧ AtSigmas (fun u v => P (u ++ [c]) v) cs := by
  constructor
  · intro h
    refine ⟨?_, ?_⟩
    · rintro rfl
      exact h [] cs rfl
    · rintro u v rfl
      have hlater := h (c :: u) v rfl
      rwa [List.reverse_cons] at hlater
  · rintro ⟨hfirst, hlater⟩ u v hsplit
    rcases List.cons_eq_append_iff.mp hsplit with ⟨rfl, hhead⟩ | ⟨u', rfl, hrest⟩
    · obtain ⟨hc, rfl⟩ := List.cons_eq_cons.mp hhead
      exact hfirst hc.symm
    · rw [List.reverse_cons]
      exact hlater u' v hrest

theorem AtSigmas.imp {Q : List Char → List Char → Prop} (h : AtSigmas P cs) (himp : ∀ u v, P u v → Q u v) :
    AtSigmas Q cs := fun u v hsplit => himp _ _ (h u v hsplit)

/-- Whether something holds at every sigma is found from the first character on. -/
def decideAtSigmas : (cs : List Char) → (P : List Char → List Char → Prop) → [∀ u v, Decidable (P u v)] →
    Decidable (AtSigmas P cs)
  | [], _, _ => isTrue atSigmas_nil
  | c :: cs, P, _ =>
    have := decideAtSigmas cs fun u v => P (u ++ [c]) v
    decidable_of_iff' ((c = capitalSigma → P [] cs) ∧ AtSigmas (fun u v => P (u ++ [c]) v) cs) atSigmas_cons

instance [∀ u v, Decidable (P u v)] : Decidable (AtSigmas P cs) := decideAtSigmas cs P

/-! ## A part where it stands -/

/-- **The lower case of a part** that stands between `before` (nearest first) and `after`. -/
def lowercaseWithin : List Char → List Char → List Char → List Char
  | _, [], _ => []
  | before, c :: cs, after => lowercaseBetween before c (cs ++ after) ++ lowercaseWithin (c :: before) cs after

theorem lowercaseWithin_cons (before : List Char) (c : Char) (cs after : List Char) :
    lowercaseWithin before (c :: cs) after =
      lowercaseBetween before c (cs ++ after) ++ lowercaseWithin (c :: before) cs after := rfl

/-- **A text in two parts**: each is written as it stands. -/
theorem lowercaseFrom_parts (before cs after : List Char) :
    lowercaseFrom before (cs ++ after) =
      lowercaseWithin before cs after ++ lowercaseFrom (cs.reverse ++ before) after := by
  induction cs generalizing before with
  | nil => rfl
  | cons c cs ih =>
      rw [List.cons_append, lowercaseFrom_cons, lowercaseWithin_cons, ih, List.append_assoc, List.reverse_cons,
        List.append_assoc, List.singleton_append]

theorem lowercaseWithin_nil (before cs : List Char) : lowercaseWithin before cs [] = lowercaseFrom before cs := by
  have hparts := lowercaseFrom_parts before cs []
  rw [List.append_nil, lowercaseFrom_nil, List.append_nil] at hparts
  exact hparts.symm

/-- A character depends on its neighbours if it is a capital sigma, by whether it ends a word. -/
theorem lowercaseBetween_eq_iff :
    lowercaseBetween before c after = lowercaseBetween before' c after' ↔
      (c = capitalSigma → endsWord before after = endsWord before' after') := by
  unfold lowercaseBetween
  by_cases hsigma : c = capitalSigma
  · rw [if_pos hsigma, if_pos hsigma]
    cases endsWord before after <;> cases endsWord before' after' <;> simp [hsigma]
  · rw [if_neg hsigma, if_neg hsigma]
    exact iff_of_true rfl fun h => absurd h hsigma

theorem length_lowercaseBetween (before before' : List Char) (c : Char) (after after' : List Char) :
    (lowercaseBetween before c after).length = (lowercaseBetween before' c after').length := by
  unfold lowercaseBetween
  split <;> rfl

/-- The sigmas of `cs` that end a word between `before` and `after` are those that do between `before'` and `after'`. -/
def SameEnds (before after before' after' cs : List Char) : Prop :=
  AtSigmas (fun u v => endsWord (u ++ before) (v ++ after) = endsWord (u ++ before') (v ++ after')) cs

instance : Decidable (SameEnds before after before' after' cs) := inferInstanceAs (Decidable (AtSigmas _ cs))

theorem sameEnds_cons :
    SameEnds before after before' after' (c :: cs) ↔
      (c = capitalSigma → endsWord before (cs ++ after) = endsWord before' (cs ++ after')) ∧
        SameEnds (c :: before) after (c :: before') after' cs := by
  unfold SameEnds
  rw [atSigmas_cons]
  simp only [List.nil_append, List.append_assoc, List.singleton_append]

/-- **A part is written the same in two places** exactly when the same of its sigmas end a word. -/
theorem lowercaseWithin_eq_iff :
    lowercaseWithin before cs after = lowercaseWithin before' cs after' ↔
      SameEnds before after before' after' cs := by
  induction cs generalizing before before' with
  | nil => exact iff_of_true rfl atSigmas_nil
  | cons c cs ih =>
      rw [sameEnds_cons, ← ih, ← lowercaseBetween_eq_iff, lowercaseWithin_cons, lowercaseWithin_cons]
      constructor
      · intro h
        exact List.append_inj h (length_lowercaseBetween _ _ _ _ _)
      · rintro ⟨hfirst, hrest⟩
        rw [hfirst, hrest]

/-- **Where more sigmas end a word**, the part is written the same, or with more final sigmas and fewer others. -/
theorem lowercaseWithin_eq_or_count_lt
    (h : AtSigmas (fun u v => endsWord (u ++ before) (v ++ after) = true →
      endsWord (u ++ before') (v ++ after') = true) cs) :
    lowercaseWithin before cs after = lowercaseWithin before' cs after' ∨
      (lowercaseWithin before cs after).count '\u03C2' < (lowercaseWithin before' cs after').count '\u03C2' ∧
        (lowercaseWithin before' cs after').count '\u03C3' < (lowercaseWithin before cs after).count '\u03C3' := by
  induction cs generalizing before before' with
  | nil => exact .inl rfl
  | cons c cs ih =>
      rw [atSigmas_cons] at h
      simp only [List.nil_append, List.append_assoc, List.singleton_append] at h
      obtain ⟨hfirst, hrest⟩ := h
      rw [lowercaseWithin_cons, lowercaseWithin_cons, List.count_append, List.count_append, List.count_append,
        List.count_append]
      by_cases hsame : lowercaseBetween before c (cs ++ after) = lowercaseBetween before' c (cs ++ after')
      · rw [hsame]
        rcases ih hrest with heq | ⟨hfinal, hother⟩
        · exact .inl (heq ▸ rfl)
        · exact .inr ⟨by omega, by omega⟩
      · -- The character is a sigma that ends a word in the second place only.
        rw [lowercaseBetween_eq_iff, Classical.not_imp] at hsame
        obtain ⟨hsigma, hends⟩ := hsame
        have hbefore : endsWord before (cs ++ after) = false := by
          rw [Bool.eq_false_iff]
          intro htrue
          exact hends (htrue.trans (hfirst hsigma htrue).symm)
        have hafter : endsWord before' (cs ++ after') = true := by
          rw [hbefore, eq_comm, Bool.not_eq_false] at hends
          exact hends
        right
        unfold lowercaseBetween
        rw [if_pos hsigma, if_pos hsigma, hbefore, hafter, if_neg Bool.false_ne_true, if_pos rfl]
        have hfinals : List.count '\u03C2' ['\u03C3'] = 0 ∧ List.count '\u03C2' ['\u03C2'] = 1 := by decide
        have hothers : List.count '\u03C3' ['\u03C3'] = 1 ∧ List.count '\u03C3' ['\u03C2'] = 0 := by decide
        rcases ih hrest with heq | ⟨hfinal, hother⟩
        · rw [heq]
          exact ⟨by omega, by omega⟩
        · exact ⟨by omega, by omega⟩

/-! ## Steady texts -/

/-- **A steady text**: a capital sigma with only ignored characters before it has a letter next after it, and one with only
    ignored characters after it has no letter next before it. -/
def Steady (cs : List Char) : Prop :=
  AtSigmas (fun u v => (u.all caseIgnorable.has = true → casedNext v = true) ∧
    (v.all caseIgnorable.has = true → casedNext u = false)) cs

instance : Decidable (Steady cs) := inferInstanceAs (Decidable (AtSigmas _ cs))

/-- A text without a capital sigma is steady. -/
theorem steady_of_not_mem (h : capitalSigma ∉ cs) : Steady cs := by
  rintro u v rfl
  exact absurd (List.mem_append_right u List.mem_cons_self) h

/-- **Nothing changes the sigmas of a steady text.** -/
theorem Steady.sameEnds (h : Steady cs) (before after : List Char) : SameEnds before after [] [] cs := by
  refine AtSigmas.imp h ?_
  rintro u v ⟨hfirst, hlast⟩
  unfold endsWord
  rw [List.append_nil, List.append_nil, casedNext_append u, casedNext_append v]
  by_cases hu : u.all caseIgnorable.has = true
  · have hletter := hfirst hu
    have hv : ¬ v.all caseIgnorable.has = true := by
      intro hv
      rw [casedNext_of_ignorable hv] at hletter
      cases hletter
    rw [if_neg hv, hletter, Bool.not_true, Bool.and_false, Bool.and_false]
  · rw [if_neg hu]
    by_cases hv : v.all caseIgnorable.has = true
    · rw [hlast hv, Bool.false_and, Bool.false_and]
    · rw [if_neg hv]

/-- **A part that is written as it is alone** stays a part in lower case. -/
theorem lowercaseChars_part (h : SameEnds before.reverse after [] [] cs) :
    lowercaseChars cs <:+: lowercaseChars (before ++ cs ++ after) := by
  have hparts : lowercaseChars (before ++ cs ++ after) =
      lowercaseWithin [] before (cs ++ after) ++ lowercaseChars cs ++
        lowercaseFrom (cs.reverse ++ before.reverse) after := by
    unfold lowercaseChars
    rw [List.append_assoc, lowercaseFrom_parts, List.append_nil, lowercaseFrom_parts,
      lowercaseWithin_eq_iff.mpr h, lowercaseWithin_nil, List.append_assoc]
  exact ⟨_, _, hparts.symm⟩

/-- **A letter before the text** leaves the same of its sigmas at the end of a word, if the text stays a part. -/
theorem sameEnds_of_letter_before (h : lowercaseChars cs <:+: lowercaseChars (['A'] ++ cs ++ [])) :
    SameEnds [] [] ['A'] [] cs := by
  have hmore : AtSigmas (fun u v => endsWord (u ++ []) (v ++ []) = true →
      endsWord (u ++ ['A']) (v ++ []) = true) cs := by
    rintro u v -
    unfold endsWord
    simp only [List.append_nil, casedNext_append_letter, Bool.and_eq_true, Bool.or_eq_true]
    exact And.imp_left .inr
  have hwhole : lowercaseChars (['A'] ++ cs ++ []) = ['a'] ++ lowercaseWithin ['A'] cs [] := by
    rw [List.append_nil, lowercaseWithin_nil]
    rfl
  rw [← lowercaseWithin_eq_iff]
  rcases lowercaseWithin_eq_or_count_lt hmore with hsame | ⟨_, hfewer⟩
  · exact hsame
  · have hcount := h.sublist.count_le '\u03C3'
    rw [hwhole, List.count_append, lowercaseChars, ← lowercaseWithin_nil] at hcount
    have hletter : List.count '\u03C3' ['a'] = 0 := by decide
    omega

/-- **A letter after the text** leaves the same of its sigmas at the end of a word, if the text stays a part. -/
theorem sameEnds_of_letter_after (h : lowercaseChars cs <:+: lowercaseChars ([] ++ cs ++ ['A'])) :
    SameEnds [] ['A'] [] [] cs := by
  have hfewer : AtSigmas (fun u v => endsWord (u ++ []) (v ++ ['A']) = true →
      endsWord (u ++ []) (v ++ []) = true) cs := by
    rintro u v -
    unfold endsWord
    simp only [List.append_nil, casedNext_append_letter, Bool.and_eq_true, Bool.not_eq_true', Bool.or_eq_false_iff]
    exact And.imp_right And.right
  have hwhole : lowercaseChars ([] ++ cs ++ ['A']) = lowercaseWithin [] cs ['A'] ++ ['a'] := by
    rw [List.nil_append, lowercaseChars, lowercaseFrom_parts]
    rfl
  rw [← lowercaseWithin_eq_iff]
  rcases lowercaseWithin_eq_or_count_lt hfewer with hsame | ⟨hmore, _⟩
  · exact hsame
  · have hcount := h.sublist.count_le '\u03C2'
    rw [hwhole, List.count_append, lowercaseChars, ← lowercaseWithin_nil] at hcount
    have hletter : List.count '\u03C2' ['a'] = 0 := by decide
    omega

/-- **The texts that stay a part** of every text that they are a part of are the steady ones. -/
theorem lowercase_part_iff :
    (∀ before after, lowercaseChars cs <:+: lowercaseChars (before ++ cs ++ after)) ↔ Steady cs := by
  constructor
  · intro h u v hsplit
    have hbefore := sameEnds_of_letter_before (h ['A'] []) u v hsplit
    have hafter := sameEnds_of_letter_after (h [] ['A']) u v hsplit
    unfold endsWord at hbefore hafter
    simp only [List.append_nil, casedNext_append_letter] at hbefore hafter
    constructor
    · intro hu
      rw [hu, casedNext_of_ignorable hu, Bool.false_and, Bool.true_or, Bool.true_and] at hbefore
      rwa [eq_comm, Bool.not_eq_false'] at hbefore
    · intro hv
      rw [hv, casedNext_of_ignorable hv, Bool.true_or, Bool.not_true, Bool.and_false, Bool.not_false,
        Bool.and_true] at hafter
      exact hafter.symm
  · intro h before after
    exact lowercaseChars_part (h.sameEnds _ _)

end DeployBoard.Text
