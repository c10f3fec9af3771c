import DeployBoard.Proofs.Json.Grammar

/-!
# `Proofs.Json.Soundness` — nothing is read but spellings

`Proofs.Json.Grammar` shows that every spelling of a value is read as that value. Here is the converse: what the reader
takes for a string, a number or any other value is a spelling of it (`spelled_of_scanUnits`, `isNumber_of_skipNumber`,
`scans`). So a text is read as a value exactly when it spells that value, with blanks around it or not
(`parse?_eq_some_iff`).
-/

namespace DeployBoard.Json

/-! ## Strings -/

/-- **What is read as a string spells its units**, up to the closing quote. -/
theorem spelled_of_scanUnits {cs rest : List Char} {us : List TextUnit} (h : scanUnits cs = some (us, rest)) :
    ∃ ds, cs = ds ++ '\x22' :: rest ∧ SpelledUnits us ds := by
  fun_induction scanUnits cs generalizing us with
  | case1 => cases h
  | case2 r =>
      cases h
      exact ⟨[], rfl, .nil⟩
  | case3 a b c d r ih =>
      obtain ⟨n, hn, hrest⟩ := Option.bind_eq_some_iff.mp h
      obtain ⟨⟨us', r'⟩, hscan, heq⟩ := Option.map_eq_some_iff.mp hrest
      cases heq
      obtain ⟨ds, rfl, hds⟩ := ih hscan
      exact ⟨'\\' :: 'u' :: a :: b :: c :: d :: ds, rfl, .code hn hds⟩
  | case4 e r _ ih =>
      obtain ⟨c, hc, hrest⟩ := Option.bind_eq_some_iff.mp h
      obtain ⟨⟨us', r'⟩, hscan, heq⟩ := Option.map_eq_some_iff.mp hrest
      cases heq
      obtain ⟨ds, rfl, hds⟩ := ih hscan
      exact ⟨'\\' :: e :: ds, rfl, .escape hc hds⟩
  | case5 => cases h
  | case6 c r hquote _ _ hplain ih =>
      obtain ⟨⟨us', r'⟩, hscan, heq⟩ := Option.map_eq_some_iff.mp h
      cases heq
      obtain ⟨ds, rfl, hds⟩ := ih hscan
      have hslash : c ≠ '\\' := fun heq => hplain (.inl heq)
      have hlow : ¬ c.toNat < 0x20 := fun hlow => hplain (.inr hlow)
      exact ⟨c :: ds, rfl, .plain (by simpa using hquote) hslash hlow hds⟩

theorem spelled_of_scanText {cs rest : List Char} {text : Option String} (h : scanText cs = some (text, rest)) :
    ∃ us ds, cs = ds ++ '\x22' :: rest ∧ SpelledUnits us ds ∧ text = (joinUnits us).map String.ofList := by
  obtain ⟨⟨us, r⟩, hscan, heq⟩ := Option.map_eq_some_iff.mp h
  cases heq
  obtain ⟨ds, hcs, hds⟩ := spelled_of_scanUnits hscan
  exact ⟨us, ds, hcs, hds, rfl⟩

/-! ## Numbers -/

theorem isDigits_of_skipDigits1 {cs rest : List Char} (h : skipDigits1 cs = some rest) :
    ∃ ds, cs = ds ++ rest ∧ IsDigits ds := by
  cases cs with
  | nil => cases h
  | cons c cs =>
      rw [skipDigits1] at h
      split at h
      · rename_i hc
        cases h
        refine ⟨c :: cs.takeWhile Char.isDigit, ?_, List.cons_ne_nil _ _, fun d hd => ?_⟩
        · rw [List.cons_append, List.takeWhile_append_dropWhile]
        · rcases List.mem_cons.mp hd with rfl | hd
          · exact hc
          · exact (List.all_eq_true.mp List.all_takeWhile) d hd
      · cases h

theorem isInteger_of_skipInteger {cs rest : List Char} (h : skipInteger cs = some rest) :
    ∃ ds, cs = ds ++ rest ∧ IsInteger ds := by
  unfold skipInteger at h
  split at h
  · rename_i cs
    split at h
    · cases h
    · cases h
      exact ⟨['0'], rfl, .inl rfl⟩
  · rename_i hzero
    obtain ⟨ds, rfl, hds⟩ := isDigits_of_skipDigits1 h
    refine ⟨ds, rfl, .inr ⟨hds, fun hhead => ?_⟩⟩
    obtain ⟨d, more, rfl, _⟩ := hds.head
    cases hhead
    exact hzero _ rfl

theorem isFraction_of_skipFraction {cs rest : List Char} (h : skipFraction cs = some rest) :
    ∃ ds, cs = ds ++ rest ∧ IsFraction ds := by
  unfold skipFraction at h
  split at h
  · obtain ⟨ds, rfl, hds⟩ := isDigits_of_skipDigits1 h
    exact ⟨'.' :: ds, rfl, .inr ⟨ds, rfl, hds⟩⟩
  · cases h
    exact ⟨[], rfl, .inl rfl⟩

theorem isExponent_of_skipExponent {cs rest : List Char} (h : skipExponent cs = some rest) :
    ∃ ds, cs = ds ++ rest ∧ IsExponent ds := by
  unfold skipExponent at h
  split at h
  · rename_i e cs
    split at h
    · rename_i he
      split at h
      · obtain ⟨ds, rfl, hds⟩ := isDigits_of_skipDigits1 h
        exact ⟨e :: '+' :: ds, rfl, .inr ⟨e, ['+'], ds, rfl, he, .inr (.inl rfl), hds⟩⟩
      · obtain ⟨ds, rfl, hds⟩ := isDigits_of_skipDigits1 h
        exact ⟨e :: '-' :: ds, rfl, .inr ⟨e, ['-'], ds, rfl, he, .inr (.inr rfl), hds⟩⟩
      · obtain ⟨ds, rfl, hds⟩ := isDigits_of_skipDigits1 h
        exact ⟨e :: ds, rfl, .inr ⟨e, [], ds, rfl, he, .inl rfl, hds⟩⟩
    · cases h
      exact ⟨[], rfl, .inl rfl⟩
  · cases h
    exact ⟨[], rfl, .inl rfl⟩

/-- The sign of a number, or none. -/
theorem exists_sign (cs : List Char) :
    ∃ sign, cs = sign ++ (if cs.head? = some '-' then cs.tail else cs) ∧ (sign = [] ∨ sign = ['-']) := by
  split
  · rename_i hhead
    obtain ⟨rest, rfl⟩ := List.head?_eq_some_iff.mp hhead
    exact ⟨['-'], rfl, .inr rfl⟩
  · exact ⟨[], rfl, .inl rfl⟩

/-- **What is passed over as a number is one.** -/
theorem isNumber_of_skipNumber {cs rest : List Char} (h : skipNumber cs = some rest) :
    ∃ ds, cs = ds ++ rest ∧ IsNumber ds := by
  obtain ⟨sign, hcs, hsign⟩ := exists_sign cs
  obtain ⟨afterInt, hskipInt, hskip⟩ := Option.bind_eq_some_iff.mp h
  obtain ⟨afterFrac, hskipFrac, hskipExp⟩ := Option.bind_eq_some_iff.mp hskip
  obtain ⟨int, hcs', hint⟩ := isInteger_of_skipInteger hskipInt
  obtain ⟨frac, rfl, hfrac⟩ := isFraction_of_skipFraction hskipFrac
  obtain ⟨exp, rfl, hexp⟩ := isExponent_of_skipExponent hskipExp
  refine ⟨sign ++ int ++ frac ++ exp, ?_, sign, int, frac, exp, rfl, hsign, hint, hfrac, hexp⟩
  rw [hcs, hcs']
  simp only [List.append_assoc]

/-! ## Values -/

/-- Whatever is read begins with its blanks. -/
theorem exists_blanks (cs : List Char) : ∃ blanks, Blanks blanks ∧ cs = blanks ++ skipSpace cs := by
  refine ⟨cs.takeWhile isSpace, fun c hc => ?_, (List.takeWhile_append_dropWhile).symm⟩
  exact (List.all_eq_true.mp List.all_takeWhile) c hc

/-- **With `fuel`, nothing is read but spellings.** -/
structure Scans (fuel : Nat) : Prop where
  value : ∀ v cs rest, scanValue fuel cs = some (v, rest) →
    ∃ blanks ds, cs = blanks ++ ds ++ rest ∧ Blanks blanks ∧ Spells v ds
  items : ∀ vs cs rest, scanItems fuel cs = some (vs, rest) →
    ∃ ds, cs = ds ++ ']' :: rest ∧ SpellsItems vs ds
  members : ∀ ms cs rest, scanMembers fuel cs = some (ms, rest) →
    ∃ ds, cs = ds ++ '\x7d' :: rest ∧ SpellsMembers ms ds

/-- A value is read with the blanks before it, and with those after it once they are skipped. -/
theorem Scans.padded {fuel : Nat} (h : Scans fuel) {v : Json} {cs rest : List Char}
    (hread : scanValue fuel cs = some (v, rest)) :
    ∃ ds, cs = ds ++ skipSpace rest ∧ SpellsPadded v ds := by
  obtain ⟨before, ds, rfl, hbefore, hds⟩ := h.value v cs rest hread
  obtain ⟨after, hafter, hrest⟩ := exists_blanks rest
  refine ⟨before ++ ds ++ after, ?_, .mk hbefore hds hafter⟩
  rw [List.append_assoc _ after, ← hrest]

/-- What is read once the blanks are skipped spells a value. -/
theorem Scans.spells {fuel : Nat} (h : Scans fuel) {v : Json} {cs rest : List Char}
    (hread : scanValue (fuel + 1) cs = some (v, rest)) : ∃ ds, skipSpace cs = ds ++ rest ∧ Spells v ds := by
  rw [scanValue] at hread
  split at hread
  · rename_i heq
    cases hread
    exact ⟨_, heq, .null⟩
  · rename_i heq
    cases hread
    exact ⟨_, heq, .yes⟩
  · rename_i heq
    cases hread
    exact ⟨_, heq, .no⟩
  · rename_i heq
    obtain ⟨⟨text, r⟩, hscan, hpair⟩ := Option.map_eq_some_iff.mp hread
    cases hpair
    obtain ⟨us, ds, rfl, hds, rfl⟩ := spelled_of_scanText hscan
    exact ⟨_, by rw [heq]; simp, .string hds⟩
  · rename_i r heq
    obtain ⟨blanks, hblanks, hr⟩ := exists_blanks r
    split at hread
    · rename_i hclose
      cases hread
      rw [hclose] at hr
      exact ⟨_, by rw [heq, hr]; simp, .noItems hblanks⟩
    · obtain ⟨⟨vs, r'⟩, hscan, hpair⟩ := Option.map_eq_some_iff.mp hread
      cases hpair
      rw [scanItems_skipSpace] at hscan
      obtain ⟨ds, rfl, hds⟩ := h.items _ _ _ hscan
      exact ⟨_, by rw [heq]; simp, .items hds⟩
  · rename_i r heq
    obtain ⟨blanks, hblanks, hr⟩ := exists_blanks r
    split at hread
    · rename_i hclose
      cases hread
      rw [hclose] at hr
      exact ⟨_, by rw [heq, hr]; simp, .noMembers hblanks⟩
    · obtain ⟨⟨ms, r'⟩, hscan, hpair⟩ := Option.map_eq_some_iff.mp hread
      cases hpair
      rw [scanMembers_skipSpace] at hscan
      obtain ⟨ds, rfl, hds⟩ := h.members _ _ _ hscan
      exact ⟨_, by rw [heq]; simp, .members hds⟩
  · obtain ⟨r, hskip, hpair⟩ := Option.map_eq_some_iff.mp hread
    obtain ⟨ds, hds, hnumber⟩ := isNumber_of_skipNumber hskip
    cases hpair
    refine ⟨ds, hds, ?_⟩
    have hliteral : (skipSpace cs).take ((skipSpace cs).length - rest.length) = ds := by
      rw [hds, List.length_append, Nat.add_sub_cancel, List.take_left]
    rw [hliteral]
    have hspells : Spells (.number (String.ofList ds)) (String.ofList ds).toList :=
      .number (by rwa [String.toList_ofList])
    rwa [String.toList_ofList] at hspells

theorem Scans.items_succ {fuel : Nat} (h : Scans fuel) {vs : List Json} {cs rest : List Char}
    (hread : scanItems (fuel + 1) cs = some (vs, rest)) : ∃ ds, cs = ds ++ ']' :: rest ∧ SpellsItems vs ds := by
  rw [scanItems] at hread
  obtain ⟨⟨v, r⟩, hvalue, hafter⟩ := Option.bind_eq_some_iff.mp hread
  obtain ⟨ds, rfl, hds⟩ := h.padded hvalue
  simp only at hafter
  split at hafter
  · rename_i more hcomma
    obtain ⟨⟨vs', r'⟩, hmore, hpair⟩ := Option.map_eq_some_iff.mp hafter
    cases hpair
    obtain ⟨ds', rfl, hds'⟩ := h.items _ _ _ hmore
    exact ⟨_, by rw [hcomma]; simp, .more hds hds'⟩
  · rename_i hclose
    cases hafter
    exact ⟨ds, by rw [hclose], .last hds⟩
  · cases hafter

theorem Scans.members_succ {fuel : Nat} (h : Scans fuel) {ms : List (Option String × Json)} {cs rest : List Char}
    (hread : scanMembers (fuel + 1) cs = some (ms, rest)) :
    ∃ ds, cs = ds ++ '\x7d' :: rest ∧ SpellsMembers ms ds := by
  obtain ⟨before, hbefore, hcs⟩ := exists_blanks cs
  rw [scanMembers] at hread
  split at hread
  · rename_i hquote
    obtain ⟨⟨name, r⟩, hname, hnamed⟩ := Option.bind_eq_some_iff.mp hread
    obtain ⟨us, name', rfl, hname', rfl⟩ := spelled_of_scanText hname
    obtain ⟨between, hbetween, hr⟩ := exists_blanks r
    simp only at hnamed
    split at hnamed
    · rename_i hcolon
      obtain ⟨⟨v, r'⟩, hvalue, hafter⟩ := Option.bind_eq_some_iff.mp hnamed
      obtain ⟨ds, rfl, hds⟩ := h.padded hvalue
      simp only at hafter
      rw [hcolon] at hr
      split at hafter
      · rename_i more hcomma
        obtain ⟨⟨ms', r''⟩, hmore, hpair⟩ := Option.map_eq_some_iff.mp hafter
        cases hpair
        obtain ⟨ds', rfl, hds'⟩ := h.members _ _ _ hmore
        refine ⟨_, ?_, .more hbefore hname' hbetween hds hds'⟩
        rw [hcs, hquote, hr, hcomma]
        simp
      · rename_i hclose
        cases hafter
        refine ⟨_, ?_, .last hbefore hname' hbetween hds⟩
        rw [hcs, hquote, hr, hclose]
        simp
      · cases hafter
    · cases hnamed
  · cases hread

/-- **Nothing is read but spellings**, by induction on the fuel, as the reader runs. -/
theorem scans (fuel : Nat) : Scans fuel := by
  induction fuel with
  | zero =>
      refine ⟨fun _ _ _ h => ?_, fun _ _ _ h => ?_, fun _ _ _ h => ?_⟩
      · rw [scanValue] at h; cases h
      · rw [scanItems] at h; cases h
      · rw [scanMembers] at h; cases h
  | succ fuel ih =>
      refine ⟨fun v cs rest h => ?_, fun _ _ _ h => ih.items_succ h, fun _ _ _ h => ih.members_succ h⟩
      obtain ⟨blanks, hblanks, hcs⟩ := exists_blanks cs
      obtain ⟨ds, hds, hspells⟩ := ih.spells h
      exact ⟨blanks, ds, by rw [List.append_assoc, ← hds, ← hcs], hblanks, hspells⟩

/-- **A text is read as a value exactly when it spells that value.** -/
theorem parse?_eq_some_iff {s : String} {v : Json} : parse? s = some v ↔ SpellsPadded v s.toList := by
  refine ⟨fun h => ?_, parse?_of_spells⟩
  unfold parse? at h
  simp only at h
  split at h
  · rename_i w rest hread
    split at h
    · rename_i hempty
      cases h
      obtain ⟨ds, hds, hspells⟩ := (scans _).padded hread
      rw [List.isEmpty_iff.mp hempty, List.append_nil] at hds
      exact hds ▸ hspells
    · cases h
  · cases h

end DeployBoard.Json
