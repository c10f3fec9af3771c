import DeployBoard.Json.Text

/-!
# `Proofs.Json.Text` — a string is read back as it was written

A string has many spellings, since each of its characters may be escaped in several ways (`SpelledUnits`), and it is
read in two stages. The first reads the units of any spelling (`scanUnits_of_spelled`). What is written is one of the
spellings (`spelledUnits_encode`): most characters give themselves, and a control character without a letter of its
own is the code unit of its escape. The second stage makes characters of the units (`joinUnits_map_char`). Together
they give the string again (`scanText_encode`), and so two strings are never written alike (`encodeText_injective`).
-/

namespace DeployBoard.Json

theorem hexValue_hexDigit : ∀ n < 16, hexValue? (hexDigit n) = some n := by decide

/-- **The unit that a written character is read as.** -/
def unitOf (c : Char) : TextUnit :=
  if c.toNat < 0x20 ∧ c ≠ '\x08' ∧ c ≠ '\x0C' ∧ c ≠ '\n' ∧ c ≠ '\r' ∧ c ≠ '\t' then .code c.toNat else .char c

/-! ## Spellings of a string -/

/-- **`cs` spells the units of a string**, between its quotes: a character may stand for itself, or be an escape by
    letter, or be a code unit written in four digits. -/
inductive SpelledUnits : List TextUnit → List Char → Prop where
  | nil : SpelledUnits [] []
  | plain {c : Char} {us : List TextUnit} {cs : List Char} (hquote : c ≠ '\x22') (hslash : c ≠ '\\')
      (hlow : ¬ c.toNat < 0x20) (h : SpelledUnits us cs) : SpelledUnits (.char c :: us) (c :: cs)
  | escape {e c : Char} {us : List TextUnit} {cs : List Char} (he : escaped? e = some c) (h : SpelledUnits us cs) :
      SpelledUnits (.char c :: us) ('\\' :: e :: cs)
  | code {a b c d : Char} {n : Nat} {us : List TextUnit} {cs : List Char} (hn : hexQuad? a b c d = some n)
      (h : SpelledUnits us cs) : SpelledUnits (.code n :: us) ('\\' :: 'u' :: a :: b :: c :: d :: cs)

/-- **Every spelling is read as its units**, up to the closing quote. -/
theorem scanUnits_of_spelled {us : List TextUnit} {cs : List Char} (h : SpelledUnits us cs) (rest : List Char) :
    scanUnits (cs ++ '\x22' :: rest) = some (us, rest) := by
  induction h with
  | nil => rfl
  | @plain c us cs hquote hslash hlow _ ih =>
      show scanUnits (c :: (cs ++ '\x22' :: rest)) = _
      have hplain : ¬ (c = '\\' ∨ c.toNat < 0x20) := fun h => h.elim hslash hlow
      -- Of the ways to read a string on, the first three begin with a quote or a backslash.
      rw [scanUnits.eq_def]
      split
      · rename_i heq; cases heq
      · rename_i heq; exact absurd (List.cons.inj heq).1 hquote
      · rename_i heq; exact absurd (List.cons.inj heq).1 hslash
      · rename_i heq; exact absurd (List.cons.inj heq).1 hslash
      · rename_i heq
        obtain ⟨rfl, rfl⟩ := List.cons.inj heq
        rw [if_neg hplain, ih]
        rfl
  | @escape e c us cs he _ ih =>
      have hu : e ≠ 'u' := by
        rintro rfl
        cases he
      show scanUnits ('\\' :: e :: (cs ++ '\x22' :: rest)) = _
      rw [scanUnits, he, Option.bind_some, ih]
      · rfl
      · intro _ _ _ _ _ heq
        exact absurd heq hu
  | @code a b c d n us cs hn _ ih =>
      show scanUnits ('\\' :: 'u' :: a :: b :: c :: d :: (cs ++ '\x22' :: rest)) = _
      rw [scanUnits, hn, Option.bind_some, ih]
      rfl

/-! ## What is written -/

/-- **A written character spells its unit**, whatever follows. -/
theorem spelledUnits_encodeChar (c : Char) {us : List TextUnit} {cs : List Char} (h : SpelledUnits us cs) :
    SpelledUnits (unitOf c :: us) (encodeChar c ++ cs) := by
  unfold encodeChar
  split
  · subst_vars; exact .escape rfl h
  split
  · subst_vars; exact .escape rfl h
  split
  · subst_vars; exact .escape rfl h
  split
  · subst_vars; exact .escape rfl h
  split
  · subst_vars; exact .escape rfl h
  split
  · subst_vars; exact .escape rfl h
  split
  · subst_vars; exact .escape rfl h
  rename_i hquote hslash hb hf hn hr ht
  split
  · rename_i hlow
    have hunit : unitOf c = .code c.toNat := if_pos ⟨hlow, hb, hf, hn, hr, ht⟩
    have hquad : hexQuad? '0' '0' (hexDigit (c.toNat / 16)) (hexDigit (c.toNat % 16)) = some c.toNat := by
      unfold hexQuad?
      rw [hexValue_hexDigit _ (by omega), hexValue_hexDigit _ (by omega)]
      show some (((0 * 16 + 0) * 16 + c.toNat / 16) * 16 + c.toNat % 16) = some c.toNat
      congr 1
      omega
    rw [hunit]
    exact .code hquad h
  · rename_i hlow
    have hunit : unitOf c = .char c := if_neg fun h => hlow h.1
    rw [hunit]
    exact .plain hquote hslash hlow h

/-- **A written string spells its units.** -/
theorem spelledUnits_encode (cs : List Char) : SpelledUnits (cs.map unitOf) (cs.flatMap encodeChar) := by
  induction cs with
  | nil => exact .nil
  | cons c cs ih => exact spelledUnits_encodeChar c ih

/-! ## Units and characters -/

/-- A unit that was written makes its character, whatever follows: it is never half of a pair. -/
theorem joinUnits_unitOf (c : Char) (us : List TextUnit) :
    joinUnits (unitOf c :: us) = (joinUnits us).map (c :: ·) := by
  unfold unitOf
  split
  · rename_i h
    have hlow : c.toNat < 0x20 := h.1
    have hhigh : isHighUnit c.toNat = false := by
      unfold isHighUnit
      rw [Bool.and_eq_false_iff]
      exact .inl (decide_eq_false (by omega))
    have hsecond : isLowUnit c.toNat = false := by
      unfold isLowUnit
      rw [Bool.and_eq_false_iff]
      exact .inl (decide_eq_false (by omega))
    have hchar : Char.ofNat c.toNat = c := Char.ofNat_toNat c
    cases us with
    | nil => simp [joinUnits, hhigh, hsecond, hchar]
    | cons u us => cases u <;> simp [joinUnits, hhigh, hsecond, hchar]
  · rfl

theorem joinUnits_map_char (cs : List Char) : joinUnits (cs.map unitOf) = some cs := by
  induction cs with
  | nil => rfl
  | cons c cs ih =>
      rw [List.map_cons, joinUnits_unitOf, ih]
      rfl

/-- **A written string is read back**, with what follows its closing quote. -/
theorem scanText_encode (s : String) (rest : List Char) :
    scanText (s.toList.flatMap encodeChar ++ '\x22' :: rest) = some (some s, rest) := by
  unfold scanText
  rw [scanUnits_of_spelled (spelledUnits_encode s.toList), Option.map_some]
  show some ((joinUnits (s.toList.map unitOf)).map String.ofList, rest) = _
  rw [joinUnits_map_char, Option.map_some, String.ofList_toList]

/-- **Two strings are never written alike.** -/
theorem encodeText_injective {s t : String} (h : encodeText s = encodeText t) : s = t := by
  have hbody : s.toList.flatMap encodeChar ++ ['\x22'] = t.toList.flatMap encodeChar ++ ['\x22'] :=
    (List.cons.inj h).2
  have hread := scanText_encode s []
  rw [hbody, scanText_encode] at hread
  cases hread
  rfl

end DeployBoard.Json
