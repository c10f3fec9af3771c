import DeployBoard.Json.Value

/-!
# `Proofs.Json.Number` — every spelling of a number is read to its end

A number has a sign, digits, a fraction and an exponent, and all but the digits may be missing (`IsNumber`). The reader
takes the parts one after the other and each as far as it goes. So what it makes of a number does not depend on what
follows, as long as that does not go on with a number (`Ends`): `skipNumber_of_isNumber`.
-/

namespace DeployBoard.Json

/-- One digit or more. -/
def IsDigits (ds : List Char) : Prop := ds ≠ [] ∧ ∀ c ∈ ds, c.isDigit = true

/-- The digits before the point: a zero stands alone. -/
def IsInteger (ds : List Char) : Prop := ds = ['0'] ∨ IsDigits ds ∧ ds.head? ≠ some '0'

/-- The fraction of a number, or none. -/
def IsFraction (cs : List Char) : Prop := cs = [] ∨ ∃ ds, cs = '.' :: ds ∧ IsDigits ds

/-- The exponent of a number, or none. -/
def IsExponent (cs : List Char) : Prop :=
  cs = [] ∨ ∃ e sign ds, cs = e :: sign ++ ds ∧ (e = 'e' ∨ e = 'E') ∧ (sign = [] ∨ sign = ['+'] ∨ sign = ['-']) ∧
    IsDigits ds

/-- **A number**: perhaps a minus sign, then digits, and perhaps a fraction and an exponent. -/
def IsNumber (cs : List Char) : Prop :=
  ∃ sign int frac exp, cs = sign ++ int ++ frac ++ exp ∧ (sign = [] ∨ sign = ['-']) ∧ IsInteger int ∧
    IsFraction frac ∧ IsExponent exp

/-- A character that may go on with a number. -/
def continuesNumber (c : Char) : Bool := c.isDigit || c = '.' || c = 'e' || c = 'E'

/-- **What follows does not go on with a number.** -/
def Ends (rest : List Char) : Prop := ∀ c r, rest = c :: r → continuesNumber c = false

/-- What follows does not go on with digits. -/
def NoDigit (rest : List Char) : Prop := ∀ c r, rest = c :: r → c.isDigit = false

theorem Ends.noDigit {rest : List Char} (h : Ends rest) : NoDigit rest := by
  intro c r hrest
  have hends := h c r hrest
  simp only [continuesNumber, Bool.or_eq_false_iff] at hends
  exact hends.1.1.1

theorem IsDigits.head {ds : List Char} (h : IsDigits ds) : ∃ d rest, ds = d :: rest ∧ d.isDigit = true := by
  obtain ⟨hne, hall⟩ := h
  obtain ⟨d, rest, rfl⟩ := List.exists_cons_of_ne_nil hne
  exact ⟨d, rest, rfl, hall d List.mem_cons_self⟩

theorem NoDigit.dropWhile {rest : List Char} (h : NoDigit rest) : rest.dropWhile Char.isDigit = rest := by
  cases rest with
  | nil => rfl
  | cons c r => rw [List.dropWhile_cons_of_neg]; rw [h c r rfl]; exact Bool.false_ne_true

/-- **Digits are passed over as far as they go.** -/
theorem skipDigits1_of_isDigits {ds rest : List Char} (h : IsDigits ds) (hrest : NoDigit rest) :
    skipDigits1 (ds ++ rest) = some rest := by
  obtain ⟨d, more, rfl, hd⟩ := h.head
  have hmore : ∀ c ∈ more, c.isDigit = true := fun c hc => h.2 c (List.mem_cons_of_mem _ hc)
  show (if d.isDigit = true then some ((more ++ rest).dropWhile Char.isDigit) else none) = some rest
  rw [if_pos hd, List.dropWhile_append_of_pos hmore, hrest.dropWhile]

/-- A character that is not a digit does not begin digits. -/
theorem ne_of_isDigit {c d : Char} (hc : c.isDigit = true) (hd : d.isDigit = false) : c ≠ d := by
  rintro rfl
  rw [hc] at hd
  cases hd

theorem skipExponent_of_isExponent {exp rest : List Char} (h : IsExponent exp) (hrest : Ends rest) :
    skipExponent (exp ++ rest) = some rest := by
  rcases h with rfl | ⟨e, sign, ds, rfl, he, hsign, hds⟩
  · cases rest with
    | nil => rfl
    | cons c r =>
        have hends := hrest c r rfl
        simp only [continuesNumber, Bool.or_eq_false_iff, decide_eq_false_iff_not] at hends
        show (if c = 'e' ∨ c = 'E' then _ else some (c :: r)) = _
        exact if_neg fun h => h.elim hends.1.2 hends.2
  · have hskip := skipDigits1_of_isDigits hds hrest.noDigit
    obtain ⟨d, more, rfl, hd⟩ := hds.head
    have hplus : d ≠ '+' := ne_of_isDigit hd (by decide)
    have hminus : d ≠ '-' := ne_of_isDigit hd (by decide)
    rcases hsign with rfl | rfl | rfl
    · show skipExponent (e :: d :: (more ++ rest)) = _
      rw [skipExponent, if_pos he]
      · exact hskip
      · exact fun _ heq => hplus (List.cons.inj heq).1
      · exact fun _ heq => hminus (List.cons.inj heq).1
    · show skipExponent (e :: '+' :: (d :: more ++ rest)) = _
      rw [skipExponent, if_pos he]
      exact hskip
    · show skipExponent (e :: '-' :: (d :: more ++ rest)) = _
      rw [skipExponent, if_pos he]
      exact hskip

/-- The first character of an exponent, or of what follows a number, is neither a digit nor a point. -/
theorem head_exponent {exp rest : List Char} (h : IsExponent exp) (hrest : Ends rest) {c : Char} {r : List Char}
    (heq : exp ++ rest = c :: r) : c.isDigit = false ∧ c ≠ '.' := by
  rcases h with rfl | ⟨e, sign, ds, rfl, he, _, _⟩
  · have hends := hrest c r heq
    simp only [continuesNumber, Bool.or_eq_false_iff, decide_eq_false_iff_not] at hends
    exact ⟨hends.1.1.1, hends.1.1.2⟩
  · have hhead : e = c := (List.cons.inj heq).1
    subst hhead
    rcases he with rfl | rfl
    · exact ⟨by decide, by decide⟩
    · exact ⟨by decide, by decide⟩

theorem skipFraction_of_isFraction {frac rest : List Char} (h : IsFraction frac) (hrest : NoDigit rest)
    (hpoint : ∀ r, rest ≠ '.' :: r) : skipFraction (frac ++ rest) = some rest := by
  rcases h with rfl | ⟨ds, rfl, hds⟩
  · show skipFraction rest = some rest
    unfold skipFraction
    split
    · rename_i r; exact absurd rfl (hpoint r)
    · rfl
  · exact skipDigits1_of_isDigits hds hrest

theorem skipInteger_of_isInteger {int rest : List Char} (h : IsInteger int) (hrest : NoDigit rest) :
    skipInteger (int ++ rest) = some rest := by
  rcases h with rfl | ⟨hds, hzero⟩
  · show (if rest.head?.any Char.isDigit = true then none else some rest) = some rest
    refine if_neg ?_
    cases rest with
    | nil => exact Bool.false_ne_true
    | cons c r =>
        show ¬ c.isDigit = true
        rw [hrest c r rfl]
        exact Bool.false_ne_true
  · have hskip := skipDigits1_of_isDigits hds hrest
    obtain ⟨d, more, rfl, hd⟩ := hds.head
    unfold skipInteger
    split
    · rename_i heq
      have hd0 : d = '0' := (List.cons.inj heq).1
      exact absurd (congrArg some hd0) hzero
    · exact hskip

/-- **A number is passed over as far as it goes.** -/
theorem skipNumber_of_isNumber {cs rest : List Char} (h : IsNumber cs) (hrest : Ends rest) :
    skipNumber (cs ++ rest) = some rest := by
  obtain ⟨sign, int, frac, exp, rfl, hsign, hint, hfrac, hexp⟩ := h
  have hafterFrac : NoDigit (exp ++ rest) := fun c r heq => (head_exponent hexp hrest heq).1
  have hpoint : ∀ r, exp ++ rest ≠ '.' :: r := fun r heq => (head_exponent hexp hrest heq).2 rfl
  have hafterInt : NoDigit (frac ++ (exp ++ rest)) := by
    rcases hfrac with rfl | ⟨ds, rfl, _⟩
    · exact hafterFrac
    · intro c r heq
      have hhead : '.' = c := (List.cons.inj heq).1
      subst hhead
      rfl
  -- The sign is dropped before the digits are looked at.
  have hunsigned : (if (sign ++ int ++ frac ++ exp ++ rest).head? = some '-'
      then (sign ++ int ++ frac ++ exp ++ rest).tail else sign ++ int ++ frac ++ exp ++ rest) =
        int ++ (frac ++ (exp ++ rest)) := by
    rcases hsign with rfl | rfl
    · have hminus : (int ++ (frac ++ (exp ++ rest))).head? ≠ some '-' := by
        rcases hint with rfl | ⟨hds, _⟩
        · exact fun heq => absurd (Option.some.inj heq) (by decide)
        · obtain ⟨d, more, rfl, hd⟩ := hds.head
          intro heq
          exact ne_of_isDigit hd (by decide) (Option.some.inj heq)
      simp only [List.nil_append, List.append_assoc]
      exact if_neg hminus
    · simp
  unfold skipNumber
  rw [hunsigned, skipInteger_of_isInteger hint hafterInt, Option.bind_some,
    skipFraction_of_isFraction hfrac hafterFrac hpoint, Option.bind_some, skipExponent_of_isExponent hexp hrest]

end DeployBoard.Json
