import DeployBoard.Proofs.Json.Number
import DeployBoard.Proofs.Json.Text
import Mathlib.Data.List.DropRight

/-!
# `Proofs.Json.Grammar` — every spelling of a value is read as that value

A value has many spellings: blanks may stand between its parts, and its strings may be escaped in several ways.
`Spells` says what the spellings are, one rule for each kind of value, without regard to how they are read.

The reader looks no further than it has to: what it makes of a spelling does not depend on what follows, as long as
that does not go on with a number (`Ends`). So a spelling is read wherever it stands, first a value with all that is
in it (`reads`), and then a whole text (`parse?_of_spells`). Compact writing gives one of the spellings
(`spells_render`), so it is read back (`parse?_render`).
-/

namespace DeployBoard.Json

/-! ## Values -/

/-- Blanks, as many as one likes. -/
def Blanks (cs : List Char) : Prop := ∀ c ∈ cs, isSpace c = true

mutual

/-- **`cs` spells a value**, without blanks around it. -/
inductive Spells : Json → List Char → Prop where
  | null : Spells .null ['n', 'u', 'l', 'l']
  | yes : Spells (.bool true) ['t', 'r', 'u', 'e']
  | no : Spells (.bool false) ['f', 'a', 'l', 's', 'e']
  | number {literal : String} (h : IsNumber literal.toList) : Spells (.number literal) literal.toList
  | string {us : List TextUnit} {cs : List Char} (h : SpelledUnits us cs) :
      Spells (.string ((joinUnits us).map String.ofList)) ('\x22' :: cs ++ ['\x22'])
  | noItems {blanks : List Char} (h : Blanks blanks) : Spells (.array []) ('[' :: blanks ++ [']'])
  | items {vs : List Json} {cs : List Char} (h : SpellsItems vs cs) : Spells (.array vs) ('[' :: cs ++ [']'])
  | noMembers {blanks : List Char} (h : Blanks blanks) : Spells (.object []) ('\x7b' :: blanks ++ ['\x7d'])
  | members {ms : List (Option String × Json)} {cs : List Char} (h : SpellsMembers ms cs) :
      Spells (.object ms) ('\x7b' :: cs ++ ['\x7d'])

/-- `cs` spells a value with blanks around it. -/
inductive SpellsPadded : Json → List Char → Prop where
  | mk {v : Json} {before cs after : List Char} (hbefore : Blanks before) (h : Spells v cs) (hafter : Blanks after) :
      SpellsPadded v (before ++ cs ++ after)

/-- `cs` spells the items of an array, one or more, with commas between them. -/
inductive SpellsItems : List Json → List Char → Prop where
  | last {v : Json} {cs : List Char} (h : SpellsPadded v cs) : SpellsItems [v] cs
  | more {v : Json} {vs : List Json} {cs rest : List Char} (h : SpellsPadded v cs) (hrest : SpellsItems vs rest) :
      SpellsItems (v :: vs) (cs ++ ',' :: rest)

/-- `cs` spells the members of an object, one or more, with commas between them. -/
inductive SpellsMembers : List (Option String × Json) → List Char → Prop where
  | last {us : List TextUnit} {v : Json} {before name between cs : List Char} (hbefore : Blanks before)
      (hname : SpelledUnits us name) (hbetween : Blanks between) (h : SpellsPadded v cs) :
      SpellsMembers [((joinUnits us).map String.ofList, v)]
        (before ++ '\x22' :: (name ++ '\x22' :: (between ++ ':' :: cs)))
  | more {us : List TextUnit} {v : Json} {ms : List (Option String × Json)} {before name between cs rest : List Char}
      (hbefore : Blanks before) (hname : SpelledUnits us name) (hbetween : Blanks between) (h : SpellsPadded v cs)
      (hrest : SpellsMembers ms rest) :
      SpellsMembers (((joinUnits us).map String.ofList, v) :: ms)
        (before ++ '\x22' :: (name ++ '\x22' :: (between ++ ':' :: (cs ++ ',' :: rest))))

end

/-! ## Blanks -/

theorem blanks_nil : Blanks [] := fun _ h => absurd h List.not_mem_nil

theorem skipSpace_append {blanks : List Char} (h : Blanks blanks) (rest : List Char) :
    skipSpace (blanks ++ rest) = skipSpace rest := List.dropWhile_append_of_pos h

theorem skipSpace_cons {c : Char} (h : isSpace c = false) (rest : List Char) : skipSpace (c :: rest) = c :: rest :=
  List.dropWhile_cons_of_neg (by rw [h]; exact Bool.false_ne_true)

theorem skipSpace_skipSpace (cs : List Char) : skipSpace (skipSpace cs) = skipSpace cs := by
  unfold skipSpace
  exact List.dropWhile_idempotent _ cs

/-- Blanks before a value make no difference to its reading. -/
theorem scanValue_congr (fuel : Nat) {cs ds : List Char} (h : skipSpace cs = skipSpace ds) :
    scanValue fuel cs = scanValue fuel ds := by
  cases fuel with
  | zero => rw [scanValue, scanValue]
  | succ fuel => rw [scanValue, scanValue, h]

theorem scanItems_skipSpace (fuel : Nat) (cs : List Char) : scanItems fuel (skipSpace cs) = scanItems fuel cs := by
  cases fuel with
  | zero => rw [scanItems, scanItems]
  | succ fuel => rw [scanItems, scanItems, scanValue_congr fuel (skipSpace_skipSpace cs)]

theorem scanMembers_skipSpace (fuel : Nat) (cs : List Char) :
    scanMembers fuel (skipSpace cs) = scanMembers fuel cs := by
  cases fuel with
  | zero => rw [scanMembers, scanMembers]
  | succ fuel => rw [scanMembers, scanMembers, skipSpace_skipSpace]

theorem Ends.blanks {blanks rest : List Char} (hblanks : Blanks blanks) (h : Ends rest) : Ends (blanks ++ rest) := by
  cases blanks with
  | nil => exact h
  | cons b bs =>
      intro c r heq
      have hhead : b = c := (List.cons.inj heq).1
      subst hhead
      have hspace := hblanks b List.mem_cons_self
      simp only [isSpace, Bool.or_eq_true, decide_eq_true_eq] at hspace
      rcases hspace with ((rfl | rfl) | rfl) | rfl <;> rfl

/-- A delimiter does not go on with a number. -/
theorem ends_cons {c : Char} (h : continuesNumber c = false) (rest : List Char) : Ends (c :: rest) := by
  intro d r heq
  have hhead : c = d := (List.cons.inj heq).1
  exact hhead ▸ h

/-! ## Reading -/

theorem IsNumber.head {cs : List Char} (h : IsNumber cs) :
    ∃ c r, cs = c :: r ∧ (c = '-' ∨ c.isDigit = true) := by
  obtain ⟨sign, int, frac, exp, rfl, hsign, hint, _, _⟩ := h
  rcases hsign with rfl | rfl
  · rcases hint with rfl | ⟨hds, _⟩
    · exact ⟨'0', _, rfl, .inr (by decide)⟩
    · obtain ⟨d, more, rfl, hd⟩ := hds.head
      exact ⟨d, _, rfl, .inr hd⟩
  · exact ⟨'-', _, rfl, .inl rfl⟩

/-- **A value does not begin with a blank**, nor with a bracket or brace that closes something. -/
theorem Spells.head {v : Json} {cs : List Char} (h : Spells v cs) :
    ∃ c r, cs = c :: r ∧ isSpace c = false ∧ c ≠ ']' := by
  cases h with
  | null => exact ⟨_, _, rfl, by decide, by decide⟩
  | yes => exact ⟨_, _, rfl, by decide, by decide⟩
  | no => exact ⟨_, _, rfl, by decide, by decide⟩
  | string => exact ⟨_, _, rfl, by decide, by decide⟩
  | noItems => exact ⟨_, _, rfl, by decide, by decide⟩
  | items => exact ⟨_, _, rfl, by decide, by decide⟩
  | noMembers => exact ⟨_, _, rfl, by decide, by decide⟩
  | members => exact ⟨_, _, rfl, by decide, by decide⟩
  | number hnumber =>
      obtain ⟨c, r, heq, hc⟩ := hnumber.head
      refine ⟨c, r, heq, ?_⟩
      rcases hc with rfl | hdigit
      · exact ⟨by decide, by decide⟩
      · refine ⟨?_, ne_of_isDigit hdigit (by decide)⟩
        unfold isSpace
        simp [ne_of_isDigit hdigit (d := ' ') (by decide), ne_of_isDigit hdigit (d := '\t') (by decide),
          ne_of_isDigit hdigit (d := '\n') (by decide), ne_of_isDigit hdigit (d := '\r') (by decide)]

theorem scanText_of_spelled {us : List TextUnit} {cs : List Char} (h : SpelledUnits us cs) (rest : List Char) :
    scanText (cs ++ '\x22' :: rest) = some ((joinUnits us).map String.ofList, rest) := by
  unfold scanText
  rw [scanUnits_of_spelled h, Option.map_some]

/-! ### Brackets and braces -/

theorem scanValue_noItems {fuel : Nat} {cs rest : List Char} (h : skipSpace cs = ']' :: rest) :
    scanValue (fuel + 1) ('[' :: cs) = some (.array [], rest) := by
  rw [scanValue, skipSpace_cons (by decide)]
  simp only [h]

theorem scanValue_items {fuel : Nat} {vs : List Json} {cs rest : List Char} (h : ∀ r, skipSpace cs ≠ ']' :: r)
    (hitems : scanItems fuel cs = some (vs, rest)) : scanValue (fuel + 1) ('[' :: cs) = some (.array vs, rest) := by
  rw [← scanItems_skipSpace] at hitems
  rw [scanValue, skipSpace_cons (by decide)]
  -- By `h` the array is not the empty one.
  simp only [hitems, Option.map_some]

theorem scanValue_noMembers {fuel : Nat} {cs rest : List Char} (h : skipSpace cs = '\x7d' :: rest) :
    scanValue (fuel + 1) ('\x7b' :: cs) = some (.object [], rest) := by
  rw [scanValue, skipSpace_cons (by decide)]
  simp only [h]

theorem scanValue_members {fuel : Nat} {ms : List (Option String × Json)} {cs rest : List Char}
    (h : ∀ r, skipSpace cs ≠ '\x7d' :: r) (hmembers : scanMembers fuel cs = some (ms, rest)) :
    scanValue (fuel + 1) ('\x7b' :: cs) = some (.object ms, rest) := by
  rw [← scanMembers_skipSpace] at hmembers
  rw [scanValue, skipSpace_cons (by decide)]
  simp only [hmembers, Option.map_some]

/-- A character that begins a number begins no other value. -/
theorem scanValue_number {fuel : Nat} {c : Char} {r rest : List Char} (hc : c = '-' ∨ c.isDigit = true)
    (hspace : isSpace c = false) (hskip : skipNumber (c :: r) = some rest) :
    scanValue (fuel + 1) (c :: r) =
      some (.number (String.ofList ((c :: r).take ((c :: r).length - rest.length))), rest) := by
  have hother : ∀ d : Char, d ≠ '-' → d.isDigit = false → c ≠ d := by
    rintro d hminus hdigit rfl
    rcases hc with hc | hc
    · exact hminus hc
    · rw [hc] at hdigit
      cases hdigit
  rw [scanValue, skipSpace_cons hspace]
  split
  · rename_i heq; exact absurd (List.cons.inj heq).1 (hother 'n' (by decide) (by decide))
  · rename_i heq; exact absurd (List.cons.inj heq).1 (hother 't' (by decide) (by decide))
  · rename_i heq; exact absurd (List.cons.inj heq).1 (hother 'f' (by decide) (by decide))
  · rename_i heq; exact absurd (List.cons.inj heq).1 (hother '\x22' (by decide) (by decide))
  · rename_i heq; exact absurd (List.cons.inj heq).1 (hother '[' (by decide) (by decide))
  · rename_i heq; exact absurd (List.cons.inj heq).1 (hother '\x7b' (by decide) (by decide))
  · rw [hskip]
    rfl

/-! ### All spellings -/

/-- **With `fuel`, every spelling that is short enough is read**, whatever follows it. -/
structure Reads (fuel : Nat) : Prop where
  -- Two for each character are enough: going in at a bracket and on to the first item are two steps at one character.
  value : ∀ v cs rest, Spells v cs → 2 * cs.length ≤ fuel → Ends rest →
    scanValue fuel (cs ++ rest) = some (v, rest)
  items : ∀ vs cs rest, SpellsItems vs cs → 2 * cs.length + 1 ≤ fuel →
    scanItems fuel (cs ++ ']' :: rest) = some (vs, rest)
  members : ∀ ms cs rest, SpellsMembers ms cs → 2 * cs.length + 1 ≤ fuel →
    scanMembers fuel (cs ++ '\x7d' :: rest) = some (ms, rest)

/-- A value with blanks around it is read up to the blanks that follow it. -/
theorem Reads.padded {fuel : Nat} (h : Reads fuel) {v : Json} {cs : List Char} (hcs : SpellsPadded v cs)
    (hfuel : 2 * cs.length ≤ fuel) {rest : List Char} (hrest : Ends rest) :
    ∃ after, Blanks after ∧ scanValue fuel (cs ++ rest) = some (v, after ++ rest) := by
  obtain @⟨_, before, mid, after, hbefore, hmid, hafter⟩ := hcs
  refine ⟨after, hafter, ?_⟩
  have hshort : 2 * mid.length ≤ fuel := by
    simp only [List.length_append] at hfuel
    omega
  have hblanks : skipSpace (before ++ mid ++ after ++ rest) = skipSpace (mid ++ (after ++ rest)) := by
    rw [List.append_assoc, List.append_assoc, skipSpace_append hbefore]
  rw [scanValue_congr fuel hblanks, h.value v mid (after ++ rest) hmid hshort (hrest.blanks hafter)]

/-- What a value with blanks around it begins with, once the blanks are skipped. -/
theorem SpellsPadded.skipSpace_head {v : Json} {cs : List Char} (h : SpellsPadded v cs) (rest : List Char) :
    ∀ r, skipSpace (cs ++ rest) ≠ ']' :: r := by
  obtain @⟨_, before, mid, after, hbefore, hmid, _⟩ := h
  obtain ⟨c, tail, rfl, hspace, hclose⟩ := hmid.head
  intro r heq
  rw [List.append_assoc, List.append_assoc, skipSpace_append hbefore, List.cons_append, skipSpace_cons hspace] at heq
  exact hclose (List.cons.inj heq).1

theorem SpellsItems.skipSpace_head {vs : List Json} {cs : List Char} (h : SpellsItems vs cs) (rest : List Char) :
    ∀ r, skipSpace (cs ++ rest) ≠ ']' :: r := by
  cases h with
  | last hv => exact hv.skipSpace_head rest
  | more hv _ =>
      rw [List.append_assoc]
      exact hv.skipSpace_head _

/-- What the members of an object begin with, once the blanks are skipped. -/
theorem SpellsMembers.skipSpace_head {ms : List (Option String × Json)} {cs : List Char} (h : SpellsMembers ms cs)
    (rest : List Char) : ∃ r, skipSpace (cs ++ rest) = '\x22' :: r := by
  cases h with
  | last hbefore =>
      rw [List.append_assoc, skipSpace_append hbefore]
      exact ⟨_, skipSpace_cons (by decide) _⟩
  | more hbefore =>
      rw [List.append_assoc, skipSpace_append hbefore]
      exact ⟨_, skipSpace_cons (by decide) _⟩

/-- With one more of the fuel a value is read if all that is in it can be. -/
theorem Reads.value_succ {fuel : Nat} (h : Reads fuel) {v : Json} {cs rest : List Char} (hcs : Spells v cs)
    (hfuel : 2 * cs.length ≤ fuel + 1) (hrest : Ends rest) : scanValue (fuel + 1) (cs ++ rest) = some (v, rest) := by
  cases hcs with
  | null => rw [scanValue]; rfl
  | yes => rw [scanValue]; rfl
  | no => rw [scanValue]; rfl
  | @number literal hnumber =>
      obtain ⟨c, r, heq, hc⟩ := hnumber.head
      obtain ⟨c', r', heq', hspace, _⟩ := (Spells.number hnumber).head
      obtain ⟨rfl, rfl⟩ := List.cons.inj (heq.symm.trans heq')
      have hskip := skipNumber_of_isNumber hnumber hrest
      rw [heq, List.cons_append] at hskip
      rw [heq, List.cons_append, scanValue_number hc hspace hskip, ← List.cons_append, ← heq]
      -- The reader keeps the characters that it has passed over, and they are the literal.
      have hliteral : (literal.toList ++ rest).take ((literal.toList ++ rest).length - rest.length) =
          literal.toList := by
        rw [List.length_append, Nat.add_sub_cancel, List.take_left]
      rw [hliteral, String.ofList_toList]
  | @string us cs hus =>
      rw [scanValue, List.cons_append, List.cons_append, skipSpace_cons (by decide)]
      show (scanText (cs ++ ['\x22'] ++ rest)).map _ = _
      rw [List.append_assoc, List.singleton_append, scanText_of_spelled hus]
      rfl
  | @noItems blanks hblanks =>
      rw [List.cons_append, List.cons_append, List.append_assoc, List.singleton_append]
      exact scanValue_noItems (by rw [skipSpace_append hblanks, skipSpace_cons (by decide)])
  | @items vs cs hitems =>
      have hshort : 2 * cs.length + 1 ≤ fuel := by
        simp only [List.length_append, List.length_cons, List.length_nil] at hfuel
        omega
      rw [List.cons_append, List.cons_append, List.append_assoc, List.singleton_append]
      exact scanValue_items (hitems.skipSpace_head _) (h.items vs cs rest hitems hshort)
  | @noMembers blanks hblanks =>
      rw [List.cons_append, List.cons_append, List.append_assoc, List.singleton_append]
      exact scanValue_noMembers (by rw [skipSpace_append hblanks, skipSpace_cons (by decide)])
  | @members ms cs hmembers =>
      have hshort : 2 * cs.length + 1 ≤ fuel := by
        simp only [List.length_append, List.length_cons, List.length_nil] at hfuel
        omega
      -- The members begin with the quote of a name, so the brace after it does not come first.
      have hopen : ∀ r, skipSpace (cs ++ '\x7d' :: rest) ≠ '\x7d' :: r := by
        intro r heq
        obtain ⟨r', hquote⟩ := hmembers.skipSpace_head ('\x7d' :: rest)
        rw [hquote] at heq
        exact absurd (List.cons.inj heq).1 (by decide)
      rw [List.cons_append, List.cons_append, List.append_assoc, List.singleton_append]
      exact scanValue_members hopen (h.members ms cs rest hmembers hshort)

theorem Reads.items_succ {fuel : Nat} (h : Reads fuel) {vs : List Json} {cs rest : List Char}
    (hcs : SpellsItems vs cs) (hfuel : 2 * cs.length + 1 ≤ fuel + 1) :
    scanItems (fuel + 1) (cs ++ ']' :: rest) = some (vs, rest) := by
  cases hcs with
  | @last v cs hv =>
      obtain ⟨after, hafter, hread⟩ := h.padded hv (by omega) (ends_cons (c := ']') (by decide) rest)
      have hclose : skipSpace (after ++ ']' :: rest) = ']' :: rest := by
        rw [skipSpace_append hafter, skipSpace_cons (by decide)]
      rw [scanItems, hread, Option.bind_some]
      simp only [hclose]
  | @more v vs cs more hv hmore =>
      have hshort : 2 * cs.length ≤ fuel ∧ 2 * more.length + 1 ≤ fuel := by
        simp only [List.length_append, List.length_cons] at hfuel
        omega
      obtain ⟨after, hafter, hread⟩ :=
        h.padded hv hshort.1 (ends_cons (c := ',') (by decide) (more ++ ']' :: rest))
      have hcomma : skipSpace (after ++ ',' :: (more ++ ']' :: rest)) = ',' :: (more ++ ']' :: rest) := by
        rw [skipSpace_append hafter, skipSpace_cons (by decide)]
      rw [List.append_assoc, List.cons_append, scanItems, hread, Option.bind_some]
      simp only [hcomma]
      rw [h.items vs more rest hmore hshort.2]
      rfl

/-- The last member of an object: its name, its colon, its value and the closing brace. -/
theorem scanMembers_last {fuel : Nat} {us : List TextUnit} {v : Json} {before name between cs after rest : List Char}
    (hbefore : Blanks before) (hname : SpelledUnits us name) (hbetween : Blanks between)
    (hvalue : scanValue fuel cs = some (v, after)) (hclose : skipSpace after = '\x7d' :: rest) :
    scanMembers (fuel + 1) (before ++ '\x22' :: (name ++ '\x22' :: (between ++ ':' :: cs))) =
      some ([((joinUnits us).map String.ofList, v)], rest) := by
  have hcolon : skipSpace (between ++ ':' :: cs) = ':' :: cs := by
    rw [skipSpace_append hbetween, skipSpace_cons (by decide)]
  rw [scanMembers, skipSpace_append hbefore, skipSpace_cons (by decide)]
  simp only [scanText_of_spelled hname, Option.bind_some, hcolon, hvalue, hclose]

/-- A member that others follow. -/
theorem scanMembers_more {fuel : Nat} {us : List TextUnit} {v : Json} {ms : List (Option String × Json)}
    {before name between cs after more rest : List Char} (hbefore : Blanks before) (hname : SpelledUnits us name)
    (hbetween : Blanks between) (hvalue : scanValue fuel cs = some (v, after))
    (hcomma : skipSpace after = ',' :: more) (hmore : scanMembers fuel more = some (ms, rest)) :
    scanMembers (fuel + 1) (before ++ '\x22' :: (name ++ '\x22' :: (between ++ ':' :: cs))) =
      some (((joinUnits us).map String.ofList, v) :: ms, rest) := by
  have hcolon : skipSpace (between ++ ':' :: cs) = ':' :: cs := by
    rw [skipSpace_append hbetween, skipSpace_cons (by decide)]
  rw [scanMembers, skipSpace_append hbefore, skipSpace_cons (by decide)]
  simp only [scanText_of_spelled hname, Option.bind_some, hcolon, hvalue, hcomma, hmore, Option.map_some]

theorem Reads.members_succ {fuel : Nat} (h : Reads fuel) {ms : List (Option String × Json)} {cs rest : List Char}
    (hcs : SpellsMembers ms cs) (hfuel : 2 * cs.length + 1 ≤ fuel + 1) :
    scanMembers (fuel + 1) (cs ++ '\x7d' :: rest) = some (ms, rest) := by
  cases hcs with
  | @last us v before name between cs hbefore hname hbetween hv =>
      have hshort : 2 * cs.length ≤ fuel := by
        simp only [List.length_append, List.length_cons] at hfuel
        omega
      obtain ⟨after, hafter, hread⟩ := h.padded hv hshort (ends_cons (c := '\x7d') (by decide) rest)
      have hclose : skipSpace (after ++ '\x7d' :: rest) = '\x7d' :: rest := by
        rw [skipSpace_append hafter, skipSpace_cons (by decide)]
      simp only [List.append_assoc, List.cons_append]
      exact scanMembers_last hbefore hname hbetween hread hclose
  | @more us v ms before name between cs more hbefore hname hbetween hv hmore =>
      have hshort : 2 * cs.length ≤ fuel ∧ 2 * more.length + 1 ≤ fuel := by
        simp only [List.length_append, List.length_cons] at hfuel
        omega
      obtain ⟨after, hafter, hread⟩ :=
        h.padded hv hshort.1 (ends_cons (c := ',') (by decide) (more ++ '\x7d' :: rest))
      have hcomma : skipSpace (after ++ ',' :: (more ++ '\x7d' :: rest)) = ',' :: (more ++ '\x7d' :: rest) := by
        rw [skipSpace_append hafter, skipSpace_cons (by decide)]
      simp only [List.append_assoc, List.cons_append]
      exact scanMembers_more hbefore hname hbetween hread hcomma (h.members ms more rest hmore hshort.2)

/-- **Every spelling is read**, by induction on the fuel, as the reader runs. -/
theorem reads (fuel : Nat) : Reads fuel := by
  induction fuel with
  | zero =>
      refine ⟨fun v cs rest hcs hfuel _ => ?_, fun _ _ _ _ hfuel => ?_, fun _ _ _ _ hfuel => ?_⟩
      · obtain ⟨c, r, rfl, _⟩ := hcs.head
        simp at hfuel
      · omega
      · omega
  | succ fuel ih =>
      exact ⟨fun _ _ _ hcs hfuel hrest => ih.value_succ hcs hfuel hrest,
        fun _ _ _ hcs hfuel => ih.items_succ hcs hfuel, fun _ _ _ hcs hfuel => ih.members_succ hcs hfuel⟩

/-- **Every text that spells a value is read as that value.** -/
theorem parse?_of_spells {v : Json} {s : String} (h : SpellsPadded v s.toList) : parse? s = some v := by
  have hends : Ends [] := fun _ _ heq => by cases heq
  obtain ⟨after, hafter, hread⟩ := (reads (2 * s.toList.length + 2)).padded h (by omega) hends
  have hnothing : skipSpace after = [] := List.dropWhile_eq_nil_iff.mpr hafter
  unfold parse?
  rw [List.append_nil, List.append_nil] at hread
  simp only [hread, hnothing]
  rfl

/-! ## Compact writing -/

/-- **A value that can be written**: each of its numbers is one. -/
inductive Writable : Json → Prop where
  | null : Writable .null
  | bool (b : Bool) : Writable (.bool b)
  | number {literal : String} (h : IsNumber literal.toList) : Writable (.number literal)
  | string (text : Option String) : Writable (.string text)
  | array {items : List Json} (h : ∀ v ∈ items, Writable v) : Writable (.array items)
  | object {members : List (Option String × Json)} (h : ∀ m ∈ members, Writable m.2) : Writable (.object members)

theorem render_array (items : List Json) :
    (Json.array items).render = '[' :: commaSeparated (items.map render) ++ [']'] := by
  rw [render]

/-- A member of an object as it is written. -/
def renderMember (m : Option String × Json) : List Char := renderText m.1 ++ ':' :: m.2.render

theorem render_object (members : List (Option String × Json)) :
    (Json.object members).render = '\x7b' :: commaSeparated (members.map renderMember) ++ ['\x7d'] := by
  rw [render]
  show '\x7b' :: commaSeparated (members.attach.map (renderMember ∘ Subtype.val)) ++ ['\x7d'] = _
  rw [← List.map_map, List.attach_map_subtype_val]

/-- **A written string is a spelling**; half a pair of code units stands for a text that there is not. -/
theorem spelled_renderText (text : Option String) :
    ∃ us cs, SpelledUnits us cs ∧ (joinUnits us).map String.ofList = text ∧
      renderText text = '\x22' :: (cs ++ ['\x22']) := by
  cases text with
  | none => exact ⟨[.code 0xD800], _, .code rfl .nil, rfl, rfl⟩
  | some s =>
      refine ⟨_, _, spelledUnits_encode s.toList, ?_, rfl⟩
      rw [joinUnits_map_char, Option.map_some, String.ofList_toList]

/-- A spelling without blanks is one with no blanks around it. -/
theorem Spells.padded {v : Json} {cs : List Char} (h : Spells v cs) : SpellsPadded v cs := by
  have hpadded := SpellsPadded.mk blanks_nil h blanks_nil
  rwa [List.nil_append, List.append_nil] at hpadded

theorem spellsItems_render {items : List Json} (hne : items ≠ []) (h : ∀ v ∈ items, Spells v v.render) :
    SpellsItems items (commaSeparated (items.map render)) := by
  induction items with
  | nil => exact absurd rfl hne
  | cons v vs ih =>
      have hv : SpellsPadded v v.render := (h v List.mem_cons_self).padded
      cases vs with
      | nil => exact .last hv
      | cons w ws => exact .more hv (ih (List.cons_ne_nil w ws) fun x hx => h x (List.mem_cons_of_mem v hx))

theorem spellsMembers_render {members : List (Option String × Json)} (hne : members ≠ [])
    (h : ∀ m ∈ members, Spells m.2 m.2.render) :
    SpellsMembers members (commaSeparated (members.map renderMember)) := by
  induction members with
  | nil => exact absurd rfl hne
  | cons m ms ih =>
      obtain ⟨name, v⟩ := m
      obtain ⟨us, cs, hus, rfl, hname⟩ := spelled_renderText name
      have hv : SpellsPadded v v.render := (h (_, v) List.mem_cons_self).padded
      have hmember : renderMember ((joinUnits us).map String.ofList, v) =
          [] ++ '\x22' :: (cs ++ '\x22' :: ([] ++ ':' :: v.render)) := by
        rw [renderMember, hname]
        simp
      cases ms with
      | nil =>
          show SpellsMembers _ (renderMember ((joinUnits us).map String.ofList, v))
          rw [hmember]
          exact .last blanks_nil hus blanks_nil hv
      | cons w ws =>
          have hmore := SpellsMembers.more blanks_nil hus blanks_nil hv
            (ih (List.cons_ne_nil w ws) fun x hx => h x (List.mem_cons_of_mem _ hx))
          show SpellsMembers _ (renderMember ((joinUnits us).map String.ofList, v) ++
            ',' :: commaSeparated ((w :: ws).map renderMember))
          rw [hmember]
          simpa only [List.nil_append, List.append_assoc, List.cons_append] using hmore

/-- **What is written spells the value**, by induction on the value. -/
theorem spells_render {v : Json} (h : Writable v) : Spells v v.render := by
  induction h with
  | null => rw [render]; exact .null
  | bool b =>
      cases b with
      | true => rw [render]; exact .yes
      | false => rw [render]; exact .no
  | number hnumber => rw [render]; exact .number hnumber
  | string text =>
      obtain ⟨us, cs, hus, rfl, htext⟩ := spelled_renderText text
      rw [render, htext]
      exact .string hus
  | @array items _ ih =>
      rw [render_array]
      cases items with
      | nil => exact .noItems blanks_nil
      | cons v vs => exact .items (spellsItems_render (List.cons_ne_nil v vs) ih)
  | @object members _ ih =>
      rw [render_object]
      cases members with
      | nil => exact .noMembers blanks_nil
      | cons m ms => exact .members (spellsMembers_render (List.cons_ne_nil m ms) ih)

/-- **What is written is read back.** -/
theorem parse?_render {v : Json} (h : Writable v) : parse? (String.ofList v.render) = some v := by
  refine parse?_of_spells ?_
  rw [String.toList_ofList]
  exact (spells_render h).padded

end DeployBoard.Json
