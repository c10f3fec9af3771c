import DeployBoard.Proofs.Url.Prefix

/-!
# `Proofs.Url.Trailing` — blanks behind the host

Blanks and control characters at the end of an address do not count. In its middle they do, and behind the part that
names the host they are refused (`readAuthority_append_outer`): no port ends in one (`readPort_append_outer`), no address
between brackets, and no name, in whatever way it is written (`readHost_append_outer`). A name is decoded, mapped, cut
into labels and checked; each of these stages hands what stands at the end of the name on to the next one as it
is, until the last refuses it.
-/

namespace DeployBoard.Url

open Text

/-- What holds of the characters up to the blank holds of every blank and control character. -/
theorem forall_outer {P : Char → Prop} (h : ∀ n < 0x21, P (Char.ofNat n)) {t : Char} (ht : isOuter t = true) : P t :=
  forall_char_below h (Nat.lt_succ_of_le (of_decide_eq_true ht))

theorem hexValue_outer {t : Char} (ht : isOuter t = true) : hexValue? t = none :=
  forall_outer (P := fun t => hexValue? t = none) (by decide) ht

theorem ne_percent_outer {t : Char} (ht : isOuter t = true) : t ≠ '%' :=
  forall_outer (P := fun t => t ≠ '%') (by decide) ht

theorem utf8Bytes_outer {t : Char} (ht : isOuter t = true) : utf8Bytes t = [t.toNat] :=
  forall_outer (P := fun t => utf8Bytes t = [t.toNat]) (by decide) ht

theorem mapNameChar_outer {t : Char} (ht : isOuter t = true) : mapNameChar t = some [t] :=
  forall_outer (P := fun t => mapNameChar t = some [t]) (by decide) ht

theorem forbidden_outer {t : Char} (ht : isOuter t = true) : forbiddenInDomain t = true :=
  forall_outer (P := fun t => forbiddenInDomain t = true) (by decide) ht

theorem digitValue_outer {t : Char} (ht : isOuter t = true) : Punycode.digitValue? t = none :=
  forall_outer (P := fun t => Punycode.digitValue? t = none) (by decide) ht

theorem not_endsAuthority_outer {t : Char} (ht : isOuter t = true) : endsAuthority true t = false :=
  forall_outer (P := fun t => endsAuthority true t = false) (by decide) ht

theorem slash_outer {t : Char} (ht : isOuter t = true) : isSlash t = false :=
  forall_outer (P := fun t => isSlash t = false) (by decide) ht

/-- The characters that cut the part that names the host into its parts. -/
def authorityMarks : List Char := ['@', ':', '[', ']', '\\', '-', '.']

theorem not_mark_outer {t : Char} (ht : isOuter t = true) : t ∉ authorityMarks :=
  forall_outer (P := fun t => t ∉ authorityMarks) (by decide) ht

variable {cs ts : List Char}

/-- **Dots with blanks behind them are no dots.** -/
theorem isPlainSegment_append_outer (hts : ∀ t ∈ ts, isOuter t = true) (hne : ts ≠ []) :
    isPlainSegment (cs ++ ts) = true := by
  have hnone : ∀ dots : List String, (∀ d ∈ dots, d.toList.getLast?.all (!isOuter ·) = true) →
      dots.contains (String.ofList (cs ++ ts)) = false := by
    intro dots hdots
    refine Bool.eq_false_iff.mpr fun hmem => ?_
    have hlast := hdots _ (List.contains_iff_mem.mp hmem)
    rw [String.toList_ofList, List.getLast?_append, List.getLast?_eq_some_getLast hne] at hlast
    have houter : isOuter (ts.getLast hne) = true := hts _ (List.getLast_mem hne)
    simp [houter] at hlast
  have hdouble : isDoubleDot (cs ++ ts) = false := hnone _ (by decide)
  have hsingle : isSingleDot (cs ++ ts) = false := hnone _ (by decide)
  unfold isPlainSegment
  rw [hdouble, hsingle]
  rfl

/-! ## Names -/

/-- A percent sign without two digits behind it stands for itself. -/
theorem percentDecode_percent {a b : Char} (h : hexValue? a = none ∨ hexValue? b = none) (rest : List Char) :
    percentDecode ('%' :: a :: b :: rest) = 0x25 :: percentDecode (a :: b :: rest) := by
  rw [percentDecode]
  cases ha : hexValue? a with
  | none => rfl
  | some x =>
      rw [ha] at h
      rw [h.resolve_left (Option.some_ne_none x)]

theorem percentDecode_outer (hts : ∀ t ∈ ts, isOuter t = true) : percentDecode ts = ts.map (·.toNat) := by
  induction ts with
  | nil => rfl
  | cons t ts ih =>
      obtain ⟨ht, hrest⟩ := List.forall_mem_cons.mp hts
      rw [percentDecode_cons (ne_percent_outer ht), utf8Bytes_outer ht, ih hrest]
      rfl

/-- **What stands at the end is decoded apart**, as it is no digit of a percent sign before it. -/
theorem percentDecode_append_outer (hts : ∀ t ∈ ts, isOuter t = true) :
    percentDecode (cs ++ ts) = percentDecode cs ++ ts.map (·.toNat) := by
  fun_induction percentDecode cs with
  | case1 a b rest x y hb ha ih =>
      show percentDecode ('%' :: a :: b :: (rest ++ ts)) = _
      rw [percentDecode, ha, hb, List.cons_append, ← ih]
  | case2 a b rest hnot ih =>
      have hnone : hexValue? a = none ∨ hexValue? b = none := by
        cases ha : hexValue? a with
        | none => exact .inl rfl
        | some x =>
            cases hb : hexValue? b with
            | none => exact .inr rfl
            | some y => exact absurd hb (hnot x y ha)
      show percentDecode ('%' :: a :: b :: (rest ++ ts)) = _
      rw [percentDecode_percent hnone, List.cons_append, ← ih]
      rfl
  | case3 c rest hshort ih =>
      rw [List.append_assoc, ← ih]
      by_cases hc : c = '%'
      · -- At most one character follows, and then `ts`, which begins with no digit.
        subst hc
        cases rest with
        | nil =>
            cases ts with
            | nil => rfl
            | cons t ts =>
                have ht := hexValue_outer (hts t List.mem_cons_self)
                cases ts with
                | nil => rfl
                | cons u ts => exact percentDecode_percent (.inl ht) ts
        | cons a rest =>
            cases rest with
            | nil =>
                cases ts with
                | nil => rfl
                | cons t ts => exact percentDecode_percent (.inr (hexValue_outer (hts t List.mem_cons_self))) ts
            | cons b rest => exact absurd rfl (hshort a b rest rfl)
      · exact percentDecode_cons hc (rest ++ ts)
  | case4 => exact percentDecode_outer hts

/-- A byte that cannot continue a character ends it, and is read anew. -/
theorem decodeFrom_broken {p : Pending} {b : Nat} (h : ¬ (p.low ≤ b ∧ b ≤ p.high)) (rest : List Nat) :
    decodeFrom (some p) (b :: rest) = none :: decodeFrom none (b :: rest) := by
  rw [decodeFrom, decodeFrom]
  simp only [if_neg h]
  cases firstByte b with
  | none => simp
  | some first => cases first <;> simp

/-- The bytes that continue a character are none that stand alone. -/
theorem firstByte_low {b : Nat} {p : Pending} (h : firstByte b = some (.inr p)) : 0x80 ≤ p.low := by
  unfold firstByte at h
  repeat' split at h
  all_goals simp only [Option.some.injEq, Sum.inr.injEq, reduceCtorEq] at h
  all_goals
    subst h
    simp

theorem decodeFrom_ascii {ns : List Nat} (hns : ∀ n ∈ ns, n < 0x80) :
    decodeFrom none ns = ns.map fun n => some (Char.ofNat n) := by
  induction ns with
  | nil => rfl
  | cons n ns ih =>
      obtain ⟨hn, hrest⟩ := List.forall_mem_cons.mp hns
      have hfirst : firstByte n = some (.inl (Char.ofNat n)) := if_pos hn
      rw [decodeFrom]
      simp only [hfirst, ih hrest]
      rfl

/-- **Bytes that stand alone are read apart** from what is before them, which is ill-formed with or without them where it
    is not complete. -/
theorem decodeFrom_append_ascii {bs ns : List Nat} (hns : ∀ n ∈ ns, n < 0x80) {pending : Option Pending}
    (hpending : ∀ p ∈ pending, 0x80 ≤ p.low) :
    decodeFrom pending (bs ++ ns) = decodeFrom pending bs ++ ns.map fun n => some (Char.ofNat n) := by
  induction bs generalizing pending with
  | nil =>
      rw [List.nil_append]
      cases pending with
      | none => exact decodeFrom_ascii hns
      | some p =>
          cases ns with
          | nil => rfl
          | cons n ns =>
              have hlow : 0x80 ≤ p.low := hpending p rfl
              have hn : n < 0x80 := hns n List.mem_cons_self
              rw [decodeFrom_broken (by omega), decodeFrom_ascii hns]
              rfl
  | cons b bs ih =>
      have hfresh : decodeFrom none (b :: bs ++ ns) =
          decodeFrom none (b :: bs) ++ ns.map fun n => some (Char.ofNat n) := by
        rw [List.cons_append, decodeFrom, decodeFrom]
        have hnone : ∀ p ∈ (none : Option Pending), 0x80 ≤ p.low := fun p hp => by cases hp
        cases hfirst : firstByte b with
        | none => simp [ih hnone]
        | some first =>
            cases first with
            | inl c => simp [ih hnone]
            | inr p =>
                have hlow : ∀ q ∈ some p, 0x80 ≤ q.low := fun q hq => by
                  cases hq
                  exact firstByte_low hfirst
                simp [ih hlow]
      cases pending with
      | none => exact hfresh
      | some p =>
          -- A byte out of range ends the pending character and is read anew, with `ns` behind it or without.
          by_cases hrange : p.low ≤ b ∧ b ≤ p.high
          · have hnone : ∀ p ∈ (none : Option Pending), 0x80 ≤ p.low := fun p hp => by cases hp
            rw [List.cons_append, decodeFrom, decodeFrom]
            simp only [if_pos hrange]
            split
            · rw [ih hnone, List.cons_append]
            · rw [ih]
              intro q hq
              obtain rfl := Option.mem_some.mp hq
              exact Nat.le_refl 0x80
          · rw [List.cons_append, decodeFrom_broken hrange, decodeFrom_broken hrange, ← List.cons_append, hfresh]
            rfl

/-- **What stands at the end is read apart.** -/
theorem decodeUtf8Lossy_append_outer {bs : List Nat} (hts : ∀ t ∈ ts, isOuter t = true) :
    decodeUtf8Lossy (bs ++ ts.map (·.toNat)) = decodeUtf8Lossy bs ++ ts := by
  have hascii : ∀ n ∈ ts.map (·.toNat), n < 0x80 := by
    intro n hn
    obtain ⟨t, ht, rfl⟩ := List.mem_map.mp hn
    have hle : t.toNat ≤ 0x20 := of_decide_eq_true (hts t ht)
    omega
  have hback : (ts.map (·.toNat)).map (fun n => (some (Char.ofNat n)).getD '\uFFFD') = ts := by
    simp [Function.comp_def]
  unfold decodeUtf8Lossy
  rw [decodeFrom_append_ascii hascii (fun p hp => by cases hp), List.map_append]
  congr 1
  rw [List.map_map]
  exact hback

/-- **What stands at the end is mapped to itself.** -/
theorem mapName_append_outer (hts : ∀ t ∈ ts, isOuter t = true) : mapName (cs ++ ts) = (mapName cs).map (· ++ ts) := by
  have hself : ts.mapM mapNameChar = some (ts.map ([·])) := by
    induction ts with
    | nil => rfl
    | cons t ts ih =>
        obtain ⟨ht, hrest⟩ := List.forall_mem_cons.mp hts
        rw [List.mapM_cons, mapNameChar_outer ht, ih hrest]
        rfl
  unfold mapName
  rw [List.mapM_append, hself]
  cases cs.mapM mapNameChar with
  | none => rfl
  | some pieces => simp [← List.flatMap_def]

/-- **What stands at the end stays in the last piece**, if it holds no mark. -/
theorem splitAtChar_append {mark : Char} (hts : mark ∉ ts) (piece cs : List Char) :
    ∃ pieces last, splitAtChar mark piece (cs ++ ts) = pieces ++ [last ++ ts] := by
  induction cs generalizing piece with
  | nil =>
      refine ⟨[], piece.reverse, ?_⟩
      induction ts generalizing piece with
      | nil => simp [splitAtChar]
      | cons t ts ih =>
          obtain ⟨ht, hrest⟩ := List.ne_and_not_mem_of_not_mem_cons hts
          have hlater := ih hrest (t :: piece)
          rw [List.nil_append] at hlater ⊢
          rw [splitAtChar, if_neg ht.symm, hlater]
          simp
  | cons c cs ih =>
      rw [List.cons_append, splitAtChar]
      split
      · obtain ⟨pieces, last, h⟩ := ih []
        exact ⟨piece.reverse :: pieces, last, by rw [h, List.cons_append]⟩
      · exact ih _

/-- A reader that cannot go on at some item does not come to the end of the list. -/
theorem foldlM_eq_none_of_mem {σ α : Type} {f : σ → α → Option σ} {a : α} (ha : ∀ s, f s a = none) {as : List α}
    (hmem : a ∈ as) (s : σ) : as.foldlM f s = none := by
  induction as generalizing s with
  | nil => cases hmem
  | cons b as ih =>
      rw [List.foldlM_cons]
      cases hmem with
      | head =>
          rw [ha]
          rfl
      | tail _ hmem =>
          cases f s b with
          | none => rfl
          | some t => exact ih hmem t

/-- The digits of a label in ASCII are at its end. -/
theorem mem_splitLast_of_getLast? {t : Char} (ht : t ≠ '-') (h : cs.getLast? = some t) :
    t ∈ (Punycode.splitLast cs).2 := by
  obtain ⟨before, rfl⟩ := List.getLast?_eq_some_iff.mp h
  have hdigits : t ∈ (((before ++ [t]).reverse.takeWhile (· ≠ '-')).reverse) := by
    rw [List.mem_reverse, List.reverse_append, List.reverse_singleton, List.singleton_append,
      List.takeWhile_cons_of_pos (by simpa using ht)]
    exact List.mem_cons_self
  unfold Punycode.splitLast
  simp only
  split
  · exact hdigits
  · exact List.mem_append_right _ List.mem_cons_self
  · exact hdigits

/-- A label in ASCII for another script has digits at its end. -/
theorem decode_outer {t : Char} (ht : isOuter t = true) (hlast : cs.getLast? = some t) : Punycode.decode? cs = none := by
  have hmark : t ≠ '-' := fun h => not_mark_outer ht (h ▸ by decide)
  have hstep : ∀ s, Punycode.step s t = none := by
    intro s
    unfold Punycode.step
    rw [digitValue_outer ht]
    rfl
  unfold Punycode.decode?
  simp only
  rw [foldlM_eq_none_of_mem hstep (mem_splitLast_of_getLast? hmark hlast)]
  rfl

/-- **No label ends in such a character**, and none is written so. -/
theorem checkedLabel_outer {label : List Char} {t : Char} (ht : isOuter t = true) (hlast : label.getLast? = some t) :
    checkedLabel label = none := by
  have hread : readLabel label = none ∨ readLabel label = some label := by
    unfold readLabel
    split
    · rename_i rest
      left
      have hrest : rest.getLast? = some t := by
        have happend : (['x', 'n', '-', '-'] ++ rest).getLast? = some t := hlast
        rw [List.getLast?_append] at happend
        cases hend : rest.getLast? with
        | some u => rwa [hend, Option.some_or] at happend
        | none =>
            rw [hend, Option.none_or] at happend
            obtain rfl := Option.some.inj happend
            exact absurd ht (by decide)
      rw [decode_outer ht hrest]
      rfl
    · exact .inr rfl
  have hforbidden : label.any forbiddenInDomain = true :=
    List.any_eq_true.mpr ⟨t, List.mem_of_getLast? hlast, forbidden_outer ht⟩
  unfold checkedLabel
  rcases hread with hread | hread
  · rw [hread]
    rfl
  · rw [hread]
    show (if startsWithMark label || label.any forbiddenInDomain then none else some label) = none
    rw [hforbidden, Bool.or_true]
    rfl

/-- **A name that ends in such characters is refused.** -/
theorem domainLabels_append_outer (hts : ∀ t ∈ ts, isOuter t = true) (hne : ts ≠ []) : domainLabels (cs ++ ts) = none := by
  have hdot : '.' ∉ ts := fun h => not_mark_outer (hts _ h) (by decide)
  unfold domainLabels
  rw [mapName_append_outer hts]
  cases hname : mapName cs with
  | none => rfl
  | some mapped =>
      obtain ⟨pieces, last, hsplit⟩ := splitAtChar_append hdot [] mapped
      have hlast : (last ++ ts).getLast? = some (ts.getLast hne) := by
        rw [List.getLast?_append, List.getLast?_eq_some_getLast hne, Option.some_or]
      have hlabel : checkedLabel (last ++ ts) = none := checkedLabel_outer (hts _ (List.getLast_mem hne)) hlast
      have hnone : (pieces ++ [last ++ ts]).mapM checkedLabel = none := by
        rw [List.mapM_append, List.mapM_cons, hlabel]
        cases pieces.mapM checkedLabel <;> rfl
      simp only [Option.map_some, Option.bind_eq_bind, Option.bind_some, hsplit, hnone]
      rfl

/-! ## Hosts, ports and what names them -/

/-- **No host ends in such characters.** -/
theorem readHost_append_outer (hts : ∀ t ∈ ts, isOuter t = true) (hne : ts ≠ []) (cs : List Char) :
    ∃ e, readHost (cs ++ ts) = .error e := by
  unfold readHost
  split
  · rename_i rest hbracket
    have hopen : rest.getLast? ≠ some ']' := by
      intro hclosed
      have hlast : (['['] ++ rest).getLast? = some (ts.getLast hne) := by
        rw [List.singleton_append, ← hbracket, List.getLast?_append, List.getLast?_eq_some_getLast hne, Option.some_or]
      rw [List.getLast?_append, hclosed, Option.some_or] at hlast
      have hmark := not_mark_outer (hts _ (List.getLast_mem hne))
      rw [← Option.some.inj hlast] at hmark
      exact hmark (by decide)
    exact ⟨.ipv6, if_neg hopen⟩
  · rw [percentDecode_append_outer hts, decodeUtf8Lossy_append_outer hts, domainLabels_append_outer hts hne]
    exact ⟨_, rfl⟩

/-- **No port ends in such characters.** -/
theorem readPort_append_outer (hts : ∀ t ∈ ts, isOuter t = true) (hne : ts ≠ []) (hcs : '\\' ∉ cs) :
    readPort (cs ++ ts) = .error .port := by
  -- The digits end before `ts`, and what follows them is no backslash.
  have hmore : ((cs ++ ts).dropWhile Char.isDigit).isEmpty = false := by
    rw [Bool.eq_false_iff, ne_eq, List.isEmpty_iff]
    intro hnone
    have hall : (cs ++ ts).takeWhile Char.isDigit = cs ++ ts := by
      have hsplit := List.takeWhile_append_dropWhile (p := Char.isDigit) (l := cs ++ ts)
      rwa [hnone, List.append_nil] at hsplit
    have hdigits : ∀ c ∈ cs ++ ts, c.isDigit = true := by
      rw [← hall]
      exact List.all_eq_true.mp List.all_takeWhile
    have hdigit := hdigits _ (List.mem_append_right cs (List.getLast_mem hne))
    rw [forall_outer (P := fun t => t.isDigit = false) (by decide) (hts _ (List.getLast_mem hne))] at hdigit
    cases hdigit
  have hhead : ((cs ++ ts).dropWhile Char.isDigit).head? ≠ some '\\' := by
    intro hhead
    have hmem : '\\' ∈ cs ++ ts := (List.dropWhile_suffix _).subset (List.mem_of_mem_head? hhead)
    rcases List.mem_append.mp hmem with hmem | hmem
    · exact hcs hmem
    · exact not_mark_outer (hts _ hmem) (by decide)
  unfold readPort
  simp [hmore, hhead]

/-- What names the host ends the part after the at sign. -/
theorem splitUser_append (hts : '@' ∉ ts) (cs : List Char) :
    ∃ rest, ((splitUser (cs ++ ts)).getD ([], cs ++ ts)).2 = rest ++ ts ∧ ∀ c ∈ rest, c ∈ cs := by
  have hall : ∀ t ∈ ts.reverse, decide (t ≠ '@') = true :=
    fun t ht => decide_eq_true fun h => hts (h ▸ List.mem_reverse.mp ht)
  have hhost : ((cs ++ ts).reverse.takeWhile (· ≠ '@')).reverse = (cs.reverse.takeWhile (· ≠ '@')).reverse ++ ts := by
    rw [List.reverse_append, List.takeWhile_append_of_pos hall, List.reverse_append, List.reverse_reverse]
  unfold splitUser
  simp only [hhost]
  split
  · exact ⟨cs, rfl, fun c hc => hc⟩
  · refine ⟨_, rfl, fun c hc => ?_⟩
    exact List.mem_reverse.mp ((List.takeWhile_prefix _).subset (List.mem_reverse.mp hc))

/-- Either the host goes on to the end, or what follows its colon does. -/
theorem splitHost_append (hts : ∀ t ∈ ts, t ∉ authorityMarks) (bracketed : Bool) (cs : List Char) :
    (∃ text, splitHost bracketed (cs ++ ts) = (text ++ ts, [])) ∨
      ∃ text after, splitHost bracketed (cs ++ ts) = (text, ':' :: (after ++ ts)) ∧ ∀ c ∈ after, c ∈ cs := by
  induction cs generalizing bracketed with
  | nil =>
      left
      refine ⟨[], ?_⟩
      rw [List.nil_append]
      induction ts with
      | nil => rfl
      | cons t ts ih =>
          obtain ⟨ht, hrest⟩ := List.forall_mem_cons.mp hts
          simp only [authorityMarks, List.mem_cons, not_or] at ht
          rw [splitHost, if_neg (fun h => ht.2.1 h.1), if_neg ht.2.2.1, if_neg ht.2.2.2.1]
          simp only [ih hrest]
  | cons c cs ih =>
      rw [List.cons_append, splitHost]
      by_cases hcolon : c = ':' ∧ bracketed = false
      · rw [if_pos hcolon]
        right
        exact ⟨[], cs, by rw [hcolon.1], fun d hd => List.mem_cons_of_mem c hd⟩
      · rw [if_neg hcolon]
        simp only
        rcases ih (if c = '[' then true else if c = ']' then false else bracketed) with ⟨text, h⟩ | ⟨text, after, h, hmem⟩
        · left
          exact ⟨c :: text, by rw [h]; rfl⟩
        · right
          exact ⟨c :: text, after, by rw [h], fun d hd => List.mem_cons_of_mem c (hmem d hd)⟩

/-- **What names the host does not end in such characters**, with a port or without. -/
theorem readAuthority_append_outer {scheme : String} (hweb : isWeb scheme = true) (hts : ∀ t ∈ ts, isOuter t = true)
    (hne : ts ≠ []) {authority : List Char} (hslash : '\\' ∉ authority) (more : Bool) :
    ∃ e, readAuthority scheme (authority ++ ts) more = .error e := by
  have hmarks : ∀ t ∈ ts, t ∉ authorityMarks := fun t ht => not_mark_outer (hts t ht)
  obtain ⟨rest, hrest, hmem⟩ := splitUser_append (fun h => hmarks _ h (by decide)) authority
  unfold readAuthority
  simp only [hrest, hweb]
  rcases splitHost_append hmarks false rest with ⟨text, hhost⟩ | ⟨text, after, hhost, hafter⟩
  · obtain ⟨e, he⟩ := readHost_append_outer hts hne text
    have htext : (text ++ ts).isEmpty = false := by simp [hne]
    simp only [hhost, htext, he]
    exact ⟨e, rfl⟩
  · have hport : readPort (after ++ ts) = .error .port :=
      readPort_append_outer hts hne fun h => hslash (hmem _ (hafter _ h))
    simp only [hhost, List.tail_cons, hport]
    split
    · exact ⟨_, rfl⟩
    · cases readHost text with
      | error e => exact ⟨e, rfl⟩
      | ok host => exact ⟨_, rfl⟩

end DeployBoard.Url
