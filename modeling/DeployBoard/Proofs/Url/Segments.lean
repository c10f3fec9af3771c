import DeployBoard.Proofs.Url.Percent
import DeployBoard.Url.Basic

/-!
# `Proofs.Url.Segments` — paths as segments

A path is cut at its slashes, its dots are resolved, its segments are encoded, and they are joined again. Each of these
stages is looked at alone: cutting goes on behind a slash (`splitSegments_append`), and resolving from where the segments
before lead (`resolveDots_append`); joining is undone by cutting (`joinSegments_injective`), and cutting by
joining, where no backslash stands for a slash (`splitSegments_injective`).
-/

namespace DeployBoard.Url

/-- A character that ends a segment. -/
def isSlash (c : Char) : Bool := c = '/' || c = '\\'

/-! ## Cutting and joining -/

/-- **Cutting goes on behind a slash.** -/
theorem splitSegments_append (segment before rest : List Char) :
    splitSegments segment (before ++ '/' :: rest) = splitSegments segment before ++ splitSegments [] rest := by
  induction before generalizing segment with
  | nil => rfl
  | cons c before ih =>
      rw [List.cons_append, splitSegments, splitSegments]
      split
      · rw [ih, List.cons_append]
      · exact ih _

theorem splitSegments_ne_nil (segment cs : List Char) : splitSegments segment cs ≠ [] := by
  induction cs generalizing segment with
  | nil => exact List.cons_ne_nil _ _
  | cons c cs ih =>
      rw [splitSegments]
      split
      · exact List.cons_ne_nil _ _
      · exact ih _

/-- A segment is made of characters of the path that end no segment. -/
theorem mem_splitSegments {segment cs s : List Char} (h : s ∈ splitSegments segment cs) {c : Char} (hc : c ∈ s) :
    c ∈ segment ∨ (c ∈ cs ∧ isSlash c = false) := by
  induction cs generalizing segment with
  | nil =>
      obtain rfl := List.mem_singleton.mp h
      exact .inl (List.mem_reverse.mp hc)
  | cons d cs ih =>
      rw [splitSegments] at h
      split at h
      · rcases List.mem_cons.mp h with rfl | h
        · exact .inl (List.mem_reverse.mp hc)
        · rcases ih h with hnone | ⟨hmem, hslash⟩
          · cases hnone
          · exact .inr ⟨List.mem_cons_of_mem d hmem, hslash⟩
      · rename_i hd
        rcases ih h with hmem | ⟨hmem, hslash⟩
        · rcases List.mem_cons.mp hmem with rfl | hmem
          · exact .inr ⟨List.mem_cons_self, by simpa [isSlash] using hd⟩
          · exact .inl hmem
        · exact .inr ⟨List.mem_cons_of_mem d hmem, hslash⟩

theorem mem_of_mem_splitSegments {cs s : List Char} (h : s ∈ splitSegments [] cs) {c : Char} (hc : c ∈ s) :
    c ∈ cs ∧ isSlash c = false :=
  (mem_splitSegments h hc).resolve_left List.not_mem_nil

/-- A text without slashes is one segment. -/
theorem splitSegments_of_no_slash {cs : List Char} (h : ∀ c ∈ cs, isSlash c = false) (segment : List Char) :
    splitSegments segment cs = [segment.reverse ++ cs] := by
  induction cs generalizing segment with
  | nil => simp [splitSegments]
  | cons c cs ih =>
      obtain ⟨hc, hcs⟩ := List.forall_mem_cons.mp h
      rw [splitSegments, if_neg (by simpa [isSlash] using hc), ih hcs]
      simp

/-- Slashes alone have nothing before, between and behind them. -/
theorem splitSegments_slashes (n : Nat) :
    splitSegments [] (List.replicate n '/') = List.replicate (n + 1) [] := by
  induction n with
  | zero => rfl
  | succ n ih =>
      rw [List.replicate_succ, splitSegments, if_pos (.inl rfl), ih]
      rfl

/-- **What ends no segment belongs to the last one.** -/
theorem splitSegments_append_last {ts : List Char} (hts : ∀ t ∈ ts, isSlash t = false) (segment cs : List Char) :
    ∃ init last, splitSegments segment cs = init ++ [last] ∧
      splitSegments segment (cs ++ ts) = init ++ [last ++ ts] := by
  induction cs generalizing segment with
  | nil => exact ⟨[], segment.reverse, rfl, splitSegments_of_no_slash hts segment⟩
  | cons c cs ih =>
      rw [List.cons_append, splitSegments, splitSegments]
      split
      · obtain ⟨init, last, hcs, happend⟩ := ih []
        exact ⟨segment.reverse :: init, last, by rw [hcs]; rfl, by rw [happend]; rfl⟩
      · exact ih (c :: segment)

theorem joinSegments_append (ss ts : List (List Char)) :
    joinSegments (ss ++ ts) = joinSegments ss ++ joinSegments ts := List.flatMap_append

/-- Nothing is joined as slashes alone. -/
theorem joinSegments_empty (n : Nat) : joinSegments (List.replicate n []) = List.replicate n '/' := by
  induction n with
  | zero => rfl
  | succ n ih =>
      show '/' :: joinSegments (List.replicate n []) = _
      rw [ih]
      rfl

/-- **A path ends in a slash** where its last segment is empty. -/
theorem getLast?_joinSegments {segments : List (List Char)} (h : ∀ s ∈ segments, ∀ c ∈ s, isSlash c = false) :
    (joinSegments segments).getLast? = some '/' ↔ segments.getLast? = some [] := by
  rcases List.eq_nil_or_concat segments with rfl | ⟨init, last, rfl⟩
  · simp [joinSegments]
  · rw [List.concat_eq_append] at h ⊢
    have hjoin : joinSegments [last] = '/' :: last := List.append_nil _
    have hlast : (joinSegments (init ++ [last])).getLast? = some (last.getLast?.getD '/') := by
      rw [joinSegments_append, hjoin, List.getLast?_append, List.getLast?_cons]
      rfl
    rw [hlast, List.getLast?_concat, Option.some_inj, Option.some_inj]
    constructor
    · intro hslash
      cases hc : last.getLast? with
      | none => exact List.getLast?_eq_none_iff.mp hc
      | some c =>
          -- A segment has no slash to end in.
          rw [hc] at hslash
          obtain rfl : c = '/' := hslash
          exact absurd (h last (by simp) '/' (List.mem_of_getLast? hc)) (by decide)
    · rintro rfl
      rfl

/-- Joining undoes cutting, if every segment ends at a slash proper. -/
theorem joinSegments_splitSegments {cs : List Char} (h : '\\' ∉ cs) (segment : List Char) :
    joinSegments (splitSegments segment cs) = '/' :: (segment.reverse ++ cs) := by
  induction cs generalizing segment with
  | nil => simp [splitSegments, joinSegments]
  | cons c cs ih =>
      obtain ⟨hc, hcs⟩ := List.ne_and_not_mem_of_not_mem_cons h
      rw [splitSegments]
      split
      · rename_i hslash
        obtain rfl := hslash.resolve_right hc.symm
        show '/' :: segment.reverse ++ joinSegments (splitSegments [] cs) = _
        rw [ih hcs]
        rfl
      · rw [ih hcs]
        simp

/-- **Two texts without backslashes are never cut alike.** -/
theorem splitSegments_injective {cs ds : List Char} (hcs : '\\' ∉ cs) (hds : '\\' ∉ ds)
    (h : splitSegments [] cs = splitSegments [] ds) : cs = ds := by
  have hjoin := joinSegments_splitSegments hcs []
  rw [h, joinSegments_splitSegments hds] at hjoin
  exact (List.cons.inj hjoin).2.symm

/-- Cutting undoes joining. -/
theorem splitSegments_joinSegments {s : List Char} {segments : List (List Char)}
    (h : ∀ t ∈ s :: segments, ∀ c ∈ t, isSlash c = false) :
    splitSegments [] (s ++ joinSegments segments) = s :: segments := by
  induction segments generalizing s with
  | nil =>
      obtain ⟨hs, _⟩ := List.forall_mem_cons.mp h
      show splitSegments [] (s ++ []) = [s]
      rw [List.append_nil, splitSegments_of_no_slash hs]
      rfl
  | cons t segments ih =>
      obtain ⟨hs, hrest⟩ := List.forall_mem_cons.mp h
      show splitSegments [] (s ++ '/' :: (t ++ joinSegments segments)) = _
      rw [splitSegments_append, ih hrest, splitSegments_of_no_slash hs]
      rfl

/-- **Two lists of segments are never joined alike.** -/
theorem joinSegments_injective {ss ts : List (List Char)} (hss : ∀ s ∈ ss, ∀ c ∈ s, isSlash c = false)
    (hts : ∀ t ∈ ts, ∀ c ∈ t, isSlash c = false) (h : joinSegments ss = joinSegments ts) : ss = ts := by
  cases ss with
  | nil =>
      cases ts with
      | nil => rfl
      | cons t ts => cases h
  | cons s ss =>
      cases ts with
      | nil => cases h
      | cons t ts =>
          have htail : s ++ joinSegments ss = t ++ joinSegments ts := (List.cons.inj h).2
          rw [← splitSegments_joinSegments hss, htail, splitSegments_joinSegments hts]

/-! ## Dots -/

/-- A segment that stands for itself. -/
def isPlainSegment (segment : List Char) : Bool := !isDoubleDot segment && !isSingleDot segment

/-- **Where a segment leads** from the segments before it, if others follow. -/
def follow (place : List (List Char)) (s : List Char) : List (List Char) :=
  if isDoubleDot s then place.dropLast else if isSingleDot s then place else place ++ [s]

theorem follow_of_plain {s : List Char} (hs : isPlainSegment s = true) (place : List (List Char)) :
    follow place s = place ++ [s] := by
  obtain ⟨hdouble, hsingle⟩ : isDoubleDot s = false ∧ isSingleDot s = false := by
    simpa [isPlainSegment] using hs
  simp [follow, hdouble, hsingle]

theorem foldl_follow_of_plain {segments : List (List Char)} (h : ∀ s ∈ segments, isPlainSegment s = true)
    (place : List (List Char)) : segments.foldl follow place = place ++ segments := by
  induction segments generalizing place with
  | nil => exact (List.append_nil place).symm
  | cons s segments ih =>
      obtain ⟨hs, hrest⟩ := List.forall_mem_cons.mp h
      rw [List.foldl_cons, follow_of_plain hs, ih hrest, List.append_assoc]
      rfl

/-- Following segments leads to what was there before, and to what they are. -/
theorem mem_foldl_follow {s : List Char} {segments place : List (List Char)} (h : s ∈ segments.foldl follow place) :
    s ∈ place ∨ s ∈ segments := by
  induction segments generalizing place with
  | nil => exact .inl h
  | cons t segments ih =>
      rcases ih h with hplace | hrest
      · unfold follow at hplace
        split at hplace
        · exact .inl (List.dropLast_subset _ hplace)
        split at hplace
        · exact .inl hplace
        · rcases List.mem_append.mp hplace with hplace | ht
          · exact .inl hplace
          · exact .inr (List.mem_singleton.mp ht ▸ List.mem_cons_self)
      · exact .inr (List.mem_cons_of_mem t hrest)

theorem resolveDots_singleton (last : List Char) (place : List (List Char)) :
    resolveDots place [last] = follow place last ++ if isPlainSegment last then [] else [[]] := by
  unfold resolveDots follow isPlainSegment
  cases isDoubleDot last <;> cases isSingleDot last <;> simp

/-- **Resolving goes on behind any segments**, from where they lead. -/
theorem resolveDots_append {rest : List (List Char)} (hrest : rest ≠ []) (segments place : List (List Char)) :
    resolveDots place (segments ++ rest) = resolveDots (segments.foldl follow place) rest := by
  induction segments generalizing place with
  | nil => rfl
  | cons s segments ih =>
      -- Something follows `s`, so that dots in its place leave nothing behind.
      have hstep : resolveDots place (s :: (segments ++ rest)) = resolveDots (follow place s) (segments ++ rest) := by
        have hne : segments ++ rest ≠ [] := by simp [hrest]
        unfold follow
        cases hmore : segments ++ rest with
        | nil => exact absurd hmore hne
        | cons t more =>
            rw [resolveDots]
            split
            · rfl
            split
            · rfl
            · rfl
            · simp
      rw [List.cons_append, hstep, ih, List.foldl_cons]

/-- **Resolving follows the segments one by one**; only dots at the end leave an empty segment behind. -/
theorem resolveDots_concat (segments : List (List Char)) (last : List Char) (place : List (List Char)) :
    resolveDots place (segments ++ [last]) =
      (segments ++ [last]).foldl follow place ++ if isPlainSegment last then [] else [[]] := by
  rw [resolveDots_append (List.cons_ne_nil _ _), resolveDots_singleton, List.foldl_append]
  rfl

/-- Where no segment is dots, all stay. -/
theorem resolveDots_of_plain {segments : List (List Char)} (h : ∀ s ∈ segments, isPlainSegment s = true)
    (place : List (List Char)) : resolveDots place segments = place ++ segments := by
  rcases List.eq_nil_or_concat segments with rfl | ⟨init, last, rfl⟩
  · exact (List.append_nil place).symm
  · rw [List.concat_eq_append] at h ⊢
    have hlast : isPlainSegment last = true := h last (List.mem_append_right _ List.mem_cons_self)
    rw [resolveDots_concat, if_pos hlast, List.append_nil, foldl_follow_of_plain h]

/-- What is left after resolving was there before, or is empty. -/
theorem mem_resolveDots {s : List Char} {segments place : List (List Char)} (h : s ∈ resolveDots place segments) :
    s ∈ place ∨ s ∈ segments ∨ s = [] := by
  rcases List.eq_nil_or_concat segments with rfl | ⟨init, last, rfl⟩
  · exact .inl h
  · rw [List.concat_eq_append] at h ⊢
    rw [resolveDots_concat] at h
    rcases List.mem_append.mp h with hled | hend
    · rcases mem_foldl_follow hled with hplace | hsegment
      · exact .inl hplace
      · exact .inr (.inl hsegment)
    · split at hend
      · cases hend
      · exact .inr (.inr (List.mem_singleton.mp hend))

/-- **A path is read from behind its first slash**, whichever way that is written. -/
theorem webPath_cons {slash : Char} (hslash : slash = '/' ∨ slash = '\\') (rest : List Char) :
    webPath (slash :: rest) =
      joinSegments ((resolveDots [] (splitSegments [] rest)).map (percentEncode encodedInPath)) := by
  rcases hslash with rfl | rfl
  · rfl
  · rfl

end DeployBoard.Url
