import DeployBoard.Proofs.Client.Requests
import DeployBoard.Proofs.Url.Trailing
import Mathlib.Data.List.DropRight

/-!
# `Proofs.Client.Prefix` — which addresses can have a path put behind them

An address is accepted when it can be read, and used by putting paths behind its text. What is read then should be the
address with the path behind its own (`Appends`). Three kinds of accepted addresses are in the way (`IsPrefix`): one with
a query or a fragment, which takes in all that follows; one with a blank at its end, which does not count there but does
when something follows; and one whose path comes to an empty segment in front of the slashes that are cut off, so that
a slash is left. No path that is requested can be put behind any of them as it should be, and every such path can behind
all others (`requested_behind_address_iff`).
-/

namespace DeployBoard

open Http Url

/-! ## Paths that are requested -/

namespace Url

/-- **A character that stands for itself** in every part of an address. -/
def isUnreserved (c : Char) : Bool := c.isAlphanum || ['-', '.', '_', '~'].contains c

theorem isUnreserved_lt {c : Char} (h : isUnreserved c = true) : c.toNat < 0x7F := by
  have hlast : ∀ {last : Char}, c.val ≤ last.val → last.toNat < 0x7F → c.toNat < 0x7F :=
    fun hle hlt => (UInt32.le_iff_toNat_le.mp hle).trans_lt hlt
  rcases Bool.or_eq_true_iff.mp h with halnum | hmark
  · rcases Bool.or_eq_true_iff.mp halnum with halpha | hdigit
    · rcases Bool.or_eq_true_iff.mp halpha with hupper | hlower
      · exact hlast (of_decide_eq_true hupper).2 (by decide)
      · exact hlast (of_decide_eq_true (Bool.and_eq_true_iff.mp hlower).2) (by decide)
    · exact hlast (of_decide_eq_true (Bool.and_eq_true_iff.mp hdigit).2) (by decide)
  · have hmarks : ∀ c ∈ ['-', '.', '_', '~'], c.toNat < 0x7F := forall_mem_of_all (by decide)
    exact hmarks c (List.contains_iff_mem.mp hmark)

/-- What holds of the unreserved ones among the first characters holds of every unreserved character. -/
theorem forall_unreserved {P : Char → Prop} (h : ∀ n < 0x7F, isUnreserved (Char.ofNat n) = true → P (Char.ofNat n))
    {c : Char} (hc : isUnreserved c = true) : P c :=
  Text.forall_char_below (P := fun c => isUnreserved c = true → P c) h (isUnreserved_lt hc) hc

theorem unreserved_not_special {c : Char} (h : isUnreserved c = true) : c ∉ specialChars :=
  forall_unreserved (P := fun c => c ∉ specialChars) (by decide) h

theorem unreserved_not_outer {c : Char} (h : isUnreserved c = true) : isOuter c = false :=
  forall_unreserved (P := fun c => isOuter c = false) (by decide) h

theorem unreserved_not_encoded {c : Char} (h : isUnreserved c = true) : encodedInPath c = false :=
  forall_unreserved (P := fun c => encodedInPath c = false) (by decide) h

end Url

/-- **A plain name**: unreserved characters between slashes, neither dots alone nor nothing. -/
structure PlainName (name : String) : Prop where
  chars : ∀ c ∈ name.toList, isUnreserved c = true ∨ c = '/'
  segments : ∀ s ∈ splitSegments [] name.toList, s ≠ [] ∧ s ≠ ['.'] ∧ s ≠ ['.', '.']

/-- **A path that is requested**: that of the index, or of a command for a plain name. -/
inductive IsRequested : String → Prop
  | index : IsRequested "/repos"
  | command {c : Command} (hname : PlainName c.repo) : IsRequested c.path

/-- An address keeps a plain name. -/
theorem PlainName.kept {name : String} (h : PlainName name) : KeptName name where
  chars c hc := by
    rcases h.chars c hc with hplain | rfl
    · exact unreserved_not_special hplain
    · decide
  last c hc := by
    rcases h.chars c (List.mem_of_getLast? hc) with hplain | rfl
    · have houter := of_decide_eq_false (unreserved_not_outer hplain)
      omega
    · decide
  segments s hs := (h.segments s hs).2

/-- What a command for a plain name puts into the address is as plain. -/
theorem PlainName.tail_chars {c : Command} (h : PlainName c.repo) :
    ∀ ch ∈ c.tail, isUnreserved ch = true ∨ ch = '/' := by
  have hreset : resetSegment.all isUnreserved = true := by decide
  intro ch hch
  unfold Command.tail at hch
  rcases List.mem_append.mp hch with hrepo | hch
  · exact h.chars ch hrepo
  · split at hch
    · rcases List.mem_cons.mp hch with hslash | hch
      · exact .inr hslash
      · exact .inl (List.all_eq_true.mp hreset ch hch)
    · cases hch

/-- **What a requested path consists of**, behind its first slash. -/
structure Tail (path : String) (tail : List Char) : Prop where
  toList : path.toList = '/' :: tail
  cut : path.toList.dropWhile (· = '/') = tail
  chars : ∀ c ∈ tail, isUnreserved c = true ∨ c = '/'
  plain : ∀ s ∈ splitSegments [] tail, isPlainSegment s = true

theorem IsRequested.tail {path : String} (h : IsRequested path) : ∃ tail, Tail path tail := by
  cases h with
  | index =>
      have hchars : "repos".toList.all isUnreserved = true := by decide
      have hsegments : (splitSegments [] "repos".toList).all isPlainSegment = true := by decide
      refine ⟨"repos".toList, rfl, rfl, fun c hc => .inl ?_, fun s hs => ?_⟩
      · exact List.all_eq_true.mp hchars c hc
      · exact List.all_eq_true.mp hsegments s hs
  | command hname =>
      rename_i c
      have htags : tagsSegment.all isUnreserved = true := by decide
      refine ⟨tagsSegment ++ '/' :: c.tail, Client.path_toList c, Client.path_eq c, fun ch hch => ?_, fun s hs => ?_⟩
      · rcases List.mem_append.mp hch with hch | hch
        · exact .inl (List.all_eq_true.mp htags ch hch)
        · rcases List.mem_cons.mp hch with hslash | hch
          · exact .inr hslash
          · exact hname.tail_chars ch hch
      · rw [splitSegments_append] at hs
        rcases List.mem_append.mp hs with hs | hs
        · obtain rfl := List.mem_singleton.mp hs
          decide
        · exact hname.kept.tail_segments s hs

namespace Tail

variable {path : String} {tail : List Char}

theorem not_special (h : Tail path tail) {c : Char} (hc : c ∈ tail) : c ∉ specialChars := by
  rcases h.chars c hc with hplain | rfl
  · exact unreserved_not_special hplain
  · decide

theorem not_outer (h : Tail path tail) {c : Char} (hc : c ∈ tail) : isOuter c = false := by
  rcases h.chars c hc with hplain | rfl
  · exact unreserved_not_outer hplain
  · decide

theorem no_query (h : Tail path tail) : ∀ c ∈ tail, c ≠ '?' ∧ c ≠ '#' := by
  intro c hc
  have hchar := h.not_special hc
  simp only [specialChars, List.mem_cons, not_or] at hchar
  exact ⟨hchar.2.2.2.2.1, hchar.2.2.2.1⟩

/-- Behind an address, a requested path is read whole. -/
theorem cleanedEnd_eq (h : Tail path tail) : cleanedEnd tail = tail := by
  refine cleanedEnd_of_kept (fun c hc => ?_) fun c hc => h.not_outer (List.mem_of_getLast? hc)
  have hchar := h.not_special hc
  simp only [specialChars, List.mem_cons, not_or] at hchar
  simp [isKept, hchar]

/-- **The segments of a requested path are written as they are.** -/
theorem joinSegments_eq (h : Tail path tail) :
    joinSegments ((splitSegments [] tail).map (percentEncode encodedInPath)) = path.toList := by
  have hsame : (splitSegments [] tail).map (percentEncode encodedInPath) = splitSegments [] tail := by
    refine (List.map_congr_left fun s hs => ?_).trans (List.map_id _)
    refine percentEncode_of_plain fun c hc => ?_
    obtain ⟨hmem, hslash⟩ := mem_of_mem_splitSegments hs hc
    rcases h.chars c hmem with hplain | rfl
    · exact unreserved_not_encoded hplain
    · exact absurd hslash (by decide)
  have hback : '\\' ∉ tail := fun hmem => h.not_special hmem (by decide)
  rw [hsame, joinSegments_splitSegments hback, h.toList]
  rfl

end Tail

namespace Client

variable {client : Client}

/-! ## The path in front -/

/-- **Where the address leads**: the segments of its path, with the dots among them resolved. -/
def place (client : Client) : List (List Char) := client.segments.foldl follow []

/-- The path that requested paths are put behind. -/
def placePath (client : Client) : List Char := joinSegments (client.place.map (percentEncode encodedInPath))

/-- **The path in front ends in a slash** where the address leads to an empty segment. -/
theorem getLast?_placePath (client : Client) :
    client.placePath.getLast? = some '/' ↔ client.place.getLast? = some [] := by
  unfold placePath
  rw [getLast?_joinSegments, List.getLast?_map]
  · cases client.place.getLast? with
    | none => simp
    | some last => simp [percentEncode_eq_nil_iff]
  · intro s hs c hc
    obtain ⟨t, ht, rfl⟩ := List.mem_map.mp hs
    have hmem : t ∈ client.segments := (mem_foldl_follow ht).resolve_left List.not_mem_nil
    exact (not_mem_encoded (segments_no_slash hmem) c hc).1

/-- What stands behind the host, put together with segments that stand for themselves. -/
theorem webPath_place (hplain : ∀ c ∈ client.baseUrl.toList, c ≠ '?' ∧ c ≠ '#') {rest : List Char}
    (hrest : ∀ s ∈ splitSegments [] rest, isPlainSegment s = true) :
    webPath (client.pathText ++ '/' :: rest) =
      client.placePath ++ joinSegments ((splitSegments [] rest).map (percentEncode encodedInPath)) := by
  rw [webPath_pathText hplain, resolveDots_append (splitSegments_ne_nil _ _), resolveDots_of_plain hrest,
    List.map_append, joinSegments_append]
  rfl

/-- **The path of the address alone** is the same one, but for slashes at its end. -/
theorem webPath_alone (hplain : ∀ c ∈ client.baseUrl.toList, c ≠ '?' ∧ c ≠ '#') :
    ∃ n, webPath client.pathText = client.placePath ++ List.replicate n '/' := by
  rcases pathText_cases hplain with htext | ⟨slash, rest, htext, hslash⟩
  · refine ⟨1, ?_⟩
    unfold placePath place segments
    rw [htext]
    rfl
  · have hsegments : client.segments = splitSegments [] rest := by unfold segments; rw [htext]
    obtain ⟨init, last, hlast⟩ := (List.eq_nil_or_concat _).resolve_left (splitSegments_ne_nil [] rest)
    rw [List.concat_eq_append] at hlast
    unfold placePath place
    rw [htext, webPath_cons hslash, hsegments, hlast, resolveDots_concat]
    -- Dots at the end leave an empty segment behind, and that is a slash.
    split
    · exact ⟨0, by rw [List.append_nil]; exact (List.append_nil _).symm⟩
    · exact ⟨1, by rw [List.map_append, joinSegments_append]; rfl⟩

/-! ## Reading both -/

namespace ReadAs

variable {scheme : String} {within own : List Char} {path : String}

theorem no_query (h : client.ReadAs scheme within own) (hplain : ∀ c ∈ client.baseUrl.toList, c ≠ '?' ∧ c ≠ '#') :
    ∀ c ∈ within, c ≠ '?' ∧ c ≠ '#' := fun c hc => hplain c (mem_of_mem_base (h.mem_base hc))

/-- **What is requested**, behind an address without query and fragment. -/
theorem parse_requested (h : client.ReadAs scheme within own)
    (hplain : ∀ c ∈ client.baseUrl.toList, c ≠ '?' ∧ c ≠ '#') (hpath : IsRequested path) :
    Url.parse (client.endpoint path) =
      (readAuthority scheme (within.takeWhile fun c => !endsAuthority true c) true).map fun (host, port) =>
        { scheme, host, port, path := client.placePath ++ path.toList } := by
  obtain ⟨tail, htail⟩ := hpath.tail
  rw [h.parse_endpoint_eq, htail.cut, htail.cleanedEnd_eq, parseAuthority_append_slash h.web (h.no_query hplain),
    beforeQuery_of_plain htail.no_query,
    queryOf_of_plain htail.no_query, ← h.pathText_eq, webPath_place hplain htail.plain, htail.joinSegments_eq]

/-- **What the address itself is read as**, if it has no query, no fragment, and no blanks at its end. -/
theorem parse_address (h : client.ReadAs scheme within own)
    (hplain : ∀ c ∈ client.baseUrl.toList, c ≠ '?' ∧ c ≠ '#')
    (hclean : cleaned client.baseUrl.toList = cleanedStart client.baseUrl.toList) :
    ∃ n, Url.parse client.baseUrl =
      (readAuthority scheme (within.takeWhile fun c => !endsAuthority true c) true).map fun (host, port) =>
        { scheme, host, port, path := client.placePath ++ List.replicate n '/' } := by
  cases h.ends with
  | slashes n heq _ =>
      have hslashes : ∀ c ∈ List.replicate n '/', c ≠ '?' ∧ c ≠ '#' := by
        intro c hc
        rw [List.eq_of_mem_replicate hc]
        decide
      have hempty : ∀ s ∈ splitSegments [] (List.replicate n '/'), isPlainSegment s = true := by
        intro s hs
        rw [splitSegments_slashes] at hs
        rw [List.eq_of_mem_replicate hs]
        decide
      -- The slashes that the base is without are empty segments behind those of the base.
      have hpath : webPath (client.pathText ++ '/' :: List.replicate n '/') =
          client.placePath ++ List.replicate (n + 1) '/' := by
        rw [webPath_place hplain hempty, splitSegments_slashes, List.map_replicate]
        exact congrArg _ (joinSegments_empty (n + 1))
      refine ⟨n + 1, ?_⟩
      rw [h.address, heq, parseAuthority_append_slash h.web (h.no_query hplain), beforeQuery_of_plain hslashes,
        queryOf_of_plain hslashes, ← h.pathText_eq, hpath]
  | blanks blanks heq _ hblanks =>
      obtain rfl : blanks = [] := hblanks.mp hclean
      obtain rfl : within = own := heq.trans (List.append_nil own)
      obtain ⟨n, hpath⟩ := webPath_alone hplain
      have hafter : ∀ c ∈ afterAuthority within, c ≠ '?' ∧ c ≠ '#' :=
        fun c hc => h.no_query hplain c ((List.dropWhile_suffix _).subset hc)
      refine ⟨n, ?_⟩
      rw [h.address, parseAuthority_eq h.web, beforeQuery_of_plain hafter, queryOf_of_plain hafter, ← h.pathText_eq,
        hpath]

end ReadAs

/-! ## Which addresses can be put in front -/

/-- **A requested path is behind the address** that is read as `u`: what is read of both together is `v`, at the same
    place, with the path of `u` but for the slashes at its end, and the whole of the requested path behind it. -/
structure Appends (client : Client) (u : Url) (requested : String) (v : Url) : Prop where
  read : Url.parse (client.endpoint requested) = .ok v
  scheme : v.scheme = u.scheme
  host : v.host = u.host
  port : v.port = u.port
  path : v.path = u.path.rdropWhile (· = '/') ++ requested.toList
  query : v.query = none
  fragment : '#' ∉ (client.endpoint requested).toList

/-- **An address that paths can be put behind**: it has no query and no fragment, nothing at its end is left out, and it
    does not lead to an empty segment. -/
structure IsPrefix (client : Client) : Prop where
  plain : ∀ c ∈ client.baseUrl.toList, c ≠ '?' ∧ c ≠ '#'
  whole : cleaned client.baseUrl.toList = cleanedStart client.baseUrl.toList
  segments : client.place.getLast? ≠ some []

theorem endpoint_toList (client : Client) (path : String) :
    (client.endpoint path).toList = client.base ++ '/' :: path.toList.dropWhile (· = '/') := String.toList_ofList

theorem mem_base_of_mem {c : Char} (hmem : c ∈ client.baseUrl.toList) (hslash : c ≠ '/') : c ∈ client.base := by
  obtain ⟨n, hurl⟩ := client.baseUrl_eq
  rw [hurl] at hmem
  exact (List.mem_append.mp hmem).resolve_right fun h => hslash (List.eq_of_mem_replicate h)

namespace ReadAs

variable {scheme : String} {within own : List Char} {path : String} {u v : Url}

/-- A question mark stands behind the scheme, wherever it stands in the address. -/
theorem question_mem_within (h : client.ReadAs scheme within own) (hmem : '?' ∈ client.baseUrl.toList) :
    '?' ∈ within := by
  obtain ⟨rest, hsplit, rfl⟩ := h.base
  obtain ⟨name, hname, -, hchars, -⟩ := splitScheme_eq_some_iff.mp hsplit
  have hstart : '?' ∈ cleanedStart client.base :=
    List.mem_filter.mpr ⟨mem_dropWhile_of_mem (mem_base_of_mem hmem (by decide)) rfl, rfl⟩
  rw [hname] at hstart
  rcases List.mem_append.mp hstart with hscheme | hrest
  · exact absurd (hchars _ hscheme) (by decide)
  · exact mem_dropWhile_of_mem ((List.mem_cons.mp hrest).resolve_left (by decide)) rfl

/-- **A query or a fragment takes in the requested path.** -/
theorem plain_of_appends (h : client.ReadAs scheme within own) (happends : client.Appends u path v) :
    ∀ c ∈ client.baseUrl.toList, c ≠ '?' ∧ c ≠ '#' := by
  intro c hc
  have hhash : '#' ∉ client.base ++ '/' :: path.toList.dropWhile (· = '/') :=
    client.endpoint_toList path ▸ happends.fragment
  constructor
  · rintro rfl
    have hread := happends.read
    rw [h.parse_endpoint_eq] at hread
    refine parseAuthority_query h.web hread (List.mem_append_left _ (h.question_mem_within hc)) ?_ happends.query
    intro hmem
    refine hhash ?_
    rcases List.mem_append.mp hmem with hmem | hmem
    · exact List.mem_append_left _ (h.mem_base hmem)
    · have hend : '#' ∈ cleanedEnd (path.toList.dropWhile (· = '/')) :=
        (List.mem_cons.mp hmem).resolve_left (by decide)
      exact List.mem_append_right _ (List.mem_cons_of_mem _ (mem_of_mem_cleanedEnd hend))
  · rintro rfl
    exact hhash (List.mem_append_left _ (mem_base_of_mem hc (by decide)))

end ReadAs

/-- **Blanks make a path longer** where they count. -/
theorem length_path_blanks (init : List (List Char)) (last : List Char) {blanks : List Char}
    (hblanks : ∀ t ∈ blanks, isOuter t = true) (hne : blanks ≠ []) :
    (joinSegments ((resolveDots [] (init ++ [last])).map (percentEncode encodedInPath))).length <
      (joinSegments (((init ++ [last ++ blanks]).foldl follow []).map (percentEncode encodedInPath))).length := by
  let written (segments : List (List Char)) : Nat :=
    (joinSegments (segments.map (percentEncode encodedInPath))).length
  have happend : ∀ ss ts, written (ss ++ ts) = written ss + written ts := by
    intro ss ts
    show (joinSegments ((ss ++ ts).map _)).length = _
    rw [List.map_append, joinSegments_append, List.length_append]
  have hsingle : ∀ s, written [s] = (percentEncode encodedInPath s).length + 1 := by
    intro s
    simp [written, joinSegments]
  have hempty : written [[]] = 1 := rfl
  have hlonger : 0 < (percentEncode encodedInPath blanks).length :=
    List.length_pos_iff.mpr (mt percentEncode_eq_nil_iff.mp hne)
  rw [resolveDots_concat, List.foldl_append, List.foldl_append]
  generalize init.foldl follow [] = front
  show written (follow front last ++ _) < written (follow front (last ++ blanks))
  rw [follow_of_plain (isPlainSegment_append_outer hblanks hne), happend, happend, hsingle, percentEncode_append,
    List.length_append]
  -- Dots at the end lead to nothing more than an empty segment.
  unfold follow isPlainSegment
  cases hdouble : isDoubleDot last with
  | true =>
      have hfront : written front.dropLast ≤ written front := by
        obtain ⟨rest, hrest⟩ := List.dropLast_prefix front
        have hwritten := happend front.dropLast rest
        rw [hrest] at hwritten
        omega
      simp
      omega
  | false =>
      cases hdot : isSingleDot last with
      | true =>
          simp
          omega
      | false =>
          have hlast : written (front ++ [last]) = written front + written [last] := happend front [last]
          have hnone : written [] = 0 := rfl
          simp [hlast, hsingle]
          omega

namespace ReadAs

variable {scheme : String} {within own : List Char} {path : String} {u v : Url}

/-- In front of a path, blanks belong to the last segment of the address. -/
theorem length_path (h : client.ReadAs scheme within own) (hplain : ∀ c ∈ client.baseUrl.toList, c ≠ '?' ∧ c ≠ '#')
    (hparse : Url.parse client.baseUrl = .ok u) {blanks : List Char} (heq : within = own ++ blanks)
    (hblanks : ∀ t ∈ blanks, isOuter t = true) (hne : blanks ≠ [])
    (htext : ∃ slash rest, client.pathText = slash :: rest ∧ (slash = '/' ∨ slash = '\\')) :
    u.path.length < client.placePath.length := by
  obtain ⟨slash, rest, htext, hslash⟩ := htext
  obtain ⟨more, hown, hrest⟩ : ∃ more, afterAuthority own = slash :: more ∧ rest = more ++ blanks := by
    rw [h.pathText_eq, heq] at htext
    unfold afterAuthority at htext ⊢
    rw [List.dropWhile_append] at htext
    split at htext
    · -- No blank ends the part that names the host.
      have hnone : blanks.dropWhile (fun c => !endsAuthority true c) = [] :=
        List.dropWhile_eq_nil_iff.mpr fun t ht => by rw [not_endsAuthority_outer (hblanks t ht)]; rfl
      rw [hnone] at htext
      cases htext
    · rename_i hafter
      cases hdrop : own.dropWhile fun c => !endsAuthority true c with
      | nil =>
          rw [hdrop] at hafter
          exact absurd rfl hafter
      | cons c more =>
          rw [hdrop] at htext
          obtain ⟨rfl, hrest⟩ := List.cons.inj htext
          exact ⟨more, rfl, hrest.symm⟩
  have hslashes : ∀ t ∈ blanks, isSlash t = false := fun t ht => slash_outer (hblanks t ht)
  obtain ⟨init, last, hinit, hlast⟩ := splitSegments_append_last hslashes [] more
  have hplace : client.place = (init ++ [last ++ blanks]).foldl follow [] := by
    unfold place segments
    rw [htext, hrest, ← hlast]
  have hafter : ∀ c ∈ afterAuthority own, c ≠ '?' ∧ c ≠ '#' := by
    intro c hc
    refine h.no_query hplain c ?_
    rw [heq]
    exact List.mem_append_left _ ((List.dropWhile_suffix _).subset hc)
  rw [h.address, parseAuthority_eq h.web, beforeQuery_of_plain hafter, hown, webPath_cons hslash, hinit] at hparse
  unfold placePath
  rw [hplace]
  obtain ⟨_, -, rfl⟩ := exists_of_map_eq_ok hparse
  exact length_path_blanks init last hblanks hne

/-- Behind a host, blanks are refused where something follows them. -/
theorem host_refused (h : client.ReadAs scheme within own) {blanks : List Char} (heq : within = own ++ blanks)
    (hblanks : ∀ t ∈ blanks, isOuter t = true) (hne : blanks ≠ []) (htext : client.pathText = []) :
    ∃ e, readAuthority scheme (within.takeWhile fun c => !endsAuthority true c) true = .error e := by
  rw [h.pathText_eq] at htext
  have hends : ∀ c ∈ within, (!endsAuthority true c) = true := List.dropWhile_eq_nil_iff.mp htext
  have hback : '\\' ∉ own := fun hmem => absurd (hends '\\' (heq ▸ List.mem_append_left _ hmem)) (by decide)
  rw [List.takeWhile_eq_self_iff.mpr hends, heq]
  exact readAuthority_append_outer h.web hblanks hne hback true

/-- **A blank at the end counts in front of a path**: behind a host it is refused, and else it belongs to the last
    segment. -/
theorem whole_of_appends (h : client.ReadAs scheme within own) (hparse : Url.parse client.baseUrl = .ok u)
    (hpath : IsRequested path) (happends : client.Appends u path v) :
    cleaned client.baseUrl.toList = cleanedStart client.baseUrl.toList := by
  have hplain := h.plain_of_appends happends
  cases h.ends with
  | slashes n _ hclean => exact hclean
  | blanks blanks heq houter hclean =>
      refine hclean.mpr (by_contra fun hne => ?_)
      have hread := h.parse_requested hplain hpath
      rw [happends.read] at hread
      obtain ⟨found, hhost, rfl⟩ := exists_of_map_eq_ok hread.symm
      rcases pathText_cases hplain with htext | hslash
      · obtain ⟨e, hrefused⟩ := h.host_refused heq houter hne htext
        rw [hrefused] at hhost
        cases hhost
      · -- The path of the address is too short for what is in front of the requested one.
        have hshorter := h.length_path hplain hparse heq houter hne hslash
        have hlength : (client.placePath ++ path.toList).length = _ := congrArg List.length happends.path
        have htrimmed : (u.path.rdropWhile (· = '/')).length ≤ u.path.length := (List.rdropWhile_prefix _ _).length_le
        rw [List.length_append, List.length_append] at hlength
        omega

end ReadAs

/-- **An address that leads to an empty segment leaves a slash** in front of the path. -/
theorem placePath_eq_iff (client : Client) (n : Nat) :
    client.placePath = (client.placePath ++ List.replicate n '/').rdropWhile (· = '/') ↔
      client.place.getLast? ≠ some [] := by
  have hslashes : (client.placePath ++ List.replicate n '/').rdropWhile (· = '/') =
      client.placePath.rdropWhile (· = '/') := by
    induction n with
    | zero => rw [List.replicate_zero, List.append_nil]
    | succ n ih => rw [List.replicate_succ', ← List.append_assoc, List.rdropWhile_concat_pos _ _ _ (by rfl), ih]
  -- What is left to trim are slashes of the path in front itself.
  have hempty : client.place.getLast? ≠ some [] ↔ client.placePath.getLast? ≠ some '/' :=
    not_congr client.getLast?_placePath.symm
  rw [hslashes, eq_comm, List.rdropWhile_eq_self_iff, hempty]
  constructor
  · intro hkept hlast
    have hne : client.placePath ≠ [] := by
      rintro hnil
      rw [hnil] at hlast
      cases hlast
    rw [List.getLast?_eq_some_getLast hne] at hlast
    exact hkept hne (decide_eq_true (Option.some.inj hlast))
  · intro hlast hne hslash
    rw [List.getLast?_eq_some_getLast hne, of_decide_eq_true hslash] at hlast
    exact hlast rfl

/-- A requested path is as free of fragments as the address is. -/
theorem endpoint_no_fragment (hplain : ∀ c ∈ client.baseUrl.toList, c ≠ '?' ∧ c ≠ '#') {path : String}
    (hpath : IsRequested path) : '#' ∉ (client.endpoint path).toList := by
  obtain ⟨tail, htail⟩ := hpath.tail
  rw [endpoint_toList, htail.cut]
  intro hmem
  rcases List.mem_append.mp hmem with hmem | hmem
  · exact (hplain _ (mem_of_mem_base hmem)).2 rfl
  · exact (htail.no_query _ ((List.mem_cons.mp hmem).resolve_left (by decide))).2 rfl

/-- **Behind an address whose end is read as its middle is**, a path is requested as it should be unless a slash is left
    in front of it. -/
theorem ReadAs.appends_iff {scheme : String} {within own : List Char} (h : client.ReadAs scheme within own)
    (hplain : ∀ c ∈ client.baseUrl.toList, c ≠ '?' ∧ c ≠ '#')
    (hwhole : cleaned client.baseUrl.toList = cleanedStart client.baseUrl.toList) {u : Url}
    (hparse : Url.parse client.baseUrl = .ok u) {path : String} (hpath : IsRequested path) :
    (∃ v, client.Appends u path v) ↔ client.place.getLast? ≠ some [] := by
  obtain ⟨n, haddress⟩ := h.parse_address hplain hwhole
  have hrequested := h.parse_requested hplain hpath
  -- The host is read once for both.
  obtain ⟨⟨host, port⟩, hhost, rfl⟩ := exists_of_map_eq_ok (haddress.symm.trans hparse)
  rw [hhost] at hrequested
  rw [← placePath_eq_iff client n]
  constructor
  · rintro ⟨v, happends⟩
    rw [happends.read] at hrequested
    have hv : v.path = client.placePath ++ path.toList := congrArg Url.path (Except.ok.inj hrequested)
    exact List.append_cancel_right (hv.symm.trans happends.path)
  · intro hslash
    refine ⟨_, hrequested, rfl, rfl, rfl, ?_, rfl, endpoint_no_fragment hplain hpath⟩
    exact congrArg (· ++ path.toList) hslash

/-- **Which accepted addresses a path can be put behind.** What is requested is the path behind the address exactly for those
    addresses that have no query, no fragment and no blank at their end, and do not lead to an empty segment; whether it is
    the path of the index or of any command for a plain name makes no difference. -/
theorem requested_behind_address_iff {url : String} {library : Library} (h : ofUrl? url library = .ok client) :
    ∃ u, Url.parse url = .ok u ∧ ∀ path, IsRequested path → ((∃ v, client.Appends u path v) ↔ client.IsPrefix) := by
  obtain ⟨rfl, haccepted⟩ := ofUrl_eq_ok h
  obtain ⟨scheme, within, own, hread⟩ := base_eq haccepted
  obtain ⟨u, hparse, -⟩ := haccepted
  refine ⟨u, hparse, fun path hpath => ⟨?_, fun hprefix => ?_⟩⟩
  · rintro ⟨v, happends⟩
    have hplain := hread.plain_of_appends happends
    have hwhole := hread.whole_of_appends hparse hpath happends
    exact ⟨hplain, hwhole, (hread.appends_iff hplain hwhole hparse hpath).mp ⟨v, happends⟩⟩
  · exact (hread.appends_iff hprefix.plain hprefix.whole hparse hpath).mpr hprefix.segments

/-- A path with dots and a slash at its end can be put in front of a reset. -/
theorem reset_requested_behind_dots :
    ofUrl? "https://h:8443/a/../b/" = .ok { baseUrl := "https://h:8443/a/../b/" } ∧
      ∃ u v, Url.parse "https://h:8443/a/../b/" = .ok u ∧ u.path = "/b/".toList ∧
        Appends { baseUrl := "https://h:8443/a/../b/" } u "/tags/team/api/reset" v ∧
        v.path = "/b/tags/team/api/reset".toList := by
  have hclient : ofUrl? "https://h:8443/a/../b/" = .ok { baseUrl := "https://h:8443/a/../b/" } :=
    ofUrl_of_isHttp (by decide +kernel)
  have hname : PlainName "team/api" :=
    { chars := fun c hc => by
        have hall : "team/api".toList.all (fun c => isUnreserved c || decide (c = '/')) = true := by decide
        simpa using List.all_eq_true.mp hall c hc
      segments := forall_mem_of_all (by decide) }
  have hprefix : IsPrefix { baseUrl := "https://h:8443/a/../b/" } :=
    { plain := forall_mem_of_all (by decide)
      whole := by decide
      segments := by decide }
  obtain ⟨u, hparse, hiff⟩ := requested_behind_address_iff hclient
  obtain ⟨v, happends⟩ :=
    (hiff "/tags/team/api/reset" (IsRequested.command (c := ⟨"team/api", .reset⟩) hname)).mpr hprefix
  have hpath : (Url.parse "https://h:8443/a/../b/").map Url.path = .ok "/b/".toList := by decide +kernel
  rw [hparse] at hpath
  have hu : u.path = "/b/".toList := Except.ok.inj hpath
  refine ⟨hclient, u, v, hparse, hu, happends, ?_⟩
  rw [happends.path, hu]
  decide

/-- **A blank behind the host is accepted**, and then nothing can be requested. -/
theorem accepted_and_not_requested :
    ofUrl? "http://h " = .ok { baseUrl := "http://h " } ∧
      (Url.parse "http://h ").toOption = some { scheme := "http", host := some (.domain [['h']]), path := ['/'] } ∧
      endpoint { baseUrl := "http://h " } "/repos" = "http://h /repos" ∧
      (Url.parse "http://h /repos").toOption = none ∧
      IsRequested "/repos" ∧ ∀ u v, ¬ Appends { baseUrl := "http://h " } u "/repos" v := by
  have hnone : (Url.parse "http://h /repos").toOption = none := by decide +kernel
  have hendpoint : endpoint { baseUrl := "http://h " } "/repos" = "http://h /repos" := by decide
  refine ⟨ofUrl_of_isHttp (by decide +kernel), by decide +kernel, hendpoint, hnone, .index, fun u v happends => ?_⟩
  have hread := happends.read
  rw [hendpoint] at hread
  rw [hread] at hnone
  cases hnone

end Client

end DeployBoard
