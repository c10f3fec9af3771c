import DeployBoard.Http.Response
import DeployBoard.Proofs.Url.Segments

/-!
# `Proofs.Url.Prefix` — reading an address that is put together

An address is read from its beginning, stage by stage: it is cleaned, its scheme is cut off, then the part that names
the host, then path and query. Where something is put behind a slash, each stage goes on behind that slash as if it
began there, and what stands before it decides the scheme and the host alone (`cleaned_append_slash`,
`parseAuthority_append_slash`). Only the end of the address is read differently from its middle: blanks are
taken away there (`cleanedEnd`).
-/

namespace DeployBoard.Url

/-! ## Up to a character -/

section Stop

variable {p : Char → Bool} {stop : Char}

theorem takeWhile_append_stop (hstop : p stop = false) (before rest : List Char) :
    (before ++ stop :: rest).takeWhile p = before.takeWhile p := by
  rw [List.takeWhile_append, List.takeWhile_cons_of_neg (by simp [hstop]), List.append_nil]
  split
  · rename_i h
    have hpart : before.takeWhile p <+: before := List.takeWhile_prefix p
    exact (hpart.eq_of_length h).symm
  · rfl

theorem dropWhile_append_stop (hstop : p stop = false) (before rest : List Char) :
    (before ++ stop :: rest).dropWhile p = before.dropWhile p ++ stop :: rest := by
  rw [List.dropWhile_append, List.dropWhile_cons_of_neg (by simp [hstop])]
  split
  · rename_i h
    rw [List.isEmpty_iff.mp h]
    rfl
  · rfl

/-- A character that does not go on is not passed over. -/
theorem mem_dropWhile_of_mem {cs : List Char} (hmem : stop ∈ cs) (hstop : p stop = false) : stop ∈ cs.dropWhile p := by
  obtain ⟨before, rest, rfl⟩ := List.append_of_mem hmem
  rw [dropWhile_append_stop hstop]
  exact List.mem_append_right _ List.mem_cons_self

end Stop

/-- What is made of a result was made of one that there is. -/
theorem exists_of_map_eq_ok {ε α β : Type} {f : α → β} {x : Except ε α} {b : β} (h : x.map f = .ok b) :
    ∃ a, x = .ok a ∧ f a = b := by
  cases x with
  | error e => cases h
  | ok a => exact ⟨a, rfl, Except.ok.inj h⟩

/-! ## Cleaning -/

/-- A blank or control character: it does not count around an address. -/
def isOuter (c : Char) : Bool := c.toNat ≤ 0x20

/-- A character that counts inside an address. -/
def isKept (c : Char) : Bool := c ≠ '\t' && c ≠ '\n' && c ≠ '\r'

/-- **What is read of the beginning of an address.** -/
def cleanedStart (cs : List Char) : List Char := (cs.dropWhile isOuter).filter isKept

/-- **What is read of the end of an address.** -/
def cleanedEnd (cs : List Char) : List Char := (cs.reverse.dropWhile isOuter).reverse.filter isKept

theorem cleaned_eq (cs : List Char) : cleaned cs = cleanedEnd (cs.dropWhile isOuter) := rfl

variable {before rest : List Char}

theorem cleanedEnd_append_slash (before rest : List Char) :
    cleanedEnd (before ++ '/' :: rest) = before.filter isKept ++ '/' :: cleanedEnd rest := by
  have hreverse : (before ++ '/' :: rest).reverse = rest.reverse ++ '/' :: before.reverse := by simp
  unfold cleanedEnd
  rw [hreverse, dropWhile_append_stop (by decide)]
  simp [isKept]

/-- **A slash separates what is read of the beginning from what is read of the end.** -/
theorem cleaned_append_slash (before rest : List Char) :
    cleaned (before ++ '/' :: rest) = cleanedStart before ++ '/' :: cleanedEnd rest := by
  rw [cleaned_eq, dropWhile_append_stop (by decide), cleanedEnd_append_slash]
  rfl

/-- **The end of an address is read as its middle would be**, but for the blanks that stand there. -/
theorem cleanedEnd_append_blanks (cs : List Char) :
    ∃ blanks, cs.filter isKept = cleanedEnd cs ++ blanks ∧ ∀ t ∈ blanks, isOuter t = true := by
  have hcut : cs = (cs.reverse.dropWhile isOuter).reverse ++ (cs.reverse.takeWhile isOuter).reverse := by
    rw [← List.reverse_append, List.takeWhile_append_dropWhile, List.reverse_reverse]
  refine ⟨(cs.reverse.takeWhile isOuter).reverse.filter isKept, ?_, fun t ht => ?_⟩
  · have hfilter := congrArg (List.filter isKept) hcut
    rw [List.filter_append] at hfilter
    exact hfilter
  · have hmem : t ∈ cs.reverse.takeWhile isOuter := List.mem_reverse.mp (List.mem_filter.mp ht).1
    exact List.all_eq_true.mp List.all_takeWhile t hmem

theorem mem_of_mem_cleanedStart {c : Char} {cs : List Char} (h : c ∈ cleanedStart cs) : c ∈ cs :=
  (List.dropWhile_suffix isOuter).subset (List.mem_filter.mp h).1

theorem mem_of_mem_cleanedEnd {c : Char} {cs : List Char} (h : c ∈ cleanedEnd cs) : c ∈ cs := by
  obtain ⟨blanks, hblanks, -⟩ := cleanedEnd_append_blanks cs
  exact (List.mem_filter.mp (hblanks ▸ List.mem_append_left blanks h)).1

/-- A text in which everything counts and whose last character does is read whole. -/
theorem cleanedEnd_of_kept {cs : List Char} (hkept : ∀ c ∈ cs, isKept c = true)
    (hlast : ∀ c ∈ cs.getLast?, isOuter c = false) : cleanedEnd cs = cs := by
  have hdrop : cs.reverse.dropWhile isOuter = cs.reverse := by
    cases hcs : cs.reverse with
    | nil => rfl
    | cons c rest =>
        have hc : c ∈ cs.getLast? := by
          rw [List.getLast?_eq_head?_reverse, hcs]
          rfl
        rw [List.dropWhile_cons_of_neg (by simp [hlast c hc])]
  unfold cleanedEnd
  rw [hdrop, List.reverse_reverse]
  exact List.filter_eq_self.mpr hkept

/-! ## The scheme -/

theorem isSchemeChar_of_isAlpha {c : Char} (h : c.isAlpha = true) : isSchemeChar c = true := by
  unfold isSchemeChar Char.isAlphanum
  rw [h]
  rfl

/-- **A scheme is cut off** where an address begins with a name and a colon, whatever follows. -/
theorem splitScheme_eq_some_iff {cs : List Char} {scheme : String} :
    splitScheme cs = some (scheme, rest) ↔
      ∃ name, cs = name ++ ':' :: rest ∧ name.head?.any Char.isAlpha = true ∧
        (∀ c ∈ name, isSchemeChar c = true) ∧ scheme = String.ofList (name.map Char.toLower) := by
  constructor
  · intro h
    unfold splitScheme at h
    split at h
    · rename_i halpha
      split at h
      · rename_i rest' hdrop
        cases h
        refine ⟨cs.takeWhile isSchemeChar, ?_, ?_, ?_, rfl⟩
        · rw [← hdrop, List.takeWhile_append_dropWhile]
        · cases cs with
          | nil => cases halpha
          | cons c cs =>
              have hc : c.isAlpha = true := halpha
              rw [List.takeWhile_cons_of_pos (isSchemeChar_of_isAlpha hc)]
              exact hc
        · exact List.all_eq_true.mp List.all_takeWhile
      · cases h
    · cases h
  · -- The colon is no character of a scheme, so the name ends before it.
    rintro ⟨name, rfl, halpha, hname, rfl⟩
    have hhead : (name ++ ':' :: rest).head?.any Char.isAlpha = true := by
      cases name with
      | nil => cases halpha
      | cons c name => exact halpha
    have htake : (name ++ ':' :: rest).takeWhile isSchemeChar = name := by
      rw [List.takeWhile_append_of_pos hname, List.takeWhile_cons_of_neg (by decide), List.append_nil]
    have hdrop : (name ++ ':' :: rest).dropWhile isSchemeChar = ':' :: rest := by
      rw [List.dropWhile_append_of_pos hname, List.dropWhile_cons_of_neg (by decide)]
    unfold splitScheme
    rw [if_pos hhead, hdrop, htake]
    rfl

/-! ## The host, the path and the query -/

/-- The path of an address after the part that names its host. -/
def afterAuthority (cs : List Char) : List Char := cs.dropWhile fun c => !endsAuthority true c

theorem beforeQuery_append (hbefore : ∀ c ∈ before, c ≠ '?' ∧ c ≠ '#') (rest : List Char) :
    beforeQuery (before ++ rest) = before ++ beforeQuery rest :=
  List.takeWhile_append_of_pos fun c hc => by simpa using hbefore c hc

theorem queryOf_append (hbefore : ∀ c ∈ before, c ≠ '?' ∧ c ≠ '#') (rest : List Char) :
    queryOf (before ++ rest) = queryOf rest := by
  unfold queryOf
  rw [List.dropWhile_append_of_pos fun c hc => by simpa using hbefore c hc]

theorem beforeQuery_of_plain (hbefore : ∀ c ∈ before, c ≠ '?' ∧ c ≠ '#') : beforeQuery before = before := by
  have happend := beforeQuery_append hbefore []
  rw [List.append_nil] at happend
  exact happend.trans (List.append_nil before)

theorem queryOf_of_plain (hbefore : ∀ c ∈ before, c ≠ '?' ∧ c ≠ '#') : queryOf before = none := by
  have happend := queryOf_append hbefore []
  rw [List.append_nil] at happend
  exact happend

/-- A question mark begins a query, unless a fragment has begun. -/
theorem queryOf_ne_none {cs : List Char} (hquestion : '?' ∈ cs) (hhash : '#' ∉ cs) : queryOf cs ≠ none := by
  have hmem : '?' ∈ cs.dropWhile fun c => c ≠ '?' && c ≠ '#' := mem_dropWhile_of_mem hquestion rfl
  have hhead := List.head?_dropWhile_not (fun c => c ≠ '?' && c ≠ '#') cs
  unfold queryOf
  cases hdrop : cs.dropWhile fun c => c ≠ '?' && c ≠ '#' with
  | nil =>
      rw [hdrop] at hmem
      cases hmem
  | cons c rest =>
      have hc : c ∈ cs := (List.dropWhile_suffix _).subset (hdrop ▸ List.mem_cons_self)
      have hne : c ≠ '#' := fun h => hhash (h ▸ hc)
      rw [hdrop] at hhead
      obtain rfl : c = '?' := by simpa [hne] using hhead
      exact Option.some_ne_none _

/-- A name of a host is needed. -/
theorem readAuthority_nil {scheme : String} (hweb : isWeb scheme = true) (more : Bool) :
    readAuthority scheme [] more = .error .emptyHost := by
  unfold readAuthority
  simp [splitUser, splitHost, hweb]
  rfl

theorem parseAuthority_nil {scheme : String} (hweb : isWeb scheme = true) :
    parseAuthority scheme [] = .error .emptyHost := by
  unfold parseAuthority
  simp only [hweb, List.takeWhile_nil, readAuthority_nil]
  rfl

/-- In an address of the web, it makes no difference to the host what follows it. -/
theorem readAuthority_more {scheme : String} (hweb : isWeb scheme = true) (authority : List Char) (more : Bool) :
    readAuthority scheme authority more = readAuthority scheme authority true := by
  unfold readAuthority
  simp only [hweb, Bool.true_or]

/-- **What stands before the first slash names the host**; the rest is path and query. -/
theorem parseAuthority_eq {scheme : String} (hweb : isWeb scheme = true) (cs : List Char) :
    parseAuthority scheme cs =
      (readAuthority scheme (cs.takeWhile fun c => !endsAuthority true c) true).map fun (host, port) =>
        { scheme, host, port, path := webPath (beforeQuery (afterAuthority cs)), query := queryOf (afterAuthority cs) } := by
  unfold parseAuthority
  simp only [hweb, readAuthority_more hweb]
  cases readAuthority scheme (cs.takeWhile fun c => !endsAuthority true c) true <;> rfl

theorem afterAuthority_append_slash (before rest : List Char) :
    afterAuthority (before ++ '/' :: rest) = afterAuthority before ++ '/' :: rest :=
  dropWhile_append_stop rfl before rest

/-- **What stands behind a slash is path and query**, and what stands before it says where they are sent to. -/
theorem parseAuthority_append_slash {scheme : String} (hweb : isWeb scheme = true)
    (hbefore : ∀ c ∈ before, c ≠ '?' ∧ c ≠ '#') (rest : List Char) :
    parseAuthority scheme (before ++ '/' :: rest) =
      (readAuthority scheme (before.takeWhile fun c => !endsAuthority true c) true).map fun (host, port) =>
        { scheme, host, port, path := webPath (afterAuthority before ++ '/' :: beforeQuery rest),
          query := queryOf rest } := by
  have hafter : ∀ c ∈ afterAuthority before, c ≠ '?' ∧ c ≠ '#' :=
    fun c hc => hbefore c ((List.dropWhile_suffix _).subset hc)
  have hpath : beforeQuery (afterAuthority before ++ '/' :: rest) = afterAuthority before ++ '/' :: beforeQuery rest :=
    beforeQuery_append hafter _
  rw [parseAuthority_eq hweb, afterAuthority_append_slash, takeWhile_append_stop rfl, hpath,
    queryOf_append hafter]
  rfl

/-- A question mark begins a query wherever it stands, if there is no fragment. -/
theorem parseAuthority_query {scheme : String} (hweb : isWeb scheme = true) {cs : List Char} {url : Url}
    (h : parseAuthority scheme cs = .ok url) (hquestion : '?' ∈ cs) (hhash : '#' ∉ cs) : url.query ≠ none := by
  have hafter : '?' ∈ afterAuthority cs := mem_dropWhile_of_mem hquestion rfl
  have hnone : '#' ∉ afterAuthority cs := fun hmem => hhash ((List.dropWhile_suffix _).subset hmem)
  rw [parseAuthority_eq hweb] at h
  obtain ⟨_, -, rfl⟩ := exists_of_map_eq_ok h
  exact queryOf_ne_none hafter hnone

theorem parseAuthority_scheme {scheme : String} {cs : List Char} {url : Url} (h : parseAuthority scheme cs = .ok url) :
    url.scheme = scheme := by
  unfold parseAuthority at h
  simp only [bind, Except.bind, pure, Except.pure] at h
  split at h
  · cases h
  · cases h; rfl

theorem parseFile_scheme {cs : List Char} {url : Url} (h : parseFile cs = .ok url) : url.scheme = "file" := by
  unfold parseFile at h
  simp only at h
  split at h
  · split at h
    · unfold Except.map at h
      split at h
      · cases h
      · cases h; rfl
    · cases h; rfl
  · cases h; rfl

theorem isWeb_of_isHttp {url : Url} (h : Http.isHttp url = true) : isWeb url.scheme = true ∧ url.scheme ≠ "file" := by
  simp only [Http.isHttp, Bool.or_eq_true, decide_eq_true_eq] at h
  rcases h with h | h <;> rw [h] <;> decide

/-- **An address of the web's pages** has one of their schemes, and then a host. -/
theorem parse_of_isHttp {s : String} {url : Url} (h : parse s = .ok url) (hhttp : Http.isHttp url = true) :
    ∃ rest, splitScheme (cleaned s.toList) = some (url.scheme, rest) ∧
      parseAuthority url.scheme (rest.dropWhile isSlash) = .ok url := by
  obtain ⟨hweb, hfile⟩ := isWeb_of_isHttp hhttp
  unfold parse at h
  split at h
  · cases h
  · rename_i scheme rest hsplit
    split at h
    · exact absurd (parseFile_scheme h) hfile
    · split at h
      · rw [parseAuthority_scheme h]
        exact ⟨rest, hsplit, parseAuthority_scheme h ▸ h⟩
      · rename_i hother
        -- An address of another scheme keeps that scheme.
        have hscheme : url.scheme = scheme := by
          split at h
          · exact parseAuthority_scheme h
          · cases h; rfl
        rw [hscheme] at hweb
        exact absurd hweb hother

/-- An address with a scheme of the web is read on from behind its first slashes. -/
theorem parse_of_splitScheme {s scheme : String} {rest : List Char} (hweb : isWeb scheme = true)
    (hsplit : splitScheme (cleaned s.toList) = some (scheme, rest)) :
    parse s = parseAuthority scheme (rest.dropWhile isSlash) := by
  have hfile : scheme ≠ "file" := by
    rintro rfl
    exact absurd hweb (by decide)
  unfold parse
  rw [hsplit]
  show (if scheme = "file" then _ else if isWeb scheme then _ else _) = _
  rw [if_neg hfile, if_pos hweb]
  rfl

end DeployBoard.Url
