import DeployBoard.Client
import DeployBoard.Proofs.Url.Prefix

/-!
# `Proofs.Client.Endpoint` — where a client sends its requests

A client puts a path behind the text of its address, and the whole is read again as an address. What it is read as differs
from the address in its end alone (`ReadAs`): the scheme and the text that names the host are those of the
address (`parse_endpoint_eq`), unless there are blanks behind it. So a client can put every path behind its address,
or none (`parse_endpoint_isSome`).

If the client's address has no query and no fragment, it decides the first segments too, and all that it was given to put
behind it is read as more segments, and as the query (`parse_endpoint`).
-/

namespace DeployBoard

open Http Url

namespace Client

/-- **The client's address is accepted**: it is one of the web's pages. -/
def Accepted (client : Client) : Prop := ∃ u, Url.parse client.baseUrl = .ok u ∧ isHttp u = true

/-- A client has the address that it was made for, and that is accepted. -/
theorem ofUrl_eq_ok {url : String} {library : Library} {client : Client} (h : ofUrl? url library = .ok client) :
    client.baseUrl = url ∧ client.Accepted := by
  unfold ofUrl? at h
  simp only at h
  split at h
  · cases h
  · rename_i u hparse
    split at h
    · rename_i hhttp
      cases h
      exact ⟨rfl, u, hparse, hhttp⟩
    · cases h

/-- An address of the web's pages is accepted. -/
theorem ofUrl_of_isHttp {url : String} {library : Library} (h : (Url.parse url).toOption.map isHttp = some true) :
    ofUrl? url library = .ok { baseUrl := url, library } := by
  unfold ofUrl?
  cases hparse : Url.parse url with
  | error e =>
      rw [hparse] at h
      cases h
  | ok u =>
      rw [hparse] at h
      exact if_pos (Option.some.inj h)

/-- The address is its base and some slashes. -/
theorem baseUrl_eq (client : Client) :
    ∃ n, client.baseUrl.toList = client.base ++ List.replicate n '/' := by
  let slashes := client.baseUrl.toList.reverse.takeWhile (· = '/')
  have hslashes : slashes.reverse = List.replicate slashes.length '/' := by
    refine List.eq_replicate_iff.mpr ⟨List.length_reverse, fun c hc => ?_⟩
    have hall := List.all_eq_true.mp List.all_takeWhile c (List.mem_reverse.mp hc)
    exact of_decide_eq_true hall
  refine ⟨slashes.length, ?_⟩
  unfold base
  rw [← hslashes, ← List.reverse_append, List.takeWhile_append_dropWhile, List.reverse_reverse]

theorem mem_of_mem_base {client : Client} {c : Char} (h : c ∈ client.base) : c ∈ client.baseUrl.toList := by
  obtain ⟨n, heq⟩ := client.baseUrl_eq
  rw [heq]
  exact List.mem_append_left _ h

/-- What stands behind the host in the client's address. -/
def pathText (client : Client) : List Char :=
  match splitScheme (cleanedStart client.base) with
  | some (_, rest) => afterAuthority (rest.dropWhile isSlash)
  | none => []

/-- **The segments of the client's address.** -/
def segments (client : Client) : List (List Char) :=
  match client.pathText with
  | [] => []
  | _ :: rest => splitSegments [] rest

theorem segments_no_slash {client : Client} {s : List Char} (h : s ∈ client.segments) :
    ∀ c ∈ s, isSlash c = false := by
  intro c hc
  unfold segments at h
  split at h
  · cases h
  · exact (mem_of_mem_splitSegments h hc).2

/-! ## The beginning of an endpoint -/

/-- **How the end of an address differs from the end of its base**, where more follows the base: the address has slashes, or
    it has blanks that count where something follows them. -/
inductive Ends (client : Client) (within own : List Char) : Prop
  | slashes (n : Nat) (heq : own = within ++ '/' :: List.replicate n '/')
      (hclean : cleaned client.baseUrl.toList = cleanedStart client.baseUrl.toList)
  | blanks (blanks : List Char) (heq : within = own ++ blanks) (hblanks : ∀ t ∈ blanks, isOuter t = true)
      (hclean : cleaned client.baseUrl.toList = cleanedStart client.baseUrl.toList ↔ blanks = [])

/-- **How an accepted address is read**: its scheme, and what follows the first slashes, in the address itself (`own`) and in
    its base, where more follows (`within`). -/
structure ReadAs (client : Client) (scheme : String) (within own : List Char) : Prop where
  web : isWeb scheme = true
  host : within ≠ []
  base : ∃ rest, splitScheme (cleanedStart client.base) = some (scheme, rest) ∧ rest.dropWhile isSlash = within
  address : Url.parse client.baseUrl = parseAuthority scheme own
  ends : client.Ends within own

theorem cleanedEnd_slashes (n : Nat) : cleanedEnd (List.replicate n '/') = List.replicate n '/' := by
  refine cleanedEnd_of_kept (fun c hc => ?_) fun c hc => ?_
  · rw [List.eq_of_mem_replicate hc]
    rfl
  · rw [List.eq_of_mem_replicate (List.mem_of_getLast? hc)]
    rfl

/-- **The base of an accepted address has a scheme of the web, and a host**: the slashes that it is without are neither. -/
theorem base_eq {client : Client} (h : client.Accepted) : ∃ scheme within own, client.ReadAs scheme within own := by
  obtain ⟨u, hparse, hhttp⟩ := h
  have hweb := (isWeb_of_isHttp hhttp).1
  obtain ⟨rest, hsplit, hauthority⟩ := parse_of_isHttp hparse hhttp
  have haddress := parse_of_splitScheme hweb hsplit
  have hhost : rest.dropWhile isSlash ≠ [] := by
    intro hnone
    rw [hnone, parseAuthority_nil hweb] at hauthority
    cases hauthority
  obtain ⟨name, hname, halpha, hchars, hscheme⟩ := splitScheme_eq_some_iff.mp hsplit
  obtain ⟨n, hurl⟩ := client.baseUrl_eq
  cases n with
  | zero =>
      -- Without slashes, the end of the address may have blanks that count in its middle.
      have hbase : client.base = client.baseUrl.toList := by rw [hurl]; exact (List.append_nil _).symm
      obtain ⟨blanks, hstart, hblanks⟩ := cleanedEnd_append_blanks (client.baseUrl.toList.dropWhile isOuter)
      rw [← cleaned_eq] at hstart
      have hsplit' : splitScheme (cleanedStart client.base) = some (u.scheme, rest ++ blanks) := by
        refine splitScheme_eq_some_iff.mpr ⟨name, ?_, halpha, hchars, hscheme⟩
        rw [hbase]
        show (client.baseUrl.toList.dropWhile isOuter).filter isKept = _
        rw [hstart, hname, List.append_assoc, List.cons_append]
      have hwithin : (rest ++ blanks).dropWhile isSlash = rest.dropWhile isSlash ++ blanks := by
        rw [List.dropWhile_append, if_neg (by simpa using hhost)]
      have hclean : cleaned client.baseUrl.toList = cleanedStart client.baseUrl.toList ↔ blanks = [] := by
        show _ = (client.baseUrl.toList.dropWhile isOuter).filter isKept ↔ _
        rw [hstart, List.self_eq_append_right]
      exact ⟨u.scheme, rest.dropWhile isSlash ++ blanks, rest.dropWhile isSlash, hweb,
        List.append_ne_nil_of_left_ne_nil hhost _, ⟨_, hsplit', hwithin⟩, haddress, .blanks blanks rfl hblanks hclean⟩
  | succ n =>
      have hurl : client.baseUrl.toList = client.base ++ '/' :: List.replicate n '/' := hurl
      have hcleaned : cleaned client.baseUrl.toList = cleanedStart client.base ++ '/' :: List.replicate n '/' := by
        rw [hurl, cleaned_append_slash, cleanedEnd_slashes]
      have hclean : cleaned client.baseUrl.toList = cleanedStart client.baseUrl.toList := by
        have hkept : (List.replicate n '/').filter isKept = List.replicate n '/' :=
          List.filter_eq_self.mpr fun c hc => by rw [List.eq_of_mem_replicate hc]; rfl
        rw [hcleaned, hurl]
        unfold cleanedStart
        rw [dropWhile_append_stop (by decide), List.filter_append, List.filter_cons_of_pos (by decide), hkept]
      rw [hcleaned] at hname
      -- The colon of the scheme is none of the slashes, so it stands in the base.
      obtain ⟨rest', hstart, hrest⟩ : ∃ rest', cleanedStart client.base = name ++ ':' :: rest' ∧
          rest = rest' ++ '/' :: List.replicate n '/' := by
        rcases List.append_eq_append_iff.mp hname with ⟨before, hbefore, hcolon⟩ | ⟨after, hafter, hcolon⟩
        · have hmem : ':' ∈ List.replicate (n + 1) '/' := by
            rw [List.replicate_succ, hcolon]
            exact List.mem_append_right _ List.mem_cons_self
          exact absurd (List.eq_of_mem_replicate hmem) (by decide)
        · cases after with
          | nil => exact absurd (List.cons.inj hcolon).1 (by decide)
          | cons c rest' =>
              obtain ⟨rfl, hrest⟩ := List.cons.inj hcolon
              exact ⟨rest', hafter, hrest⟩
      have hhost' : rest'.dropWhile isSlash ≠ [] := by
        intro hnone
        have hall : (List.replicate (n + 1) '/' ++ []).dropWhile isSlash = [] :=
          List.dropWhile_append_of_pos fun c hc => by rw [List.eq_of_mem_replicate hc]; rfl
        rw [List.append_nil] at hall
        refine hhost ?_
        rw [hrest, List.dropWhile_append, hnone]
        exact hall
      have hown : rest.dropWhile isSlash = rest'.dropWhile isSlash ++ '/' :: List.replicate n '/' := by
        rw [hrest, List.dropWhile_append, if_neg (by simpa using hhost')]
      exact ⟨u.scheme, rest'.dropWhile isSlash, rest.dropWhile isSlash, hweb, hhost',
        ⟨rest', splitScheme_eq_some_iff.mpr ⟨name, hstart, halpha, hchars, hscheme⟩, rfl⟩, haddress,
        .slashes n hown hclean⟩

namespace ReadAs

variable {client : Client} {scheme : String} {within own : List Char}

theorem pathText_eq (h : client.ReadAs scheme within own) : client.pathText = afterAuthority within := by
  obtain ⟨rest, hsplit, hrest⟩ := h.base
  unfold pathText
  rw [hsplit, ← hrest]

theorem mem_base (h : client.ReadAs scheme within own) {c : Char} (hc : c ∈ within) : c ∈ client.base := by
  obtain ⟨rest, hsplit, hrest⟩ := h.base
  obtain ⟨name, hname, -⟩ := splitScheme_eq_some_iff.mp hsplit
  refine mem_of_mem_cleanedStart ?_
  rw [hname]
  exact List.mem_append_right _ (List.mem_cons_of_mem _ ((List.dropWhile_suffix _).subset (hrest ▸ hc)))

/-- **An endpoint is read on behind the base**, from its slash. -/
theorem parse_endpoint_eq (h : client.ReadAs scheme within own) (path : String) :
    Url.parse (client.endpoint path) =
      parseAuthority scheme (within ++ '/' :: cleanedEnd (path.toList.dropWhile (· = '/'))) := by
  obtain ⟨rest, hsplit, hrest⟩ := h.base
  obtain ⟨name, hname, halpha, hchars, hscheme⟩ := splitScheme_eq_some_iff.mp hsplit
  have hendpoint : splitScheme (cleaned (client.endpoint path).toList) =
      some (scheme, rest ++ '/' :: cleanedEnd (path.toList.dropWhile (· = '/'))) := by
    unfold endpoint
    rw [String.toList_ofList, cleaned_append_slash, hname]
    exact splitScheme_eq_some_iff.mpr ⟨name, by simp, halpha, hchars, hscheme⟩
  rw [parse_of_splitScheme h.web hendpoint, List.dropWhile_append, hrest, if_neg (by simpa using h.host)]

end ReadAs

/-- **Every path can be put behind an accepted address, or none**: the part that names the host has to be read. -/
theorem parse_endpoint_isSome {client : Client} (h : client.Accepted) (path path' : String) :
    (Url.parse (client.endpoint path)).toOption.isSome = (Url.parse (client.endpoint path')).toOption.isSome := by
  obtain ⟨scheme, within, own, hread⟩ := base_eq h
  have hone : ∀ path, (Url.parse (client.endpoint path)).toOption.isSome =
      (readAuthority scheme (within.takeWhile fun c => !endsAuthority true c) true).toOption.isSome := by
    intro path
    rw [hread.parse_endpoint_eq, parseAuthority_eq hread.web, takeWhile_append_stop rfl]
    cases readAuthority scheme (within.takeWhile fun c => !endsAuthority true c) true <;> rfl
  rw [hone path, hone path']

/-! ## Reading an endpoint -/

/-- What stands behind the host begins with a slash, if it is anything. -/
theorem pathText_cases {client : Client} (hplain : ∀ c ∈ client.baseUrl.toList, c ≠ '?' ∧ c ≠ '#') :
    client.pathText = [] ∨ ∃ slash rest, client.pathText = slash :: rest ∧ (slash = '/' ∨ slash = '\\') := by
  unfold pathText
  split
  · rename_i scheme rest hsplit
    obtain ⟨name, hname, -⟩ := splitScheme_eq_some_iff.mp hsplit
    have hchars : ∀ c ∈ afterAuthority (rest.dropWhile isSlash), c ≠ '?' ∧ c ≠ '#' := by
      intro c hc
      have hrest : c ∈ rest := (List.dropWhile_suffix _).subset ((List.dropWhile_suffix _).subset hc)
      have hstart : c ∈ cleanedStart client.base := by
        rw [hname]
        exact List.mem_append_right _ (List.mem_cons_of_mem _ hrest)
      exact hplain c (mem_of_mem_base (mem_of_mem_cleanedStart hstart))
    cases htext : afterAuthority (rest.dropWhile isSlash) with
    | nil => exact .inl rfl
    | cons c more =>
        refine .inr ⟨c, more, rfl, ?_⟩
        have hhead : (afterAuthority (rest.dropWhile isSlash)).head? = some c := by rw [htext]; rfl
        have hend := List.head?_dropWhile_not (fun c => !endsAuthority true c) (rest.dropWhile isSlash)
        unfold afterAuthority at hhead
        rw [hhead] at hend
        obtain ⟨hquestion, hhash⟩ := hchars c (by rw [htext]; exact List.mem_cons_self)
        exact Decidable.or_iff_not_imp_left.mpr (by simpa [endsAuthority, hquestion, hhash] using hend)
  · exact .inl rfl

/-- **The path of an endpoint**: the segments of the address come first. -/
theorem webPath_pathText {client : Client} (hplain : ∀ c ∈ client.baseUrl.toList, c ≠ '?' ∧ c ≠ '#')
    (rest : List Char) :
    webPath (client.pathText ++ '/' :: rest) =
      joinSegments ((resolveDots [] (client.segments ++ splitSegments [] rest)).map (percentEncode encodedInPath)) := by
  unfold segments
  rcases pathText_cases hplain with htext | ⟨slash, more, htext, hslash⟩
  · rw [htext]
    rfl
  · rw [htext, List.cons_append, webPath_cons hslash, splitSegments_append]

/-- **An endpoint is read** as the scheme and host of the client's address, whatever they are, with the path and the
    query that stand behind its slash. -/
theorem parse_endpoint {url : String} {library : Library} {client : Client} (h : ofUrl? url library = .ok client)
    (hplain : ∀ c ∈ url.toList, c ≠ '?' ∧ c ≠ '#') :
    ∃ scheme authority, ∀ path : String, Url.parse (client.endpoint path) =
      (readAuthority scheme authority true).map fun (host, port) =>
        { scheme, host, port,
          path := joinSegments ((resolveDots [] (client.segments ++
            splitSegments [] (beforeQuery (cleanedEnd (path.toList.dropWhile (· = '/')))))).map
              (percentEncode encodedInPath)),
          query := queryOf (cleanedEnd (path.toList.dropWhile (· = '/'))) } := by
  obtain ⟨rfl, haccepted⟩ := ofUrl_eq_ok h
  obtain ⟨scheme, within, own, hread⟩ := base_eq haccepted
  have hwithin : ∀ c ∈ within, c ≠ '?' ∧ c ≠ '#' := fun c hc => hplain c (mem_of_mem_base (hread.mem_base hc))
  refine ⟨scheme, within.takeWhile fun c => !endsAuthority true c, fun path => ?_⟩
  rw [hread.parse_endpoint_eq, parseAuthority_append_slash hread.web hwithin, ← hread.pathText_eq,
    webPath_pathText hplain]

end Client
end DeployBoard
