import DeployBoard.Proofs.Client.Endpoint
import DeployBoard.Proofs.Json.Text

/-!
# `Proofs.Client.Requests` — which commands reach the backend as the same request

A command is sent as a target and a body. The body tells the action (`body_injective`), and the target the
**addressee**: the name of the repository goes into the address as it is, and what the rules of addresses make of it, is
sent. So two commands are the same request exactly when they have one action and one addressee
(`same_request_iff`), which two repositories can have: whatever a hash sign begins is not sent at all. A name that goes
through an address unchanged (`KeptName`) is told apart from every other such name.
-/

namespace DeployBoard

open Http Url

/-- What holds of the members of a list is checked on them, and not on all characters that there are. -/
theorem forall_mem_of_all {α : Type} {p : α → Prop} [DecidablePred p] {as : List α}
    (h : as.all (fun a => decide (p a)) = true) : ∀ a ∈ as, p a :=
  fun a ha => of_decide_eq_true (List.all_eq_true.mp h a ha)

/-! ## Bodies -/

theorem render_object (name : String) (value : Json) :
    (Json.object [(some name, value)]).render = '\x7b' :: (Json.encodeText name ++ ':' :: value.render) ++ ['\x7d'] := by
  rw [Json.render]
  rfl

/-- The first letter of the member's name in the body says what kind of action it is. -/
def Action.letter? : Action → Option Char
  | .deploy _ => some 'p'
  | .setAutoDeploy _ => some 'a'
  | .reset => none

theorem letter_of_body (a : Action) : a.body.render[2]? = a.letter? := by
  cases a with
  | deploy tag => rw [Action.body, render_object]; rfl
  | setAutoDeploy enabled => rw [Action.body, render_object]; rfl
  | reset => rw [Action.body, Json.render]; rfl

/-- **The body tells the action.** -/
theorem body_injective {a b : Action} (h : a.body.render = b.body.render) : a = b := by
  have hsame : b.letter? = a.letter? := by rw [← letter_of_body, ← letter_of_body, h]
  cases a with
  | deploy tag =>
      cases b with
      | deploy tag' =>
          simp only [Action.body, render_object, Json.render] at h
          have htext := List.append_cancel_right (List.cons.inj h).2
          have htag := (List.cons.inj (List.append_cancel_left htext)).2
          rw [Json.encodeText_injective htag]
      | setAutoDeploy enabled => cases hsame
      | reset => cases hsame
  | setAutoDeploy enabled =>
      cases b with
      | deploy tag => cases hsame
      | setAutoDeploy enabled' =>
          simp only [Action.body, render_object] at h
          have htext := List.append_cancel_right (List.cons.inj h).2
          have hvalue := (List.cons.inj (List.append_cancel_left htext)).2
          cases enabled <;> cases enabled' <;> simp [Json.render] at hvalue ⊢
      | reset => cases hsame
  | reset =>
      cases b with
      | deploy tag => cases hsame
      | setAutoDeploy enabled => cases hsame
      | reset => rfl

theorem bodyText_eq_iff {c₁ c₂ : Command} : c₁.bodyText = c₂.bodyText ↔ c₁.action = c₂.action := by
  unfold Command.bodyText
  rw [String.ofList_inj]
  exact ⟨body_injective, fun h => by rw [h]⟩

/-! ## Targets -/

/-- The query as it stands in a target. -/
def queryText : Option (List Char) → List Char
  | some q => '?' :: q
  | none => []

/-- The text of a query tells it, and whether there is one. -/
theorem queryText_injective {q q' : Option (List Char)} (h : queryText q = queryText q') : q = q' := by
  cases q with
  | none =>
      cases q' with
      | none => rfl
      | some text' => cases h
  | some text =>
      cases q' with
      | none => cases h
      | some text' => rw [(List.cons.inj h).2]

/-- **A target tells the path and the query apart**, as a path has no question mark. -/
theorem target_eq_iff {u v : Url} (hu : '?' ∉ u.path) (hv : '?' ∉ v.path) :
    u.target = v.target ↔ u.path = v.path ∧ u.query = v.query := by
  have hcut : ∀ w : Url, '?' ∉ w.path → w.target.toList.takeWhile (· ≠ '?') = w.path ∧
      w.target.toList.dropWhile (· ≠ '?') = queryText w.query := by
    intro w hw
    have hpath : ∀ c ∈ w.path, decide (c ≠ '?') = true := fun c hc => decide_eq_true fun h => hw (h ▸ hc)
    have htarget : w.target.toList = w.path ++ queryText w.query := String.toList_ofList
    rw [htarget, List.takeWhile_append_of_pos hpath, List.dropWhile_append_of_pos hpath]
    cases w.query with
    | none => exact ⟨List.append_nil _, rfl⟩
    | some q => exact ⟨List.append_nil _, rfl⟩
  constructor
  · intro h
    obtain ⟨hpath, hquery⟩ := hcut u hu
    rw [h] at hpath hquery
    obtain ⟨hpath', hquery'⟩ := hcut v hv
    refine ⟨hpath.symm.trans hpath', ?_⟩
    exact queryText_injective (hquery.symm.trans hquery')
  · rintro ⟨hpath, hquery⟩
    unfold target
    rw [hpath, hquery]

/-- The segments that a path is joined of have no slash and no question mark. -/
theorem not_mem_encoded {s : List Char} (hs : ∀ c ∈ s, isSlash c = false) :
    ∀ c ∈ percentEncode encodedInPath s, isSlash c = false ∧ c ≠ '?' := by
  intro c hc
  rcases mem_percentEncode hc with rfl | halnum | ⟨hmem, hplain⟩
  · decide
  · refine ⟨?_, ?_⟩
    · cases hslash : isSlash c with
      | false => rfl
      | true =>
          simp only [isSlash, Bool.or_eq_true, decide_eq_true_eq] at hslash
          rcases hslash with rfl | rfl <;> exact absurd halnum (by decide)
    · rintro rfl
      exact absurd halnum (by decide)
  · refine ⟨hs c hmem, ?_⟩
    rintro rfl
    exact absurd hplain (by decide)

/-! ## Addressees -/

/-- The segment that all commands are put behind. -/
def tagsSegment : List Char := ['t', 'a', 'g', 's']

/-- The segment that a reset ends in. -/
def resetSegment : List Char := ['r', 'e', 's', 'e', 't']

/-- What a command puts into the address behind `tags/`. -/
def Command.tail (c : Command) : List Char :=
  c.repo.toList ++ match c.action with
    | .reset => '/' :: resetSegment
    | _ => []

namespace Client

/-- The segments of the client's address, and `tags`. -/
def tagSegments (client : Client) : List (List Char) := resolveDots [] (client.segments ++ [tagsSegment])

/-- Behind `tags`, resolving goes on from the segments up to it. -/
theorem resolveDots_tagSegments (client : Client) {rest : List (List Char)} (hrest : rest ≠ []) :
    resolveDots [] (client.segments ++ tagsSegment :: rest) = resolveDots client.tagSegments rest := by
  have htags : client.tagSegments = (client.segments ++ [tagsSegment]).foldl follow [] := by
    unfold tagSegments
    rw [resolveDots_concat, if_pos (by decide), List.append_nil]
  rw [List.append_cons, resolveDots_append hrest, htags]

/-- **Where a command goes**: the segments of the path and the query that an address keeps of what the command puts
    into it. Blanks at the end, tabs and line breaks do not count, a hash sign ends it, slashes and backslashes separate
    segments, dots among these are resolved, and what has no place in an address is encoded. -/
def addressee (client : Client) (c : Command) : List (List Char) × Option (List Char) :=
  ((resolveDots client.tagSegments (splitSegments [] (beforeQuery (cleanedEnd c.tail)))).map
    (percentEncode encodedInPath), queryOf (cleanedEnd c.tail))

theorem path_toList (c : Command) : c.path.toList = '/' :: (tagsSegment ++ '/' :: c.tail) := by
  unfold Command.path Command.tail
  cases c.action <;> simp <;> rfl

/-- The path is read from behind its first slash. -/
theorem path_eq (c : Command) : c.path.toList.dropWhile (· = '/') = tagsSegment ++ '/' :: c.tail := by
  rw [path_toList]
  rfl

/-- **A command is sent to its addressee.** -/
theorem commandRequest_eq {url : String} {library : Library} {client : Client} (h : ofUrl? url library = .ok client)
    (hplain : ∀ c ∈ url.toList, c ≠ '?' ∧ c ≠ '#') {c : Command} {r : Request} (hr : client.commandRequest? c = some r) :
    r.url.path = joinSegments (client.addressee c).1 ∧ r.url.query = (client.addressee c).2 ∧
      r.body = c.bodyText := by
  obtain ⟨scheme, authority, hparse⟩ := parse_endpoint h hplain
  have htags : ∀ ch ∈ tagsSegment ++ ['/'], ch ≠ '?' ∧ ch ≠ '#' := forall_mem_of_all rfl
  have hread : cleanedEnd (c.path.toList.dropWhile (· = '/')) = (tagsSegment ++ ['/']) ++ cleanedEnd c.tail := by
    rw [path_eq, cleanedEnd_append_slash]
    rfl
  have hsplit : splitSegments [] ((tagsSegment ++ ['/']) ++ beforeQuery (cleanedEnd c.tail)) =
      tagsSegment :: splitSegments [] (beforeQuery (cleanedEnd c.tail)) := by
    rw [List.append_assoc, List.singleton_append, splitSegments_append]
    rfl
  unfold commandRequest? at hr
  rw [hparse, hread, beforeQuery_append htags, queryOf_append htags, hsplit,
    resolveDots_tagSegments client (splitSegments_ne_nil _ _)] at hr
  -- The host is the client's, or there is no request.
  cases hhost : readAuthority scheme authority true with
  | error e =>
      rw [hhost] at hr
      cases hr
  | ok found =>
      rw [hhost] at hr
      simp only [Except.map, Except.toOption, Option.map_some, Option.some.injEq] at hr
      rw [← hr]
      simp only [addressee, and_self]

theorem tagSegments_no_slash {client : Client} {s : List Char} (h : s ∈ client.tagSegments) :
    ∀ c ∈ s, isSlash c = false := by
  intro c hc
  rcases mem_resolveDots h with h | h | rfl
  · cases h
  · rcases List.mem_append.mp h with h | h
    · exact segments_no_slash h c hc
    · have htags : ∀ c ∈ tagsSegment, isSlash c = false := forall_mem_of_all rfl
      obtain rfl := List.mem_singleton.mp h
      exact htags c hc
  · cases hc

theorem addressee_chars {client : Client} {command : Command} {s : List Char} (h : s ∈ (client.addressee command).1) :
    ∀ c ∈ s, isSlash c = false ∧ c ≠ '?' := by
  unfold addressee at h
  obtain ⟨t, ht, rfl⟩ := List.mem_map.mp h
  refine not_mem_encoded fun c hc => ?_
  rcases mem_resolveDots ht with ht | ht | rfl
  · exact tagSegments_no_slash ht c hc
  · exact (mem_of_mem_splitSegments ht hc).2
  · cases hc

theorem addressee_path {client : Client} (command : Command) :
    '?' ∉ joinSegments (client.addressee command).1 := by
  intro h
  obtain ⟨s, hs, hmem⟩ := List.mem_flatMap.mp h
  rcases List.mem_cons.mp hmem with h | h
  · exact absurd h (by decide)
  · exact (addressee_chars hs _ h).2 rfl

variable {url : String} {library : Library} {client : Client} {c₁ c₂ : Command} {r₁ r₂ : Request}

/-- **Two commands are sent to the same target** exactly when they have the same addressee. -/
theorem same_target_iff (h : ofUrl? url library = .ok client) (hplain : ∀ c ∈ url.toList, c ≠ '?' ∧ c ≠ '#')
    (h₁ : client.commandRequest? c₁ = some r₁) (h₂ : client.commandRequest? c₂ = some r₂) :
    r₁.url.target = r₂.url.target ↔ client.addressee c₁ = client.addressee c₂ := by
  obtain ⟨hpath₁, hquery₁, -⟩ := commandRequest_eq h hplain h₁
  obtain ⟨hpath₂, hquery₂, -⟩ := commandRequest_eq h hplain h₂
  rw [target_eq_iff (hpath₁ ▸ addressee_path c₁) (hpath₂ ▸ addressee_path c₂), hpath₁, hpath₂, hquery₁, hquery₂]
  constructor
  · rintro ⟨hpath, hquery⟩
    have hsegments := joinSegments_injective (fun s hs c hc => (addressee_chars hs c hc).1)
      (fun s hs c hc => (addressee_chars hs c hc).1) hpath
    exact Prod.ext hsegments hquery
  · intro h
    rw [h]
    exact ⟨rfl, rfl⟩

end Client

/-! ## Names that an address keeps -/

/-- The characters that do not always stand for themselves in an address. -/
def specialChars : List Char := ['\t', '\n', '\r', '#', '?', '\\', '%']

/-- **A name goes through an address unchanged**: nothing in it is left out, ends the path, stands for something else, or
    looks as if it were encoded already; and none of its segments is dots. -/
structure KeptName (name : String) : Prop where
  chars : ∀ c ∈ name.toList, c ∉ specialChars
  last : ∀ c ∈ name.toList.getLast?, 0x20 < c.toNat
  segments : ∀ s ∈ splitSegments [] name.toList, s ≠ ['.'] ∧ s ≠ ['.', '.']

/-- A name can be checked to be kept. -/
theorem keptName_of_checked {name : String}
    (hchars : name.toList.all (fun c => decide (c ∉ specialChars)) = true)
    (hlast : name.toList.getLast?.all (fun c => decide (0x20 < c.toNat)) = true)
    (hsegments : (splitSegments [] name.toList).all (fun s => decide (s ≠ ['.'] ∧ s ≠ ['.', '.'])) = true) :
    KeptName name where
  chars := forall_mem_of_all hchars
  last c hc := by
    rw [Option.mem_def.mp hc] at hlast
    exact of_decide_eq_true hlast
  segments := forall_mem_of_all hsegments

/-- Without percent signs, dots are written as dots. -/
theorem isPlainSegment_of_ne {s : List Char} (hpercent : '%' ∉ s) (hsingle : s ≠ ['.']) (hdouble : s ≠ ['.', '.']) :
    isPlainSegment s = true := by
  have hencoded : ∀ dots : String, ∀ ts : List String, (∀ t ∈ ts, t = dots ∨ '%' ∈ t.toList) → s ≠ dots.toList →
      ts.contains (String.ofList s) = false := by
    intro dots ts hts hs
    refine Bool.eq_false_iff.mpr fun h => ?_
    rcases hts _ (List.contains_iff_mem.mp h) with h | h
    · exact hs (h ▸ String.toList_ofList.symm)
    · rw [String.toList_ofList] at h
      exact hpercent h
  have hdouble : isDoubleDot s = false := hencoded ".." _ (by decide) hdouble
  have hsingle : isSingleDot s = false := hencoded "." _ (by decide) hsingle
  unfold isPlainSegment
  rw [hdouble, hsingle]
  rfl

namespace KeptName

variable {c : Command}

theorem tail_chars (h : KeptName c.repo) : ∀ ch ∈ c.tail, ch ∉ specialChars := by
  intro ch hch
  unfold Command.tail at hch
  rcases List.mem_append.mp hch with hch | hch
  · exact h.chars ch hch
  · have hreset : ∀ ch ∈ '/' :: resetSegment, ch ∉ specialChars := forall_mem_of_all rfl
    split at hch
    · exact hreset ch hch
    · cases hch

theorem tail_last (h : KeptName c.repo) : ∀ ch ∈ c.tail.getLast?, isOuter ch = false := by
  intro ch hch
  unfold Command.tail at hch
  split at hch
  · rw [List.getLast?_append] at hch
    cases hch
    decide
  · rw [List.append_nil] at hch
    have hlt := h.last ch hch
    exact decide_eq_false (by omega)

theorem segment_percent (h : KeptName c.repo) : ∀ s ∈ splitSegments [] c.tail, '%' ∉ s :=
  fun _ hs hmem => h.tail_chars _ (mem_of_mem_splitSegments hs hmem).1 (by decide)

theorem tail_segments (h : KeptName c.repo) : ∀ s ∈ splitSegments [] c.tail, isPlainSegment s = true := by
  intro s hs
  have hdots : s ≠ ['.'] ∧ s ≠ ['.', '.'] := by
    unfold Command.tail at hs
    split at hs
    · rw [splitSegments_append] at hs
      rcases List.mem_append.mp hs with hs | hs
      · exact h.segments s hs
      · obtain rfl := List.mem_singleton.mp hs
        decide
    · rw [List.append_nil] at hs
      exact h.segments s hs
  exact isPlainSegment_of_ne (h.segment_percent s hs) hdots.1 hdots.2

/-- **An address keeps a kept name**: its segments come behind `tags`, encoded, and there is no query. -/
theorem addressee_eq (h : KeptName c.repo) (client : Client) :
    client.addressee c = ((client.tagSegments ++ splitSegments [] c.tail).map (percentEncode encodedInPath), none) := by
  have hread : cleanedEnd c.tail = c.tail := by
    refine cleanedEnd_of_kept (fun ch hch => ?_) h.tail_last
    have hchar := h.tail_chars ch hch
    simp only [specialChars, List.mem_cons, not_or] at hchar
    simp [isKept, hchar]
  have hquery : ∀ ch ∈ c.tail, ch ≠ '?' ∧ ch ≠ '#' := by
    intro ch hch
    have hchar := h.tail_chars ch hch
    simp only [specialChars, List.mem_cons, not_or] at hchar
    exact ⟨hchar.2.2.2.2.1, hchar.2.2.2.1⟩
  unfold Client.addressee
  rw [hread, beforeQuery_of_plain hquery, queryOf_of_plain hquery, resolveDots_of_plain h.tail_segments]

/-- **Kept names with one addressee are one name**, for the same action. -/
theorem repo_eq {c₁ c₂ : Command} (h₁ : KeptName c₁.repo) (h₂ : KeptName c₂.repo) {client : Client}
    (haction : c₁.action = c₂.action) (h : client.addressee c₁ = client.addressee c₂) : c₁.repo = c₂.repo := by
  -- Decoding the segments gives the bytes of the names.
  have hdecode : ∀ {c : Command}, KeptName c.repo →
      ((splitSegments [] c.tail).map (percentEncode encodedInPath)).map percentDecode =
        (splitSegments [] c.tail).map Text.encodeUtf8 := by
    intro c hc
    rw [List.map_map]
    exact List.map_congr_left fun s hs => percentDecode_percentEncode encodedInPath (hc.segment_percent s hs)
  rw [h₁.addressee_eq, h₂.addressee_eq] at h
  have hsegments := (Prod.mk.inj h).1
  rw [List.map_append, List.map_append] at hsegments
  have hbytes := congrArg (List.map percentDecode) (List.append_cancel_left hsegments)
  rw [hdecode h₁, hdecode h₂] at hbytes
  have htail := splitSegments_injective (fun hmem => h₁.tail_chars _ hmem (by decide))
    (fun hmem => h₂.tail_chars _ hmem (by decide))
    ((List.map_inj_right fun _ _ => Text.encodeUtf8_injective).mp hbytes)
  unfold Command.tail at htail
  rw [haction] at htail
  exact String.toList_inj.mp (List.append_cancel_right htail)

end KeptName

/-! ## Requests -/

/-- The request that a dialogue begins with, if it asks for something. -/
def Http.Dialogue.first? {α : Type} : Dialogue α → Option Request
  | .done _ => none
  | .ask r _ => some r

namespace Client

/-- A command is sent as its request, if it is sent. -/
theorem first_execute (client : Client) (c : Command) : (client.execute c).first? = client.commandSent? c := by
  have hsend : ∀ library limited r, ∃ next, Http.send library limited r = .ask r next := by
    intro library limited r
    unfold Http.send
    rw [sendWithin]
    exact ⟨_, rfl⟩
  unfold execute sendSome
  cases client.commandSent? c with
  | none => rfl
  | some r =>
      obtain ⟨next, hnext⟩ := hsend client.library client.limits.isSome r
      simp only [hnext]
      rfl

/-- What is sent of a command is its request. -/
theorem commandRequest_of_first {client : Client} {c : Command} {r : Request}
    (h : (client.execute c).first? = some r) : client.commandRequest? c = some r := by
  rw [first_execute, commandSent?, sent?, Option.filter_eq_some_iff] at h
  exact h.1

/-- **Which commands reach the backend as the same request.** For a client whose address has no query and no fragment, two
    commands are sent as the same target and body exactly when they have the same action and the same addressee;
    and if an address keeps the names of both repositories, only when they are one command. -/
theorem same_request_iff {url : String} {library : Library} {client : Client}
    (hclient : Client.ofUrl? url library = .ok client)
    (hplain : ∀ c ∈ url.toList, c ≠ '?' ∧ c ≠ '#') {c₁ c₂ : Command} {r₁ r₂ : Request}
    (h₁ : (client.execute c₁).first? = some r₁) (h₂ : (client.execute c₂).first? = some r₂) :
    (r₁.url.target = r₂.url.target ∧ r₁.body = r₂.body ↔
      c₁.action = c₂.action ∧ client.addressee c₁ = client.addressee c₂) ∧
    (KeptName c₁.repo → KeptName c₂.repo → r₁.url.target = r₂.url.target → r₁.body = r₂.body → c₁ = c₂) := by
  have hrequest₁ := commandRequest_of_first h₁
  have hrequest₂ := commandRequest_of_first h₂
  obtain ⟨-, -, hbody₁⟩ := commandRequest_eq hclient hplain hrequest₁
  obtain ⟨-, -, hbody₂⟩ := commandRequest_eq hclient hplain hrequest₂
  have htarget := same_target_iff hclient hplain hrequest₁ hrequest₂
  have hbody : r₁.body = r₂.body ↔ c₁.action = c₂.action := by rw [hbody₁, hbody₂, bodyText_eq_iff]
  refine ⟨?_, fun hkept₁ hkept₂ hsame hsameBody => ?_⟩
  · rw [htarget, hbody]
    exact And.comm
  · have haction := hbody.mp hsameBody
    have hrepo := hkept₁.repo_eq hkept₂ haction (htarget.mp hsame)
    cases c₁; cases c₂
    cases hrepo; cases haction
    rfl

/-- A reset and a deployment of a repository that is called like it go to one target, as two requests. -/
theorem reset_and_deploy_told_apart :
    ofUrl? "http://h" = .ok { baseUrl := "http://h" } ∧ ∃ r₁ r₂ : Request,
      (execute { baseUrl := "http://h" } ⟨"team/api", .reset⟩).first? = some r₁ ∧
      (execute { baseUrl := "http://h" } ⟨"team/api/reset", .deploy "v1"⟩).first? = some r₂ ∧
      r₁.url.target = "/tags/team/api/reset" ∧ r₂.url.target = "/tags/team/api/reset" ∧ r₁.body ≠ r₂.body := by
  have hclient : ofUrl? "http://h" = .ok { baseUrl := "http://h" } := ofUrl_of_isHttp (by decide +kernel)
  let sent (body : String) : Request :=
    { method := .post
      url := { scheme := "http", host := some (.domain [['h']]), path := "/tags/team/api/reset".toList }
      contentType := some "application/json"
      body }
  have h₁ : (execute { baseUrl := "http://h" } ⟨"team/api", .reset⟩).first? = some (sent "\x7b\x7d") := by
    rw [first_execute]
    decide +kernel
  have h₂ : (execute { baseUrl := "http://h" } ⟨"team/api/reset", .deploy "v1"⟩).first? =
      some (sent "\x7b\"pinned_tag\":\"v1\"\x7d") := by
    rw [first_execute]
    decide +kernel
  have hplain : ∀ c ∈ "http://h".toList, c ≠ '?' ∧ c ≠ '#' := forall_mem_of_all (by decide)
  have hkept₁ : KeptName "team/api" := keptName_of_checked (by decide) (by decide) (by decide)
  have hkept₂ : KeptName "team/api/reset" := keptName_of_checked (by decide) (by decide) (by decide)
  have hone := (same_request_iff hclient hplain h₁ h₂).2 hkept₁ hkept₂
  refine ⟨hclient, _, _, h₁, h₂, by decide +kernel, by decide +kernel, fun hbody => ?_⟩
  exact absurd (hone rfl hbody) (by decide)

/-- **A hash sign ends what is sent**: deployments of one tag to two repositories are the same request, for a third. -/
theorem names_with_hash_share_request :
    ofUrl? "http://h" = .ok { baseUrl := "http://h" } ∧ ∃ r : Request,
      (execute { baseUrl := "http://h" } ⟨"a#x", .deploy "v1"⟩).first? = some r ∧
      (execute { baseUrl := "http://h" } ⟨"a#y", .deploy "v1"⟩).first? = some r ∧ r.url.target = "/tags/a" := by
  let r : Request :=
    { method := .post
      url := { scheme := "http", host := some (.domain [['h']]), path := "/tags/a".toList }
      contentType := some "application/json"
      body := "\x7b\"pinned_tag\":\"v1\"\x7d" }
  refine ⟨ofUrl_of_isHttp (by decide +kernel), r, ?_, ?_, by decide +kernel⟩
  · rw [first_execute]
    decide +kernel
  · rw [first_execute]
    decide +kernel

end Client

end DeployBoard
