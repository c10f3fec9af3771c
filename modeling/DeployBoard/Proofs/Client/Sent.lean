import DeployBoard.Proofs.Client.Prefix

/-!
# `Proofs.Client.Sent` — which requests are sent

A request goes to the text of the client's address with a path behind it, and it is sent if that text can be read as an
address which the library takes (`Sends`). An accepted address does not make sure of either. It can be read with every path
behind it, or with none (`Usable`), and what the library takes is its own affair (`exists_sends`). Behind an address
that paths can be put behind, a request goes to the path that it names (`Sends.target_eq`).
-/

namespace DeployBoard

open Http Url

/-! ## Bodies of commands -/

namespace Command

theorem bodyText_deploy (repo tag : String) :
    bodyText ⟨repo, .deploy tag⟩ = "\x7b\"pinned_tag\":" ++ String.ofList (Json.encodeText tag) ++ "\x7d" := by
  have hname : '\x7b' :: (Json.encodeText "pinned_tag" ++ [':']) = "\x7b\"pinned_tag\":".toList := by decide
  unfold bodyText
  rw [Action.body, render_object, Json.render, ← String.toList_inj]
  simp only [String.toList_append, String.toList_ofList, ← hname]
  simp [Json.renderText]

theorem bodyText_setAutoDeploy (repo : String) (enabled : Bool) :
    bodyText ⟨repo, .setAutoDeploy enabled⟩ = "\x7b\"auto_deploy\":" ++ toString enabled ++ "\x7d" := by
  show String.ofList (Action.setAutoDeploy enabled).body.render = _
  cases enabled <;> decide +kernel

theorem bodyText_reset (repo : String) : bodyText ⟨repo, .reset⟩ = "\x7b\x7d" := by
  show String.ofList Action.reset.body.render = _
  decide +kernel

end Command

namespace Client

/-! ## Sending -/

/-- **The client sends a request** by a method to a path behind its address, with a body in JSON if there is one: the text of
    address and path can be read as an address, and the library takes it. -/
structure Sends (client : Client) (method : Method) (path : String) (body : Option String) (r : Request) : Prop where
  method_eq : r.method = method
  address : Url.parse (client.endpoint path) = .ok r.url
  taken : client.library.takes r.url (client.endpoint path) = true
  contentType_eq : r.contentType = body.map fun _ => "application/json"
  body_eq : r.body = body.getD ""

/-- **The address can be used**: it can be read with a path behind it. -/
def Usable (client : Client) : Prop := ∃ url, Url.parse (client.endpoint "/repos") = .ok url

variable {client : Client} {method : Method} {path : String} {body : Option String} {r : Request}

/-- What is sent of a request that an address makes. -/
theorem sent?_eq_some_iff {make : Url → Request} (hmake : ∀ url, (make url).url = url) :
    client.sent? path ((Url.parse (client.endpoint path)).toOption.map make) = some r ↔
      ∃ url, Url.parse (client.endpoint path) = .ok url ∧ client.library.takes url (client.endpoint path) = true ∧
        make url = r := by
  unfold sent?
  cases Url.parse (client.endpoint path) with
  | error e => simp [Except.toOption]
  | ok url =>
      simp only [Except.toOption, Option.map_some, Option.filter_eq_some_iff, Option.some.injEq, Except.ok.injEq,
        exists_eq_left']
      constructor
      · rintro ⟨rfl, htaken⟩
        rw [hmake] at htaken
        exact ⟨htaken, rfl⟩
      · rintro ⟨htaken, rfl⟩
        rw [hmake]
        exact ⟨rfl, htaken⟩

/-- **The index is asked for** by a plain request for `/repos`. -/
theorem fetchSent?_eq_some_iff : client.fetchSent? = some r ↔ client.Sends .get "/repos" none r := by
  unfold fetchSent? fetchRequest?
  rw [sent?_eq_some_iff fun _ => rfl]
  constructor
  · rintro ⟨url, hparse, htaken, rfl⟩
    exact ⟨rfl, hparse, htaken, rfl, rfl⟩
  · rintro ⟨hmethod, haddress, htaken, hcontentType, hbody⟩
    refine ⟨r.url, haddress, htaken, ?_⟩
    cases r
    cases hmethod; cases hcontentType; cases hbody
    rfl

/-- **A command is sent** to its path with its body. -/
theorem commandSent?_eq_some_iff {command : Command} :
    client.commandSent? command = some r ↔ client.Sends .post command.path (some command.bodyText) r := by
  unfold commandSent? commandRequest?
  rw [sent?_eq_some_iff fun _ => rfl]
  constructor
  · rintro ⟨url, hparse, htaken, rfl⟩
    exact ⟨rfl, hparse, htaken, rfl, rfl⟩
  · rintro ⟨hmethod, haddress, htaken, hcontentType, hbody⟩
    refine ⟨r.url, haddress, htaken, ?_⟩
    cases r
    cases hmethod; cases hcontentType; cases hbody
    rfl

/-- **What can be used is sent**, if the library takes it. -/
theorem exists_sends (haccepted : client.Accepted) (husable : client.Usable) (method : Method) (path : String)
    (body : Option String)
    (htaken : ∀ url, Url.parse (client.endpoint path) = .ok url →
      client.library.takes url (client.endpoint path) = true) :
    ∃ r, client.Sends method path body r := by
  obtain ⟨index, hindex⟩ := husable
  have hread : (Url.parse (client.endpoint path)).toOption.isSome = true := by
    rw [parse_endpoint_isSome haccepted path "/repos", hindex]
    rfl
  cases hparse : Url.parse (client.endpoint path) with
  | error e =>
      rw [hparse] at hread
      cases hread
  | ok url =>
      exact ⟨{ method, url, contentType := body.map fun _ => "application/json", body := body.getD "" }, rfl, hparse,
        htaken url hparse, rfl, rfl⟩

/-- **Where a request goes**: to the place of the client's address, and there to the path of the address, without the slashes
    at its end, and the path that is requested. -/
theorem Sends.target_eq (h : client.Sends method path body r) (haccepted : client.Accepted) (hfront : client.IsPrefix)
    (hpath : IsRequested path) {u : Url} (hparse : Url.parse client.baseUrl = .ok u) :
    r.url.scheme = u.scheme ∧ r.url.host = u.host ∧ r.url.port = u.port ∧
      r.url.target = String.ofList (u.path.rdropWhile (· = '/')) ++ path := by
  obtain ⟨scheme, within, own, hread⟩ := base_eq haccepted
  obtain ⟨v, happends⟩ :=
    (hread.appends_iff hfront.plain hfront.whole hparse hpath).mpr hfront.segments
  obtain rfl : v = r.url := Except.ok.inj (happends.read.symm.trans h.address)
  refine ⟨happends.scheme, happends.host, happends.port, ?_⟩
  unfold target
  rw [happends.query, happends.path, List.append_nil, String.ofList_append, String.ofList_toList]

end Client

end DeployBoard
