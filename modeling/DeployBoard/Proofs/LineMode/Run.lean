import DeployBoard.LineMode
import DeployBoard.Proofs.Client.Replies
import DeployBoard.Proofs.Client.Sent

/-!
# `Proofs.LineMode.Run` — every line for itself

A run of line mode takes its lines one after another, and the backend what it is asked one after another. What is written for
a line is what a run of that line alone would write (`answer`), and it takes one step of the backend or none
(`run_respondLine`). So a whole run writes the answers of its lines, each with what became of its own request,
and asks for what they ask for, up to the first line that ends it (`lines_answered_alone`). An accepted address is not
always one that can be asked: behind some, what should be asked is not sent, and the line is told so
(`listing_not_sent_behind_blank`).
-/

namespace DeployBoard

open Http

/-! ## Backends that answer -/

namespace Http

/-- **A request is settled**: it is answered and not sent on, the connection is closed, or the limits of time end it. -/
def Delivery.Settles (library : Library) (limited : Bool) : Delivery → Prop
  | .reply r => r.Stays library ∧ (limited = true ∨ ¬ r.Stalls library)
  | .closed => True
  | .hangs => limited = true
  | .unreachable => False

/-- **A backend that settles every request**, whatever it does with it. -/
structure Backend.Settles (b : Backend) (library : Library) (limited : Bool) : Prop where
  script : ∀ d ∈ b.script, d.Settles library limited
  after : b.after.Settles library limited

variable {library : Library} {limited : Bool} {d : Delivery} {b : Backend}

theorem Delivery.Settles.stays (h : d.Settles library limited) : d.Stays library := by
  cases d with
  | reply r => exact h.1
  | closed => exact trivial
  | hangs => exact trivial
  | unreachable => exact trivial

namespace Backend.Settles

theorem next (h : b.Settles library limited) : b.next.Settles library limited := by
  unfold Backend.next
  cases hscript : b.script with
  | nil => exact h.after
  | cons d rest => exact h.script d (hscript ▸ List.mem_cons_self)

theorem served (h : b.Settles library limited) (asked : Option Request) : (b.served asked).Settles library limited := by
  cases asked with
  | none => exact h
  | some r => exact ⟨fun d hd => h.script d (List.mem_of_mem_tail hd), h.after⟩

/-- A settled request has arrived. -/
theorem requests_served (h : b.Settles library limited) (asked : Option Request) :
    (b.served asked).requests = b.requests ++ asked.toList := by
  cases asked with
  | none => exact (List.append_nil _).symm
  | some r =>
      have hreached : b.next ≠ .unreachable := by
        intro hnone
        have hnext := h.next
        rw [hnone] at hnext
        exact hnext
      exact if_neg hreached

end Backend.Settles

end Http

/-! ## One command -/

namespace LineCommand

/-- A command of line mode that asks the backend for something. -/
def asks : LineCommand → Bool
  | .list _ | .index | .run _ => true
  | .help | .quit | .usage _ | .unknown _ => false

/-- The path of what a command of line mode asks for, if it asks for something. -/
def path? : LineCommand → Option String
  | .list _ | .index => some "/repos"
  | .run command => some command.path
  | .help | .quit | .usage _ | .unknown _ => none

/-- **The request of a command of line mode**, if it is sent: the one for the index, or the one to a repository. -/
def request? (client : Client) : LineCommand → Option Request
  | .list _ | .index => client.fetchSent?
  | .run command => client.commandSent? command
  | .help | .quit | .usage _ | .unknown _ => none

/-- **What a command of line mode sends**: a plain request for the index, or what is asked of a repository, with its path and
    its body written out. -/
inductive Requests (client : Client) (r : Request) : LineCommand → Prop
  | list (terms : List String) (h : client.Sends .get "/repos" none r) : Requests client r (.list terms)
  | index (h : client.Sends .get "/repos" none r) : Requests client r .index
  | deploy (repo tag : String)
      (h : client.Sends .post ("/tags/" ++ repo)
        (some ("\x7b\"pinned_tag\":" ++ String.ofList (Json.encodeText tag) ++ "\x7d")) r) :
      Requests client r (.run ⟨repo, .deploy tag⟩)
  | auto (repo : String) (enabled : Bool)
      (h : client.Sends .post ("/tags/" ++ repo) (some ("\x7b\"auto_deploy\":" ++ toString enabled ++ "\x7d")) r) :
      Requests client r (.run ⟨repo, .setAutoDeploy enabled⟩)
  | reset (repo : String) (h : client.Sends .post ("/tags/" ++ repo ++ "/reset") (some "\x7b\x7d") r) :
      Requests client r (.run ⟨repo, .reset⟩)

/-- **The request of a command fails** when `d` becomes of it. -/
inductive Fails (client : Client) (d : Delivery) (e : ClientError) : LineCommand → Prop
  | list (terms : List String) (hfetch : (client.fetch.run { after := d }).1 = .error e) : Fails client d e (.list terms)
  | index (hfetch : (client.fetch.run { after := d }).1 = .error e) : Fails client d e .index
  | run (command : Command) (hexecute : ((client.execute command).run { after := d }).1 = .error e) :
      Fails client d e (.run command)

variable {client : Client} {command : LineCommand} {path : String} {r : Request}

/-- **A command of line mode sends what it should.** -/
theorem request?_eq_some_iff : command.request? client = some r ↔ command.Requests client r := by
  cases command with
  | help | quit | usage | unknown =>
      refine iff_of_false (fun h => ?_) fun h => ?_
      · cases h
      · cases h
  | list terms =>
      refine Client.fetchSent?_eq_some_iff.trans ⟨.list terms, fun h => ?_⟩
      cases h with
      | list _ hsends => exact hsends
  | index =>
      refine Client.fetchSent?_eq_some_iff.trans ⟨.index, fun h => ?_⟩
      cases h with
      | index hsends => exact hsends
  | run command =>
      obtain ⟨repo, action⟩ := command
      refine Client.commandSent?_eq_some_iff.trans ?_
      cases action with
      | deploy tag =>
          rw [Command.bodyText_deploy]
          refine ⟨.deploy repo tag, fun h => ?_⟩
          cases h with
          | deploy _ _ hsends => exact hsends
      | setAutoDeploy enabled =>
          rw [Command.bodyText_setAutoDeploy]
          refine ⟨.auto repo enabled, fun h => ?_⟩
          cases h with
          | auto _ _ hsends => exact hsends
      | reset =>
          rw [Command.bodyText_reset]
          refine ⟨.reset repo, fun h => ?_⟩
          cases h with
          | reset _ hsends => exact hsends

/-- What asks for something has a path, and its request goes to it. -/
theorem request?_eq_some_iff_sends (client : Client) (hpath : command.path? = some path) :
    ∃ method body, ∀ r, command.request? client = some r ↔ client.Sends method path body r := by
  cases command with
  | help | quit | usage | unknown => cases hpath
  | list | index =>
      cases hpath
      exact ⟨.get, none, fun r => Client.fetchSent?_eq_some_iff⟩
  | run command =>
      cases hpath
      exact ⟨.post, some command.bodyText, fun r => Client.commandSent?_eq_some_iff⟩

/-- **What is not sent fails**: the backend cannot be reached. -/
theorem fails_of_unsent (hasks : command.asks = true) (hunsent : command.request? client = none) (d : Delivery) :
    command.Fails client d .network := by
  cases command with
  | help | quit | usage | unknown => cases hasks
  | list terms =>
      refine .list terms ?_
      rw [Client.run_fetch_unsent hunsent]
  | index =>
      refine .index ?_
      rw [Client.run_fetch_unsent hunsent]
  | run command =>
      refine .run command ?_
      rw [Client.run_execute_unsent hunsent]

end LineCommand

namespace LineMode

variable {client : Client} {b : Backend}

/-- **A command is answered by what becomes of its own request**, and leaves the backend as that request does. -/
theorem run_respond (hb : b.Settles client.library client.limits.isSome) (command : LineCommand) :
    (respond client command).run b =
      (((respond client command).run { after := b.next }).1, b.served (command.request? client)) := by
  -- Both backends do the same next, and no command looks further.
  have hstays : b.next.Stays client.library := hb.next.stays
  have halone : ({ after := b.next } : Backend).next.Stays client.library := hstays
  cases command with
  | help => rfl
  | quit => rfl
  | usage text => rfl
  | unknown text => rfl
  | list terms =>
      simp only [respond, Dialogue.run_bind, Client.run_fetch hstays, Client.run_fetch halone]
      rfl
  | index =>
      simp only [respond, Dialogue.run_bind, Client.run_fetch hstays, Client.run_fetch halone]
      rfl
  | run command =>
      simp only [respond, Dialogue.run_bind, Client.run_execute hstays, Client.run_execute halone]
      rfl

/-- What sends nothing is answered without the backend. -/
theorem respond_of_unsent {command : LineCommand} (h : command.request? client = none) (d d' : Delivery) :
    ((respond client command).run { after := d }).1 = ((respond client command).run { after := d' }).1 := by
  cases command with
  | help | quit | usage | unknown => rfl
  | list | index => simp only [respond, Dialogue.run_bind, Dialogue.run_pure, Client.run_fetch_unsent h]
  | run command => simp only [respond, Dialogue.run_bind, Dialogue.run_pure, Client.run_execute_unsent h]

/-- **A failure is one message**, with what the client says of it. -/
theorem respond_of_fails {d : Delivery} {e : ClientError} {command : LineCommand} (h : command.Fails client d e) :
    ∃ what, ((respond client command).run { after := d }).1 = [.err (what ++ e.message ++ "\n")] := by
  cases h with
  | list terms hfetch =>
      refine ⟨"list error: ", ?_⟩
      simp only [respond, Dialogue.run_bind, hfetch]
      rfl
  | index hfetch =>
      refine ⟨"index error: ", ?_⟩
      simp only [respond, Dialogue.run_bind, hfetch]
      rfl
  | run command hexecute =>
      refine ⟨command.repo ++ ": " ++ command.action.label ++ " failed: ", ?_⟩
      simp only [respond, Dialogue.run_bind, hexecute]
      rfl

/-! ## One line -/

/-- A line that ends the run. -/
def quits (line : String) : Bool := LineCommand.parse line = some .quit

/-- The request of a line, if it asks for something and that is sent. -/
def request? (client : Client) (line : String) : Option Request :=
  (LineCommand.parse line).bind (LineCommand.request? client)

/-- **What is written for a line alone**, when `d` becomes of its request. -/
def answer (client : Client) (line : String) (d : Delivery) : List Output :=
  match respondLine client line with
  | none => []
  | some respond => (respond.run { after := d }).1

variable {line : String}

theorem answer_eq {command : LineCommand} (hparse : LineCommand.parse line = some command) (d : Delivery) :
    answer client line d = ((respond client command).run { after := d }).1 := by
  unfold answer respondLine
  rw [hparse]
  cases command with
  | help | quit | list | index | run | usage | unknown => rfl

theorem respondLine_of_quits (h : quits line = true) : respondLine client line = none := by
  unfold respondLine
  rw [of_decide_eq_true h]

/-- A line that does not end the run is blank, or is answered as what it asks for. -/
theorem respondLine_of_not_quits (client : Client) (h : quits line = false) :
    (LineCommand.parse line = none ∧ respondLine client line = some (.done [])) ∨
      ∃ command, LineCommand.parse line = some command ∧ respondLine client line = some (respond client command) := by
  unfold respondLine
  cases hparse : LineCommand.parse line with
  | none => exact .inl ⟨rfl, rfl⟩
  | some command =>
      refine .inr ⟨command, rfl, ?_⟩
      cases command with
      | quit => exact absurd hparse (of_decide_eq_false h)
      | help | list | index | run | usage | unknown => rfl

/-- **A line is answered by what becomes of its own request**, and leaves the backend as that request does. -/
theorem run_respondLine (hb : b.Settles client.library client.limits.isSome)
    (hquit : quits line = false) :
    ∃ respond, respondLine client line = some respond ∧
      respond.run b = (answer client line b.next, b.served (request? client line)) := by
  unfold answer request?
  rcases respondLine_of_not_quits client hquit with ⟨hparse, hrespond⟩ | ⟨command, hparse, hrespond⟩
  · rw [hparse, hrespond]
    exact ⟨_, rfl, rfl⟩
  · rw [hparse, hrespond]
    exact ⟨_, rfl, run_respond hb command⟩

/-! ## Whole runs -/

/-- **The lines that are answered**: those before the first that ends the run. -/
def answered (lines : List String) : List String := lines.takeWhile fun line => !quits line

/-- How many requests are sent before the line in a place. -/
def askedBefore (client : Client) (lines : List String) (i : Nat) : Nat :=
  ((lines.take i).filterMap (request? client)).length

/-- **The answers to lines**: to each what would be written for it alone, by what the backend does with its request. -/
def answers (client : Client) (b : Backend) (lines : List String) : List Output :=
  (lines.mapIdx fun i line => answer client line (b.deliveryAt (askedBefore client lines i))).flatten

/-- The first line takes what comes first, and the others go on behind it. -/
theorem answers_cons (client : Client) (b : Backend) (line : String) (rest : List String) :
    answers client b (line :: rest) =
      answer client line b.next ++ answers client (b.served (request? client line)) rest := by
  -- Before a later line come the request of the first line, if it has one, and those of the lines between.
  have hbefore : ∀ i, askedBefore client (line :: rest) (i + 1) =
      (request? client line).toList.length + askedBefore client rest i := by
    intro i
    unfold askedBefore
    rw [List.take_succ_cons, List.filterMap_cons]
    cases request? client line with
    | none => simp
    | some r => simp [Nat.add_comm]
  have hfirst : b.deliveryAt (askedBefore client (line :: rest) 0) = b.next := b.deliveryAt_zero
  unfold answers
  rw [List.mapIdx_cons, List.flatten_cons, hfirst]
  simp only [hbefore, Backend.deliveryAt_served]

/-- **A run writes the answers of its lines and sends their requests**, up to the line that ends it. -/
theorem run_runLines (lines : List String) (hb : b.Settles client.library client.limits.isSome) :
    ((runLines client (lines.map some)).run b).1.outputs = answers client b (answered lines) ∧
      ((runLines client (lines.map some)).run b).1.failed = false ∧
      ((runLines client (lines.map some)).run b).2.requests =
        b.requests ++ (answered lines).filterMap (request? client) := by
  -- Each line leaves a backend that settles what the others ask.
  induction lines generalizing b with
  | nil => exact ⟨rfl, rfl, (List.append_nil _).symm⟩
  | cons line rest ih =>
      unfold answered
      rw [List.map_cons, runLines]
      cases hquit : quits line with
      | true =>
          rw [respondLine_of_quits hquit, List.takeWhile_cons_of_neg (by simp [hquit])]
          exact ⟨rfl, rfl, (List.append_nil _).symm⟩
      | false =>
          obtain ⟨respond, hrespond, hrun⟩ := run_respondLine hb hquit
          obtain ⟨houtputs, hfailed, hrequests⟩ := ih (hb.served (request? client line))
          rw [hrespond, List.takeWhile_cons_of_pos (by simp [hquit])]
          simp only [Dialogue.run_bind, Dialogue.run_pure, hrun]
          refine ⟨?_, hfailed, ?_⟩
          · rw [houtputs, answers_cons]
            rfl
          · rw [hrequests, hb.requests_served, List.append_assoc]
            show _ ++ (_ ++ (answered rest).filterMap _) = _ ++ (line :: answered rest).filterMap _
            rw [List.filterMap_cons]
            cases request? client line with
            | none => rfl
            | some r => rfl

/-- **Every line for itself**: what a run of a client and a backend on some lines comes to. -/
structure LineByLine (client : Client) (b : Backend) (lines : List String) (ended : Run × Backend) : Prop where
  /-- It writes its greeting, and then the answers of the lines. -/
  outputs : ended.1.outputs = .out banner :: answers client b (answered lines)
  failed : ended.1.failed = false
  /-- It sends the requests of the lines, in their order, and no others. -/
  requests : ended.2.requests = b.requests ++ (answered lines).filterMap (request? client)
  /-- The request of a line is the one for the index, or the one of its command. -/
  request : ∀ line r, request? client line = some r ↔
    ∃ command, LineCommand.parse line = some command ∧ command.Requests client r
  /-- It is sent, if the address can be used, and the library takes it with the path. -/
  sent : client.Usable → ∀ line command path, LineCommand.parse line = some command → command.path? = some path →
    (∀ url, Url.parse (client.endpoint path) = .ok url →
      client.library.takes url (client.endpoint path) = true) → (request? client line).isSome = true
  /-- Behind an address that paths can be put behind, it goes to its path behind the path of the address. -/
  place : client.IsPrefix → ∀ u, Url.parse client.baseUrl = .ok u → ∀ line command path r,
    LineCommand.parse line = some command → command.path? = some path → IsRequested path →
    request? client line = some r →
      r.url.scheme = u.scheme ∧ r.url.host = u.host ∧ r.url.port = u.port ∧
        r.url.target = String.ofList (u.path.rdropWhile (· = '/')) ++ path
  /-- A line that sends nothing has one answer. -/
  alone : ∀ line, request? client line = none → ∀ d d', answer client line d = answer client line d'
  /-- If it asks for something all the same, that fails. -/
  unsent : ∀ line command, LineCommand.parse line = some command → command.asks = true →
    request? client line = none → ∀ d, command.Fails client d .network
  /-- A request that fails makes its line one message, and nothing else. -/
  failure : ∀ line command d e, LineCommand.parse line = some command → command.Fails client d e →
    ∃ what, answer client line d = [.err (what ++ e.message ++ "\n")]

theorem request?_eq {command : LineCommand} (hparse : LineCommand.parse line = some command) :
    request? client line = command.request? client := by
  unfold request?
  rw [hparse, Option.bind_some]

theorem request?_eq_some {r : Request} :
    request? client line = some r ↔ ∃ command, LineCommand.parse line = some command ∧ command.Requests client r := by
  simp only [request?, Option.bind_eq_some_iff, LineCommand.request?_eq_some_iff]

theorem answer_of_unsent (h : request? client line = none) (d d' : Delivery) :
    answer client line d = answer client line d' := by
  cases hparse : LineCommand.parse line with
  | none =>
      unfold answer respondLine
      rw [hparse]
      rfl
  | some command =>
      rw [answer_eq hparse, answer_eq hparse]
      exact respond_of_unsent (request?_eq hparse ▸ h) d d'

/-- **Every line for itself.** For a client with an accepted address, a backend that settles every request and any lines of
    text, a run writes its greeting and then, for each line before the first that ends it, what would be written for
    that line alone with what becomes of its own request. It sends just the requests of those lines, in their order: a
    line has one if it asks for something, its path can be put behind the address, and the library takes that. A line that
    sends nothing has one answer, and a request that fails makes its line one message, and nothing else. -/
theorem lines_answered_alone {made : Client} (hmade : Client.ofUrl? client.baseUrl client.library = .ok made)
    {input : List Nat} {lines : List String} (hlines : (Text.inputLines input).map (·.content) = lines.map some)
    (hb : b.Settles client.library client.limits.isSome) :
    LineByLine client b lines ((run client input).run b) := by
  have haccepted : client.Accepted := by
    obtain ⟨hurl, hmade⟩ := Client.ofUrl_eq_ok hmade
    unfold Client.Accepted at hmade
    rwa [hurl] at hmade
  obtain ⟨houtputs, hfailed, hrequests⟩ := run_runLines lines hb
  unfold run
  rw [hlines]
  simp only [Dialogue.run_bind, Dialogue.run_pure]
  refine ⟨by rw [houtputs], hfailed, hrequests, fun line r => request?_eq_some, ?_, ?_, fun line => answer_of_unsent,
    ?_, ?_⟩
  · intro husable line command path hparse hpath htaken
    obtain ⟨method, body, hsends⟩ := LineCommand.request?_eq_some_iff_sends client hpath
    obtain ⟨r, hr⟩ := Client.exists_sends haccepted husable method path body htaken
    rw [request?_eq hparse, (hsends r).mpr hr]
    rfl
  · intro hfront u hu line command path r hparse hpath hrequested hr
    obtain ⟨method, body, hsends⟩ := LineCommand.request?_eq_some_iff_sends client hpath
    rw [request?_eq hparse] at hr
    exact ((hsends r).mp hr).target_eq haccepted hfront hrequested hu
  · intro line command hparse hasks hunsent d
    exact LineCommand.fails_of_unsent hasks (request?_eq hparse ▸ hunsent) d
  · intro line command d e hparse hfails
    rw [answer_eq hparse]
    exact respond_of_fails hfails

/-- Lines that ask for something, a blank one, one that is no command in this form, and one that ends the run before the last. -/
def sampleLines : List String := ["/list", "", "/deploy api v9", "/auto api", "/index", " /quit now", "/reset api"]

/-- A backend that has no repositories, refuses, closes the connection, and then refuses everything. -/
def sampleBackend : Backend :=
  .scripted [.reply { body := Text.encodeUtf8 "\x7b\x7d".toList },
    .reply { status := 503, body := Text.encodeUtf8 "later".toList }, .closed]

/-- The client of a plain address. -/
def sampleClient : Client := { baseUrl := "http://h" }

/-- The bytes of the sample lines. -/
def sampleInput : List Nat := Text.encodeUtf8 ("\n".intercalate sampleLines).toList

theorem sampleBackend_settles : sampleBackend.Settles {} false := by
  have hnotStalled : ∀ reply ∈ ([{ body := Text.encodeUtf8 "\x7b\x7d".toList },
      { status := 503, body := Text.encodeUtf8 "later".toList }] : List Reply), ¬ reply.Stalls {} := by decide
  refine ⟨fun d hd => ?_, Reply.stays_of_not_redirect rfl, .inr (by decide)⟩
  unfold sampleBackend Backend.scripted at hd
  simp only [List.mem_cons, List.not_mem_nil, or_false] at hd
  rcases hd with rfl | rfl | rfl
  · exact ⟨Reply.stays_of_not_redirect rfl, .inr (hnotStalled _ (by simp))⟩
  · exact ⟨Reply.stays_of_not_redirect rfl, .inr (hnotStalled _ (by simp))⟩
  · exact trivial

/-- Two of three requests fail, and every line before the quitting one is answered. -/
theorem failures_answered_alone :
    (Text.inputLines sampleInput).map (·.content) = sampleLines.map some ∧
      ((run sampleClient sampleInput).run sampleBackend).1.outputs =
        [.out banner, .out "(no repositories)\n",
          .err "api: deploy v9 failed: backend returned 503 Service Unavailable: later\n",
          .err "usage: /auto <repo> on|off\n", .err "index error: backend unreachable: …\n"] ∧
      ((run sampleClient sampleInput).run sampleBackend).2.requests.map
          (fun r => (r.method, r.url.target, r.contentType, r.body)) =
        [(.get, "/repos", none, ""), (.post, "/tags/api", some "application/json", "\x7b\"pinned_tag\":\"v9\"\x7d"),
          (.get, "/repos", none, "")] := by
  have hmade : Client.ofUrl? sampleClient.baseUrl = .ok sampleClient := Client.ofUrl_of_isHttp (by decide +kernel)
  have hlines : (Text.inputLines sampleInput).map (·.content) = sampleLines.map some := by decide +kernel
  have hrun := lines_answered_alone hmade hlines sampleBackend_settles
  refine ⟨hlines, ?_, ?_⟩
  · rw [hrun.outputs]
    decide +kernel
  · rw [hrun.requests]
    decide +kernel

/-- **What should be asked behind a blank is not sent.** The address is accepted and the line asks for the index; no request
    arrives at a backend that would answer it, and the line is told of a failure. -/
theorem listing_not_sent_behind_blank :
    Client.ofUrl? "http://h " = .ok { baseUrl := "http://h " } ∧ LineCommand.parse "/list" = some (.list []) ∧
      sampleBackend.Settles {} false ∧
      ((run { baseUrl := "http://h " } (Text.encodeUtf8 "/list\n".toList)).run sampleBackend).1.outputs =
        [.out banner, .err "list error: backend unreachable: …\n"] ∧
      ((run { baseUrl := "http://h " } (Text.encodeUtf8 "/list\n".toList)).run sampleBackend).2.requests = [] :=
  ⟨Client.ofUrl_of_isHttp (by decide +kernel), by decide +kernel, sampleBackend_settles, by decide +kernel,
    by decide +kernel⟩

end LineMode

end DeployBoard
