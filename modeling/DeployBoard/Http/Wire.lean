import DeployBoard.Http.Message

/-!
# `Http.Wire` — messages as bytes

A request names its host and the length of its body, and asks for no more than one reply on its connection. A reply is a line with
its status, lines with its headers, an empty line, and the body, which ends with the connection. A body that is
shorter than announced was cut short.
-/

namespace DeployBoard

/-- **The text of a host**, as it is looked up. -/
def Url.Host.text : Url.Host → String
  | .domain labels => ".".intercalate (labels.map String.ofList)
  | .ipv4 a => ".".intercalate ([a / 0x1000000, a / 0x10000 % 256, a / 256 % 256, a % 256].map toString)
  | .ipv6 pieces => ":".intercalate (pieces.map fun p => String.ofList (Nat.toDigits 16 p))
  | .unknown cs => String.ofList cs

namespace Http

/-- The host of an address with its port, if that is not the usual one. -/
def authority (url : Url) : String :=
  let host := match url.host with
    | some (.ipv6 pieces) => "[" ++ (Url.Host.ipv6 pieces).text ++ "]"
    | some host => host.text
    | none => ""
  host ++ match url.port with
    | some port => ":" ++ toString port
    | none => ""

/-- **A request as bytes.** -/
def Request.toBytes (r : Request) : List Nat :=
  let body := Text.encodeUtf8 r.body.toList
  let lines :=
    [r.method.name ++ " " ++ r.url.target ++ " HTTP/1.0", "host: " ++ authority r.url, "accept: */*"] ++
      (r.contentType.map ("content-type: " ++ ·)).toList ++
      (if r.method = .post then ["content-length: " ++ toString body.length] else [])
  Text.encodeUtf8 (String.join (lines.map (· ++ "\r\n")) ++ "\r\n").toList ++ body

/-- Cuts a reply at its empty line; `line` holds the line being read, in reverse, and `lines` those before it. -/
def splitHead (lines : List (List Nat)) (line : List Nat) : List Nat → Option (List (List Nat) × List Nat)
  | [] => none
  | b :: bs =>
    if b = 0x0D then splitHead lines line bs
    else if b = 0x0A then
      if line.isEmpty then some (lines.reverse, bs) else splitHead (line.reverse :: lines) [] bs
    else splitHead lines (b :: line) bs

/-- The status in the first line of a reply. -/
def readStatus (line : String) : Option Nat :=
  match (line.splitOn " ").filter (· ≠ "") with
  | version :: status :: _ => if version.startsWith "HTTP/" then status.toNat? else none
  | _ => none

/-- A header. -/
def readHeader (line : String) : Option (String × String) :=
  match line.splitOn ":" with
  | name :: value@(_ :: _) => some (name, (":".intercalate value).trimAscii.toString)
  | _ => none

/-- **Reads a reply** from all bytes of its connection. -/
def Reply.ofBytes? (bytes : List Nat) : Option Reply := do
  let (head, body) ← splitHead [] [] bytes
  let lines := head.map fun line => String.ofList (Text.decodeUtf8Lossy line)
  let status ← readStatus (← lines.head?)
  let reply : Reply := { status, headers := lines.tail.filterMap readHeader, body }
  match (reply.header? "content-length").bind String.toNat? with
  | some length =>
    some { reply with body := body.take length, ending := if body.length < length then .cutShort else .complete }
  | none => some reply

end Http

end DeployBoard
