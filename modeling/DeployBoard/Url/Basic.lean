import DeployBoard.Url.Host

/-!
# `Url.Basic` — addresses

`Url.parse` reads an address by the rules of the web: blanks around it and line breaks in it do not count, the scheme
decides how the rest is read, backslashes are slashes, and dots among the segments of the path are resolved. What is
sent to a host is the target: the path and the query. What stands before an at sign, and the fragment,
are read over, because nothing here asks for them.
-/

namespace DeployBoard

/-- **An address.** The port is missing when it is the usual one of the scheme. -/
structure Url where
  scheme : String
  host : Option Url.Host := none
  port : Option Nat := none
  path : List Char := []
  query : Option (List Char) := none
  deriving DecidableEq, Repr

namespace Url

/-! ## Scheme -/

/-- The address without control characters and blanks at its ends, and without tabs and line breaks. -/
def cleaned (cs : List Char) : List Char :=
  let outside (c : Char) : Bool := c.toNat ≤ 0x20
  ((cs.dropWhile outside).reverse.dropWhile outside).reverse.filter fun c => c ≠ '\t' && c ≠ '\n' && c ≠ '\r'

/-- A character of a scheme. -/
def isSchemeChar (c : Char) : Bool := c.isAlphanum || c = '+' || c = '-' || c = '.'

/-- The scheme in lower case, and what follows its colon. -/
def splitScheme (cs : List Char) : Option (String × List Char) :=
  if cs.head?.any Char.isAlpha then
    match cs.dropWhile isSchemeChar with
    | ':' :: rest => some (String.ofList ((cs.takeWhile isSchemeChar).map Char.toLower), rest)
    | _ => none
  else none

/-- The usual port of a scheme of the web. -/
def usualPort? : String → Option Nat
  | "http" | "ws" => some 80
  | "https" | "wss" => some 443
  | "ftp" => some 21
  | _ => none

/-- An address of the web names a host, and backslashes are slashes in it. -/
def isWeb (scheme : String) : Bool := (usualPort? scheme).isSome

/-! ## Host and port -/

/-- The end of the part that names the host. -/
def endsAuthority (web : Bool) (c : Char) : Bool := c = '/' || c = '?' || c = '#' || (web && c = '\\')

/-- Cuts at the last at sign, if there is one. -/
def splitUser (authority : List Char) : Option (List Char × List Char) :=
  let host := (authority.reverse.takeWhile (· ≠ '@')).reverse
  if host.length = authority.length then none
  else some (authority.take (authority.length - host.length - 1), host)

/-- The host, up to the first colon outside brackets, and what follows it. -/
def splitHost (bracketed : Bool) : List Char → List Char × List Char
  | [] => ([], [])
  | c :: rest =>
    if c = ':' ∧ bracketed = false then ([], c :: rest)
    else
      let bracketed := if c = '[' then true else if c = ']' then false else bracketed
      let (host, after) := splitHost bracketed rest
      (c :: host, after)

/-- A port, after its colon; no digit is no port. A backslash ends it. -/
def readPort (cs : List Char) : Except UrlError (Option Nat) :=
  let digits := cs.takeWhile Char.isDigit
  let after := cs.dropWhile Char.isDigit
  if after.isEmpty || after.head? = some '\\' then
    match readBase 10 digits with
    | some n => if digits.isEmpty then .ok none else if n < 0x10000 then .ok (some n) else .error .port
    | none => .error .port
  else .error .port

/-- **Reads the part that names the host.** A name for a user needs a host, and so does an at sign that something else
    follows (`more`). -/
def readAuthority (scheme : String) (authority : List Char) (more : Bool) :
    Except UrlError (Option Host × Option Nat) := do
  let web := isWeb scheme
  let (user, rest) := (splitUser authority).getD ([], authority)
  let (text, after) := splitHost false rest
  if text.isEmpty then
    if web || after.head? = some ':' || !(user = [] || user = [':']) || (authority = ['@'] && more) then
      throw .emptyHost
    else return (none, none)
  else
    let host ← if web then readHost text else readUnknownHost text
    let port ← readPort after.tail
    return (some host, if port = usualPort? scheme then none else port)

/-! ## Path and query -/

/-- Segments that stand for the segment before. -/
def isDoubleDot (segment : List Char) : Bool :=
  ["..", ".%2e", ".%2E", "%2e.", "%2E.", "%2e%2e", "%2e%2E", "%2E%2e", "%2E%2E"].contains (String.ofList segment)

/-- Segments that stand for nothing. -/
def isSingleDot (segment : List Char) : Bool := [".", "%2e", "%2E"].contains (String.ofList segment)

/-- Cuts a path into segments at its slashes; `segment` holds, in reverse, the segment being read. -/
def splitSegments (segment : List Char) : List Char → List (List Char)
  | [] => [segment.reverse]
  | c :: cs =>
    if c = '/' ∨ c = '\\' then segment.reverse :: splitSegments [] cs else splitSegments (c :: segment) cs

/-- **Resolves the dots among segments**, after the segments `before`. Dots at the end leave an empty segment. -/
def resolveDots (before : List (List Char)) : List (List Char) → List (List Char)
  | [] => before
  | [last] =>
    if isDoubleDot last then before.dropLast ++ [[]]
    else if isSingleDot last then before ++ [[]]
    else before ++ [last]
  | s :: rest =>
    if isDoubleDot s then resolveDots before.dropLast rest
    else if isSingleDot s then resolveDots before rest
    else resolveDots (before ++ [s]) rest

/-- A path of segments. -/
def joinSegments (segments : List (List Char)) : List Char := segments.flatMap ('/' :: ·)

/-- **The path of an address of the web**, as it is written after the host. -/
def webPath (cs : List Char) : List Char :=
  let cs := if cs.head? = some '/' ∨ cs.head? = some '\\' then cs.tail else cs
  joinSegments ((resolveDots [] (splitSegments [] cs)).map (percentEncode encodedInPath))

/-- The part before the query and the fragment. -/
def beforeQuery (cs : List Char) : List Char := cs.takeWhile fun c => c ≠ '?' && c ≠ '#'

/-- The query, without the fragment. -/
def queryOf (cs : List Char) : Option (List Char) :=
  match cs.dropWhile (fun c => c ≠ '?' && c ≠ '#') with
  | '?' :: rest => some (percentEncode encodedInQuery (rest.takeWhile (· ≠ '#')))
  | _ => none

/-! ## Addresses -/

/-- A letter and a colon or a bar: the name of a disk, which is no host. -/
def isDrive (cs : List Char) : Bool :=
  match cs with
  | [a, b] => a.isAlpha && (b = ':' || b = '|')
  | _ => false

/-- Reads the address of a file after its scheme, as far as to the host. -/
def parseFile (cs : List Char) : Except UrlError Url :=
  let slash (c : Char) : Bool := c = '/' || c = '\\'
  match cs with
  | a :: b :: rest =>
    let text := rest.takeWhile fun c => !endsAuthority true c
    if slash a && slash b && !text.isEmpty && !isDrive text then
      (readHost text).map fun host =>
        { scheme := "file", host := if host = .domain ["localhost".toList] then none else some host }
    else .ok { scheme := "file", path := beforeQuery cs }
  | _ => .ok { scheme := "file", path := beforeQuery cs }

/-- Reads an address after its scheme and the slashes before the host. -/
def parseAuthority (scheme : String) (cs : List Char) : Except UrlError Url := do
  let web := isWeb scheme
  let rest := cs.dropWhile fun c => !endsAuthority web c
  let (host, port) ← readAuthority scheme (cs.takeWhile fun c => !endsAuthority web c) (!rest.isEmpty)
  return { scheme, host, port, path := if web then webPath (beforeQuery rest) else beforeQuery rest,
           query := queryOf rest }

/-- **Reads an address.** -/
def parse (s : String) : Except UrlError Url :=
  match splitScheme (cleaned s.toList) with
  | none => .error .relative
  | some (scheme, rest) =>
    if scheme = "file" then parseFile rest
    else if isWeb scheme then parseAuthority scheme (rest.dropWhile fun c => c = '/' || c = '\\')
    else
      match rest with
      | '/' :: '/' :: rest => parseAuthority scheme rest
      | _ => .ok { scheme, path := beforeQuery rest, query := queryOf rest }

/-- The path up to its last slash. -/
def directory (path : List Char) : List Char := (path.reverse.dropWhile (· ≠ '/')).reverse

/-- An address of the web with another path and query. -/
def withPath (base : Url) (path rest : List Char) : Url := { base with path := webPath path, query := queryOf rest }

/-- Reads an address without a scheme, seen from another address. -/
def joinRelative (base : Url) (cs : List Char) : Except UrlError Url :=
  let slash (c : Char) : Bool := c = '/' || c = '\\'
  match cs with
  | [] => .ok base
  | '#' :: _ => .ok base
  | '?' :: _ => .ok { base with query := queryOf cs }
  | [a] => .ok (if slash a then base.withPath cs cs else base.withPath (directory base.path ++ cs) cs)
  | a :: b :: rest =>
    if slash a && slash b then parseAuthority base.scheme (rest.dropWhile slash)
    else if slash a then .ok (base.withPath (beforeQuery cs) cs)
    else .ok (base.withPath (directory base.path ++ beforeQuery cs) cs)

/-- **Reads an address**, seen from an address of the web. -/
def join (base : Url) (s : String) : Except UrlError Url :=
  let cs := cleaned s.toList
  match splitScheme cs with
  | none => base.joinRelative cs
  | some (scheme, rest) =>
    if scheme = base.scheme && (rest.takeWhile fun c => c = '/' || c = '\\').length < 2 then base.joinRelative rest
    else parse s

/-- **The target of a request**: the path and the query. -/
def target (u : Url) : String :=
  String.ofList (u.path ++ match u.query with
    | some q => '?' :: q
    | none => [])

end Url

end DeployBoard
