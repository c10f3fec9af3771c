import DeployBoard.Http.Library
import DeployBoard.Text.Utf8

/-!
# `Http.Charset` — the text of a reply

The body of a reply is read in the character set that its content type names, and as UTF-8 when it names none or one that is
not known; a byte order mark wins over both. What is ill-formed becomes the replacement character. Some
replies have no body, and one that is said to be compressed is unpacked first.
-/

namespace DeployBoard.Http

open Text

/-- **The character sets that are read.** -/
inductive Charset where
  | utf8 | windows1252 | utf16 (bigEndian : Bool)
  deriving DecidableEq, Repr

/-- The character set of a name in lower case. -/
def Charset.ofName? (name : String) : Option Charset :=
  if ["utf-8", "utf8", "unicode-1-1-utf-8", "unicode11utf8", "unicode20utf8", "x-unicode20utf8"].contains name then
    some .utf8
  else if
    ["iso-8859-1", "iso8859-1", "iso88591", "iso_8859-1", "iso_8859-1:1987", "iso-ir-100", "latin1", "l1", "ascii",
     "us-ascii", "ansi_x3.4-1968", "cp1252", "cp819", "csisolatin1", "ibm819", "windows-1252", "x-cp1252"].contains name
  then some .windows1252
  else if
    ["utf-16", "utf-16le", "unicode", "ucs-2", "iso-10646-ucs-2", "csunicode", "unicodefeff"].contains name then
    some (.utf16 false)
  else if ["utf-16be", "unicodefffe"].contains name then some (.utf16 true)
  else none

/-- The characters of the bytes from 0x80 to 0x9F. -/
def windowsUpper : List Nat :=
  [0x20AC, 0x81, 0x201A, 0x192, 0x201E, 0x2026, 0x2020, 0x2021, 0x2C6, 0x2030, 0x160, 0x2039, 0x152, 0x8D, 0x17D, 0x8F,
   0x90, 0x2018, 0x2019, 0x201C, 0x201D, 0x2022, 0x2013, 0x2014, 0x2DC, 0x2122, 0x161, 0x203A, 0x153, 0x9D, 0x17E, 0x178]

/-- A byte of the set for western languages. -/
def windowsChar (b : Nat) : Char :=
  if 0x80 ≤ b ∧ b < 0xA0 then Char.ofNat (windowsUpper.getD (b - 0x80) b) else Char.ofNat b

/-- The units of 16 bits of bytes; a byte left over is an ill-formed unit. -/
def units16 (bigEndian : Bool) : List Nat → List (Option Nat)
  | a :: b :: rest => some (if bigEndian then a * 256 + b else b * 256 + a) :: units16 bigEndian rest
  | [_] => [none]
  | [] => []

/-- The characters of units; half a pair that stands alone is ill-formed. -/
def joinUnits16 : List (Option Nat) → List Char
  | some u :: some v :: rest =>
    if 0xD800 ≤ u ∧ u < 0xDC00 then
      if 0xDC00 ≤ v ∧ v < 0xE000 then
        Char.ofNat (0x10000 + (u - 0xD800) * 0x400 + (v - 0xDC00)) :: joinUnits16 rest
      else '\uFFFD' :: joinUnits16 (some v :: rest)
    else if 0xDC00 ≤ u ∧ u < 0xE000 then '\uFFFD' :: joinUnits16 (some v :: rest)
    else Char.ofNat u :: joinUnits16 (some v :: rest)
  | some u :: rest => (if 0xD800 ≤ u ∧ u < 0xE000 then '\uFFFD' else Char.ofNat u) :: joinUnits16 rest
  | none :: rest => '\uFFFD' :: joinUnits16 rest
  | [] => []

/-- **A way to read bytes**: as one of the character sets, or as the library reads them. -/
inductive Reading where
  | known (set : Charset)
  | other (read : List Nat → List Char)

/-- **The text of bytes.** -/
def Reading.decode (reading : Reading) (bytes : List Nat) : List Char :=
  match bytes with
  | 0xEF :: 0xBB :: 0xBF :: rest => decodeUtf8Lossy rest
  | 0xFE :: 0xFF :: rest => joinUnits16 (units16 true rest)
  | 0xFF :: 0xFE :: rest => joinUnits16 (units16 false rest)
  | _ =>
    match reading with
    | .known .utf8 => decodeUtf8Lossy bytes
    | .known .windows1252 => bytes.map windowsChar
    | .known (.utf16 bigEndian) => joinUnits16 (units16 bigEndian bytes)
    | .other read => read bytes

/-- The way to read bytes in the character set of a name in lower case. -/
def Library.reading? (library : Library) (name : String) : Option Reading :=
  ((Charset.ofName? name).map .known).or ((library.charset? name).map .other)

/-- A text without blanks at its ends. -/
def stripped (s : String) : String := s.trimAscii.toString

/-- The name of the character set in a content type, in lower case. -/
def charsetName? (contentType : String) : Option String :=
  ((contentType.splitOn ";").drop 1).findSome? fun parameter =>
    match (stripped parameter).splitOn "=" with
    | [name, value] =>
      if name.toLower = "charset" then some (stripped (String.ofList (value.toList.filter (· ≠ '\x22')))).toLower else none
    | _ => none

/-- **How the body of a reply is read.** -/
def Reply.reading (r : Reply) (library : Library) : Reading :=
  (((r.header? "content-type").bind charsetName?).bind library.reading?).getD (.known .utf8)

/-- A reply with this status has no body. -/
def hasNoBody (status : Nat) : Bool := status = 101 || status = 204 || status = 304

/-- The body of a reply is said to be compressed. -/
def Reply.packed (r : Reply) : Bool :=
  !r.body.isEmpty && r.headers.any fun (name, value) =>
    ["content-encoding", "transfer-encoding"].contains name.toLower && value = "gzip"

/-- **What can be had of a reply's body.** What is complete is still waited for to end, and what can be no such body is given
    up at once. -/
def Reply.content (r : Reply) (library : Library) : Content :=
  if hasNoBody r.status then .whole []
  else
    match if r.packed then library.unpack r.body else .whole r.body, r.ending with
    | .whole bytes, .complete => .whole bytes
    | .spoilt, _ => .spoilt
    | _, .stalled => .unfinished
    | _, _ => .spoilt

/-- **The text of a reply**, if it can be read. -/
def Reply.text? (r : Reply) (library : Library) : Option String :=
  match r.content library with
  | .whole bytes => some (String.ofList ((r.reading library).decode bytes))
  | .unfinished | .spoilt => none

/-- **The rest of the body is waited for.** -/
def Reply.Stalls (r : Reply) (library : Library) : Prop := r.content library = .unfinished

instance (r : Reply) (library : Library) : Decidable (r.Stalls library) :=
  inferInstanceAs (Decidable (r.content library = .unfinished))

end DeployBoard.Http
