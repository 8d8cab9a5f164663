import Switchboard.Json.Codec
import Switchboard.Text.Digits

/-!
# Connection addresses

Every destination of a client and every location of a server is a URL
`scheme://host:port/path`, of which all but the scheme may be absent. The
scheme picks the transport. `Address.parse` reads a URL in one pass from left
to right and never backs up: no character can continue two parts at once, so
the split into parts is the only one. `Address.text` writes an address back.

A URL is judged by ASCII characters only; any other character makes it
malformed.
-/

namespace Switchboard

/-- How the bytes of a connection travel. -/
inductive Transport where
  /-- A socket in the file system, at the path of the URL. -/
  | embedded
  /-- A TCP connection to the host and port of the URL. -/
  | rawSocket
  /-- No transport goes by this scheme. -/
  | unknown
deriving DecidableEq, Repr, Inhabited

namespace Transport

/-- The name under which a transport is reported. -/
def name : Transport → String
  | embedded => "embedded"
  | rawSocket => "raw-socket"
  | unknown => "unknown"

/-- The name of a transport in JSON. -/
def variant : Transport → String
  | embedded => "Embedded"
  | rawSocket => "RawSocket"
  | unknown => "Unknown"

/-- The transport a scheme stands for, whatever the case of its letters. -/
def ofScheme (scheme : String) : Transport :=
  match scheme.map Char.toLower with
  | "unix" => embedded
  | "tcp+tv" | "tv+tcp" => rawSocket
  | _ => unknown

end Transport

/-- **A connection address**: where a client dials or a server listens. Port `0`
and the empty host and path stand for a part that is absent. Not every value is
the address of a URL: `Address.parse` checks its parts, the fields do not. -/
structure Address where
  scheme : String
  host : String
  port : UInt16
  path : String
deriving DecidableEq, Repr, Inhabited

namespace Address

/-! ## The characters of a URL -/

/-- The letters `A` to `Z` and `a` to `z`. -/
def isLetter (c : Char) : Bool := c.isAlpha

/-- What may follow the first letter of a scheme. -/
def isSchemeChar (c : Char) : Bool := c.isAlphanum || c == '+' || c == '-' || c == '.'

/-- What a host is made of. -/
def isHostChar (c : Char) : Bool := c.isAlphanum || c == '_' || c == '.'

/-- What a path segment is made of. -/
def isSegmentChar (c : Char) : Bool := c.isAlphanum || c == '_' || c == '.' || c == '-'

/-! ## Reading the parts

Each reader takes its part off the front of the characters that remain. -/

/-- The characters of a scheme and what follows its `://`. -/
def takeScheme : List Char → Option (List Char × List Char)
  | [] => none
  | c :: cs =>
    if isLetter c then
      match cs.dropWhile isSchemeChar with
      | ':' :: '/' :: '/' :: rest => some (c :: cs.takeWhile isSchemeChar, rest)
      | _ => none
    else none

/-- A port as written: no leading zero, hence not `0`, and at most `65535`. -/
def readPort (digits : List Char) : Option UInt16 :=
  let port := Text.valueUpTo 65536 digits
  if digits = [] ∨ digits.head? = some '0' ∨ 65535 < port then none else some (UInt16.ofNat port)

/-- The port after a host, `0` if there is none, and what follows it. -/
def takePort : List Char → Option (UInt16 × List Char)
  | ':' :: cs => (readPort (cs.takeWhile Char.isDigit)).map (·, cs.dropWhile Char.isDigit)
  | cs => some (0, cs)

/-- **The segments of a path.** `slash` says whether the character before was the
slash, after which a segment has to begin unless the path ends there. -/
def isSegments (slash : Bool) : List Char → Bool
  | [] => true
  | c :: cs =>
    if c = '/' then !slash && isSegments true cs else isSegmentChar c && isSegments false cs

/-- A path: nothing, or a slash with segments between single slashes after it, the
last of which may be followed by one more slash. -/
def isPath : List Char → Bool
  | [] => true
  | c :: cs => c == '/' && isSegments true cs

/-- Host and port, both of which may be absent; a port needs a host. -/
def takeAuthority (cs : List Char) : Option ((List Char × UInt16) × List Char) :=
  let host := cs.takeWhile isHostChar
  let rest := cs.dropWhile isHostChar
  if host = [] then some (([], 0), rest)
  else (takePort rest).map fun (port, rest) => ((host, port), rest)

/-- The address a URL spells, its scheme in lower case. -/
def parse? (url : String) : Option Address := do
  let (scheme, rest) ← takeScheme url.toList
  let ((host, port), path) ← takeAuthority rest
  if isPath path then
    some ⟨String.ofList (scheme.map Char.toLower), String.ofList host, port, String.ofList path⟩
  else none

/-- A text that is no URL of the accepted form. -/
structure Malformed where
  url : String
deriving DecidableEq, Repr, Inhabited

/-- What is reported about a malformed URL. -/
def Malformed.message (e : Malformed) : String :=
  "not a valid connection address: '" ++ e.url ++ "'"

/-- The address a URL spells, or the URL itself as the complaint. -/
def parse (url : String) : Except Malformed Address :=
  match parse? url with
  | some address => .ok address
  | none => .error ⟨url⟩

/-! ## Writing -/

/-- The port as it stands in a URL: nothing for `0`. -/
def portText (port : UInt16) : String := if port = 0 then "" else ":" ++ toString port.toNat

/-- **The URL of an address.** -/
def text (a : Address) : String := a.scheme ++ "://" ++ a.host ++ portText a.port ++ a.path

/-- The transport that reaches an address. -/
def transport (a : Address) : Transport := .ofScheme a.scheme

/-- The same address at another port. -/
def withPort (a : Address) (port : UInt16) : Address := { a with port }

end Address

/-! ## In JSON -/

instance : JsonCodec Transport where
  toJson t := .ofString t.variant
  ofJson? _ := Json.enum? [.embedded, .rawSocket, .unknown] Transport.variant

/-- The parts of an address are taken as they are, whether or not a URL could have them. -/
instance : JsonCodec Address where
  toJson a := .ofFields
    [("scheme", JsonCodec.toJson a.scheme), ("host", JsonCodec.toJson a.host),
      ("port", JsonCodec.toJson a.port), ("path", JsonCodec.toJson a.path)]
  ofJson? depth value := do
    let [scheme, host, port, path] ← Json.fields? ["scheme", "host", "port", "path"] value | none
    return { scheme := ← JsonCodec.ofJson? (depth + 1) (← scheme)
             host := ← JsonCodec.ofJson? (depth + 1) (← host)
             port := ← JsonCodec.ofJson? (depth + 1) (← port)
             path := ← JsonCodec.ofJson? (depth + 1) (← path) }

end Switchboard
