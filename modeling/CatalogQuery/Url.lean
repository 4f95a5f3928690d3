import CatalogQuery.Url.Host

/-!
# Web addresses

The address that documents are sent to. `Url.parse` reads an address as browsers do and brings it to
its normal form: scheme and host in small letters, no default port, no `.` and `..` in the path, a
path that is never empty, and every character outside the form of an address escaped. The only
schemes are `http` and `https`; an address of any other scheme is told apart from a text that is no
address at all.
-/

namespace CatalogQuery

/-- The scheme of a web address. -/
inductive WebScheme where
  | http | https
  deriving DecidableEq, Repr

namespace WebScheme

/-- The name of a scheme. -/
def name : WebScheme → String
  | .http => "http"
  | .https => "https"

/-- The port that an address without one stands for. -/
def defaultPort : WebScheme → Nat
  | .http => 80
  | .https => 443

end WebScheme

/-- A web address in its normal form. -/
structure Url where
  /-- The scheme. -/
  scheme : WebScheme
  /-- The name of the user, escaped. -/
  user : String
  /-- The password of the user, escaped. -/
  password : String
  /-- The host. -/
  host : Host
  /-- The port, unless it is the default. -/
  port : Option Nat
  /-- The segments of the path, escaped. -/
  path : List String
  /-- The query, escaped. -/
  query : Option String
  /-- The fragment, escaped. -/
  fragment : Option String
  deriving DecidableEq, Repr

/-- Why a text is no web address. -/
inductive UrlFault where
  /-- The text is no address. -/
  | malformed
  /-- The address has another scheme. -/
  | otherScheme
  deriving DecidableEq, Repr

namespace Url

/-! ### Escapes -/

/-- The escape of an octet. -/
def escapeOctet (b : UInt8) : List Char :=
  '%' :: (hexDigits 2 b.toNat).map asciiUpper

/-- The character as it stands in a part of an address where `reserved` characters are escaped; so
is everything outside printable ASCII. -/
def escapeChar (reserved : List Char) (c : Char) : List Char :=
  if c.toNat < 0x20 || 0x7E < c.toNat || reserved.contains c then
    (Encoding.encodeChar c).flatMap escapeOctet
  else [c]

/-- A part of an address. -/
def escape (reserved : List Char) (cs : List Char) : String :=
  String.ofList (cs.flatMap (escapeChar reserved))

/-- The characters that are escaped in a fragment. -/
def inFragment : List Char := [' ', '"', '<', '>', '\x60']

/-- The characters that are escaped in a path. -/
def inPath : List Char := ['#', '?', '\x7b', '\x7d'] ++ inFragment

/-- The characters that are escaped in the name and password of a user. -/
def inUser : List Char := ['/', ':', ';', '=', '@', '[', '\\', ']', '^', '|'] ++ inPath

/-- The characters that are escaped in a query. -/
def inQuery : List Char := [' ', '"', '#', '<', '>', '\'']

/-! ### Parts of an address -/

/-- The text without blanks and control characters around it, and without tabs and line breaks. -/
def clean (cs : List Char) : List Char :=
  (trimBoth (fun c ↦ c.toNat ≤ 0x20) cs).filter fun c ↦ !(['\t', '\n', '\r'].contains c)

/-- A character that a scheme may go on with. -/
def inScheme (c : Char) : Bool :=
  c.isAlphanum || ['+', '-', '.'].contains c

/-- The scheme in small letters, and what follows its colon. -/
def scheme? (cs : List Char) : Option (List Char × List Char) :=
  match cs.takeWhile inScheme, cs.dropWhile inScheme with
  | c :: rest, ':' :: after => if c.isAlpha then some ((c :: rest).map asciiLower, after) else none
  | _, _ => none

/-- A character that ends the authority of an address; in a web address also the backslash. -/
def endsAuthority (isWeb : Bool) (c : Char) : Bool :=
  c == '/' || c == '?' || c == '#' || (isWeb && c == '\\')

/-- The name and password before the last `@` of an authority, if there is one, and what follows. -/
def cutUser? (cs : List Char) : Option (List Char × List Char) :=
  match cs.reverse.takeWhile (· != '@'), cs.reverse.dropWhile (· != '@') with
  | after, '@' :: before => some (before.reverse, after.reverse)
  | _, _ => none

/-- The name and the password, escaped. -/
def splitUser (cs : List Char) : String × String :=
  (escape inUser (cs.takeWhile (· != ':')), escape inUser ((cs.dropWhile (· != ':')).drop 1))

/-- The host and the port of an authority: the first colon outside of brackets parts them. -/
def cutPort : (inBrackets : Bool) → List Char → List Char × Option (List Char)
  | _, [] => ([], none)
  | inBrackets, c :: cs =>
    if c = ':' && !inBrackets then ([], some cs)
    else
      let still := if c = '[' then true else if c = ']' then false else inBrackets
      let (host, port) := cutPort still cs
      (c :: host, port)

/-- The number of a port; none when it has no digits. -/
def portNumber? (cs : List Char) : Option (Option Nat) :=
  if cs.isEmpty then some none
  else if cs.all Char.isDigit then
    let n := cs.foldl (fun n c ↦ n * 10 + (c.toNat - 0x30)) 0
    if n ≤ 65535 then some (some n) else none
  else none

/-- The segments between the slashes of a path after its first slash; in a web address a backslash
is a slash. -/
def segments (cs : List Char) : List (List Char) :=
  splitAtChar '/' (cs.map fun c ↦ if c = '\\' then '/' else c)

/-- A segment with its escaped points written as points. -/
def plainDots : List Char → List Char
  | '%' :: '2' :: 'e' :: rest => '.' :: plainDots rest
  | '%' :: '2' :: 'E' :: rest => '.' :: plainDots rest
  | c :: rest => c :: plainDots rest
  | [] => []

/-- The path that is left when `.` stays and `..` goes up; the segments before are given in reverse.
A path that ends in either ends with an empty segment. -/
def resolve : (before : List (List Char)) → List (List Char) → List (List Char)
  | before, [] => before.reverse
  | before, s :: rest =>
    let isLast := rest.isEmpty
    if plainDots s = ['.', '.'] then
      resolve (if isLast then [] :: before.drop 1 else before.drop 1) rest
    else if plainDots s = ['.'] then resolve (if isLast then [] :: before else before) rest
    else resolve (s :: before) rest

/-- The path of an address, from its first slash on if it has one. -/
def pathOf (cs : List Char) : List String :=
  let afterSlash :=
    match cs with
    | '/' :: rest => rest
    | '\\' :: rest => rest
    | rest => rest
  (resolve [] (segments afterSlash)).map (escape inPath)

/-- What precedes a character, and what follows it if it occurs. -/
def cutAt (sep : Char) (cs : List Char) : List Char × Option (List Char) :=
  match cs.dropWhile (· != sep) with
  | [] => (cs, none)
  | _ :: after => (cs.takeWhile (· != sep), some after)

/-! ### Reading -/

/-- Host and port of an authority that has no user any more. -/
def hostPort? (cs : List Char) : Option (Host × Option Nat) := do
  let (hostText, portText) := cutPort false cs
  let host ← Host.parse? hostText
  let port ← portNumber? (portText.getD [])
  return (host, port)

/-- The web address whose scheme is followed by `rest`. -/
def web? (scheme : WebScheme) (rest : List Char) : Option Url := do
  let body := rest.dropWhile fun c ↦ c == '/' || c == '\\'
  let authority := body.takeWhile fun c ↦ !endsAuthority true c
  let after := body.dropWhile fun c ↦ !endsAuthority true c
  let (userText, hostText) := (cutUser? authority).getD ([], authority)
  let (user, password) := splitUser userText
  let (host, port) ← hostPort? hostText
  let (beforeFragment, fragment) := cutAt '#' after
  let (path, query) := cutAt '?' beforeFragment
  return {
    scheme, user, password, host
    port := if port = some scheme.defaultPort then none else port
    path := pathOf path
    query := query.map (escape inQuery)
    fragment := fragment.map (escape inFragment) }

/-- A character that no host of an unknown scheme may hold. -/
def forbiddenInHost (c : Char) : Bool :=
  ['\x00', ' ', '<', '>', '?', '@', '[', '\\', ']', '^', '|', ':', '#', '/'].contains c

/-- The host of an address of an unknown scheme is well formed. -/
def isOpaqueHost (cs : List Char) : Bool :=
  match cs with
  | '[' :: rest => (Host.ofBrackets? rest).isSome
  | cs => !cs.any forbiddenInHost

/-- The authority of an address of an unknown scheme is well formed. A host may be left out where no
port and no name or password stand beside it; after a lone `@` the address has to end then. -/
def isOpaqueAuthority (cs : List Char) (isLast : Bool) : Bool :=
  let (userText, hostText) := (cutUser? cs).getD ([], cs)
  let (host, port) := cutPort false hostText
  let isNamed := !(userText.isEmpty || userText = [':'])
  isOpaqueHost host && (portNumber? (port.getD [])).isSome &&
    !(host.isEmpty && (isNamed || port.isSome || (cs = ['@'] && !isLast)))

/-- The host of a file address is well formed. -/
def isFileHost (cs : List Char) : Bool :=
  match cs with
  | [] => true
  | [c, '|'] => c.isAlpha
  | [c, ':'] => c.isAlpha
  | cs => (Host.parse? cs).isSome

/-- The address of another scheme, followed by `rest`, is well formed. -/
def isOther (scheme : List Char) (rest : List Char) : Bool :=
  if ["ws", "wss", "ftp"].contains (String.ofList scheme) then (web? .http rest).isSome
  else if String.ofList scheme = "file" then
    match rest with
    | a :: b :: after =>
      !(endsAuthority true a && endsAuthority true b && a != '?' && a != '#' && b != '?' &&
        b != '#') ||
        isFileHost (after.takeWhile fun c ↦ !endsAuthority true c)
    | _ => true
  else
    match rest with
    | '/' :: '/' :: after =>
      let authority := after.takeWhile fun c ↦ !endsAuthority false c
      isOpaqueAuthority authority (authority.length == after.length)
    | _ => true

/-- The web address that a text denotes. -/
def parse (s : String) : Except UrlFault Url :=
  match scheme? (clean s.toList) with
  | none => .error .malformed
  | some (scheme, rest) =>
    let web : Option WebScheme :=
      if String.ofList scheme = "http" then some .http
      else if String.ofList scheme = "https" then some .https
      else none
    match web with
    | some w =>
      match web? w rest with
      | some url => .ok url
      | none => .error .malformed
    | none => if isOther scheme rest then .error .otherScheme else .error .malformed

/-! ### Writing -/

/-- The name and password as they stand before the host. -/
def userText (u : Url) : String :=
  if u.user.isEmpty && u.password.isEmpty then ""
  else u.user ++ (if u.password.isEmpty then "" else ":" ++ u.password) ++ "@"

/-- A web address as text. -/
def text (u : Url) : String :=
  u.scheme.name ++ "://" ++ u.userText ++ u.host.text ++
    (match u.port with
     | some n => ":" ++ Nat.repr n
     | none => "") ++
    "/" ++ joinWith "/" u.path ++
    (match u.query with
     | some q => "?" ++ q
     | none => "") ++
    (match u.fragment with
     | some f => "#" ++ f
     | none => "")

end Url

end CatalogQuery
