import CatalogQuery.Client
import CatalogQuery.Credentials
import CatalogQuery.Http.Trouble
import CatalogQuery.Settings.Shop

/-!
# Sending documents over HTTP

A transport that posts each document to the address of the shop through a session. The session is
made when one is needed and none is open, and it is used until it is closed; the limit on the time
of requests is that of the session. A transport closes only sessions of its own: one that the caller
supplied is used as long as it is open and never closed.

`HttpTransport.sessions` lists all sessions that there have been, so that one that is no longer in
use can still be asked for. Closing has two parts, `beginClose` and `finishClose`, since other work
may go on between them.
-/

namespace CatalogQuery

/-- A session. -/
structure HttpSession where
  /-- The caller supplied the session. -/
  isSupplied : Bool
  /-- The longest time that a request may take. -/
  timeout : Binary64
  /-- How requests of the session present the library. -/
  userAgent : Text
  /-- The session can be used. -/
  isOpen : Bool := true
  deriving DecidableEq, Repr

/-- A request as it is posted. -/
structure HttpRequest where
  /-- The number of the session. -/
  session : Nat
  /-- The address. -/
  url : String
  /-- The octets of the document. -/
  body : List UInt8
  /-- The headers beside those of the session. -/
  headers : Headers
  deriving Repr

/-- The body of a reply: octets, or a text that was decoded already. -/
inductive HttpBody where
  | octets (bytes : List UInt8)
  | text (s : String)
  deriving DecidableEq, Repr

namespace HttpBody

/-- The octets of a body. -/
def toOctets : HttpBody → List UInt8
  | .octets bs => bs
  | .text s => Encoding.utf8 s

/-- The size of a body: its number of octets or characters. -/
def size : HttpBody → Nat
  | .octets bs => bs.length
  | .text s => s.length

end HttpBody

/-- What comes of a request. -/
inductive HttpReply where
  /-- A reply with its status. -/
  | reply (status : Nat) (body : HttpBody)
  /-- Trouble, with what is said about it. -/
  | trouble (kind : Trouble) (text : String)
  deriving DecidableEq, Repr

/-- The other side: what it will reply, and what it was asked. -/
structure Network where
  /-- The replies to come. -/
  replies : List HttpReply
  /-- The requests so far, the latest first. -/
  requests : List HttpRequest := []
  deriving Repr

/-- Posts a request; without a reply left there is none. -/
def Network.post (n : Network) (r : HttpRequest) : Option HttpReply × Network :=
  match n.replies with
  | [] => (none, { n with requests := r :: n.requests })
  | reply :: replies => (some reply, { replies, requests := r :: n.requests })

/-- A transport over HTTP. -/
structure HttpTransport where
  /-- The settings of the connection. -/
  settings : ShopSettings
  /-- The credentials of requests. -/
  credentials : Credentials
  /-- All sessions in order. -/
  sessions : List HttpSession := []
  /-- The number of the session in use. -/
  current : Option Nat := none
  /-- The session in use was not supplied. -/
  owned : Bool := true
  deriving Repr

namespace HttpTransport

/-- A transport with the given credentials, or with those of its settings. -/
def ofSettings (settings : ShopSettings) (credentials : Option Credentials) : HttpTransport where
  settings := settings
  credentials := credentials.getD { settings := { token := .text settings.token } }

/-- The transport with a session that the caller supplies. -/
def withSession (t : HttpTransport) (session : HttpSession) : HttpTransport :=
  { t with
    sessions := t.sessions ++ [{ session with isSupplied := true }]
    current := some t.sessions.length
    owned := false }

/-- The session in use. -/
def session? (t : HttpTransport) : Option HttpSession :=
  t.current.bind fun i ↦ t.sessions[i]?

/-- There is a session in use, and it is open. -/
def isOpen (t : HttpTransport) : Bool :=
  t.session?.any HttpSession.isOpen

/-- The transport with the session in use closed, whoever owns it. -/
def closeCurrent (t : HttpTransport) : HttpTransport :=
  match t.current with
  | some i => { t with sessions := t.sessions.modify i fun s ↦ { s with isOpen := false } }
  | none => t

/-- The transport with a session that is open, and the number of that session. -/
def ensureSession (t : HttpTransport) : Nat × HttpTransport × List LogLine :=
  match (if t.isOpen then t.current else none) with
  | some i => (i, t, [])
  | none =>
    let session : HttpSession :=
      { isSupplied := false, timeout := t.settings.timeout, userAgent := t.settings.userAgent }
    let number := t.sessions.length
    (number, { t with sessions := t.sessions ++ [session], current := some number, owned := true },
      [⟨LogLine.transport, .debug, "HTTP session created"⟩])

/-- Closes the session in use, if it is owned. -/
def beginClose (t : HttpTransport) : HttpTransport :=
  if t.owned then t.closeCurrent else t

/-- Lets go of the session in use, if it is owned. -/
def finishClose (t : HttpTransport) : HttpTransport :=
  if t.owned then { t with current := none } else t

/-- Closes and lets go of the session in use, if it is owned. -/
def close (t : HttpTransport) : HttpTransport :=
  t.beginClose.finishClose

/-- Enters the transport: a session is open afterwards. -/
def enter (t : HttpTransport) : HttpTransport × List LogLine :=
  let (_, t, log) := t.ensureSession
  (t, log)

/-- The type of the content of requests. -/
def contentType : Headers :=
  [(.str "Content-Type", .str "application/graphql")]

/-- The request for a document through a session; a granted header replaces one of the same name. -/
def request (t : HttpTransport) (session : Nat) (grant : Grant) (document : String) :
    HttpRequest where
  session := session
  url := t.settings.endpoint
  body := Encoding.utf8 document
  headers := grant.headers.foldl (fun hs h ↦ Datum.put h.1 h.2 hs) contentType

/-- What is reported about a reply. -/
def replyLog (url : String) (status : Nat) (body : HttpBody) : List LogLine :=
  ⟨LogLine.transport, .debug,
    "POST " ++ url ++ " -> " ++ Nat.repr status ++ " (" ++ Nat.repr body.size ++ " bytes)"⟩ ::
  (if 400 ≤ status then
    [⟨LogLine.transport, .warning, "Shopify replied with HTTP " ++ Nat.repr status⟩]
   else [])

/-- What a sending came to. -/
structure Sending where
  /-- The body of the reply, whatever its status, or the failure. -/
  outcome : Outcome HttpBody
  /-- What was reported. -/
  log : List LogLine

/-- Ends a sending with what came of its request. -/
def receive (t : HttpTransport) (url : String) (reply : Option HttpReply) : Sending :=
  match reply with
  | some (.reply status body) => ⟨.ok body, replyLog url status body⟩
  | some (.trouble kind text) =>
    ⟨.error (kind.failure text url (.float t.settings.timeout)), []⟩
  | none => ⟨Outcome.fault .outOfRange, []⟩

/-- Posts a document and reads the reply. -/
def send (t : HttpTransport) (n : Network) (document : String) :
    Sending × HttpTransport × Network :=
  let (number, t, log) := t.ensureSession
  let (granted, credentials) := t.credentials.get false
  let t := { t with credentials }
  match granted with
  | .error failure => (⟨.error failure, log⟩, t, n)
  | .ok grant =>
    let r := t.request number grant document
    let (reply, n) := n.post r
    let received := t.receive r.url reply
    (⟨received.outcome, log ++ received.log⟩, t, n)

/-- Sending over HTTP as a way to send documents. -/
def transport : Transport (HttpTransport × Network) where
  send state document :=
    let (s, t, n) := state.1.send state.2 document
    (⟨s.outcome.map HttpBody.toOctets, s.log⟩, t, n)

end HttpTransport

end CatalogQuery
