import CatalogQuery.Failure

/-!
# Trouble on the network

What can go wrong between a request and its reply, and how it is reported. Running out of time is
reported with the limit that was in force; any other trouble of the network is reported by the part
of the exchange that it struck. Trouble that does not come from the network is not reported anew: it
reaches the caller as it is.
-/

namespace CatalogQuery

/-- What went wrong while a request was made. -/
inductive Trouble where
  /-- The time for the request is over. -/
  | timeout
  /-- The server did not answer in time. -/
  | serverTimeout
  /-- No connection was made in time. -/
  | connectionTimeout
  /-- Nothing was read in time. -/
  | socketTimeout
  /-- The host cannot be reached. -/
  | connector
  /-- The operating system reports a fault of the connection. -/
  | connectionSystem
  /-- The server hung up. -/
  | disconnected
  /-- The connection was reset. -/
  | reset
  /-- The connection failed otherwise. -/
  | connection
  /-- The body was cut short or garbled. -/
  | payload
  /-- The address is not usable. -/
  | invalidUrl
  /-- The request failed otherwise. -/
  | client
  /-- A fault of the operating system outside of the connection. -/
  | system
  /-- A value that is not acceptable. -/
  | badValue
  /-- A failure that was reported already. -/
  | reported
  deriving DecidableEq, Repr

namespace Trouble

/-- The trouble is that time ran out. -/
def isTimeout : Trouble → Bool
  | .timeout | .serverTimeout | .connectionTimeout | .socketTimeout => true
  | _ => false

/-- The trouble comes from the network. -/
def ofNetwork : Trouble → Bool
  | .system | .badValue | .reported => false
  | _ => true

/-- What a report begins with. -/
def heading : Trouble → String
  | .timeout | .serverTimeout | .connectionTimeout | .socketTimeout => "Request timed out: "
  | .connector => "Connector error: "
  | .connectionSystem | .disconnected | .reset | .connection => "Connection error: "
  | .payload => "Payload error: "
  | .invalidUrl | .client | .system | .badValue | .reported => "Unexpected network error: "

/-- The description of a trouble that comes with `text`; a server that hangs up need not say
anything. -/
def describe (t : Trouble) (text : String) : String :=
  match t with
  | .disconnected => if text.isEmpty then "Server disconnected" else text
  | _ => text

/-- The report of a trouble during a request to `url` that may take up to `limit`. -/
def report (t : Trouble) (text : String) (url : Option String) (limit : Datum) : Failure :=
  let message := t.heading ++ t.describe text
  if t.isTimeout then .timeout message url limit else .transport message url

/-- A trouble that does not come from the network, as it reaches the caller. -/
def passedOn (t : Trouble) (text : String) : Failure :=
  match t with
  | .system => .fault .system
  | .badValue => .fault .badValue
  | t => .transport (t.describe text) none

/-- The failure of a request to `url` in which the trouble came up. -/
def failure (t : Trouble) (text : String) (url : String) (limit : Datum) : Failure :=
  if t.ofNetwork then t.report text (some url) limit else t.passedOn text

end Trouble

end CatalogQuery
