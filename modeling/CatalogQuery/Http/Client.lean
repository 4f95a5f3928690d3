import CatalogQuery.Http.Transport

/-!
# Clients of a shop

A client is made from settings, from a transport, or from both. Without a transport it makes one
over HTTP from the settings, which it enters and closes together with itself; a transport that was
supplied is left to the caller.
-/

namespace CatalogQuery

/-- The transport of a client; `τ` is the type of the transports that a caller supplies. -/
inductive ClientTransport (τ : Type) where
  /-- The client made the transport. -/
  | made (t : HttpTransport)
  /-- The caller supplied the transport. -/
  | supplied (t : τ)

/-- A client of a shop. -/
structure ShopClient (τ : Type) where
  /-- The settings, if any were given. -/
  settings : Option ShopSettings
  /-- The transport. -/
  transport : ClientTransport τ

namespace ShopClient

variable {τ : Type}

/-- A client from settings and a transport, of which one must be given. -/
def make (settings : Option ShopSettings) (transport : Option τ) : Outcome (ShopClient τ) :=
  match settings, transport with
  | settings, some t => .ok ⟨settings, .supplied t⟩
  | some s, none => .ok ⟨some s, .made (.ofSettings s none)⟩
  | none, none => .error (.configuration .nothingGiven)

/-- Enters the client. -/
def enter (c : ShopClient τ) : ShopClient τ × List LogLine :=
  match c.transport with
  | .made t =>
    let (t, log) := t.enter
    ({ c with transport := .made t }, log)
  | .supplied _ => (c, [])

/-- Closes the client. -/
def close (c : ShopClient τ) : ShopClient τ :=
  match c.transport with
  | .made t => { c with transport := .made t.close }
  | .supplied _ => c

end ShopClient

end CatalogQuery
