import CatalogQuery.Datum.Equal
import CatalogQuery.Failure
import CatalogQuery.Settings.Credentials

/-!
# Credentials

The headers that authenticate a request. A grant is made from the settings as they are when it is
asked for, and a blank token grants nothing. While keeping is on, a grant is kept and given again
until it is dropped or a fresh one is demanded; while authentication is off, a request gets no
header and the kept grant stays as it is.

Every grant has a serial number of its own, so that a grant given again can be told from a new one
with the same headers.
-/

namespace CatalogQuery

/-- The headers of a request by name. -/
abbrev Headers := List (Datum × Datum)

/-- Headers granted at one time. -/
structure Grant where
  /-- The serial number. -/
  serial : Nat
  /-- The headers. -/
  headers : Headers
  deriving Repr

/-- The settings of authentication with what was granted under them. -/
structure Credentials where
  /-- The settings. -/
  settings : CredentialSettings
  /-- The grant that is kept. -/
  kept : Option Grant := none
  /-- The number of grants made. -/
  issued : Nat := 0
  deriving Repr

namespace Credentials

/-- A new grant of the given headers. -/
def grant (c : Credentials) (headers : Headers) : Grant × Credentials :=
  (⟨c.issued, headers⟩, { c with issued := c.issued + 1 })

/-- Why the settings grant no header, if they grant none: the token is empty or blank, or it cannot
be asked whether it is, or the name of the header is no key. -/
def refusal? (s : CredentialSettings) : Option Failure :=
  if !s.token.isTruthy then some .authentication
  else
    match s.token.isBlank? with
    | none => some (.fault .noSuchAttribute)
    | some true => some .authentication
    | some false => if s.headerName.isHashable then none else some (.fault .wrongClass)

/-- A new grant of the header that carries the token. Nothing is kept. -/
def authenticate (c : Credentials) : Outcome Grant × Credentials :=
  match refusal? c.settings with
  | some failure => (.error failure, c)
  | none =>
    let (g, c) := c.grant [(c.settings.headerName, c.settings.token)]
    (.ok g, c)

/-- The grant for a request; with `force` a kept one is not given again. -/
def get (c : Credentials) (force : Bool) : Outcome Grant × Credentials :=
  if !c.settings.enabled then
    let (g, c) := c.grant []
    (.ok g, c)
  else
    match (if force || !c.settings.caching then none else c.kept) with
    | some g => (.ok g, c)
    | none =>
      match c.authenticate with
      | (.ok g, c) => (.ok g, if c.settings.caching then { c with kept := some g } else c)
      | (.error failure, c) => (.error failure, c)

/-- Drops the kept grant. -/
def clear (c : Credentials) : Credentials :=
  { c with kept := none }

/-- A grant is kept. -/
def isAuthenticated (c : Credentials) : Bool :=
  c.kept.isSome

/-- Changes the settings; the kept grant stays as it is. -/
def change (c : Credentials) (d : CredentialSettings.Change) : Credentials :=
  { c with settings := c.settings.change d }

end Credentials

/-- A change of the settings of authentication by name. A switch takes any value for on that is not
empty, zero, false or absent; the type of authentication never changes. -/
def CredentialSettings.Change.ofName (name : String) (value : Datum) :
    Outcome CredentialSettings.Change :=
  match name with
  | "enabled" => .ok (.enabled value.isTruthy)
  | "cache_credentials" => .ok (.caching value.isTruthy)
  | "access_token" => .ok (.token value)
  | "header_name" => .ok (.headerName value)
  | "auth_type" => .error (.invalidSettings [⟨["auth_type"], .frozenField⟩])
  | _ => Outcome.fault .badValue

end CatalogQuery
