import CatalogQuery.Failure
import CatalogQuery.Validation.Coerce
import CatalogQuery.Validation.Field

/-!
# Settings of authentication

The token, the header that carries it, and whether and how it is used. The settings are checked when
they are made (`CredentialSettings.ofEntries`), and then hold texts; later changes are not checked
(`CredentialSettings.change`), so the token and the name of its header may become any value.
-/

namespace CatalogQuery

/-- The header that carries the token if nothing else is said. -/
def CredentialSettings.defaultHeader : Text :=
  .str "X-Shopify-Access-Token"

/-- The settings of authentication by a token. -/
structure CredentialSettings where
  /-- The type of authentication. -/
  authType : AuthType := .accessToken
  /-- Requests are authenticated. -/
  enabled : Bool := true
  /-- Headers are kept and used again. -/
  caching : Bool := true
  /-- The token. -/
  token : Datum
  /-- The name of the header that carries the token. -/
  headerName : Datum := .text CredentialSettings.defaultHeader
  deriving Repr

namespace CredentialSettings

/-- The settings with the given values; unknown names are passed over. -/
def ofEntries (entries : List (Datum × Datum)) : Checked CredentialSettings :=
  Checked.ap (Checked.ap (Checked.ap (Checked.ap
    ((Field.optional entries "auth_type" .accessToken (Coerce.wordOrOctets AuthType)).map
      fun authType enabled caching token headerName ↦
        { authType, enabled, caching, token := .text token, headerName := .text headerName })
    (Field.optional entries "enabled" true Coerce.bool))
    (Field.optional entries "cache_credentials" true Coerce.bool))
    (Field.required entries "access_token" Coerce.secret))
    (Field.optional entries "header_name" defaultHeader Coerce.textOrOctets)

/-- A change of the settings that is not checked. -/
inductive Change where
  | enabled (on : Bool)
  | caching (on : Bool)
  | token (value : Datum)
  | headerName (value : Datum)
  deriving Repr

/-- The settings after a change. -/
def change (s : CredentialSettings) : Change → CredentialSettings
  | .enabled on => { s with enabled := on }
  | .caching on => { s with caching := on }
  | .token value => { s with token := value }
  | .headerName value => { s with headerName := value }

/-- What the settings authenticate with is complete: neither the token nor the name of its header is
blank. Only a text or octets can be asked whether they are. -/
def isComplete (s : CredentialSettings) : Outcome Bool :=
  match s.token.isBlank? with
  | none => Outcome.fault .noSuchAttribute
  | some true => .ok false
  | some false =>
    if !s.headerName.isTruthy then .ok false
    else
      match s.headerName.isBlank? with
      | none => Outcome.fault .noSuchAttribute
      | some blank => .ok !blank

end CredentialSettings

end CatalogQuery
