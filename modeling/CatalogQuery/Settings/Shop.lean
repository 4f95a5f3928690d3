import CatalogQuery.Datum.Display
import CatalogQuery.Settings.Logging
import CatalogQuery.Url

/-!
# Settings of a connection to a shop

Where the shop is, the token that it knows the caller by, and how requests are made. The settings
are made from named values (`ShopSettings.ofEntries`), all of which are checked, and can be changed
one by one under the same checks (`ShopSettings.assign`). A name that no setting has is an issue in
both.
-/

namespace CatalogQuery

/-- The seconds that a request may take if nothing else is said: thirty. -/
def ShopSettings.defaultTimeout : Binary64 :=
  .finite false (15 * Nat.pow 2 49) 1026

/-- How the library presents itself if nothing else is said. -/
def ShopSettings.defaultUserAgent : Text :=
  .str "shopify-gql/0.1.0"

/-- The settings of a connection to a shop. -/
structure ShopSettings where
  /-- Where documents are sent to. -/
  url : Url
  /-- The token that authenticates requests. -/
  token : Text
  /-- The longest time that a request may take, in seconds. -/
  timeout : Binary64 := ShopSettings.defaultTimeout
  /-- How the library presents itself. -/
  userAgent : Text := ShopSettings.defaultUserAgent
  /-- The settings of logging. -/
  logging : LogSettings := {}
  deriving DecidableEq, Repr

namespace ShopSettings

/-- The largest length of an address. -/
def urlLimit : Nat := 2083

/-- A field for a web address. -/
def checkUrl (d : Datum) : Checked Url :=
  match Coerce.textOrOctets d with
  | .ok (.str s) =>
    if urlLimit < s.utf8ByteSize then .fail .urlTooLong
    else
      match Url.parse s with
      | .ok u => .ok u
      | .error .malformed => .fail .urlParsing
      | .error .otherScheme => .fail .urlScheme
  | _ => .fail .urlType

/-- A field for a token, which is not blank. -/
def checkToken (d : Datum) : Checked Text :=
  match Coerce.secret d with
  | .ok t => if t.isBlank then .fail .valueError else .ok t
  | .error issues => .error issues

/-- A field for a time, which is positive. -/
def checkTimeout (d : Datum) : Checked Binary64 :=
  match Coerce.float d with
  | .ok x => if x.isPositive then .ok x else .fail .greaterThan
  | .error issues => .error issues

/-- The names of the settings, in order. -/
def names : List String :=
  ["api_url", "api_token", "timeout", "user_agent", "logging"]

/-- The check that no entry has a name that no setting has. -/
def checkNames (entries : List (Datum × Datum)) : Checked Unit :=
  let unknown := entries.filter fun e ↦ !names.any fun n ↦ e.1.equal (.str n)
  if unknown.isEmpty then .ok ()
  else .error (unknown.map fun e ↦ ⟨[e.1.plain.toString], .extraForbidden⟩)

/-- The settings with the given values. -/
def ofEntries (entries : List (Datum × Datum)) : Checked ShopSettings :=
  Checked.ap (Checked.ap (Checked.ap (Checked.ap (Checked.ap
    ((Field.required entries "api_url" checkUrl).map
      fun url token timeout userAgent logging _ ↦ { url, token, timeout, userAgent, logging })
    (Field.required entries "api_token" checkToken))
    (Field.optional entries "timeout" defaultTimeout checkTimeout))
    (Field.optional entries "user_agent" defaultUserAgent Coerce.textOrOctets))
    (Field.optional entries "logging" {} LogSettings.check))
    (checkNames entries)

/-- The settings with one of them changed, under the check of that setting. -/
def check (s : ShopSettings) (name : String) (value : Datum) : Checked ShopSettings :=
  Checked.under name
    (match name with
     | "api_url" => (checkUrl value).map fun url ↦ { s with url }
     | "api_token" => (checkToken value).map fun token ↦ { s with token }
     | "timeout" => (checkTimeout value).map fun timeout ↦ { s with timeout }
     | "user_agent" => (Coerce.textOrOctets value).map fun userAgent ↦ { s with userAgent }
     | "logging" => (LogSettings.check value).map fun logging ↦ { s with logging }
     | _ => .fail .noSuchAttribute)

/-- The settings after an assignment. A name that starts with an underscore is private and changes
no setting; a property cannot be assigned. -/
def assign (s : ShopSettings) (name : String) (value : Datum) : Outcome ShopSettings :=
  if name.startsWith "_" then .ok s
  else if name == "endpoint" || ModelProperty.names.contains name then
    Outcome.fault .noSuchAttribute
  else
    match s.check name value with
    | .ok t => .ok t
    | .error issues => .error (.invalidSettings issues)

/-- The address that documents are sent to, as text. -/
def endpoint (s : ShopSettings) : String :=
  s.url.text

/-- The settings by name, with the token hidden. -/
def masked (s : ShopSettings) : List (String × Datum) :=
  [("api_url", .str s.endpoint), ("api_token", .str "***"), ("timeout", .float s.timeout),
    ("user_agent", .text s.userAgent),
    ("logging", .dict (s.logging.fields.map fun f ↦ (.str f.1, f.2)))]

end ShopSettings

end CatalogQuery
