import CatalogQuery.Datum.Merge
import CatalogQuery.Number.Numeral

/-!
# Settings in the environment

Variables of the environment that hold settings. Each variable gives one setting; two settings have
a second variable without the prefix, which counts only where the first is not set. A variable that
is set to the empty text is set. The texts of variables stand for themselves, except for the
settings that are no texts: there a truth word, a decimal number or an integer is taken as what it
denotes (`Environment.convert`).
-/

namespace CatalogQuery

/-- An environment: the variables that are set, with their texts. -/
abbrev Environment := List (String × String)

namespace Environment

/-- The text of a variable, if it is set. -/
def get? (env : Environment) (name : String) : Option String :=
  (env.find? fun v ↦ v.1 == name).map Prod.snd

/-- The value that the text of a variable denotes. -/
def convert (s : String) : Datum :=
  let word := s.map asciiLower
  if ["true", "yes", "on"].contains word then .bool true
  else if ["false", "no", "off"].contains word then .bool false
  else
    let points := codePoints s.toList
    let number :=
      if s.contains '.' then (Numeral.float? points).map .float
      else (Numeral.integer? points).map .int
    number.getD (.str s)

/-- A variable that gives a setting. -/
structure Variable where
  /-- The name of the variable. -/
  name : String
  /-- The names that lead to the setting. -/
  path : List String
  /-- The text is converted. -/
  isConverted : Bool := false

/-- The prefix of the names of variables. -/
def namePrefix : String := "SHOPIFY_"

/-- The variables with the prefix. -/
def prefixed : List Variable :=
  [{ name := namePrefix ++ "API_URL", path := ["api_url"] },
    { name := namePrefix ++ "API_TOKEN", path := ["api_token"] },
    { name := namePrefix ++ "TIMEOUT", path := ["timeout"], isConverted := true },
    { name := namePrefix ++ "USER_AGENT", path := ["user_agent"] },
    { name := namePrefix ++ "LOG_LEVEL", path := ["logging", "level"] },
    { name := namePrefix ++ "LOG_FORMAT", path := ["logging", "format"] },
    { name := namePrefix ++ "LOG_STRUCTURED", path := ["logging", "enable_structured"],
      isConverted := true }]

/-- The variables without the prefix. -/
def fallbacks : List Variable :=
  [{ name := "API_URL", path := ["api_url"] }, { name := "API_TOKEN", path := ["api_token"] }]

/-- The variables that count in an environment. -/
def counted (env : Environment) : List Variable :=
  prefixed ++ fallbacks.filter fun v ↦ (env.get? (namePrefix ++ v.name)).isNone

/-- The settings that an environment gives. -/
def entries (env : Environment) : List (Datum × Datum) :=
  (counted env).foldl
    (fun es v ↦
      match env.get? v.name with
      | some s => Datum.putAt (if v.isConverted then convert s else .str s) (v.path.map .str) es
      | none => es) []

end Environment

end CatalogQuery
