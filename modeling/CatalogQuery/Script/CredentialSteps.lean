import CatalogQuery.Credentials

/-!
# Steps on credentials

A script that asks for grants, drops the kept one, and changes settings. A step that gives a grant
tells whether it is the very one that the last such step gave.
-/

namespace CatalogQuery.Script

/-- A step on credentials. -/
inductive CredentialStep where
  /-- Asks for the grant of a request. -/
  | get (force : Bool)
  /-- Makes a new grant. -/
  | authenticate
  /-- Drops the kept grant. -/
  | clear
  /-- Asks whether the settings are complete. -/
  | validate
  /-- Changes a setting. -/
  | set (name : String) (value : Datum)

/-- What a step on credentials gives. -/
inductive CredentialResult where
  | nothing
  | valid (isValid : Bool)
  | granted (g : Grant) (isLast : Bool)

/-- What a step on credentials reports. -/
structure CredentialReport where
  /-- The outcome. -/
  outcome : Outcome CredentialResult
  /-- A grant is kept after the step. -/
  isAuthenticated : Bool

/-- What a grant gives, when `last` was granted before. -/
def grantResult (last : Option Grant) (g : Outcome Grant) : Outcome CredentialResult :=
  g.map fun g ↦ .granted g (last.any fun l ↦ l.serial == g.serial)

/-- The last grant after another outcome. -/
def lastGrant (last : Option Grant) : Outcome Grant → Option Grant
  | .ok g => some g
  | .error _ => last

/-- Runs a step on credentials. -/
def CredentialStep.run (step : CredentialStep) (c : Credentials) (last : Option Grant) :
    Outcome CredentialResult × Credentials × Option Grant :=
  match step with
  | .get force =>
    let (g, c) := c.get force
    (grantResult last g, c, lastGrant last g)
  | .authenticate =>
    let (g, c) := c.authenticate
    (grantResult last g, c, lastGrant last g)
  | .clear => (.ok .nothing, c.clear, last)
  | .validate => (c.settings.isComplete.map .valid, c, last)
  | .set name value =>
    match CredentialSettings.Change.ofName name value with
    | .ok d => (.ok .nothing, c.change d, last)
    | .error failure => (.error failure, c, last)

/-- Runs steps on credentials in order, and gives the credentials at the end. -/
def runCredentials : List CredentialStep → Credentials → Option Grant →
    List CredentialReport × Credentials
  | [], c, _ => ([], c)
  | step :: steps, c, last =>
    let (outcome, c, last) := step.run c last
    let (reports, final) := runCredentials steps c last
    (⟨outcome, c.isAuthenticated⟩ :: reports, final)

end CatalogQuery.Script
