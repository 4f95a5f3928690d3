import CatalogQuery.Script.Value

/-!
# Arguments of a call

A call gives values by position and by name. `Arguments.bind` pairs them with the parameters of what
is called: by position first, then by name, then by default. A value too many, a name that is
unknown or given twice, and a parameter without a value are faults.
-/

namespace CatalogQuery.Script

/-- The values given to a call. -/
structure Arguments where
  /-- The values given by position. -/
  positional : List Value := []
  /-- The values given by name. -/
  named : List (String × Value) := []
  deriving Inhabited

/-- A parameter of something that can be called. -/
structure Parameter where
  /-- The name. -/
  name : String
  /-- The value when none is given. -/
  default : Option Value := none
  /-- The value can only be given by name. -/
  onlyNamed : Bool := false

namespace Parameter

/-- A parameter that needs a value. -/
def required (name : String) : Parameter := { name }

/-- A parameter with a default. -/
def optional (name : String) (default : Value) : Parameter := { name, default := some default }

end Parameter

namespace Arguments

/-- The value of a parameter that was given none by position. -/
def byName (named : List (String × Value)) (p : Parameter) : Outcome Value :=
  match named.find? fun n ↦ n.1 == p.name with
  | some n => .ok n.2
  | none =>
    match p.default with
    | some v => .ok v
    | none => Outcome.fault .wrongClass

/-- The values of parameters, in order. -/
def values : List Parameter → List Value → List (String × Value) → Outcome (List Value)
  | [], [], _ => .ok []
  | [], _ :: _, _ => Outcome.fault .wrongClass
  | p :: ps, [], named => do
    let v ← byName named p
    let vs ← values ps [] named
    return v :: vs
  | p :: ps, v :: vs, named =>
    if p.onlyNamed || named.any fun n ↦ n.1 == p.name then Outcome.fault .wrongClass
    else (values ps vs named).map (v :: ·)

/-- The values of parameters, in order; a name that belongs to no parameter is a fault. -/
def bind (a : Arguments) (parameters : List Parameter) : Outcome (List Value) :=
  if a.named.all fun n ↦ parameters.any fun p ↦ p.name == n.1 then
    values parameters a.positional a.named
  else Outcome.fault .wrongClass

/-- The one value of a call that takes one. -/
def one (a : Arguments) (name : String) : Outcome Value := do
  match ← a.bind [.required name] with
  | [v] => return v
  | _ => Outcome.fault .wrongClass

/-- No value for a call that takes none. -/
def none (a : Arguments) : Outcome Unit := do
  let _ ← a.bind []

end Arguments

end CatalogQuery.Script
