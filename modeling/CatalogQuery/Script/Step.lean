import CatalogQuery.Script.Method
import CatalogQuery.Script.Shown

/-!
# Steps of a script

A script is a list of steps that goes on after a failure. A step first makes the values of its
arguments, then looks up what it works on, and then acts. Its result is shown, and stored if the
step has a name for it; a failed step stores nothing, and neither does one whose result has nothing
to show.

All that a step makes is numbered (`Value.label`) before it is used again, so that a stored value is
the very same one wherever it turns up later.
-/

namespace CatalogQuery.Script

/-- A value as a step gives it. -/
inductive Argument where
  /-- Data without parts. -/
  | datum (d : Datum)
  /-- The result that an earlier step stored. -/
  | ref (name : String)
  | list (items : List Argument)
  | tuple (items : List Argument)
  /-- A mapping; of the entries of a key, the last counts, in the place of the first. -/
  | dict (entries : List (Argument × Argument))
  /-- Data that could not be made. -/
  | failed (failure : Failure)
  deriving Inhabited

/-- Why a step has no result. -/
inductive StepError where
  /-- A name that no step stored a result under. -/
  | undefinedName
  /-- The operation failed. -/
  | failed (failure : Failure)

/-- The outcome of a step. -/
abbrev StepResult (α : Type) := Except StepError α

/-- The outcome of an operation as the outcome of a step. -/
def ofOutcome {α : Type} : Outcome α → StepResult α
  | .ok a => .ok a
  | .error failure => .error (.failed failure)

/-- The results stored so far. -/
structure Store where
  /-- Names with their results; the latest first. -/
  names : List (String × Value) := []
  /-- The next number of a value. -/
  next : Nat := 0
  deriving Inhabited

namespace Store

/-- The result under a name. -/
def get? (s : Store) (name : String) : Option Value :=
  (s.names.find? fun e ↦ e.1 == name).map Prod.snd

/-- The result under a name that a step refers to. -/
def get (s : Store) (name : String) : StepResult Value :=
  match s.get? name with
  | some v => .ok v
  | none => .error .undefinedName

/-- Stores a result under a name, if the step has one. -/
def put (s : Store) (name : Option String) (v : Value) : Store :=
  match name with
  | some n => { s with names := (n, v) :: s.names.filter fun e ↦ e.1 != n }
  | none => s

/-- A value in which everything new has a number. -/
def label (s : Store) (v : Value) : Value × Store :=
  let (v, next) := v.label s.next
  (v, { s with next })

end Store

/-- What a step works on. -/
inductive Target where
  /-- A stored result. -/
  | name (n : String)
  /-- A value given in the step. -/
  | value (a : Argument)
  /-- What no result can be stored under. -/
  | unknown

/-- The operations that are the same for all values. -/
inductive Operation where
  | size | items | contains | item | equal | same | sameHash | text
  deriving DecidableEq, Repr

/-- What a step does. -/
inductive Deed where
  /-- A call without a receiver. -/
  | make (name : String)
  /-- A call of a method. -/
  | method (target : Target) (name : String)
  /-- An attribute. -/
  | attr (target : Target) (name : String)
  /-- An operation of all values. -/
  | apply (target : Target) (operation : Operation)

/-- What a step does, with its arguments. -/
structure Action where
  /-- What is done. -/
  deed : Deed
  /-- The values given by position. -/
  positional : List Argument := []
  /-- The values given by name. -/
  named : List (String × Argument) := []

/-- A step with the name that its result is stored under. -/
structure Step where
  /-- What the step does. -/
  action : Action
  /-- The name of the result. -/
  storeAs : Option String := none

/-! ### Arguments -/

mutual

/-- The value of an argument. -/
def resolve (s : Store) : Argument → StepResult Value
  | .datum d => .ok (.ofDatum d)
  | .ref n => s.get n
  | .list as => (resolveItems s as).map .ofList
  | .tuple as => (resolveItems s as).map .ofTuple
  | .dict es => (resolveEntries s es []).map (.dict .fresh)
  | .failed failure => .error (.failed failure)

/-- The values of arguments. -/
def resolveItems (s : Store) : List Argument → StepResult (List Value)
  | [] => .ok []
  | a :: as => do
    let v ← resolve s a
    let vs ← resolveItems s as
    return v :: vs

/-- The entries of a mapping, put after those before them; a key that cannot be one is a fault. -/
def resolveEntries (s : Store) : List (Argument × Argument) → List (Value × Value) →
    StepResult (List (Value × Value))
  | [], done => .ok done
  | (k, v) :: es, done => do
    let key ← resolve s k
    let value ← resolve s v
    if key.isHashable then resolveEntries s es (Value.put key value done)
    else .error (.failed (.fault .wrongClass))

end

/-- The values of named arguments. -/
def resolveNamed (s : Store) : List (String × Argument) → StepResult (List (String × Value))
  | [] => .ok []
  | (n, a) :: as => do
    let v ← resolve s a
    let vs ← resolveNamed s as
    return (n, v) :: vs

/-- Values by name in which everything new has a number. -/
def labelNamed : List (String × Value) → Nat → List (String × Value) × Nat
  | [], n => ([], n)
  | (name, v) :: vs, n =>
    let (v, n) := v.label n
    let (vs, n) := labelNamed vs n
    ((name, v) :: vs, n)

/-- The values given to a call, with numbers. -/
def resolveAll (s : Store) (positional : List Argument) (named : List (String × Argument)) :
    StepResult (Arguments × Store) := do
  let vs ← resolveItems s positional
  let ns ← resolveNamed s named
  let (vs, next) := Value.labelAll vs s.next
  let (ns, next) := labelNamed ns next
  return ({ positional := vs, named := ns }, { s with next })

/-- What a target stands for, with numbers. -/
def resolveTarget (s : Store) : Target → StepResult (Value × Store)
  | .name n => do return s.label (← s.get n)
  | .value a => do return s.label (← resolve s a)
  | .unknown => .error .undefinedName

/-! ### Running steps -/

/-- The operations that take a second value. -/
def applyPair (v w : Value) : Operation → Outcome Value
  | .contains => (v.contains w).map .bool
  | .item => v.item w
  | .equal => .ok (.bool (v.equal w))
  | .same => .ok (.bool (v.same w))
  | .sameHash => (v.sameHash w).map .bool
  | .size | .items | .text => wrongClass

/-- Applies an operation of all values. -/
def applyOperation (v : Value) (operation : Operation) (given : List Value) : Outcome Value :=
  match operation, given with
  | .size, _ => v.size.map .nat
  | .items, _ => v.items.map .ofList
  | .text, _ => v.plain.map .ofText
  | operation, w :: _ => applyPair v w operation
  | _, [] => Outcome.fault .outOfRange

/-- The result of what a step does with the given arguments. -/
def Deed.perform (s : Store) (a : Arguments) : Deed → StepResult (Value × Store)
  | .make name => do return (← ofOutcome (call name a), s)
  | .method target name => do
    let (v, s) ← resolveTarget s target
    return (← ofOutcome (callMethod v name a), s)
  | .attr target name => do
    let (v, s) ← resolveTarget s target
    return (← ofOutcome (v.attribute? name), s)
  | .apply target operation => do
    let (v, s) ← resolveTarget s target
    return (← ofOutcome (applyOperation v operation a.positional), s)

/-- The result of an action. -/
def Action.perform (action : Action) (s : Store) : StepResult (Value × Store) := do
  let (a, s) ← resolveAll s action.positional action.named
  action.deed.perform s a

/-- Shows a result and stores it under the name of its step. -/
def Store.keep (s : Store) (name : Option String) (v : Value) : StepResult (Shown × Store) := do
  let shown ← ofOutcome v.show?
  let (v, s) := s.label v
  return (shown, s.put name v)

/-- What a step comes to, and the results stored after it. -/
def Store.settle (s : Store) : StepResult (Shown × Store) → StepResult Shown × Store
  | .ok (shown, s) => (.ok shown, s)
  | .error e => (.error e, s)

/-- Runs one step. -/
def Step.run (step : Step) (s : Store) : StepResult Shown × Store :=
  s.settle do
    let (v, s) ← step.action.perform s
    s.keep step.storeAs v

/-- Runs steps in order; a failure does not stop the others. -/
def runAll : List Step → Store → List (StepResult Shown)
  | [], _ => []
  | step :: steps, s =>
    let (r, s) := step.run s
    r :: runAll steps s

end CatalogQuery.Script
