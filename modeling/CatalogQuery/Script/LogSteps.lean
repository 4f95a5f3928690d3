import CatalogQuery.Log.Manager

/-!
# Steps on a manager of logging

A script that sets up logging, changes it and logs events. Each step reports what it came to and
what the handlers wrote.
-/

namespace CatalogQuery.Script

/-- A step on a manager of logging. -/
inductive LogStep where
  /-- Sets up logging with the settings that entries give. -/
  | setup (entries : List (Datum × Datum))
  /-- Sets a level, which is given by its name. -/
  | setLevel (level : String) (component : Option String)
  /-- Adds a handler that takes records of all levels. -/
  | addHandler (name template : String)
  | removeHandler (name : String)
  | cleanup
  /-- Asks for a logger. -/
  | getLogger (name : String)
  /-- Logs an event. -/
  | log (name : String) (level : Int) (message : Datum) (values : List Datum)

/-- What a step on a manager gives. -/
inductive LogResult where
  | nothing
  /-- The name of the level that was set. -/
  | level (name : String)
  /-- The name of the logger. -/
  | logger (name : String)

/-- What a step on a manager reports. -/
structure LogReport where
  /-- The outcome. -/
  outcome : Outcome LogResult
  /-- What the handlers wrote. -/
  output : String
  /-- The manager after the step. -/
  manager : LogManager

/-- What logging came to. -/
def LogResult.ofFault : Option Fault → Outcome LogResult
  | some fault => Outcome.fault fault
  | none => .ok .nothing

/-- Runs a step on a manager. -/
def LogStep.run (origin : LogManager.Origin) (step : LogStep) (m : LogManager) : LogReport :=
  match step with
  | .setup entries =>
    match LogSettings.ofEntries entries with
    | .error issues => ⟨.error (.invalidSettings issues), "", m⟩
    | .ok s =>
      let (m, output, fault) := m.setup origin s
      ⟨LogResult.ofFault fault, output, m⟩
  | .setLevel level component =>
    match Vocabulary.ofWire? level with
    | none => ⟨Outcome.fault .badValue, "", m⟩
    | some l =>
      let m := m.setLevel l component
      let name := component.getD ""
      ⟨.ok (.level (levelName (if name.isEmpty then m.level else m.levelOf name))), "", m⟩
  | .addHandler name template =>
    match LogFormat.ofTemplate template with
    | .error fault => ⟨Outcome.fault fault, "", m⟩
    | .ok format => ⟨.ok .nothing, "", m.addHandler name { id := m.freshId, format }⟩
  | .removeHandler name => ⟨.ok .nothing, "", m.removeHandler name⟩
  | .cleanup => ⟨.ok .nothing, "", m.cleanup⟩
  | .getLogger name => ⟨.ok (.logger (LogManager.displayName name)), "", m⟩
  | .log name level message values =>
    let (output, fault) := m.log origin name level message values
    ⟨LogResult.ofFault fault, output, m⟩

/-- Runs steps on a manager in order; a failure does not stop the others. -/
def runLogging (origin : LogManager.Origin) : List LogStep → LogManager → List LogReport
  | [], _ => []
  | step :: steps, m =>
    let report := step.run origin m
    report :: runLogging origin steps report.manager

end CatalogQuery.Script
