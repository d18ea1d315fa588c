import EventBus.Bus.Log
import EventBus.Scenario.Handler

/-!
Running a scenario.

Each step runs to its end, or to a panic that nothing contains; then the pool is run until it is
empty.  What was noted down or logged meanwhile, in order, is the journal of the step.
-/

namespace EventBus.Scenario

/-- A line of a journal. -/
inductive Line where
  | entry (entry : Entry)
  | log (record : LogRecord)
  | dispatch (event : String) (subscribers : List Sighting)

/-- How a step ended. -/
inductive Outcome where
  | answered (answer : Answer)
  | panicked (payload : Payload)
  | unfinished

/-- The outcome of a step and its journal. -/
structure Report where
  outcome : Outcome
  journal : List Line

/-- The line that a happening leaves in the journal; records are kept up to a level. -/
def line? (level : Option LogLevel) : Occurrence Code Entry → Option Line
  | .noted entry => some (.entry entry)
  | .sighted event subscribers => some (.dispatch event.text subscribers)
  | o =>
    match o.logRecord?, level with
    | some r, some most => if r.level.rank ≤ most.rank then some (.log r) else none
    | _, _ => none

/-- The script of a step made by nobody's handler: its answer is kept. -/
def Step.alone (step : Step) : Play :=
  step.play fun answer => .update (fun u => { u with answer := answer }) (.finish (.ok ()))

/-- How many steps the machine may make for one step of a scenario. -/
def fuel : Nat := 1000000000

def drainPool (s : Stage) : Option Stage :=
  match Machine.run program fuel (Machine.startPool s) with
  | .ended s _ => some s
  | _ => none

def makeStep (s : Stage) (step : Step) : Stage × Outcome :=
  let quiet : Stage := { s with user := { s.user with answer := .nothing }, trace := #[] }
  match Machine.run program fuel (Machine.start quiet step.alone) with
  | .ended s ending =>
    match drainPool s with
    | some s =>
      match ending with
      | .returned _ => (s, .answered s.user.answer)
      | .panicked payload => (s, .panicked payload)
    | none => (s, .unfinished)
  | .stuck s => (s, .unfinished)
  | .going m => (m.state, .unfinished)

def runSteps (level : Option LogLevel) (s : Stage) : List Step → List Report
  | [] => []
  | step :: rest =>
    let r := makeStep s step
    ⟨r.2, r.1.trace.toList.filterMap (line? level)⟩ :: runSteps level r.1 rest

/-- Runs a scenario in the catalogue's hierarchy with some more types declared. -/
def run (level : Option LogLevel) (types : List (EventType × List EventType))
    (steps : List Step) : List Report :=
  let hierarchy := types.foldl (fun h d => h.declare d.1 d.2) Catalogue.hierarchy
  runSteps level (.initial hierarchy .empty) steps

end EventBus.Scenario
