import EventBus.Text.Quoted
import EventBus.Text.Record

/-!
The errors of the bus, each with its cause and an optional context saying what was being done.

`BusError.message` is the text for people, `BusError.detail` shows the whole value.  Putting an
error into a context replaces the context it had and nothing else.
-/

namespace EventBus

/-- Why an executor on a thread pool could not be had. -/
inductive RuntimeError where
  | noRuntime
deriving DecidableEq, Repr

namespace RuntimeError

def message : RuntimeError → String
  | noRuntime =>
    "there is no reactor running, must be called from the context of a Tokio 1.x runtime"

def detail : RuntimeError → String
  | noRuntime => Text.record "TryCurrentError" [("kind", "NoContext")]

end RuntimeError

/-- Why settings could not be read. -/
inductive SettingsError where
  | frozen
  | missingField (key : String)
  | other (message : String)
deriving DecidableEq, Repr

namespace SettingsError

def message : SettingsError → String
  | frozen => "configuration is frozen"
  | missingField key => "missing configuration field " ++ Text.quote key
  | other message => message

end SettingsError

/-- An error of the bus. -/
inductive BusError where
  | notRegistered (text : String) (context : Option String)
  | handlerDefect (text : String) (context : Option String)
  | runtimeUnavailable (source : RuntimeError) (context : Option String)
  | settings (source : SettingsError) (context : Option String)
deriving DecidableEq, Repr

namespace BusError

/-- The same error in a context, which takes the place of the one before. -/
def withContext (c : String) : BusError → BusError
  | notRegistered text _ => notRegistered text (some c)
  | handlerDefect text _ => handlerDefect text (some c)
  | runtimeUnavailable source _ => runtimeUnavailable source (some c)
  | settings source _ => settings source (some c)

def subject : BusError → String
  | notRegistered _ _ => "Listener not registered"
  | handlerDefect _ _ => "Handler contract violated"
  | runtimeUnavailable _ _ => "Tokio runtime unavailable"
  | settings _ _ => "Configuration error"

def context : BusError → Option String
  | notRegistered _ c | handlerDefect _ c | runtimeUnavailable _ c | settings _ c => c

def reason : BusError → String
  | notRegistered text _ | handlerDefect text _ => text
  | runtimeUnavailable source _ => source.message
  | settings source _ => source.message

def source? : BusError → Option String
  | notRegistered _ _ | handlerDefect _ _ => none
  | runtimeUnavailable source _ => some source.message
  | settings source _ => some source.message

def contextText : Option String → String
  | none => ""
  | some c => " (" ++ c ++ ")"

def message (e : BusError) : String :=
  e.subject ++ contextText e.context ++ ": " ++ e.reason

def kind : BusError → String
  | notRegistered _ _ => "NotRegistered"
  | handlerDefect _ _ => "HandlerDefect"
  | runtimeUnavailable _ _ => "RuntimeUnavailable"
  | settings _ _ => "Config"

def detail (e : BusError) : String :=
  let cause : String × String :=
    match e with
    | notRegistered text _ | handlerDefect text _ => ("message", Text.quote text)
    | runtimeUnavailable source _ => ("source", source.detail)
    | settings source _ => ("source", source.message)
  Text.record e.kind [cause, ("context", Text.option (e.context.map Text.quote))]

end BusError

def inContext {α : Type} (r : Except BusError α) (c : String) : Except BusError α :=
  r.mapError (·.withContext c)

end EventBus
