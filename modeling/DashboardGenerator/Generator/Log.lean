import DashboardGenerator.Environment
import DashboardGenerator.Text.Lowercase

/-!
# Log

A run reports what it does in events of some severity. A filter decides which of them are shown: most
often it is a threshold, and a text with directives may say more. Each is shown with its severity, the
part of the program that it comes from and its message. Control characters that could steer a
terminal are shown as escapes.
-/

namespace DashboardGenerator.Log

/-- How severe an event is. -/
inductive Level where
  | error
  | warn
  | info
  | debug
  | trace
deriving Repr, DecidableEq

/-- The place of a level in the order from the most to the least severe. -/
def Level.rank : Level → Nat
  | .error => 1
  | .warn => 2
  | .info => 3
  | .debug => 4
  | .trace => 5

/-- The name of a level. -/
def Level.name : Level → String
  | .error => "ERROR"
  | .warn => "WARN"
  | .info => "INFO"
  | .debug => "DEBUG"
  | .trace => "TRACE"

/-- One event. -/
structure Event where
  level : Level
  target : String
  message : String
deriving Repr, DecidableEq

/-- The least severe level that is shown; none shows nothing. -/
abbrev Threshold := Option Level

/-- The threshold that holds when none is set. -/
def Threshold.default : Threshold := some .info

/-- The threshold that a word sets. -/
def Threshold.ofWord? (word : String) : Option Threshold :=
  match Text.lowercase word with
  | "off" => some none
  | "error" => some (some .error)
  | "warn" => some (some .warn)
  | "info" => some (some .info)
  | "debug" => some (some .debug)
  | "trace" => some (some .trace)
  | _ => none

/-- The event is severe enough to be shown. -/
def Event.isShown (event : Event) (threshold : Threshold) : Bool :=
  match threshold with
  | some level => event.level.rank ≤ level.rank
  | none => false

/-- Which events are shown. -/
abbrev Filter := Event → Bool

/-- The filter of a threshold. -/
def Threshold.filter (threshold : Threshold) : Filter := fun event => event.isShown threshold

/-- The variable of the environment that sets the filter. -/
def variableName : String := "RUST_LOG"

/-- The filter that the environment sets: the threshold that its text names, or else what its
directives say, if the text is made of directives. -/
def Filter.ofEnvironment (directives : String → Option Filter) (environment : Environment) :
    Filter :=
  match environment.text? variableName with
  | none => Threshold.default.filter
  | some text =>
    match Threshold.ofWord? text with
    | some threshold => threshold.filter
    | none => (directives text).getD Threshold.default.filter

/-- One character of a message. -/
def shownCharacter (character : Char) : List Char :=
  if character = '\x1b' then ['\\', 'x', '1', 'b']
  else if character = '\x07' then ['\\', 'x', '0', '7']
  else if character = '\x08' then ['\\', 'x', '0', '8']
  else if character = '\x0c' then ['\\', 'x', '0', 'c']
  else if character = '\x7f' then ['\\', 'x', '7', 'f']
  else if 0x80 ≤ character.toNat ∧ character.toNat ≤ 0x9F then
    '\\' :: 'u' :: '\x7b' :: Nat.toDigits 16 character.toNat ++ ['\x7d']
  else [character]

/-- The event as text. -/
def Event.text (event : Event) : String :=
  event.level.name ++ " " ++ event.target ++ ": " ++
    String.ofList (event.message.toList.flatMap shownCharacter)

/-- The lines that show the events. -/
def lines (events : List Event) (filter : Filter) : List String :=
  ((events.filter filter).map fun event =>
    (event.text.toList.splitOn '\n').map String.ofList).flatten

end DashboardGenerator.Log
