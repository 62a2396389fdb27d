import Dashboard.Client.Exchange
import Dashboard.CommandLine
import Dashboard.Screen.Compose
import Dashboard.Session

/-!
# The program

Reads the command line and shows the dashboard on a plain terminal. The
screen is printed whenever something happened, and keys are read by the line.
There is no network here, so every request fails as one does that nobody
answers; the dashboard shows this as it shows any other failure.

## Main definitions

* `Terminal.keys` — the keys that a line of input stands for.
* `main` — the program.
-/

namespace Dashboard.Terminal

/-- The backend as it is met without a network. -/
def offline (config : Client.Config) : Backend where
  status := some (Client.fetchStatus .plain config .down).result
  settings := (Client.fetchSettings .plain config .down).result
  save urls := (Client.saveSettings .plain config .down urls).result

/-- The key that is named behind a colon. -/
def namedKey? : String → Option (Key × Modifiers)
  | ":esc" => some (.escape, .none)
  | ":tab" => some (.tab, .none)
  | ":up" => some (.up, .none)
  | ":down" => some (.down, .none)
  | ":left" => some (.left, .none)
  | ":right" => some (.right, .none)
  | ":home" => some (.home, .none)
  | ":end" => some (.endKey, .none)
  | ":backspace" => some (.backspace, .none)
  | ":ctrl+s" => some (.char 's', .onlyControl)
  | ":ctrl+u" => some (.char 'u', .onlyControl)
  | ":ctrl+c" => some (.char 'c', .onlyControl)
  | _ => none

/-- The keys that a line of input stands for: enter if it is empty, one named
key, or its characters. -/
def keys (line : String) : List (Key × Modifiers) :=
  if line = "" then [(.enter, .none)]
  else match namedKey? line with
    | some key => [key]
    | none => line.toList.map fun c => (.char c, .none)

/-- The size of the printed screen. -/
def width : Nat := 120
def height : Nat := 40

/-- Prints the screen. -/
def display (address : String) (s : Session) : IO Unit := do
  for row in (s.console.draw address width height).rows do
    IO.println row
  (← IO.getStdout).flush

/-- Does the pending jobs until none is left, prints the screen and takes the
next line of keys, until the dashboard is left or the input ends. -/
partial def run (config : Client.Config) (s : Session) : IO Unit := do
  let now ← IO.monoNanosNow
  let s := { s with now := now, console := s.console.prune now }
  if s.console.quitting then return
  unless s.pending.isEmpty do
    return ← run config (s.dispatch (offline config)).state
  display config.baseUrl s
  let line ← (← IO.getStdin).getLine
  if line.isEmpty then return
  let text := String.ofList (line.toList.filter fun c => c != '\n' && c != '\r')
  run config (s.handleAll ((keys text).map fun (key, modifiers) => .key key modifiers)).state

/-- Shows the dashboard that a command line asks for. -/
def start (line : CommandLine) : IO Unit := do
  let config := Client.Config.resolve line.baseUrl line.apiKey
  let console := Console.new ⟨line.monthlyBudget, line.currentUsage⟩ config.hasKey
  let session := { Session.new console with now := ← IO.monoNanosNow }
  run config session.start.state

end Dashboard.Terminal

open Dashboard in
/-- The program. Help and version go to the output; a problem with the
arguments goes to the error output and ends with the status 2. -/
def main (arguments : List String) : IO UInt32 := do
  let env : CommandLine.Environment :=
    ⟨← IO.getEnv "SPLANTS_API_BASE_URL", ← IO.getEnv "SPLANTS_API_KEY"⟩
  match CommandLine.parse env arguments with
  | .ok line => do
    Terminal.start line
    return 0
  | .error refusal =>
    match refusal with
    | .shown _ => do
      IO.print (refusal.describe env)
      return 0
    | _ => do
      IO.eprintln (refusal.describe env)
      return 2
