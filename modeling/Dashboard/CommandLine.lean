import Dashboard.Amount

/-!
# The command line

Six flags with a value each, and two switches that show a text. Arguments
are read from left to right and the first problem decides. Two of the values
may come from the environment instead; a flag beats it.

## When a value is read

A value behind an equals sign is read where it stands. One that follows its flag
as the next argument is read once something comes that could not belong to it,
so an argument that nobody knows is reported before such a value.

## What counts as a value

A value follows its flag behind an equals sign or as the next argument. The
next argument is not a value if it begins with a dash, unless it is a dash
and nothing else. Behind an equals sign everything is a value.

## Main definitions

* `CommandLine` — what the arguments say.
* `CommandLine.Flag`, `CommandLine.Token` — the arguments one by one.
* `CommandLine.parse` — all of them, or the first problem.
* `CommandLine.Refusal.describe` — the text of a problem, or the help.
-/

namespace Dashboard

/-- What the arguments and the environment say. -/
structure CommandLine where
  baseUrl : Option String
  apiKey : Option String
  timeoutSecs : Nat
  monthlyBudget : Binary64
  currentUsage : Binary64
  logFile : String
  deriving DecidableEq

namespace CommandLine

/-- The two values that the environment may hold. -/
structure Environment where
  baseUrl : Option String
  apiKey : Option String

/-! ## Flags and switches -/

/-- The flags, each of which takes a value. -/
inductive Flag where
  | baseUrl
  | apiKey
  | timeoutSecs
  | monthlyBudget
  | currentUsage
  | logFile
  deriving DecidableEq

/-- The switches, which show a text. -/
inductive Switch where
  | help
  | version
  deriving DecidableEq

/-- All flags, in the order in which the help lists them. -/
def Flag.all : List Flag :=
  [.baseUrl, .apiKey, .timeoutSecs, .monthlyBudget, .currentUsage, .logFile]

/-- The name of a flag, behind two dashes. -/
def Flag.name : Flag → String
  | .baseUrl => "base-url"
  | .apiKey => "api-key"
  | .timeoutSecs => "timeout-secs"
  | .monthlyBudget => "monthly-budget"
  | .currentUsage => "current-usage"
  | .logFile => "log-file"

/-- What stands for the value of a flag in texts. -/
def Flag.placeholder (f : Flag) : String :=
  String.ofList (f.name.toList.map fun c => if c = '-' then '_' else c.toUpper)

/-- A flag with its value, as texts show it. -/
def Flag.usage (f : Flag) : String := "--" ++ f.name ++ " <" ++ f.placeholder ++ ">"

/-- The name of a switch, behind two dashes. -/
def Switch.name : Switch → String
  | .help => "help"
  | .version => "version"

/-- The letter of a switch, behind one dash. -/
def Switch.letter : Switch → Char
  | .help => 'h'
  | .version => 'V'

/-- All switches. -/
def Switch.all : List Switch := [.help, .version]

/-! ## Problems -/

/-- What ends the reading of the arguments: a problem, or a switch. -/
inductive Refusal where
  | valueMissing (flag : Flag)
  | unknownArgument (argument : String)
  | repeatedFlag (flag : Flag)
  | invalidValue (flag : Flag) (value reason : String)
  /-- A switch was given a value. -/
  | valueUnwanted (switch : Switch) (value : String)
  | shown (switch : Switch)
  deriving DecidableEq

/-- What the version switch shows. -/
def versionText : String := "splants-settings 0.1.0\n"

/-- What the help switch shows. The base URL of the environment is shown in
it, the key never. -/
def helpText (env : Environment) : String :=
  let flag (f : Flag) (description : String) : List String :=
    ["      " ++ f.usage, "          " ++ description]
  let lines :=
    ["SPLANTS settings - budget, feature status and webhook configuration",
     "",
     "Usage: splants-settings [OPTIONS]",
     "",
     "Options:"] ++
    flag .baseUrl
      ("Backend API base URL [env: SPLANTS_API_BASE_URL=" ++ env.baseUrl.getD "" ++ "]") ++
    flag .apiKey "API key sent as X-API-Key [env: SPLANTS_API_KEY]" ++
    flag .timeoutSecs "Request timeout in seconds [default: 15]" ++
    flag .monthlyBudget "Monthly budget in dollars [default: 80]" ++
    flag .currentUsage "Spend so far this month in dollars [default: 42]" ++
    flag .logFile
      "Log file (the terminal is taken by the UI) [default: splants-settings.log]" ++
    ["  -h, --help",
     "          Print help",
     "  -V, --version",
     "          Print version"]
  "\n".intercalate lines ++ "\n"

/-- The text of a problem, in one line, or the text that a switch shows. -/
def Refusal.describe (env : Environment) : Refusal → String
  | .valueMissing flag =>
    "error: a value is required for '" ++ flag.usage ++ "' but none was supplied"
  | .unknownArgument argument => "error: unexpected argument '" ++ argument ++ "' found"
  | .repeatedFlag flag =>
    "error: the argument '" ++ flag.usage ++ "' cannot be used multiple times"
  | .invalidValue flag value reason =>
    "error: invalid value '" ++ value ++ "' for '" ++ flag.usage ++ "': " ++ reason
  | .valueUnwanted switch value =>
    "error: unexpected value '" ++ value ++ "' for '--" ++ switch.name ++
      "' found; no more were expected"
  | .shown .help => helpText env
  | .shown .version => versionText

/-! ## Values -/

/-- Why a text is not a number of seconds. -/
inductive SecondsFault where
  | empty
  | notADigit
  | tooLarge
  deriving DecidableEq

/-- The wording of such a fault. -/
def SecondsFault.describe : SecondsFault → String
  | .empty => "cannot parse integer from empty string"
  | .notADigit => "invalid digit found in string"
  | .tooLarge => "number too large to fit in target type"

/-- The digits behind those of `n`, from left to right, as a number of 64
bits. -/
def secondsFrom (n : Nat) : List Char → Except SecondsFault Nat
  | [] => .ok n
  | c :: cs =>
    if !c.isDigit then .error .notADigit
    else
      let m := 10 * n + (c.toNat - '0'.toNat)
      if m < Nat.pow 2 64 then secondsFrom m cs else .error .tooLarge

/-- A number of seconds: digits, in front of which a plus sign may stand. -/
def seconds (text : String) : Except SecondsFault Nat :=
  match text.toList with
  | [] => .error .empty
  | ['+'] => .error .notADigit
  | '+' :: digits => secondsFrom 0 digits
  | digits => secondsFrom 0 digits

/-- The values that were given so far. -/
structure Given where
  baseUrl : Option String
  apiKey : Option String
  timeoutSecs : Option Nat
  monthlyBudget : Option Binary64
  currentUsage : Option Binary64
  logFile : Option String
  deriving DecidableEq

/-- Nothing was given. -/
def Given.empty : Given := ⟨none, none, none, none, none, none⟩

/-- Whether the value of a flag was given. -/
def Given.has (g : Given) : Flag → Bool
  | .baseUrl => g.baseUrl.isSome
  | .apiKey => g.apiKey.isSome
  | .timeoutSecs => g.timeoutSecs.isSome
  | .monthlyBudget => g.monthlyBudget.isSome
  | .currentUsage => g.currentUsage.isSome
  | .logFile => g.logFile.isSome

/-- An amount as the value of a flag. -/
def amount (flag : Flag) (value : String) : Except Refusal Binary64 :=
  match Amount.read value with
  | .ok x => .ok x
  | .error refusal => .error (.invalidValue flag value refusal.describe)

/-- Takes the value of a flag, whether or not one was given before. -/
def Given.set (g : Given) (flag : Flag) (value : String) : Except Refusal Given :=
  match flag with
  | .baseUrl => .ok { g with baseUrl := some value }
  | .apiKey => .ok { g with apiKey := some value }
  | .timeoutSecs =>
    match seconds value with
    | .ok n => .ok { g with timeoutSecs := some n }
    | .error fault => .error (.invalidValue flag value fault.describe)
  | .monthlyBudget => (amount flag value).map fun x => { g with monthlyBudget := some x }
  | .currentUsage => (amount flag value).map fun x => { g with currentUsage := some x }
  | .logFile =>
    if value = "" then .error (.valueMissing flag) else .ok { g with logFile := some value }

/-- Takes the value of a flag that was not given before. -/
def Given.put (g : Given) (flag : Flag) (value : String) : Except Refusal Given :=
  if g.has flag then .error (.repeatedFlag flag) else g.set flag value

/-- What was given, filled up from the environment and with the defaults. -/
def Given.complete (g : Given) (env : Environment) : CommandLine where
  baseUrl := g.baseUrl.or env.baseUrl
  apiKey := g.apiKey.or env.apiKey
  timeoutSecs := g.timeoutSecs.getD 15
  monthlyBudget := g.monthlyBudget.getD 80
  currentUsage := g.currentUsage.getD 42
  logFile := g.logFile.getD "splants-settings.log"

/-! ## Arguments -/

/-- What an argument is, taken by itself. -/
inductive Token where
  /-- Two dashes and nothing else: no flag comes after them. -/
  | endOfFlags
  | flag (flag : Flag) (value : Option String)
  | switch (switch : Switch) (value : Option String)
  /-- The name of a flag or switch that there is not. -/
  | unknown (name : String)
  /-- Anything else. -/
  | plain (text : String)
  deriving DecidableEq

/-- Splits a text at its first equals sign. -/
def splitEquals (cs : List Char) : String × Option String :=
  (String.ofList (cs.takeWhile (· != '=')),
    match cs.dropWhile (· != '=') with
    | [] => none
    | _ :: value => some (String.ofList value))

/-- What two dashes and a text behind them are. -/
def longToken (cs : List Char) : Token :=
  let (name, value) := splitEquals cs
  match Flag.all.find? (·.name == name), Switch.all.find? (·.name == name) with
  | some flag, _ => .flag flag value
  | none, some switch => .switch switch value
  | none, none => .unknown ("--" ++ name)

/-- What an argument is. Letters behind one dash are switches, of which the
first decides. -/
def Token.of (argument : String) : Token :=
  match argument.toList with
  | ['-', '-'] => .endOfFlags
  | '-' :: '-' :: rest => longToken rest
  | '-' :: letter :: _ =>
    match Switch.all.find? (·.letter == letter) with
    | some s => .switch s none
    | none => .unknown (String.ofList ['-', letter])
  | _ => .plain argument

/-- A flag that came without an equals sign, and its value once that has come
too. -/
structure Pending where
  flag : Flag
  value : Option String
  deriving DecidableEq

/-- Takes the value of a pending flag. -/
def Given.settle (g : Given) : Option Pending → Except Refusal Given
  | none => .ok g
  | some ⟨flag, none⟩ => .error (.valueMissing flag)
  | some ⟨flag, some value⟩ => g.put flag value

/-- Reads the arguments that are left. A pending flag is settled by the next flag,
by a switch and by the end; an argument that is a problem in itself goes first. -/
def scan (given : Given) (pending : Option Pending) : List String → Except Refusal Given
  | [] => given.settle pending
  | argument :: rest =>
    match Token.of argument, rest with
    | .endOfFlags, [] => given.settle pending
    | .endOfFlags, next :: _ => .error (.unknownArgument next)
    | .unknown name, _ => .error (.unknownArgument name)
    | .switch s (some value), _ => .error (.valueUnwanted s value)
    | .switch s none, _ => do
      let _ ← given.settle pending
      .error (.shown s)
    | .flag f (some value), rest => do
      let given ← given.settle pending
      let given ← given.put f value
      scan given none rest
    | .flag f none, rest => do
      let given ← given.settle pending
      scan given (some ⟨f, none⟩) rest
    | .plain text, rest =>
      match pending with
      | some ⟨flag, none⟩ => scan given (some ⟨flag, some text⟩) rest
      | _ => .error (.unknownArgument text)

/-- What the arguments and the environment say, or the first problem. -/
def parse (env : Environment) (arguments : List String) : Except Refusal CommandLine :=
  (scan Given.empty none arguments).map (·.complete env)

end CommandLine

end Dashboard
