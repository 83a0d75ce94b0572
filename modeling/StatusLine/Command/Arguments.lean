import StatusLine.Bounds
import StatusLine.Command.Basic
import StatusLine.Text.Digits

/-!
# Arguments

Reading a command from the arguments of a run. At each level of subcommands `--debug` may stand
once; options may stand before, between and after positional arguments; after `--` every argument is
positional, and a lone `-` is so too. Any other argument that begins with a dash is refused.
-/
namespace StatusLine.Arguments

inductive Stop
  | help
  | version
  | misuse
  deriving DecidableEq, Repr

structure Grammar where
  flags : List String
  options : List String
  arity : Nat

/-- What is read so far: `pending` is an option that waits for its value, and `trailing` says that
only positional arguments follow. -/
structure State where
  flags : List String
  options : List (String × String)
  positional : List String
  pending : Option String
  trailing : Bool

def State.empty : State := ⟨[], [], [], none, false⟩

def isOption (token : String) : Bool := token.toList.head? == some '-' && token != "-"

def isHelp (token : String) : Bool := token == "-h" || token == "--help"

def splitOption (token : List Char) : String × Option String :=
  let rest := token.dropWhile (· != '=')
  (String.ofList (token.takeWhile (· != '=')),
    if rest.isEmpty then none else some (String.ofList rest.tail))

def addPositional (g : Grammar) (s : State) (token : String) : Except Stop State :=
  if s.positional.length < g.arity then .ok { s with positional := s.positional ++ [token] }
  else .error .misuse

def addOption (g : Grammar) (s : State) (token : List Char) : Except Stop State :=
  match splitOption token with
  | (name, none) =>
    if g.flags.contains name && !s.flags.contains name then .ok { s with flags := name :: s.flags }
    else if g.options.contains name && (s.options.lookup name).isNone then
      .ok { s with pending := some name }
    else .error .misuse
  | (name, some value) =>
    if g.options.contains name && (s.options.lookup name).isNone then
      .ok { s with options := (name, value) :: s.options }
    else .error .misuse

def step (g : Grammar) (s : State) (token : String) : Except Stop State :=
  if s.trailing then addPositional g s token
  else match s.pending with
    | some name =>
      if isOption token then .error .misuse
      else .ok { s with options := (name, token) :: s.options, pending := none }
    | none =>
      if token == "--" then .ok { s with trailing := true }
      else if isHelp token then .error .help
      else match token.toList with
        | '-' :: '-' :: long => addOption g s long
        | _ => if isOption token then .error .misuse else addPositional g s token

def parse (g : Grammar) (tokens : List String) : Except Stop State := do
  let s ← tokens.foldlM (step g) .empty
  if s.pending.isSome ∨ s.positional.length ≠ g.arity then .error .misuse else .ok s

/-- Looks for a subcommand: whether `--debug` stands before it, its name and its arguments. -/
def descend (debug : Bool) : List String → Except Stop (Bool × Option (String × List String))
  | [] => .ok (debug, none)
  | token :: tokens =>
    if token == "--debug" then if debug then .error .misuse else descend true tokens
    else if isHelp token then .error .help
    else if token == "--" then if tokens.isEmpty then .ok (debug, none) else .error .misuse
    else if isOption token then .error .misuse
    else .ok (debug, some (token, tokens))

def index? (token : String) : Option Nat := do
  let n ← match token.toList with
    | '+' :: ds => Digits.read? ds
    | ds => Digits.read? ds
  if n ≤ Bounds.word64Max then some n else none

def index (token : String) : Except Stop Nat :=
  match index? token with
  | some n => .ok n
  | none => .error .misuse

def availability (s : State) : Except Stop Availability :=
  match s.options.lookup "availability" with
  | none => .ok .online
  | some name =>
    match Availability.ofName? name with
    | some a => .ok a
    | none => .error .misuse

def plain (arity : Nat) (tokens : List String) : Except Stop State :=
  parse ⟨["debug"], [], arity⟩ tokens

def readTemplates (tokens : List String) : Except Stop (Bool × Command) := do
  let (debug, sub) ← descend false tokens
  match sub with
  | none => return (debug, .listTemplates)
  | some ("list", tokens) =>
    let s ← plain 0 tokens
    return (debug || s.flags.contains "debug", .listTemplates)
  | some ("add", tokens) =>
    let s ← parse ⟨["debug"], ["availability"], 2⟩ tokens
    match s.positional with
    | [label, message] =>
      return (debug || s.flags.contains "debug", .addTemplate label message (← availability s))
    | _ => .error .misuse
  | some ("remove", tokens) =>
    let s ← plain 1 tokens
    match s.positional with
    | [n] => return (debug || s.flags.contains "debug", .removeTemplate (← index n))
    | _ => .error .misuse
  | some ("help", _) => .error .help
  | some _ => .error .misuse

def readCommand (name : String) (tokens : List String) : Except Stop (Bool × Command) := do
  match name with
  | "render" | "parse" =>
    let s ← plain 1 tokens
    match s.positional with
    | [template] =>
      return (s.flags.contains "debug",
        if name == "render" then .render template else .parse template)
    | _ => .error .misuse
  | "templates" => readTemplates tokens
  | "use" =>
    let s ← plain 1 tokens
    match s.positional with
    | [n] => return (s.flags.contains "debug", .use (← index n))
    | _ => .error .misuse
  | "history" =>
    let s ← parse ⟨["debug", "clear"], [], 0⟩ tokens
    return (s.flags.contains "debug", .history (s.flags.contains "clear"))
  | "bookmarks" =>
    let s ← plain 0 tokens
    return (s.flags.contains "debug", .bookmarks)
  | "bookmark" =>
    let s ← plain 0 tokens
    return (s.flags.contains "debug", .bookmark)
  | "help" => .error .help
  | _ => .error .misuse

def read (tokens : List String) : Except Stop (Bool × Command) := do
  if tokens.head?.any fun t => t == "--version" || t == "-V" then
    .error .version
  let (debug, sub) ← descend false tokens
  match sub with
  | none => .error .misuse
  | some (name, tokens) =>
    let (inner, c) ← readCommand name tokens
    return (debug || inner, c)

example : read ["templates"] = .ok (false, .listTemplates) := rfl
example : read ["--debug", "use", "+1"] = .ok (true, .use 1) := rfl
example : read ["render", "--", "--debug"] = .ok (false, .render "--debug") := rfl
example : read ["use", "-1"] = .error .misuse := rfl

end StatusLine.Arguments
