import Paraegox.Kernel.Identity

/-!
# The command line

The parsers of `main.rs`.  Each reads its options into a record of its own, where an option
that was given is told from a default, and builds the command when the arguments are read.
-/

namespace Paraegox.Cli

def DEFAULT_ENDPOINT : String := "tcp/127.0.0.1:7447"
def DEFAULT_PROBE_TIMEOUT_MS : Nat := 2000
def DEFAULT_TUI_TIMEOUT_MS : Nat := 30000

inductive DeckSelection where
  | builtinAgent
deriving DecidableEq

inductive AgentProvider where
  | deterministic
  | deepSeekV4Flash
deriving DecidableEq

/-- `Command`; a timeout is in milliseconds. -/
inductive Command where
  | help
  | version
  | run (nodeId : NodeId) (listenEndpoint : String) (connectEndpoint : Option String)
      (peer : Option NodeId) (timeout : Nat) (deck : Option DeckSelection)
      (provider : AgentProvider)
  | probe (target : NodeId) (connectEndpoint : String) (timeout : Nat)
  | tui (target : NodeId) (connectEndpoint : String) (timeout : Nat) (stdioJsonl : Bool)
deriving DecidableEq

/-! ## Values -/

/-- `str::parse::<u64>`: decimal digits, after a plus sign perhaps. -/
def parseU64 (value : String) : Option Nat :=
  let digits :=
    match value.toList with
    | '+' :: digits => digits
    | digits => digits
  if digits = [] ∨ ¬ digits.all Char.isDigit then none
  else
    let number := digits.foldl (fun number digit => 10 * number + (digit.toNat - '0'.toNat)) 0
    if number < 2 ^ 64 then some number else none

/-- `NodeId::from_str`, with the text of its error. -/
def parseNodeId (value : String) : Except String NodeId :=
  match NodeId.fromStr value with
  | some nodeId => .ok nodeId
  | none => .error ("node id must be 1-64 ASCII bytes, start with a letter or digit, " ++
      "and contain only letters, digits, '-' or '_'")

def parseTimeoutMs (value : String) : Except String Nat :=
  match parseU64 value with
  | none => .error "--timeout-ms must be an integer"
  | some timeoutMs =>
      if 100 ≤ timeoutMs ∧ timeoutMs ≤ 60000 then .ok timeoutMs
      else .error "--timeout-ms must be between 100 and 60000"

/-- The value of `--deck`. -/
def parseDeck (value : String) : Except String DeckSelection :=
  if value = "builtin-agent" then .ok .builtinAgent
  else .error ("unknown Deck `" ++ value ++ "`; expected `builtin-agent`")

/-- The value of `--provider`. -/
def parseProvider (value : String) : Except String AgentProvider :=
  if value = "deterministic" then .ok .deterministic
  else if value = "deepseek-v4-flash" then .ok .deepSeekV4Flash
  else
    .error ("unknown Agent provider `" ++ value ++
      "`; expected `deterministic` or `deepseek-v4-flash`")

/-! ## Reading arguments -/

/-- The loop of a parser that knows only pairs, over the arguments from the index on. -/
def readPairs {σ : Type} (read : σ → String → String → Except String σ) :
    σ → List String → Except String σ
  | options, [] => .ok options
  | _, [name] => .error ("option `" ++ name ++ "` requires a value")
  | options, name :: value :: arguments => do
      readPairs read (← read options name value) arguments

/-! ## `node run` -/

def RUN_OPTIONS : List String :=
  ["--node-id", "--listen", "--connect", "--probe-peer", "--timeout-ms", "--deck", "--provider"]

structure RunOptions where
  nodeId : Option NodeId := none
  listenEndpoint : String := DEFAULT_ENDPOINT
  listenWasSet : Bool := false
  connectEndpoint : Option String := none
  peer : Option NodeId := none
  timeoutMs : Nat := DEFAULT_PROBE_TIMEOUT_MS
  timeoutWasSet : Bool := false
  deck : Option DeckSelection := none
  provider : AgentProvider := .deterministic
  providerWasSet : Bool := false
deriving DecidableEq

/-- One round of the loop of `parse_run`. -/
def RunOptions.read (options : RunOptions) (name value : String) : Except String RunOptions :=
  if name = "--node-id" ∧ options.nodeId.isNone then do
    return { options with nodeId := some (← parseNodeId value) }
  else if name = "--listen" ∧ ¬ options.listenWasSet then
    return { options with listenEndpoint := value, listenWasSet := true }
  else if name = "--connect" ∧ options.connectEndpoint.isNone then
    return { options with connectEndpoint := some value }
  else if name = "--probe-peer" ∧ options.peer.isNone then do
    return { options with peer := some (← parseNodeId value) }
  else if name = "--timeout-ms" ∧ ¬ options.timeoutWasSet then do
    return { options with timeoutMs := ← parseTimeoutMs value, timeoutWasSet := true }
  else if name = "--deck" ∧ options.deck.isNone then do
    return { options with deck := some (← parseDeck value) }
  else if name = "--provider" ∧ ¬ options.providerWasSet then do
    return { options with provider := ← parseProvider value, providerWasSet := true }
  else if name ∈ RUN_OPTIONS then .error ("duplicate option `" ++ name ++ "`")
  else .error ("unknown node run option `" ++ name ++ "`")

/-- The checks of `parse_run` after its loop. -/
def RunOptions.command (options : RunOptions) : Except String Command :=
  match options.nodeId with
  | none => .error "node run requires --node-id <id>"
  | some nodeId =>
      if options.providerWasSet ∧ options.deck.isNone then
        .error "node run --provider requires --deck builtin-agent"
      else
        let run : Except String Command :=
          if options.peer = some nodeId then
            .error "node run --probe-peer must name a different Node"
          else
            .ok (.run nodeId options.listenEndpoint options.connectEndpoint options.peer
              options.timeoutMs options.deck options.provider)
        match options.connectEndpoint, options.peer with
        | some _, some _ => run
        | none, none =>
            if ¬ options.timeoutWasSet then run
            else .error "node run --timeout-ms requires --connect and --probe-peer"
        | _, _ => .error "node run --connect and --probe-peer must be used together"

def parseRun (arguments : List String) : Except String Command := do
  let options ← readPairs RunOptions.read {} arguments
  options.command

/-! ## `node probe` and `tui` -/

def TARGET_OPTIONS : List String := ["--target", "--connect", "--timeout-ms"]

/-- The options that `parse_probe` and `parse_tui` share. -/
structure TargetOptions where
  target : Option NodeId := none
  connectEndpoint : String := DEFAULT_ENDPOINT
  timeoutMs : Nat
  connectWasSet : Bool := false
  timeoutWasSet : Bool := false
deriving DecidableEq

/-- One round of their loops on a pair, where `scope` names the command in an error. -/
def TargetOptions.read (scope : String) (options : TargetOptions) (name value : String) :
    Except String TargetOptions :=
  if name = "--target" ∧ options.target.isNone then do
    return { options with target := some (← parseNodeId value) }
  else if name = "--connect" ∧ ¬ options.connectWasSet then
    return { options with connectEndpoint := value, connectWasSet := true }
  else if name = "--timeout-ms" ∧ ¬ options.timeoutWasSet then do
    return { options with timeoutMs := ← parseTimeoutMs value, timeoutWasSet := true }
  else if name ∈ TARGET_OPTIONS then .error ("duplicate option `" ++ name ++ "`")
  else .error ("unknown " ++ scope ++ " option `" ++ name ++ "`")

/-- The end of `parse_probe`. -/
def TargetOptions.probe (options : TargetOptions) : Except String Command :=
  match options.target with
  | none => .error "node probe requires --target <id>"
  | some target => .ok (.probe target options.connectEndpoint options.timeoutMs)

def parseProbe (arguments : List String) : Except String Command := do
  let options ←
    readPairs (TargetOptions.read "node probe") { timeoutMs := DEFAULT_PROBE_TIMEOUT_MS } arguments
  options.probe

structure TuiOptions extends TargetOptions where
  stdioJsonl : Bool := false
deriving DecidableEq

/-- The loop of `parse_tui`, which takes its flag before it looks for a pair. -/
def TuiOptions.readAll : TuiOptions → List String → Except String TuiOptions
  | options, [] => .ok options
  | options, name :: arguments =>
      if name = "--stdio-jsonl" then
        if options.stdioJsonl then .error "duplicate option `--stdio-jsonl`"
        else readAll { options with stdioJsonl := true } arguments
      else
        match arguments with
        | [] => .error ("option `" ++ name ++ "` requires a value")
        | value :: arguments => do
            let target ← options.toTargetOptions.read "tui" name value
            readAll { options with toTargetOptions := target } arguments

/-- The end of `parse_tui`. -/
def TuiOptions.tui (options : TuiOptions) : Except String Command :=
  match options.target with
  | none => .error "tui requires --target <id>"
  | some target =>
      .ok (.tui target options.connectEndpoint options.timeoutMs options.stdioJsonl)

def parseTui (arguments : List String) : Except String Command := do
  let options ← TuiOptions.readAll { timeoutMs := DEFAULT_TUI_TIMEOUT_MS } arguments
  options.tui

/-! ## The command -/

def parseCommand : List String → Except String Command
  | [] => .ok .help
  | argument :: arguments =>
      if arguments = [] ∧ argument ∈ ["--help", "-h"] then .ok .help
      else if arguments = [] ∧ argument ∈ ["--version", "-V"] then .ok .version
      else if argument = "node" ∧ arguments.head? = some "run" then parseRun arguments.tail
      else if argument = "node" ∧ arguments.head? = some "probe" then parseProbe arguments.tail
      else if argument = "tui" then parseTui arguments
      else .error ("unknown argument or command `" ++ argument ++ "`")

example : parseCommand ["tui", "--target", "node-a", "--stdio-jsonl"] =
    .ok (.tui ⟨"node-a", by decide⟩ "tcp/127.0.0.1:7447" 30000 true) := by decide +kernel

end Paraegox.Cli
