import Paraegox.Cli.Command
import Paraegox.Lib.Dialogue
import Paraegox.Node.Composition
import Paraegox.Text.JsonValue

/-!
# The process of a Node

`main.rs` past its parser: what `paraegox node run` and `paraegox node probe` do between the
command line and the exit code.  A process asks the operating system for its environment and
its streams, and Fabric for the status of another Node; the owners of its own Node are called
by the host.
-/

namespace Paraegox

open Cli (AgentProvider Command DeckSelection parseCommand)
open Fabric (FabricError)
open Paraegox.Runtime (Console Hosted LifecycleAction LifecycleFailure LifecycleOwner RuntimeHost
  RuntimeHostError RuntimeHostIdentity RuntimeHostSnapshot RuntimeHostState)

/-! ## Errors as they are displayed -/

/-- `Debug` of a `Duration`: its unit is the largest that it reaches. -/
def durationText (nanos : Nat) : String :=
  let decimal (integer fraction width : Nat) (unit : String) :=
    let digits := (Nat.toDigits 10 fraction).reverse
    let padded := (digits ++ List.replicate (width - digits.length) '0').reverse
    let trimmed := (padded.reverse.dropWhile fun c => c = '0').reverse
    toString integer ++ (if trimmed = [] then "" else "." ++ String.ofList trimmed) ++ unit
  if 1000000000 ≤ nanos then decimal (nanos / 1000000000) (nanos % 1000000000) 9 "s"
  else if 1000000 ≤ nanos then decimal (nanos / 1000000) (nanos % 1000000) 6 "ms"
  else if 1000 ≤ nanos then decimal (nanos / 1000) (nanos % 1000) 3 "µs"
  else toString nanos ++ "ns"

example : durationText Runtime.OWNER_LIFECYCLE_TIMEOUT = "10s" := by decide +kernel

namespace Runtime

/-- The text of an owner. -/
def LifecycleOwner.message : LifecycleOwner → String
  | .coreService index => s!"CoreService[{index}]"
  | .card key => "Card[" ++ key.value ++ "]"

/-- The text of an action. -/
def LifecycleAction.message : LifecycleAction → String
  | .start => "start"
  | .stop => "stop"

/-- The text of a failure. -/
def LifecycleFailure.message (failure : LifecycleFailure) : String :=
  match failure.kind with
  | .timedOut deadline => failure.owner.message ++ " " ++ failure.action.message ++
      " exceeded the RuntimeHost deadline of " ++ durationText deadline
  | .owner source => failure.owner.message ++ " " ++ failure.action.message ++ " failed: " ++
      source.message

/-- The text of a state. -/
def RuntimeHostState.message : RuntimeHostState → String
  | .created => "created"
  | .starting => "starting"
  | .ready => "ready"
  | .stopping => "stopping"
  | .stopped => "stopped"
  | .failed => "failed"

/-- The text of an error. -/
def RuntimeHostError.message : RuntimeHostError → String
  | .invalidTransition action actual =>
      "cannot " ++ action ++ " RuntimeHost while it is " ++ actual.message
  | .startFailed failure cleanupFailures =>
      if cleanupFailures.isEmpty then "RuntimeHost start failed: " ++ failure.message
      else "RuntimeHost start failed: " ++ failure.message ++
        s!"; {cleanupFailures.length} cleanup failure(s)"
  | .stopFailed failures => s!"RuntimeHost stop had {failures.length} lifecycle failure(s)"

end Runtime

/-! ## The process -/

namespace Process

inductive Question where
  /-- `env::var("DEEPSEEK_API_KEY")`. -/
  | apiKey
  /-- The HTTP client is built. -/
  | client
  | println (line : List UInt8)
  | eprintln (line : String)
  /-- `io::stdout().flush()`. -/
  | flush
  /-- `query_one` on the session of the Node, with a deadline in milliseconds. -/
  | query (key : String) (deadline : Nat)
  /-- `query_one` on a session of its own. -/
  | queryAt (connectEndpoint key : String) (deadline : Nat)
  /-- `tokio::signal::ctrl_c()`. -/
  | ctrlC
deriving DecidableEq

def Question.Answer : Question → Type
  | .apiKey => Option String
  | .client => Except String Unit
  | .println _ => Except String Unit
  | .eprintln _ => Except String Unit
  | .flush => Except String Unit
  | .query _ _ => Except FabricError (List UInt8)
  | .queryAt _ _ _ => Except FabricError (List UInt8)
  | .ctrlC => Except String Unit

end Process

open Process (Question)

/-- A block of the process; an error is known by its text. -/
abbrev Process (α : Type) := ExceptT (Fault String) (Dialogue Question Question.Answer) α

namespace Process

abbrev Asked := Exchange Question Question.Answer

/-- Ask for something that may fail. -/
def request (q : Question) : Process q.Answer := liftM (Dialogue.request q : Dialogue _ _ q.Answer)

/-- `?` on a result whose error is known by its text. -/
def propagate {α ε : Type} (message : ε → String) : Except ε α → Process α
  | .ok a => pure a
  | .error error => throw (.error (message error))

/-- `println!`, which panics where the line cannot be written. -/
def println (line : List UInt8) : Process Unit := do
  let written : Except String Unit ← request (.println line)
  match written with
  | .ok () => pure ()
  | .error error => throw (.panic ("failed printing to stdout: " ++ error))

/-- `println!` and `io::stdout().flush()?`. -/
def report (line : List UInt8) : Process Unit := do
  println line
  let flushed : Except String Unit ← request .flush
  propagate id flushed

/-! ## `paraegox node run` -/

/-- `validate_api_key`. -/
def validateApiKey (apiKey : String) : Except String Unit :=
  if (trim apiKey.toList).isEmpty then .error "DEEPSEEK_API_KEY must not be empty"
  else if 4 * 1024 < apiKey.utf8ByteSize ∨ ¬ (apiKey.toList.all fun c => c.toNat < 128) ∨
      apiKey.toList.any isControl then .error "DEEPSEEK_API_KEY is invalid"
  else .ok ()

/-- `DeepSeekV4FlashConfig::from_env`. -/
def configFromEnv : Process Unit := do
  let apiKey : Option String ← request .apiKey
  match apiKey with
  | none => throw (.error "DEEPSEEK_API_KEY is not set")
  | some apiKey => propagate id (validateApiKey apiKey)

/-- How the JSON of serde_json is read, with its words for what it does not take. -/
structure Reader where
  fromSlice : List UInt8 → Option Json
  reason : List UInt8 → String

section

variable (platform : Node.Platform) (owners : Node.Owners) (reader : Reader)

/-- The part of `run_node` before the Node is started. -/
def construct (nodeId : NodeId) (listenEndpoint : String) (connectEndpoint : Option String)
    (deck : Option DeckSelection) (provider : AgentProvider) : Process Node := do
  if deck = some .builtinAgent ∧ provider = .deepSeekV4Flash then configFromEnv
  let identity : Node.NodeIdentity := ⟨nodeId, platform.incarnation⟩
  match RuntimeHostId.new (Node.runtimeHostName nodeId) with
  | none => throw (.error "runtime host id must be 1-128 bytes without control characters")
  | some runtimeHostId =>
      let runtimeIdentity : RuntimeHostIdentity := ⟨runtimeHostId, platform.epoch⟩
      match deck, provider with
      | some .builtinAgent, .deterministic =>
          propagate Node.NodeBuildError.message
            (Node.newWithBuiltinAgent platform owners identity runtimeIdentity listenEndpoint
              connectEndpoint)
      | some .builtinAgent, .deepSeekV4Flash => do
          let client : Except String Unit ← request .client
          propagate Node.NodeBuildError.message
            (Node.newWithDeepseekV4FlashAgent platform owners identity runtimeIdentity
              listenEndpoint connectEndpoint client)
      | none, _ =>
          propagate Node.NodeBuildError.message
            (Node.new platform owners identity runtimeIdentity listenEndpoint connectEndpoint)

/-- `Node::probe_peer`. -/
def probePeer (node : Node) (target : NodeId) (deadline : Nat) :
    Process Node.NodeRuntimeStatus := do
  if target = node.identity.nodeId then throw (.error "a Node cannot probe itself as a peer")
  else
    let answer : Except FabricError (List UInt8) ←
      request (.query (Node.runtimeStatusKey target) deadline)
    let payload ← propagate FabricError.message answer
    propagate Node.NodeStatusError.message
      (Node.decodeRuntimeStatus reader.fromSlice reader.reason target payload)

/-- `serde_json::json!` of the status of a peer. -/
def peerReport (status : Node.NodeRuntimeStatus) : Json :=
  (Json.obj [("peer", status.toJson)]).toValue

/-- The block of `run_node` that runs while the Node does. -/
def running (node : Node) (snapshot : RuntimeHostSnapshot) (peer : Option NodeId)
    (timeout : Nat) : Process Unit := do
  let status ← propagate Node.NodeStatusError.message
    (Node.NodeRuntimeStatus.ready node.identity snapshot)
  report status.toJson.encode
  match peer with
  | none => pure ()
  | some target => do
      let status ← probePeer reader node target timeout
      report (peerReport status).encode
  let interrupted : Except String Unit ← request .ctrlC
  propagate id interrupted

/-- A call of the host, with the text of its error. -/
def called (call : Hosted Unit) (console : Console) : Except (Fault String) Unit × Console :=
  match EStateM.run call console with
  | .ok () console' => (.ok (), console')
  | .error (.error error) console' => (.error (.error error.message), console')
  | .error (.panic message) console' => (.error (.panic message), console')

/-- The result of `run_node`, from those of the running Node and of its stop. -/
def settle (running : Except String Unit) (stop : Except (Fault String) Unit) :
    Except (Fault String) Unit :=
  match running, stop with
  | .ok (), .ok () => .ok ()
  | .error running, .ok () => .error (.error running)
  | .error running, .error (.error stop) =>
      .error (.error (running ++ "; stopping the local Node also failed: " ++ stop))
  | .ok (), .error stop => .error stop
  | .error _, .error (.panic message) => .error (.panic message)

/-- How `run_node` ends, with the Node and its console where one was built. -/
structure Ended where
  result : Except (Fault String) Unit
  node : Option (Node × Console)

/-- `run_node`. -/
def runNode (nodeId : NodeId) (listenEndpoint : String) (connectEndpoint : Option String)
    (peer : Option NodeId) (timeout : Nat) (deck : Option DeckSelection)
    (provider : AgentProvider) : Dialogue Question Question.Answer Ended := do
  match ← (construct platform owners nodeId listenEndpoint connectEndpoint deck provider).run with
  | .error fault => return ⟨.error fault, none⟩
  | .ok node =>
      match called node.runtime.start node.console with
      | (.error fault, console) => return ⟨.error fault, some (node, console)⟩
      | (.ok (), console) =>
          match ← (running reader node console.snapshot peer timeout).run with
          -- a panic unwinds past the stop
          | .error (.panic message) => return ⟨.error (.panic message), some (node, console)⟩
          | .error (.error error) =>
              let (stopResult, console) := called node.runtime.stop console
              return ⟨settle (.error error) stopResult, some (node, console)⟩
          | .ok () =>
              let (stopResult, console) := called node.runtime.stop console
              return ⟨settle (.ok ()) stopResult, some (node, console)⟩

/-! ## The command line -/

/-- `run_probe`. -/
def runProbe (target : NodeId) (connectEndpoint : String) (timeout : Nat) : Process Unit := do
  let answer : Except FabricError (List UInt8) ←
    request (.queryAt connectEndpoint (Node.runtimeStatusKey target) timeout)
  let payload ← propagate FabricError.message answer
  let status ← propagate Node.NodeStatusError.message
    (Node.decodeRuntimeStatus reader.fromSlice reader.reason target payload)
  println status.toJson.encode

end

def HELP : String := "Paraegox — distributed embodied-intelligence Agent OS

Usage:
  paraegox --help
  paraegox --version
  paraegox node run --node-id <id> [--deck builtin-agent] " ++
  "[--provider deterministic|deepseek-v4-flash] [--listen <loopback-tcp-endpoint>] " ++
  "[--connect <loopback-tcp-endpoint> --probe-peer <id> [--timeout-ms <ms>]]
  paraegox node probe --target <id> [--connect <loopback-tcp-endpoint>] [--timeout-ms <ms>]
  paraegox tui --target <id> [--connect <loopback-tcp-endpoint>] [--timeout-ms <ms>]

Current capability:
  Two addressable Nodes can run on same-host loopback. " ++
  "A Node can also run the built-in Agent Deck for an independent terminal conversation.

Defaults:
  --listen / --connect  tcp/127.0.0.1:7447
  node probe timeout    2000 ms
  TUI turn timeout      30000 ms
  --provider            deterministic (with --deck builtin-agent)"

def VERSION : String := "paraegox 0.1.0"

/-- The exit code of a process that panicked. -/
def PANICKED : Nat := 101

/-- `eprintln!`, before the process exits with this code. -/
def exitWith (code : Nat) (line : String) : Dialogue Question Question.Answer Nat := do
  let written : Except String Unit ← Dialogue.request (Question.eprintln line)
  match written with
  | .ok () => return code
  | .error _ => return PANICKED

/-- `finish`, also of a block that panicked. -/
def finish : Except (Fault String) Unit → Dialogue Question Question.Answer Nat
  | .ok () => return 0
  | .error (.error error) => exitWith 1 ("error: " ++ error)
  | .error (.panic _) => return PANICKED

/-- The exit code of a process, with the Node it ran. -/
structure Exit where
  code : Nat
  node : Option (Node × Console)

/-- `main`; the terminal clients are arguments. -/
def main (platform : Node.Platform) (owners : Node.Owners) (reader : Reader)
    (tui : NodeId → String → Nat → Bool → Process Unit) (arguments : List String) :
    Dialogue Question Question.Answer Exit := do
  match parseCommand arguments with
  | .ok .help => return ⟨← finish (← (println (utf8 HELP)).run), none⟩
  | .ok .version => return ⟨← finish (← (println (utf8 VERSION)).run), none⟩
  | .ok (.run nodeId listenEndpoint connectEndpoint peer timeout deck provider) =>
      let ended ← runNode platform owners reader nodeId listenEndpoint connectEndpoint peer timeout
        deck provider
      return ⟨← finish ended.result, ended.node⟩
  | .ok (.probe target connectEndpoint timeout) =>
      return ⟨← finish (← (runProbe reader target connectEndpoint timeout).run), none⟩
  | .ok (.tui target connectEndpoint timeout stdioJsonl) =>
      return ⟨← finish (← (tui target connectEndpoint timeout stdioJsonl).run), none⟩
  | .error error => return ⟨← exitWith 2 ("error: " ++ error ++ "\n\n" ++ HELP), none⟩

end Process

end Paraegox
