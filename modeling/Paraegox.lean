import Paraegox.Agent.DeepSeek
import Paraegox.Agent.Context
import Paraegox.Agent.Isolation
import Paraegox.Agent.Refusals
import Paraegox.Runtime.Lifecycle
import Paraegox.Agent.Safety
import Paraegox.Agent.Shutdown
import Paraegox.Deck.Compiler
import Paraegox.Fabric.Answers
import Paraegox.Node.Readiness
import Paraegox.Stdio.Outcomes
import Paraegox.Stdio.Input
import Paraegox.Textual.Crossing
import Paraegox.Textual.Orderly
import Paraegox.Wire.Agreement
import Paraegox.Wire.Delivery
import Paraegox.Agent.Atomicity
import Paraegox.Agent.Wakeup
import Paraegox.Agent.Card
import Paraegox.Textual.Inputs
import Paraegox.Node.StatusSize
import Paraegox.Node.StatusDecode
import Paraegox.Node.Keys
import Paraegox.Runtime.CardIdentity
import Paraegox.Tui.Draft
import Paraegox.Tui.Display
import Paraegox.Textual.Truncation
import Paraegox.Cli.OrderFree
import Paraegox.Textual.CancelOnce
import Paraegox.Deployment.Outcome
import Paraegox.Agent.Drain
import Paraegox.Tui.Runs
import Paraegox.Node.Peers
import Paraegox.Textual.App
import Paraegox.Textual.Handshake
import Paraegox.Textual.Told
import Paraegox.Textual.ExitCode
