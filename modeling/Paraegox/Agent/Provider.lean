import Paraegox.Deck.Lock

/-!
# Completion providers

What the service reads off its provider.  The answer of a call is not fixed
here: it arrives from outside, and every result about the service holds
whatever it is.
-/

namespace Paraegox.Agent

def BUILTIN_AGENT_DEFINITION : String := "builtin.agent.deterministic@1"
def DEEPSEEK_V4_FLASH_AGENT_DEFINITION : String := "builtin.agent.deepseek-v4-flash@1"

inductive ModelRole where
  | system
  | user
  | assistant
deriving DecidableEq, Repr

structure ModelMessage where
  role : ModelRole
  content : String
deriving DecidableEq, Repr

structure ModelContext where
  messages : List ModelMessage
deriving DecidableEq, Repr

inductive CompletionProvider where
  | deterministic
  | deepSeekV4Flash
deriving DecidableEq, Repr

/-- The Card definition a provider serves. -/
def CompletionProvider.cardDefinition : CompletionProvider → String
  | .deterministic => BUILTIN_AGENT_DEFINITION
  | .deepSeekV4Flash => DEEPSEEK_V4_FLASH_AGENT_DEFINITION

end Paraegox.Agent
