import Paraegox.Fabric.Request
import Paraegox.Text.JsonBytes

/-!
# The status a Node answers with

`encode_runtime_status` turns the snapshot its Fabric handler was given into a
payload, and refuses a snapshot whose host is not ready.
-/

namespace Paraegox.Node

open Paraegox.Runtime (RuntimeHostSnapshot)

structure NodeIdentity where
  nodeId : NodeId
  incarnation : NodeIncarnation
deriving DecidableEq

structure FabricServiceSnapshot where
  ready : Bool
deriving DecidableEq, Repr

structure NodeRuntimeStatus where
  node : NodeIdentity
  runtime : RuntimeHostSnapshot
  fabric : FabricServiceSnapshot
deriving DecidableEq

structure NodeStatusError where
  message : String
deriving DecidableEq, Repr

/-- `NodeRuntimeStatus::ready`. -/
def NodeRuntimeStatus.ready (node : NodeIdentity) (runtime : RuntimeHostSnapshot) :
    Except NodeStatusError NodeRuntimeStatus :=
  if runtime.state ≠ .ready then .error ⟨"RuntimeHost is not ready"⟩
  else .ok ⟨node, runtime, ⟨true⟩⟩

def NodeIdentity.toJson (node : NodeIdentity) : Json :=
  .obj [("node_id", .str node.nodeId.value),
    ("incarnation", .str node.incarnation.uuid.hyphenated)]

def NodeRuntimeStatus.toJson (status : NodeRuntimeStatus) : Json :=
  .obj [("node", status.node.toJson), ("runtime", status.runtime.toJson),
    ("fabric", .obj [("ready", .bool status.fabric.ready)])]

/-- The payload, as the JSON tree whose text is sent. -/
def encodeRuntimeStatus (node : NodeIdentity) (runtime : RuntimeHostSnapshot) :
    Except NodeStatusError Json :=
  (NodeRuntimeStatus.ready node runtime).map NodeRuntimeStatus.toJson

/-- The handler of `runtime_status_binding`. -/
def runtimeStatusHandler (node : NodeIdentity) (runtime : RuntimeHostSnapshot)
    (_payload : List UInt8) : Fabric.HandlerResult :=
  match encodeRuntimeStatus node runtime with
  | .ok payload => .ok payload.encode
  | .error error => .error error.message

end Paraegox.Node
