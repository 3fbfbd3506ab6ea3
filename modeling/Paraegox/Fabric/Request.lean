import Paraegox.Runtime.Status

/-!
# What a Fabric query is answered with

`serve_request` on what its handler returns, and what a client makes of the reply.
The reply is attempted once and the outcome of the attempt is ignored.
-/

namespace Paraegox.Fabric

open Paraegox.Runtime (RuntimeHostSnapshot)

def MAX_PAYLOAD_BYTES : Nat := 64 * 1024

structure FabricError where
  message : String
deriving DecidableEq, Repr

inductive QueryReply where
  /-- `Query::reply`. -/
  | reply (payload : List UInt8)
  /-- `Query::reply_err`. -/
  | replyErr (message : String)
deriving DecidableEq, Repr

/-- What a handler returns. -/
abbrev HandlerResult := Except String (List UInt8)

/-- The reply to what the handler returned. -/
def handlerReply : HandlerResult → QueryReply
  | .ok payload =>
      if payload.length ≤ MAX_PAYLOAD_BYTES then .reply payload
      else .replyErr "Fabric response exceeds 64 KiB"
  | .error error =>
      if error.utf8ByteSize ≤ MAX_PAYLOAD_BYTES then .replyErr error
      else .replyErr "Fabric handler error exceeds 64 KiB"

/-- `serve_request`. -/
def serveRequest (payload : Option (List UInt8))
    (handler : RuntimeHostSnapshot → List UInt8 → HandlerResult)
    (runtimeSnapshot : RuntimeHostSnapshot) : QueryReply :=
  if runtimeSnapshot.state ≠ .ready then .replyErr "RuntimeHost is not ready"
  else handlerReply (handler runtimeSnapshot (payload.getD []))

/-- The end of `request_with_session`, on the reply. -/
def receiveReply : QueryReply → Except FabricError (List UInt8)
  | .replyErr message => .error ⟨"remote Fabric binding rejected the query: " ++ message⟩
  | .reply payload =>
      if MAX_PAYLOAD_BYTES < payload.length then .error ⟨"Fabric response exceeds 64 KiB"⟩
      else .ok payload

/-- An answer that fits is the reply, and the client takes it. -/
theorem handlerReply_of_le {payload : List UInt8} (h : payload.length ≤ MAX_PAYLOAD_BYTES) :
    handlerReply (.ok payload) = .reply payload ∧ receiveReply (.reply payload) = .ok payload :=
  ⟨if_pos h, if_neg (Nat.not_lt.mpr h)⟩

end Paraegox.Fabric
