import Paraegox.Fabric.Request
import Paraegox.Lib.Transition

/-!
# FabricService and the queries it is given

The parties are the owner, which runs `start_inner` and `stop_inner`, the callbacks Zenoh
runs, the dispatcher, and the tasks in its JoinSet.  A callback loads the admission flag
and later tries to send, so a stop may come between the two.  Zenoh holds the closure of a
queryable until it lets go of it, some time after the queryable was undeclared or dropped;
the closure and every run of it hold a sender of the ingress queue.

All choice is in the labels: who moves, what a query carries, what the status of the
RuntimeHost is at a dispatch and what a handler returns.  Time is not modelled, so a reply
may be cut off and a join may be given up at any moment.
-/

namespace Paraegox.Fabric

open Paraegox.Runtime (RuntimeHostSnapshot)

def INGRESS_CAPACITY : Nat := 16
def MAX_IN_FLIGHT_REQUESTS : Nat := 8

abbrev QueryId := Nat

structure Query where
  id : QueryId
  payload : Option (List UInt8)
deriving DecidableEq, Repr

structure AdmittedQuery where
  bindingIndex : Nat
  query : Query
deriving DecidableEq, Repr

/-! ## Parties -/

/-- A run of `admit_query`. -/
structure Callback where
  admitted : AdmittedQuery
  /-- The flag was open and the payload is small enough; `try_send` is next. -/
  checked : Bool
deriving DecidableEq, Repr

inductive TaskPhase where
  | spawned
  /-- The handler was called. -/
  | handling
  /-- A reply was attempted. -/
  | replying
  | finished
deriving DecidableEq, Repr

/-- A run of `serve_request`, with the handler of its query. -/
structure Task (η : Type) where
  query : Query
  handler : η
  snapshot : RuntimeHostSnapshot
  phase : TaskPhase

/-- No reply was attempted yet. -/
def Task.unanswered {η : Type} (task : Task η) : Bool :=
  match task.phase with
  | .spawned | .handling => true
  | .replying | .finished => false

/-- Where `dispatch_requests` stands. -/
inductive Dispatcher where
  /-- `start_inner` owns the receiver. -/
  | unspawned
  /-- In the loop, waiting for a task to join or for a query. -/
  | looping
  /-- A query was received and its task is not spawned yet. -/
  | holding (admitted : AdmittedQuery)
  /-- The queue ended; the last tasks are joined. -/
  | draining
  | exited
  /-- Aborted, or never spawned as the start failed; the receiver is dropped. -/
  | aborted
deriving DecidableEq, Repr

inductive Owner where
  /-- `start_inner` declared this many queryables and holds a sender. -/
  | declaring (declared : Nat)
  /-- The dispatcher is spawned and admission is not open yet. -/
  | starting
  | running
  /-- `stop_inner` undeclares the queryables. -/
  | undeclaring
  /-- `stop_inner` joins the dispatcher. -/
  | joining
  | stopped
deriving DecidableEq, Repr

structure World (η : Type) where
  bindings : List η
  owner : Owner
  admissionOpen : Bool
  /-- The queryables the service owns, by the index of their binding. -/
  queryables : List Nat
  /-- The closures Zenoh holds. -/
  closures : List Nat
  callbacks : List Callback
  queue : List AdmittedQuery
  dispatcher : Dispatcher
  inFlight : List (Task η)
  /-- The queries a reply was attempted for. -/
  replied : List QueryId
  /-- The queries dropped without a reply. -/
  dropped : List QueryId

/-- A service at the beginning of its start. -/
def World.created {η : Type} (bindings : List η) : World η where
  bindings
  owner := .declaring 0
  admissionOpen := false
  queryables := []
  closures := []
  callbacks := []
  queue := []
  dispatcher := .unspawned
  inFlight := []
  replied := []
  dropped := []

/-! ## Where a query is -/

/-- A query is in flight until a reply to it was attempted. -/
inductive Place where
  | callback
  | queued
  /-- Between `recv` and `spawn`. -/
  | held
  | inFlight
  | replied
  | dropped
deriving DecidableEq, Repr

def places : List Place := [.callback, .queued, .held, .inFlight, .replied, .dropped]

theorem mem_places (place : Place) : place ∈ places := by
  cases place <;> decide

def Dispatcher.held : Dispatcher → List AdmittedQuery
  | .holding admitted => [admitted]
  | _ => []

section

variable {η : Type} (w : World η)

/-- The queries at a place. -/
def World.at : Place → List QueryId
  | .callback => w.callbacks.map fun c => c.admitted.query.id
  | .queued => w.queue.map fun a => a.query.id
  | .held => w.dispatcher.held.map fun a => a.query.id
  | .inFlight => (w.inFlight.filter Task.unanswered).map fun task => task.query.id
  | .replied => w.replied
  | .dropped => w.dropped

/-- Every query the service was given. -/
def World.known : List QueryId := places.flatMap w.at

/-- Some sender of the ingress queue is alive. -/
def World.senders : Bool :=
  !w.closures.isEmpty || !w.callbacks.isEmpty ||
    match w.owner with
    | .declaring _ => true
    | _ => false

/-- The receiver of the ingress queue is alive. -/
def World.receiving : Bool :=
  match w.dispatcher with
  | .exited | .aborted => false
  | _ => true

end

/-! ## Labels and reports -/

inductive Action where
  | declare
  /-- A declaration fails, or the start is given up. -/
  | startFails
  | spawnDispatcher
  | openAdmission
  | stop
  | undeclare
  /-- `stop_inner` found the dispatcher ended. -/
  | stopped
  /-- `stop_inner` is given up. -/
  | stopInterrupted
  /-- `stop_inner` aborts the dispatcher. -/
  | abort
  | dropService
  /-- Zenoh lets go of the closure of a queryable. -/
  | release (binding : Nat)
  /-- Zenoh runs the closure of a queryable. -/
  | deliver (binding : Nat) (query : Query)
  | checkAdmission (callback : Nat)
  | trySend (callback : Nat)
  | receive
  | dispatch (snapshot : RuntimeHostSnapshot)
  | serve (task : Nat)
  | handlerReturns (task : Nat) (result : HandlerResult)
  /-- The reply was sent, failed or timed out. -/
  | replyEnds (task : Nat)
  | join (task : Nat)
  | exit
  /-- An aborted task ends. -/
  | dropTask (task : Nat)

inductive Report (η : Type) where
  | silent
  | replied (id : QueryId) (reply : QueryReply)
  | handlerCalled (query : Query) (handler : η) (snapshot : RuntimeHostSnapshot)
      (payload : List UInt8)
  /-- The dispatcher panics. -/
  | panicked

/-! ## Steps -/

section

variable {η : Type} (w : World η)

/-- The receiver is dropped, with all it holds. -/
def World.dropReceiver : World η :=
  { w with
    dispatcher := .aborted
    queue := []
    dropped := w.dropped ++ w.at .queued ++ w.at .held }

/-- The dispatcher is aborted unless it has ended. -/
def World.abortDispatcher : World η := if w.receiving then w.dropReceiver else w

/-- A callback answers its query and returns. -/
def World.refuse (callback : Nat) (id : QueryId) (message : String) : Report η × World η :=
  (.replied id (.replyErr message),
    { w with callbacks := w.callbacks.eraseIdx callback, replied := w.replied ++ [id] })

/-- The checks of `admit_query`. -/
def World.checkAdmission (callback : Nat) (admitted : AdmittedQuery) : Report η × World η :=
  if ¬ w.admissionOpen then w.refuse callback admitted.query.id "FabricService is stopping"
  else if admitted.query.payload.any fun payload => MAX_PAYLOAD_BYTES < payload.length then
    w.refuse callback admitted.query.id "Fabric request exceeds 64 KiB"
  else (.silent, { w with callbacks := w.callbacks.set callback ⟨admitted, true⟩ })

/-- `try_send` and what `admit_query` makes of it. -/
def World.trySend (callback : Nat) (admitted : AdmittedQuery) : Report η × World η :=
  if ¬ w.receiving then w.refuse callback admitted.query.id "FabricService is stopping"
  else if w.queue.length < INGRESS_CAPACITY then
    (.silent, { w with
      callbacks := w.callbacks.eraseIdx callback
      queue := w.queue ++ [admitted] })
  else w.refuse callback admitted.query.id "FabricService is busy"

/-- A task attempts the reply to its query. -/
def World.answer (index : Nat) (task : Task η) (reply : QueryReply) : Report η × World η :=
  (.replied task.query.id reply,
    { w with
      inFlight := w.inFlight.set index { task with phase := .replying }
      replied := w.replied ++ [task.query.id] })

/-- `serve_request` up to where it waits for the handler or for its reply. -/
def World.serve (index : Nat) (task : Task η) : Report η × World η :=
  if task.snapshot.state ≠ .ready then
    w.answer index task (.replyErr "RuntimeHost is not ready")
  else
    (.handlerCalled task.query task.handler task.snapshot (task.query.payload.getD []),
      { w with inFlight := w.inFlight.set index { task with phase := .handling } })

/-- The loop of the dispatcher goes on with a query, or the queue has ended. -/
def World.receive : Option (World η) :=
  match w.queue with
  | admitted :: queue => some { w with queue, dispatcher := .holding admitted }
  | [] => if w.senders then none else some { w with dispatcher := .draining }

/-- The dispatcher spawns the task of the query it holds. -/
def World.dispatch (admitted : AdmittedQuery) (snapshot : RuntimeHostSnapshot) :
    Report η × World η :=
  match w.bindings[admitted.bindingIndex]? with
  | none => (.panicked, w.dropReceiver)
  | some handler =>
      (.silent, { w with
        dispatcher := .looping
        inFlight := w.inFlight ++ [⟨admitted.query, handler, snapshot, .spawned⟩] })

/-- The dispatcher is in a loop that joins tasks. -/
def World.joins : Bool :=
  match w.dispatcher with
  | .looping => MAX_IN_FLIGHT_REQUESTS ≤ w.inFlight.length
  | .draining => true
  | _ => false

/-- The step a label names, where it is enabled. -/
def World.next (w : World η) : Action → Option (Report η × World η)
  | .declare =>
      match w.owner with
      | .declaring declared =>
          if declared < w.bindings.length then
            some (.silent, { w with
              owner := .declaring (declared + 1)
              queryables := w.queryables ++ [declared]
              closures := w.closures ++ [declared] })
          else none
      | _ => none
  | .startFails =>
      match w.owner with
      | .declaring _ => some (.silent, { w.dropReceiver with owner := .stopped, queryables := [] })
      | _ => none
  | .spawnDispatcher =>
      if w.owner = .declaring w.bindings.length then
        some (.silent, { w with owner := .starting, dispatcher := .looping })
      else none
  | .openAdmission =>
      if w.owner = .starting then
        some (.silent, { w with owner := .running, admissionOpen := true })
      else none
  | .stop =>
      if w.owner = .running ∨ w.owner = .stopped then
        some (.silent, { w with owner := .undeclaring, admissionOpen := false })
      else none
  | .undeclare =>
      if w.owner = .undeclaring then
        match w.queryables with
        | _ :: queryables => some (.silent, { w with queryables })
        | [] => some (.silent, { w with owner := .joining })
      else none
  | .stopped =>
      if w.owner = .joining ∧ ¬ w.receiving then some (.silent, { w with owner := .stopped })
      else none
  | .stopInterrupted =>
      if w.owner = .undeclaring ∨ w.owner = .joining then
        some (.silent, { w with owner := .stopped, queryables := [] })
      else none
  | .abort =>
      if w.owner = .joining then some (.silent, { w.abortDispatcher with owner := .stopped })
      else none
  | .dropService =>
      if w.owner = .running ∨ w.owner = .stopped then
        some (.silent, { w.abortDispatcher with
          owner := .stopped
          admissionOpen := false
          queryables := [] })
      else none
  | .release binding =>
      if binding ∈ w.closures ∧ binding ∉ w.queryables then
        some (.silent, { w with closures := w.closures.erase binding })
      else none
  | .deliver binding query =>
      if binding ∈ w.closures ∧ query.id ∉ w.known then
        some (.silent, { w with callbacks := w.callbacks ++ [⟨⟨binding, query⟩, false⟩] })
      else none
  | .checkAdmission callback =>
      w.callbacks[callback]?.bind fun c =>
        if c.checked then none else some (w.checkAdmission callback c.admitted)
  | .trySend callback =>
      w.callbacks[callback]?.bind fun c =>
        if c.checked then some (w.trySend callback c.admitted) else none
  | .receive =>
      if w.dispatcher = .looping ∧ w.inFlight.length < MAX_IN_FLIGHT_REQUESTS then
        w.receive.map fun w => (.silent, w)
      else none
  | .dispatch snapshot =>
      match w.dispatcher with
      | .holding admitted => some (w.dispatch admitted snapshot)
      | _ => none
  | .serve index =>
      w.inFlight[index]?.bind fun task =>
        if task.phase = .spawned then some (w.serve index task) else none
  | .handlerReturns index result =>
      w.inFlight[index]?.bind fun task =>
        if task.phase = .handling then some (w.answer index task (handlerReply result)) else none
  | .replyEnds index =>
      w.inFlight[index]?.bind fun task =>
        if task.phase = .replying then
          some (.silent, { w with
            inFlight := w.inFlight.set index { task with phase := .finished } })
        else none
  | .join index =>
      w.inFlight[index]?.bind fun task =>
        if task.phase = .finished ∧ w.joins then
          some (.silent, { w with inFlight := w.inFlight.eraseIdx index })
        else none
  | .exit =>
      if w.dispatcher = .draining ∧ w.inFlight = [] then
        some (.silent, { w with dispatcher := .exited })
      else none
  | .dropTask index =>
      w.inFlight[index]?.bind fun task =>
        if w.dispatcher = .aborted then
          some (.silent, { w with
            inFlight := w.inFlight.eraseIdx index
            dropped := w.dropped ++ if task.unanswered then [task.query.id] else [] })
        else none

end

/-- The system of the service with its queries. -/
def service (η : Type) : Transition.System (World η) Action (Report η) := ⟨World.next⟩

/-- One step of the service. -/
abbrev Event (η : Type) := Transition.Event (World η) Action (Report η)

/-! ## What a run says of its queries -/

/-- The query a label delivers, with its binding. -/
def Action.delivered? : Action → Option AdmittedQuery
  | .deliver binding query => some ⟨binding, query⟩
  | _ => none

/-- The query a report is the reply to. -/
def Report.replied? {η : Type} : Report η → Option QueryId
  | .replied id _ => some id
  | _ => none

/-- The queries delivered in a run. -/
def delivered {η : Type} (tr : List (Event η)) : List AdmittedQuery :=
  tr.filterMap fun x => x.act.delivered?

def deliveredIds {η : Type} (tr : List (Event η)) : List QueryId :=
  (delivered tr).map fun a => a.query.id

/-- The queries replied to in a run, once for each reply. -/
def repliedIds {η : Type} (tr : List (Event η)) : List QueryId :=
  tr.filterMap fun x => x.report.replied?

end Paraegox.Fabric
