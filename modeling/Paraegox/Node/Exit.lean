import Paraegox.Node.Process
import Paraegox.Node.Readiness

/-!
# How the process of a Node ends

What a running Node asks of its surroundings is one of nine transcripts.
-/

namespace Paraegox.Process

open Cli (AgentProvider DeckSelection)
open Fabric (FabricError)
open Node (NodeRuntimeStatus decodeRuntimeStatus runtimeStatusKey)
open Paraegox.Runtime (Console RuntimeHostSnapshot)

/-! ## One question after the other -/

theorem request_yields (q : Question) :
    (request q).run.Yields fun xs r => ∃ x, xs = [⟨q, x⟩] ∧ r = .ok x :=
  ⟨trivial, fun x _ => ⟨x, rfl, rfl⟩⟩

theorem propagate_yields {α ε : Type} (message : ε → String) (x : Except ε α) :
    (propagate message x).run.Yields fun xs r =>
      xs = [] ∧ r = x.mapError fun error => .error (message error) := by
  cases x with
  | ok a => exact ⟨rfl, rfl⟩
  | error error => exact ⟨rfl, rfl⟩

theorem ok_of_mapError {α : Type} {x : Except String α} {a : α}
    (h : Except.ok a = x.mapError (Fault.error (ε := String))) : x = .ok a := by
  cases x with
  | ok a' =>
      cases h
      rfl
  | error error => cases h

theorem error_of_mapError {α : Type} {x : Except String α} {fault : Fault String}
    (h : Except.error fault = x.mapError Fault.error) :
    ∃ error, x = .error error ∧ fault = .error error := by
  cases x with
  | ok a => cases h
  | error error =>
      cases h
      exact ⟨error, rfl, rfl⟩

theorem propagate_ok_bind {α β ε : Type} (message : ε → String) (a : α) (f : α → Process β) :
    (propagate message (.ok a) >>= f) = f a := rfl

/-- A line that was written, or not. -/
def printed (line : List UInt8) (x : Except String Unit) : Asked := ⟨.println line, x⟩

/-- A line that was written, and the flush behind it. -/
def flushed (line : List UInt8) (x : Except String Unit) : List Asked :=
  [printed line (.ok ()), ⟨.flush, x⟩]

theorem println_yields (line : List UInt8) :
    (println line).run.Yields fun xs r => ∃ x, xs = [printed line x] ∧
      r = x.mapError fun error => .panic ("failed printing to stdout: " ++ error) := by
  refine Dialogue.Yields.andThen (request_yields (.println line)) ?_ ?_
  · rintro _ written ⟨x, rfl, h⟩
    cases h
    cases written with
    | ok _ => exact ⟨.ok (), rfl, rfl⟩
    | error error => exact ⟨.error error, rfl, rfl⟩
  · rintro _ error ⟨x, rfl, h⟩
    cases h

theorem report_yields (line : List UInt8) :
    (report line).run.Yields fun xs r =>
      (∃ error, xs = [printed line (.error error)] ∧
        r = .error (.panic ("failed printing to stdout: " ++ error))) ∨
      ∃ x, xs = flushed line x ∧ r = x.mapError .error := by
  refine Dialogue.Yields.andThen (println_yields line) ?_ ?_
  · intro xs _ h
    obtain ⟨x, rfl, hx⟩ := h
    cases x with
    | error error => cases hx
    | ok _ =>
        refine Dialogue.Yields.andThen (request_yields .flush) ?_ ?_
        · intro ys a hy
          obtain ⟨x, rfl, ha⟩ := hy
          cases ha
          refine (propagate_yields id a).mono fun zs r hz => ?_
          obtain ⟨rfl, rfl⟩ := hz
          exact .inr ⟨a, rfl, rfl⟩
        · intro ys error hy
          obtain ⟨x, -, hx⟩ := hy
          cases hx
  · intro xs fault h
    obtain ⟨x, rfl, hx⟩ := h
    cases x with
    | ok _ => cases hx
    | error error => exact .inl ⟨error, rfl, hx⟩

section

variable (reader : Reader)

/-- What a Node makes of the answer of its peer. -/
def probed (target : NodeId) (answer : Except FabricError (List UInt8)) :
    Except String NodeRuntimeStatus :=
  match answer with
  | .error error => .error error.message
  | .ok payload =>
      (decodeRuntimeStatus reader.fromSlice reader.reason target payload).mapError
        Node.NodeStatusError.message

theorem probePeer_yields (node : Node) (target : NodeId) (deadline : Nat) :
    (probePeer reader node target deadline).run.Yields fun xs r =>
      (target = node.identity.nodeId ∧ xs = [] ∧
        r = .error (.error "a Node cannot probe itself as a peer")) ∨
      target ≠ node.identity.nodeId ∧ ∃ answer,
        xs = [⟨.query (runtimeStatusKey target) deadline, answer⟩] ∧
        r = (probed reader target answer).mapError .error := by
  rw [probePeer]
  split_ifs with htarget
  · exact .inl ⟨htarget, rfl, rfl⟩
  · refine Dialogue.Yields.andThen (request_yields (.query _ _)) ?_ ?_
    · intro xs answer h
      obtain ⟨x, rfl, hx⟩ := h
      cases hx
      refine Dialogue.Yields.andThen (propagate_yields FabricError.message answer) ?_ ?_
      · intro ys payload hy
        obtain ⟨rfl, hanswer⟩ := hy
        refine (propagate_yields _ _).mono fun zs r hz => ?_
        obtain ⟨rfl, rfl⟩ := hz
        cases answer with
        | error error => cases hanswer
        | ok payload' =>
            cases hanswer
            refine .inr ⟨htarget, .ok payload, rfl, ?_⟩
            rw [probed]
            cases decodeRuntimeStatus reader.fromSlice reader.reason target payload <;> rfl
      · intro ys fault hy
        obtain ⟨rfl, hanswer⟩ := hy
        cases answer with
        | ok payload => cases hanswer
        | error error =>
            cases hanswer
            exact .inr ⟨htarget, .error error, rfl, rfl⟩
    · intro xs fault h
      obtain ⟨x, -, hx⟩ := h
      cases hx

/-! ## While the Node runs -/

variable (own : List UInt8) (nodeId : NodeId) (peer : Option NodeId) (timeout : Nat)

/-- What a Node with this status line asks while it runs, and what comes of it. -/
inductive Transcript : List Asked → Except (Fault String) Unit → Prop
  | unprinted (error : String) : Transcript [printed own (.error error)]
      (.error (.panic ("failed printing to stdout: " ++ error)))
  | unflushed (error : String) : Transcript (flushed own (.error error)) (.error (.error error))
  | alone (x : Except String Unit) : peer = none →
      Transcript (flushed own (.ok ()) ++ [⟨.ctrlC, x⟩]) (x.mapError .error)
  | itself : peer = some nodeId →
      Transcript (flushed own (.ok ())) (.error (.error "a Node cannot probe itself as a peer"))
  | unprobed {target : NodeId} {answer : Except FabricError (List UInt8)} {error : String} :
      peer = some target → target ≠ nodeId → probed reader target answer = .error error →
      Transcript (flushed own (.ok ()) ++ [⟨.query (runtimeStatusKey target) timeout, answer⟩])
        (.error (.error error))
  | unreported {target : NodeId} {answer : Except FabricError (List UInt8)}
      {status : NodeRuntimeStatus} (error : String) :
      peer = some target → target ≠ nodeId → probed reader target answer = .ok status →
      Transcript (flushed own (.ok ()) ++ [⟨.query (runtimeStatusKey target) timeout, answer⟩,
          printed (peerReport status).encode (.error error)])
        (.error (.panic ("failed printing to stdout: " ++ error)))
  | unflushedReport {target : NodeId} {answer : Except FabricError (List UInt8)}
      {status : NodeRuntimeStatus} (error : String) :
      peer = some target → target ≠ nodeId → probed reader target answer = .ok status →
      Transcript (flushed own (.ok ()) ++ ⟨.query (runtimeStatusKey target) timeout, answer⟩ ::
          flushed (peerReport status).encode (.error error)) (.error (.error error))
  | accompanied {target : NodeId} {answer : Except FabricError (List UInt8)}
      {status : NodeRuntimeStatus} (x : Except String Unit) :
      peer = some target → target ≠ nodeId → probed reader target answer = .ok status →
      Transcript (flushed own (.ok ()) ++ ⟨.query (runtimeStatusKey target) timeout, answer⟩ ::
          (flushed (peerReport status).encode (.ok ()) ++ [⟨.ctrlC, x⟩])) (x.mapError .error)

end

theorem interrupted_yields : (do
    let interrupted : Except String Unit ← request .ctrlC
    propagate id interrupted : Process Unit).run.Yields fun xs r =>
      ∃ x, xs = [⟨.ctrlC, x⟩] ∧ r = x.mapError .error := by
  refine Dialogue.Yields.andThen (request_yields .ctrlC) ?_ ?_
  · intro xs a h
    obtain ⟨x, rfl, hx⟩ := h
    cases hx
    refine (propagate_yields id a).mono fun zs r hz => ?_
    obtain ⟨rfl, rfl⟩ := hz
    exact ⟨a, rfl, rfl⟩
  · intro xs fault h
    obtain ⟨x, -, hx⟩ := h
    cases hx

/-- A Node that is ready goes through one of these. -/
theorem running_yields (reader : Reader) (node : Node) {snapshot : RuntimeHostSnapshot}
    (hready : snapshot.state = .ready) (peer : Option NodeId) (timeout : Nat) :
    (running reader node snapshot peer timeout).run.Yields
      (Transcript reader (⟨node.identity, snapshot, ⟨true⟩⟩ : NodeRuntimeStatus).toJson.encode
        node.identity.nodeId peer timeout) := by
  have hstatus : NodeRuntimeStatus.ready node.identity snapshot =
      .ok ⟨node.identity, snapshot, ⟨true⟩⟩ := by
    rw [NodeRuntimeStatus.ready, if_neg (not_not.mpr hready)]
  rw [running, hstatus, propagate_ok_bind]
  refine Dialogue.Yields.andThen (report_yields _) ?_ ?_
  · intro xs _ h
    rcases h with ⟨error, -, hx⟩ | ⟨x, rfl, hx⟩
    · cases hx
    obtain rfl := ok_of_mapError hx
    cases peer with
    | none =>
        refine interrupted_yields.mono fun ys r hy => ?_
        obtain ⟨x, rfl, rfl⟩ := hy
        exact .alone x rfl
    | some target =>
        refine Dialogue.Yields.andThen (probePeer_yields reader node target timeout) ?_ ?_
        · intro ys status hy
          rcases hy with ⟨-, -, hx⟩ | ⟨htarget, answer, rfl, hx⟩
          · cases hx
          have hprobed := ok_of_mapError hx
          refine Dialogue.Yields.andThen (report_yields _) ?_ ?_
          · intro zs _ hz
            rcases hz with ⟨error, -, hx⟩ | ⟨x, rfl, hx⟩
            · cases hx
            obtain rfl := ok_of_mapError hx
            refine interrupted_yields.mono fun ys r hy => ?_
            obtain ⟨x, rfl, rfl⟩ := hy
            exact .accompanied x rfl htarget hprobed
          · intro zs fault hz
            rcases hz with ⟨error, rfl, hx⟩ | ⟨x, rfl, hx⟩
            · cases hx
              exact .unreported error rfl htarget hprobed
            · obtain ⟨error, rfl, rfl⟩ := error_of_mapError hx
              exact .unflushedReport error rfl htarget hprobed
        · intro ys fault hy
          rcases hy with ⟨rfl, rfl, hx⟩ | ⟨htarget, answer, rfl, hx⟩
          · cases hx
            exact .itself rfl
          · obtain ⟨error, hprobed, rfl⟩ := error_of_mapError hx
            exact .unprobed rfl htarget hprobed
  · intro xs fault h
    rcases h with ⟨error, rfl, hx⟩ | ⟨x, rfl, hx⟩
    · cases hx
      exact .unprinted error
    · obtain ⟨error, rfl, rfl⟩ := error_of_mapError hx
      exact .unflushed error

/-! ## The calls of the host -/

section

open Paraegox.Runtime (Level RuntimeHost hostResult Runs stopReport)
open Paraegox.Runtime.RuntimeHostSnapshot (Good)
open Bracket (AllOpen)

variable {host : RuntimeHost} {s₀ : RuntimeHostSnapshot} {c : Console}

theorem called_of_runs {call : Paraegox.Runtime.Hosted Unit}
    {r : Except Paraegox.Runtime.RuntimeHostError Unit} {c' : Console}
    {calls : List Paraegox.Runtime.Invocation} {P : RuntimeHostSnapshot → Prop}
    (h : Runs P call c r c' calls) :
    called call c = (r.mapError fun error => .error error.message, c') := by
  rw [called, h.run]
  cases r <;> rfl

/-- A host that was built is started: it is ready then, or it failed. -/
theorem start_called (hc : host.Course s₀ c)
    (hl : Level host .created .created .created c.snapshot) (hcalls : c.invocations = []) :
    ∃ r c', called host.start c = (r, c') ∧ host.Course s₀ c' ∧
      (r = .ok () ∧ AllOpen Paraegox.Runtime.Managed.opening host.owners ∧
          Level host .ready .ready .ready c'.snapshot ∧
          c'.invocations = host.owners.map Paraegox.Runtime.Managed.started ∨
        (∃ error, r = .error (.error error)) ∧ c'.snapshot.state = .failed) := by
  have hcourse := hc.start_created hl hcalls
  cases Decidable.em (AllOpen Paraegox.Runtime.Managed.opening host.owners) with
  | inl hall =>
      obtain ⟨c', h, hl', -⟩ := RuntimeHost.start_open hall hl hc.good.fixedPart
      rw [h.after] at hcourse
      refine ⟨_, c', called_of_runs h, hcourse, .inl ⟨rfl, hall, hl', ?_⟩⟩
      rw [h.invocations, hcalls, List.nil_append]
  | inr hnot =>
      obtain ⟨failure, cleanup, c', h, -, hstate, -⟩ :=
        RuntimeHost.start_rollback hnot hl hc.good.fixedPart
      rw [h.after] at hcourse
      exact ⟨_, c', called_of_runs h, hcourse, .inr ⟨⟨_, rfl⟩, hstate⟩⟩

/-- A ready host is stopped: it is down then, and it is stopped just where nothing failed. -/
theorem stop_called (hc : host.Course s₀ c)
    (hall : AllOpen Paraegox.Runtime.Managed.opening host.owners)
    (hl : Level host .ready .ready .ready c.snapshot)
    (hcalls : c.invocations = host.owners.map Paraegox.Runtime.Managed.started) :
    ∃ r c', called host.stop c = (r, c') ∧ host.Course s₀ c' ∧
      (r = .ok () ∧ c'.snapshot.state = .stopped ∨
        (∃ error, r = .error (.error error)) ∧ c'.snapshot.state = .failed) := by
  have hcourse := hc.stop_ready hall hl hcalls
  obtain ⟨c', h, hstate, -⟩ := RuntimeHost.stop_runs hl hc.good.fixedPart
  rw [h.after] at hcourse
  refine ⟨_, c', called_of_runs h, hcourse, ?_⟩
  rw [hstate, stopReport]
  split_ifs with hnone
  · exact .inl ⟨rfl, rfl⟩
  · exact .inr ⟨⟨_, rfl⟩, rfl⟩

end

end Paraegox.Process
