import Mathlib.Data.Finset.Insert
import Mathlib.Data.Nat.Basic
import Paraegox.Fabric.Request
import Paraegox.Lib.Except

/-!
# Which bindings a Fabric service takes

`FabricService::new_with_bindings` checks two endpoints and the keys of at most eight
bindings.  Whether a text is a key expression is for Zenoh to say, so `KeyExpr::new` is a
parameter: a check with an error text of its own.
-/

namespace Paraegox.Fabric

open Paraegox.Runtime (RuntimeHostSnapshot)

def MAX_QUERY_BINDINGS : Nat := 8

/-- `FabricError::context`. -/
def FabricError.context (context source : String) : FabricError := ⟨context ++ ": " ++ source⟩

/-! ## Endpoints -/

/-- `u16::from_str`. -/
def parseU16 (text : List Char) : Option Nat :=
  let digits := if text.head? = some '+' then text.tail else text
  if digits = [] ∨ ¬ digits.all Char.isDigit then none
  else
    let value := digits.foldl (fun n c => n * 10 + (c.toNat - '0'.toNat)) 0
    if value < 2 ^ 16 then some value else none

/-- `str::strip_prefix`. -/
def stripPrefix (front text : List Char) : Option (List Char) :=
  if front <+: text then some (text.drop front.length) else none

/-- `validate_loopback_endpoint`. -/
def validateLoopbackEndpoint (endpoint : String) : Except FabricError Unit :=
  if ((stripPrefix "tcp/127.0.0.1:".toList endpoint.toList).bind parseU16).any fun port =>
      port ≠ 0 then .ok ()
  else
    .error ⟨"this baseline only accepts tcp/127.0.0.1:<port>; " ++
      "authenticated remote Fabric is not implemented"⟩

/-! ## Bindings -/

/-- `validate_exact_binding_key`. -/
def validateExactBindingKey (keyExpr : String → Except String Unit) (bindingKey : String) :
    Except FabricError Unit :=
  if bindingKey = "" then .error ⟨"Fabric binding key must not be empty"⟩
  else
    match keyExpr bindingKey with
    | .error error => .error (.context "Fabric binding key is invalid" error)
    | .ok () =>
        if '*' ∈ bindingKey.toList then
          .error ⟨"Fabric query bindings must use an exact key without wildcards"⟩
        else .ok ()

/-- A query handler. -/
abbrev QueryHandler := RuntimeHostSnapshot → List UInt8 → HandlerResult

structure FabricQueryBinding where
  key : String
  handler : QueryHandler

/-- `FabricQueryBinding::new`. -/
def FabricQueryBinding.new (keyExpr : String → Except String Unit) (key : String)
    (handler : QueryHandler) : Except FabricError FabricQueryBinding := do
  validateExactBindingKey keyExpr key
  .ok ⟨key, handler⟩

/-- What `FabricService::new_with_bindings` keeps of its arguments. -/
structure FabricService where
  listenEndpoint : String
  connectEndpoint : Option String
  bindings : List FabricQueryBinding

/-- The loop of `new_with_bindings`, with the keys of the bindings behind it. -/
def checkBindings (keyExpr : String → Except String Unit) (bindingKeys : Finset String) :
    List FabricQueryBinding → Except FabricError Unit
  | [] => .ok ()
  | binding :: rest => do
      validateExactBindingKey keyExpr binding.key
      if binding.key ∈ bindingKeys then
        .error ⟨"duplicate Fabric query binding: " ++ binding.key⟩
      else checkBindings keyExpr (insert binding.key bindingKeys) rest

/-- The check of the endpoints in `new_with_bindings`. -/
def checkEndpoints (listenEndpoint : String) (connectEndpoint : Option String) :
    Except FabricError Unit := do
  validateLoopbackEndpoint listenEndpoint
  match connectEndpoint with
  | none => .ok ()
  | some connectEndpoint => validateLoopbackEndpoint connectEndpoint

/-- `FabricService::new_with_bindings`. -/
def FabricService.newWithBindings (keyExpr : String → Except String Unit)
    (listenEndpoint : String) (connectEndpoint : Option String)
    (bindings : List FabricQueryBinding) : Except FabricError FabricService := do
  checkEndpoints listenEndpoint connectEndpoint
  if bindings.isEmpty then
    .error ⟨"FabricService requires at least one exact query binding"⟩
  else if MAX_QUERY_BINDINGS < bindings.length then
    .error ⟨s!"FabricService accepts at most {MAX_QUERY_BINDINGS} exact query bindings"⟩
  else do
    checkBindings keyExpr ∅ bindings
    .ok ⟨listenEndpoint, connectEndpoint, bindings⟩

/-! ## Keys that pass -/

variable {keyExpr : String → Except String Unit}

/-- A key passes every check of the loop. -/
def ExactKey (keyExpr : String → Except String Unit) (key : String) : Prop :=
  validateExactBindingKey keyExpr key = .ok ()

theorem FabricQueryBinding.new_ok {key : String} (h : ExactKey keyExpr key)
    (handler : QueryHandler) :
    FabricQueryBinding.new keyExpr key handler = .ok ⟨key, handler⟩ := by
  rw [new, h]
  rfl

/-- Exact keys that differ from one another pass. -/
theorem checkBindings_ok {bindings : List FabricQueryBinding} {bindingKeys : Finset String}
    (hexact : ∀ binding ∈ bindings, ExactKey keyExpr binding.key ∧ binding.key ∉ bindingKeys)
    (hdistinct : (bindings.map FabricQueryBinding.key).Nodup) :
    checkBindings keyExpr bindingKeys bindings = .ok () := by
  induction bindings generalizing bindingKeys with
  | nil => rfl
  | cons binding rest ih =>
      obtain ⟨hkey, hnew⟩ := hexact binding List.mem_cons_self
      rw [List.map_cons, List.nodup_cons] at hdistinct
      rw [checkBindings, hkey, Except.ok_bind, if_neg hnew]
      refine ih (fun other hother => ?_) hdistinct.2
      obtain ⟨hkey', hnew'⟩ := hexact other (List.mem_cons_of_mem _ hother)
      refine ⟨hkey', fun hmem => ?_⟩
      rcases Finset.mem_insert.mp hmem with heq | hmem
      · exact hdistinct.1 (heq ▸ List.mem_map_of_mem hother)
      · exact hnew' hmem

/-- Such bindings are refused for an endpoint only. -/
theorem FabricService.newWithBindings_eq {bindings : List FabricQueryBinding}
    (hexact : ∀ binding ∈ bindings, ExactKey keyExpr binding.key)
    (hdistinct : (bindings.map FabricQueryBinding.key).Nodup) (hne : bindings ≠ [])
    (hlen : bindings.length ≤ MAX_QUERY_BINDINGS) (listenEndpoint : String)
    (connectEndpoint : Option String) :
    FabricService.newWithBindings keyExpr listenEndpoint connectEndpoint bindings =
      (checkEndpoints listenEndpoint connectEndpoint).map fun _ =>
        ⟨listenEndpoint, connectEndpoint, bindings⟩ := by
  have hcheck : checkBindings keyExpr ∅ bindings = .ok () :=
    checkBindings_ok (fun binding hb => ⟨hexact binding hb, Finset.notMem_empty _⟩) hdistinct
  rw [newWithBindings, if_neg (by simpa using hne), if_neg (Nat.not_lt.mpr hlen), hcheck]
  cases checkEndpoints listenEndpoint connectEndpoint <;> rfl

end Paraegox.Fabric
