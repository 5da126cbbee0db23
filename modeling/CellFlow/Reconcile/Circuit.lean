/-
# CellFlow.Reconcile.Circuit — the circuit breaker of the RPC endpoints (`workflows/reconcile/src/rpc.ts`).

One process keeps, for each endpoint, the failures since its last success and the time up to which it
cools down.  Every call opens its sessions along `healthyFirst` and notes what becomes of each; any
number of calls are under way at once, and every note is one turn of the event loop.
-/
import CellFlow.Reconcile.RpcUrls
import CellFlow.Lib.Runs
import Mathlib.Logic.Function.Basic

namespace CellFlow

/-! ## The notes -/

/-- The failures of an endpoint in a row, and until when it is skipped. -/
structure EndpointFailureState where
  failures : Nat
  cooldownUntil : Int
  deriving DecidableEq, Repr

/-- `endpointFailures`. -/
abbrev EndpointFailures : Type := String → Option EndpointFailureState

/-- The numbers of `CKB_RPC_CIRCUIT_FAILURES` (its floor) and `CKB_RPC_CIRCUIT_COOLDOWN_MS`; `none` where
one is not finite.  The code does not floor the cooldown.  Clocks are whole milliseconds, so an endpoint
whose cooldown is a fraction is free again at the same ticks as with its ceiling, which stands here. -/
structure CircuitSettings where
  circuitFailures : Option Int
  circuitCooldownMs : Option Int
  deriving DecidableEq, Repr

variable (settings : CircuitSettings)

/-- The failures in a row that trip an endpoint. -/
def rpcCircuitThreshold : Nat :=
  match settings.circuitFailures with
  | some configured => (min (max configured 1) 10).toNat
  | none => 2

/-- How long a tripped endpoint stays away, rounded up to whole milliseconds. -/
def rpcCircuitCooldownMs : Int :=
  match settings.circuitCooldownMs with
  | some configured => min (max configured 1000) 300000
  | none => 30000

/-- `noteEndpointSuccess`: the endpoint is forgotten. -/
def noteEndpointSuccess (url : String) (endpointFailures : EndpointFailures) : EndpointFailures :=
  Function.update endpointFailures url none

/-- `noteEndpointFailure`: one failure more, and a cooldown from the threshold on. -/
def noteEndpointFailure (url : String) (now : Int) (endpointFailures : EndpointFailures) :
    EndpointFailures :=
  let current := (endpointFailures url).getD ⟨0, 0⟩
  let failures := current.failures + 1
  Function.update endpointFailures url
    (some ⟨failures,
      if rpcCircuitThreshold settings ≤ failures then now + rpcCircuitCooldownMs settings else 0⟩)

/-- `endpointFailures.get(url)?.cooldownUntil`. -/
def EndpointFailures.cooldownUntil (endpointFailures : EndpointFailures) (url : String) : Option Int :=
  (endpointFailures url).map (·.cooldownUntil)

/-! ## Calls -/

/-- A call of `withSession`: the endpoints it opens sessions with in turn, and what became of those it
has tried. -/
structure SessionCall where
  endpoints : List String
  tried : List (String × Bool)
  deriving DecidableEq, Repr

namespace SessionCall

variable (call : SessionCall)

/-- An operation came through, and the call has returned. -/
def returned : Bool := call.tried.any (·.2)

/-- The endpoint the call has a session with. -/
def current : Option String :=
  if call.returned then none else call.endpoints[call.tried.length]?

/-- Every session has failed, and the call has thrown. -/
def thrown : Bool := !call.returned && call.endpoints.length ≤ call.tried.length

end SessionCall

/-- What was noted of an endpoint, and when. -/
structure Noted where
  url : String
  success : Bool
  time : Int
  deriving DecidableEq, Repr

/-- A process and its calls.  `noted` is the history, the latest note first; the process does not keep
it. -/
structure CircuitWorld where
  clock : Int
  endpointFailures : EndpointFailures
  calls : Nat → Option SessionCall
  noted : List Noted

/-- Time passes, a session asks for the healthy endpoints, or it ends. -/
inductive CircuitMove where
  | tick (now : Int)
  | start (id : Nat) (urls : List String)
  | finish (id : Nat) (success : Bool)
  deriving DecidableEq, Repr

namespace CircuitWorld

variable (w : CircuitWorld)

/-- The note of a session that has ended. -/
def note (url : String) (success : Bool) : CircuitWorld :=
  { w with
    endpointFailures :=
      if success then noteEndpointSuccess url w.endpointFailures
      else noteEndpointFailure settings url w.clock w.endpointFailures
    noted := ⟨url, success, w.clock⟩ :: w.noted }

/-- The world after a move; `none` where it cannot be made. -/
def move : CircuitMove → Option CircuitWorld
  | .tick now => if 0 ≤ now then some { w with clock := now } else none
  | .start id urls =>
      if w.calls id = none then
        some { w with
          calls := Function.update w.calls id
            (some ⟨healthyFirst w.endpointFailures.cooldownUntil w.clock urls, []⟩) }
      else none
  | .finish id success =>
      match w.calls id with
      | none => none
      | some call =>
          match call.current with
          | none => none
          | some url =>
              some { w.note settings url success with
                calls := Function.update w.calls id
                  (some { call with tried := call.tried ++ [(url, success)] }) }

end CircuitWorld

/-- One move, as a relation. -/
def CircuitStep (w : CircuitWorld) (m : CircuitMove) (w' : CircuitWorld) : Prop :=
  w.move settings m = some w'

/-- A process as it starts. -/
def freshProcess (clock : Int) : CircuitWorld where
  clock := clock
  endpointFailures := fun _ => none
  calls := fun _ => none
  noted := []

end CellFlow
