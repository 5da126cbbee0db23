/-
# CellFlow.Reconcile.Monitoring — delays and the finite post-settlement watch.

`workflows/reconcile/src/monitoring.ts` and the two settings the reconciler reads from its
environment.
-/
import CellFlow.Core.StateMachine
import Mathlib.Algebra.Order.Ring.Int

namespace CellFlow

/-- The environment settings as numbers; `none` is unset or not a number. -/
structure ReconcileSettings where
  contentionGrace : Option Int
  postConfirmationMonitor : Option Int
  deriving DecidableEq, Repr

/-- The grace a contention is given, from one second to ten minutes, and 30 seconds by default. -/
def contentionGraceMs (settings : ReconcileSettings) : Int :=
  match settings.contentionGrace with
  | some parsed => min (max parsed 1000) (10 * 60000)
  | none => 30000

/-- Zero, the default, keeps the historical terminal behaviour. -/
def postSettlementMonitorMs (settings : ReconcileSettings) : Int :=
  match settings.postConfirmationMonitor with
  | some parsed =>
      if parsed < 0 ∨ (maxSafeInteger : Int) < parsed then 0
      else min parsed (7 * 24 * 60 * 60000)
  | none => 0

/-- `shouldContinueSettlementMonitoring`: the horizon since the first settlement has not passed. -/
def shouldContinueSettlementMonitoring (ready : Bool) (firstReadyAt : Option Int) (nowMs : Int)
    (horizonMs : Int) : Bool :=
  match firstReadyAt with
  | some startedMs => ready && 0 < horizonMs && nowMs < startedMs + horizonMs
  | none => false

/-- A verified live Cell may be spent later; only another block, or a reorg, asks for fresh checks. -/
def shouldReverifyExpectedCells (previouslySettled previouslyVerified : Bool)
    (priorCommittedBlockHash currentCommittedBlockHash : Option String) (reorgDetected : Bool) :
    Bool :=
  !previouslySettled || !previouslyVerified || reorgDetected ||
    (truthy priorCommittedBlockHash).isNone || (truthy currentCommittedBlockHash).isNone ||
    priorCommittedBlockHash ≠ currentCommittedBlockHash

/-- `nextReconcileDelayMs`: steady while the chain has the transaction, else longer at each attempt. -/
def nextReconcileDelayMs (attempt : Nat) (chainStatus : ChainStatus) : Int :=
  match chainStatus with
  | .pending | .proposed | .committed => 12000
  | .unknown | .unobserved => min (5 * 60000) (10000 * 2 ^ min attempt 5)
  | .rejected => 20000

end CellFlow
