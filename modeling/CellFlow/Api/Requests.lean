/-
# CellFlow.Api.Requests — the calls on one intent, as they run side by side.

`attachTransaction`, `markSubmission`, `preflight` and `addOperatorNote` of `apps/api/src/service.ts` and
`reconcileIntent` of `workflows/reconcile/src/reconcile.ts`, each a client of the store that reads the
intent in two queries and goes on from there; the first two and the reconciliation begin again, at most
three times in all, where the row was written over meanwhile.  Every pass may draw other times, ids and
answers of a node.
-/
import CellFlow.Api.Machine
import CellFlow.Api.Preflight
import CellFlow.Lib.Retry

namespace CellFlow

/-! ## Calls -/

/-- A call, with what each of its passes draws. -/
inductive IntentCall where
  | attach (req : AttachRequest) (freshId : Nat → String) (now : Nat → Int)
  | mark (req : MarkRequest) (now : Nat → Int)
  | reconcile (env : Nat → ReconcileEnv)
  | preflight (endpoints : List Endpoint) (expected : RpcIdentityExpectation) (now : Int)
  | note (text : String) (now : Int)

/-- What a call answers when it has not failed. -/
inductive CallAnswer where
  | done
  | reconciled (result : ReconcileResult)
  | preflighted (outcome : Except PreflightError PublicView)

/-- Where a reconciliation is: at a candidate, or past them. -/
inductive ReconcilePlace where
  | scan (index : Nat)
  | project
  deriving DecidableEq, Repr

/-- A call as a client of the retry loop: it writes the rows of one intent. -/
abbrev CallClient : Type := Retry.Client Store ReconcilePlace CallAnswer Failure

/-- What a transaction of a call comes to. -/
abbrev CallOutcome : Type := Retry.Outcome Store ReconcilePlace CallAnswer Failure

/-- `error instanceof OptimisticConcurrencyError`. -/
def Failure.isConcurrency : Failure → Bool
  | .optimisticConcurrency => true
  | _ => false

/-- `attempt < 3`. -/
def requestPasses : Nat := 3

/-- What a call of one write does with its outcome. -/
def writeOutcome : Except Failure Store → CallOutcome
  | .ok t => .answer (some t) .done
  | .error e => .fail e

/-- The transactions of `reconcileIntentOnce` from the view `aggregate`.  A promotion ends in a
`getIntent` of its own after the commit, and the rest works on what that reads. -/
def reconcileOutcome (env : ReconcileEnv) (aggregate : IntentAggregate) (place : ReconcilePlace)
    (db : Store) : CallOutcome :=
  match aggregate.execution.txHash with
  | none => .answer none (.reconciled (unprepared aggregate))
  | some txHash =>
      if env.urls = [] then .fail (.error "No CKB RPC endpoint configured")
      else
        match place with
        | .scan index =>
            match (rivals aggregate)[index]? with
            | none => .goOn none .project
            | some candidate =>
                match judgeCandidate env aggregate candidate with
                | .failed => .goOn none (.scan (index + 1))
                | .update input =>
                    .goOn (some (updateCandidateAttempt input db)) (.scan (index + 1))
                | .promote input =>
                    match promoteAttemptProjection input db with
                    | .error e => .fail e
                    | .ok t => .reread t .project
        | .project =>
            match reconcileProjection env aggregate txHash db with
            | .error e => .fail e
            | .ok (t, result) => .answer (some t) (.reconciled result)

/-- `appendEvent` of a preflight, where it has come to one. -/
def preflightOutcome (endpoints : List Endpoint) (expected : RpcIdentityExpectation)
    (aggregate : IntentAggregate) (now : Int) (db : Store) : CallOutcome :=
  let done := servicePreflight endpoints expected aggregate now db
  match preflightGuard endpoints aggregate.execution with
  | .error _ => .answer none (.preflighted done.2)
  | .ok () => .answer (some done.1) (.preflighted done.2)

/-- One pass of a call from a view. -/
def IntentCall.outcome (call : IntentCall) (pass : Nat) (view : IntentAggregate) (place : ReconcilePlace)
    (db : Store) : CallOutcome :=
  match call with
  | .attach req freshId now =>
      match req.normalize with
      | .error e => .fail e
      | .ok normalized => writeOutcome (attachAttempt normalized view (freshId pass) (now pass) db)
  | .mark req now =>
      match req.guard with
      | .error e => .fail (.cellFlow e)
      | .ok () => writeOutcome (markAttempt req view (now pass) db)
  | .reconcile env => reconcileOutcome (env pass) view place db
  | .preflight endpoints expected now => preflightOutcome endpoints expected view now db
  | .note text now => .answer (some (addOperatorNote view text now db)) .done

/-- The call as a client: it begins with the scan, and acts on what its pass has read. -/
def IntentCall.client (call : IntentCall) : CallClient where
  first := .scan 0
  act := fun pass rows later place db => call.outcome pass (rows.read later) place db

/-- A call run alone, for the calls of one guarded write. -/
def IntentCall.alone : IntentCall → Nat → Store → Option (Except Failure Store)
  | .attach req freshId now, pass, db =>
      some (serviceAttachTransaction req (freshId pass) (now pass) db)
  | .mark req now, pass, db => some (serviceMarkSubmission req (now pass) db)
  | _, _, _ => none

/-! ## A pass of a reconciliation alone -/

section Alone

variable {env : Nat → ReconcileEnv} {pass : Nat}

/-- What a pass alone returns, for what a reconciliation does. -/
def passResult (run : Store × Except Failure ReconcileResult) : Store × Except Failure CallAnswer :=
  (run.1, run.2.map .reconciled)

/-- The projection step, from rows with a transaction. -/
theorem project_pass {rows db : Store} {txHash : String} (htx : rows.execution.txHash = some txHash)
    (hurls : (env pass).urls ≠ []) :
    Retry.Pass (IntentCall.reconcile env).client pass rows rows .project db
      (passResult (settle db (reconcileProjection (env pass) rows.aggregate txHash db))) := by
  have hact : (IntentCall.reconcile env).client.act pass rows rows .project db =
      match reconcileProjection (env pass) rows.aggregate txHash db with
      | .error e => .fail e
      | .ok (t, result) => .answer (some t) (.reconciled result) := by
    have htx' : rows.aggregate.execution.txHash = some txHash := htx
    show reconcileOutcome (env pass) rows.aggregate .project db = _
    simp only [reconcileOutcome, htx', if_neg hurls]
  cases hp : reconcileProjection (env pass) rows.aggregate txHash db with
  | error e =>
      rw [hp] at hact
      exact .fail hact
  | ok written =>
      obtain ⟨t, result⟩ := written
      rw [hp] at hact
      exact .answer hact

/-- The rest of the scan and what follows it. -/
theorem scan_pass {rows : Store} {txHash : String} (htx : rows.execution.txHash = some txHash)
    (hurls : (env pass).urls ≠ []) {candidates : List TransactionAttemptRecord} {db : Store}
    {index : Nat} (hc : (rivals rows.aggregate).drop index = candidates) :
    Retry.Pass (IntentCall.reconcile env).client pass rows rows (.scan index) db
      (passResult
        (match scanCandidates (env pass) rows.aggregate candidates db with
        | (db', .error e) => (db', .error e)
        | (db', .ok none) => settle db' (reconcileProjection (env pass) rows.aggregate txHash db')
        | (db', .ok (some promoted)) =>
            match promoted.execution.txHash with
            | none => (db', .ok (unprepared promoted))
            | some promotedHash =>
                settle db' (reconcileProjection (env pass) promoted promotedHash db'))) := by
  have htx' : rows.aggregate.execution.txHash = some txHash := htx
  induction candidates generalizing db index with
  | nil =>
      have hend : (rivals rows.aggregate)[index]? = none := by
        rw [← List.head?_drop, hc]
        rfl
      have hact : (IntentCall.reconcile env).client.act pass rows rows (.scan index) db =
          .goOn none .project := by
        show reconcileOutcome (env pass) rows.aggregate (.scan index) db = _
        simp only [reconcileOutcome, htx', if_neg hurls, hend]
      exact .goOn hact (project_pass htx hurls)
  | cons candidate rest ih =>
      have hindex : (rivals rows.aggregate)[index]? = some candidate := by
        rw [← List.head?_drop, hc]
        rfl
      have hrest : (rivals rows.aggregate).drop (index + 1) = rest := by
        rw [← List.tail_drop, hc]
        rfl
      have hact : (IntentCall.reconcile env).client.act pass rows rows (.scan index) db =
          match judgeCandidate (env pass) rows.aggregate candidate with
          | .failed => .goOn none (.scan (index + 1))
          | .update input => .goOn (some (updateCandidateAttempt input db)) (.scan (index + 1))
          | .promote input =>
              match promoteAttemptProjection input db with
              | .error e => .fail e
              | .ok t => .reread t .project := by
        show reconcileOutcome (env pass) rows.aggregate (.scan index) db = _
        simp only [reconcileOutcome, htx', if_neg hurls, hindex]
      simp only [scanCandidates]
      cases hj : judgeCandidate (env pass) rows.aggregate candidate with
      | failed =>
          rw [hj] at hact
          exact .goOn hact (ih hrest)
      | update input =>
          rw [hj] at hact
          exact .goOn hact (ih hrest)
      | promote input =>
          rw [hj] at hact
          simp only at hact ⊢
          cases hp : promoteAttemptProjection input db with
          | error e =>
              rw [hp] at hact
              exact .fail hact
          | ok t =>
              rw [hp] at hact
              refine .reread hact ?_
              -- the scan ends here, and the rest works on what the promotion left
              cases hpromoted : t.execution.txHash with
              | none =>
                  have hnone : t.aggregate.execution.txHash = none := hpromoted
                  simp only [hnone]
                  have hlast : (IntentCall.reconcile env).client.act pass t t .project t =
                      .answer none (.reconciled (unprepared t.aggregate)) := by
                    show reconcileOutcome (env pass) t.aggregate .project t = _
                    simp only [reconcileOutcome, hnone]
                  exact .answer hlast
              | some promotedHash =>
                  have hsome : t.aggregate.execution.txHash = some promotedHash := hpromoted
                  simp only [hsome]
                  exact project_pass hpromoted hurls

/-- **Alone, a pass is a reconciliation.** -/
theorem reconcile_pass (db : Store) :
    Retry.Pass (IntentCall.reconcile env).client pass db db (.scan 0) db
      (passResult (serviceReconcile (env pass) db)) := by
  unfold serviceReconcile reconcileIntentOnce
  cases htx : db.aggregate.execution.txHash with
  | none =>
      have hact : (IntentCall.reconcile env).client.act pass db db (.scan 0) db =
          .answer none (.reconciled (unprepared db.aggregate)) := by
        show reconcileOutcome (env pass) db.aggregate (.scan 0) db = _
        simp only [reconcileOutcome, htx]
      exact .answer hact
  | some txHash =>
      simp only
      split_ifs with hurls
      · have hact : (IntentCall.reconcile env).client.act pass db db (.scan 0) db =
            .fail (.error "No CKB RPC endpoint configured") := by
          show reconcileOutcome (env pass) db.aggregate (.scan 0) db = _
          simp only [reconcileOutcome, htx, if_pos hurls]
        exact .fail hact
      · exact scan_pass htx hurls List.drop_zero

end Alone

end CellFlow
