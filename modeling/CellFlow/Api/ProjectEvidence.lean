/-
# CellFlow.Api.ProjectEvidence — the evidence export of a project.

`projectEvidence` of `apps/api/src/service.ts`: one document of figures and settings, hashed twice.
`snapshotSha256` is the hash of the whole document, `contentSha256` of the document without
`generatedAt`.  The hash and the locale's comparison of keys are parameters.
-/
import CellFlow.Api.IntentCreation
import CellFlow.Db.ProjectHealth
import CellFlow.Reconcile.Draft

namespace CellFlow

open Js (Json toISOString)

/-- The network a project is on. -/
inductive CkbNetwork where
  | testnet
  | mainnet
  | devnet
  deriving DecidableEq, Repr

/-- The text of a network in the `network` column. -/
def CkbNetwork.text : CkbNetwork → String
  | .testnet => "testnet"
  | .mainnet => "mainnet"
  | .devnet => "devnet"

/-- The members of a `ProjectRecord` the export reads. -/
structure ProjectRecord where
  id : String
  name : String
  network : CkbNetwork
  confirmationPolicy : ConfirmationPolicy
  rpcGenesisHash : Option String
  deriving DecidableEq, Repr

/-- The environment of the deployment.  `staleIntentMinutes` is
`Number(process.env.CELLFLOW_STALE_INTENT_MINUTES ?? "10")`, where that is finite. -/
structure EvidenceSettings where
  vercelGitCommitSha : Option String
  releaseSha : Option String
  vercelEnv : Option String
  nodeEnv : Option String
  staleIntentMinutes : Option Rat

/-- An instant in microseconds as `iso` prints it. -/
def isoMicros (micros : Int) : String := toISOString (micros / 1000)

/-! ## The document -/

/-- The metrics as the evidence document has them. -/
def ProjectMetrics.toJson (metrics : ProjectMetrics) : Json :=
  .obj [("total", .int metrics.total), ("confirmed", .int metrics.confirmed),
    ("attention", .int metrics.attention), ("active", .int metrics.active)]

/-- A figure, or `null` where there is none. -/
def intOrNull : Option Int → Json
  | some n => .int n
  | none => .null

/-- The figures of the health report under their keys, in the order of the source. -/
def OperationalHealth.members (health : OperationalHealth) : List (String × Json) :=
  [("dueReconciliations", .int health.dueReconciliations),
    ("leasedReconciliations", .int health.leasedReconciliations),
    ("staleActiveIntents", .int health.staleActiveIntents),
    ("oldestActiveAgeSeconds", intOrNull health.oldestActiveAgeSeconds),
    ("pendingWebhooks", .int health.pendingWebhooks),
    ("failedWebhooks", .int health.failedWebhooks),
    ("activeApiKeys", .int health.activeApiKeys),
    ("expiringApiKeys7d", .int health.expiringApiKeys7d),
    ("lastEventAt", Json.ofOption (health.lastEventAt.map isoMicros))]

/-- The health report as the evidence document has it. -/
def OperationalHealth.toJson (health : OperationalHealth) : Json := .obj health.members

/-- The project as the evidence document has it. -/
def ProjectRecord.toJson (project : ProjectRecord) : Json :=
  .obj [("id", .str project.id), ("name", .str project.name),
    ("network", .str project.network.text),
    ("confirmationPolicy", confirmationPolicyJson project.confirmationPolicy),
    ("rpcGenesisHash", Json.ofOption project.rpcGenesisHash)]

/-- The release the document names: its version, and the commit and environment the process was given. -/
def EvidenceSettings.release (settings : EvidenceSettings) : Json :=
  .obj [("version", .str "0.3.0"),
    ("commitSha", Json.ofOption (settings.vercelGitCommitSha <|> settings.releaseSha)),
    ("environment", Json.ofOption (settings.vercelEnv <|> settings.nodeEnv))]

/-- An endpoint, without its URL and secret. -/
def WebhookEndpointSummary.toJson (summary : WebhookEndpointSummary) : Json :=
  .obj [("id", .str summary.endpoint.id), ("enabled", .bool summary.endpoint.enabled),
    ("deliveredCount", .int summary.deliveredCount), ("failedCount", .int summary.failedCount),
    ("pendingCount", .int summary.pendingCount),
    ("lastDeliveryAt", Json.ofOption (summary.lastDeliveryAt.map isoMicros))]

/-- `integrations`. -/
def integrationsJson (webhooks : List WebhookEndpointSummary) (health : OperationalHealth) : Json :=
  .obj [("webhookEndpoints", .arr (webhooks.map (·.toJson))),
    ("apiKeys", .obj [("active", .int health.activeApiKeys),
      ("expiringWithin7Days", .int health.expiringApiKeys7d)])]

/-- The members of the document. -/
def evidenceDocument (settings : EvidenceSettings) (project : ProjectRecord) (generatedAt : String)
    (metrics : ProjectMetrics) (operations : OperationalHealth)
    (webhooks : List WebhookEndpointSummary) : List (String × Json) :=
  [("schemaVersion", .str "cellflow-project-evidence-v1"), ("generatedAt", .str generatedAt),
    ("project", project.toJson), ("release", settings.release), ("metrics", metrics.toJson),
    ("operations", operations.toJson), ("integrations", integrationsJson webhooks operations)]

/-- `const { generatedAt: _generatedAt, ...contentDocument } = document`. -/
def contentMembers (document : List (String × Json)) : List (String × Json) :=
  document.filter (·.1 ≠ "generatedAt")

/-! ## projectEvidence -/

/-- What `projectEvidence` returns; `stored` is the id and the time of the stored export. -/
structure ProjectEvidence where
  document : List (String × Json)
  sha256 : String
  snapshotSha256 : String
  contentSha256 : String
  stored : Option (String × Int)

/-- The instants of a call: `now()` of its queries, and `new Date()` in milliseconds. -/
structure ExportTimes where
  now : Int
  clock : Int
  deriving DecidableEq, Repr

section

variable (sha256 : String → String) (localeCompare : String → String → Ordering)

/-- `getOperationalHealth` with the service's setting: an intent is stale after 10 minutes by default. -/
def operationalHealth (settings : EvidenceSettings) (project : ProjectRecord) (now : Int)
    (tables : ProjectTables) : OperationalHealth :=
  getOperationalHealth project.id (staleInterval (settings.staleIntentMinutes.getD 10)) now tables

/-- The document of a call. -/
def projectDocument (settings : EvidenceSettings) (project : ProjectRecord) (times : ExportTimes)
    (tables : ProjectTables) : List (String × Json) :=
  evidenceDocument settings project (toISOString times.clock)
    (getProjectMetrics project.id tables)
    (operationalHealth settings project times.now tables)
    (listWebhookEndpoints project.id tables)

/-- The text `contentSha256` is taken of: the content's members, with the keys of every object sorted. -/
def contentText (document : List (String × Json)) : String :=
  stable localeCompare (.obj (contentMembers document))

/-- `recordProjectEvidenceExport`. -/
def recordProjectEvidenceExport (id : String) (project : ProjectRecord) (sha : String)
    (document : List (String × Json)) (now : Int) (tables : ProjectTables) : ProjectTables :=
  { tables with exports := ⟨id, project.id, sha, document, now⟩ :: tables.exports }

/-- `projectEvidence`; a persisted one stores its document under the new `exportId`. -/
def projectEvidence (settings : EvidenceSettings) (project : ProjectRecord)
    (persist : Option String) (times : ExportTimes) (tables : ProjectTables) :
    ProjectEvidence × ProjectTables :=
  let document := projectDocument settings project times tables
  let snapshotSha256 := sha256 (stable localeCompare (.obj document))
  let contentSha256 := sha256 (contentText localeCompare document)
  match persist with
  | none => (⟨document, snapshotSha256, snapshotSha256, contentSha256, none⟩, tables)
  | some exportId =>
      (⟨document, snapshotSha256, snapshotSha256, contentSha256, some (exportId, times.now)⟩,
        recordProjectEvidenceExport exportId project snapshotSha256
          (document ++ [("contentSha256", .str contentSha256)]) times.now tables)

end

end CellFlow
