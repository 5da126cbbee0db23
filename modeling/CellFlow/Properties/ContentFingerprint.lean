/-
# CellFlow.Properties.ContentFingerprint — what the content hash of a project export depends on.

The document without `generatedAt` still holds figures of `now()`.  Six of them move with the clock:
as instants of the rows pass, or pass the edge of a window, and as the oldest open execution grows
older by a second.  Where none of them moves between two exports the content hash is the same
(`contentSha256_stable_iff`); the stored exports are never read.
-/
import CellFlow.Api.ProjectEvidence

namespace CellFlow

open Js (Json)

/-! ## Counts -/

/-- Where every element counted by `p` is counted by `q`, the counts agree exactly if the elements
counted do. -/
theorem countP_eq_iff {α : Type} {p q : α → Bool} {l : List α}
    (h : ∀ a ∈ l, p a = true → q a = true) :
    l.countP p = l.countP q ↔ ∀ a ∈ l, q a = true → p a = true := by
  induction l with
  | nil => simp
  | cons a l ih =>
      have htail := ih fun b hb => h b (List.mem_cons_of_mem a hb)
      have hle : l.countP p ≤ l.countP q :=
        List.countP_mono_left fun b hb => h b (List.mem_cons_of_mem a hb)
      rw [List.forall_mem_cons, ← htail, List.countP_cons, List.countP_cons]
      cases hp : p a with
      | true =>
          rw [h a List.mem_cons_self hp]
          simp
      | false =>
          cases hq : q a with
          | true =>
              simp only [Bool.false_eq_true, if_false, if_true, imp_false, not_true, false_and,
                iff_false]
              omega
          | false => simp

/-! ## What moves with the clock -/

/-- No instant of the project's rows, and no edge of a window, lies between the two times, and the age
of the oldest open execution is the same in seconds. -/
structure NothingCrosses (tables : ProjectTables) (projectId : String) (stale t₁ t₂ : Int) :
    Prop where
  due : ∀ row ∈ tables.executionsOf projectId, ∀ next, row.execution.nextReconcileAt = some next →
    ¬ (t₁ < next ∧ next ≤ t₂)
  leased : ∀ row ∈ tables.executionsOf projectId, ∀ leaseUntil,
    row.execution.reconcileLeaseUntil = some leaseUntil → ¬ (t₁ < leaseUntil ∧ leaseUntil ≤ t₂)
  stale : ∀ row ∈ tables.executionsOf projectId, row.isOpen = true →
    row.execution.txHash.isSome = true → ∀ observed, row.execution.lastObservedAt = some observed →
      ¬ (t₁ - stale ≤ observed ∧ observed < t₂ - stale)
  age : ∀ oldest, tables.oldestOpen projectId = some oldest →
    epochSeconds (t₁ - oldest) = epochSeconds (t₂ - oldest)
  keys : ∀ key ∈ tables.keysOf projectId, key.revokedAt = none → ∀ expiresAt,
    key.expiresAt = some expiresAt → ¬ (t₁ < expiresAt ∧ expiresAt ≤ t₂) ∧
      ¬ (t₁ + weekMicros < expiresAt ∧ expiresAt ≤ t₂ + weekMicros)

section Figures

variable {tables : ProjectTables} {projectId : String} {stale t₁ t₂ : Int}

theorem due_eq_iff (hle : t₁ ≤ t₂) (rows : List ProjectExecutionRow) :
    rows.countP (·.isDue t₁) = rows.countP (·.isDue t₂) ↔
      ∀ row ∈ rows, ∀ next, row.execution.nextReconcileAt = some next →
        ¬ (t₁ < next ∧ next ≤ t₂) := by
  rw [countP_eq_iff]
  · refine forall₂_congr fun row _ => ?_
    cases hnext : row.execution.nextReconcileAt with
    | none => simp [ProjectExecutionRow.isDue, hnext]
    | some next =>
        simp only [ProjectExecutionRow.isDue, hnext, Option.any_some, decide_eq_true_eq,
          Option.some.injEq, forall_eq']
        omega
  · intro row _ hdue
    obtain ⟨next, hnext, hpast⟩ := (Option.any_eq_true _ _).mp hdue
    refine (Option.any_eq_true _ _).mpr ⟨next, hnext, ?_⟩
    rw [decide_eq_true_eq] at hpast ⊢
    omega

theorem leased_eq_iff (hle : t₁ ≤ t₂) (rows : List ProjectExecutionRow) :
    rows.countP (·.isLeased t₁) = rows.countP (·.isLeased t₂) ↔
      ∀ row ∈ rows, ∀ leaseUntil, row.execution.reconcileLeaseUntil = some leaseUntil →
        ¬ (t₁ < leaseUntil ∧ leaseUntil ≤ t₂) := by
  -- leases only run out, so the later count is the smaller one
  rw [eq_comm, countP_eq_iff]
  · refine forall₂_congr fun row _ => ?_
    cases hlease : row.execution.reconcileLeaseUntil with
    | none => simp [ProjectExecutionRow.isLeased, hlease]
    | some leaseUntil =>
        simp only [ProjectExecutionRow.isLeased, hlease, Option.any_some, decide_eq_true_eq,
          Option.some.injEq, forall_eq']
        omega
  · intro row _ hleased
    obtain ⟨leaseUntil, hlease, hruns⟩ := (Option.any_eq_true _ _).mp hleased
    refine (Option.any_eq_true _ _).mpr ⟨leaseUntil, hlease, ?_⟩
    rw [decide_eq_true_eq] at hruns ⊢
    omega

theorem stale_eq_iff (hle : t₁ ≤ t₂) (rows : List ProjectExecutionRow) :
    rows.countP (·.isStale t₁ stale) = rows.countP (·.isStale t₂ stale) ↔
      ∀ row ∈ rows, row.isOpen = true → row.execution.txHash.isSome = true →
        ∀ observed, row.execution.lastObservedAt = some observed →
          ¬ (t₁ - stale ≤ observed ∧ observed < t₂ - stale) := by
  rw [countP_eq_iff]
  · refine forall₂_congr fun row _ => ?_
    cases hobserved : row.execution.lastObservedAt with
    | none => simp [ProjectExecutionRow.isStale, hobserved]
    | some observed =>
        simp only [ProjectExecutionRow.isStale, hobserved, Option.all_some, Bool.and_eq_true,
          decide_eq_true_eq, Option.some.injEq, forall_eq']
        constructor
        · intro hcrossed hopen htx hwindow
          have hbefore := (hcrossed ⟨⟨hopen, htx⟩, hwindow.2⟩).2
          omega
        · rintro hnone ⟨⟨hopen, htx⟩, hafter⟩
          have hwindow := hnone hopen htx
          exact ⟨⟨hopen, htx⟩, by omega⟩
  · intro row _ hstale
    rw [ProjectExecutionRow.isStale, Bool.and_eq_true, Option.all_eq_true] at hstale ⊢
    refine ⟨hstale.1, ?_⟩
    intro observed hobserved
    have hbefore := hstale.2 observed hobserved
    rw [decide_eq_true_eq] at hbefore ⊢
    omega

theorem age_eq_iff (oldest : Option Int) :
    (oldest.map fun oldest => epochSeconds (t₁ - oldest)) =
        (oldest.map fun oldest => epochSeconds (t₂ - oldest)) ↔
      ∀ oldestAt, oldest = some oldestAt → epochSeconds (t₁ - oldestAt) = epochSeconds (t₂ - oldestAt) := by
  cases oldest with
  | none => simp
  | some oldestAt => simp

theorem active_eq_iff (hle : t₁ ≤ t₂) (keys : List ApiKeyRow) :
    keys.countP (·.isActive t₁) = keys.countP (·.isActive t₂) ↔
      ∀ key ∈ keys, key.revokedAt = none → ∀ expiresAt, key.expiresAt = some expiresAt →
        ¬ (t₁ < expiresAt ∧ expiresAt ≤ t₂) := by
  rw [eq_comm, countP_eq_iff]
  · refine forall₂_congr fun key _ => ?_
    cases hexpires : key.expiresAt with
    | none => simp [ApiKeyRow.isActive, hexpires]
    | some expiresAt =>
        simp only [ApiKeyRow.isActive, hexpires, Option.all_some, Bool.and_eq_true,
          Option.isNone_iff_eq_none, decide_eq_true_eq, Option.some.injEq, forall_eq']
        constructor
        · intro hkept hnone hcrossed
          have hafter := (hkept ⟨hnone, hcrossed.1⟩).2
          omega
        · rintro hnone ⟨hrevoked, hbefore⟩
          have hwindow := hnone hrevoked
          exact ⟨hrevoked, by omega⟩
  · intro key _ hactive
    rw [ApiKeyRow.isActive, Bool.and_eq_true, Option.all_eq_true] at hactive ⊢
    refine ⟨hactive.1, ?_⟩
    intro expiresAt hexpires
    have hafter := hactive.2 expiresAt hexpires
    rw [decide_eq_true_eq] at hafter ⊢
    omega

/-- Where no key runs out, the keys of the 7-day window only grow more. -/
theorem expiring_eq_iff (hle : t₁ ≤ t₂) (keys : List ApiKeyRow)
    (hactive : ∀ key ∈ keys, key.revokedAt = none → ∀ expiresAt,
      key.expiresAt = some expiresAt → ¬ (t₁ < expiresAt ∧ expiresAt ≤ t₂)) :
    keys.countP (·.expiresWithin7Days t₁) = keys.countP (·.expiresWithin7Days t₂) ↔
      ∀ key ∈ keys, key.revokedAt = none → ∀ expiresAt, key.expiresAt = some expiresAt →
        ¬ (t₁ + weekMicros < expiresAt ∧ expiresAt ≤ t₂ + weekMicros) := by
  have hweek : 0 ≤ weekMicros := by decide
  rw [countP_eq_iff]
  · refine forall₂_congr fun key hkey => ?_
    have hkept := hactive key hkey
    cases hexpires : key.expiresAt with
    | none => simp [ApiKeyRow.expiresWithin7Days, hexpires]
    | some expiresAt =>
        simp only [hexpires, Option.some.injEq, forall_eq'] at hkept
        simp only [ApiKeyRow.expiresWithin7Days, hexpires, Option.any_some, Bool.and_eq_true,
          Option.isNone_iff_eq_none, decide_eq_true_eq, Option.some.injEq, forall_eq']
        constructor
        · intro hgrown hnone hcrossed
          have hnotYet := hkept hnone
          have hbefore := (hgrown ⟨hnone, by omega, hcrossed.2⟩).2
          omega
        · rintro hnone ⟨hrevoked, hafter, hwithin⟩
          have hwindow := hnone hrevoked
          exact ⟨hrevoked, by omega, by omega⟩
  · intro key hkey hexpiring
    rw [ApiKeyRow.expiresWithin7Days, Bool.and_eq_true, Option.any_eq_true] at hexpiring ⊢
    obtain ⟨hnone, expiresAt, hexpires, hwindow⟩ := hexpiring
    refine ⟨hnone, expiresAt, hexpires, ?_⟩
    have hkept := hactive key hkey (Option.isNone_iff_eq_none.mp hnone) expiresAt hexpires
    simp only [Bool.and_eq_true, decide_eq_true_eq] at hwindow ⊢
    omega

/-- **The figures are the same** exactly where nothing crosses. -/
theorem health_eq_iff (hle : t₁ ≤ t₂) :
    getOperationalHealth projectId stale t₁ tables =
        getOperationalHealth projectId stale t₂ tables ↔
      NothingCrosses tables projectId stale t₁ t₂ := by
  simp only [getOperationalHealth, OperationalHealth.mk.injEq, due_eq_iff hle, leased_eq_iff hle,
    stale_eq_iff hle, age_eq_iff, active_eq_iff hle, true_and, and_true]
  constructor
  · rintro ⟨hdue, hleased, hstale, hage, hactive, hexpiring⟩
    have hwithin := (expiring_eq_iff hle _ hactive).mp hexpiring
    exact ⟨hdue, hleased, hstale, hage, fun key hkey hnone expiresAt hexpires =>
      ⟨hactive key hkey hnone expiresAt hexpires, hwithin key hkey hnone expiresAt hexpires⟩⟩
  · rintro ⟨hdue, hleased, hstale, hage, hkeys⟩
    have hactive := fun key hkey hnone expiresAt hexpires =>
      (hkeys key hkey hnone expiresAt hexpires).1
    refine ⟨hdue, hleased, hstale, hage, hactive, (expiring_eq_iff hle _ hactive).mpr ?_⟩
    exact fun key hkey hnone expiresAt hexpires => (hkeys key hkey hnone expiresAt hexpires).2

end Figures

/-! ## The text hashed -/

section Text

variable {localeCompare : String → String → Ordering}

theorem sorted_int_inj {a b : Int}
    (h : Json.sorted localeCompare (.int a) = Json.sorted localeCompare (.int b)) : a = b := by
  simp only [Json.int, Json.sorted, Json.num.injEq] at h
  have hfloor := congrArg Js.Number.floor h
  rwa [Js.Number.floor_ofInt, Js.Number.floor_ofInt] at hfloor

theorem sorted_intOrNull_inj {a b : Option Int}
    (h : Json.sorted localeCompare (intOrNull a) = Json.sorted localeCompare (intOrNull b)) :
    a = b := by
  cases a with
  | none =>
      cases b with
      | none => rfl
      | some b => simp [intOrNull, Json.int, Json.sorted] at h
  | some a =>
      cases b with
      | none => simp [intOrNull, Json.int, Json.sorted] at h
      | some b => rw [sorted_int_inj h]

/-- A member of two objects with equal sorted values. -/
theorem sorted_member (key : String) {members members' : List (String × Json)} {a b : Json}
    (h : Json.sorted localeCompare (.obj members) = Json.sorted localeCompare (.obj members'))
    (hkeys : (members.map Prod.fst).Nodup) (ha : members.lookup key = some a)
    (hb : members'.lookup key = some b) :
    Json.sorted localeCompare a = Json.sorted localeCompare b := by
  have hlookup := Json.lookup_sorted localeCompare hkeys h key
  rw [ha, hb, Option.map_some, Option.map_some] at hlookup
  exact Option.some.inj hlookup

/-- **The printed figures** determine those that move. -/
theorem health_inj {health health' : OperationalHealth}
    (h : Json.sorted localeCompare health.toJson = Json.sorted localeCompare health'.toJson) :
    health.dueReconciliations = health'.dueReconciliations ∧
      health.leasedReconciliations = health'.leasedReconciliations ∧
      health.staleActiveIntents = health'.staleActiveIntents ∧
      health.oldestActiveAgeSeconds = health'.oldestActiveAgeSeconds ∧
      health.activeApiKeys = health'.activeApiKeys ∧
      health.expiringApiKeys7d = health'.expiringApiKeys7d := by
  have hkeys : (health.members.map Prod.fst).Nodup := by
    show ["dueReconciliations", "leasedReconciliations", "staleActiveIntents",
      "oldestActiveAgeSeconds", "pendingWebhooks", "failedWebhooks", "activeApiKeys",
      "expiringApiKeys7d", "lastEventAt"].Nodup
    decide
  have hmember : ∀ key a b, health.members.lookup key = some a →
      health'.members.lookup key = some b →
        Json.sorted localeCompare a = Json.sorted localeCompare b :=
    fun key a b ha hb => sorted_member key h hkeys ha hb
  have hcount : ∀ key (a b : Nat), health.members.lookup key = some (.int a) →
      health'.members.lookup key = some (.int b) → a = b :=
    fun key a b ha hb => Int.ofNat.inj (sorted_int_inj (hmember key _ _ ha hb))
  refine ⟨hcount "dueReconciliations" _ _ rfl rfl, hcount "leasedReconciliations" _ _ rfl rfl,
    hcount "staleActiveIntents" _ _ rfl rfl, ?_, hcount "activeApiKeys" _ _ rfl rfl,
    hcount "expiringApiKeys7d" _ _ rfl rfl⟩
  exact sorted_intOrNull_inj (hmember "oldestActiveAgeSeconds" _ _ rfl rfl)

theorem contentMembers_eq (settings : EvidenceSettings) (project : ProjectRecord)
    (generatedAt : String) (metrics : ProjectMetrics) (health : OperationalHealth)
    (webhooks : List WebhookEndpointSummary) :
    contentMembers (evidenceDocument settings project generatedAt metrics health webhooks) =
      [("schemaVersion", .str "cellflow-project-evidence-v1"), ("project", project.toJson),
        ("release", settings.release), ("metrics", metrics.toJson),
        ("operations", health.toJson), ("integrations", integrationsJson webhooks health)] := by
  simp [contentMembers, evidenceDocument]

/-- The text hashed determines the figures that move. -/
theorem contentText_inj {settings : EvidenceSettings} {project : ProjectRecord}
    {generatedAt generatedAt' : String} {metrics : ProjectMetrics}
    {health health' : OperationalHealth} {webhooks : List WebhookEndpointSummary}
    (h : contentText localeCompare
        (evidenceDocument settings project generatedAt metrics health webhooks) =
      contentText localeCompare
        (evidenceDocument settings project generatedAt' metrics health' webhooks)) :
    Json.sorted localeCompare health.toJson = Json.sorted localeCompare health'.toJson := by
  rw [contentText, contentText, stable_inj, contentMembers_eq, contentMembers_eq] at h
  refine sorted_member "operations" h ?_ rfl rfl
  show ["schemaVersion", "project", "release", "metrics", "operations", "integrations"].Nodup
  decide

end Text

/-! ## The content hash -/

section Exports

variable (sha256 : String → String) (localeCompare : String → String → Ordering)
  (settings : EvidenceSettings) (project : ProjectRecord) (tables : ProjectTables)

/-- The text a call hashes. -/
def exportText (times : ExportTimes) : String :=
  contentText localeCompare (projectDocument settings project times tables)

/-- A persisted export hashes what a read-only one does. -/
theorem contentSha256_eq (persist : Option String) (times : ExportTimes) :
    (projectEvidence sha256 localeCompare settings project persist times tables).1.contentSha256 =
      sha256 (exportText localeCompare settings project tables times) := by
  cases persist with
  | none => rfl
  | some exportId => rfl

/-- The stored exports are not read. -/
theorem exportText_stored (persist : Option String) (times times' : ExportTimes) :
    exportText localeCompare settings project
        (projectEvidence sha256 localeCompare settings project persist times tables).2 times' =
      exportText localeCompare settings project tables times' := by
  cases persist with
  | none => rfl
  | some exportId => rfl

/-- **The texts of two exports** are equal exactly where nothing crosses between them. -/
theorem exportText_eq_iff {times times' : ExportTimes} (hle : times.now ≤ times'.now) :
    exportText localeCompare settings project tables times' =
        exportText localeCompare settings project tables times ↔
      NothingCrosses tables project.id (staleInterval (settings.staleIntentMinutes.getD 10))
        times.now times'.now := by
  rw [← health_eq_iff hle]
  constructor
  · intro htext
    obtain ⟨hdue, hleased, hstale, hage, hactive, hexpiring⟩ := health_inj (contentText_inj htext)
    rw [OperationalHealth.mk.injEq]
    exact ⟨hdue.symm, hleased.symm, hstale.symm, hage.symm, rfl, rfl, hactive.symm,
      hexpiring.symm, rfl⟩
  · intro hhealth
    unfold exportText contentText projectDocument operationalHealth
    rw [contentMembers_eq, contentMembers_eq, hhealth]

/-- **The content hash is stable** exactly where nothing crosses: of two exports of one state, read-only
or persisted, the first leaves the tables to the second as it found them, but for its own record.  The
hash tells the two texts apart. -/
theorem contentSha256_stable_iff (persist persist' : Option String) {times times' : ExportTimes}
    (hle : times.now ≤ times'.now)
    (hsha : sha256 (exportText localeCompare settings project tables times') =
        sha256 (exportText localeCompare settings project tables times) →
      exportText localeCompare settings project tables times' =
        exportText localeCompare settings project tables times) :
    (projectEvidence sha256 localeCompare settings project persist' times'
        (projectEvidence sha256 localeCompare settings project persist times tables).2).1.contentSha256 =
      (projectEvidence sha256 localeCompare settings project persist times tables).1.contentSha256 ↔
      NothingCrosses tables project.id (staleInterval (settings.staleIntentMinutes.getD 10))
        times.now times'.now := by
  rw [contentSha256_eq, contentSha256_eq, exportText_stored,
    ← exportText_eq_iff localeCompare settings project tables hle]
  exact ⟨hsha, congrArg sha256⟩

end Exports

/-! ## An open execution -/

/-- An execution as its intent creates it, at the instant 0. -/
def createdExecution : ProjectExecutionRow where
  projectId := "p"
  createdAt := 0
  expectedCells := []
  execution :=
    { txHash := none, inputOutPoints := [], inputRefs := [], submissionStatus := .notSubmitted
      chainStatus := .unobserved, workflowStatus := .idle, confirmationPolicy := .committed
      confirmationCount := 0, committedBlockHash := none, committedBlockNumber := none
      rejectionReason := none, submissionErrorCode := none, submissionErrorType := none
      submissionErrorDetails := none, conflictType := none, conflictDetails := none
      assertionStatus := none, settlementReadyAt := none, assertionResult := none
      lastRawObservation := none, lastObservedAt := none, nextReconcileAt := none
      reconcileAttempts := 0, version := 0, reconcileLeaseUntil := none }

/-- A project with one execution, which is open. -/
def oneOpenExecution : ProjectTables where
  executions := [createdExecution]
  deliveries := []
  endpoints := []
  keys := []
  events := []
  exports := []

/-- A project without a genesis hash. -/
def sampleProject : ProjectRecord where
  id := "p"
  name := "p"
  network := .testnet
  confirmationPolicy := .committed
  rpcGenesisHash := none

/-- A process that was given no settings. -/
def bareSettings : EvidenceSettings where
  vercelGitCommitSha := none
  releaseSha := none
  vercelEnv := none
  nodeEnv := none
  staleIntentMinutes := none

theorem oldestOpen_oneOpenExecution : oneOpenExecution.oldestOpen "p" = some 0 := by decide

/-- Nothing crosses while the age of the one open execution rounds to the same second. -/
theorem nothingCrosses_oneOpenExecution {stale t₁ t₂ : Int}
    (hage : epochSeconds (t₁ - 0) = epochSeconds (t₂ - 0)) :
    NothingCrosses oneOpenExecution "p" stale t₁ t₂ := by
  have hrow : ∀ row ∈ oneOpenExecution.executionsOf "p", row = createdExecution := by
    intro row hrow
    exact List.mem_singleton.mp (List.mem_of_mem_filter hrow)
  refine ⟨?_, ?_, ?_, ?_, ?_⟩
  · intro row hmem next hnext
    rw [hrow row hmem] at hnext
    cases hnext
  · intro row hmem leaseUntil hlease
    rw [hrow row hmem] at hlease
    cases hlease
  · intro row hmem _ htx
    rw [hrow row hmem] at htx
    cases htx
  · intro oldest holdest
    rw [oldestOpen_oneOpenExecution] at holdest
    obtain rfl := Option.some.inj holdest
    exact hage
  · intro key hkey
    cases hkey

/-- The SHA-256 of the texts hashed below: the open execution is one second old, or two. -/
def sampleSha256 (text : String) : String :=
  if text = exportText compare bareSettings sampleProject oneOpenExecution ⟨1000000, 1000⟩ then
    "283bbda189be440b587a92ec203db5a7f1554a59aa03715730f30dfd63f911e8"
  else "ff83b0b14c63fbbace5f2343d1d85e073a667254ef56ee958d0bfd1686077756"

theorem exportText_of_sampleSha256 {text : String}
    (h : sampleSha256 text = sampleSha256
      (exportText compare bareSettings sampleProject oneOpenExecution ⟨1000000, 1000⟩)) :
    text = exportText compare bareSettings sampleProject oneOpenExecution ⟨1000000, 1000⟩ := by
  by_contra hne
  rw [sampleSha256, if_neg hne, sampleSha256, if_pos rfl] at h
  exact absurd h (by decide)

/-- A stored export a second after the creation, and a read-only one 400 milliseconds later. -/
theorem contentSha256_stable_iff_sameSecond :
    (projectEvidence sampleSha256 compare bareSettings sampleProject none ⟨1400000, 1400⟩
        (projectEvidence sampleSha256 compare bareSettings sampleProject (some "export")
          ⟨1000000, 1000⟩ oneOpenExecution).2).1.contentSha256 =
      (projectEvidence sampleSha256 compare bareSettings sampleProject (some "export")
        ⟨1000000, 1000⟩ oneOpenExecution).1.contentSha256 ↔
      NothingCrosses oneOpenExecution "p" (staleInterval 10) 1000000 1400000 := by
  have hle : (1000000 : Int) ≤ 1400000 := by decide
  have htext : exportText compare bareSettings sampleProject oneOpenExecution ⟨1400000, 1400⟩ =
      exportText compare bareSettings sampleProject oneOpenExecution ⟨1000000, 1000⟩ :=
    (exportText_eq_iff compare bareSettings sampleProject oneOpenExecution hle).mpr
      (nothingCrosses_oneOpenExecution (by decide))
  exact contentSha256_stable_iff sampleSha256 compare bareSettings sampleProject oneOpenExecution
    (some "export") none hle fun _ => htext

/-- Two exports, one second apart, of a project with an open execution: the hashes differ. -/
theorem open_execution_changes_content :
    (projectEvidence sampleSha256 compare bareSettings sampleProject none ⟨2000000, 2000⟩
        oneOpenExecution).1.contentSha256 ≠
      (projectEvidence sampleSha256 compare bareSettings sampleProject none ⟨1000000, 1000⟩
        oneOpenExecution).1.contentSha256 := by
  intro hsame
  have hle : (1000000 : Int) ≤ 2000000 := by decide
  have htext : exportText compare bareSettings sampleProject oneOpenExecution ⟨2000000, 2000⟩ =
      exportText compare bareSettings sampleProject oneOpenExecution ⟨1000000, 1000⟩ :=
    exportText_of_sampleSha256 hsame
  have hcrosses :=
    (exportText_eq_iff compare bareSettings sampleProject oneOpenExecution hle).mp htext
  exact absurd (hcrosses.age 0 oldestOpen_oneOpenExecution) (by decide)

end CellFlow
