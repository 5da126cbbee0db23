/-
# CellFlow.Properties.Migrations — what concurrent migrations leave.

Any number of calls of `migrateDatabase`, of any releases, wait for the lock, run their statements, fail
or come through, in any order.  Each migration is run and recorded once, by the one call that reports
it; and where the releases are stages of one history, the schema is at every moment that of the newest
one that has come through (`migrations_once`).
-/
import CellFlow.Db.Migrate

namespace CellFlow

open Runs (Run)
open Locked (Alone Event start)

/-- A move of a connection that runs the migrations. -/
abbrev MigrationEvent : Type := Event Schema MigrationResult MigrationError

/-- The calls that came through, with what they returned, in the order of their commits. -/
def migrationCalls (events : List MigrationEvent) :
    List (Locked.Txn Schema MigrationResult MigrationError × MigrationResult) :=
  events.filterMap Event.committed?

/-- Every transaction is a call of `migrateDatabase`. -/
def OnlyMigrates (events : List MigrationEvent) : Prop :=
  ∀ id program, .begin id program ∈ events → ∃ release, program = migrateDatabase release

section

variable {schema schema' : Schema} {release : Release} {result : MigrationResult}

/-- One call alone, by what it reports. -/
structure Migrated (release : Release) (schema schema' : Schema) (result : MigrationResult) : Prop where
  hasTable : schema'.hasTable = true
  versions : schema'.versions = schema.versions ++ result.applied
  executed : schema'.executed =
    schema.executed ++ (missing schema.versions release.migrations).map (·.source)
  applied : result.applied = (missing schema.versions release.migrations).map (·.version)
  skipped : result.skipped = (present schema.versions release.migrations).map (·.version)

theorem migrated_of_alone (h : Alone schema (migrateDatabase release, result) schema') :
    Migrated release schema schema' result := by
  have hrun := h
  rw [Alone, migrateDatabase_run] at hrun
  obtain ⟨rfl, rfl⟩ := Prod.mk.inj (Except.ok.inj hrun)
  exact ⟨rfl, rfl, rfl, rfl, rfl⟩

theorem Migrated.listed (h : Migrated release schema schema' result) :
    ∀ migration ∈ release.migrations, migration.version ∈ schema'.versions := by
  intro migration hmem
  rw [h.versions, h.applied, List.mem_append]
  by_cases hlisted : migration.version ∈ schema.versions
  · exact Or.inl hlisted
  · right
    apply List.mem_map.mpr
    exact ⟨migration, List.mem_filter.mpr ⟨hmem, decide_eq_true hlisted⟩, rfl⟩

theorem Migrated.nodup (h : Migrated release schema schema' result) (hi : schema.versions.Nodup) :
    schema'.versions.Nodup := by
  rw [h.versions, List.nodup_append]
  refine ⟨hi, ?_, ?_⟩
  · rw [h.applied]
    exact release.distinct.sublist (List.filter_sublist.map _)
  · intro version hbefore other happlied
    rw [h.applied] at happlied
    obtain ⟨migration, hmissing, rfl⟩ := List.mem_map.mp happlied
    rintro rfl
    exact of_decide_eq_true (List.mem_filter.mp hmissing).2 hbefore

/-! ## Stages of one history -/

/-- The schema after the first `n` migrations of a history. -/
structure AtStage (history : List Migration) (n : Nat) (schema : Schema) : Prop where
  versions : schema.versions = (history.take n).map (·.version)
  executed : schema.executed = (history.take n).map (·.source)

theorem missing_take {history : List Migration} (hdistinct : (history.map (·.version)).Nodup) :
    ∀ n m : Nat, missing ((history.take n).map (·.version)) (history.take m) =
      (history.take m).drop n := by
  induction history with
  | nil =>
      intro n m
      simp [missing]
  | cons migration rest ih =>
      intro n m
      rw [List.map_cons, List.nodup_cons] at hdistinct
      cases n with
      | zero => simp [missing]
      | succ n =>
          cases m with
          | zero => simp [missing]
          | succ m =>
              have hlisted : missing (((migration :: rest).take (n + 1)).map (·.version))
                  ((migration :: rest).take (m + 1)) =
                    missing ((rest.take n).map (·.version)) (rest.take m) := by
                rw [List.take_succ_cons, List.take_succ_cons, List.map_cons, missing,
                  List.filter_cons_of_neg (by simp)]
                -- no later migration has the version of the first
                apply List.filter_congr
                intro other hother
                have hne : other.version ≠ migration.version := fun heq =>
                  hdistinct.1 (List.mem_map.mpr ⟨other, List.mem_of_mem_take hother, heq⟩)
                simp [hne]
              rw [hlisted, ih hdistinct.2 n m, List.take_succ_cons, List.drop_succ_cons]

theorem take_append_drop_take {α : Type} (l : List α) (n m : Nat) :
    l.take n ++ (l.take m).drop n = l.take (max n m) := by
  rcases Nat.le_total m n with hle | hle
  · rw [Nat.max_eq_left hle, List.drop_of_length_le, List.append_nil]
    rw [List.length_take]
    omega
  · have hfirst : l.take n = (l.take m).take n := by
      rw [List.take_take, Nat.min_eq_left hle]
    rw [Nat.max_eq_right hle, hfirst]
    exact List.take_append_drop n (l.take m)

theorem AtStage.migrated {history : List Migration} {n m : Nat}
    (hdistinct : (history.map (·.version)).Nodup) (hi : AtStage history n schema)
    (hrelease : release.migrations = history.take m) (h : Migrated release schema schema' result) :
    AtStage history (max n m) schema' := by
  have hmissing : missing schema.versions release.migrations = (history.take m).drop n := by
    rw [hi.versions, hrelease, missing_take hdistinct]
  constructor
  · rw [h.versions, h.applied, hmissing, hi.versions, ← List.map_append, take_append_drop_take]
  · rw [h.executed, hmissing, hi.executed, ← List.map_append, take_append_drop_take]

/-! ## Calls one after another -/

/-- What a call that came through reports holds of the schema then and later. -/
structure Reported (release : Release) (result : MigrationResult) (schema : Schema) : Prop where
  latest : result.latest = release.latestMigrationVersion
  complete : (result.applied ++ result.skipped).Perm (release.migrations.map (·.version))
  listed : ∀ migration ∈ release.migrations, migration.version ∈ schema.versions

/-- The migrations of its release a call reports as applied. -/
def appliedFrom (release : Release) (result : MigrationResult) : List Migration :=
  release.migrations.filter fun migration => migration.version ∈ result.applied

/-- The call is of the release, and what it reports are migrations of that release. -/
structure CallOf (call : Locked.Txn Schema MigrationResult MigrationError × MigrationResult)
    (release : Release) : Prop where
  program : call.1 = migrateDatabase release
  applied : call.2.applied = (appliedFrom release call.2).map (·.version)

/-- Every migration recorded was run, once, by the call that reports it, and what ran for it is the
source the release of that call has. -/
structure RunOnce (calls : List (Locked.Txn Schema MigrationResult MigrationError × MigrationResult))
    (schema : Schema) : Prop where
  nodup : schema.versions.Nodup
  reported : schema.versions = calls.flatMap (·.2.applied)
  ran : ∃ releases : List Release, List.Forall₂ CallOf calls releases ∧
    schema.executed =
      (calls.zip releases).flatMap fun ran => (appliedFrom ran.2 ran.1.2).map (·.source)
  calls : ∀ call ∈ calls, ∃ release, call.1 = migrateDatabase release ∧
    Reported release call.2 schema

theorem missing_present_perm (versions : List String) (migrations : List Migration) :
    (missing versions migrations ++ present versions migrations).Perm migrations := by
  have hsplit := List.filter_append_perm (fun migration : Migration => migration.version ∉ versions)
    migrations
  have hpresent : migrations.filter (fun migration => !decide (migration.version ∉ versions)) =
      present versions migrations := by
    apply List.filter_congr
    intro migration _
    simp
  rwa [hpresent] at hsplit

/-- What a call alone runs are the migrations it reports. -/
theorem Migrated.missing_eq (h : Migrated release schema schema' result) :
    missing schema.versions release.migrations = appliedFrom release result := by
  apply List.filter_congr
  intro migration hmem
  rw [decide_eq_decide, h.applied]
  constructor
  · intro hmissing
    exact List.mem_map.mpr ⟨migration, List.mem_filter.mpr ⟨hmem, decide_eq_true hmissing⟩, rfl⟩
  · intro happlied
    obtain ⟨other, hother, hversion⟩ := List.mem_map.mp happlied
    rw [← hversion]
    exact of_decide_eq_true (List.mem_filter.mp hother).2

theorem runOnce {calls : List (Locked.Txn Schema MigrationResult MigrationError × MigrationResult)}
    (h : Run Alone emptySchema calls schema)
    (honly : ∀ call ∈ calls, ∃ release, call.1 = migrateDatabase release) : RunOnce calls schema := by
  induction h with
  | start =>
      refine ⟨List.nodup_nil, rfl, ⟨[], .nil, rfl⟩, ?_⟩
      intro call hcall
      cases hcall
  | @next calls schema call schema' hrun hs ih =>
      have hbefore := ih fun other hother => honly other (List.mem_append_left _ hother)
      obtain ⟨program, result⟩ := call
      obtain ⟨release, hprogram⟩ := honly (program, result) (List.mem_append_right _ List.mem_cons_self)
      obtain rfl : program = migrateDatabase release := hprogram
      have hmigrated := migrated_of_alone hs
      have hrun' := hs
      rw [Alone, migrateDatabase_run] at hrun'
      obtain ⟨releases, hcalls, hexecuted⟩ := hbefore.ran
      have hcall : CallOf (migrateDatabase release, result) release :=
        ⟨rfl, by rw [hmigrated.applied, hmigrated.missing_eq]⟩
      refine ⟨hmigrated.nodup hbefore.nodup, ?_, ?_, ?_⟩
      · rw [hmigrated.versions, hbefore.reported, List.flatMap_append]
        simp
      · refine ⟨releases ++ [release], List.rel_append hcalls (.cons hcall .nil), ?_⟩
        rw [hmigrated.executed, hexecuted, hmigrated.missing_eq, List.zip_append hcalls.length_eq,
          List.flatMap_append]
        simp
      · intro other hother
        rcases List.mem_append.mp hother with hearlier | hlast
        · obtain ⟨release', hprogram', hreported⟩ := hbefore.calls other hearlier
          refine ⟨release', hprogram', hreported.latest, hreported.complete, ?_⟩
          intro migration hmem
          rw [hmigrated.versions]
          exact List.mem_append_left _ (hreported.listed migration hmem)
        · obtain rfl := List.mem_singleton.mp hlast
          refine ⟨release, rfl, ?_, ?_, hmigrated.listed⟩
          · exact (congrArg (·.2.latest) (Except.ok.inj hrun')).symm
          · show (result.applied ++ result.skipped).Perm _
            rw [hmigrated.applied, hmigrated.skipped, ← List.map_append]
            exact (missing_present_perm _ _).map _

/-- Every call is of a stage of the history. -/
def AllStages (history : List Migration)
    (calls : List (Locked.Txn Schema MigrationResult MigrationError × MigrationResult)) : Prop :=
  ∀ call ∈ calls, ∃ release m, call.1 = migrateDatabase release ∧
    release.migrations = history.take m

/-- The schema is that of the newest release that has come through. -/
structure AtNewest (history : List Migration)
    (calls : List (Locked.Txn Schema MigrationResult MigrationError × MigrationResult))
    (n : Nat) (schema : Schema) : Prop where
  stage : AtStage history n schema
  newest : ∀ call ∈ calls, ∃ release m, call.1 = migrateDatabase release ∧
    release.migrations = history.take m ∧ m ≤ n
  reached : n = 0 ∨ ∃ call ∈ calls, ∃ release, call.1 = migrateDatabase release ∧
    release.migrations = history.take n

theorem atNewest {history : List Migration} (hdistinct : (history.map (·.version)).Nodup)
    {calls : List (Locked.Txn Schema MigrationResult MigrationError × MigrationResult)}
    (h : Run Alone emptySchema calls schema) (hstages : AllStages history calls) :
    ∃ n, AtNewest history calls n schema := by
  induction h with
  | start =>
      refine ⟨0, ⟨rfl, rfl⟩, ?_, Or.inl rfl⟩
      intro call hcall
      cases hcall
  | @next calls schema call schema' hrun hs ih =>
      obtain ⟨n, hbefore⟩ := ih fun other hother => hstages other (List.mem_append_left _ hother)
      obtain ⟨program, result⟩ := call
      obtain ⟨release, m, hprogram, hrelease⟩ :=
        hstages (program, result) (List.mem_append_right _ List.mem_cons_self)
      obtain rfl : program = migrateDatabase release := hprogram
      refine ⟨max n m, hbefore.stage.migrated hdistinct hrelease (migrated_of_alone hs), ?_, ?_⟩
      · intro other hother
        rcases List.mem_append.mp hother with hearlier | hlast
        · obtain ⟨release', m', hprogram', hrelease', hle⟩ := hbefore.newest other hearlier
          exact ⟨release', m', hprogram', hrelease', by omega⟩
        · obtain rfl := List.mem_singleton.mp hlast
          exact ⟨release, m, rfl, hrelease, by omega⟩
      · rcases Nat.le_total m n with hle | hle
        · rw [Nat.max_eq_left hle]
          rcases hbefore.reached with hzero | ⟨other, hother, hreached⟩
          · exact Or.inl hzero
          · exact Or.inr ⟨other, List.mem_append_left _ hother, hreached⟩
        · rw [Nat.max_eq_right hle]
          exact Or.inr ⟨_, List.mem_append_right _ List.mem_cons_self, release, rfl, hrelease⟩

end

/-- **Migrations run once**, whatever the interleaving of the calls, their failures and the crashes of
their connections: what the table lists was run once each, by the one call that reports it; a call that
came through reports each of its migrations, and the table lists them from then on.  Where the
releases are stages of one history, the schema is that of the newest one that has come through. -/
theorem migrations_once {events : List MigrationEvent}
    {w : Locked.World Schema MigrationResult MigrationError}
    (h : Run Locked.Step (start emptySchema) events w) (honly : OnlyMigrates events) :
    RunOnce (migrationCalls events) w.committed ∧
    ∀ history : List Migration, (history.map (·.version)).Nodup →
      AllStages history (migrationCalls events) →
      ∃ n, AtNewest history (migrationCalls events) n w.committed := by
  have hserial := Locked.serial_run h
  refine ⟨runOnce hserial ?_, fun history hdistinct hstages => atNewest hdistinct hserial hstages⟩
  intro call hcall
  obtain ⟨id, hbegun⟩ := Locked.begun_of_committed h hcall
  exact honly id call.1 hbegun

/-- A release of one migration. -/
def firstRelease : Release where
  migrations := [⟨"001_init.sql", "CREATE TABLE projects (id text)"⟩]
  distinct := List.nodup_singleton _

/-- Two calls, of which the first loses its connection after a statement. -/
def interruptedCalls : List MigrationEvent :=
  [.begin 0 (migrateDatabase firstRelease), .begin 1 (migrateDatabase firstRelease), .acquire 0,
    .statement 0, .rollback 0, .acquire 1, .statement 1, .statement 1, .statement 1, .statement 1,
    .commit 1 (migrateDatabase firstRelease) ⟨some "001_init.sql", ["001_init.sql"], []⟩]

theorem migrations_once_interrupted :
    ∃ w : Locked.World Schema MigrationResult MigrationError,
      Run Locked.Step (start emptySchema) interruptedCalls w ∧
        RunOnce (migrationCalls interruptedCalls) w.committed ∧
        ∃ n, AtNewest firstRelease.migrations (migrationCalls interruptedCalls) n w.committed := by
  have hwaiting : Run Locked.Step (start emptySchema)
      [.begin 0 (migrateDatabase firstRelease), .begin 1 (migrateDatabase firstRelease), .acquire 0,
        .statement 0, .rollback 0, .acquire 1] _ :=
    .next (.next (.next (.next (.next (.next .start (.begin _ rfl)) (.begin _ rfl))
      (.acquire rfl rfl)) (.statement rfl)) (.rollback rfl)) (.acquire rfl rfl)
  have hrun : Run Locked.Step (start emptySchema) interruptedCalls _ :=
    .next (.next (.next (.next (.next hwaiting (.statement rfl)) (.statement rfl)) (.statement rfl))
      (.statement rfl)) (.commit rfl)
  have honly : OnlyMigrates interruptedCalls := by
    intro id program hbegun
    refine ⟨firstRelease, ?_⟩
    simp only [interruptedCalls, List.mem_cons, Event.begin.injEq, reduceCtorEq, List.not_mem_nil,
      or_false] at hbegun
    rcases hbegun with ⟨-, rfl⟩ | ⟨-, rfl⟩
    · rfl
    · rfl
  have hstages : AllStages firstRelease.migrations (migrationCalls interruptedCalls) := by
    intro call hcall
    obtain rfl := List.mem_singleton.mp hcall
    exact ⟨firstRelease, 1, rfl, rfl⟩
  have hmigrated := migrations_once hrun honly
  exact ⟨_, hrun, hmigrated.1, hmigrated.2 firstRelease.migrations firstRelease.distinct hstages⟩

end CellFlow
