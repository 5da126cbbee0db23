/-
# CellFlow.Db.Migrate — the migrations (`packages/db/src/migrate.ts`).

`migrateDatabase` runs the missing migrations of its release in one transaction, under an advisory
lock.  The effect of a migration's source on the schema is not modelled; `executed` lists the sources
that ran.
-/
import CellFlow.Lib.LockedTransaction
import Mathlib.Data.List.Nodup

namespace CellFlow

open Locked (Txn)

/-- A migration file: its version and its text. -/
structure Migration where
  version : String
  source : String
  deriving DecidableEq, Repr

/-- `databaseMigrations` of one build: the files of a directory, in the order of their names. -/
structure Release where
  migrations : List Migration
  distinct : (migrations.map (·.version)).Nodup

/-- `latestMigrationVersion`. -/
def Release.latestMigrationVersion (release : Release) : Option String :=
  release.migrations.getLast?.map (·.version)

/-- The schema: whether `schema_migrations` exists, its rows in the order of their insertion, and the
sources that ran. -/
structure Schema where
  hasTable : Bool
  versions : List String
  executed : List String
  deriving DecidableEq, Repr

/-- A database before its first migration, without the table of versions. -/
def emptySchema : Schema := ⟨false, [], []⟩

/-- What `migrate` answers: the latest version, those it applied and those it skipped. -/
structure MigrationResult where
  latest : Option String
  applied : List String
  skipped : List String
  deriving DecidableEq, Repr

/-- The primary key of `schema_migrations` refuses a row. -/
inductive MigrationError where
  | duplicateVersion (version : String)
  deriving DecidableEq, Repr

namespace Schema

variable (schema : Schema)

/-- `create table if not exists schema_migrations …`. -/
def createTable : Schema := { schema with hasTable := true }

/-- `tx.unsafe(migration.source)`, where it comes through. -/
def execute (source : String) : Schema := { schema with executed := schema.executed ++ [source] }

/-- `insert into schema_migrations`. -/
def insertVersion (version : String) : Schema :=
  { schema with versions := schema.versions ++ [version] }

end Schema

/-- The loop over `databaseMigrations`. -/
def migrateFrom (latest : Option String) (existing : List String) :
    List Migration → List String → List String → Txn Schema MigrationResult MigrationError
  | [], applied, skipped => .done ⟨latest, applied, skipped⟩
  | migration :: rest, applied, skipped =>
      if migration.version ∈ existing then
        migrateFrom latest existing rest applied (skipped ++ [migration.version])
      else
        .write (·.execute migration.source) <|
          .stmt (·.insertVersion migration.version) fun schema =>
            if migration.version ∈ schema.versions then
              .throws (.duplicateVersion migration.version)
            else migrateFrom latest existing rest (applied ++ [migration.version]) skipped

/-- `migrateDatabase`, the lock taken. -/
def migrateDatabase (release : Release) : Txn Schema MigrationResult MigrationError :=
  .write Schema.createTable <| .read fun schema =>
    migrateFrom release.latestMigrationVersion schema.versions release.migrations [] []

/-! ## One call alone -/

/-- The migrations a table does not list. -/
def missing (versions : List String) (migrations : List Migration) : List Migration :=
  migrations.filter fun migration => migration.version ∉ versions

/-- The migrations a table lists. -/
def present (versions : List String) (migrations : List Migration) : List Migration :=
  migrations.filter fun migration => migration.version ∈ versions

/-- The schema with more migrations run. -/
def Schema.extend (schema : Schema) (migrations : List Migration) : Schema where
  hasTable := schema.hasTable
  versions := schema.versions ++ migrations.map (·.version)
  executed := schema.executed ++ migrations.map (·.source)

theorem migrateFrom_run (latest : Option String) (existing : List String) :
    ∀ (migrations : List Migration) (applied skipped : List String) (schema : Schema),
      (migrations.map (·.version)).Nodup →
      (∀ migration ∈ migrations, migration.version ∈ schema.versions →
        migration.version ∈ existing) →
      (migrateFrom latest existing migrations applied skipped).run schema =
        .ok (schema.extend (missing existing migrations),
          ⟨latest, applied ++ (missing existing migrations).map (·.version),
            skipped ++ (present existing migrations).map (·.version)⟩) := by
  intro migrations
  induction migrations with
  | nil =>
      intro applied skipped schema _ _
      simp [migrateFrom, Schema.extend, missing, present]
  | cons migration rest ih =>
      intro applied skipped schema hdistinct hlisted
      rw [List.map_cons, List.nodup_cons] at hdistinct
      by_cases hexisting : migration.version ∈ existing
      · have hmissing : missing existing (migration :: rest) = missing existing rest :=
          List.filter_cons_of_neg (by simpa using hexisting)
        have hpresent : present existing (migration :: rest) = migration :: present existing rest :=
          List.filter_cons_of_pos (by simpa using hexisting)
        rw [migrateFrom, if_pos hexisting, hmissing, hpresent,
          ih applied _ schema hdistinct.2 fun other hother =>
            hlisted other (List.mem_cons_of_mem _ hother)]
        simp
      · have hmissing : missing existing (migration :: rest) = migration :: missing existing rest :=
          List.filter_cons_of_pos (by simpa using hexisting)
        have hpresent : present existing (migration :: rest) = present existing rest :=
          List.filter_cons_of_neg (by simpa using hexisting)
        -- the row is not there yet, so the insert comes through
        have hnew : migration.version ∉ (schema.execute migration.source).versions := fun h =>
          hexisting (hlisted migration List.mem_cons_self h)
        rw [migrateFrom, if_neg hexisting, Txn.run_write, Txn.run, if_neg hnew, hmissing, hpresent,
          ih _ skipped _ hdistinct.2]
        · simp [Schema.extend, Schema.execute, Schema.insertVersion]
        · intro other hother hversion
          rcases List.mem_append.mp hversion with hbefore | hlast
          · exact hlisted other (List.mem_cons_of_mem _ hother) hbefore
          · rw [List.mem_singleton] at hlast
            exact absurd (List.mem_map.mpr ⟨other, hother, hlast⟩) hdistinct.1

/-- A call alone runs exactly what the table does not list. -/
theorem migrateDatabase_run (release : Release) (schema : Schema) :
    (migrateDatabase release).run schema =
      .ok (schema.createTable.extend (missing schema.versions release.migrations),
        ⟨release.latestMigrationVersion, (missing schema.versions release.migrations).map (·.version),
          (present schema.versions release.migrations).map (·.version)⟩) := by
  rw [migrateDatabase, Txn.run_write, Txn.run_read,
    migrateFrom_run _ _ _ _ _ _ release.distinct fun _ _ h => h]
  rfl

end CellFlow
