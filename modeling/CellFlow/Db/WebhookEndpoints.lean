/-
# CellFlow.Db.WebhookEndpoints — where a project's events are sent.

The queries of `packages/db/src/repository.ts` on `webhook_endpoints`.  Ids are unique, and so is the
URL within a project, by constraints of the table; a URL that is registered again gets a new secret and
is enabled again.
-/
import Mathlib.Data.List.Nodup

namespace CellFlow

/-- A row, with the secret as it is stored. -/
structure StoredEndpoint where
  id : String
  projectId : String
  url : String
  signingSecretEncrypted : String
  secretVersion : Nat
  enabled : Bool
  deriving DecidableEq, Repr

/-- What a row is unique by: its project and its URL. -/
def StoredEndpoint.place (row : StoredEndpoint) : String × String := (row.projectId, row.url)

/-- The table `webhook_endpoints`, with its primary key and its unique index. -/
structure EndpointTable where
  rows : List StoredEndpoint
  unique_id : (rows.map (·.id)).Nodup
  unique_url : (rows.map (·.place)).Nodup

/-- The argument of `createWebhookEndpoint`, with the id of a new row. -/
structure EndpointInput where
  freshId : String
  projectId : String
  url : String
  signingSecretEncrypted : String
  deriving DecidableEq, Repr

namespace EndpointInput

variable (input : EndpointInput)

/-- The row that is inserted when the URL is new to the project. -/
def row : StoredEndpoint where
  id := input.freshId
  projectId := input.projectId
  url := input.url
  signingSecretEncrypted := input.signingSecretEncrypted
  secretVersion := 1
  enabled := true

/-- `do update set …`, on the row of the URL. -/
def renew (row : StoredEndpoint) : StoredEndpoint :=
  if row.projectId = input.projectId ∧ row.url = input.url then
    { row with
      signingSecretEncrypted := input.signingSecretEncrypted
      enabled := true
      secretVersion := row.secretVersion + 1 }
  else row

@[simp] theorem renew_id (row : StoredEndpoint) : (input.renew row).id = row.id := by
  unfold renew
  split <;> rfl

@[simp] theorem renew_place (row : StoredEndpoint) : (input.renew row).place = row.place := by
  unfold renew
  split <;> rfl

end EndpointInput

/-- `createWebhookEndpoint`: the table and the id of the endpoint; `none` where the new id is taken. -/
def createWebhookEndpoint (input : EndpointInput) (table : EndpointTable) :
    Option (EndpointTable × String) :=
  match table.rows.find? fun row => row.projectId = input.projectId ∧ row.url = input.url with
  | some row =>
      some
        ({ rows := table.rows.map input.renew
           unique_id := by
             have h := table.unique_id
             rw [List.map_map]
             simpa [Function.comp_def] using h
           unique_url := by
             have h := table.unique_url
             rw [List.map_map]
             simpa [Function.comp_def] using h }, row.id)
  | none =>
      if h : input.freshId ∉ table.rows.map (·.id) ∧ input.row.place ∉ table.rows.map (·.place) then
        some
          ({ rows := input.row :: table.rows
             unique_id := List.nodup_cons.mpr ⟨h.1, table.unique_id⟩
             unique_url := List.nodup_cons.mpr ⟨h.2, table.unique_url⟩ }, input.freshId)
      else none

/-- The update of `disableWebhookEndpoint`. -/
def StoredEndpoint.disabledIf (projectId endpointId : String) (row : StoredEndpoint) :
    StoredEndpoint :=
  if row.projectId = projectId ∧ row.id = endpointId ∧ row.enabled = true then
    { row with enabled := false }
  else row

@[simp] theorem StoredEndpoint.disabledIf_id (projectId endpointId : String)
    (row : StoredEndpoint) : (row.disabledIf projectId endpointId).id = row.id := by
  unfold disabledIf
  split <;> rfl

@[simp] theorem StoredEndpoint.disabledIf_place (projectId endpointId : String)
    (row : StoredEndpoint) : (row.disabledIf projectId endpointId).place = row.place := by
  unfold disabledIf
  split <;> rfl

/-- `disableWebhookEndpoint`, with whether a row was enabled. -/
def disableWebhookEndpoint (projectId endpointId : String) (table : EndpointTable) :
    EndpointTable × Bool :=
  ({ rows := table.rows.map (·.disabledIf projectId endpointId)
     unique_id := by
       have h := table.unique_id
       rw [List.map_map]
       simpa [Function.comp_def] using h
     unique_url := by
       have h := table.unique_url
       rw [List.map_map]
       simpa [Function.comp_def] using h },
    table.rows.any fun row => row.projectId = projectId && row.id = endpointId && row.enabled)

/-- `from webhook_endpoints w where w.project_id = … and w.enabled = true`: the ids. -/
def enabledEndpoints (projectId : String) (table : EndpointTable) : List String :=
  (table.rows.filter fun row => row.projectId = projectId && row.enabled).map (·.id)

/-! ## Who is enabled -/

variable {table : EndpointTable} {projectId id : String}

theorem mem_enabledEndpoints : id ∈ enabledEndpoints projectId table ↔
    ∃ row ∈ table.rows, row.id = id ∧ row.projectId = projectId ∧ row.enabled = true := by
  rw [enabledEndpoints, List.mem_map]
  constructor
  · rintro ⟨row, hrow, rfl⟩
    rw [List.mem_filter, Bool.and_eq_true, decide_eq_true_eq] at hrow
    exact ⟨row, hrow.1, rfl, hrow.2⟩
  · rintro ⟨row, hrow, rfl, howned⟩
    refine ⟨row, List.mem_filter.mpr ⟨hrow, ?_⟩, rfl⟩
    rw [Bool.and_eq_true, decide_eq_true_eq]
    exact howned

theorem nodup_enabledEndpoints (projectId : String) (table : EndpointTable) :
    (enabledEndpoints projectId table).Nodup :=
  table.unique_id.sublist (List.filter_sublist.map _)

/-- A registration enables its endpoint, for its project, and no other. -/
theorem enabled_created {input : EndpointInput} {table' : EndpointTable} {created : String}
    (h : createWebhookEndpoint input table = some (table', created)) :
    id ∈ enabledEndpoints projectId table' ↔
      id ∈ enabledEndpoints projectId table ∨ input.projectId = projectId ∧ id = created := by
  unfold createWebhookEndpoint at h
  split at h
  next row hfind =>
    obtain ⟨rfl, rfl⟩ := Prod.mk.inj (Option.some.inj h)
    have hrow := List.mem_of_find?_eq_some hfind
    have hplace := List.find?_some hfind
    rw [decide_eq_true_eq] at hplace
    rw [mem_enabledEndpoints, mem_enabledEndpoints]
    constructor
    · rintro ⟨_, hmem, rfl, hproject, henabled⟩
      obtain ⟨other, hother, rfl⟩ := List.mem_map.mp hmem
      by_cases hsame : other.projectId = input.projectId ∧ other.url = input.url
      · -- the only row of the URL
        have heq : other = row := List.inj_on_of_nodup_map table.unique_url hother hrow
          (Prod.ext (hsame.1.trans hplace.1.symm) (hsame.2.trans hplace.2.symm))
        subst heq
        right
        refine ⟨?_, input.renew_id other⟩
        rw [EndpointInput.renew, if_pos hsame] at hproject
        exact hsame.1.symm.trans hproject
      · rw [EndpointInput.renew, if_neg hsame] at hproject henabled
        exact Or.inl ⟨other, hother, (input.renew_id other).symm, hproject, henabled⟩
    · rintro (⟨other, hother, rfl, hproject, henabled⟩ | ⟨rfl, rfl⟩)
      · refine ⟨_, List.mem_map.mpr ⟨other, hother, rfl⟩, input.renew_id other, ?_⟩
        unfold EndpointInput.renew
        split
        · exact ⟨hproject, rfl⟩
        · exact ⟨hproject, henabled⟩
      · refine ⟨_, List.mem_map.mpr ⟨row, hrow, rfl⟩, input.renew_id row, ?_⟩
        rw [EndpointInput.renew, if_pos hplace]
        exact ⟨hplace.1, rfl⟩
  next hfind =>
    split at h
    next hfresh =>
      obtain ⟨rfl, rfl⟩ := Prod.mk.inj (Option.some.inj h)
      rw [mem_enabledEndpoints, mem_enabledEndpoints]
      constructor
      · rintro ⟨row, hmem, rfl, hproject, henabled⟩
        rcases List.mem_cons.mp hmem with rfl | hrow
        · exact Or.inr ⟨hproject, rfl⟩
        · exact Or.inl ⟨row, hrow, rfl, hproject, henabled⟩
      · rintro (⟨row, hrow, hids⟩ | ⟨rfl, rfl⟩)
        · exact ⟨row, List.mem_cons_of_mem _ hrow, hids⟩
        · exact ⟨input.row, List.mem_cons_self, rfl, rfl, rfl⟩
    next => cases h

theorem enabled_disabled (owner endpointId : String) :
    id ∈ enabledEndpoints projectId (disableWebhookEndpoint owner endpointId table).1 ↔
      id ∈ enabledEndpoints projectId table ∧ ¬ (owner = projectId ∧ id = endpointId) := by
  rw [mem_enabledEndpoints, mem_enabledEndpoints]
  constructor
  · rintro ⟨_, hmem, rfl, hproject, henabled⟩
    obtain ⟨row, hrow, rfl⟩ := List.mem_map.mp hmem
    unfold StoredEndpoint.disabledIf at hproject henabled ⊢
    split at henabled
    · cases henabled
    next hkept =>
      rw [if_neg hkept] at hproject ⊢
      refine ⟨⟨row, hrow, rfl, hproject, henabled⟩, ?_⟩
      rintro ⟨rfl, hid⟩
      exact hkept ⟨hproject, hid, henabled⟩
  · rintro ⟨⟨row, hrow, rfl, hproject, henabled⟩, hkept⟩
    have hother : ¬ (row.projectId = owner ∧ row.id = endpointId ∧ row.enabled = true) :=
      fun h => hkept ⟨h.1.symm.trans hproject, h.2.1⟩
    refine ⟨_, List.mem_map.mpr ⟨row, hrow, rfl⟩, ?_⟩
    unfold StoredEndpoint.disabledIf
    rw [if_neg hother]
    exact ⟨rfl, hproject, henabled⟩

/-- The row a registration leaves for its endpoint. -/
structure RegisteredAs (input : EndpointInput) (created : String) (row : StoredEndpoint) : Prop where
  id : row.id = created
  url : row.url = input.url
  secret : row.signingSecretEncrypted = input.signingSecretEncrypted

/-- **A registration** writes the row of its endpoint and no other. -/
theorem created_rows {input : EndpointInput} {table' : EndpointTable} {created : String}
    (h : createWebhookEndpoint input table = some (table', created)) {row' : StoredEndpoint}
    (hrow' : row' ∈ table'.rows) :
    RegisteredAs input created row' ∨ row' ∈ table.rows ∧ row'.id ≠ created := by
  unfold createWebhookEndpoint at h
  split at h
  next row hfind =>
    obtain ⟨rfl, rfl⟩ := Prod.mk.inj (Option.some.inj h)
    have hrow := List.mem_of_find?_eq_some hfind
    have hplace := List.find?_some hfind
    rw [decide_eq_true_eq] at hplace
    obtain ⟨other, hother, rfl⟩ := List.mem_map.mp hrow'
    by_cases hsame : other.projectId = input.projectId ∧ other.url = input.url
    · have heq : other = row := List.inj_on_of_nodup_map table.unique_url hother hrow
        (Prod.ext (hsame.1.trans hplace.1.symm) (hsame.2.trans hplace.2.symm))
      subst heq
      left
      rw [EndpointInput.renew, if_pos hsame]
      exact ⟨rfl, hsame.2, rfl⟩
    · right
      rw [EndpointInput.renew, if_neg hsame]
      refine ⟨hother, ?_⟩
      intro hid
      have heq : other = row := List.inj_on_of_nodup_map table.unique_id hother hrow hid
      exact hsame (heq ▸ hplace)
  next hfind =>
    split at h
    next hfresh =>
      obtain ⟨rfl, rfl⟩ := Prod.mk.inj (Option.some.inj h)
      rcases List.mem_cons.mp hrow' with rfl | hold
      · exact Or.inl ⟨rfl, rfl, rfl⟩
      · right
        refine ⟨hold, ?_⟩
        intro hid
        exact hfresh.1 (List.mem_map.mpr ⟨row', hold, hid⟩)
    next => cases h

/-- A removal leaves id, URL and secret of every row. -/
theorem disabled_rows {owner endpointId : String} {row' : StoredEndpoint}
    (hrow' : row' ∈ (disableWebhookEndpoint owner endpointId table).1.rows) :
    ∃ row ∈ table.rows, row'.id = row.id ∧ row'.url = row.url ∧
      row'.signingSecretEncrypted = row.signingSecretEncrypted := by
  obtain ⟨row, hrow, rfl⟩ := List.mem_map.mp hrow'
  refine ⟨row, hrow, ?_⟩
  unfold StoredEndpoint.disabledIf
  split <;> exact ⟨rfl, rfl, rfl⟩

end CellFlow
