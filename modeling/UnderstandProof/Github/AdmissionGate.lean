import UnderstandProof.Foundation.History
import UnderstandProof.Github.Lifecycle

/-!
# The admission gate over all histories

An installation is admitted when an event for it is resolved with its account or its
sender allowlisted, or when an operator activates its pending row. Only admitted
installations are active as long as no suspension reaches an installation that is unknown
or pending: such a suspension writes a row in the state `suspended`, which a pull-request
job may activate. A removed installation stays removed in any history.
-/

open Foundation

namespace UnderstandProof

namespace Github

open Domain (Timestamp)

/-- An event whose tenant status is resolved, with its account or its sender allowlisted. -/
def isResolvedActive (db : GithubDatabase) (installation : InstallationBinding) : Bool :=
  isGithubAccountAllowlisted db installation.accountId ||
    installation.senderId.any (isGithubAccountAllowlisted db)

/-- The event admits the installation. -/
def admits (id : JsString) (db : GithubDatabase) : GithubEvent → Bool
  | .installation _ event =>
      event.installation.githubInstallationId = id ∧ event.action ≠ .suspend ∧
        event.action ≠ .deleted ∧ isResolvedActive db event.installation = true
  | .installationRepositories _ event =>
      event.installation.githubInstallationId = id ∧ event.action = .added ∧
        isResolvedActive db event.installation = true
  | .admitAccount _ account =>
      (db.installations id).any fun row =>
        row.status = .pending ∧ belongsTo account id row = true
  | .recover _ githubInstallationId account =>
      (db.installations id).any fun row =>
        row.status = .pending ∧ isExactly githubInstallationId account id row = true
  | _ => false

/-- A suspension that finds its installation, and finds it past the gate. -/
def suspendsKnown (db : GithubDatabase) : GithubEvent → Bool
  | .installation _ event =>
      event.action ≠ .suspend ∨
        (db.installations event.installation.githubInstallationId).any fun row =>
          row.status ≠ .pending
  | _ => true

/-- The history has admitted the installation. -/
def Admitted (id : JsString) (events : List GithubEvent) : Prop :=
  Once GithubDatabase.step .empty (fun db event => admits id db event = true) events

/-- The state that a history of transactions leads to. -/
def reached (events : List GithubEvent) : GithubDatabase :=
  after GithubDatabase.step .empty events

theorem resolveGithubAppTenantStatus_cases (db : GithubDatabase)
    (installation : InstallationBinding) :
    (isResolvedActive db installation = true ∧
        resolveGithubAppTenantStatus db installation = .active) ∨
      resolveGithubAppTenantStatus db installation = .pending := by
  unfold resolveGithubAppTenantStatus isResolvedActive
  split
  · next h => exact .inl ⟨by rw [h, Bool.true_or], rfl⟩
  · split
    · next h => exact .inl ⟨by rw [h, Bool.or_true], rfl⟩
    · exact .inr rfl

/-! ## What the operations write -/

/-- A row past the gate is active or suspended. -/
def Installation.IsLive (row : Installation) : Prop :=
  row.status = .active ∨ row.status = .suspended

theorem Installation.isLive_of_ne {row : Installation} (hremoved : row.status ≠ .removed)
    (hpending : row.status ≠ .pending) : row.IsLive := by
  unfold Installation.IsLive
  cases hstatus : row.status with
  | active => exact .inl rfl
  | suspended => exact .inr rfl
  | removed => exact absurd hstatus hremoved
  | pending => exact absurd hstatus hpending

section Installations

variable {now : Timestamp} {db : GithubDatabase} {installation : InstallationBinding}
  {status : GithubLifecycleStatus} {options : UpsertOptions} {id : JsString}
  {row : Installation}

/-- A live row after the upsert was live before, or the upsert asked for its status. -/
theorem live_of_upsertInstallation
    (h : (upsertInstallation now db installation status options).1.installations id = some row)
    (hlive : row.IsLive) :
    (∃ old, db.installations id = some old ∧ old.IsLive) ∨
      id = installation.githubInstallationId ∧ row.status = status ∧
        ∀ old, db.installations id = some old → old.status ≠ .removed ∨ status = .removed := by
  rcases Table.eq_or_of_upsert h with hold | ⟨rfl, -, hwritten⟩
  · exact .inl ⟨row, hold, hlive⟩
  · cases hrow : db.installations installation.githubInstallationId with
    | none =>
        rw [hrow] at hwritten
        obtain rfl := Option.some_inj.mp hwritten
        exact .inr ⟨rfl, rfl, fun old hold => nomatch hold⟩
    | some old =>
        rw [hrow, Option.elim_some, updatedInstallation] at hwritten
        split at hwritten
        · next hguard =>
          obtain rfl := Option.some_inj.mp hwritten
          by_cases hpending : status = .pending
          · refine .inl ⟨old, rfl, ?_⟩
            simpa only [Installation.IsLive, if_pos hpending] using hlive
          · refine .inr ⟨rfl, if_neg hpending, fun other hother => ?_⟩
            obtain rfl := Option.some_inj.mp hother
            exact hguard.1
        · cases hwritten

theorem removed_of_upsertInstallation
    (h : db.installations id = some row) (hremoved : row.status = .removed) :
    ∃ new, (upsertInstallation now db installation status options).1.installations id =
      some new ∧ new.status = .removed := by
  by_cases hid : id = installation.githubInstallationId
  · subst hid
    rcases db.installations.upsert_eq installation.githubInstallationId
        (insertedInstallation now installation status options)
        (updatedInstallation now installation status options) with
      ⟨new, hnew, heq⟩ | ⟨old, -, -, heq⟩
    · refine ⟨new, by rw [upsertInstallation, heq]; exact Table.set_self, ?_⟩
      rw [h, Option.elim_some, updatedInstallation] at hnew
      split at hnew
      · next hguard =>
        obtain rfl := Option.some_inj.mp hnew
        have hstatus : status = .removed := hguard.1.resolve_left (fun hne => hne hremoved)
        simp [hstatus]
      · cases hnew
    · exact ⟨row, by rw [upsertInstallation, heq]; exact h, hremoved⟩
  · exact ⟨row, by rw [← h]; exact Table.upsert_of_ne hid, hremoved⟩

theorem live_of_ensureInstallation
    (h : (ensureInstallationForRepositoryRemoval now db installation).1.installations id =
      some row) (hlive : row.IsLive) :
    ∃ old, db.installations id = some old ∧ old.IsLive := by
  rcases Table.eq_or_of_upsert h with hold | ⟨rfl, -, hwritten⟩
  · exact ⟨row, hold, hlive⟩
  · cases hrow : db.installations installation.githubInstallationId with
    | none =>
        rw [hrow] at hwritten
        obtain rfl := Option.some_inj.mp hwritten
        rcases hlive with h | h <;> cases h
    | some old =>
        rw [hrow, Option.elim_some, ensuredInstallation] at hwritten
        split at hwritten
        · obtain rfl := Option.some_inj.mp hwritten
          exact ⟨old, rfl, hlive⟩
        · cases hwritten

theorem removed_of_ensureInstallation
    (h : db.installations id = some row) (hremoved : row.status = .removed) :
    ∃ new, (ensureInstallationForRepositoryRemoval now db installation).1.installations id =
      some new ∧ new.status = .removed := by
  by_cases hid : id = installation.githubInstallationId
  · subst hid
    refine ⟨row, ?_, hremoved⟩
    rw [ensureInstallationForRepositoryRemoval, Table.upsert, h, Option.elim_some,
      ensuredInstallation, if_neg (not_not_intro hremoved)]
    exact h
  · exact ⟨row, by rw [← h]; exact Table.upsert_of_ne hid, hremoved⟩

/-- The status that an upsert returns is the one of the row in the table. -/
theorem status_of_upsert {written : Table JsString Installation × Option Installation}
    {inserted : Installation} {updated : Installation → Option Installation}
    (hwritten : db.installations.upsert id inserted updated = written)
    (h : written.2.map Installation.status = some status) :
    ∃ row, written.1 id = some row ∧ row.status = status := by
  rw [← hwritten] at h ⊢
  rcases db.installations.upsert_eq id inserted updated with ⟨new, -, heq⟩ | ⟨old, -, -, heq⟩
  · rw [heq, Option.map_some, Option.some_inj] at h
    rw [heq]
    exact ⟨new, Table.set_self, h⟩
  · rw [heq] at h
    cases h

/-- An operator leaves every row alone but the pending ones that meet the condition. -/
theorem activatePending_cases {condition : JsString → Installation → Bool}
    (h : (activatePending now condition db).installations id = some row) :
    db.installations id = some row ∨
      ∃ old, db.installations id = some old ∧ old.status = .pending ∧
        condition id old = true := by
  simp only [activatePending, Table.updateAll_eq_some, decide_eq_true_eq] at h
  obtain ⟨old, hold, hrow⟩ := h
  split at hrow
  · next hcondition => exact .inr ⟨old, hold, hcondition⟩
  · exact .inl (hrow ▸ hold)

theorem removed_of_activatePending {condition : JsString → Installation → Bool}
    (h : db.installations id = some row) (hremoved : row.status = .removed) :
    ∃ new, (activatePending now condition db).installations id = some new ∧
      new.status = .removed := by
  refine ⟨row, ?_, hremoved⟩
  simp [activatePending, Table.updateAll_eq_some, h, hremoved]

theorem status_of_load (h : loadInstallationStatus db id = some status) :
    ∃ row, db.installations id = some row ∧ row.status = status :=
  Option.map_eq_some_iff.mp h

end Installations

/-! ## What activates a repository -/

/-- The installation is active in the database. -/
def IsActive (db : GithubDatabase) (id : JsString) : Prop :=
  ∃ row, db.installations id = some row ∧ row.status = .active

/-- `db'` differs from `db` in its repositories only, and has activated none but for
installations with the property. -/
structure ActivatesOnly (p : JsString → Prop) (db db' : GithubDatabase) : Prop where
  installations : db'.installations = db.installations
  jobs : db'.jobs = db.jobs
  repositories : ∀ key row, db'.repositories key = some row → row.status = .active →
    p row.installation ∨ ∃ old, db.repositories key = some old ∧ old.status = .active ∧
      old.installation = row.installation

namespace ActivatesOnly

variable {p : JsString → Prop} {db db' db'' : GithubDatabase} {now : Timestamp}
  {id : JsString}

theorem refl : ActivatesOnly p db db where
  installations := rfl
  jobs := rfl
  repositories := fun _ row hrow hactive => .inr ⟨row, hrow, hactive, rfl⟩

theorem trans (h : ActivatesOnly p db db') (h' : ActivatesOnly p db' db'') :
    ActivatesOnly p db db'' where
  installations := h'.installations.trans h.installations
  jobs := h'.jobs.trans h.jobs
  repositories := by
    intro key row hrow hactive
    rcases h'.repositories key row hrow hactive with hp | ⟨old, hold, holdActive, hsame⟩
    · exact .inl hp
    · rw [← hsame]
      exact h.repositories key old hold holdActive

theorem foldl {α : Type} {change : GithubDatabase → α → GithubDatabase}
    (hchange : ∀ db a, ActivatesOnly p db (change db a)) (l : List α) (db : GithubDatabase) :
    ActivatesOnly p db (l.foldl change db) := by
  induction l generalizing db with
  | nil => exact refl
  | cons a l ih => exact (hchange db a).trans (ih (change db a))

theorem active (h : ActivatesOnly (IsActive db) db db') {key : JsString} {row : Repository}
    (hrow : db'.repositories key = some row) (hactive : row.status = .active) :
    IsActive db' row.installation ∨ ∃ old, db.repositories key = some old ∧
      old.status = .active ∧ old.installation = row.installation := by
  refine (h.repositories key row hrow hactive).imp_left fun hnow => ?_
  rwa [IsActive, h.installations]

/-- An upsert that makes repositories active for such installations only. -/
theorem upsert {key : JsString} {inserted : Repository} {updated : Repository → Option Repository}
    (hinserted : inserted.status = .active → p inserted.installation)
    (hupdated : ∀ old new, updated old = some new → new.status = .active → p new.installation) :
    ActivatesOnly p db
      { db with repositories := (db.repositories.upsert key inserted updated).1 } where
  installations := rfl
  jobs := rfl
  repositories := by
    intro other row hrow hactive
    rcases Table.eq_or_of_upsert hrow with hold | ⟨rfl, -, hwritten⟩
    · exact .inr ⟨row, hold, hactive, rfl⟩
    · cases hkey : db.repositories other with
      | none =>
          rw [hkey] at hwritten
          obtain rfl := Option.some_inj.mp hwritten
          exact .inl (hinserted hactive)
      | some old =>
          rw [hkey, Option.elim_some] at hwritten
          exact .inl (hupdated old row hwritten hactive)

/-- An update that makes no repository active. -/
theorem updateAll {condition : JsString → Repository → Bool} {change : Repository → Repository}
    (hchange : ∀ row, (change row).status ≠ .active) :
    ActivatesOnly p db
      { db with repositories := db.repositories.updateAll condition change } where
  installations := rfl
  jobs := rfl
  repositories := by
    intro key row hrow hactive
    obtain ⟨old, hold, rfl⟩ := Table.updateAll_eq_some.mp hrow
    split at hactive
    · exact absurd hactive (hchange old)
    · next hcondition =>
      rw [if_neg hcondition]
      exact .inr ⟨old, hold, hactive, rfl⟩

theorem upsertRepository (hp : p id) (repository : LifecycleRepository) :
    ActivatesOnly p db (upsertRepository now id db repository) := by
  refine upsert (fun _ => hp) fun old new hnew _ => ?_
  split at hnew
  · next hsame =>
    obtain rfl := Option.some_inj.mp hnew
    exact hsame ▸ hp
  · cases hnew

theorem removeRepository (repository : LifecycleRepository) :
    ActivatesOnly p db (removeRepository now id db repository) := by
  refine upsert (fun hactive => nomatch hactive) fun old new hnew hactive => ?_
  split at hnew
  · obtain rfl := Option.some_inj.mp hnew
    cases hactive
  · cases hnew

end ActivatesOnly

section Events

variable {now : Timestamp} {db : GithubDatabase}

/-- An installation event writes its installation, and then repositories of an active
installation only. -/
theorem applyInstallationEvent_activates (event : InstallationEvent) :
    ActivatesOnly
      (IsActive (upsertInstallation now db event.installation (desiredStatus db event)
        (upsertOptionsFor db event)).1)
      (upsertInstallation now db event.installation (desiredStatus db event)
        (upsertOptionsFor db event)).1
      (applyInstallationEvent now db event) := by
  unfold applyInstallationEvent
  dsimp only
  split
  · exact .refl
  · next installationStatus hstatus =>
    split
    · exact .updateAll fun row hactive => nomatch hactive
    · exact .updateAll fun row hactive => nomatch hactive
    · split
      · next hactive =>
        refine .foldl (fun db repository => .upsertRepository ?_ repository) _ _
        rw [hactive.1, Option.orElse_eq_some] at hstatus
        rcases hstatus with hwritten | ⟨-, hfound⟩
        · exact status_of_upsert rfl hwritten
        · split at hfound
          · exact status_of_load hfound
          · cases hfound
      · exact .refl

/-- What `installation_repositories` writes to its installation first. -/
def upsertedFor (now : Timestamp) (db : GithubDatabase)
    (event : InstallationRepositoriesEvent) :
    GithubDatabase × Option GithubLifecycleStatus :=
  let addedTenantStatus :=
    if event.action = .added then resolveGithubAppTenantStatus db event.installation
    else .pending
  match event.action with
  | .removed => ensureInstallationForRepositoryRemoval now db event.installation
  | .added => upsertInstallation now db event.installation addedTenantStatus
      { allowReactivation := false
        allowPendingPromotion := addedTenantStatus = GithubLifecycleStatus.active
        installerAccountId := none }

theorem applyInstallationRepositoriesEvent_eq (event : InstallationRepositoriesEvent) :
    applyInstallationRepositoriesEvent now db event =
      match (upsertedFor now db event).2 <|>
          (if event.action = .added then
            loadInstallationStatus (upsertedFor now db event).1
              event.installation.githubInstallationId
          else none) with
      | none => (upsertedFor now db event).1
      | some installationStatus =>
          event.repositoriesRemoved.foldl
            (Github.removeRepository now event.installation.githubInstallationId)
            (if installationStatus = .active then
              event.repositoriesAdded.foldl
                (Github.upsertRepository now event.installation.githubInstallationId)
                (upsertedFor now db event).1
            else (upsertedFor now db event).1) := rfl

theorem status_of_upsertedFor {event : InstallationRepositoriesEvent}
    {status : GithubLifecycleStatus} (h : (upsertedFor now db event).2 = some status) :
    ∃ row, (upsertedFor now db event).1.installations
      event.installation.githubInstallationId = some row ∧ row.status = status := by
  unfold upsertedFor at h ⊢
  dsimp only at h ⊢
  split at h
  · exact status_of_upsert rfl h
  · exact status_of_upsert rfl h

theorem applyInstallationRepositoriesEvent_activates (event : InstallationRepositoriesEvent) :
    ActivatesOnly (IsActive (upsertedFor now db event).1) (upsertedFor now db event).1
      (applyInstallationRepositoriesEvent now db event) := by
  rw [applyInstallationRepositoriesEvent_eq]
  split
  · exact .refl
  · next installationStatus hstatus =>
    refine .trans ?_ (.foldl (fun db repository => .removeRepository repository) _ _)
    split
    · next hactive =>
      refine .foldl (fun db repository => .upsertRepository ?_ repository) _ _
      rw [hactive, Option.orElse_eq_some] at hstatus
      rcases hstatus with hwritten | ⟨-, hfound⟩
      · exact status_of_upsertedFor hwritten
      · split at hfound
        · exact status_of_load hfound
        · cases hfound
    · exact .refl

/-- A snapshot that commits: the installation row it writes is active and stood past the
gate before, and so is the installation of every repository it makes active. -/
theorem activateSnapshot_eq_some {fence : AuthorizationFence} {recoveryWinner : Bool}
    {payload : PullRequestPayload} {db' : GithubDatabase}
    (h : activateSnapshot now db fence recoveryWinner payload = some db') :
    ∃ old new written,
      db.installations payload.installation.githubInstallationId = some old ∧
        old.status ≠ .removed ∧ old.status ≠ .pending ∧ new.status = .active ∧
        written = db.repositories.upsert payload.repository.githubRepositoryId
          { installation := payload.installation.githubInstallationId
            owner := payload.repository.owner
            name := payload.repository.name
            defaultBranch := some payload.repository.defaultBranch
            status := .active
            suspendedAt := none
            removedAt := none
            updatedAt := now }
          (activatedRepository now fence payload) ∧
        db' = { db with
          installations :=
            db.installations.set payload.installation.githubInstallationId new
          repositories := written.1 } := by
  unfold activateSnapshot at h
  split at h
  · cases h
  · split at h
    · cases h
    · next new hnew =>
      obtain ⟨old, hold, hwritten⟩ := Option.bind_eq_some_iff.mp hnew
      split at h
      · cases h
      · next hactive =>
        dsimp only at h
        split at h
        · cases h
          refine ⟨old, new, _, hold, ?_, ?_, not_not.mp hactive, rfl, rfl⟩
          all_goals
            unfold activatedInstallation at hwritten
            dsimp only at hwritten
            split at hwritten
            · next hguard => first | exact hguard.1 | exact hguard.2.1
            · cases hwritten
        · cases h

theorem activatedRepository_installation {fence : AuthorizationFence}
    {payload : PullRequestPayload} {old new : Repository}
    (h : activatedRepository now fence payload old = some new) :
    new.installation = payload.installation.githubInstallationId := by
  unfold activatedRepository at h
  dsimp only at h
  split at h
  · obtain rfl := Option.some_inj.mp h
    rfl
  · cases h

/-- The repository that a snapshot writes belongs to the installation of its payload. -/
theorem installation_of_activated {fence : AuthorizationFence} {payload : PullRequestPayload}
    {inserted row : Repository} {stored : Option Repository}
    (h : stored.elim (some inserted) (activatedRepository now fence payload) = some row)
    (hinserted : inserted.installation = payload.installation.githubInstallationId) :
    row.installation = payload.installation.githubInstallationId := by
  cases stored with
  | none =>
      obtain rfl := Option.some_inj.mp h
      exact hinserted
  | some old => exact activatedRepository_installation h

/-! ## One transaction -/

/-- A live installation was live before, or the event admits it. -/
theorem live_of_step {event : GithubEvent} (hknown : suspendsKnown db event = true)
    {id : JsString} {row : Installation} (h : (db.step event).installations id = some row)
    (hlive : row.IsLive) :
    (∃ old, db.installations id = some old ∧ old.IsLive) ∨ admits id db event = true := by
  cases event with
  | installation now event =>
      rw [GithubDatabase.step, (applyInstallationEvent_activates event).installations] at h
      rcases live_of_upsertInstallation h hlive with hold | ⟨rfl, hstatus, hguard⟩
      · exact .inl hold
      · unfold desiredStatus at hstatus hguard
        cases haction : event.action with
        | suspend =>
            simp only [haction, reduceCtorEq, or_false] at hguard
            simp only [suspendsKnown, haction, ne_eq, not_true_eq_false, false_or,
              decide_eq_true_eq, Option.any_eq_true] at hknown
            obtain ⟨old, hold, hpending⟩ := hknown
            exact .inl ⟨old, hold, Installation.isLive_of_ne (hguard old hold) hpending⟩
        | deleted =>
            simp only [haction] at hstatus
            rcases hlive with hlive | hlive <;> rw [hlive] at hstatus <;> cases hstatus
        | created | newPermissionsAccepted | unsuspend =>
            simp only [haction] at hstatus
            rcases resolveGithubAppTenantStatus_cases db event.installation with
              ⟨hactive, -⟩ | hpending
            · exact .inr (by simp [admits, haction, hactive])
            · rw [hpending] at hstatus
              rcases hlive with hlive | hlive <;> rw [hlive] at hstatus <;> cases hstatus
  | installationRepositories now event =>
      rw [GithubDatabase.step, (applyInstallationRepositoriesEvent_activates event).installations,
        upsertedFor] at h
      split at h
      · exact .inl (live_of_ensureInstallation h hlive)
      · next haction =>
        rcases live_of_upsertInstallation h hlive with hold | ⟨rfl, hstatus, -⟩
        · exact .inl hold
        · rcases resolveGithubAppTenantStatus_cases db event.installation with
            ⟨hactive, -⟩ | hpending
          · exact .inr (by simp [admits, haction, hactive])
          · rw [hpending, ite_self] at hstatus
            rcases hlive with hlive | hlive <;> rw [hlive] at hstatus <;> cases hstatus
  | pullRequest payload =>
      rw [GithubDatabase.step, ingestPullRequest] at h
      split at h <;> exact .inl ⟨row, h, hlive⟩
  | snapshot now fence recoveryWinner payload =>
      rw [GithubDatabase.step] at h
      cases hsnapshot : activateSnapshot now db fence recoveryWinner payload with
      | none =>
          rw [hsnapshot] at h
          exact .inl ⟨row, h, hlive⟩
      | some db' =>
          rw [hsnapshot, Option.getD_some] at h
          obtain ⟨old, new, written, hold, hremoved, hpending, hactive, -, rfl⟩ :=
            activateSnapshot_eq_some hsnapshot
          dsimp only at h
          rw [Table.set_apply] at h
          split at h
          · next hid =>
            exact .inl ⟨old, hid ▸ hold, Installation.isLive_of_ne hremoved hpending⟩
          · exact .inl ⟨row, h, hlive⟩
  | allowlist account status => exact .inl ⟨row, h, hlive⟩
  | admitAccount now account =>
      rcases activatePending_cases h with hold | ⟨old, hold, hpending, hcondition⟩
      · exact .inl ⟨row, hold, hlive⟩
      · rw [setAllowlist] at hold
        exact .inr (by rw [admits, hold, Option.any_some, decide_eq_true ⟨hpending, hcondition⟩])
  | recover now githubInstallationId account =>
      rcases activatePending_cases h with hold | ⟨old, hold, hpending, hcondition⟩
      · exact .inl ⟨row, hold, hlive⟩
      · rw [setAllowlist] at hold
        exact .inr (by rw [admits, hold, Option.any_some, decide_eq_true ⟨hpending, hcondition⟩])

/-- A removed installation stays removed. -/
theorem removed_of_step (event : GithubEvent) {id : JsString} {row : Installation}
    (h : db.installations id = some row) (hremoved : row.status = .removed) :
    ∃ new, (db.step event).installations id = some new ∧ new.status = .removed := by
  cases event with
  | installation now event =>
      rw [GithubDatabase.step, (applyInstallationEvent_activates event).installations]
      exact removed_of_upsertInstallation h hremoved
  | installationRepositories now event =>
      rw [GithubDatabase.step, (applyInstallationRepositoriesEvent_activates event).installations,
        upsertedFor]
      split
      · exact removed_of_ensureInstallation h hremoved
      · exact removed_of_upsertInstallation h hremoved
  | pullRequest payload =>
      rw [GithubDatabase.step, ingestPullRequest]
      split <;> exact ⟨row, h, hremoved⟩
  | snapshot now fence recoveryWinner payload =>
      rw [GithubDatabase.step]
      cases hsnapshot : activateSnapshot now db fence recoveryWinner payload with
      | none => exact ⟨row, h, hremoved⟩
      | some db' =>
          obtain ⟨old, new, written, hold, hne, -, -, -, rfl⟩ := activateSnapshot_eq_some hsnapshot
          refine ⟨row, ?_, hremoved⟩
          refine (Table.set_of_ne ?_).trans h
          rintro rfl
          rw [hold, Option.some_inj] at h
          exact hne (h ▸ hremoved)
  | allowlist account status => exact ⟨row, h, hremoved⟩
  | admitAccount now account => exact removed_of_activatePending h hremoved
  | recover now githubInstallationId account => exact removed_of_activatePending h hremoved

/-- A job in the queue was there before, or its installation is past the gate. -/
theorem job_of_step {event : GithubEvent} {job : PullRequestPayload}
    (h : job ∈ (db.step event).jobs) :
    job ∈ db.jobs ∨
      ∃ row, db.installations job.installation.githubInstallationId = some row ∧
        row.IsLive := by
  cases event with
  | installation now event =>
      rw [GithubDatabase.step, (applyInstallationEvent_activates event).jobs] at h
      exact .inl h
  | installationRepositories now event =>
      rw [GithubDatabase.step, (applyInstallationRepositoriesEvent_activates event).jobs,
        upsertedFor] at h
      split at h <;> exact .inl h
  | pullRequest payload =>
      rw [GithubDatabase.step, ingestPullRequest] at h
      split at h
      · next hcan =>
        rcases List.mem_append.mp h with h | h
        · exact .inl h
        · obtain rfl := List.mem_singleton.mp h
          simp only [canEnqueueGithubPullRequest, Option.any_eq_true, decide_eq_true_eq] at hcan
          exact .inr hcan
      · exact .inl h
  | snapshot now fence recoveryWinner payload =>
      rw [GithubDatabase.step] at h
      cases hsnapshot : activateSnapshot now db fence recoveryWinner payload with
      | none =>
          rw [hsnapshot] at h
          exact .inl h
      | some db' =>
          rw [hsnapshot, Option.getD_some] at h
          obtain ⟨old, new, written, -, -, -, -, -, rfl⟩ := activateSnapshot_eq_some hsnapshot
          exact .inl h
  | allowlist account status => exact .inl h
  | admitAccount now account => exact .inl h
  | recover now githubInstallationId account => exact .inl h

/-- An active repository was active under the same installation before, or its
installation is active now. -/
theorem activeRepository_of_step {event : GithubEvent} {key : JsString} {row : Repository}
    (h : (db.step event).repositories key = some row) (hactive : row.status = .active) :
    IsActive (db.step event) row.installation ∨
      ∃ old, db.repositories key = some old ∧ old.status = .active ∧
        old.installation = row.installation := by
  cases event with
  | installation now event =>
      exact (applyInstallationEvent_activates event).active h hactive
  | installationRepositories now event =>
      rcases (applyInstallationRepositoriesEvent_activates event).active h hactive with
        hnow | ⟨old, hold, hbefore⟩
      · exact .inl hnow
      · rw [upsertedFor] at hold
        split at hold <;> exact .inr ⟨old, hold, hbefore⟩
  | pullRequest payload =>
      rw [GithubDatabase.step, ingestPullRequest] at h
      split at h <;> exact .inr ⟨row, h, hactive, rfl⟩
  | snapshot now fence recoveryWinner payload =>
      rw [GithubDatabase.step] at h ⊢
      cases hsnapshot : activateSnapshot now db fence recoveryWinner payload with
      | none =>
          rw [hsnapshot] at h
          exact .inr ⟨row, h, hactive, rfl⟩
      | some db' =>
          rw [hsnapshot, Option.getD_some] at h
          obtain ⟨old, new, written, -, -, -, hnew, rfl, rfl⟩ :=
            activateSnapshot_eq_some hsnapshot
          rcases Table.eq_or_of_upsert h with hold | ⟨rfl, -, hwritten⟩
          · exact .inr ⟨row, hold, hactive, rfl⟩
          · refine .inl ⟨new, ?_, hnew⟩
            rw [Option.getD_some, installation_of_activated hwritten rfl]
            exact Table.set_self
  | allowlist account status => exact .inr ⟨row, h, hactive, rfl⟩
  | admitAccount now account => exact .inr ⟨row, h, hactive, rfl⟩
  | recover now githubInstallationId account => exact .inr ⟨row, h, hactive, rfl⟩

end Events

/-! ## All histories -/

/-- What the gate keeps: installations past it, active repositories and enqueued jobs
belong to installations that were admitted. -/
structure Gate (events : List GithubEvent) (db : GithubDatabase) : Prop where
  installations : ∀ id row, db.installations id = some row → row.IsLive → Admitted id events
  repositories : ∀ key row, db.repositories key = some row → row.status = .active →
    Admitted row.installation events
  jobs : ∀ job ∈ db.jobs, Admitted job.installation.githubInstallationId events

theorem Gate.step {events : List GithubEvent} {event : GithubEvent}
    (h : Gate events (reached events)) (hknown : suspendsKnown (reached events) event = true) :
    Gate (events ++ [event]) ((reached events).step event) := by
  have hlater : ∀ {id}, Admitted id events → Admitted id (events ++ [event]) :=
    fun hadmitted => once_concat.mpr (.inl hadmitted)
  have hinstallations : ∀ id row, ((reached events).step event).installations id = some row →
      row.IsLive → Admitted id (events ++ [event]) := by
    intro id row hrow hlive
    rcases live_of_step hknown hrow hlive with ⟨old, hold, hwas⟩ | hadmits
    · exact hlater (h.installations id old hold hwas)
    · exact once_concat.mpr (.inr hadmits)
  constructor
  · exact hinstallations
  · intro key row hrow hactive
    rcases activeRepository_of_step hrow hactive with
      ⟨installation, hinstallation, hnow⟩ | ⟨old, hold, hwas, hsame⟩
    · exact hinstallations _ installation hinstallation (.inl hnow)
    · exact hsame ▸ hlater (h.repositories key old hold hwas)
  · intro job hjob
    rcases job_of_step hjob with hold | ⟨row, hrow, hlive⟩
    · exact hlater (h.jobs job hold)
    · exact hlater (h.installations _ row hrow hlive)

theorem gate_after {events : List GithubEvent}
    (h : Throughout GithubDatabase.step .empty
      (fun db event => suspendsKnown db event = true) events) :
    Gate events (reached events) := by
  refine after_invariant (I := fun events db => Gate events db) ?_ ?_ h
  · constructor
    · intro id row hrow
      cases hrow
    · intro key row hrow
      cases hrow
    · intro job hjob
      cases hjob
  · exact fun events event hgate hknown => hgate.step hknown

/-- A removed installation stays removed in every later state. -/
theorem removed_of_append {front rest : List GithubEvent} {id : JsString} {row : Installation}
    (h : (reached front).installations id = some row) (hremoved : row.status = .removed) :
    ∃ new, (reached (front ++ rest)).installations id = some new ∧ new.status = .removed := by
  rw [reached, after_append]
  exact after_keeps (I := fun db : GithubDatabase =>
    ∃ new, db.installations id = some new ∧ new.status = .removed) ⟨row, h, hremoved⟩
    (fun db event ⟨new, hnew, hstatus⟩ => removed_of_step event hnew hstatus) rest

/-- In every history in which each suspension finds its installation past the gate, an
installation is active only if it was admitted before, only admitted installations have
active repositories and enqueued pull-request jobs, and a removed installation stays
removed. -/
theorem admission_gate {events : List GithubEvent}
    (h : Throughout GithubDatabase.step .empty
      (fun db event => suspendsKnown db event = true) events) :
    (∀ id row, (reached events).installations id = some row → row.status = .active →
        Admitted id events) ∧
      (∀ key row, (reached events).repositories key = some row → row.status = .active →
        Admitted row.installation events) ∧
      (∀ job ∈ (reached events).jobs,
        Admitted job.installation.githubInstallationId events) ∧
      ∀ front rest, events = front ++ rest →
        ∀ id row, (reached front).installations id = some row → row.status = .removed →
          ∃ new, (reached events).installations id = some new ∧ new.status = .removed := by
  have hgate := gate_after h
  refine ⟨fun id row hrow hactive => hgate.installations id row hrow (.inl hactive),
    hgate.repositories, hgate.jobs, ?_⟩
  rintro front rest rfl id row hrow hremoved
  exact removed_of_append hrow hremoved

section Samples

def sampleBinding : InstallationBinding where
  githubInstallationId := js "501"
  accountId := js "42"
  accountLogin := js "octo"
  senderId := some (js "7")

def sampleInstallation (action : InstallationAction) : InstallationEvent where
  action := action
  installation := sampleBinding
  repositorySelection := .selected
  repositories := []

def samplePayload : PullRequestPayload where
  action := .opened
  installation :=
    { githubInstallationId := js "501"
      accountId := js "42"
      accountLogin := js "octo" }
  repository :=
    { githubRepositoryId := js "900"
      owner := js "octo"
      name := js "demo"
      defaultBranch := js "main" }
  pullRequest :=
    { githubPullRequestId := js "11"
      number := 3
      state := .open
      authorId := js "8"
      headSha := js "aaaaaaaaaaaaaaaaaaaaaaaaaaaaaaaaaaaaaaaa"
      baseSha := js "bbbbbbbbbbbbbbbbbbbbbbbbbbbbbbbbbbbbbbbb" }

/-- An allowlisted sender installs the App, and the installation is suspended and activated
again by a pull-request job. -/
def admittedHistory : List GithubEvent :=
  let front : List GithubEvent :=
    [.allowlist (js "7") (some .active), .installation 1 (sampleInstallation .created),
      .installation 2 (sampleInstallation .suspend), .pullRequest samplePayload]
  front ++ [.snapshot 3 (loadLifecycleAuthorizationFence (reached front) samplePayload) false
    samplePayload]

theorem admission_gate_sample :
    ((reached admittedHistory).installations (js "501")).map Installation.status =
        some .active ∧
      Admitted (js "501") admittedHistory := by
  have hactive : ((reached admittedHistory).installations (js "501")).map
      Installation.status = some .active := by decide
  obtain ⟨row, hrow, hstatus⟩ := Option.map_eq_some_iff.mp hactive
  have hgate := @admission_gate admittedHistory
    (throughout_iff_checkAll.mpr (by decide))
  exact ⟨hactive, hgate.1 _ row hrow hstatus⟩

/-- The same without an allowlisted account: the suspension of the pending installation
lets the job through. -/
def pendingFront : List GithubEvent :=
  [.installation 1 (sampleInstallation .created), .installation 2 (sampleInstallation .suspend),
    .pullRequest samplePayload]

def pendingHistory : List GithubEvent :=
  pendingFront ++ [.snapshot 3
    (loadLifecycleAuthorizationFence (reached pendingFront) samplePayload) false samplePayload]

/-- An installation that nobody admitted becomes active, with its job and its repository. -/
theorem suspended_pending_activated :
    canAuthorizeGithubInstallationWork
        (loadLifecycleAuthorizationFence (reached pendingFront) samplePayload) = true ∧
      ((reached pendingHistory).installations (js "501")).map Installation.status =
        some .active ∧
      ((reached pendingHistory).repositories (js "900")).map Repository.status =
        some .active ∧
      (reached pendingHistory).jobs = [samplePayload] ∧
      ¬ Admitted (js "501") pendingHistory := by
  refine ⟨by decide, by decide, by decide, by decide, ?_⟩
  refine not_once_of_throughout ?_
  have hcheck : checkAll GithubDatabase.step
      (fun db event => !admits (js "501") db event) .empty pendingHistory = true := by
    decide
  refine (throughout_iff_checkAll.mpr hcheck).imp fun db event hnot hadmits => ?_
  rw [hadmits] at hnot
  cases hnot

end Samples

end Github

end UnderstandProof
