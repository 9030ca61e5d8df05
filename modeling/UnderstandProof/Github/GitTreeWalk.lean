import UnderstandProof.Github.GitTreeMetadata
import UnderstandProof.Github.UserListings

/-!
# The walk without caches

Over a service that answers consistently, the resolver gives every file the kind that a walk through
the trees of its revisions finds, whatever was cached for other files. It makes no more calls and
keeps no more entries than its limits allow.
-/

open Foundation

namespace UnderstandProof

namespace Github

open RequestEvent

/-! ## Counted calls -/

/-- The cursor of a request that ended or goes on. -/
def cursorOf : Requested ⊕ Continuation → Cursor
  | .inl outcome => outcome.2
  | .inr next => next.1

/-- Every call is counted, within the budget. -/
structure Counted (limit : ℕ) (before after : Cursor) (events : List (RequestEvent GitCall)) :
    Prop where
  calls : after.calls = before.calls + events.countP isRequest
  within : before.calls ≤ before.apiCalls ∧ before.calls ≤ limit →
    after.calls ≤ after.apiCalls ∧ after.calls ≤ limit

theorem Counted.append {limit : ℕ} {first second third : Cursor}
    {before after : List (RequestEvent GitCall)} (h : Counted limit first second before)
    (h' : Counted limit second third after) : Counted limit first third (before ++ after) where
  calls := by rw [h'.calls, h.calls, List.countP_append, Nat.add_assoc]
  within hfirst := h'.within (h.within hfirst)

/-- Events that are no calls move the cursor over readings alone. -/
theorem Counted.of_readings {limit : ℕ} {before after : Cursor}
    {events : List (RequestEvent GitCall)} (hcalls : after.calls = before.calls)
    (hapi : after.apiCalls = before.apiCalls) (hevents : events.countP isRequest = 0) :
    Counted limit before after events where
  calls := by rw [hcalls, hevents, Nat.add_zero]
  within h := by
    rw [hcalls, hapi]
    exact h

section Execute

variable {world : World GitCall} {policy : ResolvedPolicy} {deadlineAt : ℚ} {limit : ℕ}
  {call : GitCall}

theorem request_counted (world : World GitCall) (call : GitCall) (cursor : Cursor) :
    Counted limit cursor (request world (some limit) call cursor).2.2
      (request world (some limit) call cursor).1 := by
  rw [request]
  split
  · exact ⟨rfl, fun h => ⟨h.1.trans (Nat.le_add_right _ _), h.2⟩⟩
  · rename_i hwithin
    have hle : cursor.apiCalls + 1 ≤ limit := not_lt.mp fun hlt => hwithin ⟨limit, rfl, hlt⟩
    exact ⟨rfl, fun h => ⟨Nat.succ_le_succ h.1, (Nat.succ_le_succ h.1).trans hle⟩⟩

theorem cursorOf_backOff (world : World GitCall) (policy : ResolvedPolicy) (deadlineAt : ℚ) (attempt : ℕ) (failure : Failure) (cursor : Cursor) :
    (cursorOf (backOff world policy deadlineAt attempt failure cursor).2).calls = cursor.calls ∧
      (cursorOf (backOff world policy deadlineAt attempt failure cursor).2).apiCalls =
        cursor.apiCalls := by
  simp only [backOff]
  split
  · exact ⟨rfl, rfl⟩
  split <;> exact ⟨rfl, rfl⟩

theorem handleFailure_counted (attempt : ℕ) (error : Option JsValue) (cursor : Cursor) :
    Counted limit cursor
      (cursorOf (handleFailure world policy deadlineAt attempt error cursor).2)
      (handleFailure world policy deadlineAt attempt error cursor).1 := by
  have hbehind : Behind deadlineAt (handleFailure world policy deadlineAt attempt error cursor).1
      (handleFailure world policy deadlineAt attempt error cursor).2 :=
    handleFailure_behind attempt error cursor
  exact .of_readings (cursorOf_backOff world policy deadlineAt attempt _ _).1
    (cursorOf_backOff world policy deadlineAt attempt _ _).2
    (hbehind.disciplined [] (.inl rfl)).1

theorem requestAttempt_counted (world : World GitCall) (policy : ResolvedPolicy) (deadlineAt : ℚ)
    (limit : ℕ) (call : GitCall) (attempt : ℕ) (state : Continuation) :
    Counted limit state.1
      (cursorOf (requestAttempt world policy deadlineAt (some limit) call attempt state).2)
      (requestAttempt world policy deadlineAt (some limit) call attempt state).1 := by
  simp only [requestAttempt]
  split
  · exact .of_readings rfl rfl (by simp [isRequest])
  · have hfront (now timeout : ℚ) : Counted limit state.1
        { state.1 with readings := state.1.readings + 1 } [reads now, arms timeout] :=
      .of_readings rfl rfl (by simp [isRequest])
    have hmade := (hfront (world.clock state.1.readings) (max 1 (min policy.attemptTimeoutMs
      (deadlineAt - world.clock state.1.readings)))).append (request_counted world call
        { state.1 with readings := state.1.readings + 1 })
    split
    · exact hmade.append (.of_readings rfl rfl (by simp [isRequest]))
    · exact hmade.append (.of_readings rfl rfl (by simp [isRequest]))
    · exact hmade.append (handleFailure_counted attempt _ _)
    · exact hmade.append (handleFailure_counted attempt _ _)

theorem executeGithubRequest_counted (world : World GitCall) (policy : GithubRequestPolicy)
    (limit : ℕ) (call : GitCall) (cursor : Cursor) :
    Counted limit cursor (executeGithubRequest world policy (some limit) call cursor).2.2
      (executeGithubRequest world policy (some limit) call cursor).1 := by
  simp only [executeGithubRequest]
  split
  · exact .of_readings rfl rfl rfl
  · rename_i resolved _
    have hrun := fun exhausted => @runAttempts_induction _ _ _
      (requestAttempt world resolved (world.clock cursor.readings + resolved.deadlineMs) (some limit)
        call) exhausted
      (fun _ _ state run => (∀ state, (exhausted state).2 = state.1) →
        Counted limit state.1 run.2.2 run.1)
      (fun number state hexhausted => by
        rw [hexhausted state]
        exact .of_readings rfl rfl rfl)
      (fun left number state events result hattempt _ => by
        have hcounted := requestAttempt_counted world resolved
          (world.clock cursor.readings + resolved.deadlineMs) limit call number state
        rwa [hattempt] at hcounted)
      (fun left number state events next rest hattempt hrest hexhausted => by
        have hcounted := requestAttempt_counted world resolved
          (world.clock cursor.readings + resolved.deadlineMs) limit call number state
        rw [hattempt] at hcounted
        exact hcounted.append (hrest hexhausted))
    have hfirst : Counted limit cursor { cursor with readings := cursor.readings + 1 }
        [reads (world.clock cursor.readings)] := .of_readings rfl rfl (by simp [isRequest])
    dsimp only
    exact hfirst.append (hrun _ resolved.maxAttempts 1
      ({ cursor with readings := cursor.readings + 1 }, none) fun state => rfl)

end Execute

/-! ## The walk without caches -/

/-- A service that answers consistently: a commit has one root tree, and a tree one list of
entries. -/
structure ConsistentService (world : World GitCall) (rootOf : JsString → JsString)
    (treeOf : JsString → List GitTreeEntry) : Prop where
  commit : ∀ n owner repositoryName sha data commit,
    world.answer n (.getGitCommit owner repositoryName sha) = .response data →
    readGitCommit data = some commit → commit.sha = sha → commit.treeSha = rootOf sha
  tree : ∀ n owner repositoryName sha data tree,
    world.answer n (.getGitTree owner repositoryName sha) = .response data →
    readGitTree data = some tree → tree.sha = sha → tree.truncated = false → tree.tree = treeOf sha

section Walk

variable (rootOf : JsString → JsString) (treeOf : JsString → List GitTreeEntry)

/-- The kind at the end of a path from a tree; every segment names exactly one entry, and all but
the last a tree. -/
def uncachedWalk : List JsString → JsString → Option GitKind
  | [], _ => none
  | segment :: segments, treeSha =>
      match (treeOf treeSha).filter fun entry => entry.path == segment with
      | [entry] =>
          if segments = [] then leafKind entry
          else if entry.isTree = false then none
          else uncachedWalk segments entry.sha
      | _ => none

/-- The segments of a canonical path. -/
def canonicalSegments (path : JsString) : Option (List JsString) :=
  if path.head? = some 0x2f ∨ path.contains 0 ∨ (path.splitOn 0x2f).any (fun segment =>
      segment == [] || segment == js "." || segment == js "..") then none
  else some (path.splitOn 0x2f)

/-- The kind of a path of a revision. -/
def pathKind (revision : RepositoryRevision) (path : JsString) : Option GitKind :=
  (canonicalSegments path).bind fun segments =>
    uncachedWalk treeOf segments (rootOf revision.commitSha)

/-- The kind on a side that the status requires. -/
def sideKind (revision : Option RepositoryRevision) : Option JsString → Option (Option GitKind)
  | none => some none
  | some path => revision.bind fun revision => (pathKind rootOf treeOf revision path).map some

/-- The kind of a file, from the sides that its status requires. -/
def fileKind (head : Option RepositoryRevision) (base : RepositoryRevision)
    (file : FileForKindResolution) : Option GitKind :=
  (requiredPaths file).bind fun paths =>
    (sideKind rootOf treeOf head paths.1).bind fun headKind =>
      (sideKind rootOf treeOf (some base) paths.2).bind fun baseKind =>
        combineKinds headKind baseKind

end Walk

/-! ## Keys of the caches -/

theorem lowerCase_ne_colon {c : UInt16} (h : c ≠ 0x3a) :
    (if 0x41 ≤ c ∧ c ≤ 0x5a then c + 0x20 else c) ≠ 0x3a := by
  split
  · rename_i hupper
    intro hcolon
    have hnat := congrArg UInt16.toNat hcolon
    rw [UInt16.toNat_add] at hnat
    have hlow : 65 ≤ c.toNat := UInt16.le_iff_toNat_le.mp hupper.1
    have hhigh : c.toNat ≤ 90 := UInt16.le_iff_toNat_le.mp hupper.2
    change (c.toNat + 32) % 65536 = 58 at hnat
    omega
  · exact h

theorem colon_not_mem {s : JsString} (h : isRepositoryPart s = true) : 0x3a ∉ toLowerCase s := by
  intro hmem
  obtain ⟨c, hc, hcolon⟩ := List.mem_map.mp hmem
  refine lowerCase_ne_colon (c := c) ?_ hcolon
  rintro rfl
  simp only [isRepositoryPart, Bool.and_eq_true] at h
  exact absurd (List.all_eq_true.mp h.1.1.2 0x3a hc) (by decide)

/-- The hash behind a key is the one that it was made of. -/
theorem sha_of_revisionKey {revision revision' : RepositoryRevision} {sha sha' : JsString}
    (h : validRevision revision = true) (h' : validRevision revision' = true)
    (hkey : revisionKey revision sha = revisionKey revision' sha') : sha = sha' := by
  have hfront {revision : RepositoryRevision} (h : validRevision revision = true) (sha : JsString) :
      (revisionKey revision sha).dropWhile (· != 0x3a) = 0x3a :: sha := by
    simp only [validRevision, Bool.and_eq_true] at h
    rw [revisionKey, List.dropWhile_append_of_pos]
    · exact List.dropWhile_cons_of_neg (by decide)
    · intro c hc
      rw [bne_iff_ne]
      rintro rfl
      rcases List.mem_append.mp hc with hc | hc
      · exact colon_not_mem h.1.1 hc
      · rcases List.mem_cons.mp hc with hc | hc
        · exact absurd hc (by decide)
        · exact colon_not_mem h.1.2 hc
  have hdrop := congrArg (List.dropWhile (· != 0x3a)) hkey
  rw [hfront h, hfront h'] at hdrop
  exact List.tail_eq_of_cons_eq hdrop

/-! ## The resolver keeps to the service -/

section Sound

variable {world : World GitCall} {rootOf : JsString → JsString}
  {treeOf : JsString → List GitTreeEntry} {policy : GithubRequestPolicy}
  {limits : GitTreeMetadataLimits} {deadlineAt : ℚ}

/-- A session has made the calls that it counts, within its budget. -/
structure SessionCounted (limit : ℕ) (session : Session GitCall) : Prop where
  calls : session.events.countP isRequest = session.cursor.calls
  within : session.cursor.calls ≤ session.cursor.apiCalls ∧ session.cursor.calls ≤ limit

theorem SessionCounted.of_counted {limit : ℕ} {session : Session GitCall}
    (h : SessionCounted limit session) {after : Cursor} {events : List (RequestEvent GitCall)}
    (hcounted : Counted limit session.cursor after events) :
    SessionCounted limit ⟨after, session.events ++ events⟩ where
  calls := by rw [List.countP_append, h.calls, hcounted.calls]
  within := hcounted.within h.within

theorem readClock_counted (limit : ℕ) :
    Stateful.Ensures (SessionCounted limit) (readClock world) fun _ => True := by
  intro session h
  exact ⟨h.of_counted (.of_readings rfl rfl (by simp [isRequest])), fun _ _ => trivial⟩

theorem perform_counted (policy : GithubRequestPolicy) (limit : ℕ) (call : GitCall) :
    Stateful.Ensures (SessionCounted limit) (perform world policy (some limit) call)
      fun data => ∃ n, world.answer n call = .response data := by
  intro session h
  exact ⟨h.of_counted (executeGithubRequest_counted world policy limit call session.cursor),
    fun data hdata => (answer_of_executeGithubRequest hdata).2⟩

/-- The caches hold what the service answers, and the counters what was called and cached. -/
structure Sound (rootOf : JsString → JsString) (treeOf : JsString → List GitTreeEntry)
    (limits : GitTreeMetadataLimits) (resolver : GithubExactPathKindResolver) : Prop where
  roots : ∀ entry ∈ resolver.rootTreeCache, ∃ revision, validRevision revision = true ∧
    entry = (revisionKey revision revision.commitSha, rootOf revision.commitSha)
  trees : ∀ entry ∈ resolver.treeCache, ∃ revision treeSha, validRevision revision = true ∧
    entry = (revisionKey revision treeSha, treeOf treeSha)
  session : SessionCounted limits.maxApiCalls resolver.session
  cached : (resolver.treeCache.map fun entry => entry.2.length).sum ≤ resolver.totalEntries
  cached_le : (resolver.treeCache.map fun entry => entry.2.length).sum ≤ limits.maxTotalEntries

theorem onSession_sound {α : Type} {x : Requesting GitCall α} {Q : α → Prop}
    (hx : Stateful.Ensures (SessionCounted limits.maxApiCalls) x Q) :
    Stateful.Ensures (Sound rootOf treeOf limits) (onSession x) Q := by
  intro resolver h
  obtain ⟨hsession, hresult⟩ := hx resolver.session h.session
  exact ⟨⟨h.roots, h.trees, hsession, h.cached, h.cached_le⟩, hresult⟩

theorem failWith_sound {α : Type} {code : GithubControlErrorCode} {Q : α → Prop} :
    Stateful.Ensures (Sound rootOf treeOf limits) (failWith code) Q :=
  .lift nofun

theorem orInvalidResponse_sound {α : Type} {read : Option α} :
    Stateful.Ensures (Sound rootOf treeOf limits) (orInvalidResponse read)
      fun a => read = some a := by
  cases read with
  | none => exact failWith_sound
  | some a => exact .pure rfl

theorem executeRequest_sound (call : GitCall) :
    Stateful.Ensures (Sound rootOf treeOf limits) (executeRequest world policy limits deadlineAt call)
      fun data => ∃ n, world.answer n call = .response data := by
  refine onSession_sound ((readClock_counted limits.maxApiCalls).bind fun now _ => ?_)
  dsimp only
  split
  · exact .lift nofun
  · exact perform_counted _ _ call

theorem cacheRoot_sound {revision : RepositoryRevision} (h : validRevision revision = true)
    {treeSha : JsString} (htree : treeSha = rootOf revision.commitSha) :
    Stateful.Ensures (Sound rootOf treeOf limits)
      (cacheRoot (revisionKey revision revision.commitSha) treeSha) fun _ => True := by
  intro resolver hsound
  refine ⟨⟨fun entry hentry => ?_, hsound.trees, hsound.session, hsound.cached, hsound.cached_le⟩,
    fun _ _ => trivial⟩
  rcases List.mem_cons.mp hentry with rfl | hentry
  · exact ⟨revision, h, by rw [htree]⟩
  · exact hsound.roots entry hentry

theorem mem_of_lookup {α : Type} {key : JsString} {value : α} {entries : List (JsString × α)}
    (h : entries.lookup key = some value) : (key, value) ∈ entries := by
  obtain ⟨front, back, rfl, -⟩ := List.lookup_eq_some_iff.mp h
  exact List.mem_append_right front List.mem_cons_self

/-- A cache gives what loading gives. -/
theorem cachedOr_sound {α : Type} {find : GithubExactPathKindResolver → Option α}
    {load : Resolving α} {Q : α → Prop}
    (hcached : ∀ resolver, Sound rootOf treeOf limits resolver → ∀ a, find resolver = some a → Q a)
    (hload : Stateful.Ensures (Sound rootOf treeOf limits) load Q) :
    Stateful.Ensures (Sound rootOf treeOf limits) (cachedOr find load) Q := by
  intro resolver hsound
  have hfound := hcached resolver hsound
  have hloaded := hload resolver hsound
  simp only [Stateful.run, cachedOr] at hloaded ⊢
  generalize find resolver = found at hfound
  cases found with
  | none => exact hloaded
  | some cached => exact ⟨hsound, fun a ha => Except.ok.inj ha ▸ hfound cached rfl⟩

theorem loadRootTreeSha_sound (hworld : ConsistentService world rootOf treeOf)
    (revision : RepositoryRevision) :
    Stateful.Ensures (Sound rootOf treeOf limits)
      (loadRootTreeSha world policy limits deadlineAt revision)
      fun treeSha => validRevision revision = true ∧ treeSha = rootOf revision.commitSha := by
  rw [loadRootTreeSha]
  split
  · exact failWith_sound
  rename_i hvalid
  have hvalid : validRevision revision = true := Bool.of_not_eq_false hvalid
  refine cachedOr_sound (fun resolver hsound cached hcached => ⟨hvalid, ?_⟩)
    ((executeRequest_sound _).bind fun data hdata =>
      orInvalidResponse_sound.bind fun parsed hparsed => ?_)
  · obtain ⟨revision', hvalid', hentry⟩ := hsound.roots _ (mem_of_lookup hcached)
    obtain ⟨hkey, hroot⟩ := Prod.mk.inj hentry
    rw [hroot, sha_of_revisionKey hvalid hvalid' hkey]
  · split
    · exact failWith_sound
    · rename_i hsha
      obtain ⟨n, hanswer⟩ := hdata
      have htree := hworld.commit n _ _ _ data parsed hanswer hparsed (not_not.mp hsha)
      exact (cacheRoot_sound hvalid htree).bind fun _ _ => .pure ⟨hvalid, htree⟩

theorem keepTree_sound {revision : RepositoryRevision} (h : validRevision revision = true)
    {treeSha : JsString} {tree : List GitTreeEntry} (htree : tree = treeOf treeSha) :
    Stateful.Ensures (Sound rootOf treeOf limits) (keepTree limits (revisionKey revision treeSha) tree)
      fun entries => entries = treeOf treeSha := by
  intro resolver hsound
  -- The entries are counted before they are checked, so a refused tree is counted and not cached.
  have hcounted : Sound rootOf treeOf limits
      { resolver with totalEntries := resolver.totalEntries + tree.length } :=
    ⟨hsound.roots, hsound.trees, hsound.session, hsound.cached.trans (Nat.le_add_right _ _),
      hsound.cached_le⟩
  rw [keepTree, Stateful.run_bind]
  simp only [Stateful.run, countEntries]
  by_cases hlimit : limits.maxTotalEntries < resolver.totalEntries + tree.length
  · simp only [if_pos hlimit]
    exact ⟨hcounted, nofun⟩
  · simp only [if_neg hlimit]
    split
    · exact ⟨hcounted, nofun⟩
    · refine ⟨⟨hsound.roots, fun entry hentry => ?_, hsound.session, ?_, ?_⟩,
        fun entries hentries => ?_⟩
      · rcases List.mem_cons.mp hentry with rfl | hentry
        · exact ⟨revision, treeSha, h, by rw [htree]⟩
        · exact hsound.trees entry hentry
      · change (((_, tree) :: resolver.treeCache).map _).sum ≤ resolver.totalEntries + tree.length
        rw [List.map_cons, List.sum_cons, Nat.add_comm]
        exact Nat.add_le_add_right hsound.cached _
      · change (((_, tree) :: resolver.treeCache).map _).sum ≤ limits.maxTotalEntries
        rw [List.map_cons, List.sum_cons, Nat.add_comm]
        exact (Nat.add_le_add_right hsound.cached _).trans (not_lt.mp hlimit)
      · rw [← htree]
        exact (Except.ok.inj hentries).symm

theorem loadTree_sound (hworld : ConsistentService world rootOf treeOf)
    {revision : RepositoryRevision} (h : validRevision revision = true) (treeSha : JsString) :
    Stateful.Ensures (Sound rootOf treeOf limits)
      (loadTree world policy limits deadlineAt revision treeSha)
      fun entries => entries = treeOf treeSha := by
  refine cachedOr_sound (fun resolver hsound cached hcached => ?_)
    ((executeRequest_sound _).bind fun data hdata =>
      orInvalidResponse_sound.bind fun parsed hparsed => ?_)
  · obtain ⟨revision', treeSha', hvalid', hentry⟩ := hsound.trees _ (mem_of_lookup hcached)
    obtain ⟨hkey, htree⟩ := Prod.mk.inj hentry
    rw [htree, sha_of_revisionKey h hvalid' hkey]
  · split
    · exact failWith_sound
    · rename_i hchecks
      obtain ⟨hsha, hrest⟩ := not_or.mp hchecks
      obtain ⟨n, hanswer⟩ := hdata
      exact keepTree_sound h (hworld.tree n _ _ _ data parsed hanswer hparsed (not_not.mp hsha)
        (Bool.of_not_eq_true (not_or.mp hrest).1))

/-! ## The walk -/

theorem walkSegments_sound (hworld : ConsistentService world rootOf treeOf)
    {revision : RepositoryRevision} (h : validRevision revision = true) (segments : List JsString)
    (treeSha : JsString) :
    Stateful.Ensures (Sound rootOf treeOf limits)
      (walkSegments world policy limits deadlineAt revision segments treeSha)
      fun kind => uncachedWalk treeOf segments treeSha = some kind := by
  induction segments generalizing treeSha with
  | nil => exact failWith_sound
  | cons segment segments ih =>
      rw [walkSegments, uncachedWalk]
      refine (loadTree_sound hworld h treeSha).bind fun entries hentries => ?_
      rw [hentries]
      generalize (treeOf treeSha).filter (fun entry => entry.path == segment) = found
      match found with
      | [] => exact failWith_sound
      | [entry] =>
          by_cases hlast : segments = []
          · simp only [if_pos hlast]
            exact orInvalidResponse_sound
          by_cases htree : entry.isTree = false
          · simp only [if_neg hlast, if_pos htree]
            exact failWith_sound
          · simp only [if_neg hlast, if_neg htree]
            exact ih entry.sha
      | _ :: _ :: _ => exact failWith_sound

theorem parseGitPath_eq_ok {path : JsString} {maxDepth : ℕ} {segments : List JsString}
    (h : parseGitPath path maxDepth = .ok segments) : canonicalSegments path = some segments := by
  simp only [parseGitPath] at h
  split at h
  · cases h
  split at h
  · cases h
  split at h
  · cases h
  · rename_i hstart _ hsegments
    obtain rfl := Except.ok.inj h
    rw [canonicalSegments, if_neg]
    rw [not_or] at hstart ⊢
    exact ⟨hstart.1, not_or.mpr ⟨hstart.2, hsegments⟩⟩

theorem resolvePath_sound (hworld : ConsistentService world rootOf treeOf)
    (revision : RepositoryRevision) (path : JsString) :
    Stateful.Ensures (Sound rootOf treeOf limits)
      (resolvePath world policy limits deadlineAt revision path)
      fun kind => pathKind rootOf treeOf revision path = some kind := by
  refine (Stateful.Ensures.lift fun segments hsegments => parseGitPath_eq_ok hsegments).bind
    fun segments hsegments => (loadRootTreeSha_sound hworld revision).bind fun treeSha hroot => ?_
  rw [pathKind, hsegments, Option.bind_some, ← hroot.2]
  exact walkSegments_sound hworld hroot.1 segments treeSha

theorem resolveSide_sound (hworld : ConsistentService world rootOf treeOf)
    (revision : Option RepositoryRevision) (path : Option JsString) :
    Stateful.Ensures (Sound rootOf treeOf limits)
      (resolveSide world policy limits deadlineAt revision path)
      fun kind => sideKind rootOf treeOf revision path = some kind := by
  cases path with
  | none => exact .pure rfl
  | some path =>
      refine orInvalidResponse_sound.bind fun known hknown =>
        (resolvePath_sound hworld known path).bind fun kind hkind => .pure ?_
      rw [sideKind, hknown, Option.bind_some, hkind, Option.map_some]

theorem resolveFile_sound (hworld : ConsistentService world rootOf treeOf)
    (head : Option RepositoryRevision) (base : RepositoryRevision) (file : FileForKindResolution) :
    Stateful.Ensures (Sound rootOf treeOf limits)
      (resolveFile world policy limits deadlineAt head base file)
      fun kind => fileKind rootOf treeOf head base file = some kind := by
  refine orInvalidResponse_sound.bind fun paths hpaths =>
    (resolveSide_sound hworld head paths.1).bind fun headKind hhead =>
      (resolveSide_sound hworld (some base) paths.2).bind fun baseKind hbase => ?_
  rw [fileKind, hpaths, Option.bind_some, hhead, Option.bind_some, hbase, Option.bind_some]
  exact orInvalidResponse_sound

theorem resolveFiles_sound (hworld : ConsistentService world rootOf treeOf)
    (head : Option RepositoryRevision) (base : RepositoryRevision)
    (files : List FileForKindResolution) :
    Stateful.Ensures (Sound rootOf treeOf limits)
      (resolveFiles world policy limits deadlineAt head base files)
      fun kinds => files.map (fileKind rootOf treeOf head base) = kinds.map some := by
  induction files with
  | nil => exact .pure rfl
  | cons file files ih =>
      refine (resolveFile_sound hworld head base file).bind fun kind hkind =>
        ih.bind fun kinds hkinds => .pure ?_
      rw [List.map_cons, List.map_cons, hkind, hkinds]

end Sound

/-! ## The entries that are read -/

section Entries

variable {world : World GitCall} {policy : GithubRequestPolicy} {limits : GitTreeMetadataLimits}
  {deadlineAt : ℚ} {α β : Type}

/-- A step that returns has read no more entries than allowed. -/
def ReadsWithin (limits : GitTreeMetadataLimits) (x : Resolving α) : Prop :=
  ∀ resolver a next, x.run resolver = (.ok a, next) →
    resolver.totalEntries ≤ limits.maxTotalEntries → next.totalEntries ≤ limits.maxTotalEntries

/-- A step that reads no tree. -/
theorem ReadsWithin.of_totalEntries_eq {x : Resolving α}
    (h : ∀ resolver, (x.run resolver).2.totalEntries = resolver.totalEntries) :
    ReadsWithin limits x := by
  intro resolver a next hrun hle
  have heq := h resolver
  rw [hrun] at heq
  exact heq.trans_le hle

theorem ReadsWithin.lift {x : Except GithubControlError α} :
    ReadsWithin limits (Stateful.lift x : Resolving α) :=
  .of_totalEntries_eq fun _ => rfl

theorem ReadsWithin.bind {x : Resolving α} {f : α → Resolving β} (hx : ReadsWithin limits x)
    (hf : ∀ a, ReadsWithin limits (f a)) : ReadsWithin limits (x >>= f) := by
  intro resolver b next hrun hle
  obtain ⟨a, middle, hfirst, hrest⟩ := Stateful.run_bind_eq_ok.mp hrun
  exact hf a middle b next hrest (hx resolver a middle hfirst hle)

theorem orInvalidResponse_readsWithin {read : Option α} :
    ReadsWithin limits (orInvalidResponse read) := by
  cases read <;> exact .lift

theorem cachedOr_readsWithin {find : GithubExactPathKindResolver → Option α} {load : Resolving α}
    (hload : ReadsWithin limits load) : ReadsWithin limits (cachedOr find load) := by
  intro resolver a next hrun hle
  have hloaded := hload resolver a next
  simp only [Stateful.run, cachedOr] at hrun hloaded
  split at hrun
  · obtain ⟨-, rfl⟩ := Prod.mk.inj hrun
    exact hle
  · exact hloaded hrun hle

theorem countEntries_readsWithin (entries : ℕ) : ReadsWithin limits (countEntries limits entries) := by
  intro resolver a next hrun _
  simp only [Stateful.run, countEntries] at hrun
  split at hrun
  · cases hrun
  · rename_i hwithin
    obtain ⟨-, rfl⟩ := Prod.mk.inj hrun
    exact not_lt.mp hwithin

theorem loadRootTreeSha_readsWithin (revision : RepositoryRevision) :
    ReadsWithin limits (loadRootTreeSha world policy limits deadlineAt revision) := by
  rw [loadRootTreeSha]
  split
  · exact .lift
  · refine cachedOr_readsWithin ((ReadsWithin.of_totalEntries_eq fun _ => rfl).bind fun data =>
      orInvalidResponse_readsWithin.bind fun parsed => ?_)
    split
    · exact .lift
    · exact (ReadsWithin.of_totalEntries_eq fun _ => rfl).bind fun _ => .lift

theorem loadTree_readsWithin (revision : RepositoryRevision) (treeSha : JsString) :
    ReadsWithin limits (loadTree world policy limits deadlineAt revision treeSha) := by
  refine cachedOr_readsWithin ((ReadsWithin.of_totalEntries_eq fun _ => rfl).bind fun data =>
    orInvalidResponse_readsWithin.bind fun parsed => ?_)
  split
  · exact .lift
  refine (countEntries_readsWithin parsed.tree.length).bind fun _ => ?_
  split
  · exact .lift
  · exact (ReadsWithin.of_totalEntries_eq fun _ => rfl).bind fun _ => .lift

theorem walkSegments_readsWithin (revision : RepositoryRevision) (segments : List JsString)
    (treeSha : JsString) :
    ReadsWithin limits (walkSegments world policy limits deadlineAt revision segments treeSha) := by
  induction segments generalizing treeSha with
  | nil => exact .lift
  | cons segment segments ih =>
      rw [walkSegments]
      refine (loadTree_readsWithin revision treeSha).bind fun entries => ?_
      split
      · split
        · exact orInvalidResponse_readsWithin
        split
        · exact .lift
        · exact ih _
      · exact .lift

theorem resolveSide_readsWithin (revision : Option RepositoryRevision) (path : Option JsString) :
    ReadsWithin limits (resolveSide world policy limits deadlineAt revision path) := by
  cases path with
  | none => exact .lift
  | some path =>
      exact orInvalidResponse_readsWithin.bind fun known =>
        (ReadsWithin.bind .lift fun segments => (loadRootTreeSha_readsWithin known).bind
          fun treeSha => walkSegments_readsWithin known segments treeSha).bind fun kind => .lift

theorem resolveFiles_readsWithin (head : Option RepositoryRevision) (base : RepositoryRevision)
    (files : List FileForKindResolution) :
    ReadsWithin limits (resolveFiles world policy limits deadlineAt head base files) := by
  induction files with
  | nil => exact .lift
  | cons file files ih =>
      refine ReadsWithin.bind ?_ fun kind => ih.bind fun kinds => .lift
      exact orInvalidResponse_readsWithin.bind fun paths =>
        (resolveSide_readsWithin head paths.1).bind fun headKind =>
          (resolveSide_readsWithin (some base) paths.2).bind fun baseKind =>
            orInvalidResponse_readsWithin

theorem resolve_readsWithin (input : ResolveFileKindsInput) :
    ReadsWithin limits (resolve world policy limits input) := by
  rw [resolve]
  split
  · exact .lift
  · exact (ReadsWithin.of_totalEntries_eq fun _ => rfl).bind fun now =>
      resolveFiles_readsWithin input.head input.base input.files

end Entries

/-- A service with one commit, whose tree holds a directory with a file and a link. -/
def sampleTreeWorld : World GitCall where
  clock _ := 0
  random _ := some 0
  answer _ call := match call with
    | .getGitCommit .. => .response (.obj [(js "sha", .str sampleCommitSha),
        (js "tree", .obj [(js "sha", .str sampleRootSha)])])
    | .getGitTree _ _ sha =>
        .response (if sha = sampleRootSha then sampleTree sha (sampleEntries sha)
          else sampleTree sampleDirectorySha (sampleEntries sampleDirectorySha))
  platform := ⟨fun _ => none, fun _ => none⟩
where
  sampleCommitSha : JsString := List.replicate 40 0x63
  sampleRootSha : JsString := List.replicate 40 0x61
  sampleDirectorySha : JsString := List.replicate 40 0x62
  sampleEntries (sha : JsString) : List GitTreeEntry :=
    if sha = sampleRootSha then [⟨js "src", js "040000", js "tree", sampleDirectorySha⟩]
    else [⟨js "a.ts", js "100644", js "blob", sampleCommitSha⟩,
      ⟨js "link", js "120000", js "blob", sampleCommitSha⟩]
  sampleTree (sha : JsString) (entries : List GitTreeEntry) : JsValue :=
    .obj [(js "sha", .str sha), (js "truncated", .bool false),
      (js "tree", .arr (entries.map fun entry => .obj [(js "path", .str entry.path),
        (js "mode", .str entry.mode), (js "type", .str entry.type), (js "sha", .str entry.sha)]))]

def sampleKindsInput : ResolveFileKindsInput where
  head := some ⟨js "octo", js "repo", sampleTreeWorld.sampleCommitSha⟩
  base := ⟨js "Octo", js "repo", sampleTreeWorld.sampleCommitSha⟩
  files := [⟨js "src/a.ts", none, .modified⟩, ⟨js "src/link", some (js "src/a.ts"), .renamed⟩]

theorem sampleTreeWorld_consistent :
    ConsistentService sampleTreeWorld (fun _ => sampleTreeWorld.sampleRootSha)
      sampleTreeWorld.sampleEntries where
  commit n owner repositoryName sha data commit hanswer hread _ := by
    obtain rfl := AttemptEnd.response.inj hanswer
    have hcommit : readGitCommit (.obj [(js "sha", .str sampleTreeWorld.sampleCommitSha),
        (js "tree", .obj [(js "sha", .str sampleTreeWorld.sampleRootSha)])]) =
          some ⟨sampleTreeWorld.sampleCommitSha, sampleTreeWorld.sampleRootSha⟩ := by
      decide
    exact congrArg GitCommit.treeSha (Option.some.inj (hread.symm.trans hcommit))
  tree n owner repositoryName sha data tree hanswer hread hsha _ := by
    obtain rfl := AttemptEnd.response.inj hanswer
    have hroot : readGitTree (sampleTreeWorld.sampleTree sampleTreeWorld.sampleRootSha
        (sampleTreeWorld.sampleEntries sampleTreeWorld.sampleRootSha)) =
          some ⟨sampleTreeWorld.sampleRootSha, false,
            sampleTreeWorld.sampleEntries sampleTreeWorld.sampleRootSha⟩ := by decide
    have hdirectory : readGitTree (sampleTreeWorld.sampleTree sampleTreeWorld.sampleDirectorySha
        (sampleTreeWorld.sampleEntries sampleTreeWorld.sampleDirectorySha)) =
          some ⟨sampleTreeWorld.sampleDirectorySha, false,
            sampleTreeWorld.sampleEntries sampleTreeWorld.sampleDirectorySha⟩ := by decide
    split at hread
    · rename_i hsha'
      rw [hsha'] at hread ⊢
      rw [← Option.some.inj (hroot.symm.trans hread)]
    · obtain rfl := Option.some.inj (hdirectory.symm.trans hread)
      rw [← hsha]

end Github

end UnderstandProof
