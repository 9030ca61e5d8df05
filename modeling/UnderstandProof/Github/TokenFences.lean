import UnderstandProof.Github.TokenCache

/-!
# Fences of installation tokens

A refresh is a fence: what the maps hold for its key afterwards was minted behind it, and so was
whatever a later call of that key returns. A call for a fresh token that has joined a refresh gets
the fence of that refresh, which began before the call.
-/

open Foundation

namespace UnderstandProof

namespace Github

/-! ## Keys -/

/-- A key names the installation and the repository of an accepted binding. -/
theorem ids_of_tokenCacheKey {binding binding' : GithubRepositoryBinding}
    (h : binding.accepted = true) (h' : binding'.accepted = true)
    (hkey : tokenCacheKey binding = tokenCacheKey binding') :
    binding.installationId = binding'.installationId ∧
      binding.repositoryId = binding'.repositoryId := by
  have hfront {binding : GithubRepositoryBinding} (h : binding.accepted = true) :
      (tokenCacheKey binding).span (· != 0x3a) =
        (binding.installationId, 0x3a :: binding.repositoryId) := by
    have hdigits : ∀ c ∈ binding.installationId, (c != 0x3a) = true := by
      intro c hc
      simp only [GithubRepositoryBinding.accepted, isDecimalId, Bool.and_eq_true] at h
      have hdigit := List.all_eq_true.mp h.1.1.1.1.1.1 c hc
      rw [bne_iff_ne]
      rintro rfl
      exact absurd hdigit (by decide)
    rw [tokenCacheKey, List.span_eq_takeWhile_dropWhile, List.takeWhile_append_of_pos hdigits,
      List.dropWhile_append_of_pos hdigits]
    simp
  have hspan := congrArg (List.span (· != 0x3a)) hkey
  rw [hfront h, hfront h'] at hspan
  obtain ⟨hinstallation, hrepository⟩ := Prod.mk.inj hspan
  exact ⟨hinstallation, List.tail_eq_of_cons_eq hrepository⟩

namespace RepositoryInstallationTokenCache

/-! ## What holds in every state -/

/-- The refresh `refresh` of a key has begun. -/
def IsRefresh (s : RepositoryInstallationTokenCache) (key : JsString) (refresh : ℕ) : Prop :=
  ∃ call, s.calls (.outer refresh) = some call ∧ call.refresh = some refresh ∧
    tokenCacheKey call.binding = key

/-- A mint for a call, begun behind every refresh of the key that had begun with the call. -/
def MintsFor (s : RepositoryInstallationTokenCache) (activation : Activation) (call : TokenCall)
    (id : ℕ) : Prop :=
  (∃ mint, s.mints id = some mint ∧ mint.binding.accepted = true ∧
    tokenCacheKey mint.binding = tokenCacheKey call.binding) ∧
  ∀ refresh ≤ activation.time, IsRefresh s (tokenCacheKey call.binding) refresh → refresh ≤ id

/-- A refresh for a call, the last one that had begun with the call. -/
def RefreshesFor (s : RepositoryInstallationTokenCache) (activation : Activation)
    (call : TokenCall) (refresh : ℕ) : Prop :=
  IsRefresh s (tokenCacheKey call.binding) refresh ∧
  ∀ refresh' ≤ activation.time, IsRefresh s (tokenCacheKey call.binding) refresh' →
    refresh' ≤ refresh

/-- The token is the one of its mint. -/
def Minted (s : RepositoryInstallationTokenCache) (token : CachedToken) : Prop :=
  ∃ mint now, s.mints token.mint = some mint ∧ mint.settlement = some (.ok token, now)

/-- A token that may be kept under a key: it was minted for the key in its current generation. -/
def Keeps (s : RepositoryInstallationTokenCache) (key : JsString) (token : CachedToken) : Prop :=
  ∃ mint, s.mints token.mint = some mint ∧ mint.binding.accepted = true ∧
    tokenCacheKey mint.binding = key ∧ mint.generation = s.generations key ∧
      ∃ now, mint.settlement = some (.ok token, now)

/-- What a call waits for or has returned. -/
def StateSound (expirySkewMs : ℚ) (s : RepositoryInstallationTokenCache) (activation : Activation)
    (call : TokenCall) : Prop :=
  match call.state with
  | .minting mint generation => call.binding.accepted = true ∧ MintsFor s activation call mint ∧
      ∃ row, s.mints mint = some row ∧ row.generation = generation
  | .joiningMint mint => call.binding.accepted = true ∧ MintsFor s activation call mint
  | .refreshing refresh => call.binding.accepted = true ∧ RefreshesFor s activation call refresh
  | .joiningRefresh refresh => call.binding.accepted = true ∧
      RefreshesFor s activation call refresh
  | .returned token readAt => call.binding.accepted = true ∧
      MintsFor s activation call token.mint ∧ Minted s token ∧
      readAt < token.expiresAtMs - expirySkewMs
  | .threw _ => True

/-- A call waits for or has returned what it may, and the refresh that it started or joined has
begun with it. -/
def CallSound (expirySkewMs : ℚ) (s : RepositoryInstallationTokenCache) (activation : Activation)
    (call : TokenCall) : Prop :=
  StateSound expirySkewMs s activation call ∧
    ∀ refresh, call.refresh = some refresh → refresh ≤ activation.time ∧
      IsRefresh s (tokenCacheKey call.binding) refresh

/-- What holds between any two events. -/
structure Fenced (expirySkewMs : ℚ) (s : RepositoryInstallationTokenCache) : Prop where
  calls_lt : ∀ activation call, s.calls activation = some call → activation.time < s.time
  mints_lt : ∀ id mint, s.mints id = some mint → id < s.time
  fence : ∀ id mint, s.mints id = some mint →
    mint.generation ≤ s.generations (tokenCacheKey mint.binding) ∧
      (mint.generation = s.generations (tokenCacheKey mint.binding) →
        ∀ refresh, IsRefresh s (tokenCacheKey mint.binding) refresh → refresh ≤ id)
  settled : ∀ id mint token now, s.mints id = some mint →
    mint.settlement = some (.ok token, now) →
      token.mint = id ∧ now < token.expiresAtMs - expirySkewMs
  cached : ∀ key token, s.cached key = some token → s.Keeps key token
  pending : ∀ key id, s.pending key = some id → ∃ mint, s.mints id = some mint ∧
    mint.binding.accepted = true ∧ tokenCacheKey mint.binding = key ∧
      mint.generation = s.generations key
  refreshing : ∀ key refresh, s.refreshing key = some refresh → IsRefresh s key refresh ∧
    ∀ refresh', IsRefresh s key refresh' → refresh' ≤ refresh
  inner : ∀ key refresh, IsRefresh s key refresh → ∀ call, s.calls (.inner refresh) = some call →
    tokenCacheKey call.binding = key
  calls : ∀ activation call, s.calls activation = some call →
    CallSound expirySkewMs s activation call

variable {expirySkewMs : ℚ} {s t : RepositoryInstallationTokenCache} {activation : Activation}
  {call : TokenCall} {limit : ℕ}

theorem fenced_initial : Fenced expirySkewMs initial :=
  ⟨nofun, nofun, nofun, nofun, nofun, nofun, nofun,
    fun _ _ ⟨_, hcall, _⟩ => absurd hcall (Option.some_ne_none _).symm, nofun⟩

/-! ## Later states -/

/-- Mints keep their bindings, generations and settlements, and no refresh has begun before
`limit` but those that were known. -/
structure Extends (s t : RepositoryInstallationTokenCache) (limit : ℕ) : Prop where
  mints : ∀ id mint, s.mints id = some mint → ∃ mint', t.mints id = some mint' ∧
    mint'.binding = mint.binding ∧ mint'.generation = mint.generation ∧
      ∀ settlement, mint.settlement = some settlement → mint'.settlement = some settlement
  kept : ∀ key refresh, IsRefresh s key refresh → IsRefresh t key refresh
  known : ∀ key refresh, refresh < limit → IsRefresh t key refresh → IsRefresh s key refresh

theorem MintsFor.extend {id : ℕ} (h : MintsFor s activation call id) (hst : Extends s t limit)
    (hlimit : activation.time < limit) : MintsFor t activation call id := by
  obtain ⟨⟨mint, hmint, haccepted, hkey⟩, hfence⟩ := h
  obtain ⟨mint', hmint', hbinding, -, -⟩ := hst.mints id mint hmint
  exact ⟨⟨mint', hmint', hbinding ▸ haccepted, hbinding ▸ hkey⟩, fun refresh hle hrefresh =>
    hfence refresh hle (hst.known _ _ (lt_of_le_of_lt hle hlimit) hrefresh)⟩

theorem RefreshesFor.extend {refresh : ℕ} (h : RefreshesFor s activation call refresh)
    (hst : Extends s t limit) (hlimit : activation.time < limit) :
    RefreshesFor t activation call refresh :=
  ⟨hst.kept _ _ h.1, fun refresh' hle hrefresh =>
    h.2 refresh' hle (hst.known _ _ (lt_of_le_of_lt hle hlimit) hrefresh)⟩

theorem Minted.extend {token : CachedToken} (h : Minted s token) (hst : Extends s t limit) :
    Minted t token := by
  obtain ⟨mint, now, hmint, hsettlement⟩ := h
  obtain ⟨mint', hmint', -, -, hkept⟩ := hst.mints _ _ hmint
  exact ⟨mint', now, hmint', hkept _ hsettlement⟩

theorem CallSound.extend (h : CallSound expirySkewMs s activation call)
    (hst : Extends s t limit) (hlimit : activation.time < limit) :
    CallSound expirySkewMs t activation call := by
  obtain ⟨hstate, hrefresh⟩ := h
  refine ⟨?_, fun refresh hstarted => ?_⟩
  · rw [StateSound] at hstate ⊢
    split at hstate
    · rename_i mint generation _
      obtain ⟨haccepted, hmints, row, hrow, hgeneration⟩ := hstate
      obtain ⟨row', hrow', -, hsame, -⟩ := hst.mints mint row hrow
      exact ⟨haccepted, hmints.extend hst hlimit, row', hrow', hsame.trans hgeneration⟩
    · exact ⟨hstate.1, hstate.2.extend hst hlimit⟩
    · exact ⟨hstate.1, hstate.2.extend hst hlimit⟩
    · exact ⟨hstate.1, hstate.2.extend hst hlimit⟩
    · exact ⟨hstate.1, hstate.2.1.extend hst hlimit, hstate.2.2.1.extend hst, hstate.2.2.2⟩
    · trivial
  · obtain ⟨hle, hbegun⟩ := hrefresh refresh hstarted
    exact ⟨hle, hst.kept _ _ hbegun⟩

theorem Keeps.extend {key : JsString} {token : CachedToken} (h : s.Keeps key token)
    (hst : Extends s t limit) (hgeneration : t.generations key = s.generations key) :
    t.Keeps key token := by
  obtain ⟨mint, hmint, haccepted, hkey, hcurrent, now, hsettlement⟩ := h
  obtain ⟨mint', hmint', hbinding, hsame, hkept⟩ := hst.mints _ _ hmint
  exact ⟨mint', hmint', hbinding ▸ haccepted, hbinding ▸ hkey,
    by rw [hsame, hcurrent, hgeneration], now, hkept _ hsettlement⟩

/-- A mint that waits goes on waiting for its key. -/
theorem Extends.pending (hst : Extends s t limit) {key : JsString} {id : ℕ}
    (hgeneration : t.generations key = s.generations key)
    (h : ∃ mint, s.mints id = some mint ∧ mint.binding.accepted = true ∧
      tokenCacheKey mint.binding = key ∧ mint.generation = s.generations key) :
    ∃ mint, t.mints id = some mint ∧ mint.binding.accepted = true ∧
      tokenCacheKey mint.binding = key ∧ mint.generation = t.generations key := by
  obtain ⟨mint, hmint, haccepted, hkey, hcurrent⟩ := h
  obtain ⟨mint', hmint', hbinding, hsame, -⟩ := hst.mints id mint hmint
  exact ⟨mint', hmint', hbinding ▸ haccepted, hbinding ▸ hkey,
    by rw [hsame, hcurrent, hgeneration]⟩

/-- A change of one call begins no refresh, as long as the call keeps its binding and its refresh,
or is a new one that starts none. -/
theorem isRefresh_iff_of_set (hcalls : t.calls = s.calls.set activation call)
    (hold : ∀ old, s.calls activation = some old →
      old.binding = call.binding ∧ old.refresh = call.refresh)
    (hnew : s.calls activation = none →
      ∀ refresh, call.refresh = some refresh → activation ≠ .outer refresh)
    (key : JsString) (refresh : ℕ) : IsRefresh t key refresh ↔ IsRefresh s key refresh := by
  unfold IsRefresh
  rw [hcalls, Table.set_apply]
  split
  · rename_i hactivation
    rw [hactivation]
    cases hfound : s.calls activation with
    | none =>
        refine ⟨fun ⟨call', hcall, hrefresh, _⟩ => ?_, fun ⟨call', hcall, _⟩ => nomatch hcall⟩
        obtain rfl := Option.some.inj hcall
        exact absurd hactivation.symm (hnew hfound refresh hrefresh)
    | some old =>
        obtain ⟨hbinding, hsame⟩ := hold old hfound
        simp only [Option.some.injEq, exists_eq_left']
        rw [hbinding, hsame]
  · rfl

theorem Fenced.refresh_lt (h : Fenced expirySkewMs s) {key : JsString} {refresh : ℕ}
    (hrefresh : IsRefresh s key refresh) : refresh < s.time := by
  obtain ⟨call, hcall, -⟩ := hrefresh
  exact h.calls_lt _ _ hcall

/-- A mint of the current generation of its key is behind every refresh of the key. -/
theorem Fenced.mintsFor (h : Fenced expirySkewMs s) {id : ℕ}
    (hmint : ∃ mint, s.mints id = some mint ∧ mint.binding.accepted = true ∧
      tokenCacheKey mint.binding = tokenCacheKey call.binding ∧
        mint.generation = s.generations (tokenCacheKey call.binding)) :
    MintsFor s activation call id := by
  obtain ⟨mint, hmint, haccepted, hkey, hgeneration⟩ := hmint
  have hfence := (h.fence id mint hmint).2
  rw [hkey] at hfence
  exact ⟨⟨mint, hmint, haccepted, hkey⟩, fun refresh _ => hfence hgeneration refresh⟩

/-! ## Events that begin no mint -/

/-- A state whose generations are the same is fenced where its mints go on, its maps hold nothing
else but what may be kept, and the calls that differ are sound. -/
theorem Fenced.advance (h : Fenced expirySkewMs s) (hst : Extends s t (s.time + 1))
    (htime : t.time = s.time + 1) (hgenerations : t.generations = s.generations)
    (hmints : ∀ id mint, t.mints id = some mint → ∃ old, s.mints id = some old ∧
      old.binding = mint.binding ∧ old.generation = mint.generation ∧
      (mint.settlement = old.settlement ∨ ∀ token now, mint.settlement = some (.ok token, now) →
        token.mint = id ∧ now < token.expiresAtMs - expirySkewMs))
    (hcached : ∀ key token, t.cached key = some token →
      s.cached key = some token ∨ s.Keeps key token)
    (hpending : ∀ key id, t.pending key = some id → s.pending key = some id)
    (hrefreshing : ∀ key refresh, t.refreshing key = some refresh →
      s.refreshing key = some refresh)
    (hcalls : ∀ activation call, t.calls activation = some call →
      s.calls activation = some call ∨ CallSound expirySkewMs s activation call ∧
        ((∃ old, s.calls activation = some old ∧ old.binding = call.binding) ∨
          activation = .outer s.time)) :
    Fenced expirySkewMs t := by
  have hlt : ∀ activation call, t.calls activation = some call →
      activation.time < s.time + 1 := by
    intro activation call hcall
    rcases hcalls activation call hcall with hold | ⟨-, ⟨old, hold, -⟩ | rfl⟩
    · exact Nat.lt_succ_of_lt (h.calls_lt _ _ hold)
    · exact Nat.lt_succ_of_lt (h.calls_lt _ _ hold)
    · exact Nat.lt_succ_self _
  have hknown : ∀ key refresh, IsRefresh t key refresh → IsRefresh s key refresh := by
    intro key refresh hrefresh
    obtain ⟨call, hcall, hstarted⟩ := hrefresh
    exact hst.known key refresh (hlt _ _ hcall) ⟨call, hcall, hstarted⟩
  exact
    { calls_lt := fun activation call hcall => htime ▸ hlt activation call hcall
      mints_lt := by
        intro id mint hmint
        obtain ⟨old, hold, -⟩ := hmints id mint hmint
        rw [htime]
        exact Nat.lt_succ_of_lt (h.mints_lt id old hold)
      fence := by
        intro id mint hmint
        obtain ⟨old, hold, hbinding, hgeneration, -⟩ := hmints id mint hmint
        obtain ⟨hle, hfence⟩ := h.fence id old hold
        rw [← hbinding, ← hgeneration, hgenerations]
        exact ⟨hle, fun heq refresh hrefresh => hfence heq refresh (hknown _ _ hrefresh)⟩
      settled := by
        intro id mint token now hmint hsettlement
        obtain ⟨old, hold, -, -, hsame | hgood⟩ := hmints id mint hmint
        · exact h.settled id old token now hold (hsame ▸ hsettlement)
        · exact hgood token now hsettlement
      cached := by
        intro key token hkept
        rcases hcached key token hkept with hold | hkeeps
        · exact (h.cached key token hold).extend hst (congrFun hgenerations key)
        · exact hkeeps.extend hst (congrFun hgenerations key)
      pending := fun key id hid =>
        hst.pending (congrFun hgenerations key) (h.pending key id (hpending key id hid))
      refreshing := by
        intro key refresh hrefresh
        obtain ⟨hbegun, hlast⟩ := h.refreshing key refresh (hrefreshing key refresh hrefresh)
        exact ⟨hst.kept _ _ hbegun, fun refresh' hbegun' => hlast refresh' (hknown _ _ hbegun')⟩
      inner := by
        intro key refresh hrefresh call hcall
        have hbegun := hknown _ _ hrefresh
        rcases hcalls _ call hcall with hold | ⟨-, ⟨old, hold, hbinding⟩ | houter⟩
        · exact h.inner key refresh hbegun call hold
        · rw [← hbinding]
          exact h.inner key refresh hbegun old hold
        · cases houter
      calls := by
        intro activation call hcall
        have hlimit := hlt activation call hcall
        rcases hcalls activation call hcall with hold | ⟨hsound, -⟩
        · exact (h.calls activation call hold).extend hst hlimit
        · exact hsound.extend hst hlimit }

/-- Nothing but the calls and the maps over keys has changed, and no refresh has begun. -/
theorem extends_of_mints (hmints : t.mints = s.mints)
    (hrefreshes : ∀ key refresh, IsRefresh t key refresh ↔ IsRefresh s key refresh) :
    Extends s t limit where
  mints id mint hmint := ⟨mint, by rw [hmints, hmint], rfl, rfl, fun _ h => h⟩
  kept key refresh := (hrefreshes key refresh).mpr
  known key refresh _ := (hrefreshes key refresh).mp

theorem Fenced.idle (h : Fenced expirySkewMs s) :
    Fenced expirySkewMs { s with time := s.time + 1 } :=
  h.advance (extends_of_mints rfl fun _ _ => Iff.rfl) rfl rfl
    (fun _ mint hmint => ⟨mint, hmint, rfl, rfl, .inl rfl⟩) (fun _ _ => .inl) (fun _ _ => id)
    (fun _ _ => id) fun _ _ => .inl

/-- A call from outside that starts no refresh. -/
theorem Fenced.withOuter (h : Fenced expirySkewMs s)
    (hstate : StateSound expirySkewMs s (.outer s.time) call)
    (hrefresh : ∀ refresh, call.refresh = some refresh →
      IsRefresh s (tokenCacheKey call.binding) refresh) :
    Fenced expirySkewMs { s.withCall (.outer s.time) call with time := s.time + 1 } := by
  have hnone : s.calls (.outer s.time) = none := by
    cases hcall : s.calls (.outer s.time) with
    | none => rfl
    | some old => exact absurd (h.calls_lt _ _ hcall) (Nat.lt_irrefl _)
  have hother : ∀ refresh, call.refresh = some refresh →
      (Activation.outer s.time) ≠ .outer refresh := by
    rintro refresh hstarted heq
    cases heq
    exact absurd (h.refresh_lt (hrefresh _ hstarted)) (Nat.lt_irrefl _)
  have hsame := isRefresh_iff_of_set
    (t := { s.withCall (.outer s.time) call with time := s.time + 1 }) rfl
    (fun old hold => absurd (hold.symm.trans hnone) (Option.some_ne_none _)) fun _ => hother
  refine h.advance (extends_of_mints rfl hsame) rfl rfl
    (fun id mint hmint => ⟨mint, hmint, rfl, rfl, .inl rfl⟩) (fun _ _ => .inl) (fun _ _ => id)
    (fun _ _ => id) fun activation call' hcall => ?_
  rcases Table.eq_or_of_set hcall with ⟨rfl, rfl⟩ | hold
  · exact .inr ⟨⟨hstate, fun refresh hstarted =>
      ⟨(h.refresh_lt (hrefresh refresh hstarted)).le, hrefresh refresh hstarted⟩⟩, .inr rfl⟩
  · exact .inl hold

/-- A call goes on to another state, and the maps lose something or keep the token of a mint. -/
theorem Fenced.withState (h : Fenced expirySkewMs s) (hcall : s.calls activation = some call)
    {state : TokenCallState} (hstate : StateSound expirySkewMs s activation { call with state })
    {cached : Table JsString CachedToken} {pending refreshing : Table JsString ℕ}
    (hcached : ∀ key token, cached key = some token →
      s.cached key = some token ∨ s.Keeps key token)
    (hpending : ∀ key id, pending key = some id → s.pending key = some id)
    (hrefreshing : ∀ key refresh, refreshing key = some refresh →
      s.refreshing key = some refresh) :
    Fenced expirySkewMs
      { s with
        cached, pending, refreshing
        calls := s.calls.set activation { call with state }
        time := s.time + 1 } := by
  have hsame := @isRefresh_iff_of_set s
    { s with
      cached, pending, refreshing
      calls := s.calls.set activation { call with state }
      time := s.time + 1 } activation { call with state } rfl
    (fun old hold => by
      obtain rfl := Option.some.inj (hold.symm.trans hcall)
      exact ⟨rfl, rfl⟩)
    (fun hnone => absurd (hcall.symm.trans hnone) (Option.some_ne_none _))
  refine h.advance (extends_of_mints rfl hsame) rfl rfl
    (fun id mint hmint => ⟨mint, hmint, rfl, rfl, .inl rfl⟩) hcached hpending hrefreshing
    fun activation' call' hcall' => ?_
  rcases Table.eq_or_of_set hcall' with ⟨rfl, rfl⟩ | hold
  · exact .inr ⟨⟨hstate, (h.calls _ _ hcall).2⟩, .inl ⟨call, hcall, rfl⟩⟩
  · exact .inl hold

theorem of_withoutIf {table : Table JsString ℕ} {key key' : JsString} {value value' : ℕ}
    (h : withoutIf table key value key' = some value') : table key' = some value' := by
  rw [withoutIf] at h
  split at h
  · by_cases hkey : key' = key
    · rw [hkey, Table.erase_self] at h
      cases h
    · rwa [Table.erase_of_ne hkey] at h
  · exact h

/-- How a call ends that waited for a mint. -/
theorem Fenced.stateSound_ended (h : Fenced expirySkewMs s) {mint : ℕ}
    {settlement : Except GithubControlError CachedToken × ℚ}
    (haccepted : call.binding.accepted = true) (hmints : MintsFor s activation call mint)
    (hsettlement : (s.mints mint).bind Mint.settlement = some settlement) :
    StateSound expirySkewMs s activation { call with state := ended settlement } := by
  obtain ⟨row, hrow, hsettled⟩ := Option.bind_eq_some_iff.mp hsettlement
  obtain ⟨result, now⟩ := settlement
  cases result with
  | error error => trivial
  | ok token =>
      obtain ⟨hmint, hleft⟩ := h.settled mint row token now hrow hsettled
      subst hmint
      exact ⟨haccepted, hmints, ⟨row, now, hrow, hsettled⟩, hleft⟩

/-- A token is kept in the generation in which its mint began. -/
theorem Fenced.keeps_of_keep (h : Fenced expirySkewMs s) {mint generation : ℕ} {key : JsString}
    {settlement : Except GithubControlError CachedToken × ℚ}
    (hmints : MintsFor s activation call mint)
    (hgeneration : ∃ row, s.mints mint = some row ∧ row.generation = generation)
    (hsettlement : (s.mints mint).bind Mint.settlement = some settlement)
    {token : CachedToken}
    (hkept : s.keep (tokenCacheKey call.binding) generation settlement.1 key = some token) :
    s.cached key = some token ∨ s.Keeps key token := by
  obtain ⟨row, hrow, hsettled⟩ := Option.bind_eq_some_iff.mp hsettlement
  obtain ⟨result, now⟩ := settlement
  cases result with
  | error error => exact .inl hkept
  | ok kept =>
      simp only [keep] at hkept
      split at hkept
      · rename_i hcurrent
        rcases Table.eq_or_of_set hkept with ⟨rfl, rfl⟩ | hold
        · obtain ⟨⟨row', hrow', haccepted, hkey⟩, -⟩ := hmints
          obtain ⟨row'', hrow'', hsame⟩ := hgeneration
          obtain rfl := Option.some.inj (hrow.symm.trans hrow')
          obtain rfl := Option.some.inj (hrow.symm.trans hrow'')
          obtain ⟨hmint, -⟩ := h.settled mint row token now hrow hsettled
          subst hmint
          exact .inr ⟨row, hrow, haccepted, hkey, hsame.trans hcurrent.symm, now, hsettled⟩
        · exact .inl hold
      · exact .inl hkept

/-- What a refresh gets is behind every refresh that had begun with a call that waits for it. -/
theorem Fenced.stateSound_outcome (h : Fenced expirySkewMs s) {refresh : ℕ}
    {outcome : TokenCallState} (haccepted : call.binding.accepted = true)
    (hrefreshes : RefreshesFor s activation call refresh)
    (houtcome : s.refreshOutcome refresh = some outcome) :
    StateSound expirySkewMs s activation { call with state := outcome } := by
  obtain ⟨inner, hinner, hstate⟩ := Option.bind_eq_some_iff.mp houtcome
  obtain ⟨hsound, -⟩ := h.calls _ _ hinner
  have hkey := h.inner _ _ hrefreshes.1 inner hinner
  rw [StateSound] at hsound
  split at hstate
  · rename_i token readAt hreturned
    obtain rfl := Option.some.inj hstate
    rw [hreturned] at hsound
    obtain ⟨-, ⟨hmint, hfence⟩, hminted, hleft⟩ := hsound
    rw [hkey] at hmint hfence
    exact ⟨haccepted, ⟨hmint, fun refresh' hle hbegun =>
      hfence refresh' (hrefreshes.2 refresh' hle hbegun) hbegun⟩, hminted, hleft⟩
  · obtain rfl := Option.some.inj hstate
    trivial
  · cases hstate

theorem Fenced.resume (h : Fenced expirySkewMs s) (activation : Activation) :
    Fenced expirySkewMs { s.resume activation with time := s.time + 1 } := by
  unfold RepositoryInstallationTokenCache.resume
  cases hcall : s.calls activation with
  | none => exact h.idle
  | some call =>
      obtain ⟨hsound, -⟩ := h.calls activation call hcall
      obtain ⟨binding, started, state⟩ := call
      cases state with
      | minting mint generation =>
          obtain ⟨haccepted, hmints, hgeneration⟩ := hsound
          dsimp only
          cases hsettlement : (s.mints mint).bind Mint.settlement with
          | none => exact h.idle
          | some settlement =>
              exact h.withState hcall (h.stateSound_ended haccepted hmints hsettlement)
                (fun key token => h.keeps_of_keep hmints hgeneration hsettlement)
                (fun _ _ => of_withoutIf) fun _ _ => id
      | joiningMint mint =>
          obtain ⟨haccepted, hmints⟩ := hsound
          dsimp only
          cases hsettlement : (s.mints mint).bind Mint.settlement with
          | none => exact h.idle
          | some settlement =>
              exact h.withState hcall (h.stateSound_ended haccepted hmints hsettlement)
                (fun _ _ => .inl) (fun _ _ => id) fun _ _ => id
      | refreshing refresh =>
          obtain ⟨haccepted, hrefreshes⟩ := hsound
          dsimp only
          cases houtcome : s.refreshOutcome refresh with
          | none => exact h.idle
          | some outcome =>
              exact h.withState hcall (h.stateSound_outcome haccepted hrefreshes houtcome)
                (fun _ _ => .inl) (fun _ _ => id) fun _ _ => of_withoutIf
      | joiningRefresh refresh =>
          obtain ⟨haccepted, hrefreshes⟩ := hsound
          dsimp only
          cases houtcome : s.refreshOutcome refresh with
          | none => exact h.idle
          | some outcome =>
              exact h.withState hcall (h.stateSound_outcome haccepted hrefreshes houtcome)
                (fun _ _ => .inl) (fun _ _ => id) fun _ _ => id
      | returned token readAt => exact h.idle
      | threw error => exact h.idle

theorem Fenced.settleMint (h : Fenced expirySkewMs s) (settling : ℕ)
    (response : Except GithubControlError (JsString × ℚ)) (now : ℚ) :
    Fenced expirySkewMs { s.settleMint expirySkewMs settling response now with time := s.time + 1 } := by
  unfold RepositoryInstallationTokenCache.settleMint
  split
  · rename_i binding generation hmint
    have hst : Extends s
        { s with
          mints := s.mints.set settling ⟨binding, generation, some (response.bind fun minted =>
            if minted.2 - expirySkewMs ≤ now then .error (.plain .invalidResponse)
            else .ok ⟨minted.1, minted.2, settling⟩, now)⟩
          time := s.time + 1 } (s.time + 1) := by
      refine ⟨fun other mint hother => ?_, fun _ _ => id, fun _ _ _ => id⟩
      by_cases hid : other = settling
      · subst hid
        obtain rfl := Option.some.inj (hmint.symm.trans hother)
        exact ⟨_, Table.set_self, rfl, rfl, nofun⟩
      · exact ⟨mint, (Table.set_of_ne hid).trans hother, rfl, rfl, fun _ h => h⟩
    refine h.advance hst rfl rfl (fun other mint hother => ?_) (fun _ _ => .inl)
      (fun _ _ => id) (fun _ _ => id) fun _ _ => .inl
    rcases Table.eq_or_of_set hother with ⟨rfl, rfl⟩ | hold
    · refine ⟨_, hmint, rfl, rfl, .inr fun token settledAt hsettlement => ?_⟩
      obtain ⟨hresult, rfl⟩ := Prod.mk.inj (Option.some.inj hsettlement)
      cases response with
      | error error => cases hresult
      | ok minted =>
          simp only [Except.bind] at hresult
          split at hresult
          · cases hresult
          · rename_i hleft
            cases hresult
            exact ⟨rfl, not_le.mp hleft⟩
    · exact ⟨mint, hold, rfl, rfl, .inl rfl⟩
  · exact h.idle

theorem Fenced.invalidate (h : Fenced expirySkewMs s) (key : JsString) :
    Fenced expirySkewMs { s with cached := s.cached.erase key, time := s.time + 1 } := by
  refine h.advance (extends_of_mints rfl fun _ _ => Iff.rfl) rfl rfl
    (fun id mint hmint => ⟨mint, hmint, rfl, rfl, .inl rfl⟩) (fun key' token hkept => ?_)
    (fun _ _ => id) (fun _ _ => id) fun _ _ => .inl
  by_cases hkey : key' = key
  · rw [hkey] at hkept
    cases Table.erase_self.symm.trans hkept
  · exact .inl ((Table.erase_of_ne hkey).symm.trans hkept)

/-! ## Events that begin a mint -/

/-- A mint begins for a call of its binding, in the generation that its key has then: the one
before, or a later one where nothing is kept for the key. -/
theorem Fenced.begin (h : Fenced expirySkewMs s) {binding : GithubRepositoryBinding}
    (haccepted : binding.accepted = true) (hst : Extends s t s.time)
    (htime : t.time = s.time + 1)
    (hmints : t.mints = s.mints.set s.time
      ⟨binding, t.generations (tokenCacheKey binding), none⟩)
    (hkeys : ∀ key, (t.generations key = s.generations key ∧
        ∀ refresh, IsRefresh t key refresh → IsRefresh s key refresh) ∨
      (key = tokenCacheKey binding ∧ s.generations key < t.generations key ∧ t.cached key = none))
    (hcached : ∀ key token, t.cached key = some token → s.cached key = some token)
    (hpending : ∀ key id, t.pending key = some id →
      (key ≠ tokenCacheKey binding ∧ s.pending key = some id) ∨
        (key = tokenCacheKey binding ∧ id = s.time))
    (hrefreshing : ∀ key refresh, t.refreshing key = some refresh →
      (t.generations key = s.generations key ∧ s.refreshing key = some refresh) ∨
        (refresh = s.time ∧ IsRefresh t key refresh))
    (hcalls : ∀ activation call, t.calls activation = some call →
      s.calls activation = some call ∨ (activation.time = s.time ∧
        tokenCacheKey call.binding = tokenCacheKey binding ∧
          CallSound expirySkewMs t activation call)) :
    Fenced expirySkewMs t := by
  have hlt : ∀ activation call, t.calls activation = some call → activation.time < t.time := by
    intro activation call hcall
    rw [htime]
    rcases hcalls activation call hcall with hold | ⟨hnow, -⟩
    · exact Nat.lt_succ_of_lt (h.calls_lt _ _ hold)
    · exact hnow ▸ Nat.lt_succ_self _
  have hle : ∀ key refresh, IsRefresh t key refresh → refresh ≤ s.time := by
    intro key refresh ⟨call, hcall, _⟩
    have hbegun := hlt _ _ hcall
    rw [htime] at hbegun
    exact Nat.le_of_lt_succ hbegun
  have hnew : t.mints s.time = some ⟨binding, t.generations (tokenCacheKey binding), none⟩ := by
    rw [hmints]
    exact Table.set_self
  have hmint : ∀ id mint, t.mints id = some mint →
      (id = s.time ∧ mint = ⟨binding, t.generations (tokenCacheKey binding), none⟩) ∨
        s.mints id = some mint := by
    intro id mint hid
    rw [hmints] at hid
    exact Table.eq_or_of_set hid
  exact
    { calls_lt := hlt
      mints_lt := by
        intro id mint hid
        rw [htime]
        rcases hmint id mint hid with ⟨rfl, -⟩ | hold
        · exact Nat.lt_succ_self _
        · exact Nat.lt_succ_of_lt (h.mints_lt id mint hold)
      fence := by
        intro id mint hid
        rcases hmint id mint hid with ⟨rfl, rfl⟩ | hold
        · exact ⟨le_rfl, fun _ => hle _⟩
        · obtain ⟨hgeneration, hfence⟩ := h.fence id mint hold
          rcases hkeys (tokenCacheKey mint.binding) with ⟨hsame, hknown⟩ | ⟨-, hlater, -⟩
          · rw [hsame]
            exact ⟨hgeneration, fun heq refresh hrefresh =>
              hfence heq refresh (hknown refresh hrefresh)⟩
          · exact ⟨hgeneration.trans hlater.le, fun heq =>
              absurd heq (lt_of_le_of_lt hgeneration hlater).ne⟩
      settled := by
        intro id mint token now hid hsettlement
        rcases hmint id mint hid with ⟨rfl, rfl⟩ | hold
        · cases hsettlement
        · exact h.settled id mint token now hold hsettlement
      cached := by
        intro key token hkept
        rcases hkeys key with ⟨hsame, -⟩ | ⟨-, -, hnone⟩
        · exact (h.cached key token (hcached key token hkept)).extend hst hsame
        · cases hnone.symm.trans hkept
      pending := by
        intro key id hid
        rcases hpending key id hid with ⟨hother, hold⟩ | ⟨rfl, rfl⟩
        · rcases hkeys key with ⟨hsame, -⟩ | ⟨hkey, -⟩
          · exact hst.pending hsame (h.pending key id hold)
          · exact absurd hkey hother
        · exact ⟨_, hnew, haccepted, rfl, rfl⟩
      refreshing := by
        intro key refresh hrefresh
        rcases hrefreshing key refresh hrefresh with ⟨hsame, hold⟩ | ⟨rfl, hbegun⟩
        · obtain ⟨hbegun, hlast⟩ := h.refreshing key refresh hold
          rcases hkeys key with ⟨-, hknown⟩ | ⟨-, hlater, -⟩
          · exact ⟨hst.kept _ _ hbegun, fun refresh' hbegun' =>
              hlast refresh' (hknown refresh' hbegun')⟩
          · exact absurd hsame hlater.ne'
        · exact ⟨hbegun, hle key⟩
      inner := by
        intro key refresh hrefresh call hcall
        rcases hcalls _ call hcall with hold | ⟨hnow, hkey, -⟩
        · exact h.inner key refresh (hst.known key refresh (h.calls_lt _ _ hold) hrefresh) call hold
        · rcases hkeys key with ⟨-, hknown⟩ | ⟨hsame, -⟩
          · exact absurd hnow (h.refresh_lt (hknown refresh hrefresh)).ne
          · exact hkey.trans hsame.symm
      calls := by
        intro activation call hcall
        rcases hcalls activation call hcall with hold | ⟨-, -, hsound⟩
        · exact (h.calls activation call hold).extend hst (h.calls_lt _ _ hold)
        · exact hsound }

theorem Fenced.calls_time (h : Fenced expirySkewMs s) (hnow : activation.time = s.time) :
    s.calls activation = none := by
  cases hcall : s.calls activation with
  | none => rfl
  | some old => exact absurd (h.calls_lt _ _ hcall) (by simp [hnow])

/-- What the mint that begins now is for. -/
theorem mintsFor_time (haccepted : call.binding.accepted = true)
    (hmint : ∃ mint, t.mints s.time = some mint ∧ mint.binding = call.binding)
    (hnow : activation.time = s.time) : MintsFor t activation call s.time := by
  obtain ⟨mint, hmint, hbinding⟩ := hmint
  exact ⟨⟨mint, hmint, hbinding ▸ haccepted, by rw [hbinding]⟩, fun refresh hle _ => hnow ▸ hle⟩

theorem Fenced.startGet (h : Fenced expirySkewMs s) (now : ℚ) {binding : GithubRepositoryBinding}
    (haccepted : binding.accepted = true) :
    Fenced expirySkewMs
      { s.startGet expirySkewMs now (.outer s.time) binding with time := s.time + 1 } := by
  unfold RepositoryInstallationTokenCache.startGet
  dsimp only
  split
  · rename_i current hcurrent
    obtain ⟨hkept, hleft⟩ := Option.filter_eq_some_iff.mp hcurrent
    obtain ⟨mint, hmint, hbinding, hkey, hgeneration, settledAt, hsettlement⟩ :=
      h.cached _ _ hkept
    exact h.withOuter ⟨haccepted, h.mintsFor ⟨mint, hmint, hbinding, hkey, hgeneration⟩,
      ⟨mint, settledAt, hmint, hsettlement⟩, of_decide_eq_true hleft⟩ nofun
  · split
    · rename_i existing hexisting
      exact h.withOuter ⟨haccepted, h.mintsFor (h.pending _ _ hexisting)⟩ nofun
    · have hnone := @Fenced.calls_time _ _ (.outer s.time) h rfl
      have hsame (mints : Table ℕ Mint) (pending : Table JsString ℕ) := @isRefresh_iff_of_set s
        { s with
          mints, pending
          calls := s.calls.set (.outer s.time)
            ⟨binding, none, .minting s.time (s.generations (tokenCacheKey binding))⟩
          time := s.time + 1 } (.outer s.time)
        ⟨binding, none, .minting s.time (s.generations (tokenCacheKey binding))⟩ rfl
        (fun old hold => absurd (hold.symm.trans hnone) (Option.some_ne_none _)) fun _ => nofun
      refine h.begin haccepted ⟨fun id mint hmint => ?_, fun key refresh => (hsame _ _ _ _).mpr,
        fun key refresh _ => (hsame _ _ _ _).mp⟩ rfl rfl
        (fun key => .inl ⟨rfl, fun refresh => (hsame _ _ _ _).mp⟩) (fun _ _ => id)
        (fun key id hid => ?_) (fun _ _ hrefresh => .inl ⟨rfl, hrefresh⟩)
        fun activation call hcall => ?_
      · exact ⟨mint, (Table.set_of_ne (h.mints_lt id mint hmint).ne).trans hmint, rfl, rfl,
          fun _ h => h⟩
      · change s.pending.set (tokenCacheKey binding) s.time key = some id at hid
        rw [Table.set_apply] at hid
        split at hid
        · rename_i hkey
          exact .inr ⟨hkey, (Option.some.inj hid).symm⟩
        · rename_i hkey
          exact .inl ⟨hkey, hid⟩
      · rcases Table.eq_or_of_set hcall with ⟨rfl, rfl⟩ | hold
        · exact .inr ⟨rfl, rfl, ⟨haccepted,
            mintsFor_time haccepted ⟨_, Table.set_self, rfl⟩ rfl, _, Table.set_self, rfl⟩, nofun⟩
        · exact .inl hold

/-- The state in which a refresh has begun: it finds nothing after it has given up what there was,
and mints. -/
def refreshed (s : RepositoryInstallationTokenCache) (binding : GithubRepositoryBinding) :
    RepositoryInstallationTokenCache :=
  let key := tokenCacheKey binding
  { s.giveUp key with
    time := s.time + 1
    mints := s.mints.set s.time ⟨binding, s.generations key + 1, none⟩
    pending := (s.pending.erase key).set key s.time
    refreshing := s.refreshing.set key s.time
    calls := (s.calls.set (.inner s.time)
      ⟨binding, none, .minting s.time (s.generations key + 1)⟩).set (.outer s.time)
        ⟨binding, some s.time, .refreshing s.time⟩ }

theorem startGetFresh_eq_refreshed (now : ℚ) {binding : GithubRepositoryBinding}
    (hidle : s.refreshing (tokenCacheKey binding) = none) :
    { s.startGetFresh expirySkewMs now binding with time := s.time + 1 } = s.refreshed binding := by
  simp [RepositoryInstallationTokenCache.startGetFresh, RepositoryInstallationTokenCache.startGet,
    hidle, giveUp, refreshed, withCall]

theorem Fenced.refreshed (h : Fenced expirySkewMs s) {binding : GithubRepositoryBinding}
    (haccepted : binding.accepted = true) : Fenced expirySkewMs (s.refreshed binding) := by
  set key := tokenCacheKey binding with hkey
  have hcalls : (s.refreshed binding).calls = (s.calls.set (.inner s.time)
      ⟨binding, none, .minting s.time (s.generations key + 1)⟩).set (.outer s.time)
        ⟨binding, some s.time, .refreshing s.time⟩ := rfl
  have hbegun : IsRefresh (s.refreshed binding) key s.time :=
    ⟨⟨binding, some s.time, .refreshing s.time⟩, hcalls ▸ Table.set_self, rfl, rfl⟩
  have hcase : ∀ activation call, (s.refreshed binding).calls activation = some call →
      (activation = .outer s.time ∧ call = ⟨binding, some s.time, .refreshing s.time⟩) ∨
      (activation = .inner s.time ∧
        call = ⟨binding, none, .minting s.time (s.generations key + 1)⟩) ∨
      s.calls activation = some call := by
    intro activation call hcall
    rw [hcalls] at hcall
    rcases Table.eq_or_of_set hcall with hnew | hcall
    · exact .inl hnew
    · exact .inr (Table.eq_or_of_set hcall)
  have hold : ∀ activation call, s.calls activation = some call →
      (s.refreshed binding).calls activation = some call := by
    intro activation call hcall
    have hlt := h.calls_lt _ _ hcall
    rw [hcalls, Table.set_of_ne, Table.set_of_ne, hcall]
    · rintro rfl
      exact absurd hlt (Nat.lt_irrefl _)
    · rintro rfl
      exact absurd hlt (Nat.lt_irrefl _)
  have hknown : ∀ key' refresh, IsRefresh (s.refreshed binding) key' refresh →
      (key' = key ∧ refresh = s.time) ∨ IsRefresh s key' refresh := by
    rintro key' refresh ⟨call, hcall, hstarted, rfl⟩
    rcases hcase _ _ hcall with ⟨hactivation, rfl⟩ | ⟨hactivation, -⟩ | hcall
    · cases hactivation
      exact .inl ⟨rfl, rfl⟩
    · cases hactivation
    · exact .inr ⟨call, hcall, hstarted, rfl⟩
  have hst : Extends s (s.refreshed binding) s.time := by
    refine ⟨fun id mint hmint => ⟨mint, ?_, rfl, rfl, fun _ h => h⟩, ?_, ?_⟩
    · exact (Table.set_of_ne (h.mints_lt id mint hmint).ne).trans hmint
    · rintro key' refresh ⟨call, hcall, hstarted⟩
      exact ⟨call, hold _ _ hcall, hstarted⟩
    · intro key' refresh hlt hrefresh
      rcases hknown key' refresh hrefresh with ⟨-, rfl⟩ | hrefresh
      · exact absurd hlt (Nat.lt_irrefl _)
      · exact hrefresh
  have hgeneration : (s.refreshed binding).generations key = s.generations key + 1 :=
    Function.update_self ..
  refine h.begin haccepted hst rfl (by rw [← hkey, hgeneration]; rfl)
    (fun key' => ?_) (fun key' token hkept => ?_) (fun key' id hid => ?_) (fun key' refresh hrefresh => ?_)
    fun activation call hcall => ?_
  · by_cases hsame : key' = key
    · exact .inr ⟨hsame, by rw [hsame, hgeneration]; exact Nat.lt_succ_self _,
        hsame ▸ Table.erase_self⟩
    · refine .inl ⟨Function.update_of_ne hsame .., fun refresh hrefresh => ?_⟩
      rcases hknown key' refresh hrefresh with ⟨hkey', -⟩ | hrefresh
      · exact absurd hkey' hsame
      · exact hrefresh
  · change s.cached.erase key key' = some token at hkept
    by_cases hsame : key' = key
    · rw [hsame, Table.erase_self] at hkept
      cases hkept
    · exact (Table.erase_of_ne hsame).symm.trans hkept
  · change (s.pending.erase key).set key s.time key' = some id at hid
    by_cases hsame : key' = key
    · rw [hsame, Table.set_self] at hid
      exact .inr ⟨hsame, (Option.some.inj hid).symm⟩
    · rw [Table.set_of_ne hsame, Table.erase_of_ne hsame] at hid
      exact .inl ⟨hsame, hid⟩
  · change s.refreshing.set key s.time key' = some refresh at hrefresh
    by_cases hsame : key' = key
    · rw [hsame, Table.set_self] at hrefresh
      obtain rfl := Option.some.inj hrefresh
      exact .inr ⟨rfl, hsame ▸ hbegun⟩
    · rw [Table.set_of_ne hsame] at hrefresh
      exact .inl ⟨Function.update_of_ne hsame .., hrefresh⟩
  · have hmint : (s.refreshed binding).mints s.time = some ⟨binding, s.generations key + 1, none⟩ :=
      Table.set_self
    rcases hcase activation call hcall with ⟨rfl, rfl⟩ | ⟨rfl, rfl⟩ | hcall
    · refine .inr ⟨rfl, rfl, ⟨haccepted, hbegun, fun refresh hle _ => hle⟩, ?_⟩
      rintro refresh hstarted
      cases hstarted
      exact ⟨le_rfl, hbegun⟩
    · exact .inr ⟨rfl, rfl, ⟨haccepted, mintsFor_time haccepted ⟨_, hmint, rfl⟩ rfl,
        _, hmint, rfl⟩, nofun⟩
    · exact .inl hcall

theorem Fenced.startGetFresh (h : Fenced expirySkewMs s) (now : ℚ)
    {binding : GithubRepositoryBinding} (haccepted : binding.accepted = true) :
    Fenced expirySkewMs
      { s.startGetFresh expirySkewMs now binding with time := s.time + 1 } := by
  cases hrefreshing : s.refreshing (tokenCacheKey binding) with
  | some existing =>
      obtain ⟨hbegun, hlast⟩ := h.refreshing _ _ hrefreshing
      simp only [RepositoryInstallationTokenCache.startGetFresh, hrefreshing]
      refine h.withOuter ⟨haccepted, hbegun, fun refresh' _ => hlast refresh'⟩ ?_
      rintro refresh hstarted
      cases hstarted
      exact hbegun
  | none =>
      rw [startGetFresh_eq_refreshed now hrefreshing]
      exact h.refreshed haccepted

/-! ## Runs -/

theorem Fenced.step (h : Fenced expirySkewMs s) (event : TokenEvent) :
    Fenced expirySkewMs (step expirySkewMs s event) := by
  have hrefuse : ∀ binding, Fenced expirySkewMs { s.refuse binding with time := s.time + 1 } :=
    fun _ => h.withOuter trivial nofun
  cases event with
  | get binding now =>
      unfold RepositoryInstallationTokenCache.step act
      dsimp only
      split
      · rename_i haccepted
        exact h.startGet now haccepted
      · exact hrefuse binding
  | getFresh binding now =>
      unfold RepositoryInstallationTokenCache.step act
      dsimp only
      split
      · rename_i haccepted
        exact h.startGetFresh now haccepted
      · exact hrefuse binding
  | invalidate binding =>
      unfold RepositoryInstallationTokenCache.step act
      dsimp only
      split
      · exact h.invalidate _
      · exact h.idle
  | mintSettles mint response now => exact h.settleMint mint response now
  | resume activation => exact h.resume activation

theorem fenced_after (events : List TokenEvent) :
    Fenced expirySkewMs (after (RepositoryInstallationTokenCache.step expirySkewMs) initial events) :=
  after_keeps fenced_initial (fun _ event h => h.step event) events

/-- Whatever the calls, and in whatever order the mints end: a call returns the token of a mint for
its own installation and repository, which had more than the skew left, and which is behind the
refresh that any call for a fresh token of the key had started or joined by the start of the call.
What is kept for a key was minted in its current generation. -/
theorem tokens_fresh (expirySkewMs : ℚ) (events : List TokenEvent) :
    let s := after (RepositoryInstallationTokenCache.step expirySkewMs) initial events
    (∀ activation call token readAt, s.calls activation = some call →
      call.state = .returned token readAt →
        (∃ mint now, s.mints token.mint = some mint ∧
          mint.binding.installationId = call.binding.installationId ∧
          mint.binding.repositoryId = call.binding.repositoryId ∧
            mint.settlement = some (.ok token, now)) ∧
        readAt < token.expiresAtMs - expirySkewMs ∧
        ∀ time fresh refresh, s.calls (.outer time) = some fresh → time ≤ activation.time →
          tokenCacheKey fresh.binding = tokenCacheKey call.binding →
            fresh.refresh = some refresh → refresh ≤ token.mint) ∧
    ∀ key token, s.cached key = some token → ∃ mint now, s.mints token.mint = some mint ∧
      tokenCacheKey mint.binding = key ∧ mint.generation = s.generations key ∧
        mint.settlement = some (.ok token, now) := by
  intro s
  have h : Fenced expirySkewMs s := fenced_after events
  refine ⟨fun activation call token readAt hcall hreturned => ?_, fun key token hkept => ?_⟩
  · obtain ⟨hsound, -⟩ := h.calls activation call hcall
    rw [StateSound, hreturned] at hsound
    obtain ⟨haccepted, ⟨⟨mint, hmint, hbinding, hkey⟩, hfence⟩, hminted, hleft⟩ := hsound
    obtain ⟨mint', now, hmint', hsettlement⟩ := hminted
    obtain rfl := Option.some.inj (hmint.symm.trans hmint')
    obtain ⟨hinstallation, hrepository⟩ := ids_of_tokenCacheKey hbinding haccepted hkey
    refine ⟨⟨mint, now, hmint, hinstallation, hrepository, hsettlement⟩, hleft, ?_⟩
    intro time fresh refresh hfresh htime hsame hstarted
    obtain ⟨-, hbegun⟩ := h.calls _ _ hfresh
    obtain ⟨hle, hrefresh⟩ := hbegun refresh hstarted
    exact hfence refresh (hle.trans htime) (hsame ▸ hrefresh)
  · obtain ⟨mint, hmint, -, hkey, hgeneration, now, hsettlement⟩ := h.cached key token hkept
    exact ⟨mint, now, hmint, hkey, hgeneration, hsettlement⟩

/-- A call for a fresh token that joins a refresh does not fence off the mint of that refresh: here
a later call returns the token of a mint that began before it. -/
theorem not_behind_joined_refresh :
    ¬ ∀ (events : List TokenEvent) (fresh late : ℕ) (binding : GithubRepositoryBinding)
      (call : TokenCall) (token : CachedToken) (readAt : ℚ), fresh < late →
      (∃ now, events[fresh]? = some (.getFresh binding now)) →
      (∃ now, events[late]? = some (.get binding now)) →
      (after (RepositoryInstallationTokenCache.step 300000) initial events).calls (.outer late) =
        some call → call.state = .returned token readAt → fresh ≤ token.mint := by
  intro h
  let binding : GithubRepositoryBinding := ⟨[0x37], [0x39], [0x6f], [0x72]⟩
  exact absurd (h [.getFresh binding 0, .getFresh binding 1, .get binding 2,
      .mintSettles 0 (.ok ([0x74], 3600000)) 3, .resume (.outer 2)] 1 2 binding
    ⟨binding, none, .returned ⟨[0x74], 3600000, 0⟩ 3⟩ ⟨[0x74], 3600000, 0⟩ 3 (by decide) ⟨1, rfl⟩
    ⟨2, rfl⟩ (by decide +kernel) rfl) (by decide)

end RepositoryInstallationTokenCache

end Github

end UnderstandProof
