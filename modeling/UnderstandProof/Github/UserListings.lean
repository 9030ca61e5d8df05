import UnderstandProof.Github.UserAuthorization

/-!
# Complete listings

A listing that is returned was read page by page: every page was the answer to the call for it, all
of them announce one total, and their sizes add up to it.
-/

open Foundation

namespace UnderstandProof

namespace Github

section Requests

variable {Call α : Type} {world : World Call} {policy : GithubRequestPolicy} {deadlineAt : ℚ}
  {call : Call} {session next : Session Call}

@[simp] theorem throwControl_ne_ok {code : GithubControlErrorCode} {a : α} :
    (throwControl code : Requesting Call α).run session ≠ (.ok a, next) := nofun

theorem orInvalid_eq_ok {read : Option α} {a : α} :
    (orInvalid read : Requesting Call α).run session = (.ok a, next) ↔
      read = some a ∧ session = next := by
  cases read with
  | none => exact ⟨nofun, nofun⟩
  | some b => simp [orInvalid]

/-- What a bound request returns is what one of its calls was answered with. -/
theorem answer_of_boundRequest {data : JsValue}
    (h : (boundRequest world policy deadlineAt call).run session = (.ok data, next)) :
    ∃ n, world.answer n call = .response data := by
  obtain ⟨now, read, -, h⟩ := Stateful.run_bind_eq_ok.mp h
  dsimp only at h
  split at h
  · exact (throwControl_ne_ok h).elim
  · exact (answer_of_executeGithubRequest (congrArg Prod.fst h)).2

end Requests

/-- The pages of a listing are the answers to the calls for them, announce one total and add up to
it. -/
structure Listed (world : World UserCall) (call : ℕ → UserCall)
    (parse : JsValue → Option ListingPage) (pages : List ListingPage) (total : ℕ) : Prop where
  ne_nil : pages ≠ []
  answered : ∀ entry ∈ pages.zipIdx 1, ∃ n data,
    world.answer n (call entry.2) = .response data ∧ parse data = some entry.1
  announced : ∀ page ∈ pages, page.totalCount = total
  complete : (pages.map ListingPage.pageSize).sum = total

/-- What the loop has read from a page on, when it has announced a total and received some already
or starts. -/
structure ListedFrom (world : World UserCall) (call : ℕ → UserCall)
    (parse : JsValue → Option ListingPage) (page : ℕ) (announced : Option ℕ) (received : ℕ)
    (pages : List ListingPage) (total : ℕ) : Prop where
  ne_nil : pages ≠ []
  answered : ∀ entry ∈ pages.zipIdx page, ∃ n data,
    world.answer n (call entry.2) = .response data ∧ parse data = some entry.1
  announced_eq : ∀ before ∈ announced, before = total
  announced : ∀ page ∈ pages, page.totalCount = total
  complete : received + (pages.map ListingPage.pageSize).sum = total

section Listings

variable {world : World UserCall} {policy : GithubRequestPolicy} {deadlineAt : ℚ}
  {session next : Session UserCall}

theorem checkTotal_eq_ok {announced : Option ℕ} {page : ListingPage} {total : ℕ}
    (h : (checkTotal announced page).run session = (.ok total, next)) :
    page.totalCount = total ∧ (∀ before ∈ announced, before = total) ∧ session = next := by
  cases announced with
  | none =>
      simp only [checkTotal, Stateful.run_pure, Prod.mk.injEq, Except.ok.injEq] at h
      exact ⟨h.1, nofun, h.2⟩
  | some before =>
      simp only [checkTotal] at h
      split at h
      · exact (throwControl_ne_ok h).elim
      · rename_i heq
        simp only [Stateful.run_pure, Prod.mk.injEq, Except.ok.injEq] at h
        obtain ⟨rfl, rfl⟩ := h
        exact ⟨not_not.mp heq, fun before' hbefore => (Option.mem_some_iff.mp hbefore).symm, rfl⟩

variable {call : ℕ → UserCall} {parse : JsValue → Option ListingPage} {page : ℕ}
  {announced : Option ℕ} {received total : ℕ} {parsed : ListingPage} {data : JsValue}

theorem ListedFrom.last (hanswer : ∃ n, world.answer n (call page) = .response data)
    (hparsed : parse data = some parsed) (htotal : parsed.totalCount = total)
    (hbefore : ∀ before ∈ announced, before = total)
    (hcomplete : received + parsed.pageSize = total) :
    ListedFrom world call parse page announced received [parsed] total where
  ne_nil := List.cons_ne_nil parsed []
  answered entry hentry := by
    obtain rfl : entry = (parsed, page) := by simpa using hentry
    obtain ⟨n, hn⟩ := hanswer
    exact ⟨n, data, hn, hparsed⟩
  announced_eq := hbefore
  announced other hother := by
    rw [List.mem_singleton.mp hother]
    exact htotal
  complete := by simpa using hcomplete

theorem ListedFrom.cons {pages : List ListingPage} {final : ℕ}
    (hrest : ListedFrom world call parse (page + 1) (some total) (received + parsed.pageSize) pages
      final)
    (hanswer : ∃ n, world.answer n (call page) = .response data) (hparsed : parse data = some parsed)
    (htotal : parsed.totalCount = total) (hbefore : ∀ before ∈ announced, before = total) :
    ListedFrom world call parse page announced received (parsed :: pages) final := by
  obtain rfl : total = final := hrest.announced_eq total rfl
  refine ⟨List.cons_ne_nil parsed pages, fun entry hentry => ?_, hbefore, fun other hother => ?_,
    ?_⟩
  · rw [List.zipIdx_cons, List.mem_cons] at hentry
    rcases hentry with rfl | hentry
    · obtain ⟨n, hn⟩ := hanswer
      exact ⟨n, data, hn, hparsed⟩
    · exact hrest.answered entry hentry
  · rcases List.mem_cons.mp hother with rfl | hother
    · exact htotal
    · exact hrest.announced other hother
  · have hcomplete := hrest.complete
    rw [List.map_cons, List.sum_cons]
    omega

theorem ListedFrom.listed {pages : List ListingPage}
    (h : ListedFrom world call parse 1 none 0 pages total) : Listed world call parse pages total :=
  ⟨h.ne_nil, h.answered, h.announced, by simpa using h.complete⟩

/-! ## Installations -/

/-- The pages of the installations from one on, with their ids behind those before. -/
theorem installationPages_listed {left : ℕ} {before ids : List JsString}
    (h : (installationPages world policy deadlineAt left page announced received before).run session =
      (.ok ids, next)) :
    ∃ pages total, ListedFrom world (.listInstallationsForAuthenticatedUser · userPageSize)
        parseAccessibleAppInstallationPage page announced received pages total ∧
      pages.length ≤ left ∧ ids = (before ++ pages.flatMap ListingPage.ids).eraseDups := by
  induction left generalizing page announced received before session with
  | zero => exact (throwControl_ne_ok h).elim
  | succ left ih =>
      obtain ⟨data, session, hdata, h⟩ := Stateful.run_bind_eq_ok.mp h
      obtain ⟨parsed, session, hread, h⟩ := Stateful.run_bind_eq_ok.mp h
      obtain ⟨hparsed, rfl⟩ := orInvalid_eq_ok.mp hread
      obtain ⟨total, session, hcheck, h⟩ := Stateful.run_bind_eq_ok.mp h
      obtain ⟨htotal, hbefore, rfl⟩ := checkTotal_eq_ok hcheck
      have hanswer := answer_of_boundRequest hdata
      dsimp only at h
      split at h
      · exact (throwControl_ne_ok h).elim
      split at h
      · rename_i hcomplete
        simp only [Stateful.run_pure, Prod.mk.injEq, Except.ok.injEq] at h
        exact ⟨[parsed], total, .last hanswer hparsed htotal hbefore hcomplete, by simp,
          by simpa using h.1.symm⟩
      · obtain ⟨pages, final, hpages, hlength, hids⟩ := ih h
        exact ⟨parsed :: pages, final, ListedFrom.cons hpages hanswer hparsed htotal hbefore,
          Nat.succ_le_succ hlength, by simpa using hids⟩

theorem listAccessibleAppInstallations_listed {hasClient : Bool} {userToken : JsString}
    {ids : List JsString}
    (h : (listAccessibleAppInstallations world policy hasClient userToken).run session =
      (.ok ids, next)) :
    ∃ pages total, Listed world (.listInstallationsForAuthenticatedUser · userPageSize)
        parseAccessibleAppInstallationPage pages total ∧
      pages.length ≤ maxUserAppInstallationPages ∧
      ids = (pages.flatMap ListingPage.ids).eraseDups := by
  rw [listAccessibleAppInstallations] at h
  split at h
  · exact (throwControl_ne_ok h).elim
  split at h
  · exact (throwControl_ne_ok h).elim
  obtain ⟨now, session, -, h⟩ := Stateful.run_bind_eq_ok.mp h
  obtain ⟨pages, total, hpages, hlength, hids⟩ := installationPages_listed h
  exact ⟨pages, total, hpages.listed, hlength, by simpa using hids⟩

/-! ## Repositories -/

theorem mem_addIds {set ids : List JsString} {id : JsString} :
    id ∈ addIds set ids ↔ id ∈ set ∨ id ∈ ids := by
  induction ids generalizing set with
  | nil => simp [addIds]
  | cons first ids ih =>
      have hfold : addIds set (first :: ids) = addIds (addIf set True first) ids := rfl
      rw [hfold, ih, mem_addIf, List.mem_cons, true_and, or_assoc]

theorem nodup_addIds {set : List JsString} (h : set.Nodup) (ids : List JsString) :
    (addIds set ids).Nodup := by
  induction ids generalizing set with
  | nil => exact h
  | cons first ids ih =>
      refine @ih (addIf set True first) ?_
      rw [addIf]
      split
      · rename_i hnew
        exact List.nodup_append.mpr ⟨h, List.nodup_singleton first, fun a ha b hb hab =>
          hnew.2 (by rwa [← List.mem_singleton.mp hb, ← hab])⟩
      · exact h

/-- The pages of an installation from one on, counted against the pages and the repositories of all
installations. -/
structure RepositoriesFrom (pages : List ListingPage) (total : ℕ) (announced : Option ℕ)
    (before after : RepositoryListing) : Prop where
  pagesLeft : pages.length + after.pagesLeft = before.pagesLeft
  announcedRepositories : after.announcedRepositories =
    before.announcedRepositories + if announced.isNone then total else 0
  bounded : before.announcedRepositories ≤ maxUserAppRepositoryResults →
    after.announcedRepositories ≤ maxUserAppRepositoryResults
  repositoryIds : ∀ id, id ∈ after.repositoryIds ↔
    id ∈ before.repositoryIds ∨ ∃ page ∈ pages, id ∈ page.ids
  nodup : before.repositoryIds.Nodup → after.repositoryIds.Nodup

theorem repositoryPages_listed {installationId : JsString} {pagesLeft announcedRepositories : ℕ}
    {repositoryIds : List JsString} {listing : RepositoryListing}
    (h : (repositoryPages world policy deadlineAt installationId pagesLeft page announced received
      announcedRepositories repositoryIds).run session = (.ok listing, next)) :
    ∃ pages total, ListedFrom world
        (.listInstallationReposForAuthenticatedUser (digitsValue installationId) · userPageSize)
        parseWritableAppRepositoryPage page announced received pages total ∧
      RepositoriesFrom pages total announced ⟨pagesLeft, announcedRepositories, repositoryIds⟩
        listing := by
  induction pagesLeft generalizing page announced received announcedRepositories repositoryIds
    session with
  | zero => exact (throwControl_ne_ok h).elim
  | succ pagesLeft ih =>
      obtain ⟨data, session, hdata, h⟩ := Stateful.run_bind_eq_ok.mp h
      obtain ⟨parsed, session, hread, h⟩ := Stateful.run_bind_eq_ok.mp h
      obtain ⟨hparsed, rfl⟩ := orInvalid_eq_ok.mp hread
      have hanswer := answer_of_boundRequest hdata
      dsimp only at h
      generalize hnow : (if announced.isNone then announcedRepositories + parsed.totalCount
        else announcedRepositories) = announcedNow at h
      split at h
      · exact (throwControl_ne_ok h).elim
      rename_i hresults
      obtain ⟨total, session, hcheck, h⟩ := Stateful.run_bind_eq_ok.mp h
      obtain ⟨htotal, hbefore, rfl⟩ := checkTotal_eq_ok hcheck
      have hcounted : announcedNow =
          announcedRepositories + if announced.isNone then total else 0 := by
        rw [← hnow, htotal]
        split <;> rfl
      have hbound (hle : announcedRepositories ≤ maxUserAppRepositoryResults) :
          announcedNow ≤ maxUserAppRepositoryResults := by
        cases announced with
        | none => exact not_lt.mp fun hlt => hresults ⟨rfl, hlt⟩
        | some before => rwa [hcounted]
      split at h
      · exact (throwControl_ne_ok h).elim
      rename_i hsizes
      split at h
      · rename_i hcomplete
        simp only [Stateful.run_pure, Prod.mk.injEq, Except.ok.injEq] at h
        obtain ⟨rfl, -⟩ := h
        have hsum : received + parsed.pageSize = total := by
          rw [← htotal]
          exact Nat.le_antisymm (not_lt.mp (not_or.mp hsizes).1) hcomplete
        refine ⟨[parsed], total, .last hanswer hparsed htotal hbefore hsum, ?_, hcounted, hbound,
          ?_, ?_⟩
        · exact Nat.add_comm 1 pagesLeft
        · intro id
          simp [mem_addIds]
        · exact fun hnodup => nodup_addIds hnodup parsed.ids
      · obtain ⟨pages, final, hpages, hcount⟩ := ih h
        obtain rfl : total = final := hpages.announced_eq total rfl
        refine ⟨parsed :: pages, total, .cons hpages hanswer hparsed htotal hbefore, ?_, ?_,
          fun hle => hcount.bounded (hbound hle), ?_, ?_⟩
        · have hleft := hcount.pagesLeft
          dsimp only at hleft ⊢
          rw [List.length_cons]
          omega
        · rw [hcount.announcedRepositories, ← hcounted]
          rfl
        · intro id
          rw [hcount.repositoryIds, List.exists_mem_cons_iff, ← or_assoc]
          exact or_congr_left mem_addIds
        · exact fun hnodup => hcount.nodup (nodup_addIds hnodup parsed.ids)

/-- The listings of installations, one for each, and what they leave of the pages. -/
structure RepositoriesListed (world : World UserCall) (installationIds : List JsString)
    (listings : List (List ListingPage × ℕ)) (before after : RepositoryListing) : Prop where
  listed : List.Forall₂ (fun installationId listing => Listed world
    (.listInstallationReposForAuthenticatedUser (digitsValue installationId) · userPageSize)
    parseWritableAppRepositoryPage listing.1 listing.2) installationIds listings
  pagesLeft : (listings.map fun listing => listing.1.length).sum + after.pagesLeft =
    before.pagesLeft
  announcedRepositories : after.announcedRepositories =
    before.announcedRepositories + (listings.map Prod.snd).sum
  bounded : before.announcedRepositories ≤ maxUserAppRepositoryResults →
    after.announcedRepositories ≤ maxUserAppRepositoryResults
  repositoryIds : ∀ id, id ∈ after.repositoryIds ↔
    id ∈ before.repositoryIds ∨ ∃ listing ∈ listings, ∃ page ∈ listing.1, id ∈ page.ids
  nodup : before.repositoryIds.Nodup → after.repositoryIds.Nodup

theorem installationRepositories_listed {installationIds : List JsString}
    {before after : RepositoryListing}
    (h : (installationRepositories world policy deadlineAt installationIds before).run session =
      (.ok after, next)) :
    ∃ listings, RepositoriesListed world installationIds listings before after := by
  induction installationIds generalizing before session with
  | nil =>
      simp only [installationRepositories, Stateful.run_pure, Prod.mk.injEq, Except.ok.injEq] at h
      obtain ⟨rfl, -⟩ := h
      exact ⟨[], .nil, by simp, by simp, id, by simp, id⟩
  | cons installationId installationIds ih =>
      obtain ⟨middle, session, hpages, h⟩ := Stateful.run_bind_eq_ok.mp h
      obtain ⟨pages, total, hpages, hcount⟩ := repositoryPages_listed hpages
      obtain ⟨listings, hrest⟩ := ih h
      refine ⟨(pages, total) :: listings, .cons hpages.listed hrest.listed, ?_, ?_,
        fun hle => hrest.bounded (hcount.bounded hle), fun id => ?_,
        fun hnodup => hrest.nodup (hcount.nodup hnodup)⟩
      · have hleft := hcount.pagesLeft
        have hrestLeft := hrest.pagesLeft
        dsimp only at hleft
        rw [List.map_cons, List.sum_cons]
        dsimp only
        omega
      · rw [hrest.announcedRepositories, hcount.announcedRepositories, List.map_cons,
          List.sum_cons]
        exact Nat.add_assoc _ _ _
      · rw [hrest.repositoryIds, hcount.repositoryIds, List.exists_mem_cons_iff, ← or_assoc]

theorem listWritableAppRepositories_listed {hasClient : Bool} {userToken : JsString}
    {githubInstallationIds ids : List JsString}
    (h : (listWritableAppRepositories world policy hasClient userToken githubInstallationIds).run
      session = (.ok ids, next)) :
    ∃ listings : List (List ListingPage × ℕ),
      List.Forall₂ (fun installationId listing => Listed world
        (.listInstallationReposForAuthenticatedUser (digitsValue installationId) · userPageSize)
        parseWritableAppRepositoryPage listing.1 listing.2) githubInstallationIds listings ∧
      (listings.map fun listing => listing.1.length).sum ≤ maxUserAppRepositoryPages ∧
      (listings.map Prod.snd).sum ≤ maxUserAppRepositoryResults ∧ ids.Nodup ∧
      ∀ id, id ∈ ids ↔ ∃ listing ∈ listings, ∃ page ∈ listing.1, id ∈ page.ids := by
  rw [listWritableAppRepositories] at h
  split at h
  · exact (throwControl_ne_ok h).elim
  split at h
  · exact (throwControl_ne_ok h).elim
  obtain ⟨now, session, -, h⟩ := Stateful.run_bind_eq_ok.mp h
  obtain ⟨listing, session, hlisting, h⟩ := Stateful.run_bind_eq_ok.mp h
  obtain ⟨listings, hlistings⟩ := installationRepositories_listed hlisting
  simp only [Stateful.run_pure, Prod.mk.injEq, Except.ok.injEq] at h
  obtain ⟨rfl, -⟩ := h
  refine ⟨listings, hlistings.listed, Nat.le_of_add_right_le hlistings.pagesLeft.le, ?_,
    hlistings.nodup List.nodup_nil, fun id => ?_⟩
  · have hbound := hlistings.bounded (Nat.zero_le _)
    rw [hlistings.announcedRepositories] at hbound
    simpa using hbound
  · rw [hlistings.repositoryIds]
    simp

end Listings

/-- A request keeps to its policy and its deadline, and a listing of the installations or the
repositories of a user is returned only where its pages add up to the total that they announce. -/
theorem githubRequests_bounded :
    (∀ {Call : Type} (world : World Call) {policy : GithubRequestPolicy}
      {resolved : ResolvedPolicy}, resolvePolicy policy = some resolved →
      ∀ (maxApiCalls : Option ℕ) (call : Call) (cursor : Cursor),
        let events := (executeGithubRequest world policy maxApiCalls call cursor).1
        let deadlineAt := world.clock cursor.readings + resolved.deadlineMs
        events.countP RequestEvent.isRequest ≤ resolved.maxAttempts ∧
          AtEach (RequestEvent.Disciplined deadlineAt) events) ∧
    (∀ {world : World UserCall} {policy : GithubRequestPolicy} {session next : Session UserCall}
      {hasClient : Bool} {userToken : JsString} {ids : List JsString},
      (listAccessibleAppInstallations world policy hasClient userToken).run session =
        (.ok ids, next) →
      ∃ pages total, Listed world (.listInstallationsForAuthenticatedUser · userPageSize)
          parseAccessibleAppInstallationPage pages total ∧
        pages.length ≤ maxUserAppInstallationPages ∧
        ids = (pages.flatMap ListingPage.ids).eraseDups) ∧
    ∀ {world : World UserCall} {policy : GithubRequestPolicy} {session next : Session UserCall}
      {hasClient : Bool} {userToken : JsString} {githubInstallationIds ids : List JsString},
      (listWritableAppRepositories world policy hasClient userToken githubInstallationIds).run
        session = (.ok ids, next) →
      ∃ listings : List (List ListingPage × ℕ),
        List.Forall₂ (fun installationId listing => Listed world
          (.listInstallationReposForAuthenticatedUser (digitsValue installationId) · userPageSize)
          parseWritableAppRepositoryPage listing.1 listing.2) githubInstallationIds listings ∧
        (listings.map fun listing => listing.1.length).sum ≤ maxUserAppRepositoryPages ∧
        (listings.map Prod.snd).sum ≤ maxUserAppRepositoryResults ∧ ids.Nodup ∧
        ∀ id, id ∈ ids ↔ ∃ listing ∈ listings, ∃ page ∈ listing.1, id ∈ page.ids :=
  ⟨fun world _ _ hpolicy => executeGithubRequest_disciplined world hpolicy,
    listAccessibleAppInstallations_listed, listWritableAppRepositories_listed⟩

/-- A service with one installation and one writable repository of two. -/
def sampleUserWorld : World UserCall where
  clock _ := 0
  random _ := some 0
  answer _ call := match call with
    | .listInstallationsForAuthenticatedUser .. => .response (.obj [(js "total_count", .num 1),
        (js "installations", .arr [.obj [(js "id", .num 7)]])])
    | .listInstallationReposForAuthenticatedUser .. => .response (.obj [(js "total_count", .num 2),
        (js "repositories", .arr [sampleRepository 8 true, sampleRepository 9 false])])
  platform := ⟨fun _ => none, fun _ => none⟩
where
  sampleRepository (id : ℕ) (push : Bool) : JsValue :=
    .obj [(js "id", .num id), (js "permissions",
      .obj [(js "admin", .bool false), (js "push", .bool push)])]

def samplePolicy : GithubRequestPolicy := ⟨none, none, none⟩

def sampleToken : JsString := js "ghu_0123456789abcdef"

theorem githubRequests_bounded_sample :
    (executeGithubRequest sampleUserWorld samplePolicy none
      (.listInstallationsForAuthenticatedUser 1 100) ⟨0, 0, 0⟩).1.countP RequestEvent.isRequest ≤ 3 ∧
    (∃ pages total, Listed sampleUserWorld
      (.listInstallationsForAuthenticatedUser · userPageSize) parseAccessibleAppInstallationPage pages
        total ∧ [js "7"] = (pages.flatMap ListingPage.ids).eraseDups) ∧
    ∃ listings : List (List ListingPage × ℕ),
      (listings.map Prod.snd).sum ≤ maxUserAppRepositoryResults ∧
        ∃ listing ∈ listings, ∃ page ∈ listing.1, js "8" ∈ page.ids := by
  have hpolicy : resolvePolicy samplePolicy =
      some ⟨3, 25000, 10000, by decide, by norm_num, by norm_num⟩ := by decide
  have hinstallations : ((listAccessibleAppInstallations sampleUserWorld samplePolicy true
      sampleToken).run ⟨⟨0, 0, 0⟩, []⟩).1 = .ok [js "7"] := by decide +kernel
  have hrepositories : ((listWritableAppRepositories sampleUserWorld samplePolicy true sampleToken
      [js "7"]).run ⟨⟨0, 0, 0⟩, []⟩).1 = .ok [js "8"] := by decide +kernel
  obtain ⟨hrequest, hinstalled, hwritable⟩ := githubRequests_bounded
  obtain ⟨pages, total, hlisted, -, hids⟩ := hinstalled (Prod.ext hinstallations rfl)
  obtain ⟨listings, -, -, hresults, -, hmem⟩ := hwritable (Prod.ext hrepositories rfl)
  exact ⟨(hrequest sampleUserWorld hpolicy none _ ⟨0, 0, 0⟩).1, ⟨pages, total, hlisted, hids⟩,
    listings, hresults, (hmem (js "8")).mp List.mem_cons_self⟩

end Github

end UnderstandProof
