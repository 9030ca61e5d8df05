import UnderstandProof.Foundation.Except
import UnderstandProof.Github.CheckRuns
import UnderstandProof.Github.RequestDiscipline

/-!
# The course of a check run

Creating or updating a check run reads first, then sees where the pull request is, and then writes
at most twice, each time once. What it reports is the run of its last response, which carries the
name, the head and the revision of the intent in a state that satisfies it.
-/

open Foundation

namespace UnderstandProof

namespace Github

open Db (CheckStatus CheckConclusion)

/-! ## What a course says -/

/-- The state of a run satisfies an intent: a pending one while the run is open and without a
conclusion, a completed one with exactly its conclusion. -/
def UpstreamCheckRun.Satisfies (run : UpstreamCheckRun) (intent : CheckIntentInput) : Prop :=
  match intent.conclusion with
  | none => run.status ≠ .completed ∧ run.conclusion = none
  | some conclusion => run.status = .completed ∧
      run.conclusion.map RemoteCheckConclusion.text = some conclusion.text

/-- A response names a run of the intent in a state that satisfies it. -/
def Reports (intent : CheckIntentInput) (data : JsValue) (checkRunId : JsString) : Prop :=
  ∃ run, readUpstreamCheckRun data = some run ∧ JsString.decimal run.id = checkRunId ∧
    run.name = githubCheckName ∧ run.headSha = intent.headSha ∧
    run.externalId = some intent.revisionId ∧ run.Satisfies intent

def CheckCall.isWrite : CheckCall → Bool
  | createCheckRun .. | updateCheckRun .. => true
  | getCheckRun .. | listCheckRunsForRef .. => false

/-- A call that only reads. -/
def Exchange.isRead : Exchange → Bool
  | .head _ => false
  | .call made _ _ => !made.isWrite

/-- A write whose request was sent once at most. -/
def Exchange.IsWrittenOnce : Exchange → Prop
  | .head _ => False
  | .call made events _ => made.isWrite = true ∧ events.countP RequestEvent.isRequest ≤ 1

/-- A call that returned. -/
def Exchange.returned : Exchange → Bool
  | .head _ => false
  | .call _ _ result => result.isOk

/-- A call that returned what it was answered with. -/
def Exchange.Answers (world : CheckWorld) (data : JsValue) : Exchange → Prop
  | .head _ => False
  | .call made _ result => result = .ok data ∧ ∃ n, world.requests.answer n made = .response data

/-- A reading of the head that saw the pull request where the intent expects it. -/
def Exchange.SeesCurrent (intent : CheckIntentInput) : Exchange → Prop
  | .head current => current =
      .ok ⟨intent.headSha, intent.baseSha, intent.expectedPullRequestState⟩
  | .call .. => False

/-- The reads, the readings of the head and the writes of an operation, in this order. -/
structure Course (world : CheckWorld) (intent : CheckIntentInput)
    (reads heads writes : List Exchange) (result : Except GithubControlError JsString) : Prop where
  reads_length : reads.length ≤ maxExistingCheckRuns
  reads_only : ∀ exchange ∈ reads, exchange.isRead = true
  heads_length : heads.length ≤ 1
  heads_only : ∀ exchange ∈ heads, ∃ current, exchange = .head current
  head : writes ≠ [] → ∃ exchange ∈ heads, exchange.SeesCurrent intent
  writes_length : writes.length ≤ 2
  once : ∀ exchange ∈ writes, exchange.IsWrittenOnce
  followed : ∀ before write after, writes = before ++ write :: after → after ≠ [] →
    write.returned = true
  reported : ∀ checkRunId, result = .ok checkRunId → ∃ before write data,
    writes = before ++ [write] ∧ write.Answers world data ∧ Reports intent data checkRunId

/-- The operation has ended among its reads. -/
theorem Course.of_reads {world : CheckWorld} {intent : CheckIntentInput} {reads : List Exchange}
    (hlength : reads.length ≤ maxExistingCheckRuns)
    (honly : ∀ exchange ∈ reads, exchange.isRead = true) (error : GithubControlError) :
    Course world intent reads [] [] (.error error) :=
  ⟨hlength, honly, Nat.zero_le 1, nofun, fun h => absurd rfl h, Nat.zero_le 2, nofun,
    fun before write after h => absurd h (by simp), nofun⟩

/-- The runs of the revision on a page that was read. -/
def Exchange.runsOf (intent : CheckIntentInput) : Exchange → List UpstreamCheckRun
  | .call (.listCheckRunsForRef ..) _ (.ok data) =>
      ((readUpstreamCheckRunList data).elim [] UpstreamCheckRunList.checkRuns).filter
        (UpstreamCheckRun.isOf intent)
  | _ => []

/-- The runs that may be taken up again: the open ones, and without any all of them where the intent
is completed. -/
def reusable (intent : CheckIntentInput) (runs : List UpstreamCheckRun) : List UpstreamCheckRun :=
  let open' := runs.filter fun run => run.status != .completed
  if intent.status = .completed ∧ open' = [] then runs else open'

/-- The call goes to the highest-numbered run that may be taken up again, and creates a run where
there is none. -/
def Reuses (intent : CheckIntentInput) (runs : List UpstreamCheckRun) : Exchange → Prop
  | .head _ => False
  | .call made _ _ =>
      (reusable intent runs = [] ∧ made = .createCheckRun intent.headSha (checkRequest intent)) ∨
        ∃ run ∈ reusable intent runs, (∀ other ∈ reusable intent runs, other.id ≤ run.id) ∧
          made = .updateCheckRun run.id (checkRequest intent)

/-! ## Runs as they are read -/

def UpstreamCheckRun.remote (run : UpstreamCheckRun) : RemoteCheck :=
  ⟨JsString.decimal run.id, run.status, run.conclusion⟩

theorem remote_of_toRemote {run : UpstreamCheckRun} {remote : RemoteCheck}
    (h : run.toRemote = some remote) : remote = run.remote := by
  rw [UpstreamCheckRun.toRemote, decimalId] at h
  split at h
  · exact (Option.some.inj h).symm
  · cases h

theorem parseRemoteCheck_eq_some {value : JsValue} {intent : CheckIntentInput}
    {expectedCheckRunId : Option JsString} {remote : RemoteCheck}
    (h : parseRemoteCheck value intent expectedCheckRunId = some remote) :
    ∃ run, readUpstreamCheckRun value = some run ∧ remote = run.remote ∧
      run.name = githubCheckName ∧ run.headSha = intent.headSha ∧
      run.externalId = some intent.revisionId := by
  obtain ⟨run, hrun, h⟩ := Option.bind_eq_some_iff.mp h
  split at h
  · cases h
  · rename_i hchecks
    obtain ⟨hname, hrest⟩ := not_or.mp hchecks
    obtain ⟨hhead, hrest⟩ := not_or.mp hrest
    exact ⟨run, hrun, remote_of_toRemote h, not_not.mp hname, not_not.mp hhead,
      not_not.mp (not_or.mp hrest).1⟩

theorem satisfies_of_remoteMatchesIntent {run : UpstreamCheckRun} {intent : CheckIntentInput}
    (h : remoteMatchesIntent run.remote intent = true) : run.Satisfies intent := by
  have hcompleted := intent.completed_iff
  rw [remoteMatchesIntent] at h
  rw [UpstreamCheckRun.Satisfies]
  split
  · rename_i hnone
    rw [hnone] at hcompleted
    rw [if_pos fun hstatus => absurd (hcompleted.mp hstatus) (by simp)] at h
    obtain ⟨hstatus, hconclusion⟩ := Bool.and_eq_true_iff.mp h
    exact ⟨bne_iff_ne.mp hstatus, Option.isNone_iff_eq_none.mp hconclusion⟩
  · rename_i conclusion hsome
    rw [hsome] at hcompleted
    rw [if_neg (not_not.mpr (hcompleted.mpr rfl)), hsome] at h
    obtain ⟨hstatus, hconclusion⟩ := Bool.and_eq_true_iff.mp h
    exact ⟨beq_iff_eq.mp hstatus, beq_iff_eq.mp hconclusion⟩

/-- A response that parses and matches reports its run. -/
theorem reports_of_parse {data : JsValue} {intent : CheckIntentInput}
    {expectedCheckRunId : Option JsString} {remote : RemoteCheck}
    (hparse : parseRemoteCheck data intent expectedCheckRunId = some remote)
    (hmatch : remoteMatchesIntent remote intent = true) :
    Reports intent data remote.checkRunId := by
  obtain ⟨run, hread, rfl, hname, hhead, hrevision⟩ := parseRemoteCheck_eq_some hparse
  exact ⟨run, hread, rfl, hname, hhead, hrevision, satisfies_of_remoteMatchesIntent hmatch⟩

/-! ## The run that is taken up again -/

theorem later_foldl (first : RemoteCheck) (rest : List RemoteCheck) :
    rest.foldl later first ∈ first :: rest ∧
      ∀ other ∈ first :: rest,
        digitsValue other.checkRunId ≤ digitsValue (rest.foldl later first).checkRunId := by
  induction rest generalizing first with
  | nil => exact ⟨List.mem_cons_self, fun other hother => by rw [List.mem_singleton.mp hother]; rfl⟩
  | cons next rest ih =>
      rw [List.foldl_cons]
      obtain ⟨hmem, hle⟩ := ih (later first next)
      have hlater : later first next = first ∨ later first next = next := by
        rw [later]
        split
        · exact .inr rfl
        · exact .inl rfl
      have hfirst : digitsValue first.checkRunId ≤ digitsValue (later first next).checkRunId := by
        rw [later]
        split
        · exact le_of_lt ‹_›
        · exact le_refl _
      have hnext : digitsValue next.checkRunId ≤ digitsValue (later first next).checkRunId := by
        rw [later]
        split
        · exact le_refl _
        · exact not_lt.mp ‹_›
      have hbound := hle (later first next) List.mem_cons_self
      refine ⟨?_, fun other hother => ?_⟩
      · rcases List.mem_cons.mp hmem with heq | hmem
        · rw [heq]
          rcases hlater with hlater | hlater <;> simp [hlater]
        · exact List.mem_cons_of_mem _ (List.mem_cons_of_mem _ hmem)
      · rcases List.mem_cons.mp hother with rfl | hother
        · exact hfirst.trans hbound
        · rcases List.mem_cons.mp hother with rfl | hother
          · exact hnext.trans hbound
          · exact hle other (List.mem_cons_of_mem _ hother)

/-- The pool of the selection is that of the runs behind it. -/
theorem pool_map_remote (runs : List UpstreamCheckRun) (intent : CheckIntentInput) :
    (if intent.status = .completed ∧
        (runs.map UpstreamCheckRun.remote).filter (fun remote => remote.status != .completed) = []
      then runs.map UpstreamCheckRun.remote
      else (runs.map UpstreamCheckRun.remote).filter fun remote => remote.status != .completed) =
    (reusable intent runs).map UpstreamCheckRun.remote := by
  have hfilter : (runs.map UpstreamCheckRun.remote).filter
      (fun remote => remote.status != .completed) =
        (runs.filter fun run => run.status != .completed).map UpstreamCheckRun.remote := by
    rw [List.filter_map]
    rfl
  simp only [hfilter, List.map_eq_nil_iff, reusable]
  split <;> rfl

theorem selectReusableRemote_map (runs : List UpstreamCheckRun) (intent : CheckIntentInput) :
    (selectReusableRemote (runs.map UpstreamCheckRun.remote) intent = none ∧
        reusable intent runs = []) ∨
      ∃ run ∈ reusable intent runs, (∀ other ∈ reusable intent runs, other.id ≤ run.id) ∧
        selectReusableRemote (runs.map UpstreamCheckRun.remote) intent = some run.remote := by
  simp only [selectReusableRemote]
  rw [pool_map_remote]
  cases hpool : reusable intent runs with
  | nil => exact .inl ⟨rfl, rfl⟩
  | cons first rest =>
      obtain ⟨hmem, hle⟩ := later_foldl first.remote (rest.map UpstreamCheckRun.remote)
      rw [← List.map_cons] at hmem hle
      obtain ⟨run, hrun, heq⟩ := List.mem_map.mp hmem
      refine .inr ⟨run, hrun, fun other hother => ?_, congrArg some heq.symm⟩
      have hother' := hle other.remote (List.mem_map_of_mem hother)
      rw [← heq] at hother'
      simpa only [UpstreamCheckRun.remote, digitsValue_decimal] using hother'

/-- A run of the pool is never refused. -/
theorem canReuse_of_mem_reusable {runs : List UpstreamCheckRun} {intent : CheckIntentInput}
    {run : UpstreamCheckRun} (h : run ∈ reusable intent runs) :
    canReuseRemoteCheck run.remote intent = true := by
  simp only [reusable] at h
  split at h
  · rename_i hcompleted
    simp [canReuseRemoteCheck, hcompleted.1]
  · have hopen := (List.mem_filter.mp h).2
    simp [canReuseRemoteCheck, UpstreamCheckRun.remote, bne_iff_ne.mp hopen]

/-! ## What each part does -/

namespace OctokitCheckRunAdapter

variable {world : CheckWorld} {policy : GithubRequestPolicy} {intent : CheckIntentInput}

/-- What a part of the adapter does, and how it ends. -/
abbrev Does {α : Type} (x : Checking α)
    (Q : List Exchange → Except GithubControlError α → Prop) : Prop :=
  Stateful.Logs CheckSession.exchanges x Q

theorem throwCheck_does {α : Type} {code : GithubControlErrorCode}
    {Q : List Exchange → Except GithubControlError α → Prop} (h : Q [] (.error (.plain code))) :
    Does (throwCheck code) Q :=
  .lift h

theorem orInvalidCheck_does {α : Type} {read : Option α} :
    Does (orInvalidCheck read) fun new result =>
      new = [] ∧ ∀ a, result = .ok a → read = some a := by
  cases read with
  | none => exact throwCheck_does ⟨rfl, nofun⟩
  | some a => exact .pure ⟨rfl, fun _ h => congrArg some (Except.ok.inj h)⟩

theorem executeCheck_does (policy : GithubRequestPolicy) (call : CheckCall) :
    Does (executeCheck world policy call) fun new result =>
      ∃ events, new = [.call call events result] ∧
        ∀ data, result = .ok data → ∃ n, world.requests.answer n call = .response data :=
  fun _ => ⟨_, rfl, _, rfl, fun _ hdata => (answer_of_executeGithubRequest hdata).2⟩

/-- A request with one attempt makes at most one call. -/
theorem countP_isRequest_of_once {Call : Type} (requests : World Call)
    (policy : GithubRequestPolicy) (call : Call) (cursor : Cursor) :
    (executeGithubRequest requests { policy with maxAttempts := some 1 } none call cursor).1.countP
      RequestEvent.isRequest ≤ 1 := by
  cases hpolicy : resolvePolicy { policy with maxAttempts := some 1 } with
  | none =>
      rw [executeGithubRequest, hpolicy]
      exact Nat.zero_le 1
  | some resolved =>
      have hattempts : resolved.maxAttempts = 1 := by
        rw [resolvePolicy] at hpolicy
        dsimp only at hpolicy
        split at hpolicy
        · rw [← Option.some.inj hpolicy]
          rfl
        · cases hpolicy
      rw [← hattempts]
      exact (executeGithubRequest_disciplined requests hpolicy none call cursor).1

theorem executeWrite_does (call : CheckCall) :
    Does (executeWrite world policy call) fun new result =>
      ∃ events response, new = [.call call events response] ∧
        events.countP RequestEvent.isRequest ≤ 1 ∧ ∀ data, result = .ok data →
          response = .ok data ∧ ∃ n, world.requests.answer n call = .response data := by
  intro session
  refine ⟨_, rfl, _, _, rfl, countP_isRequest_of_once world.requests policy call session.cursor,
    fun data hdata => ?_⟩
  have hresponse : (executeGithubRequest world.requests { policy with maxAttempts := some 1 } none
      call session.cursor).2.1 = .ok data := by
    generalize hrun : executeCheck world { policy with maxAttempts := some 1 } call session = run
      at hdata
    simp only [Stateful.run, executeWrite, hrun] at hdata
    rw [executeCheck] at hrun
    rw [← hrun] at hdata
    revert hdata
    cases (executeGithubRequest world.requests { policy with maxAttempts := some 1 } none
      call session.cursor).2.1 with
    | error error => exact nofun
    | ok data' => exact fun hdata => hdata
  exact ⟨hresponse, (answer_of_executeGithubRequest hresponse).2⟩

/-- A write that was made once, and what it reports. -/
structure Wrote (world : CheckWorld) (intent : CheckIntentInput) (call : CheckCall)
    (write : Exchange) (result : Except GithubControlError JsString) : Prop where
  sent : ∃ events response, write = .call call events response
  once : write.IsWrittenOnce
  reported : ∀ checkRunId, result = .ok checkRunId → ∃ data, write.Answers world data ∧
    Reports intent data checkRunId

theorem writeCreate_does : Does (writeCreate world policy intent) fun new result =>
    ∃ write, new = [write] ∧
      Wrote world intent (.createCheckRun intent.headSha (checkRequest intent)) write result := by
  refine (executeWrite_does _).bind ?_ fun new data hdata => ?_
  · rintro new error ⟨events, response, rfl, hcount, -⟩
    exact ⟨_, rfl, ⟨_, _, rfl⟩, ⟨rfl, hcount⟩, nofun⟩
  · obtain ⟨events, response, rfl, hcount, hok⟩ := hdata
    obtain ⟨rfl, hanswer⟩ := hok data rfl
    have herror (error : GithubControlError) : Wrote world intent
        (.createCheckRun intent.headSha (checkRequest intent))
        (.call (.createCheckRun intent.headSha (checkRequest intent)) events (.ok data))
        (.error error) := ⟨⟨_, _, rfl⟩, ⟨rfl, hcount⟩, nofun⟩
    refine orInvalidCheck_does.bind ?_ fun more remote hparsed => ?_
    · rintro more error ⟨rfl, -⟩
      exact ⟨_, rfl, herror error⟩
    · obtain ⟨rfl, hparse⟩ := hparsed
      split
      · exact throwCheck_does ⟨_, rfl, herror _⟩
      · rename_i hmatch
        refine .pure ⟨_, rfl, ⟨_, _, rfl⟩, ⟨rfl, hcount⟩, fun checkRunId hid => ?_⟩
        obtain rfl := Except.ok.inj hid
        exact ⟨data, ⟨rfl, hanswer⟩,
          reports_of_parse (hparse remote rfl) (Bool.of_not_eq_false hmatch)⟩

/-- An update that returned what its response says of the run. -/
theorem writeUpdate_does (checkRunId : JsString) :
    Does (writeUpdate world policy intent checkRunId) fun new result =>
      ∃ write, new = [write] ∧ write.IsWrittenOnce ∧
        (∃ events response, write = .call
          (.updateCheckRun (digitsValue checkRunId) (checkRequest intent)) events response) ∧
        ∀ remote, result = .ok remote → ∃ data, write.Answers world data ∧
          parseRemoteCheck data intent (some checkRunId) = some remote := by
  refine (executeWrite_does _).bind ?_ fun new data hdata => ?_
  · rintro new error ⟨events, response, rfl, hcount, -⟩
    exact ⟨_, rfl, ⟨rfl, hcount⟩, ⟨_, _, rfl⟩, nofun⟩
  · obtain ⟨events, response, rfl, hcount, hok⟩ := hdata
    obtain ⟨rfl, hanswer⟩ := hok data rfl
    refine orInvalidCheck_does.weaken fun more result hparsed => ?_
    obtain ⟨rfl, hparse⟩ := hparsed
    exact ⟨_, rfl, ⟨rfl, hcount⟩, ⟨_, _, rfl⟩, fun remote hremote =>
      ⟨data, ⟨rfl, hanswer⟩, hparse remote hremote⟩⟩

/-- The writes of an operation: at most two, and the second one behind an answer to the first. -/
structure Written (world : CheckWorld) (intent : CheckIntentInput) (first : CheckCall)
    (writes : List Exchange) (result : Except GithubControlError JsString) : Prop where
  length : writes.length ≤ 2
  once : ∀ exchange ∈ writes, exchange.IsWrittenOnce
  followed : ∀ before write after, writes = before ++ write :: after → after ≠ [] →
    write.returned = true
  first : ∃ events response rest, writes = .call first events response :: rest
  reported : ∀ checkRunId, result = .ok checkRunId → ∃ before write data,
    writes = before ++ [write] ∧ write.Answers world data ∧ Reports intent data checkRunId

theorem Written.of_one {call : CheckCall} {write : Exchange}
    {result : Except GithubControlError JsString} (h : Wrote world intent call write result) :
    Written world intent call [write] result where
  length := Nat.le_succ 1
  once := List.forall_mem_singleton.mpr h.once
  followed before other after heq hafter := by
    cases before with
    | nil => exact absurd (List.tail_eq_of_cons_eq heq).symm hafter
    | cons _ before => exact absurd (List.tail_eq_of_cons_eq heq) (by simp)
  first := by
    obtain ⟨events, response, rfl⟩ := h.sent
    exact ⟨events, response, [], rfl⟩
  reported checkRunId hid := by
    obtain ⟨data, hdata, hreports⟩ := h.reported checkRunId hid
    exact ⟨[], write, data, rfl, hdata, hreports⟩

theorem Written.cons {call call' : CheckCall} {write create : Exchange}
    {result : Except GithubControlError JsString} (honce : write.IsWrittenOnce)
    (hsent : ∃ events response, write = .call call events response)
    (hreturned : write.returned = true) (h : Wrote world intent call' create result) :
    Written world intent call [write, create] result where
  length := le_refl 2
  once := List.forall_mem_cons.mpr ⟨honce, List.forall_mem_singleton.mpr h.once⟩
  followed before other after heq hafter := by
    cases before with
    | nil =>
        obtain ⟨rfl, -⟩ := List.cons.inj heq
        exact hreturned
    | cons _ before =>
        have hrest := List.tail_eq_of_cons_eq heq
        cases before with
        | nil => exact absurd (List.tail_eq_of_cons_eq hrest).symm hafter
        | cons _ before => exact absurd (List.tail_eq_of_cons_eq hrest) (by simp)
  first := by
    obtain ⟨events, response, rfl⟩ := hsent
    exact ⟨events, response, [create], rfl⟩
  reported checkRunId hid := by
    obtain ⟨data, hdata, hreports⟩ := h.reported checkRunId hid
    exact ⟨[write], create, data, rfl, hdata, hreports⟩

/-- The first call of an intent. -/
def firstCall (intent : CheckIntentInput) (existingCheckRunId : Option JsString) : CheckCall :=
  match existingCheckRunId with
  | none => .createCheckRun intent.headSha (checkRequest intent)
  | some checkRunId => .updateCheckRun (digitsValue checkRunId) (checkRequest intent)

theorem applyIntent_does (existingCheckRunId : Option JsString) :
    Does (applyIntent world policy intent existingCheckRunId)
      (Written world intent (firstCall intent existingCheckRunId)) := by
  cases existingCheckRunId with
  | none =>
      refine writeCreate_does.weaken fun new result hnew => ?_
      obtain ⟨write, rfl, hwrote⟩ := hnew
      exact .of_one hwrote
  | some checkRunId =>
      refine (writeUpdate_does checkRunId).bind ?_ fun new updated hnew => ?_
      · rintro new error ⟨write, rfl, honce, hsent, -⟩
        exact .of_one ⟨hsent, honce, nofun⟩
      · obtain ⟨write, rfl, honce, hsent, hok⟩ := hnew
        obtain ⟨data, hanswers, hparse⟩ := hok updated rfl
        split
        · rename_i hmatch
          refine .pure (.of_one ⟨hsent, honce, fun checkRunId' hid => ?_⟩)
          obtain rfl := Except.ok.inj hid
          exact ⟨data, hanswers, reports_of_parse hparse hmatch⟩
        split
        · exact throwCheck_does (.of_one ⟨hsent, honce, nofun⟩)
        · refine writeCreate_does.weaken fun more result hmore => ?_
          obtain ⟨create, rfl, hwrote⟩ := hmore
          obtain ⟨events, response, rfl⟩ := hsent
          exact .cons honce ⟨_, _, rfl⟩ (by rw [Exchange.returned, hanswers.1]; rfl) hwrote

theorem ok_of_orUnavailable {α : Type} {result : Except (Option GithubControlError) α} {a : α}
    {session : CheckSession} (h : ((orUnavailable result).run session).1 = .ok a) :
    result = .ok a := by
  cases result with
  | error error => cases h
  | ok a' => exact congrArg Except.ok (Except.ok.inj h)

/-- The head is seen where the intent expects it, or the operation ends. -/
theorem assertCurrentHead_does : Does (assertCurrentHead world intent) fun new result =>
    ∃ current, new = [.head current] ∧
      (result = .ok () → (Exchange.head current).SeesCurrent intent) := by
  refine Stateful.Logs.bind (Q := fun new result => new = [.head world.currentHead] ∧
    ∀ current, result = .ok current → world.currentHead = .ok current)
      (fun session => ⟨_, rfl, rfl, fun current => ok_of_orUnavailable⟩) ?_ fun new current hnew => ?_
  · rintro new error ⟨rfl, -⟩
    exact ⟨_, rfl, nofun⟩
  · obtain ⟨rfl, hcurrent⟩ := hnew
    split
    · exact throwCheck_does ⟨_, rfl, nofun⟩
    · rename_i hchecks
      obtain ⟨hhead, hrest⟩ := not_or.mp hchecks
      obtain ⟨hbase, hstate⟩ := not_or.mp hrest
      refine .pure ⟨_, rfl, fun _ => ?_⟩
      rw [Exchange.SeesCurrent, hcurrent current rfl, ← not_not.mp hhead, ← not_not.mp hbase,
        ← not_not.mp hstate]

/-- What follows the reads: the head is read, and then the intent is applied. -/
theorem finish_does (existingCheckRunId : Option JsString) {reads : List Exchange}
    (hlength : reads.length ≤ maxExistingCheckRuns)
    (honly : ∀ exchange ∈ reads, exchange.isRead = true) :
    Does (do
        assertCurrentHead world intent
        applyIntent world policy intent existingCheckRunId) fun new result =>
      ∃ heads writes, new = heads ++ writes ∧ Course world intent reads heads writes result ∧
        ∀ write ∈ writes.head?, ∃ events response,
          write = .call (firstCall intent existingCheckRunId) events response := by
  refine assertCurrentHead_does.bind ?_ fun new _ hnew => ?_
  · rintro new error ⟨current, rfl, -⟩
    exact ⟨[.head current], [], rfl, ⟨hlength, honly, le_refl 1,
      List.forall_mem_singleton.mpr ⟨current, rfl⟩, fun h => absurd rfl h, Nat.zero_le 2,
      nofun, fun before write after h => absurd h (by simp), nofun⟩, nofun⟩
  · obtain ⟨current, rfl, hcurrent⟩ := hnew
    refine (applyIntent_does existingCheckRunId).weaken fun writes result hwritten => ?_
    refine ⟨[.head current], writes, rfl, ⟨hlength, honly, le_refl 1,
      List.forall_mem_singleton.mpr ⟨current, rfl⟩,
      fun _ => ⟨_, List.mem_singleton_self _, hcurrent rfl⟩, hwritten.length, hwritten.once,
      hwritten.followed, hwritten.reported⟩, fun write hwrite => ?_⟩
    obtain ⟨events, response, rest, rfl⟩ := hwritten.first
    obtain rfl := Option.some.inj hwrite
    exact ⟨events, response, rfl⟩

theorem invalidateRejectedToken_does {α : Type} {operation : Checking α}
    {Q : List Exchange → Except GithubControlError α → Prop} (h : Does operation Q) :
    Does (invalidateRejectedToken operation) Q := by
  intro session
  obtain ⟨new, hnew, hresult⟩ := h session
  simp only [Stateful.run, invalidateRejectedToken] at hnew hresult ⊢
  split
  · rename_i error next hrun
    rw [hrun] at hnew hresult
    refine ⟨new, ?_, hresult⟩
    dsimp only
    split <;> exact hnew
  · exact ⟨new, hnew, hresult⟩

/-- The operation behind a client that was created, or not. -/
theorem withClient_does {operation : Checking JsString}
    {Q : List Exchange → Except GithubControlError JsString → Prop}
    (herror : ∀ error, Q [] (.error error)) (h : Does operation Q) :
    Does (do
      orUnavailable world.client
      invalidateRejectedToken operation) Q := by
  rw [orUnavailable]
  refine Stateful.Logs.bind (Q := fun new _ => new = []) (.lift rfl) ?_ fun new _ hnew => ?_
  · rintro new error rfl
    exact herror error
  · obtain rfl := hnew
    exact invalidateRejectedToken_does h

/-! ## The listing -/

theorem pageMatches_eq_some {runs : List UpstreamCheckRun} {found : List RemoteCheck}
    (h : pageMatches intent runs = some found) :
    found = (runs.filter (UpstreamCheckRun.isOf intent)).map UpstreamCheckRun.remote := by
  rw [pageMatches] at h
  generalize runs.filter (UpstreamCheckRun.isOf intent) = kept at h
  induction kept generalizing found with
  | nil => exact (Option.some.inj h).symm
  | cons run kept ih =>
      rw [List.mapM_cons] at h
      obtain ⟨remote, hremote, h⟩ := Option.bind_eq_some_iff.mp h
      obtain ⟨rest, hrest, h⟩ := Option.bind_eq_some_iff.mp h
      split at hremote
      · cases hremote
      · rw [← Option.some.inj h, List.map_cons, remote_of_toRemote hremote, ih hrest]

/-- The listing ends after as many pages as there may be runs, with the runs of the revision on
them. -/
theorem listPages_does (page : ℕ) (expectedTotal : Option ℕ) (seen : ℕ)
    (found : List RemoteCheck) (hseen : seen < maxExistingCheckRuns) :
    Does (listPages world policy intent page expectedTotal seen found) fun new result =>
      new.length ≤ maxExistingCheckRuns - seen ∧ (∀ exchange ∈ new, exchange.isRead = true) ∧
        ∀ found', result = .ok found' → found' =
          found ++ (new.flatMap (Exchange.runsOf intent)).map UpstreamCheckRun.remote := by
  have hpage : 1 ≤ maxExistingCheckRuns - seen := Nat.sub_pos_of_lt hseen
  have hread (events : List (RequestEvent CheckCall)) (response : Except GithubControlError JsValue) :
      ∀ exchange ∈ [Exchange.call (.listCheckRunsForRef intent.owner intent.repositoryName
        intent.headSha githubCheckName page 100) events response], exchange.isRead = true :=
    List.forall_mem_singleton.mpr rfl
  rw [listPages]
  refine (executeCheck_does policy _).bind ?_ fun new data hdata => ?_
  · rintro new error ⟨events, rfl, -⟩
    exact ⟨hpage, hread _ _, nofun⟩
  obtain ⟨events, rfl, -⟩ := hdata
  refine orInvalidCheck_does.bind ?_ fun more parsed hparsed => ?_
  · rintro more error ⟨rfl, -⟩
    exact ⟨hpage, hread _ _, nofun⟩
  obtain ⟨rfl, hparsed⟩ := hparsed
  split
  · exact throwCheck_does ⟨hpage, hread _ _, nofun⟩
  split
  · exact throwCheck_does ⟨hpage, hread _ _, nofun⟩
  split
  · exact throwCheck_does ⟨hpage, hread _ _, nofun⟩
  split
  · exact throwCheck_does ⟨hpage, hread _ _, nofun⟩
  rename_i hlimit _ hempty _
  refine orInvalidCheck_does.bind ?_ fun more found' hmatches => ?_
  · rintro more error ⟨rfl, -⟩
    exact ⟨hpage, hread _ _, nofun⟩
  obtain ⟨rfl, hmatches⟩ := hmatches
  have hfound' := pageMatches_eq_some (hmatches found' rfl)
  have hruns : Exchange.runsOf intent (.call (.listCheckRunsForRef intent.owner
      intent.repositoryName intent.headSha githubCheckName page 100) events (.ok data)) =
        parsed.checkRuns.filter (UpstreamCheckRun.isOf intent) := by
    rw [Exchange.runsOf, hparsed parsed rfl]
    rfl
  split
  · rename_i hmore
    have hnext : seen + parsed.checkRuns.length < maxExistingCheckRuns :=
      hmore.trans_le (not_lt.mp hlimit)
    have hprogress : 0 < parsed.checkRuns.length := by
      rw [Nat.pos_iff_ne_zero]
      intro hzero
      exact hempty ⟨hzero, (Nat.le_add_right _ _).trans_lt hmore⟩
    refine (listPages_does (page + 1) (some parsed.totalCount) (seen + parsed.checkRuns.length)
      (found ++ found') hnext).weaken fun rest result hrest => ?_
    obtain ⟨hlength, honly, hok⟩ := hrest
    refine ⟨?_, ?_, fun found'' hfound'' => ?_⟩
    · simp only [List.nil_append, List.singleton_append, List.length_cons]
      omega
    · simp only [List.nil_append, List.singleton_append]
      exact List.forall_mem_cons.mpr ⟨rfl, honly⟩
    · rw [hok found'' hfound'', hfound']
      simp only [List.nil_append, List.singleton_append, List.flatMap_cons, List.map_append, hruns,
        List.append_assoc]
  · refine .pure ⟨hpage, hread _ _, fun found'' hfound'' => ?_⟩
    rw [← Except.ok.inj hfound'', hfound']
    simp only [List.append_nil, List.flatMap_cons, List.flatMap_nil, hruns]
termination_by maxExistingCheckRuns - seen

theorem findExistingWithClient_does :
    Does (findExistingWithClient world policy intent) fun new result =>
      new.length ≤ maxExistingCheckRuns ∧ (∀ exchange ∈ new, exchange.isRead = true) ∧
        ∀ existing, result = .ok existing → existing = selectReusableRemote
          ((new.flatMap (Exchange.runsOf intent)).map UpstreamCheckRun.remote) intent := by
  refine (listPages_does 1 none 0 [] (by decide)).bind ?_ fun new found hnew => ?_
  · rintro new error ⟨hlength, honly, -⟩
    exact ⟨hlength, honly, nofun⟩
  · obtain ⟨hlength, honly, hfound⟩ := hnew
    refine .pure ?_
    rw [List.append_nil]
    refine ⟨hlength, honly, fun existing hexisting => ?_⟩
    rw [← Except.ok.inj hexisting, hfound found rfl, List.nil_append]

/-- The first call of a creation goes to the run that may be taken up again. -/
theorem reuses_of_firstCall {runs : List UpstreamCheckRun} {existing : Option RemoteCheck}
    (hexisting : existing = selectReusableRemote (runs.map UpstreamCheckRun.remote) intent)
    {write : Exchange} (hwrite : ∃ events response, write = .call (firstCall intent
      ((existing.filter fun existing => canReuseRemoteCheck existing intent).map
        RemoteCheck.checkRunId)) events response) :
    Reuses intent runs write := by
  obtain ⟨events, response, rfl⟩ := hwrite
  rcases selectReusableRemote_map runs intent with ⟨hnone, hempty⟩ | ⟨run, hrun, hle, hsome⟩
  · rw [hexisting, hnone]
    exact .inl ⟨hempty, rfl⟩
  · rw [hexisting, hsome, Option.filter_some, if_pos (canReuse_of_mem_reusable hrun),
      Option.map_some, firstCall, UpstreamCheckRun.remote, digitsValue_decimal]
    exact .inr ⟨run, hrun, hle, rfl⟩

theorem create_does : Does (create world policy intent) fun new result =>
    ∃ reads heads writes, new = reads ++ heads ++ writes ∧
      Course world intent reads heads writes result ∧
      ∀ write ∈ writes.head?, Reuses intent (reads.flatMap (Exchange.runsOf intent)) write := by
  refine withClient_does (fun error => ⟨[], [], [], rfl, .of_reads (Nat.zero_le _) (List.forall_mem_nil _) error,
    nofun⟩) ?_
  refine findExistingWithClient_does.bind ?_ fun reads existing hreads => ?_
  · rintro reads error ⟨hlength, honly, -⟩
    exact ⟨reads, [], [], by simp, .of_reads hlength honly error, nofun⟩
  · obtain ⟨hlength, honly, hexisting⟩ := hreads
    refine (finish_does _ hlength honly).weaken fun more result hmore => ?_
    obtain ⟨heads, writes, rfl, hcourse, hfirst⟩ := hmore
    exact ⟨reads, heads, writes, (List.append_assoc _ _ _).symm, hcourse, fun write hwrite =>
      reuses_of_firstCall (hexisting existing rfl) (hfirst write hwrite)⟩

theorem reads_get (owner repositoryName : JsString) (checkRunId : ℕ)
    (events : List (RequestEvent CheckCall)) (result : Except GithubControlError JsValue) :
    [Exchange.call (.getCheckRun owner repositoryName checkRunId) events result].length ≤
      maxExistingCheckRuns ∧
    ∀ exchange ∈ [Exchange.call (.getCheckRun owner repositoryName checkRunId) events result],
      exchange.isRead = true :=
  ⟨Nat.le_add_left 1 299, List.forall_mem_singleton.mpr rfl⟩

theorem update_does (checkRunId : JsString) :
    Does (update world policy intent checkRunId) fun new result =>
      ∃ reads heads writes, new = reads ++ heads ++ writes ∧
        Course world intent reads heads writes result := by
  refine withClient_does (fun error => ⟨[], [], [], rfl, .of_reads (Nat.zero_le _) (List.forall_mem_nil _) error⟩) ?_
  refine (executeCheck_does policy _).bind ?_ fun reads data hreads => ?_
  · rintro reads error ⟨events, rfl, -⟩
    obtain ⟨hlength, honly⟩ := reads_get intent.owner intent.repositoryName
      (digitsValue checkRunId) events (.error error)
    exact ⟨_, [], [], rfl, .of_reads hlength honly error⟩
  · obtain ⟨events, rfl, -⟩ := hreads
    obtain ⟨hlength, honly⟩ := reads_get intent.owner intent.repositoryName
      (digitsValue checkRunId) events (.ok data)
    refine orInvalidCheck_does.bind ?_ fun more remote hmore => ?_
    · rintro more error ⟨rfl, -⟩
      exact ⟨_, [], [], rfl, .of_reads hlength honly error⟩
    · obtain ⟨rfl, -⟩ := hmore
      refine (finish_does _ hlength honly).weaken fun more result hmore => ?_
      obtain ⟨heads, writes, rfl, hcourse, -⟩ := hmore
      exact ⟨_, heads, writes, rfl, hcourse⟩

end OctokitCheckRunAdapter

open OctokitCheckRunAdapter

/-- Creating or updating a check run reads, sees the head where the intent expects it, and writes at
most twice, each time once; what it returns is the run of its last response, in a state that
satisfies the intent. Creating goes to the highest-numbered open run of the revision, to the
highest-numbered run where a completed intent finds none open, and else to a new one. -/
theorem checkRuns_reported (world : CheckWorld) (policy : GithubRequestPolicy)
    (intent : CheckIntentInput) (session : CheckSession) :
    (∃ reads heads writes,
      ((create world policy intent).run session).2.exchanges =
        session.exchanges ++ (reads ++ heads ++ writes) ∧
      Course world intent reads heads writes ((create world policy intent).run session).1 ∧
      ∀ write ∈ writes.head?, Reuses intent (reads.flatMap (Exchange.runsOf intent)) write) ∧
    ∀ checkRunId, ∃ reads heads writes,
      ((update world policy intent checkRunId).run session).2.exchanges =
        session.exchanges ++ (reads ++ heads ++ writes) ∧
      Course world intent reads heads writes
        ((update world policy intent checkRunId).run session).1 := by
  constructor
  · obtain ⟨new, hnew, reads, heads, writes, rfl, hcourse, hreuses⟩ :=
      @create_does world policy intent session
    exact ⟨reads, heads, writes, hnew, hcourse, hreuses⟩
  · intro checkRunId
    obtain ⟨new, hnew, reads, heads, writes, rfl, hcourse⟩ :=
      @update_does world policy intent checkRunId session
    exact ⟨reads, heads, writes, hnew, hcourse⟩

end Github

end UnderstandProof
