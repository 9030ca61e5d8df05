import UnderstandProof.Foundation.Except
import UnderstandProof.Foundation.Visited
import UnderstandProof.Github.RequestPolicy

/-!
# The handler of proof generation

The job reserves its run, has the questions generated and persisted with an attempt, or replays what
it has completed. An error that a retry may cure is thrown again, and every other one recorded as a
failed preparation, but only where the handler sees it: two of its promises are returned without
being awaited, and what they are rejected with passes the handler by.
-/

open Foundation

namespace UnderstandProof

namespace Worker

namespace ProofGeneration

/-! ## Errors -/

/-- What is read of an object that was thrown. A code is one where it is a text, a status where it
is a number, with infinity above all others; a cause is another object, or none. -/
structure ErrorObject (size : ℕ) where
  isError : Bool
  name : JsValue
  code : Option JsString
  status : Option (WithTop ℚ)
  cause : Option (Fin size)

/-- A thrown value with the objects that can be reached from it; causes may run in a circle. -/
structure ThrownError where
  size : ℕ
  object : Fin size → ErrorObject size
  value : Option (Fin size)

/-- `new Error(…)` -/
def ThrownError.new (name : JsString) (code : Option JsString) : ThrownError :=
  ⟨1, fun _ => ⟨true, .str name, code, none, none⟩, some 0⟩

def retryableErrorCodes : List JsString :=
  [js "40001", js "40P01", js "55P03", js "57014", js "57P01", js "57P02", js "57P03",
    js "ECONNABORTED", js "ECONNREFUSED", js "ECONNRESET", js "EHOSTUNREACH", js "ENETDOWN",
    js "ENETUNREACH", js "ETIMEDOUT"]

/-- What the object itself says of a retry, its cause apart. -/
def ErrorObject.isTransient {size : ℕ} (object : ErrorObject size) : Bool :=
  (JsValue.literal (js "AbortError") object.name).isSome ||
    object.code.any (fun code => (js "08").isPrefixOf code || (js "53").isPrefixOf code ||
      (js "58").isPrefixOf code || retryableErrorCodes.contains code) ||
    object.status.any fun status => status = 408 ∨ status = 425 ∨ status = 429 ∨ 500 ≤ status

def isRetryablePreparationError (error : ThrownError) : Bool :=
  anyAlong (fun address => (error.object address).cause)
    (fun address => (error.object address).isTransient) ∅ error.value

/-- A retryable error has a transient one among itself and its causes. -/
theorem isRetryablePreparationError_iff (error : ThrownError) :
    isRetryablePreparationError error = true ↔
      ∃ address, OnChain (fun address => (error.object address).cause) error.value address ∧
        (error.object address).isTransient = true :=
  anyAlong_iff

/-- `/^[A-Za-z][A-Za-z0-9_.:-]{0,127}$/u` -/
def isErrorClass (name : JsString) : Bool :=
  name.head?.any isLetter && name.length ≤ 128 &&
    name.all fun c => isLetter c || (0x30 ≤ c && c ≤ 0x39) || c == 0x5f || c == 0x2e ||
      c == 0x3a || c == 0x2d
where
  isLetter (c : UInt16) : Bool := (0x41 ≤ c && c ≤ 0x5a) || (0x61 ≤ c && c ≤ 0x7a)

def safeErrorClass (error : ThrownError) : JsValue :=
  match error.value with
  | none => .str (js "UnknownError")
  | some address =>
      let object := error.object address
      if object.isError = true ∧ isErrorClass (Github.stringOf object.name) = true then object.name
      else .str (js "UnknownError")

theorem isErrorClass_unknown :
    isErrorClass (Github.stringOf (.str (js "UnknownError"))) = true := by
  rw [Github.stringOf]
  decide

theorem isErrorClass_safeErrorClass (error : ThrownError) :
    isErrorClass (Github.stringOf (safeErrorClass error)) = true := by
  rw [safeErrorClass]
  split
  · exact isErrorClass_unknown
  · dsimp only
    split
    · rename_i h
      exact h.2
    · exact isErrorClass_unknown

/-! ## Calls -/

/-- How a call of an asynchronous function ends: its promise is settled, or it throws without one. -/
inductive Behaviour (α : Type) where
  | resolves (value : α)
  | rejects (error : ThrownError)
  | throws (error : ThrownError)

namespace Behaviour

variable {α : Type}

/-- `await call()` -/
def awaited : Behaviour α → Except ThrownError α
  | resolves value => .ok value
  | rejects error => .error error
  | throws error => .error error

/-- `return call()`: the promise is handed on as it is. -/
def returned : Behaviour α → Except ThrownError (Except ThrownError α)
  | resolves value => .ok (.ok value)
  | rejects error => .ok (.error error)
  | throws error => .error error

/-- The error that a call raises, as a rejection or at once. -/
def Raises (behaviour : Behaviour α) (error : ThrownError) : Prop :=
  behaviour = .rejects error ∨ behaviour = .throws error

/-- The error that the promise of a call is rejected with. -/
def rejection : Behaviour α → Option ThrownError
  | rejects error => some error
  | _ => none

end Behaviour

/-! ## The handler -/

variable {Context Payload Plan Result : Type}

/-- What the handler uses of a run. -/
structure SemanticRunContext (Context : Type) where
  generationContext : Context
  artifactSeed : JsString
  questionCount : ℕ
  createdAt : Domain.Timestamp
  deadlineAt : Domain.Timestamp
  deleteAfter : Domain.Timestamp
  completedArtifactId : Option JsString
  deriving DecidableEq

inductive Reservation (Context : Type) where
  | stale
  | proofPending
  | run (run : SemanticRunContext Context)
  deriving DecidableEq

structure GenerateProofQuestionPlanRequest (Context : Type) where
  generationContext : Context
  artifactSeed : JsString
  artifactCreatedAt : Domain.Timestamp
  deadlineAt : Domain.Timestamp
  deleteAfter : Domain.Timestamp
  questionBudget : ℕ
  deriving DecidableEq

def SemanticRunContext.planRequest (run : SemanticRunContext Context) :
    GenerateProofQuestionPlanRequest Context :=
  ⟨run.generationContext, run.artifactSeed, run.createdAt, run.deadlineAt, run.deleteAfter,
    run.questionCount⟩

/-- The repository and the generation service, as they answer. -/
structure ProofServices (Context Payload Plan Result : Type) where
  reserveRun : Payload → Behaviour (Reservation Context)
  generateProofQuestionPlan : GenerateProofQuestionPlanRequest Context → Behaviour Plan
  replayCompletedProof : SemanticRunContext Context → Behaviour Result
  persistProofPlanAndCreateAttempt : SemanticRunContext Context → Plan → Behaviour Result
  failProofPreparation : Payload → JsValue → Behaviour Result

inductive ProofCall (Context Payload Plan : Type) where
  | reserveRun (payload : Payload)
  | generateProofQuestionPlan (request : GenerateProofQuestionPlanRequest Context)
  | replayCompletedProof (run : SemanticRunContext Context)
  | persistProofPlanAndCreateAttempt (run : SemanticRunContext Context) (plan : Plan)
  | failProofPreparation (payload : Payload) (errorClass : JsValue)

inductive ProofOutcome (Result : Type) where
  | stale
  | prepared (result : Result)
  | failed (result : Result)
  deriving DecidableEq

/-- A part of the handler, with the calls that were made. -/
abbrev Handling (Context Payload Plan α : Type) :=
  Stateful ThrownError (List (ProofCall Context Payload Plan)) α

/-- A call whose end is waited for, as it is seen within the function. -/
def makeCall {α : Type} (call : ProofCall Context Payload Plan) (seen : Except ThrownError α) :
    Handling Context Payload Plan α :=
  fun calls => (seen, calls ++ [call])

@[simp] theorem run_makeCall {α : Type} (call : ProofCall Context Payload Plan)
    (seen : Except ThrownError α) (calls : List (ProofCall Context Payload Plan)) :
    (makeCall call seen).run calls = (seen, calls ++ [call]) := rfl

/-- `throw new Error(…)` -/
def pendingError : ThrownError := .new (js "Error") none

section Handler

variable (services : ProofServices Context Payload Plan Result) (payload : Payload)

/-- The block of the `try`, and the promise that it returns. -/
def tryProof : Handling Context Payload Plan (Except ThrownError (ProofOutcome Result)) := do
  let reservation ← makeCall (.reserveRun payload) (services.reserveRun payload).awaited
  match reservation with
  | .stale => pure (.ok .stale)
  | .proofPending => Stateful.lift (.error pendingError)
  | .run run =>
      if run.completedArtifactId.isSome = true then do
        let promise ← makeCall (.replayCompletedProof run)
          (services.replayCompletedProof run).returned
        pure (promise.map .prepared)
      else do
        let plan ← makeCall (.generateProofQuestionPlan run.planRequest)
          (services.generateProofQuestionPlan run.planRequest).awaited
        let promise ← makeCall (.persistProofPlanAndCreateAttempt run plan)
          (services.persistProofPlanAndCreateAttempt run plan).returned
        pure (promise.map .prepared)

/-- The block of the `catch`. -/
def catchProof (error : ThrownError) : Handling Context Payload Plan (ProofOutcome Result) :=
  if isRetryablePreparationError error = true then Stateful.lift (.error error)
  else do
    let result ← makeCall (.failProofPreparation payload (safeErrorClass error))
      (services.failProofPreparation payload (safeErrorClass error)).awaited
    pure (.failed result)

/-- `semantic.generate-proof-questions` -/
def generateProofQuestions : Handling Context Payload Plan (ProofOutcome Result) := fun calls =>
  match (tryProof services payload).run calls with
  | (.ok promise, calls) => (promise, calls)
  | (.error error, calls) => (catchProof services payload error).run calls

end Handler

/-! ## Failing closed -/

section FailsClosed

variable (services : ProofServices Context Payload Plan Result) (payload : Payload)

/-- A call that records a failed preparation. -/
def ProofCall.isRecord : ProofCall Context Payload Plan → Bool
  | failProofPreparation .. => true
  | _ => false

/-- The error that a call has raised. -/
def RaisedBy (call : ProofCall Context Payload Plan) (error : ThrownError) : Prop :=
  match call with
  | .reserveRun payload => (services.reserveRun payload).Raises error
  | .generateProofQuestionPlan request =>
      (services.generateProofQuestionPlan request).Raises error
  | .replayCompletedProof run => (services.replayCompletedProof run).Raises error
  | .persistProofPlanAndCreateAttempt run plan =>
      (services.persistProofPlanAndCreateAttempt run plan).Raises error
  | .failProofPreparation payload errorClass =>
      (services.failProofPreparation payload errorClass).Raises error

/-- A call behind which the revision has an attempt or a recorded failure. -/
def Settles : ProofCall Context Payload Plan → Prop
  | .replayCompletedProof run => ∃ result, services.replayCompletedProof run = .resolves result
  | .persistProofPlanAndCreateAttempt run plan =>
      ∃ result, services.persistProofPlanAndCreateAttempt run plan = .resolves result
  | .failProofPreparation payload errorClass =>
      ∃ result, services.failProofPreparation payload errorClass = .resolves result
  | _ => False

/-- The handler is rejected with a retryable error or with one of the record alone, records every
other error of its calls exactly once, and leaves nothing unsettled behind. -/
structure FailsClosed : Prop where
  rejects : ∀ error, ((generateProofQuestions services payload).run []).1 = .error error →
    isRetryablePreparationError error = true ∨
      ∃ call ∈ ((generateProofQuestions services payload).run []).2,
        call.isRecord = true ∧ RaisedBy services call error
  records : ∀ call ∈ ((generateProofQuestions services payload).run []).2, call.isRecord = false →
    ∀ error, RaisedBy services call error → isRetryablePreparationError error = false →
      ((generateProofQuestions services payload).run []).2.filter ProofCall.isRecord =
        [.failProofPreparation payload (safeErrorClass error)]
  settles : ∀ outcome, ((generateProofQuestions services payload).run []).1 = .ok outcome →
    outcome = .stale ∨
      ∃ call ∈ ((generateProofQuestions services payload).run []).2, Settles services call

/-- What the promise that the handler returns without awaiting it is rejected with. -/
def returnedRejection : Option ThrownError :=
  match services.reserveRun payload with
  | .resolves (.run run) =>
      if run.completedArtifactId.isSome = true then (services.replayCompletedProof run).rejection
      else
        match services.generateProofQuestionPlan run.planRequest with
        | .resolves plan => (services.persistProofPlanAndCreateAttempt run plan).rejection
        | _ => none
  | _ => none

variable {services payload}

/-- Calls that raise nothing and record nothing. -/
def Quiet (services : ProofServices Context Payload Plan Result)
    (calls : List (ProofCall Context Payload Plan)) : Prop :=
  ∀ call ∈ calls, call.isRecord = false ∧ ∀ error, ¬ RaisedBy services call error

/-- The ways in which the block of the `try` ends. -/
inductive Tried (services : ProofServices Context Payload Plan Result) (payload : Payload) :
    List (ProofCall Context Payload Plan) →
      Except ThrownError (Except ThrownError (ProofOutcome Result)) → Prop
  | stale {calls} (hquiet : Quiet services calls) (hnone : returnedRejection services payload = none) :
      Tried services payload calls (.ok (.ok .stale))
  | pending {calls} (hquiet : Quiet services calls)
      (hnone : returnedRejection services payload = none) :
      Tried services payload calls (.error pendingError)
  | threw {calls call error} (hquiet : Quiet services calls) (hcall : call.isRecord = false)
      (hraised : ∀ error', RaisedBy services call error' ↔ error' = error)
      (hnone : returnedRejection services payload = none) :
      Tried services payload (calls ++ [call]) (.error error)
  | prepared {calls call result} (hquiet : Quiet services calls) (hcall : call.isRecord = false)
      (hraised : ∀ error, ¬ RaisedBy services call error) (hsettles : Settles services call)
      (hnone : returnedRejection services payload = none) :
      Tried services payload (calls ++ [call]) (.ok (.ok (.prepared result)))
  | rejected {calls call error} (hquiet : Quiet services calls) (hcall : call.isRecord = false)
      (hraised : ∀ error', RaisedBy services call error' ↔ error' = error)
      (hsome : returnedRejection services payload = some error) :
      Tried services payload (calls ++ [call]) (.ok (.error error))

theorem Behaviour.raises_rejects_iff {α : Type} {error error' : ThrownError} :
    (Behaviour.rejects error : Behaviour α).Raises error' ↔ error' = error := by
  simp [Behaviour.Raises, eq_comm]

theorem Behaviour.raises_throws_iff {α : Type} {error error' : ThrownError} :
    (Behaviour.throws error : Behaviour α).Raises error' ↔ error' = error := by
  simp [Behaviour.Raises, eq_comm]

theorem Behaviour.not_raises_resolves {α : Type} {value : α} {error : ThrownError} :
    ¬ (Behaviour.resolves value).Raises error := by
  simp [Behaviour.Raises]

theorem Quiet.nil : Quiet services [] := fun _ h => absurd h List.not_mem_nil

theorem Quiet.concat {calls : List (ProofCall Context Payload Plan)}
    {call : ProofCall Context Payload Plan} (h : Quiet services calls)
    (hcall : call.isRecord = false) (hraised : ∀ error, ¬ RaisedBy services call error) :
    Quiet services (calls ++ [call]) := by
  intro other hother
  rcases List.mem_append.mp hother with hother | hother
  · exact h other hother
  · obtain rfl := List.mem_singleton.mp hother
    exact ⟨hcall, hraised⟩

/-- A call that is awaited raises what it is rejected with or throws. -/
theorem error_of_awaited {α : Type} {behaviour : Behaviour α} {error : ThrownError}
    (h : behaviour.awaited = .error error) :
    (∀ error', behaviour.Raises error' ↔ error' = error) ∧ ∀ value, behaviour ≠ .resolves value := by
  cases behaviour with
  | resolves value => cases h
  | rejects error' =>
      obtain rfl := Except.error.inj h
      exact ⟨fun _ => Behaviour.raises_rejects_iff, nofun⟩
  | throws error' =>
      obtain rfl := Except.error.inj h
      exact ⟨fun _ => Behaviour.raises_throws_iff, nofun⟩

theorem resolves_of_awaited {α : Type} {behaviour : Behaviour α} {value : α}
    (h : behaviour.awaited = .ok value) : behaviour = .resolves value := by
  cases behaviour with
  | resolves value' => exact congrArg _ (Except.ok.inj h)
  | rejects error => cases h
  | throws error => cases h

/-- The last call of the block, whose promise is returned. -/
theorem tried_of_returned {calls : List (ProofCall Context Payload Plan)}
    {call : ProofCall Context Payload Plan} {behaviour : Behaviour Result}
    (hquiet : Quiet services calls) (hcall : call.isRecord = false)
    (hraised : ∀ error, RaisedBy services call error ↔ behaviour.Raises error)
    (hsettles : ∀ result, behaviour = .resolves result → Settles services call)
    (hrejection : returnedRejection services payload = behaviour.rejection) :
    Tried services payload (calls ++ [call])
      (behaviour.returned.map (Except.map ProofOutcome.prepared)) := by
  cases behaviour with
  | resolves result =>
      exact .prepared hquiet hcall
        (fun error h => Behaviour.not_raises_resolves ((hraised error).mp h))
        (hsettles result rfl) hrejection
  | rejects error =>
      exact .rejected hquiet hcall
        (fun error' => (hraised error').trans Behaviour.raises_rejects_iff) hrejection
  | throws error =>
      exact .threw hquiet hcall
        (fun error' => (hraised error').trans Behaviour.raises_throws_iff) hrejection

/-- The block after the run was reserved and is completed or has its questions. -/
theorem run_returned {call : ProofCall Context Payload Plan} {behaviour : Behaviour Result}
    {calls : List (ProofCall Context Payload Plan)} :
    ((do
      let promise ← makeCall call behaviour.returned
      pure (promise.map .prepared) : Handling Context Payload Plan
        (Except ThrownError (ProofOutcome Result))).run calls) =
      (behaviour.returned.map (Except.map ProofOutcome.prepared), calls ++ [call]) := by
  rw [Stateful.run_bind]
  cases behaviour <;> rfl

theorem tryProof_tried :
    Tried services payload ((tryProof services payload).run []).2
      ((tryProof services payload).run []).1 := by
  rw [tryProof, Stateful.run_bind]
  cases hreserve : (services.reserveRun payload).awaited with
  | error error =>
      obtain ⟨hraised, hnone⟩ := error_of_awaited hreserve
      refine .threw .nil rfl hraised ?_
      rw [returnedRejection]
      split
      · exact absurd ‹_› (hnone _)
      · rfl
  | ok reservation =>
      have hresolves := resolves_of_awaited hreserve
      have hquiet : Quiet services ([] ++ [.reserveRun payload]) := Quiet.nil.concat rfl
        fun error h => by
          rw [RaisedBy, hresolves] at h
          exact Behaviour.not_raises_resolves h
      cases reservation with
      | stale =>
          refine .stale hquiet ?_
          rw [returnedRejection, hresolves]
      | proofPending =>
          refine .pending hquiet ?_
          rw [returnedRejection, hresolves]
      | run run =>
          rw [run_makeCall]
          by_cases hcompleted : run.completedArtifactId.isSome = true
          · simp only [if_pos hcompleted, run_returned]
            refine tried_of_returned hquiet rfl (fun error => Iff.rfl)
              (fun result h => ⟨result, h⟩) ?_
            rw [returnedRejection, hresolves]
            exact if_pos hcompleted
          simp only [if_neg hcompleted]
          rw [Stateful.run_bind, run_makeCall]
          cases hgenerate : (services.generateProofQuestionPlan run.planRequest).awaited with
          | error error =>
              obtain ⟨hraised, hnone⟩ := error_of_awaited hgenerate
              refine .threw hquiet rfl hraised ?_
              rw [returnedRejection, hresolves]
              simp only [if_neg hcompleted]
          | ok plan =>
              have hplan := resolves_of_awaited hgenerate
              have hquiet' := @Quiet.concat _ _ _ _ _ _ (.generateProofQuestionPlan run.planRequest) hquiet rfl
                fun error h => by
                  rw [RaisedBy, hplan] at h
                  exact Behaviour.not_raises_resolves h
              simp only [run_returned]
              refine tried_of_returned hquiet' rfl (fun error => Iff.rfl)
                (fun result h => ⟨result, h⟩) ?_
              rw [returnedRejection, hresolves]
              simp only [if_neg hcompleted, hplan]

/-- The handler ends as its block does, with the `catch` behind an error. -/
theorem generateProofQuestions_run :
    (generateProofQuestions services payload).run [] =
      match (tryProof services payload).run [] with
      | (.ok promise, calls) => (promise, calls)
      | (.error error, calls) => (catchProof services payload error).run calls := rfl

theorem Quiet.filter_isRecord {calls : List (ProofCall Context Payload Plan)}
    (h : Quiet services calls) : calls.filter ProofCall.isRecord = [] :=
  List.filter_eq_nil_iff.mpr fun call hcall => by rw [(h call hcall).1]; exact Bool.false_ne_true

/-- A handler whose block has thrown an error looks at it, and records it where no retry cures it. -/
theorem failsClosed_of_caught {calls : List (ProofCall Context Payload Plan)} {error : ThrownError}
    (hrun : (generateProofQuestions services payload).run [] =
      (catchProof services payload error).run calls)
    (hrecords : calls.filter ProofCall.isRecord = [])
    (hraised : ∀ call ∈ calls, ∀ error', RaisedBy services call error' → error' = error) :
    FailsClosed services payload := by
  rw [catchProof] at hrun
  by_cases hretryable : isRetryablePreparationError error = true
  · rw [if_pos hretryable] at hrun
    refine ⟨fun error' h => ?_, fun call hcall _ error' hcalled hfatal => ?_, fun outcome h => ?_⟩
    · rw [hrun] at h
      exact .inl (Except.error.inj h ▸ hretryable)
    · rw [hrun] at hcall
      rw [hraised call hcall error' hcalled, hretryable] at hfatal
      cases hfatal
    · rw [hrun] at h
      cases h
  · rw [if_neg hretryable, Stateful.run_bind, run_makeCall] at hrun
    have hcalls : ((generateProofQuestions services payload).run []).2 =
        calls ++ [.failProofPreparation payload (safeErrorClass error)] := by
      rw [hrun]
      cases (services.failProofPreparation payload (safeErrorClass error)).awaited <;> rfl
    refine ⟨fun error' h => .inr ⟨.failProofPreparation payload (safeErrorClass error), ?_, rfl, ?_⟩,
      fun call hcall hcalled error' herror _ => ?_, fun outcome h => .inr
        ⟨.failProofPreparation payload (safeErrorClass error), ?_, ?_⟩⟩
    · rw [hcalls]
      exact List.mem_append_right _ List.mem_cons_self
    · rw [hrun] at h
      rw [RaisedBy]
      cases hfail : services.failProofPreparation payload (safeErrorClass error) with
      | resolves result =>
          rw [hfail] at h
          cases h
      | rejects error'' =>
          rw [hfail] at h
          exact .inl (congrArg _ (Except.error.inj h))
      | throws error'' =>
          rw [hfail] at h
          exact .inr (congrArg _ (Except.error.inj h))
    · rw [hcalls] at hcall ⊢
      rcases List.mem_append.mp hcall with hcall | hcall
      · rw [List.filter_append, hrecords, hraised call hcall error' herror]
        rfl
      · rw [List.mem_singleton.mp hcall] at hcalled
        cases hcalled
    · rw [hcalls]
      exact List.mem_append_right _ List.mem_cons_self
    · rw [hrun] at h
      rw [Settles]
      cases hfail : services.failProofPreparation payload (safeErrorClass error) with
      | resolves result => exact ⟨result, rfl⟩
      | rejects error'' =>
          rw [hfail] at h
          cases h
      | throws error'' =>
          rw [hfail] at h
          cases h

/-- A handler whose promise is resolved has raised nothing. -/
theorem failsClosed_of_resolved {calls : List (ProofCall Context Payload Plan)}
    {outcome : ProofOutcome Result}
    (hrun : (generateProofQuestions services payload).run [] = (.ok outcome, calls))
    (hquiet : Quiet services calls)
    (hsettles : outcome = .stale ∨ ∃ call ∈ calls, Settles services call) :
    FailsClosed services payload := by
  refine ⟨fun error h => ?_, fun call hcall _ error herror => ?_, fun outcome' h => ?_⟩
  · rw [hrun] at h
    cases h
  · rw [hrun] at hcall
    exact absurd herror ((hquiet call hcall).2 error)
  · rw [hrun] at h ⊢
    exact Except.ok.inj h ▸ hsettles

/-- A handler whose promise is rejected hands the error on, and has recorded nothing. -/
theorem failsClosed_rejected_iff {calls : List (ProofCall Context Payload Plan)}
    {call : ProofCall Context Payload Plan} {error : ThrownError}
    (hrun : (generateProofQuestions services payload).run [] = (.error error, calls ++ [call]))
    (hquiet : Quiet services calls) (hcall : call.isRecord = false)
    (hraised : ∀ error', RaisedBy services call error' ↔ error' = error) :
    FailsClosed services payload ↔ isRetryablePreparationError error = true := by
  have hrecords : (calls ++ [call]).filter ProofCall.isRecord = [] := by
    rw [List.filter_append, hquiet.filter_isRecord, List.filter_singleton, hcall]
    rfl
  constructor
  · intro h
    by_contra hfatal
    have hrecorded := h.records call (by rw [hrun]; exact List.mem_append_right _ List.mem_cons_self)
      hcall error ((hraised error).mpr rfl) (Bool.of_not_eq_true hfatal)
    rw [hrun, hrecords] at hrecorded
    cases hrecorded
  · intro hretryable
    refine ⟨fun error' h => ?_, fun other hother _ error' herror hfatal => ?_, fun outcome h => ?_⟩
    · rw [hrun] at h
      exact .inl (Except.error.inj h ▸ hretryable)
    · rw [hrun] at hother
      rcases List.mem_append.mp hother with hother | hother
      · exact absurd herror ((hquiet other hother).2 error')
      · rw [List.mem_singleton.mp hother, hraised] at herror
        rw [herror, hretryable] at hfatal
        cases hfatal
    · rw [hrun] at h
      cases h

/-- The handler fails closed unless a promise that it returns is rejected with an error that no
retry cures. -/
theorem failsClosed_iff (services : ProofServices Context Payload Plan Result) (payload : Payload) :
    FailsClosed services payload ↔ ∀ error, returnedRejection services payload = some error →
      isRetryablePreparationError error = true := by
  have htried : Tried services payload ((tryProof services payload).run []).2
      ((tryProof services payload).run []).1 := tryProof_tried
  have hrun := @generateProofQuestions_run _ _ _ _ services payload
  generalize (tryProof services payload).run [] = tried at htried hrun
  obtain ⟨ended, calls⟩ := tried
  have hquietly (hclosed : FailsClosed services payload)
      (hnone : returnedRejection services payload = none) : FailsClosed services payload ↔
        ∀ error, returnedRejection services payload = some error →
          isRetryablePreparationError error = true :=
    iff_of_true hclosed fun error h => by rw [hnone] at h; cases h
  dsimp only at htried
  cases htried with
  | stale hquiet hnone => exact hquietly (failsClosed_of_resolved hrun hquiet (.inl rfl)) hnone
  | pending hquiet hnone =>
      exact hquietly (failsClosed_of_caught hrun hquiet.filter_isRecord fun call hcall error h =>
        absurd h ((hquiet call hcall).2 error)) hnone
  | @threw calls call error hquiet hcall hraised hnone =>
      refine hquietly (failsClosed_of_caught hrun ?_ fun other hother error' h => ?_) hnone
      · rw [List.filter_append, hquiet.filter_isRecord, List.filter_singleton, hcall]
        rfl
      · rcases List.mem_append.mp hother with hother | hother
        · exact absurd h ((hquiet other hother).2 error')
        · rw [List.mem_singleton.mp hother] at h
          exact (hraised error').mp h
  | @prepared calls call result hquiet hcall hraised hsettles hnone =>
      exact hquietly (failsClosed_of_resolved hrun (hquiet.concat hcall hraised)
        (.inr ⟨call, List.mem_append_right _ List.mem_cons_self, hsettles⟩)) hnone
  | @rejected calls call error hquiet hcall hraised hsome =>
      rw [failsClosed_rejected_iff hrun hquiet hcall hraised, hsome]
      exact ⟨fun h error' heq => Option.some.inj heq ▸ h, fun h => h error rfl⟩

/-- Services whose persistence is rejected with an error that no retry cures. -/
def sampleConflictedServices : ProofServices Unit Unit Unit Unit where
  reserveRun _ := .resolves (.run ⟨(), js "seed", 3, 0, 480000, 86400000, none⟩)
  generateProofQuestionPlan _ := .resolves ()
  replayCompletedProof _ := .resolves ()
  persistProofPlanAndCreateAttempt _ _ := .rejects (.new (js "Error") none)
  failProofPreparation _ _ := .resolves ()

theorem not_failsClosed_conflicted : ¬ FailsClosed sampleConflictedServices () := by
  intro h
  rcases h.rejects (.new (js "Error") none) rfl with hretryable | ⟨call, hcall, hrecord, -⟩
  · exact absurd hretryable (by decide +kernel)
  · have hnone : ((generateProofQuestions sampleConflictedServices ()).run []).2.all
        (fun call => !call.isRecord) = true := by decide
    have hquiet := List.all_eq_true.mp hnone call hcall
    rw [hrecord] at hquiet
    cases hquiet

end FailsClosed

end ProofGeneration

end Worker

end UnderstandProof
