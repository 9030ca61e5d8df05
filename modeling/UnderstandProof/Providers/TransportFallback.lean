import UnderstandProof.Providers.JudgeResult
import UnderstandProof.Worker.SemanticInvocation

/-!
# Hops to a second provider

A provider is wrapped with another one behind it, which is called where the first one has failed on
its transport. The first one gets a deadline that leaves a part of the time to the second, unless
the time is too short for both. The wrapper of the semantic providers says who answered, and that of
the judges in which hop an error was thrown.
-/

open Foundation

namespace UnderstandProof

namespace Providers

namespace TransportFallback

open Domain (JsDate Timestamp)
open Worker.SemanticInvocation (SemanticProviderPurpose Phase SemanticProviderDescriptor
  SemanticProviderRawResponse Values SemanticProviderDescriptorV1Schema.parse
  SemanticProviderRawResponseV1Schema.parse)

/-! ## Deadlines -/

/-- A number; the finite ones are taken as exact. -/
inductive JsNumber where
  | nan
  | finite (value : ℚ)
  | infinity
  | negativeInfinity
  deriving DecidableEq, Repr

/-- `Math.min(number, value)`, where it is a number. -/
def JsNumber.min (number : JsNumber) (value : ℚ) : Option ℚ :=
  match number with
  | nan => none
  | finite value' => some (Min.min value' value)
  | infinity => some value
  | negativeInfinity => none

/-- `number <= 0` -/
def JsNumber.isNonpositive : JsNumber → Bool
  | nan => false
  | finite value => value ≤ 0
  | infinity => false
  | negativeInfinity => true

/-- A number without its fraction. -/
def truncate (value : ℚ) : ℤ := if 0 ≤ value then ⌊value⌋ else ⌈value⌉

/-- `new Date(time)` -/
def newDate (time : ℚ) : JsDate :=
  if 8640000000000000 < |time| then none else some (truncate time)

/-- A clock whose reading is not finite reads none. -/
def reserveTransportFallbackDeadline (deadlineAt : JsDate) (now : Option ℚ) (reserveMs : JsNumber)
    (minPrimaryMs : ℕ) : JsDate :=
  match deadlineAt, now with
  | some deadline, some now =>
      let remaining : ℚ := deadline - now
      if remaining ≤ minPrimaryMs ∨ reserveMs.isNonpositive = true then deadlineAt
      else (reserveMs.min (remaining - minPrimaryMs)).bind fun reserved =>
        newDate (deadline - reserved)
  | _, _ => deadlineAt

def semanticTransportFallbackReserveMs : ℕ := 120000
def semanticTransportFallbackMinPrimaryMs : ℕ := 30000
def multimodalTransportFallbackReserveMs : ℕ := 120000
def multimodalTransportFallbackMinPrimaryMs : ℕ := 60000

/-! ## Errors -/

def transportFailureKinds : List ProviderFailureKind :=
  [.deadlineExceeded, .network, .rateLimited, .responseStream, .timeout, .upstreamUnavailable]

def isTransportFailure : Caught → Bool
  | .providerError error =>
      if error.code = .invalidOutput ∨ error.code = .invalidInput ∨ error.disposition = .terminal ∨
          error.disposition = .review then false
      else if ∃ telemetry ∈ error.telemetry, telemetry.lastFailureKind ∉ transportFailureKinds then
        false
      else error.code = .deadlineExceeded ∨ error.code = .providerTimeout ∨
        error.code = .providerUnavailable
  | _ => false

def annotateProviderErrorHopUsed (hopUsed : JudgeHopUsed) : Caught → Caught
  | .providerError error =>
      if error.hopUsed = some hopUsed then .providerError error
      else .providerError { error with hopUsed := some hopUsed }
  | error => error

/-! ## Hops -/

/-- The calls of the wrapped providers, with the reading of the clock when they are made. -/
inductive HopCall (Context : Type) where
  | primary (startedAt : Option ℚ) (context : Context)
  | fallback (startedAt : Option ℚ) (context : Context)
  deriving DecidableEq, Repr

/-- How a call ends, after any delay, or that it never does. -/
abbrev Reaction (α : Type) := Option (Except Caught α)

structure HopRun (Context α : Type) where
  calls : List (HopCall Context)
  outcome : Reaction α

section Hop

variable {Context α β : Type}

/-- The primary provider is called, and the other one where that has failed on its transport. The
clock is read when the first call is made and when it has ended. -/
def hop (clock : ℕ → Option ℚ) (context : Context) (primaryContext : Option Context)
    (primary fallback : Context → Reaction α) (onPrimary onFallback : α → Except Caught β)
    (annotatePrimary annotateFallback : Caught → Caught) : HopRun Context β :=
  match primaryContext with
  | none => ⟨[], some (.error .zodError)⟩
  | some primaryContext =>
      let first := HopCall.primary (clock 0) primaryContext
      match primary primaryContext with
      | none => ⟨[first], none⟩
      | some result =>
          match result.bind onPrimary with
          | .ok answer => ⟨[first], some (.ok answer)⟩
          | .error error =>
              if isTransportFailure error = false then
                ⟨[first], some (.error (annotatePrimary error))⟩
              else
                ⟨[first, .fallback (clock 1) context], (fallback context).map fun result =>
                  (result.bind onFallback).mapError annotateFallback⟩

end Hop

/-! ## Semantic providers -/

/-- The fields of a context beside its deadline. -/
structure SemanticProviderCallContext where
  callId : JsString
  revisionId : JsString
  headSha : JsString
  contextHash : JsString
  purpose : SemanticProviderPurpose
  phase : Phase
  deadlineAt : JsDate
  deriving DecidableEq, Repr

def SemanticProviderCallContextV1Schema.parse (context : SemanticProviderCallContext) :
    Option SemanticProviderCallContext :=
  if isUuid context.callId = true ∧ isUuid context.revisionId = true ∧
      Domain.isGitSha context.headSha = true ∧
      Media.Sha256Schema.accepts context.contextHash = true ∧ context.deadlineAt.isSome = true then
    some context
  else none

/-- What a schema reads of a value; `absent` is what an unknown field reads where the key is
missing, if that is accepted. The text of a value plays no role. -/
def values (absent : Option JsValue) : Values JsValue where
  fields?
    | .obj fields => some fields
    | _ => none
  string?
    | .str s => some s
    | _ => none
  number?
    | .num n => some n
    | _ => none
  isNull
    | .null => true
    | _ => false
  null := .null
  absent := absent
  stableJson _ := none

/-- A descriptor as a value. -/
def describe (descriptor : SemanticProviderDescriptor) : JsValue :=
  .obj [(js "provider", .str descriptor.provider), (js "model", .str descriptor.model)]

/-- Who answered, as the response says it itself or as the wrapped provider is described. -/
def answererOf (absent : Option JsValue) (fields : List (JsString × JsValue))
    (descriptor : SemanticProviderDescriptor) : Option SemanticProviderDescriptor :=
  SemanticProviderDescriptorV1Schema.parse (values absent)
    (match JsValue.get (js "answeredBy") fields with
      | .undefined | .null => describe descriptor
      | answeredBy => answeredBy)

/-- A member of nothing throws a `TypeError`; what is no object has no fields to spread. -/
def attachAnsweredBy (absent : Option JsValue) (descriptor : SemanticProviderDescriptor)
    (response : JsValue) : Except Caught (SemanticProviderRawResponse JsValue) :=
  match response with
  | .undefined | .null => .error .otherError
  | .obj fields =>
      match answererOf absent fields descriptor with
      | none => .error .zodError
      | some answeredBy =>
          match SemanticProviderRawResponseV1Schema.parse (values absent)
              (.obj (fields.filter (fun field => field.1 != js "answeredBy") ++
                [(js "answeredBy", describe answeredBy)])) with
          | none => .error .zodError
          | some response => .ok response
  | _ => .error .zodError

structure RepairableSemanticProvider (Input Instruction : Type) where
  descriptor : SemanticProviderDescriptor
  generate : Input → SemanticProviderCallContext → Reaction JsValue
  repair : Input → Instruction → SemanticProviderCallContext → Reaction JsValue

/-- A number for the reserve, or the default. -/
def reserveOr (reserveMs : Option JsNumber) (default : ℕ) : JsNumber :=
  reserveMs.getD (.finite default)

structure TransportFallbackSemanticProvider (Input Instruction : Type) where
  primary : RepairableSemanticProvider Input Instruction
  fallback : RepairableSemanticProvider Input Instruction
  reserveMs : Option JsNumber

namespace TransportFallbackSemanticProvider

variable {Input Instruction : Type} (provider : TransportFallbackSemanticProvider Input Instruction)
  (absent : Option JsValue) (clock : ℕ → Option ℚ)

def primaryContext (context : SemanticProviderCallContext) : Option SemanticProviderCallContext :=
  SemanticProviderCallContextV1Schema.parse { context with
    deadlineAt := reserveTransportFallbackDeadline context.deadlineAt (clock 0)
      (reserveOr provider.reserveMs semanticTransportFallbackReserveMs)
      semanticTransportFallbackMinPrimaryMs }

def invoke (primaryCall fallbackCall : SemanticProviderCallContext → Reaction JsValue)
    (context : SemanticProviderCallContext) :
    HopRun SemanticProviderCallContext (SemanticProviderRawResponse JsValue) :=
  hop clock context (provider.primaryContext clock context) primaryCall fallbackCall
    (attachAnsweredBy absent provider.primary.descriptor)
    (attachAnsweredBy absent provider.fallback.descriptor) id id

def generate (input : Input) (context : SemanticProviderCallContext) :
    HopRun SemanticProviderCallContext (SemanticProviderRawResponse JsValue) :=
  provider.invoke absent clock (provider.primary.generate input) (provider.fallback.generate input)
    context

def repair (input : Input) (instruction : Instruction) (context : SemanticProviderCallContext) :
    HopRun SemanticProviderCallContext (SemanticProviderRawResponse JsValue) :=
  provider.invoke absent clock (provider.primary.repair input instruction)
    (provider.fallback.repair input instruction) context

end TransportFallbackSemanticProvider

/-! ## Judges -/

structure InlineMultimodalJudgeProvider (Input Result : Type) where
  descriptor : InlineMultimodalJudgeDescriptor
  evaluate : Input → ProviderContext → Reaction Result

structure TransportFallbackMultimodalJudgeProvider (Input Result : Type) where
  primary : InlineMultimodalJudgeProvider Input Result
  fallback : InlineMultimodalJudgeProvider Input Result
  reserveMs : Option JsNumber

namespace TransportFallbackMultimodalJudgeProvider

variable {Input Result : Type} (provider : TransportFallbackMultimodalJudgeProvider Input Result)
  (clock : ℕ → Option ℚ)

def primaryContext (context : ProviderContext) : Option ProviderContext :=
  let context := { context with
    deadlineAt := reserveTransportFallbackDeadline context.deadlineAt (clock 0)
      (reserveOr provider.reserveMs multimodalTransportFallbackReserveMs)
      multimodalTransportFallbackMinPrimaryMs }
  if ProviderContextV1Schema.accepts context = true then some context else none

def evaluate (input : Input) (context : ProviderContext) : HopRun ProviderContext Result :=
  hop clock context (provider.primaryContext clock context) (provider.primary.evaluate input)
    (provider.fallback.evaluate input) .ok .ok (annotateProviderErrorHopUsed .primary)
    (annotateProviderErrorHopUsed .transportFallback)

end TransportFallbackMultimodalJudgeProvider

/-! ## The window of the primary provider -/

def JsNumber.isWhole : JsNumber → Bool
  | finite value => value.den = 1
  | _ => true

/-- What a truncation may move a deadline by: nothing where the clock and the reserve are whole. -/
def slack (start : ℚ) (reserveMs : JsNumber) : ℚ :=
  if start.den = 1 ∧ reserveMs.isWhole = true then 0 else 1

/-- The deadline of the primary provider is none later than the caller's, leaves it the time up to
its minimum, and the other provider what is reserved. -/
structure Windowed (deadline : Timestamp) (clock : ℕ → Option ℚ) (reserveMs : JsNumber)
    (minPrimaryMs : ℕ) (primaryDeadline : Timestamp) : Prop where
  le : primaryDeadline ≤ deadline
  primary : ∀ start, clock 0 = some start →
    min (deadline - start) minPrimaryMs - slack start reserveMs ≤ primaryDeadline - start
  fallback : ∀ start settled, clock 0 = some start → clock 1 = some settled →
    settled ≤ primaryDeadline → ∀ reserved,
      reserveMs.min (max 0 (deadline - start - minPrimaryMs)) = some reserved →
        reserved - slack start reserveMs ≤ deadline - settled

theorem sub_one_lt_truncate (x : ℚ) : x - 1 < truncate x := by
  rw [truncate]
  split
  · exact Int.sub_one_lt_floor x
  · exact (sub_one_lt x).trans_le (Int.le_ceil x)

theorem truncate_lt_add_one (x : ℚ) : (truncate x : ℚ) < x + 1 := by
  rw [truncate]
  split
  · exact (Int.floor_le x).trans_lt (lt_add_one x)
  · exact Int.ceil_lt_add_one x

theorem truncate_le {x : ℚ} {n : ℤ} (h : x ≤ n) : truncate x ≤ n := by
  rw [truncate]
  split
  · exact_mod_cast (Int.floor_le x).trans h
  · exact Int.ceil_le.mpr h

theorem truncate_of_den {x : ℚ} (h : x.den = 1) : (truncate x : ℚ) = x := by
  obtain ⟨n, rfl⟩ : ∃ n : ℤ, x = n := ⟨x.num, (Rat.den_eq_one_iff x).mp h |>.symm⟩
  rw [truncate]
  split <;> simp

theorem den_of_eq_intCast {x : ℚ} {n : ℤ} (h : x = n) : x.den = 1 := by
  rw [h]
  exact Rat.den_intCast n

theorem eq_num_of_den {x : ℚ} (h : x.den = 1) : x = (x.num : ℚ) :=
  ((Rat.den_eq_one_iff x).mp h).symm

/-- A deadline without what is reserved of whole numbers is whole. -/
theorem den_of_whole {deadline : Timestamp} {start reserved : ℚ} {reserveMs : JsNumber}
    {minPrimaryMs : ℕ} (hstart : start.den = 1) (hwhole : reserveMs.isWhole = true)
    (h : reserveMs.min (deadline - start - minPrimaryMs) = some reserved) :
    ((deadline : ℚ) - reserved).den = 1 := by
  have hrest : (deadline : ℚ) - (deadline - start - minPrimaryMs) =
      ((start.num + minPrimaryMs : ℤ) : ℚ) := by
    rw [eq_num_of_den hstart]
    push_cast
    simp only [Rat.num_intCast]
    ring
  cases reserveMs with
  | nan => cases h
  | negativeInfinity => cases h
  | infinity =>
      obtain rfl := Option.some.inj h
      exact den_of_eq_intCast hrest
  | finite value =>
      obtain rfl := Option.some.inj h
      have hvalue : (deadline : ℚ) - value = ((deadline - value.num : ℤ) : ℚ) := by
        rw [eq_num_of_den (of_decide_eq_true hwhole)]
        push_cast
        simp only [Rat.num_intCast]
      rcases min_choice value (deadline - start - minPrimaryMs) with hmin | hmin
      · rw [hmin]
        exact den_of_eq_intCast hvalue
      · rw [hmin]
        exact den_of_eq_intCast hrest

/-- A truncated deadline is as far from the exact one as the slack allows. -/
theorem truncate_near {deadline : Timestamp} {start reserved : ℚ} {reserveMs : JsNumber}
    {minPrimaryMs : ℕ} (h : reserveMs.min (deadline - start - minPrimaryMs) = some reserved) :
    (deadline - reserved) - slack start reserveMs ≤ truncate (deadline - reserved) ∧
      (truncate (deadline - reserved) : ℚ) ≤ (deadline - reserved) + slack start reserveMs := by
  rw [slack]
  split
  · rename_i hwhole
    rw [truncate_of_den (den_of_whole hwhole.1 hwhole.2 h)]
    exact ⟨(sub_zero _).le, (add_zero _).ge⟩
  · exact ⟨(sub_one_lt_truncate _).le, (truncate_lt_add_one _).le⟩

theorem slack_nonneg (start : ℚ) (reserveMs : JsNumber) : 0 ≤ slack start reserveMs := by
  rw [slack]
  split
  · exact le_refl 0
  · exact zero_le_one

theorem JsNumber.min_le {number : JsNumber} {value reserved : ℚ}
    (h : number.min value = some reserved) : reserved ≤ value := by
  cases number with
  | nan => cases h
  | negativeInfinity => cases h
  | infinity => exact (Option.some.inj h).ge
  | finite value' => exact (Option.some.inj h).symm.trans_le (min_le_right _ _)

theorem JsNumber.min_nonneg {number : JsNumber} {value reserved : ℚ}
    (hpositive : number.isNonpositive = false) (hvalue : 0 ≤ value)
    (h : number.min value = some reserved) : 0 ≤ reserved := by
  cases number with
  | nan => cases h
  | negativeInfinity => cases h
  | infinity => exact hvalue.trans_eq (Option.some.inj h)
  | finite value' =>
      have hvalue' : 0 < value' := not_le.mp (of_decide_eq_false hpositive)
      exact (le_min hvalue'.le hvalue).trans_eq (Option.some.inj h)

theorem JsNumber.min_nonpos {number : JsNumber} {value reserved : ℚ}
    (hnonpositive : number.isNonpositive = true) (h : number.min value = some reserved) :
    reserved ≤ 0 := by
  cases number with
  | nan => cases h
  | negativeInfinity => cases h
  | infinity => cases hnonpositive
  | finite value' =>
      rw [← Option.some.inj h]
      exact (min_le_left _ _).trans (of_decide_eq_true hnonpositive)

/-- The whole time is the primary provider's where none of it is reserved. -/
theorem windowed_self {deadline : Timestamp} {clock : ℕ → Option ℚ} {reserveMs : JsNumber}
    {minPrimaryMs : ℕ} (h : ∀ start, clock 0 = some start →
      (deadline : ℚ) - start ≤ minPrimaryMs ∨ reserveMs.isNonpositive = true) :
    Windowed deadline clock reserveMs minPrimaryMs deadline where
  le := le_refl deadline
  primary start _ := (sub_le_self _ (slack_nonneg start reserveMs)).trans (min_le_left _ _)
  fallback start settled hstart _ hsettled reserved hreserved := by
    have hnonpos : reserved ≤ 0 := by
      rcases h start hstart with hshort | hnonpositive
      · rw [max_eq_left (sub_nonpos.mpr hshort)] at hreserved
        exact JsNumber.min_le hreserved
      · exact JsNumber.min_nonpos hnonpositive hreserved
    have hslack := slack_nonneg start reserveMs
    linarith

theorem windowed_of_reserve {deadline primaryDeadline : Timestamp} {clock : ℕ → Option ℚ}
    {reserveMs : JsNumber} {minPrimaryMs : ℕ}
    (h : reserveTransportFallbackDeadline (some deadline) (clock 0) reserveMs minPrimaryMs =
      some primaryDeadline) : Windowed deadline clock reserveMs minPrimaryMs primaryDeadline := by
  cases hstart : clock 0 with
  | none =>
      rw [hstart] at h
      obtain rfl := Option.some.inj h
      exact windowed_self fun start h' => by rw [hstart] at h'; cases h'
  | some start =>
      rw [hstart] at h
      simp only [reserveTransportFallbackDeadline] at h
      split at h
      · rename_i hkept
        obtain rfl := Option.some.inj h
        refine windowed_self fun start' hstart' => ?_
        obtain rfl := Option.some.inj (hstart.symm.trans hstart')
        exact hkept
      · rename_i hkept
        obtain ⟨hlong, hpositive⟩ := not_or.mp hkept
        have hrest : 0 < (deadline : ℚ) - start - minPrimaryMs := sub_pos.mpr (not_le.mp hlong)
        obtain ⟨reserved, hreserved, hdate⟩ := Option.bind_eq_some_iff.mp h
        rw [newDate] at hdate
        split at hdate
        · cases hdate
        obtain rfl := Option.some.inj hdate
        obtain ⟨hlow, hhigh⟩ := truncate_near hreserved
        have hle := JsNumber.min_le hreserved
        have hnonneg := JsNumber.min_nonneg (Bool.of_not_eq_true hpositive) hrest.le hreserved
        refine ⟨truncate_le (sub_le_self _ hnonneg), fun start' hstart' => ?_,
          fun start' settled hstart' _ hsettled reserved' hreserved' => ?_⟩
        · obtain rfl := Option.some.inj (hstart.symm.trans hstart')
          have hmin := min_le_right ((deadline : ℚ) - start) minPrimaryMs
          linarith
        · obtain rfl := Option.some.inj (hstart.symm.trans hstart')
          rw [max_eq_right hrest.le, hreserved] at hreserved'
          obtain rfl := Option.some.inj hreserved'
          linarith

/-! ## What a hop does -/

/-- Whether a call was rejected on its transport. -/
def isTransportRejection {α : Type} : Reaction α → Bool
  | some (.error error) => isTransportFailure error
  | _ => false

/-- An error with the code and the disposition of another one. -/
def SameFailure : Caught → Caught → Prop
  | .providerError error, .providerError error' =>
      error'.code = error.code ∧ error'.disposition = error.disposition
  | error, error' => error' = error

theorem SameFailure.refl (error : Caught) : SameFailure error error := by
  cases error <;> simp [SameFailure]

theorem sameFailure_annotate (hopUsed : JudgeHopUsed) (error : Caught) :
    SameFailure error (annotateProviderErrorHopUsed hopUsed error) := by
  cases error with
  | providerError error =>
      rw [annotateProviderErrorHopUsed]
      split <;> exact ⟨rfl, rfl⟩
  | _ => rfl

section Hop

variable {Context α β : Type}

/-- The primary provider is called once, and the other one once more behind a rejection on the
transport, with the caller's context; every rejection but that reaches the caller, and every answer
is one of the provider that was called last. -/
structure Hopped (clock : ℕ → Option ℚ) (context primaryContext : Context)
    (primary fallback : Context → Reaction α) (onPrimary onFallback : α → Except Caught β)
    (run : HopRun Context β) : Prop where
  calls : run.calls = .primary (clock 0) primaryContext ::
    if isTransportRejection (primary primaryContext) = true then [.fallback (clock 1) context]
    else []
  rejected : ∀ error, primary primaryContext = some (.error error) →
    isTransportFailure error = false →
      ∃ error', run.outcome = some (.error error') ∧ SameFailure error error'
  fellBack : ∀ error, isTransportRejection (primary primaryContext) = true →
    fallback context = some (.error error) →
      ∃ error', run.outcome = some (.error error') ∧ SameFailure error error'
  answered : ∀ answer, run.outcome = some (.ok answer) → ∃ value,
    if isTransportRejection (primary primaryContext) = true then
      fallback context = some (.ok value) ∧ onFallback value = .ok answer
    else primary primaryContext = some (.ok value) ∧ onPrimary value = .ok answer

/-- A wrapper whose own errors are none of the transport, and whose notes leave an error what it
is. -/
theorem hopped {clock : ℕ → Option ℚ} {context primaryContext : Context}
    {primary fallback : Context → Reaction α} {onPrimary onFallback : α → Except Caught β}
    {annotatePrimary annotateFallback : Caught → Caught}
    (hown : ∀ value error, onPrimary value = .error error → isTransportFailure error = false)
    (hprimary : ∀ error, SameFailure error (annotatePrimary error))
    (hfallback : ∀ error, SameFailure error (annotateFallback error)) :
    Hopped clock context primaryContext primary fallback onPrimary onFallback
      (hop clock context (some primaryContext) primary fallback onPrimary onFallback
        annotatePrimary annotateFallback) := by
  cases hresult : primary primaryContext with
  | none =>
      have hrun : hop clock context (some primaryContext) primary fallback onPrimary onFallback
          annotatePrimary annotateFallback = ⟨[.primary (clock 0) primaryContext], none⟩ := by
        rw [hop, hresult]
      rw [hrun]
      have hkept : isTransportRejection (primary primaryContext) = false := by rw [hresult]; rfl
      exact ⟨by rw [hkept]; rfl, (fun error h => nomatch hresult.symm.trans h),
        (fun error h => nomatch hkept.symm.trans h), nofun⟩
  | some result =>
      cases result with
      | ok value =>
          have hkept : isTransportRejection (primary primaryContext) = false := by rw [hresult]; rfl
          cases hown' : onPrimary value with
          | ok answer =>
              have hrun : hop clock context (some primaryContext) primary fallback onPrimary
                  onFallback annotatePrimary annotateFallback =
                    ⟨[.primary (clock 0) primaryContext], some (.ok answer)⟩ := by
                simp only [hop, hresult, Except.bind, hown']
              rw [hrun]
              refine ⟨by rw [hkept]; rfl, (fun error h => nomatch hresult.symm.trans h),
                (fun error h => nomatch hkept.symm.trans h), fun answer' h => ⟨value, ?_⟩⟩
              rw [if_neg (by rw [hkept]; exact Bool.false_ne_true)]
              exact ⟨hresult, hown'.trans (Option.some.inj h)⟩
          | error error =>
              have hrun : hop clock context (some primaryContext) primary fallback onPrimary
                  onFallback annotatePrimary annotateFallback =
                    ⟨[.primary (clock 0) primaryContext], some (.error (annotatePrimary error))⟩ := by
                simp only [hop, hresult, Except.bind, hown', hown value error hown', if_pos]
              rw [hrun]
              exact ⟨by rw [hkept]; rfl, (fun error h => nomatch hresult.symm.trans h),
                (fun error h => nomatch hkept.symm.trans h), nofun⟩
      | error error =>
          cases htransport : isTransportFailure error with
          | false =>
              have hkept : isTransportRejection (primary primaryContext) = false := by
                rw [hresult]
                exact htransport
              have hrun : hop clock context (some primaryContext) primary fallback onPrimary
                  onFallback annotatePrimary annotateFallback =
                    ⟨[.primary (clock 0) primaryContext], some (.error (annotatePrimary error))⟩ := by
                simp only [hop, hresult, Except.bind, htransport, if_pos]
              rw [hrun]
              refine ⟨by rw [hkept]; rfl, fun error' h _ => ⟨_, rfl, ?_⟩,
                (fun error h => nomatch hkept.symm.trans h), nofun⟩
              obtain rfl := Except.error.inj (Option.some.inj (hresult.symm.trans h))
              exact hprimary error
          | true =>
              have hhopped : isTransportRejection (primary primaryContext) = true := by
                rw [hresult]
                exact htransport
              have hrun : hop clock context (some primaryContext) primary fallback onPrimary
                  onFallback annotatePrimary annotateFallback =
                    ⟨[.primary (clock 0) primaryContext, .fallback (clock 1) context],
                      (fallback context).map fun result =>
                        (result.bind onFallback).mapError annotateFallback⟩ := by
                simp only [hop, hresult, Except.bind, htransport, Bool.true_eq_false, if_false]
              rw [hrun]
              refine ⟨by rw [hhopped]; rfl, fun error' h hnot => ?_, fun error' _ h =>
                ⟨annotateFallback error', ?_, hfallback error'⟩, fun answer h => ?_⟩
              · obtain rfl := Except.error.inj (Option.some.inj (hresult.symm.trans h))
                rw [htransport] at hnot
                cases hnot
              · rw [h]
                rfl
              · obtain ⟨result, hfell, hmapped⟩ := Option.map_eq_some_iff.mp h
                cases result with
                | error error' => cases hmapped
                | ok value =>
                    refine ⟨value, ?_⟩
                    rw [if_pos hhopped]
                    refine ⟨hfell, ?_⟩
                    cases hvalue : onFallback value with
                    | error error' =>
                        simp only [Except.bind, hvalue] at hmapped
                        cases hmapped
                    | ok answer' =>
                        simp only [Except.bind, hvalue] at hmapped
                        exact hmapped

end Hop

/-! ## Who answered -/

theorem eq_of_trimmedText_str {absent : Option JsValue} {maximum : ℕ} {s text : JsString}
    (h : Worker.SemanticInvocation.trimmedText (values absent) maximum (.str s) = some text) :
    text = s.trim := by
  obtain ⟨raw, hraw, h⟩ := Option.bind_eq_some_iff.mp h
  obtain rfl := Option.some.inj hraw
  exact (Option.some.inj (Option.ite_none_right_eq_some.mp h).2).symm

theorem parse_describe {absent : Option JsValue} {descriptor named : SemanticProviderDescriptor}
    (h : SemanticProviderDescriptorV1Schema.parse (values absent) (describe descriptor) =
      some named) : named = ⟨descriptor.provider.trim, descriptor.model.trim⟩ := by
  simp only [SemanticProviderDescriptorV1Schema.parse, Option.bind_eq_bind,
    Option.bind_eq_some_iff, Option.pure_def, Option.some.injEq] at h
  obtain ⟨fields, hfields, provider, ⟨v, hv, hprovider⟩, model, ⟨w, hw, hmodel⟩, rfl⟩ := h
  obtain rfl : [(js "provider", JsValue.str descriptor.provider),
      (js "model", JsValue.str descriptor.model)] = fields := by
    obtain ⟨fields', hread, hkept⟩ := Option.bind_eq_some_iff.mp hfields
    obtain rfl := Option.some.inj hread
    exact Option.some.inj (Option.ite_none_right_eq_some.mp hkept).2
  obtain rfl : JsValue.str descriptor.provider = v := Option.some.inj hv
  obtain rfl : JsValue.str descriptor.model = w := Option.some.inj hw
  rw [eq_of_trimmedText_str hprovider, eq_of_trimmedText_str hmodel]

theorem lookup_answeredBy (fields : List (JsString × JsValue)) (value : JsValue) :
    (fields.filter (fun field => field.1 != js "answeredBy") ++ [(js "answeredBy", value)]).lookup
      (js "answeredBy") = some value := by
  induction fields with
  | nil => rfl
  | cons field fields ih =>
      obtain ⟨name, value'⟩ := field
      by_cases hname : name = js "answeredBy"
      · rw [List.filter_cons_of_neg (by simp [hname])]
        exact ih
      · have hkept : (name != js "answeredBy") = true := bne_iff_ne.mpr hname
        have hother : (js "answeredBy" == name) = false := beq_false_of_ne (Ne.symm hname)
        simp only [List.filter_cons, hkept, if_true, List.cons_append, List.lookup_cons, hother]
        exact ih

/-- An answer carries who is named in it, or else the wrapped provider. -/
theorem answeredBy_of_attach {absent : Option JsValue} {descriptor : SemanticProviderDescriptor}
    {value : JsValue} {answer : SemanticProviderRawResponse JsValue}
    (h : attachAnsweredBy absent descriptor value = .ok answer) :
    ∃ fields named, value = .obj fields ∧ answererOf absent fields descriptor = some named ∧
      answer.answeredBy = some named := by
  cases value with
  | obj fields =>
      simp only [attachAnsweredBy] at h
      split at h
      · cases h
      rename_i named hnamed
      split at h
      · cases h
      rename_i response hresponse
      obtain rfl := Except.ok.inj h
      refine ⟨fields, named, rfl, hnamed, ?_⟩
      simp only [SemanticProviderRawResponseV1Schema.parse, Option.bind_eq_bind,
        Option.bind_eq_some_iff, Option.pure_def, Option.some.injEq] at hresponse
      obtain ⟨fields', hfields', output, -, usage, -, count, -, answeredBy, hanswered, kind, -,
        rfl⟩ := hresponse
      obtain ⟨read, hread, hkept⟩ := Option.bind_eq_some_iff.mp hfields'
      obtain rfl := Option.some.inj hread
      obtain rfl := Option.some.inj (Option.ite_none_right_eq_some.mp hkept).2
      rw [Worker.SemanticInvocation.optionalField, lookup_answeredBy] at hanswered
      obtain ⟨named', hnamed', rfl⟩ := Option.map_eq_some_iff.mp hanswered
      have hkeeps := Worker.SemanticInvocation.descriptor_named hnamed
      have hsame : named' = named := by
        rw [parse_describe hnamed', hkeeps.provider_trim, hkeeps.model_trim]
      rw [hsame]
  | _ => cases h

/-- The errors of attaching are none of the transport. -/
theorem isTransportFailure_attach {absent : Option JsValue}
    {descriptor : SemanticProviderDescriptor} {value : JsValue} {error : Caught}
    (h : attachAnsweredBy absent descriptor value = .error error) :
    isTransportFailure error = false := by
  cases value with
  | obj fields =>
      simp only [attachAnsweredBy] at h
      split at h
      · obtain rfl := Except.error.inj h
        rfl
      split at h
      · obtain rfl := Except.error.inj h
        rfl
      · cases h
  | _ =>
      obtain rfl := Except.error.inj h
      rfl

/-! ## The wrappers -/

/-- A refused context reaches no provider; an accepted one keeps the fields, within the window. -/
structure SemanticHops {Input Instruction : Type}
    (provider : TransportFallbackSemanticProvider Input Instruction) (absent : Option JsValue)
    (clock : ℕ → Option ℚ) (primary fallback : SemanticProviderCallContext → Reaction JsValue)
    (context : SemanticProviderCallContext)
    (run : HopRun SemanticProviderCallContext (SemanticProviderRawResponse JsValue)) : Prop where
  refused : provider.primaryContext clock context = none → run = ⟨[], some (.error .zodError)⟩
  hopped : ∀ primaryContext, provider.primaryContext clock context = some primaryContext →
    Hopped clock context primaryContext primary fallback
      (attachAnsweredBy absent provider.primary.descriptor)
      (attachAnsweredBy absent provider.fallback.descriptor) run
  window : ∀ primaryContext, provider.primaryContext clock context = some primaryContext →
    ∀ deadline, context.deadlineAt = some deadline → ∃ primaryDeadline,
      primaryContext = { context with deadlineAt := some primaryDeadline } ∧
      Windowed deadline clock (reserveOr provider.reserveMs semanticTransportFallbackReserveMs)
        semanticTransportFallbackMinPrimaryMs primaryDeadline
  answeredBy : ∀ primaryContext, provider.primaryContext clock context = some primaryContext →
    ∀ answer, run.outcome = some (.ok answer) → ∃ fields named,
      (if isTransportRejection (primary primaryContext) = true then
        fallback context = some (.ok (.obj fields)) ∧
          answererOf absent fields provider.fallback.descriptor = some named
      else primary primaryContext = some (.ok (.obj fields)) ∧
        answererOf absent fields provider.primary.descriptor = some named) ∧
      answer.answeredBy = some named

theorem invoke_hops {Input Instruction : Type}
    (provider : TransportFallbackSemanticProvider Input Instruction) (absent : Option JsValue)
    (clock : ℕ → Option ℚ) (primary fallback : SemanticProviderCallContext → Reaction JsValue)
    (context : SemanticProviderCallContext) :
    SemanticHops provider absent clock primary fallback context
      (provider.invoke absent clock primary fallback context) := by
  have hhopped (primaryContext : SemanticProviderCallContext)
      (h : provider.primaryContext clock context = some primaryContext) :
      Hopped clock context primaryContext primary fallback
        (attachAnsweredBy absent provider.primary.descriptor)
        (attachAnsweredBy absent provider.fallback.descriptor)
        (provider.invoke absent clock primary fallback context) := by
    rw [TransportFallbackSemanticProvider.invoke, h]
    exact hopped (fun _ _ => isTransportFailure_attach) SameFailure.refl SameFailure.refl
  refine ⟨fun h => ?_, hhopped, fun primaryContext h deadline hdeadline => ?_,
    fun primaryContext h answer hanswer => ?_⟩
  · rw [TransportFallbackSemanticProvider.invoke, h]
    rfl
  · rw [TransportFallbackSemanticProvider.primaryContext,
      SemanticProviderCallContextV1Schema.parse] at h
    obtain ⟨haccepted, hsome⟩ := Option.ite_none_right_eq_some.mp h
    obtain rfl := Option.some.inj hsome
    obtain ⟨primaryDeadline, hprimary⟩ := Option.isSome_iff_exists.mp haccepted.2.2.2.2
    refine ⟨primaryDeadline, congrArg (fun date => { context with deadlineAt := date }) hprimary,
      windowed_of_reserve ?_⟩
    rw [← hdeadline]
    exact hprimary
  · obtain ⟨value, hvalue⟩ := (hhopped primaryContext h).answered answer hanswer
    split at hvalue
    · rename_i hhop
      obtain ⟨fields, named, rfl, hnamed, hanswered⟩ := answeredBy_of_attach hvalue.2
      exact ⟨fields, named, by rw [if_pos hhop]; exact ⟨hvalue.1, hnamed⟩, hanswered⟩
    · rename_i hhop
      obtain ⟨fields, named, rfl, hnamed, hanswered⟩ := answeredBy_of_attach hvalue.2
      exact ⟨fields, named, by rw [if_neg hhop]; exact ⟨hvalue.1, hnamed⟩, hanswered⟩

/-- A refused context reaches no provider; an accepted one keeps the fields, within the window. -/
structure MultimodalHops {Input Result : Type}
    (provider : TransportFallbackMultimodalJudgeProvider Input Result) (clock : ℕ → Option ℚ)
    (input : Input) (context : ProviderContext) : Prop where
  refused : provider.primaryContext clock context = none →
    provider.evaluate clock input context = ⟨[], some (.error .zodError)⟩
  hopped : ∀ primaryContext, provider.primaryContext clock context = some primaryContext →
    Hopped clock context primaryContext (provider.primary.evaluate input)
      (provider.fallback.evaluate input) .ok .ok (provider.evaluate clock input context)
  window : ∀ primaryContext, provider.primaryContext clock context = some primaryContext →
    ∀ deadline, context.deadlineAt = some deadline → ∃ primaryDeadline,
      primaryContext = { context with deadlineAt := some primaryDeadline } ∧
      Windowed deadline clock (reserveOr provider.reserveMs multimodalTransportFallbackReserveMs)
        multimodalTransportFallbackMinPrimaryMs primaryDeadline
  hopUsed : ∀ primaryContext, provider.primaryContext clock context = some primaryContext →
    ∀ error, (provider.evaluate clock input context).outcome =
      some (.error (.providerError error)) → error.hopUsed = some
        (if isTransportRejection (provider.primary.evaluate input primaryContext) = true then
          .transportFallback else .primary)

theorem hopUsed_annotate {hopUsed : JudgeHopUsed} {caught : Caught} {error : ProviderError}
    (h : annotateProviderErrorHopUsed hopUsed caught = .providerError error) :
    error.hopUsed = some hopUsed := by
  cases caught with
  | providerError error' =>
      rw [annotateProviderErrorHopUsed] at h
      split at h
      · obtain rfl := Caught.providerError.inj h
        assumption
      · obtain rfl := Caught.providerError.inj h
        rfl
  | _ => cases h

theorem evaluate_hops {Input Result : Type}
    (provider : TransportFallbackMultimodalJudgeProvider Input Result) (clock : ℕ → Option ℚ)
    (input : Input) (context : ProviderContext) : MultimodalHops provider clock input context := by
  refine ⟨fun h => ?_, fun primaryContext h => ?_, fun primaryContext h deadline hdeadline => ?_,
    fun primaryContext h error herror => ?_⟩
  · rw [TransportFallbackMultimodalJudgeProvider.evaluate, h]
    rfl
  · rw [TransportFallbackMultimodalJudgeProvider.evaluate, h]
    exact hopped (fun _ _ hown => nomatch hown) (sameFailure_annotate .primary)
      (sameFailure_annotate .transportFallback)
  · rw [TransportFallbackMultimodalJudgeProvider.primaryContext] at h
    obtain ⟨haccepted, hsome⟩ := Option.ite_none_right_eq_some.mp h
    obtain rfl := Option.some.inj hsome
    rw [ProviderContextV1Schema.accepts, Bool.and_eq_true_iff] at haccepted
    obtain ⟨primaryDeadline, hprimary⟩ := Option.isSome_iff_exists.mp haccepted.2
    refine ⟨primaryDeadline, congrArg (fun date => { context with deadlineAt := date }) hprimary,
      windowed_of_reserve ?_⟩
    rw [← hdeadline]
    exact hprimary
  · rw [TransportFallbackMultimodalJudgeProvider.evaluate, h] at herror
    simp only [hop] at herror
    split at herror
    · cases herror
    rename_i result hresult
    split at herror
    · cases herror
    rename_i caught hcaught
    obtain rfl : result = .error caught := by
      cases result with
      | ok value => cases hcaught
      | error error' => exact hcaught
    rw [hresult]
    split at herror
    · rename_i hkept
      rw [if_neg (by rw [isTransportRejection, hkept]; exact Bool.false_ne_true)]
      exact hopUsed_annotate (Except.error.inj (Option.some.inj herror))
    · rename_i hkept
      rw [if_pos (show isTransportRejection (some (Except.error caught)) = true from
        Bool.of_not_eq_false hkept)]
      obtain ⟨result', -, hmapped⟩ := Option.map_eq_some_iff.mp herror
      cases result' with
      | ok value => cases hmapped
      | error error' => exact hopUsed_annotate (Except.error.inj hmapped)

/-- Where the context of the primary provider is accepted, that is called once, and the other one
behind a rejection on the transport alone, each within its window; rejections keep their codes, and
it is told who answered, or in which hop an error was thrown. -/
theorem transportFallback_hops (absent : Option JsValue) (clock : ℕ → Option ℚ) :
    (∀ {Input Instruction : Type} (provider : TransportFallbackSemanticProvider Input Instruction)
      (input : Input) (context : SemanticProviderCallContext),
      SemanticHops provider absent clock (provider.primary.generate input)
        (provider.fallback.generate input) context
        (provider.generate absent clock input context) ∧
      ∀ instruction, SemanticHops provider absent clock (provider.primary.repair input instruction)
        (provider.fallback.repair input instruction) context
        (provider.repair absent clock input instruction context)) ∧
    ∀ {Input Result : Type} (provider : TransportFallbackMultimodalJudgeProvider Input Result)
      (input : Input) (context : ProviderContext), MultimodalHops provider clock input context :=
  ⟨fun provider _ context => ⟨invoke_hops provider absent clock _ _ context,
    fun _ => invoke_hops provider absent clock _ _ context⟩,
    fun provider input context => evaluate_hops provider clock input context⟩

def sampleJudge : InlineMultimodalJudgeProvider Unit Unit where
  descriptor := LocalFakeInlineMultimodalJudgeProvider.descriptor
  evaluate _ _ := some (.ok ())

/-- An invalid deadline is handed on, and refused before a provider is called. -/
theorem not_called_once_invalidDate :
    ¬ ((TransportFallbackMultimodalJudgeProvider.evaluate ⟨sampleJudge, sampleJudge, none⟩
      (fun _ => some 0) () ⟨js "10000000-0000-4000-8000-000000000001",
        js "10000000-0000-4000-8000-000000000002", none⟩).calls.length = 1) := by
  decide

end TransportFallback

end Providers

end UnderstandProof
