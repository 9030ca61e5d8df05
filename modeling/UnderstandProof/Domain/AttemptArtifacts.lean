import UnderstandProof.Domain.AttemptRun

/-!
# Recorded artifacts along a run

A transition merges the artifacts of its command over those of the attempt and
asks only for the ones its own target status requires. A key that is present
with the value `undefined` survives parsing and overwrites a recorded reference
in the merge. An attempt keeps the artifacts of every status it has entered
exactly as long as no command carries such a key for one of them.
-/

open Foundation

namespace UnderstandProof

namespace Domain

/-- The statuses an attempt has ever been in, as its receipts record them. -/
def enteredStatuses (attempt : Attempt) : List AttemptStatus :=
  .preparing :: attempt.transitionReceipts.map fun r => r.to

/-- Every artifact required by a status the attempt has entered is present. -/
def KeepsArtifacts (attempt : Attempt) : Prop :=
  ∀ s ∈ enteredStatuses attempt, ∀ key ∈ requiredArtifacts s,
    (attempt.artifacts key).get.isSome

/-- A step whose call does not carry the key of a required artifact with the
value `undefined`. -/
def RetainingStep (attempt : Attempt) (call : TransitionCall) (next : Attempt) :
    Prop :=
  CallStep attempt call next ∧
    ∀ key, call.artifacts key = .undefined →
      ∀ s ∈ enteredStatuses attempt, key ∉ requiredArtifacts s

/-- Parsing keeps an explicit `undefined`, and makes none. -/
theorem parse_artifacts_undefined_iff {raw : ArtifactRefsOf JsString}
    {artifacts : AttemptArtifactRefs}
    (h : AttemptArtifactRefsSchema.parse raw = .ok artifacts) (key : ArtifactKey) :
    artifacts key = .undefined ↔ raw key = .undefined := by
  unfold AttemptArtifactRefsSchema.parse at h
  split at h
  · cases h
    dsimp only
    split
    · next p hp =>
        cases hraw : raw key with
        | absent => rw [hraw] at hp; cases hp; simp
        | undefined => rw [hraw] at hp; cases hp; simp
        | value a =>
            rw [hraw] at hp
            obtain ⟨v, -, rfl⟩ := map_eq_ok.mp hp
            simp
    · next hall e he =>
        exact absurd (hall key) (by simp [he, Except.isOk, Except.toBool])
  · cases h

/-- The status reached is the last one entered. -/
theorem status_mem_enteredStatuses {attempt : Attempt}
    (h : AttemptInvariant attempt) : attempt.status ∈ enteredStatuses attempt := by
  have hchain : ∀ {s t : AttemptStatus} (receipts : List AttemptTransitionReceipt),
      ReceiptChain s receipts t → t ∈ s :: receipts.map fun r => r.to := by
    intro s t receipts
    induction receipts generalizing s with
    | nil =>
        rintro rfl
        exact List.mem_cons_self
    | cons r receipts ih => exact fun hr => List.mem_cons_of_mem _ (ih hr.2.2)
  exact hchain _ h.chain

theorem enteredStatuses_subset_of_run {attempt next : Attempt}
    {calls : List TransitionCall} (h : Run CallStep attempt calls next) :
    enteredStatuses attempt ⊆ enteredStatuses next := by
  have hpre := run_receipts_isPrefix h
  exact List.cons_subset_cons _ ((hpre.map fun r => r.to).subset)

theorem keepsArtifacts_of_created {attempt : Attempt} (h : Created attempt) :
    KeepsArtifacts attempt := by
  obtain ⟨raw, d, hok⟩ := h
  obtain ⟨now, -, id, input, rfl⟩ := createAttempt_eq_ok hok
  intro s hs key hkey
  obtain rfl : s = .preparing := by simpa [enteredStatuses] using hs
  exact absurd hkey List.not_mem_nil

/-- An advance records what its target requires, and keeps what was recorded
unless the command overwrites it with `undefined`. -/
theorem Advance.keepsArtifacts {command : AttemptTransitionCommand}
    {now : Timestamp} {next : Attempt} {receipt : AttemptTransitionReceipt}
    (h : Advance command now next receipt) (hkeeps : KeepsArtifacts command.attempt)
    (hretains : ∀ key, command.artifacts key = .undefined →
      ∀ s ∈ enteredStatuses command.attempt, key ∉ requiredArtifacts s) :
    KeepsArtifacts next := by
  have hmerged : next.artifacts = mergedArtifacts command.attempt command := by
    rw [h.next_eq]
  have hto : receipt.to = command.targetStatus := by rw [h.receipt_eq]
  intro s hs key hkey
  rw [hmerged]
  rw [enteredStatuses, h.receipts_eq, List.map_append, ← List.cons_append,
    List.mem_append] at hs
  rcases hs with hs | hs
  · have hrecorded := hkeeps s hs key hkey
    exact Property.isSome_get_spread hrecorded
      fun hundefined => hretains key hundefined s hs hkey
  · obtain rfl : s = command.targetStatus := by simpa [hto] using hs
    exact Option.isSome_iff_ne_none.mpr (h.required key hkey)

theorem retainingStep_keeps (attempt : Attempt) (call : TransitionCall)
    (next : Attempt) (hkeeps : KeepsArtifacts attempt)
    (h : RetainingStep attempt call next) : KeepsArtifacts next := by
  obtain ⟨hstep, hretains⟩ := h
  rcases callStep_cases hstep with
    rfl | ⟨command, now, receipt, hparse, rfl, hadvance⟩
  · exact hkeeps
  · have hartifacts := (parse_command hparse).2.1
    exact hadvance.keepsArtifacts hkeeps fun key hundefined =>
      hretains key ((parse_artifacts_undefined_iff hartifacts key).mp hundefined)

/-- One command that carries a key with the value `undefined` erases the
reference under that key, whatever it was. -/
theorem Advance.erases {command : AttemptTransitionCommand} {now : Timestamp}
    {next : Attempt} {receipt : AttemptTransitionReceipt}
    (h : Advance command now next receipt) {key : ArtifactKey}
    (hundefined : command.artifacts key = .undefined) :
    (next.artifacts key).get = none := by
  rw [h.next_eq]
  simp only [mergedArtifacts, hundefined]
  rfl

/-- A technical retry whose artifact object carries the key of the handoff
token, set to `undefined`. -/
def sampleErasingRetry : TransitionCall :=
  sampleCall .active .technicalRetry .worker "worker-1" .markTechnicalRetry
    (fun key => match key with
      | .technicalEventId => .value (js "20000000-0000-4000-8000-000000000010")
      | .handoffTokenId => .undefined
      | _ => .absent)
    "attempt:retry:1" "00000000-0000-4000-8000-000000000004" 3000

/-- The same retry without that key. -/
def sampleRetry : TransitionCall :=
  { sampleErasingRetry with
    artifacts := fun key => match key with
      | .technicalEventId => .value (js "20000000-0000-4000-8000-000000000010")
      | _ => .absent }

def sampleActive : Attempt := [sampleReady, sampleStart].foldl afterCall sampleAttempt

end Domain

end UnderstandProof
