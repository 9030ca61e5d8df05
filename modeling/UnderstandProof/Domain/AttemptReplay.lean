import UnderstandProof.Domain.AttemptRun

/-!
# Replays

A command that has succeeded once finds its own receipt in every later state of
the attempt: receipts are never lost, their keys are pairwise distinct, and the
fields they are compared by are those of the command after parsing. The replay
check comes before every other guard, so it wins in terminal, expired and
superseded states too, and it draws on neither the clock nor the identifiers.
-/

open Foundation

namespace UnderstandProof

namespace Domain

/-- The fields by which a command is compared with the receipt under its key. -/
def MatchesReceipt (command : AttemptTransitionCommand)
    (receipt : AttemptTransitionReceipt) : Prop :=
  receipt.from = command.expectedStatus ∧ receipt.to = command.targetStatus ∧
    receipt.expectedHeadSha = command.expectedHeadSha ∧
    receipt.currentHeadSha = command.currentHeadSha ∧
    receipt.actorId = command.actor.actorId ∧
    receipt.actorRole = command.actor.role

def idempotencyConflict : AttemptFailure :=
  .transition ⟨.idempotencyConflict,
    "Idempotency key was already used for a different transition"⟩

/-- Where keys are pairwise distinct, the first receipt under a key is the only
one. -/
theorem find_receipt_eq {receipts : List AttemptTransitionReceipt}
    {receipt : AttemptTransitionReceipt} {key : IdempotencyKey}
    (hkeys : (receipts.map fun r => r.idempotencyKey).Nodup)
    (hmem : receipt ∈ receipts) (hkey : receipt.idempotencyKey = key) :
    receipts.find? (fun r => decide (r.idempotencyKey = key)) = some receipt := by
  induction receipts with
  | nil => exact absurd hmem List.not_mem_nil
  | cons r receipts ih =>
      rw [List.map_cons, List.nodup_cons] at hkeys
      rcases List.mem_cons.mp hmem with rfl | hmem
      · simp [hkey]
      · have hne : r.idempotencyKey ≠ key := by
          rintro rfl
          exact hkeys.1 (List.mem_map.mpr ⟨receipt, hmem, hkey⟩)
        rw [List.find?_cons_of_neg (by simpa using hne)]
        exact ih hkeys.2 hmem

section

variable {command : AttemptTransitionCommand} {receipt : AttemptTransitionReceipt}
  {raw : RawCommand} {age : Option Int} {d : AttemptDependencies}

/-- A recorded key is answered by its receipt when the command matches it. -/
theorem findIdempotentReplay_of_match (hinv : AttemptInvariant command.attempt)
    (hmem : receipt ∈ command.attempt.transitionReceipts)
    (hkey : receipt.idempotencyKey = command.idempotencyKey)
    (hmatch : MatchesReceipt command receipt) :
    findIdempotentReplay command = .ok (some receipt) := by
  have hid := (hinv.receipts receipt hmem).attemptId
  unfold findIdempotentReplay
  rw [find_receipt_eq hinv.keys hmem hkey]
  exact if_pos ⟨hid, hmatch⟩

theorem findIdempotentReplay_of_differs (hinv : AttemptInvariant command.attempt)
    (hmem : receipt ∈ command.attempt.transitionReceipts)
    (hkey : receipt.idempotencyKey = command.idempotencyKey)
    (hdiffers : ¬ MatchesReceipt command receipt) :
    findIdempotentReplay command = .error ⟨.idempotencyConflict,
      "Idempotency key was already used for a different transition"⟩ := by
  unfold findIdempotentReplay
  rw [find_receipt_eq hinv.keys hmem hkey]
  exact if_neg fun h => hdiffers h.2

theorem transitionAttempt_of_replay
    (hparse : AttemptTransitionCommandSchema.parse raw = .ok command)
    (hreplay : findIdempotentReplay command = .ok (some receipt)) :
    (transitionAttempt raw age).run d =
      (.ok { attempt := command.attempt, receipt, replayed := true }, d) := by
  simp only [transitionAttempt, AttemptM.parsing, AttemptM.checking, hparse, hreplay,
    Except.mapError, Stateful.run_bind, Stateful.run_lift, Stateful.run_pure]

theorem transitionAttempt_of_conflict {e : AttemptTransitionError}
    (hparse : AttemptTransitionCommandSchema.parse raw = .ok command)
    (hconflict : findIdempotentReplay command = .error e) :
    (transitionAttempt raw age).run d = (.error (.transition e), d) := by
  simp only [transitionAttempt, AttemptM.parsing, AttemptM.checking, hparse,
    hconflict, Except.mapError, Stateful.run_bind, Stateful.run_lift]

end

/-- In every later state of the attempt a successful call is replayed, a command
that differs from a recorded one under the same key is refused, and no key
belongs to two receipts. -/
theorem replay_in_every_descendant {created attempt descendant : Attempt}
    {calls later : List TransitionCall} {call : TransitionCall}
    {result : AttemptTransitionResult} (hcreated : Created created)
    (hrun : Run CallStep created calls attempt)
    (hok : (call.run attempt).1 = .ok result) (hfresh : result.replayed = false)
    (hlater : Run CallStep result.attempt later descendant) :
    (∀ age d, (transitionAttempt (call.command descendant) age).run d =
      (.ok { attempt := descendant, receipt := result.receipt, replayed := true }, d)) ∧
    (∀ receipt ∈ descendant.transitionReceipts, ∀ (other : TransitionCall) command,
      AttemptTransitionCommandSchema.parse (other.command descendant) = .ok command →
      command.idempotencyKey = receipt.idempotencyKey →
      (command.expectedStatus ≠ receipt.from ∨ command.targetStatus ≠ receipt.to ∨
        command.expectedHeadSha ≠ receipt.expectedHeadSha ∨
        command.currentHeadSha ≠ receipt.currentHeadSha ∨
        command.actor.actorId ≠ receipt.actorId ∨
        command.actor.role ≠ receipt.actorRole) →
      ∀ age d, (transitionAttempt (other.command descendant) age).run d =
        (.error idempotencyConflict, d)) ∧
    (descendant.transitionReceipts.map fun r => r.idempotencyKey).Nodup := by
  have hinvAttempt := run_attemptInvariant hrun (attemptInvariant_of_created hcreated)
  have hstep : CallStep attempt call result.attempt := by
    simp only [CallStep, afterCall, hok]
  have hinv := run_attemptInvariant hlater
    (callStep_attemptInvariant _ _ _ hinvAttempt hstep)
  refine ⟨?_, ?_, hinv.keys⟩
  · intro age d
    obtain ⟨command, hparse, hattempt, hcases⟩ := run_eq_ok hok
    rcases hcases with ⟨hreplayed, -⟩ | ⟨-, now, hadvance⟩
    · rw [hfresh] at hreplayed
      cases hreplayed
    · have hmem : result.receipt ∈ descendant.transitionReceipts := by
        apply (run_receipts_isPrefix hlater).subset
        rw [hadvance.receipts_eq]
        exact List.mem_append_right _ (List.mem_singleton_self _)
      have hparse' := (parse_command hparse).2.2 descendant
      have hcurrent := hadvance.current
      have hreplay : findIdempotentReplay { command with attempt := descendant } =
          .ok (some result.receipt) := by
        refine findIdempotentReplay_of_match hinv hmem ?_ ?_
        · rw [hadvance.receipt_eq]
        · rw [hadvance.receipt_eq]
          exact ⟨hcurrent, rfl, rfl, rfl, rfl, rfl⟩
      exact transitionAttempt_of_replay hparse' hreplay
  · intro receipt hmem other command hparse hkey hdiffers age d
    obtain ⟨hattempt, -, -⟩ := parse_command hparse
    subst hattempt
    have hconflict := findIdempotentReplay_of_differs hinv hmem hkey.symm fun h => by
      obtain ⟨h₁, h₂, h₃, h₄, h₅, h₆⟩ := h
      rcases hdiffers with hd | hd | hd | hd | hd | hd
      · exact hd h₁.symm
      · exact hd h₂.symm
      · exact hd h₃.symm
      · exact hd h₄.symm
      · exact hd h₅.symm
      · exact hd h₆.symm
    exact transitionAttempt_of_conflict hparse hconflict

theorem replay_in_every_descendant_sample :
    ∃ result, (sampleReady.run sampleAttempt).1 = .ok result ∧
      ∀ age d, (transitionAttempt
          (sampleReady.command (afterCall result.attempt sampleStart)) age).run d =
        (.ok {
          attempt := afterCall result.attempt sampleStart
          receipt := result.receipt, replayed := true }, d) := by
  have hfresh : ((sampleReady.run sampleAttempt).1.toOption.map fun result =>
      result.replayed) = some false := by decide
  cases hrun : (sampleReady.run sampleAttempt).1 with
  | error e =>
      rw [hrun] at hfresh
      cases hfresh
  | ok result =>
      rw [hrun] at hfresh
      exact ⟨result, rfl, (replay_in_every_descendant created_sampleAttempt Run.nil
        hrun (Option.some.inj hfresh) (run_foldl _ [sampleStart])).1⟩

end Domain

end UnderstandProof
