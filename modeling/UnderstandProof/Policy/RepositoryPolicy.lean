import UnderstandProof.Media.Constants

/-!
# The policy of a repository

The fields of a repository policy, and the bounds of its schema.
-/

open Foundation

namespace UnderstandProof

namespace Policy

structure RepositoryPolicyV1 where
  minimumQuestions : ℕ
  maximumQuestions : ℕ
  maximumDurationSeconds : ℕ
  maximumUploadBytes : ℕ
  retentionHours : ℕ
  deleteAfterMaintainerPass : Bool
  deriving DecidableEq, Repr

def RepositoryPolicyV1Schema.accepts (policy : RepositoryPolicyV1) : Bool :=
  1 ≤ policy.minimumQuestions && policy.minimumQuestions ≤ 5 &&
    1 ≤ policy.maximumQuestions && policy.maximumQuestions ≤ 5 &&
    30 ≤ policy.maximumDurationSeconds && policy.maximumDurationSeconds ≤ 30 * 60 &&
    1 ≤ policy.maximumUploadBytes && policy.maximumUploadBytes ≤ 2000000000 &&
    1 ≤ policy.retentionHours && policy.retentionHours ≤ 24 &&
    policy.minimumQuestions ≤ policy.maximumQuestions

end Policy

end UnderstandProof
