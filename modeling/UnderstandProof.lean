import UnderstandProof.Analysis.GenerationContext
import UnderstandProof.Analysis.GenerationContextCodec
import UnderstandProof.Analysis.GenerationContextHash
import UnderstandProof.Analysis.GenerationContextSchema
import UnderstandProof.Analysis.GenerationContextWriting
import UnderstandProof.Analysis.PatchHunks
import UnderstandProof.Analysis.UnifiedHunks
import UnderstandProof.Auth.Handoff
import UnderstandProof.Auth.HandoffProgress
import UnderstandProof.Auth.HandoffProtocol
import UnderstandProof.Auth.HandoffRuns
import UnderstandProof.Auth.HandoffSteps
import UnderstandProof.Db.Evidence
import UnderstandProof.Db.GithubCheckClaims
import UnderstandProof.Db.GithubCheckIntents
import UnderstandProof.Db.GithubCheckRuns
import UnderstandProof.Db.GithubCheckSafety
import UnderstandProof.Db.GithubChecks
import UnderstandProof.Db.ProofQuestionIntervalAgreement
import UnderstandProof.Db.ProofQuestionIntervalRows
import UnderstandProof.Db.ProofQuestionIntervals
import UnderstandProof.Db.QuestionIntervalValidators
import UnderstandProof.Db.UploadFinalization
import UnderstandProof.Domain.Advance
import UnderstandProof.Domain.Attempt
import UnderstandProof.Domain.AttemptArtifacts
import UnderstandProof.Domain.AttemptClosing
import UnderstandProof.Domain.AttemptReplay
import UnderstandProof.Domain.AttemptRun
import UnderstandProof.Domain.Primitives
import UnderstandProof.Domain.Transition
import UnderstandProof.Foundation.Attempts
import UnderstandProof.Foundation.BlockQueue
import UnderstandProof.Foundation.ByteView
import UnderstandProof.Foundation.Drain
import UnderstandProof.Foundation.Except
import UnderstandProof.Foundation.Fragments
import UnderstandProof.Foundation.Table
import UnderstandProof.Foundation.History
import UnderstandProof.Foundation.IsoDate
import UnderstandProof.Foundation.JsSchema
import UnderstandProof.Foundation.JsString
import UnderstandProof.Foundation.JsValue
import UnderstandProof.Foundation.Json
import UnderstandProof.Foundation.JsonGrammar
import UnderstandProof.Foundation.JsonSize
import UnderstandProof.Foundation.JsonText
import UnderstandProof.Foundation.JsonValue
import UnderstandProof.Foundation.Jsonb
import UnderstandProof.Foundation.LineReader
import UnderstandProof.Foundation.OrderedSet
import UnderstandProof.Foundation.Regex
import UnderstandProof.Foundation.RetryLoop
import UnderstandProof.Foundation.RowLocks
import UnderstandProof.Foundation.Run
import UnderstandProof.Foundation.Sections
import UnderstandProof.Foundation.SlidingWindow
import UnderstandProof.Foundation.Text
import UnderstandProof.Foundation.Tiling
import UnderstandProof.Foundation.Utf8
import UnderstandProof.Foundation.Visited
import UnderstandProof.Github.AdmissionGate
import UnderstandProof.Github.CheckRunCourse
import UnderstandProof.Github.CheckRuns
import UnderstandProof.Github.GitTreeMetadata
import UnderstandProof.Github.GitTreeWalk
import UnderstandProof.Github.Lifecycle
import UnderstandProof.Github.PassedRevisions
import UnderstandProof.Github.PullRequestRevisions
import UnderstandProof.Github.PullRequestRuns
import UnderstandProof.Github.PullRequestSteps
import UnderstandProof.Github.Replacements
import UnderstandProof.Github.RequestDiscipline
import UnderstandProof.Github.RequestPolicy
import UnderstandProof.Github.RevisionSwitches
import UnderstandProof.Github.TokenCache
import UnderstandProof.Github.TokenFences
import UnderstandProof.Github.UserAuthorization
import UnderstandProof.Github.UserListings
import UnderstandProof.Media.Base64Url
import UnderstandProof.Media.Canonical
import UnderstandProof.Media.Constants
import UnderstandProof.Media.Crypto
import UnderstandProof.Media.Encoding
import UnderstandProof.Media.FinalizeRecording
import UnderstandProof.Media.ManifestLayout
import UnderstandProof.Media.ManifestParts
import UnderstandProof.Media.Multipart
import UnderstandProof.Media.MultipartParts
import UnderstandProof.Media.MultipartRuns
import UnderstandProof.Media.QuestionIntervals
import UnderstandProof.Media.RecordCodec
import UnderstandProof.Media.Records
import UnderstandProof.Media.Schemas
import UnderstandProof.Policy.RepositoryPolicy
import UnderstandProof.Providers.AuthoritativeEvaluation
import UnderstandProof.Providers.CandidateContract
import UnderstandProof.Providers.CandidateValidation
import UnderstandProof.Providers.Errors
import UnderstandProof.Providers.EvaluationInput
import UnderstandProof.Providers.JsonExtraction
import UnderstandProof.Providers.JudgeCandidate
import UnderstandProof.Providers.JudgeFallback
import UnderstandProof.Providers.JudgeMetadata
import UnderstandProof.Providers.JudgeResult
import UnderstandProof.Providers.JudgeSchemas
import UnderstandProof.Providers.PayloadCipher
import UnderstandProof.Providers.ProofEvaluation
import UnderstandProof.Providers.QuestionAudio
import UnderstandProof.Providers.QuestionTranscription
import UnderstandProof.Providers.SemanticChatRequest
import UnderstandProof.Providers.SemanticExtraction
import UnderstandProof.Providers.SemanticRequest
import UnderstandProof.Providers.SemanticSse
import UnderstandProof.Providers.SseAgreement
import UnderstandProof.Providers.SseChunking
import UnderstandProof.Providers.SseEvents
import UnderstandProof.Providers.SseResponse
import UnderstandProof.Providers.StreamRetry
import UnderstandProof.Providers.StreamRetryRuns
import UnderstandProof.Providers.TranscriptionRequest
import UnderstandProof.Providers.TransportFallback
import UnderstandProof.Questions.Generative
import UnderstandProof.Questions.GenerativeAnchors
import UnderstandProof.Web.MaintainerReview
import UnderstandProof.Web.MaintainerReviewRuns
import UnderstandProof.Web.ManifestValidation
import UnderstandProof.Web.OAuthStartProtection
import UnderstandProof.Web.ProofManifest
import UnderstandProof.Web.ProofQuestionTiming
import UnderstandProof.Web.ProofRecording
import UnderstandProof.Web.RequestRateLimit
import UnderstandProof.Web.RequestRateLimitRuns
import UnderstandProof.Worker.AcceleratedDeletion
import UnderstandProof.Worker.AcceleratedDeletionRuns
import UnderstandProof.Worker.AttemptExpiry
import UnderstandProof.Worker.CompatibilityBundle
import UnderstandProof.Worker.CompatibilityContract
import UnderstandProof.Worker.CompatibilityPayload
import UnderstandProof.Worker.DeletionDeadlines
import UnderstandProof.Worker.EvidenceEvents
import UnderstandProof.Worker.EvidenceKeys
import UnderstandProof.Worker.FinalizationRuns
import UnderstandProof.Worker.FrameReservations
import UnderstandProof.Worker.HonestResult
import UnderstandProof.Worker.JpegDimensions
import UnderstandProof.Worker.JudgeProjection
import UnderstandProof.Worker.JudgeReviews
import UnderstandProof.Worker.LearningPromise
import UnderstandProof.Worker.MediaFinalize
import UnderstandProof.Worker.MediaFinalizeRuns
import UnderstandProof.Worker.MultimodalJudge
import UnderstandProof.Worker.MultimodalJudgeRuns
import UnderstandProof.Worker.PartCursor
import UnderstandProof.Worker.PracticeFrames
import UnderstandProof.Worker.PracticeKept
import UnderstandProof.Worker.PracticeSessions
import UnderstandProof.Worker.PracticeSteps
import UnderstandProof.Worker.PracticeTables
import UnderstandProof.Worker.PrivateErasure
import UnderstandProof.Worker.ProofGenerationHandler
import UnderstandProof.Worker.ProofPreparation
import UnderstandProof.Worker.ProofPreparationRuns
import UnderstandProof.Worker.QuestionClips
import UnderstandProof.Worker.RecordCursor
import UnderstandProof.Worker.RecordingReader
import UnderstandProof.Worker.Retention
import UnderstandProof.Worker.RetentionRuns
import UnderstandProof.Worker.RetentionSafety
import UnderstandProof.Worker.RevisionPreparation
import UnderstandProof.Worker.RevisionPreparationRuns
import UnderstandProof.Worker.SemanticInvocation
import UnderstandProof.Worker.StreamDecryption
import UnderstandProof.Worker.TranscriptAssembly
