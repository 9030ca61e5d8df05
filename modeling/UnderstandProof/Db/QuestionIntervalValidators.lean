import UnderstandProof.Db.ProofQuestionIntervalAgreement
import UnderstandProof.Domain.Advance

/-!
# Storing question intervals

What a finalization of an upload stores as its question intervals passes the
constraints of the table and its trigger, and the trigger accepts no list of objects
that the request would have refused.
-/

open Foundation

namespace UnderstandProof

namespace Db

open Media (ProofQuestionInterval FinalizeRecording validateProofQuestionIntervalsV1)

/-! ## The size of the stored text -/

theorem length_escape_le (s : JsString) : (Json.escape s).length ≤ 6 * s.length := by
  have hunit : ∀ c, (Json.escapeUnit c).length ≤ 6 := by
    intro c
    simp only [Json.escapeUnit]
    split_ifs <;> simp [Json.unicodeEscape]
  induction s using Json.escape.induct with
  | case1 => simp [Json.escape]
  | case2 c =>
      have h := hunit c
      rw [Json.escape]
      simpa using h
  | case3 c d rest hpair ih =>
      rw [Json.escape, if_pos hpair]
      simp only [List.length_cons]
      omega
  | case4 c d rest hpair ih =>
      have h := hunit c
      rw [Json.escape, if_neg hpair, List.length_append]
      simp only [List.length_cons] at ih ⊢
      omega

theorem length_quote_le (s : JsString) : (Json.quote s).length ≤ 2 + 6 * s.length := by
  have h := length_escape_le s
  simp only [Json.quote, List.length_append, List.length_cons, List.length_nil]
  omega

theorem length_decimal_le {n : ℕ} (hn : n < 10 ^ 6) : (JsString.decimal n).length ≤ 6 := by
  rw [JsString.decimal]
  split
  · decide
  · rw [List.length_map, List.length_reverse]
    exact (Nat.digits_length_le_iff (by omega) n).mpr hn

/-- The text of an interval that the trigger accepts. -/
theorem length_print_le {raw : RawQuestionInterval} {d m : ℤ} {previousEnd : Option ℤ}
    {index : ℕ} (hduration : d ≤ 480000) (hindex : index < 10 ^ 6)
    (h : StoredInterval d m previousEnd raw index) :
    (Jsonb.print raw.jsonb).length ≤ 430 := by
  have hnatural : ∀ n : ℤ, 0 ≤ n → n < 10 ^ 6 → (Jsonb.printInteger n).length ≤ 6 := by
    intro n hpos hlt
    rw [Jsonb.printInteger, if_neg (by omega)]
    exact length_decimal_le (by omega)
  have hordinal := h.ordinal
  have hstart := h.startMs
  have hpositive := h.positive
  have hwithin := h.within
  have hrecorded := h.recorded
  have hid : raw.questionId.length = 36 := by
    have haccepts := h.questionId
    simp only [Media.CanonicalUuidSchema.accepts, Bool.and_eq_true, beq_iff_eq] at haccepts
    exact haccepts.1
  have hquote := length_quote_le raw.questionId
  have h₁ := hnatural raw.ordinal (by omega) (by omega)
  have h₂ := hnatural raw.startMs (by omega) (by omega)
  have h₃ := hnatural raw.endMs (by omega) (by omega)
  have h₄ := hnatural raw.recordedDurationMs (by omega) (by omega)
  have hversion : (Json.quote raw.schemaVersion).length = 3 := by
    rw [h.schemaVersion]
    decide
  have hinterval : (Json.quote raw.intervalVersion).length = 28 := by
    rw [h.intervalVersion]
    decide
  have hsource : (Json.quote raw.source).length = 22 := by
    rw [h.source]
    decide
  have hkeys : (Json.quote (js "endMs")).length = 7 ∧ (Json.quote (js "source")).length = 8 ∧
      (Json.quote (js "ordinal")).length = 9 ∧ (Json.quote (js "startMs")).length = 9 ∧
      (Json.quote (js "questionId")).length = 12 ∧
      (Json.quote (js "schemaVersion")).length = 15 ∧
      (Json.quote (js "intervalVersion")).length = 17 ∧
      (Json.quote (js "recordedDurationMs")).length = 20 := by decide
  obtain ⟨k₁, k₂, k₃, k₄, k₅, k₆, k₇, k₈⟩ := hkeys
  simp only [RawQuestionInterval.jsonb, Jsonb.print, Jsonb.printFields, List.length_append,
    List.length_cons, List.length_nil, k₁, k₂, k₃, k₄, k₅, k₆, k₇, k₈, hversion, hinterval,
    hsource]
  omega

theorem length_printItems_le {items : List Jsonb} {bound : ℕ}
    (h : ∀ item ∈ items, (Jsonb.print item).length ≤ bound) :
    (Jsonb.printItems items).length ≤ items.length * (bound + 2) := by
  induction items with
  | nil => simp [Jsonb.printItems]
  | cons item items ih =>
      rw [List.forall_mem_cons] at h
      have hrest := ih h.2
      have hitem := h.1
      cases items with
      | nil =>
          rw [Jsonb.printItems]
          simp only [List.length_cons, List.length_nil]
          omega
      | cons next items =>
          rw [Jsonb.printItems]
          simp only [List.length_append, List.length_cons, Nat.succ_mul] at hrest ⊢
          omega

/-- The constraints of the table. -/
theorem checks_of_stored {row : ProofQuestionIntervalSet} {raws : List RawQuestionInterval}
    {questionIds : List JsString} {recordedDurationMs : ℕ}
    (hdigest : Media.Sha256Schema.accepts row.manifestDigest = true)
    (hversion : row.intervalVersion = js "proof-question-interval-v1")
    (hmaximum : row.maximumQuestionDurationMs = 120000)
    (hrecorded : row.recordedDurationMs = recordedDurationMs)
    (hduration : 1 ≤ recordedDurationMs ∧ recordedDurationMs ≤ 480000)
    (hlength : 1 ≤ raws.length ∧ raws.length ≤ 5)
    (hrow : row.intervals = .arr (raws.map RawQuestionInterval.jsonb))
    (h : StoredTimeline questionIds recordedDurationMs 120000 raws) :
    row.checks = true := by
  have hitems : ∀ item ∈ raws.map RawQuestionInterval.jsonb,
      (Jsonb.print item).length ≤ 430 := by
    intro item hitem
    obtain ⟨raw, hraw, rfl⟩ := List.mem_map.mp hitem
    obtain ⟨before, after, hsplit⟩ := List.append_of_mem hraw
    refine length_print_le (by omega) ?_ (h.intervals before raw after hsplit)
    have hsize := congrArg List.length hsplit
    rw [List.length_append, List.length_cons] at hsize
    omega
  have hprint : JsString.utf8Bytes (Jsonb.print row.intervals) ≤ 8192 := by
    have hsize := length_printItems_le hitems
    have hbytes := (JsString.utf8Bytes_bounds (Jsonb.print row.intervals)).2
    have htext : (Jsonb.print row.intervals).length =
        (Jsonb.printItems (raws.map RawQuestionInterval.jsonb)).length + 2 := by
      rw [hrow, Jsonb.print]
      simp
    rw [List.length_map] at hsize
    omega
  simp only [Media.Sha256Schema.accepts, Bool.and_eq_true, beq_iff_eq] at hdigest
  rw [ProofQuestionIntervalSet.checks, hversion, hmaximum, hrecorded]
  rw [hrow] at hprint ⊢
  simp only [hdigest, hprint, List.length_map, hlength, beq_self_eq_true, decide_true,
    Bool.and_true, Bool.and_self, Bool.and_eq_true, decide_eq_true_eq, true_and]
  omega

/-! ## The envelope -/

theorem field_manifest (finalization : FinalizeRecording) :
    Jsonb.field (js "manifest") (some (Jsonb.ofJson finalization.toJson)) =
      some (Jsonb.ofJson finalization.manifest.toJson) := by
  refine @Jsonb.field_ofJson (js "manifest") finalization.manifest.toJson [] _ ?_
  simp only [List.map_cons, List.map_nil]
  decide

theorem field_durationMs (manifest : Media.RecordingManifest) :
    Jsonb.field (js "durationMs") (some (Jsonb.ofJson manifest.toJson)) =
      some (.num manifest.durationMs) := by
  have hsplit : ∃ fields later, manifest.toJson =
      .obj (fields ++ (js "durationMs", .num manifest.durationMs) :: later) ∧
      js "durationMs" ∉ later.map Prod.fst := by
    refine ⟨[(js "protocolVersion", .num manifest.protocolVersion),
      (js "suiteId", .str manifest.suiteId), (js "attemptId", .str manifest.attemptId),
      (js "headSha", .str manifest.headSha), (js "objectId", .str manifest.objectId),
      (js "codec", .str manifest.codec),
      (js "noncePrefixBase64url", .str manifest.noncePrefixBase64url),
      (js "wrapping", manifest.wrapping.toJson)],
      [(js "totalPlaintextBytes", .num manifest.totalPlaintextBytes),
        (js "totalObjectBytes", .num manifest.totalObjectBytes)] ++
        (manifest.questionIntervals.toList.map fun intervals => (js "questionIntervals",
          .arr (intervals.map ProofQuestionInterval.toJson))) ++
        [(js "chunks", .arr (manifest.chunks.map Media.ManifestChunk.toJson)),
          (js "parts", .arr (manifest.parts.map Media.ManifestPart.toJson))], rfl, ?_⟩
    cases manifest.questionIntervals with
    | none =>
        simp only [Option.toList_none, List.map_nil, List.append_nil, List.map_append,
          List.map_cons]
        decide
    | some intervals =>
        simp only [Option.toList_some, List.map_nil, List.map_append, List.map_cons]
        decide
  obtain ⟨fields, later, hjson, hlater⟩ := hsplit
  rw [hjson, Jsonb.field_ofJson hlater]
  rfl

theorem field_questionIntervals {manifest : Media.RecordingManifest}
    {intervals : List ProofQuestionInterval} (h : manifest.questionIntervals = some intervals) :
    Jsonb.field (js "questionIntervals") (some (Jsonb.ofJson manifest.toJson)) =
      some (.arr (intervals.map fun interval =>
        (RawQuestionInterval.ofInterval interval).jsonb)) := by
  have hjson : manifest.toJson = .obj ([(js "protocolVersion", .num manifest.protocolVersion),
      (js "suiteId", .str manifest.suiteId), (js "attemptId", .str manifest.attemptId),
      (js "headSha", .str manifest.headSha), (js "objectId", .str manifest.objectId),
      (js "codec", .str manifest.codec),
      (js "noncePrefixBase64url", .str manifest.noncePrefixBase64url),
      (js "wrapping", manifest.wrapping.toJson), (js "durationMs", .num manifest.durationMs),
      (js "totalPlaintextBytes", .num manifest.totalPlaintextBytes),
      (js "totalObjectBytes", .num manifest.totalObjectBytes)] ++
      (js "questionIntervals", .arr (intervals.map ProofQuestionInterval.toJson)) ::
      [(js "chunks", .arr (manifest.chunks.map Media.ManifestChunk.toJson)),
        (js "parts", .arr (manifest.parts.map Media.ManifestPart.toJson))]) := by
    rw [Media.RecordingManifest.toJson, h]
    rfl
  rw [hjson, Jsonb.field_ofJson, Jsonb.ofJson, Jsonb.ofJsonItems_eq_map, List.map_map]
  · rfl
  · simp only [List.map_cons, List.map_nil]
    decide

/-! ## The trigger -/

/-- The plan of the attempt passes the counts of the first query. -/
theorem CompletePlan.ordinals_eq {plan : ProofPlanRow} (h : CompletePlan plan) :
    let ordinals := plan.requiredQuestions.map ProofQuestionRow.ordinal
    ordinals.dedup.length = plan.questionBudget ∧ ordinals.min? = some 0 ∧
      ordinals.max? = some (plan.questionBudget - 1) := by
  have hpositive := h.count.1
  have hlength : (plan.requiredQuestions.map ProofQuestionRow.ordinal).length =
      plan.questionBudget := by rw [List.length_map, h.budget]
  have hmem : ∀ ordinal, ordinal ∈ plan.requiredQuestions.map ProofQuestionRow.ordinal ↔
      ordinal < plan.questionBudget := by
    intro ordinal
    rw [h.ordinals.mem_iff, List.mem_range, h.budget]
  have hnodup : (plan.requiredQuestions.map ProofQuestionRow.ordinal).Nodup :=
    h.ordinals.nodup_iff.mpr List.nodup_range
  have hbudget := h.budget
  refine ⟨by rw [hnodup.dedup, hlength], ?_, ?_⟩
  · rw [List.min?_eq_some_iff]
    exact ⟨(hmem 0).mpr (by omega), fun _ _ => Nat.zero_le _⟩
  · rw [List.max?_eq_some_iff]
    exact ⟨(hmem _).mpr (by omega), fun ordinal hordinal => by
      have hlt := (hmem ordinal).mp hordinal
      omega⟩

/-- What the trigger accepts, for an upload with an accepted envelope. -/
theorem validateProofQuestionIntervals_ok_iff {plan : ProofPlanRow} {db : Evidence}
    {row : ProofQuestionIntervalSet} {upload : UploadSession}
    {finalization : FinalizeRecording} {raws : List RawQuestionInterval}
    (hplan : CompletePlan plan) (hupload : db.upload = some upload)
    (henvelope : upload.finalizeEnvelope = some finalization.toJson)
    (hrow : row.intervals = .arr (raws.map RawQuestionInterval.jsonb))
    (hduration : finalization.manifest.durationMs ≤ 480000) :
    validateProofQuestionIntervals plan db row = .ok () ↔
      upload.id = row.uploadSessionId ∧ db.attempt.id = row.attemptId ∧
      db.attempt.status = .processing ∧ db.isCurrent = true ∧
      upload.state = .pendingFinalization ∧
      upload.manifestDigest = some row.manifestDigest ∧
      row.recordedDurationMs = finalization.manifest.durationMs ∧
      Jsonb.field (js "questionIntervals")
        (some (Jsonb.ofJson finalization.manifest.toJson)) = some row.intervals ∧
      StoredTimeline plan.requiredQuestionIds row.recordedDurationMs
        row.maximumQuestionDurationMs raws := by
  have hne : plan.requiredQuestions ≠ [] := List.ne_nil_of_length_pos hplan.count.1
  have hpositive := hplan.count.1
  have hbudget := hplan.budget
  obtain ⟨hdistinct, hminimum, hmaximum⟩ := hplan.ordinals_eq
  have hcast : castInteger (Jsonb.fieldText (js "durationMs")
      (some (Jsonb.ofJson finalization.manifest.toJson))) =
      .ok (some (finalization.manifest.durationMs : ℤ)) := by
    have hinteger : isInteger (finalization.manifest.durationMs : ℤ) = true := by
      rw [isInteger_iff]
      omega
    rw [Jsonb.fieldText, field_durationMs, castInteger_num, if_pos hinteger]
  rw [← intervalAggregate_ok_iff plan.requiredQuestionIds hrow]
  unfold validateProofQuestionIntervals intervalBinding
  rw [hupload]
  dsimp only
  by_cases hjoin : upload.id = row.uploadSessionId ∧ db.attempt.id = row.attemptId ∧
      db.attempt.status = .processing ∧ db.isCurrent = true ∧
      upload.state = .pendingFinalization ∧ plan.requiredQuestions ≠ []
  · rw [if_pos hjoin]
    obtain ⟨hid, hattempt, hstatus, hcurrent, hstate, -⟩ := hjoin
    have hlast : Option.map (Nat.cast : ℕ → ℤ) (some (plan.questionBudget - 1)) =
        some ((plan.questionBudget : ℤ) - 1) := by
      rw [Option.map_some]
      congr 1
      omega
    simp only [henvelope, Option.map_some, field_manifest, bind_eq_ok, Domain.mapError_eq_ok,
      hcast, Except.ok.injEq, exists_eq_left', rejectIf_eq_ok, exists_const, hdistinct, hminimum,
      hmaximum, hlast, hbudget.symm, not_or, not_not, ne_eq, not_true_eq_false,
      not_false_eq_true, true_and, Option.some.injEq]
    constructor
    · rintro ⟨⟨-, hdigest, hrecorded, hintervals⟩, aggregate, haggregate, hchecks⟩
      exact ⟨hid, hattempt, hstatus, hcurrent, hstate, hdigest, hrecorded.symm, hintervals,
        aggregate, haggregate, hchecks⟩
    · rintro ⟨-, -, -, -, -, hdigest, hrecorded, hintervals, aggregate, haggregate, hchecks⟩
      exact ⟨⟨(fun h => by cases h), hdigest, hrecorded.symm, hintervals⟩, aggregate, haggregate,
        hchecks⟩
  · rw [if_neg hjoin]
    constructor
    · intro h
      cases h
    · rintro ⟨hid, hattempt, hstatus, hcurrent, hstate, -⟩
      exact absurd ⟨hid, hattempt, hstatus, hcurrent, hstate, hne⟩ hjoin

/-- What an accepted finalization leaves for the trigger to read. -/
theorem upload_of_persist {now : Domain.Timestamp} {input : PendingFinalization}
    {db db' : Evidence} (h : persistPendingUploadFinalization now true input db =
      .ok (db', false)) :
    ∃ upload, db'.upload = some upload ∧ upload.id = input.uploadSessionId ∧
      db'.attempt.id = input.attemptId ∧ db'.attempt.status = .processing ∧
      db'.isCurrent = true ∧ upload.state = .pendingFinalization ∧
      upload.manifestDigest = some input.manifestDigest ∧
      upload.finalizeEnvelope = some input.finalizeEnvelope := by
  obtain ⟨upload, -, hid, hattempt, -, hauthorized, -, ⟨hreplay, -⟩ |
    ⟨-, -, -, -, -, -, rfl⟩⟩ := persistPendingUploadFinalization_eq_ok h
  · cases hreplay
  · have hcurrent : db.isCurrent = true := by
      rw [Evidence.isAuthorized, decide_eq_true_eq] at hauthorized
      exact hauthorized.1
    refine ⟨_, rfl, hid, hattempt, rfl, ?_, rfl, rfl, rfl⟩
    simp only [Evidence.insertTransition, apply_ite Evidence.isCurrent, ite_self]
    exact hcurrent

/-- The two validators agree, for every complete plan and every envelope with the
digest and the duration that its schema lets pass: the intervals of a finalization
that the request has accepted pass the constraints and the trigger of their table
when its transaction inserts them, and the request accepts every list of objects
that the trigger lets in. -/
theorem interval_validators_agree (plan : ProofPlanRow) (hplan : CompletePlan plan)
    (finalization : FinalizeRecording)
    (hdigest : Media.Sha256Schema.accepts finalization.manifestDigest = true)
    (hduration : finalization.manifest.durationMs ≤ Media.maxRecordingDurationMs) :
    (∀ (intervals accepted : List ProofQuestionInterval) (now : Domain.Timestamp)
        (input : PendingFinalization) (db db' : Evidence),
      finalization.manifest.questionIntervals = some intervals →
      validateProofQuestionIntervalsV1 intervals plan.requiredQuestionIds
        finalization.manifest.durationMs = .ok accepted →
      input.finalizeEnvelope = finalization.toJson →
      input.manifestDigest = finalization.manifestDigest →
      input.questionIntervals = some accepted →
      input.recordingDurationMs = some finalization.manifest.durationMs →
      persistPendingUploadFinalization now true input db = .ok (db', false) →
      let row := input.intervalRow finalization.manifest.durationMs
        (Jsonb.ofJson (.arr (accepted.map ProofQuestionInterval.toJson)))
      row.checks = true ∧ validateProofQuestionIntervals plan db' row = .ok ()) ∧
    ∀ (raws : List RawQuestionInterval) (db : Evidence) (upload : UploadSession)
        (row : ProofQuestionIntervalSet),
      db.upload = some upload → upload.finalizeEnvelope = some finalization.toJson →
      row.maximumQuestionDurationMs = 120000 →
      row.intervals = .arr (raws.map RawQuestionInterval.jsonb) →
      validateProofQuestionIntervals plan db row = .ok () →
      ∃ accepted, validateRawQuestionIntervals raws plan.requiredQuestionIds
        finalization.manifest.durationMs = .ok accepted := by
  have hlimit : finalization.manifest.durationMs ≤ 480000 := hduration
  constructor
  · intro intervals accepted now input db db' hmanifest hvalidate henvelope hmine hstored
      hrecorded hpersist
    obtain ⟨rfl, hvalid⟩ := validate_eq_ok_iff.mp hvalidate
    obtain ⟨upload, hupload, hid, hattempt, hstatus, hcurrent, hstate, hbound, hjson⟩ :=
      upload_of_persist hpersist
    have hrow : Jsonb.ofJson (.arr (accepted.map ProofQuestionInterval.toJson)) =
        .arr ((accepted.map RawQuestionInterval.ofInterval).map RawQuestionInterval.jsonb) := by
      rw [Jsonb.ofJson, Jsonb.ofJsonItems_eq_map, List.map_map, List.map_map]
      rfl
    have htimeline := stored_of_accepted (fun id hmem => (hplan.ids id hmem).2) hvalid
    have hpositive : 1 ≤ finalization.manifest.durationMs := by
      obtain ⟨interval, hmem⟩ := List.exists_mem_of_length_pos hvalid.length.1
      have hinterval := accepts_interval_iff.mp (hvalid.fields interval hmem)
      have hduration := hvalid.recorded interval hmem
      omega
    have hmyDigest : Media.Sha256Schema.accepts input.manifestDigest = true := by
      rw [hmine]
      exact hdigest
    constructor
    · exact checks_of_stored hmyDigest rfl rfl rfl ⟨hpositive, hlimit⟩
        (by rw [List.length_map]; exact hvalid.length) hrow htimeline
    · refine (validateProofQuestionIntervals_ok_iff hplan hupload (hjson.trans (by rw [henvelope]))
        hrow hlimit).mpr ⟨hid, hattempt, hstatus, hcurrent, hstate, hbound, rfl, ?_, htimeline⟩
      rw [field_questionIntervals hmanifest]
      congr 1
      exact (hrow.trans (by rw [List.map_map]; rfl)).symm
  · intro raws db upload row hupload hjson hmaximum hrow htrigger
    obtain ⟨-, -, -, -, -, -, hrecorded, -, htimeline⟩ :=
      (validateProofQuestionIntervals_ok_iff hplan hupload hjson hrow hlimit).mp htrigger
    rw [hrecorded, hmaximum] at htimeline
    obtain ⟨intervals, rfl⟩ := exists_intervals_of_stored htimeline
    have hcount : plan.requiredQuestionIds.length ≤ 5 := by
      rw [ProofPlanRow.requiredQuestionIds, List.length_map]
      exact hplan.count.2
    have haccepted := accepted_of_stored hcount (fun id hmem => (hplan.ids id hmem).1)
      hplan.distinct hlimit htimeline
    refine ⟨intervals, ?_⟩
    rw [validateRawQuestionIntervals, mapM_toInterval_map]
    exact validate_eq_ok_iff.mpr ⟨rfl, haccepted⟩

/-! ## A finalization with one question -/

def sampleProofPlan : ProofPlanRow where
  questionBudget := 1
  questions := [⟨js "10000000-0000-4000-8000-000000000004", 0, true⟩]

def sampleAnswer : ProofQuestionInterval where
  schemaVersion := js "1"
  intervalVersion := js "proof-question-interval-v1"
  questionId := js "10000000-0000-4000-8000-000000000004"
  ordinal := 0
  startMs := 0
  endMs := 1000
  recordedDurationMs := 1000
  source := js "mobile_navigation_v1"

def sampleEnvelope : FinalizeRecording where
  manifest := {
    attemptId := js "a1"
    headSha := js "head"
    objectId := js "o1"
    protocolVersion := 1
    suiteId := js "suite"
    codec := js "codec"
    noncePrefixBase64url := js "nonce"
    wrapping := ⟨js "m1", js "k1", js "RSA-OAEP-256", js "wrapped"⟩
    durationMs := 1000
    totalPlaintextBytes := 10
    totalObjectBytes := 20
    questionIntervals := some [sampleAnswer]
    chunks := []
    parts := [] }
  manifestTagBase64url := js "tag"
  manifestDigest := List.replicate 64 0x61
  wrappedKey := ⟨js "m1", js "k1", js "RSA-OAEP-256", js "key", js "wrapped"⟩
  uploadedParts := []

def sampleStoring : PendingFinalization where
  uploadSessionId := js "u1"
  attemptId := js "a1"
  expectedHeadSha := js "head"
  manifestDigest := sampleEnvelope.manifestDigest
  finalizeEnvelope := sampleEnvelope.toJson
  actorId := js "author"
  idempotencyKey := js "upload-finalize:1"
  evidenceDeleteAfter := some 3600000
  questionIntervals := some [sampleAnswer]
  recordingDurationMs := some 1000

/-- An attempt whose upload has all its parts. -/
def sampleUploaded : Evidence where
  attempt := {
    id := js "a1"
    authorId := js "author"
    repositoryId := js "repository"
    headSha := js "head"
    status := .uploading
    expiresAt := 1000
    evidenceDeleteAfter := none }
  isCurrent := true
  pullRequestOpen := true
  repositoryActive := true
  installationActive := true
  upload := some {
    id := js "u1"
    objectId := js "o1"
    objectKey := js "evidence/o1"
    providerUploadId := js "p1"
    state := .active
    expiresAt := 1000
    manifestDigest := none
    finalizeEnvelope := none }
  materials := []
  intervals := none
  recording := none
  frames := []
  deletion := none
  transitions := []
  audits := []

theorem completePlan_sampleProofPlan : CompletePlan sampleProofPlan where
  count := by decide
  budget := by decide
  ordinals := by decide
  ids := by decide
  distinct := by decide

theorem interval_validators_agree_sample :
    ∃ db', persistPendingUploadFinalization 0 true sampleStoring sampleUploaded =
        .ok (db', false) ∧
      (sampleStoring.intervalRow 1000
        (Jsonb.ofJson (.arr ([sampleAnswer].map ProofQuestionInterval.toJson)))).checks = true ∧
      validateProofQuestionIntervals sampleProofPlan db' (sampleStoring.intervalRow 1000
        (Jsonb.ofJson (.arr ([sampleAnswer].map ProofQuestionInterval.toJson)))) = .ok () :=
  ⟨_, rfl, (interval_validators_agree sampleProofPlan completePlan_sampleProofPlan sampleEnvelope
    (by decide) (by decide)).1 [sampleAnswer] [sampleAnswer] 0 sampleStoring sampleUploaded _ rfl
    (by decide) rfl rfl rfl rfl rfl⟩

end Db

end UnderstandProof
