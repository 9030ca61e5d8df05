import UnderstandProof.Foundation.Json
import UnderstandProof.Worker.RetentionSafety

/-!
# The reservation of a frame

A run of `select` reads the frames of a recording, asks the storage for their objects and
deletes the rows whose objects are missing. When no frame is left it extracts one, reserves
the key of the ciphertext in a row, and puts the ciphertext into the storage. Runs interleave
with each other, with the runs that delete evidence and with every other transaction, and may
crash at any point.
-/

open Foundation

namespace UnderstandProof

namespace Worker

open Db
open Domain (Timestamp)

/-- Where a run stands. -/
inductive SelectPhase where
  /-- The objects of the rows are asked for one by one. -/
  | heading (hasAvailable : Bool) (rows : List FrameSelection)
  /-- The storage has reported the object of `row` missing. -/
  | repairing (hasAvailable : Bool) (row : FrameSelection) (rows : List FrameSelection)
  | loading
  | extracting
  /-- The insert has met a row with its identifier. -/
  | rechecking (now : Timestamp) (id objectKey : JsString)
  /-- The key is reserved, and its ciphertext not yet in the storage. -/
  | reserved (objectKey : JsString)

structure Selector where
  recordingObjectId : JsString
  phase : SelectPhase

/-- The evidence with the runs that delete it, the objects that a run has put and that
`deleteObject` has not deleted since, and the runs of `select`. -/
structure FrameSystem where
  retention : RetentionSystem
  objects : JsString → Bool
  selectors : Table ℕ Selector

inductive FrameEvent where
  | retention (event : RetentionEvent)
  | loadExistingFrames (worker : ℕ) (now : Timestamp) (recordingObjectId : JsString)
  | headObject (worker : ℕ)
  /-- The `DELETE` of `loadExistingFrames`. -/
  | repair (worker : ℕ) (now : Timestamp)
  | loadSource (worker : ℕ) (now : Timestamp)
  /-- The `INSERT` of `reserveFrameObject`, after the extraction. -/
  | insertReservation (worker : ℕ) (now : Timestamp) (id reference ciphertextSha256 : JsString)
      (timestampMs : ℕ)
  /-- The `SELECT` of `reserveFrameObject`. -/
  | recheckReservation (worker : ℕ)
  | putCiphertextObject (worker : ℕ)
  /-- The run throws, or its process dies. -/
  | crash (worker : ℕ)

/-- The attempt is processed, and its recording kept for the time that a reservation needs. -/
def recordingForFrames (now : Timestamp) (recordingObjectId : JsString) (db : Evidence) :
    Option RecordingObject :=
  db.recording.filter fun recording =>
    db.attempt.status = .processing ∧ db.isAuthorized = true ∧
      recording.id = recordingObjectId ∧ recording.deletedAt = none ∧
      now + frameReservationMinRemainingMs < recording.deleteAfter

/-- The rows that `loadExistingFrames` reads, in their order. -/
def existingFrames (recording : RecordingObject) (db : Evidence) : List FrameSelection :=
  (db.frames.filter fun frame =>
    frame.deletedAt = none ∧ frame.deleteAfter = recording.deleteAfter).insertionSort fun a b =>
      a.timestampMs < b.timestampMs ∨
        a.timestampMs = b.timestampMs ∧ JsString.notAfter a.id b.id = true

/-- `loadSource` finds the completed upload and the wrapping material of the recording. -/
def hasFrameSource (recording : RecordingObject) (db : Evidence) : Bool :=
  (db.upload.any fun upload =>
    upload.objectKey = recording.objectKey ∧ upload.state = .completed ∧
      upload.finalizeEnvelope.isSome = true) ∧
    db.materials.any fun material => material.id = recording.wrappingMaterialId

def frameObjectKey (reference ciphertextSha256 : JsString) : JsString :=
  js "provider-frame/" ++ reference ++ js "/" ++ ciphertextSha256 ++ js "/320x180"

/-- The row of the frame is there with the key that the run has made. -/
def isReserved (recording : RecordingObject) (id objectKey : JsString) (db : Evidence) : Bool :=
  db.frames.any fun frame =>
    frame.id = id ∧ frame.objectKey = objectKey ∧ frame.deletedAt = none ∧
      frame.deleteAfter = recording.deleteAfter

/-- A row that is not erased holds the key. -/
def HasFrame (db : Evidence) (key : JsString) : Prop :=
  ∃ frame ∈ db.frames, frame.deletedAt = none ∧ frame.objectKey = key

instance (db : Evidence) (key : JsString) : Decidable (HasFrame db key) :=
  inferInstanceAs (Decidable (∃ frame ∈ db.frames, frame.deletedAt = none ∧ frame.objectKey = key))

/-- After the heads, a run that has an available frame is done. -/
def afterHead (hasAvailable : Bool) : List FrameSelection → Option SelectPhase
  | [] => if hasAvailable then none else some .loading
  | rows => some (.heading hasAvailable rows)

namespace FrameSystem

def db (s : FrameSystem) : Evidence := s.retention.db

def withDb (s : FrameSystem) (db : Evidence) : FrameSystem :=
  { s with retention := { s.retention with db := db } }

/-- The run goes on, or has ended. -/
def withPhase (s : FrameSystem) (worker : ℕ) (recordingObjectId : JsString)
    (phase : Option SelectPhase) : FrameSystem :=
  { s with
    selectors := Function.update s.selectors worker
      (phase.map fun phase => { recordingObjectId := recordingObjectId, phase := phase }) }

/-- What the storage holds after a step of the runs that delete evidence. -/
def objectsAfter (s : FrameSystem) : RetentionEvent → JsString → Bool
  | .deleteObject worker =>
      match (s.retention.working worker).map Deleter.keys with
      | some (key :: _) => Function.update s.objects key false
      | _ => s.objects
  | _ => s.objects

/-- The transactions that are steps of the runs of `select`. -/
def isSelectEvent : RetentionEvent → Bool
  | .database (.reserveFrame ..) => true
  | .database (.repairFrame ..) => true
  | _ => false

def loadExistingFrames (s : FrameSystem) (worker : ℕ) (now : Timestamp)
    (recordingObjectId : JsString) : FrameSystem :=
  match recordingForFrames now recordingObjectId s.db with
  | none => s
  | some recording =>
      s.withPhase worker recordingObjectId (afterHead false (existingFrames recording s.db))

/-- A `DELETE` that hits no row is an error. -/
def repair (s : FrameSystem) (worker : ℕ) (now : Timestamp) (recordingObjectId : JsString)
    (hasAvailable : Bool) (row : FrameSelection) (rows : List FrameSelection) : FrameSystem :=
  match repairFrame now row.id row.objectKey recordingObjectId s.db with
  | none => s.withPhase worker recordingObjectId none
  | some db =>
      (s.withDb db).withPhase worker recordingObjectId
        (if db.frames.length + 1 = s.db.frames.length then afterHead hasAvailable rows else none)

def loadSource (s : FrameSystem) (worker : ℕ) (now : Timestamp) (recordingObjectId : JsString) :
    FrameSystem :=
  s.withPhase worker recordingObjectId
    (if (recordingForFrames now recordingObjectId s.db).any (hasFrameSource · s.db) then
      some .extracting
    else none)

def insertReservation (s : FrameSystem) (worker : ℕ) (now : Timestamp)
    (id objectKey recordingObjectId : JsString) (timestampMs : ℕ) : FrameSystem :=
  match reserveFrameObject now id objectKey recordingObjectId timestampMs s.db with
  | none => s.withPhase worker recordingObjectId (some (.rechecking now id objectKey))
  | some db => (s.withDb db).withPhase worker recordingObjectId (some (.reserved objectKey))

def recheckReservation (s : FrameSystem) (worker : ℕ) (now : Timestamp)
    (id objectKey recordingObjectId : JsString) : FrameSystem :=
  s.withPhase worker recordingObjectId
    (if (recordingForFrames now recordingObjectId s.db).any
        (isReserved · id objectKey s.db) then some (.reserved objectKey)
    else none)

def putCiphertextObject (s : FrameSystem) (worker : ℕ) (objectKey recordingObjectId : JsString) :
    FrameSystem :=
  { s with objects := Function.update s.objects objectKey true }.withPhase worker
    recordingObjectId none

/-- The step of a run from its phase, or `none` when the event does not apply. -/
def nextPhase (s : FrameSystem) (recordingObjectId : JsString) :
    SelectPhase → FrameEvent → Option FrameSystem
  | .heading hasAvailable (row :: rows), .headObject worker =>
      some (s.withPhase worker recordingObjectId
        (if s.objects row.objectKey then afterHead true rows
        else some (.repairing hasAvailable row rows)))
  | .repairing hasAvailable row rows, .repair worker now =>
      some (s.repair worker now recordingObjectId hasAvailable row rows)
  | .loading, .loadSource worker now => some (s.loadSource worker now recordingObjectId)
  | .extracting, .insertReservation worker now id reference ciphertextSha256 timestampMs =>
      some (s.insertReservation worker now id (frameObjectKey reference ciphertextSha256)
        recordingObjectId timestampMs)
  | .rechecking now id objectKey, .recheckReservation worker =>
      some (s.recheckReservation worker now id objectKey recordingObjectId)
  | .reserved objectKey, .putCiphertextObject worker =>
      some (s.putCiphertextObject worker objectKey recordingObjectId)
  | _, .crash worker => some (s.withPhase worker recordingObjectId none)
  | _, _ => none

/-- The run whose step an event is, and the clock reading it goes by. -/
def selectorOf : FrameEvent → Option (ℕ × Option Timestamp)
  | .retention _ => none
  | .loadExistingFrames .. => none
  | .headObject worker => some (worker, none)
  | .repair worker now => some (worker, some now)
  | .loadSource worker now => some (worker, some now)
  | .insertReservation worker now _ _ _ _ => some (worker, some now)
  | .recheckReservation worker => some (worker, none)
  | .putCiphertextObject worker => some (worker, none)
  | .crash worker => some (worker, none)

/-- The step, or `none` when the event does not apply. -/
def next (s : FrameSystem) : FrameEvent → Option FrameSystem
  | .retention event =>
      if isSelectEvent event then none
      else
        (s.retention.next event).map fun retention =>
          { s with retention := retention, objects := s.objectsAfter event }
  | .loadExistingFrames worker now recordingObjectId =>
      if (s.selectors worker).isNone = true ∧ now ≤ s.retention.clock then
        some (s.loadExistingFrames worker now recordingObjectId)
      else none
  | event =>
      match selectorOf event with
      | none => none
      | some (worker, reading) =>
          if reading.all (· ≤ s.retention.clock) then
            (s.selectors worker).bind fun selector =>
              s.nextPhase selector.recordingObjectId selector.phase event
          else none

def step (s : FrameSystem) (event : FrameEvent) : FrameSystem := (s.next event).getD s

/-- Before the handoff of an attempt, with no object and no run. -/
def start (attemptId authorId repositoryId headSha : JsString) (expiresAt clock : Timestamp) :
    FrameSystem where
  retention := RetentionSystem.start attemptId authorId repositoryId headSha expiresAt clock
  objects := fun _ => false
  selectors := fun _ => none

/-- A run stands between the reservation of the key and its PUT. -/
def Reserves (s : FrameSystem) (key : JsString) : Prop :=
  ∃ worker selector, s.selectors worker = some selector ∧ selector.phase = .reserved key

/-- No row is repaired whose object the storage has got since, or is still to get from a run
that has reserved its key; no key is reserved while a deletion holds a plan; and a deletion
deletes no object whose key a run has reserved and not yet put. -/
def KeepsFrames (s : FrameSystem) : FrameEvent → Prop
  | .repair worker _ =>
      ∀ recordingObjectId hasAvailable row rows,
        s.selectors worker = some ⟨recordingObjectId, .repairing hasAvailable row rows⟩ →
          s.objects row.objectKey = false ∧ ¬ s.Reserves row.objectKey
  | .insertReservation .. => ∀ worker, s.retention.deleters worker = none
  | .recheckReservation _ => ∀ worker, s.retention.deleters worker = none
  | .retention (.deleteObject worker) =>
      ∀ deleter key keys, s.retention.deleters worker = some deleter →
        deleter.keys = key :: keys → ¬ s.Reserves key
  | _ => True

/-! ## What must not be lost -/

/-- The storage has the object, or is still to get it from a run that has reserved its key. -/
def Held (s : FrameSystem) (key : JsString) : Prop := s.objects key = true ∨ s.Reserves key

/-- What is held has its row, and is in what is left of every plan. -/
structure Accounted (s : FrameSystem) : Prop where
  row : ∀ key, s.Held key → HasFrame s.db key
  planned : ∀ worker deleter, s.retention.deleters worker = some deleter →
    ∀ key, s.Held key → key ∈ deleter.keys

section Steps

variable {s t : FrameSystem} {worker : ℕ} {now : Timestamp} {db db' : Evidence} {key : JsString}
  {recordingObjectId id objectKey : JsString} {phase : Option SelectPhase}

theorem hasFrame_of_frames (h : HasFrame db key) (hframes : db'.frames = db.frames) :
    HasFrame db' key := by
  unfold HasFrame
  rw [hframes]
  exact h

theorem live_of_hasFrame (h : HasFrame db key) : key ∈ liveObjectKeys db := by
  obtain ⟨frame, hframe, hlive, hkey⟩ := h
  exact mem_liveObjectKeys.mpr (.inr (.inl ⟨frame, hframe, hlive, hkey⟩))

/-- Only the steps of the runs and the completion of a deletion touch the frames. -/
theorem frames_of_next {event : EvidenceEvent}
    (hselect : isSelectEvent (.database event) = false) (hdeleter : isDeleterEvent event = false)
    (h : nextEvidence db event = some db') : db'.frames = db.frames := by
  have hstep : stepEvidence db event = db' := by
    unfold stepEvidence
    rw [h]
    rfl
  have hartifacts : writesArtifacts event = false → db'.frames = db.frames := fun hwrites =>
    hstep ▸ congrArg Prod.snd (artifacts_of_stepEvidence hwrites)
  cases event with
  | validate now input =>
      simp only [nextEvidence] at h
      unfold persistValidatedRecording at h
      split at h
      · split at h
        · split at h
          · cases h
            rfl
          · split at h
            · cases h
              rfl
            · cases h
        · cases h
      · cases h
  | reserveFrame now id objectKey recordingObjectId timestampMs => cases hselect
  | repairFrame now id objectKey recordingObjectId => cases hselect
  | completeDeletion now plan => cases hdeleter
  | issueMaterial now id objectId keyId algorithm => exact hartifacts rfl
  | createUpload now id objectId objectKey providerUploadId => exact hartifacts rfl
  | finalize now storable input => exact hartifacts rfl
  | refuse now uploadSessionId materialId => exact hartifacts rfl
  | reserveAbort command => exact hartifacts rfl
  | abort now command => exact hartifacts rfl
  | reserveExpiry now expectedHeadSha => exact hartifacts rfl
  | expire now expectedHeadSha idempotencyKey => exact hartifacts rfl
  | snapshot isCurrent pullRequestOpen => exact hartifacts rfl
  | advance status => exact hartifacts rfl
  | approve now jobId idempotencyKey accelerates => exact hartifacts rfl
  | sweep now staleBefore jobId selected => exact hartifacts rfl
  | claimDeletion now deletionJobId => exact hartifacts rfl
  | failDeletion now plan errorClass => exact hartifacts rfl

namespace Accounted

/-- A step that keeps the frames and the plans, and lets nothing new be held. -/
theorem of_frames (h : s.Accounted) (hframes : t.db.frames = s.db.frames)
    (hheld : ∀ key, t.Held key → s.Held key)
    (hplans : ∀ worker deleter', t.retention.deleters worker = some deleter' →
      ∃ deleter, s.retention.deleters worker = some deleter ∧ deleter'.keys = deleter.keys) :
    t.Accounted where
  row := fun key hkey => hasFrame_of_frames (h.row key (hheld key hkey)) hframes
  planned := by
    intro worker deleter' hdeleter' key hkey
    obtain ⟨deleter, hdeleter, hkeys⟩ := hplans worker deleter' hdeleter'
    rw [hkeys]
    exact h.planned worker deleter hdeleter key (hheld key hkey)

end Accounted

theorem reserves_withPhase (h : (s.withPhase worker recordingObjectId phase).Reserves key) :
    phase = some (.reserved key) ∨ s.Reserves key := by
  obtain ⟨other, selector, hfound, hphase⟩ := h
  change Function.update s.selectors worker _ other = some selector at hfound
  rw [Function.update_apply] at hfound
  split at hfound
  · obtain ⟨phase', rfl, rfl⟩ := Option.map_eq_some_iff.mp hfound
    exact .inl (congrArg some hphase)
  · exact .inr ⟨other, selector, hfound, hphase⟩

/-- A run goes on; it may stand reserved when the row is there and no plan is held. -/
theorem Accounted.withPhase (h : s.Accounted)
    (hphase : ∀ key, phase = some (.reserved key) →
      HasFrame s.db key ∧ ∀ worker, s.retention.deleters worker = none) :
    (s.withPhase worker recordingObjectId phase).Accounted where
  row := by
    rintro key (hobject | hreserves)
    · exact h.row key (.inl hobject)
    · rcases reserves_withPhase hreserves with hnew | hold
      · exact (hphase key hnew).1
      · exact h.row key (.inr hold)
  planned := by
    rintro other deleter hdeleter key (hobject | hreserves)
    · exact h.planned other deleter hdeleter key (.inl hobject)
    · rcases reserves_withPhase hreserves with hnew | hold
      · exact nomatch ((hphase key hnew).2 other).symm.trans hdeleter
      · exact h.planned other deleter hdeleter key (.inr hold)

theorem afterHead_ne_reserved {hasAvailable : Bool} {rows : List FrameSelection} :
    afterHead hasAvailable rows ≠ some (.reserved key) := by
  unfold afterHead
  split
  · split <;> simp
  · simp

theorem accounted_loadExistingFrames (h : s.Accounted) :
    (s.loadExistingFrames worker now recordingObjectId).Accounted := by
  unfold loadExistingFrames
  split
  · exact h
  · exact h.withPhase fun key heq => absurd heq afterHead_ne_reserved

theorem accounted_headObject {hasAvailable : Bool} {row : FrameSelection}
    {rows : List FrameSelection} (h : s.Accounted) :
    (s.withPhase worker recordingObjectId
      (if s.objects row.objectKey then afterHead true rows
      else some (.repairing hasAvailable row rows))).Accounted := by
  refine h.withPhase fun key heq => ?_
  split at heq
  · exact absurd heq afterHead_ne_reserved
  · cases heq

/-- A repair deletes the row of a key that is not held. -/
theorem accounted_repair {hasAvailable : Bool} {row : FrameSelection} {rows : List FrameSelection}
    (h : s.Accounted) (hheld : ¬ s.Held row.objectKey) :
    (s.repair worker now recordingObjectId hasAvailable row rows).Accounted := by
  unfold repair
  split
  · exact h.withPhase fun key heq => nomatch heq
  · next db hrepaired =>
    have hdb : (s.withDb db).Accounted := by
      refine ⟨fun key hkey => ?_, h.planned⟩
      obtain ⟨frame, hframe, hlive, hframeKey⟩ := h.row key hkey
      unfold repairFrame at hrepaired
      split at hrepaired
      · cases hrepaired
      · split at hrepaired
        · cases hrepaired
          refine ⟨frame, List.mem_filter.mpr ⟨hframe, ?_⟩, hlive, hframeKey⟩
          rw [decide_eq_true_eq]
          rintro ⟨-, hsame, -⟩
          exact hheld (hsame ▸ hframeKey ▸ hkey)
        · cases hrepaired
    refine hdb.withPhase fun key heq => ?_
    split at heq
    · exact absurd heq afterHead_ne_reserved
    · cases heq

theorem accounted_insertReservation {timestampMs : ℕ} (h : s.Accounted)
    (hplans : ∀ worker, s.retention.deleters worker = none) :
    (s.insertReservation worker now id objectKey recordingObjectId timestampMs).Accounted := by
  unfold insertReservation
  split
  · exact h.withPhase fun key heq => nomatch heq
  · next db hreserved =>
    unfold reserveFrameObject at hreserved
    split at hreserved
    · cases hreserved
    · split at hreserved
      · cases hreserved
        refine Accounted.withPhase ⟨fun key hkey => ?_, h.planned⟩ fun key heq => ⟨?_, hplans⟩
        · obtain ⟨frame, hframe, hlive, hframeKey⟩ := h.row key hkey
          exact ⟨frame, List.mem_append_left _ hframe, hlive, hframeKey⟩
        · cases heq
          exact ⟨_, List.mem_append_right _ (List.mem_singleton_self _), rfl, rfl⟩
      · cases hreserved

theorem accounted_recheckReservation (h : s.Accounted)
    (hplans : ∀ worker, s.retention.deleters worker = none) :
    (s.recheckReservation worker now id objectKey recordingObjectId).Accounted := by
  refine h.withPhase fun key heq => ⟨?_, hplans⟩
  split at heq
  · next hfound =>
    cases heq
    obtain ⟨recording, -, hreserved⟩ := (Option.any_eq_true ..).mp hfound
    obtain ⟨frame, hframe, hsame⟩ := List.any_eq_true.mp hreserved
    rw [decide_eq_true_eq] at hsame
    obtain ⟨-, hkey, hlive, -⟩ := hsame
    exact ⟨frame, hframe, hlive, hkey⟩
  · cases heq

/-! ## Beside the deletion of evidence -/

/-- Every plan is what a run had before. -/
def KeepsKeys (before after : RetentionSystem) : Prop :=
  ∀ worker deleter', after.deleters worker = some deleter' →
    ∃ deleter, before.deleters worker = some deleter ∧ deleter'.keys = deleter.keys

section Plans

variable {before : RetentionSystem} {deleter deleter' : Deleter}

theorem KeepsKeys.refl : KeepsKeys before before := fun _ deleter h => ⟨deleter, h, rfl⟩

theorem keepsKeys_withDeleter (hfound : before.deleters worker = some deleter)
    (hkeys : deleter'.keys = deleter.keys) :
    KeepsKeys before (before.withDeleter worker deleter') := by
  intro other found h
  rcases Table.eq_or_of_set h with ⟨rfl, rfl⟩ | hkept
  · exact ⟨deleter, hfound, hkeys⟩
  · exact ⟨found, hkept, rfl⟩

theorem keepsKeys_withoutDeleter : KeepsKeys before (before.withoutDeleter worker) := by
  intro other found h
  change Function.update before.deleters worker none other = some found at h
  rw [Function.update_apply] at h
  split at h
  · cases h
  · exact ⟨found, h, rfl⟩

end Plans

/-- A step that keeps the frames, the plans and the objects. -/
theorem Accounted.retention {retention : RetentionSystem} (h : s.Accounted)
    (hframes : retention.db.frames = s.retention.db.frames)
    (hplans : KeepsKeys s.retention retention) :
    ({ s with retention := retention } : FrameSystem).Accounted :=
  h.of_frames hframes (fun _ hkey => hkey) hplans

theorem accounted_claim {deletionJobId : JsString} (h : s.Accounted) :
    ({ s with retention := s.retention.claim worker now deletionJobId } : FrameSystem).Accounted := by
  have hframes : (claimDeletion now deletionJobId s.retention.db).1.frames =
      s.retention.db.frames := congrArg Prod.snd artifacts_of_claimDeletion
  unfold RetentionSystem.claim
  split
  · next db plan hclaim =>
    rw [hclaim] at hframes
    refine ⟨fun key hkey => hasFrame_of_frames (h.row key hkey) hframes, ?_⟩
    intro other deleter hdeleter key hkey
    rcases Table.eq_or_of_set hdeleter with ⟨rfl, rfl⟩ | hkept
    · -- the plan holds every live key, those of the frames among them
      rw [List.mem_dedup, (RetentionSystem.claimDeletion_plan hclaim).2]
      exact live_of_hasFrame (hasFrame_of_frames (h.row key hkey) hframes)
    · exact h.planned other deleter hkept key hkey
  · next db hclaim =>
    rw [hclaim] at hframes
    exact h.retention hframes .refl

/-- A deletion of an object that no run is about to put. -/
theorem accounted_deleteObject {deleter : Deleter} {keys : List JsString} (h : s.Accounted)
    (hfound : s.retention.deleters worker = some deleter) (hkeys : deleter.keys = key :: keys)
    (hreserves : ¬ s.Reserves key) :
    ({ s with
        retention := { s.retention with
          gone := Function.update s.retention.gone key true }.withDeleter worker
            { deleter with keys := keys }
        objects := Function.update s.objects key false } : FrameSystem).Accounted := by
  have hheld : ∀ other, (Function.update s.objects key false other = true ∨ s.Reserves other) →
      s.Held other ∧ other ≠ key := by
    rintro other (hobject | hother)
    · rw [Function.update_apply] at hobject
      split at hobject
      · cases hobject
      · next hne => exact ⟨.inl hobject, hne⟩
    · exact ⟨.inr hother, fun heq => hreserves (heq ▸ hother)⟩
  refine ⟨fun other hother => h.row other (hheld other hother).1, ?_⟩
  intro other found hdeleter held hkey
  obtain ⟨hbefore, hne⟩ := hheld held hkey
  rcases Table.eq_or_of_set hdeleter with ⟨rfl, rfl⟩ | hkept
  · have hmem := h.planned other deleter hfound held hbefore
    rw [hkeys, List.mem_cons] at hmem
    exact hmem.resolve_left hne
  · exact h.planned other found hkept held hbefore

/-- When a deletion is completed nothing is held. -/
theorem accounted_complete {deleter : Deleter} {acknowledged : Bool} (h : s.Accounted)
    (hfound : s.retention.deleters worker = some deleter) (hkeys : deleter.keys = []) :
    ({ s with retention := s.retention.complete worker now acknowledged deleter } :
      FrameSystem).Accounted := by
  have hnothing : ∀ key, ¬ s.Held key := by
    intro key hkey
    have hmem := h.planned worker deleter hfound key hkey
    rw [hkeys] at hmem
    cases hmem
  exact ⟨fun key hkey => absurd hkey (hnothing key),
    fun _ _ _ key hkey => absurd hkey (hnothing key)⟩

theorem accounted_retention {event : RetentionEvent} {retention : RetentionSystem}
    (h : s.Accounted) (hevent : s.KeepsFrames (.retention event))
    (hselect : isSelectEvent event = false) (hnext : s.retention.next event = some retention) :
    ({ s with retention := retention, objects := s.objectsAfter event } :
      FrameSystem).Accounted := by
  cases event with
  | tick now =>
      simp only [RetentionSystem.next, Option.ite_none_right_eq_some] at hnext
      cases hnext.2
      exact h.retention rfl .refl
  | database event =>
      simp only [RetentionSystem.next, Option.ite_none_right_eq_some,
        Option.map_eq_some_iff] at hnext
      obtain ⟨⟨hdeleter, -⟩, db, hdb, rfl⟩ := hnext
      exact h.retention (frames_of_next hselect hdeleter hdb) .refl
  | claim worker now deletionJobId =>
      simp only [RetentionSystem.next, Option.ite_none_right_eq_some] at hnext
      cases hnext.2
      exact accounted_claim h
  | abortMultipartUpload worker =>
      simp only [RetentionSystem.next, Option.bind_eq_some_iff] at hnext
      obtain ⟨deleter, hworking, hnext⟩ := hnext
      unfold RetentionSystem.abortMultipartUpload at hnext
      split at hnext
      · cases hnext
      · cases hnext
        exact h.retention rfl
          (keepsKeys_withDeleter (RetentionSystem.working_eq_some.mp hworking).1 rfl)
  | deleteObject worker =>
      simp only [RetentionSystem.next, Option.bind_eq_some_iff] at hnext
      obtain ⟨deleter, hworking, hnext⟩ := hnext
      obtain ⟨key, keys, hkeys, rfl⟩ := RetentionSystem.deleteObject_eq_some hnext
      have hfound := (RetentionSystem.working_eq_some.mp hworking).1
      have hobjects : s.objectsAfter (.deleteObject worker) =
          Function.update s.objects key false := by
        simp [objectsAfter, hworking, hkeys]
      rw [hobjects]
      exact accounted_deleteObject h hfound hkeys (hevent deleter key keys hfound hkeys)
  | error worker =>
      simp only [RetentionSystem.next, Option.map_eq_some_iff] at hnext
      obtain ⟨deleter, hworking, rfl⟩ := hnext
      exact h.retention rfl
        (keepsKeys_withDeleter (RetentionSystem.working_eq_some.mp hworking).1 rfl)
  | complete worker now acknowledged =>
      simp only [RetentionSystem.next, Option.map_eq_some_iff] at hnext
      obtain ⟨deleter, hfilter, rfl⟩ := hnext
      obtain ⟨hworking, hdone⟩ := Option.filter_eq_some_iff.mp hfilter
      rw [decide_eq_true_eq] at hdone
      exact accounted_complete h (RetentionSystem.working_eq_some.mp hworking).1 hdone.2.1
  | fail worker now errorClass =>
      simp only [RetentionSystem.next, Option.map_eq_some_iff] at hnext
      obtain ⟨deleter, -, rfl⟩ := hnext
      exact h.retention (congrArg Prod.snd artifacts_of_failDeletion) keepsKeys_withoutDeleter
  | crash worker =>
      simp only [RetentionSystem.next, Option.map_eq_some_iff] at hnext
      obtain ⟨deleter, -, rfl⟩ := hnext
      exact h.retention rfl keepsKeys_withoutDeleter

/-- A PUT stores what its run has reserved. -/
theorem accounted_putCiphertextObject {selector : Selector} (h : s.Accounted)
    (hfound : s.selectors worker = some selector) (hphase : selector.phase = .reserved objectKey) :
    (s.putCiphertextObject worker objectKey recordingObjectId).Accounted := by
  refine h.of_frames rfl (fun key hkey => ?_) KeepsKeys.refl
  rcases hkey with hobject | hreserves
  · change Function.update s.objects objectKey true key = true at hobject
    rw [Function.update_apply] at hobject
    split at hobject
    · next heq => exact .inr ⟨worker, selector, hfound, heq ▸ hphase⟩
    · exact .inl hobject
  · exact .inr ((reserves_withPhase hreserves).resolve_left fun heq => nomatch heq)

/-- The step of a run, from the phase in which it stands. -/
theorem next_of_selector {event : FrameEvent} {reading : Option Timestamp}
    (hselector : selectorOf event = some (worker, reading)) (h : s.next event = some t) :
    ∃ selector, s.selectors worker = some selector ∧
      s.nextPhase selector.recordingObjectId selector.phase event = some t := by
  have hrun : s.next event =
      (if reading.all (· ≤ s.retention.clock) then
        (s.selectors worker).bind fun selector =>
          s.nextPhase selector.recordingObjectId selector.phase event
      else none) := by
    cases event with
    | retention event => cases hselector
    | loadExistingFrames worker now recordingObjectId => cases hselector
    | _ =>
        cases hselector
        rfl
  rw [hrun, Option.ite_none_right_eq_some, Option.bind_eq_some_iff] at h
  exact h.2

theorem accounted_nextPhase {event : FrameEvent} {reading : Option Timestamp}
    {selector : Selector} (h : s.Accounted) (hevent : s.KeepsFrames event)
    (hselector : selectorOf event = some (worker, reading))
    (hfound : s.selectors worker = some selector)
    (hnext : s.nextPhase selector.recordingObjectId selector.phase event = some t) :
    t.Accounted := by
  obtain ⟨recordingObjectId, phase⟩ := selector
  dsimp only at hnext
  unfold nextPhase at hnext
  split at hnext
  · cases hnext
    exact accounted_headObject h
  · cases hselector
    cases hnext
    obtain ⟨hobject, hreserves⟩ := hevent _ _ _ _ hfound
    refine accounted_repair h fun hheld => hheld.elim (fun hput => ?_) hreserves
    exact nomatch hobject.symm.trans hput
  · cases hnext
    refine h.withPhase fun key heq => ?_
    split at heq <;> cases heq
  · cases hnext
    exact accounted_insertReservation h hevent
  · cases hnext
    exact accounted_recheckReservation h hevent
  · cases hselector
    cases hnext
    exact accounted_putCiphertextObject h hfound rfl
  · cases hnext
    exact h.withPhase fun key heq => nomatch heq
  · cases hnext

/-- Every step that keeps the frames keeps what is held accounted for. -/
theorem accounted_step {event : FrameEvent} (h : s.Accounted) (hevent : s.KeepsFrames event) :
    (s.step event).Accounted := by
  unfold step
  cases hnext : s.next event with
  | none => exact h
  | some t =>
      have hrun : ∀ worker reading, selectorOf event = some (worker, reading) → t.Accounted := by
        intro worker reading hselector
        obtain ⟨selector, hfound, hphase⟩ := next_of_selector hselector hnext
        exact accounted_nextPhase h hevent hselector hfound hphase
      rw [Option.getD_some]
      cases event with
      | retention event =>
          simp only [next, Option.ite_none_left_eq_some, Option.map_eq_some_iff,
            Bool.not_eq_true] at hnext
          obtain ⟨hselect, retention, hretention, rfl⟩ := hnext
          exact accounted_retention h hevent hselect hretention
      | loadExistingFrames worker now recordingObjectId =>
          simp only [next, Option.ite_none_right_eq_some] at hnext
          cases hnext.2
          exact accounted_loadExistingFrames h
      | headObject worker => exact hrun worker none rfl
      | repair worker now => exact hrun worker (some now) rfl
      | loadSource worker now => exact hrun worker (some now) rfl
      | insertReservation worker now id reference ciphertextSha256 timestampMs =>
          exact hrun worker (some now) rfl
      | recheckReservation worker => exact hrun worker none rfl
      | putCiphertextObject worker => exact hrun worker none rfl
      | crash worker => exact hrun worker none rfl

end Steps

/-! ## Histories -/

section Histories

variable (attemptId authorId repositoryId headSha : JsString) (expiresAt clock : Timestamp)

/-- The system after a history. -/
def framesAfter (events : List FrameEvent) : FrameSystem :=
  after FrameSystem.step (start attemptId authorId repositoryId headSha expiresAt clock) events

variable {attemptId authorId repositoryId headSha expiresAt clock}

theorem accounted_start :
    (start attemptId authorId repositoryId headSha expiresAt clock).Accounted where
  row := by
    rintro key (hobject | ⟨worker, selector, hfound, -⟩)
    · cases hobject
    · cases hfound
  planned := fun _ _ hdeleter => nomatch hdeleter

variable (attemptId authorId repositoryId headSha expiresAt clock)

end Histories

/-! ## One history -/

section Samples

/-- An attempt up to its recording. -/
def sampleRecorded : List FrameEvent :=
  (RetentionSystem.sampleUpload ++
    [RetentionEvent.database (.finalize 2 true FinalizerSystem.samplePending),
      .database (.validate 3 sampleRecording)]).map .retention

/-- A run up to its reservation. -/
def sampleReservation : List FrameEvent :=
  [.loadExistingFrames 0 5 (js "r1"), .loadSource 0 5,
    .insertReservation 0 5 (js "f1") (js "reference") (js "sha256") 100]

def sampleFrameKey : JsString := frameObjectKey (js "reference") (js "sha256")

def sampleFrames (events : List FrameEvent) : FrameSystem :=
  framesAfter (js "a1") (js "author") (js "repository") (js "head") 28800000 10
    (sampleRecorded ++ sampleReservation ++ events)

end Samples

end FrameSystem

end Worker

end UnderstandProof
