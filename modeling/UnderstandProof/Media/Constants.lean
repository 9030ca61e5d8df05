import UnderstandProof.Foundation.Except
import UnderstandProof.Foundation.JsString

/-!
# Constants and errors of the recording protocol
-/

open Foundation

namespace UnderstandProof

namespace Media

/-- The bytes of a `Uint8Array`. -/
abbrev Bytes := List UInt8

def recordingSuiteId : JsString := js "SP-RC1"
def recordingProtocolVersion : ℕ := 1
def recordMagic : JsString := js "SPC1"
def recordVersion : ℕ := 1
def recordHeaderBytes : ℕ := 32
def aesGcmTagBytes : ℕ := 16
def aesGcmNonceBytes : ℕ := 12
def noncePrefixBytes : ℕ := 8

def recordingCodec : JsString := js "video/webm;codecs=vp8,opus"
def wrappingAlgorithm : JsString := js "RSA-OAEP-256"
def kdfDomain : JsString := js "slopproof-recording-kdf"
def chunkAadDomain : JsString := js "slopproof-recording-chunk"
def manifestDomain : JsString := js "slopproof-recording-manifest"

def s3MinimumNonfinalPartBytes : ℕ := 5 * 1024 * 1024
def multipartTargetBytes : ℕ := 8 * 1024 * 1024
def maxPlaintextChunkBytes : ℕ := 4 * 1024 * 1024
def maxEncryptedBufferBytes : ℕ := 16 * 1024 * 1024
def maxRecordingChunks : ℕ := 1024
def maxMultipartParts : ℕ := 32
def maxRecordingObjectBytes : ℕ := 128 * 1024 * 1024
def maxRecordingDurationMs : ℕ := 8 * 60 * 1000

def maxUint32 : ℕ := 0xffffffff

inductive RecordingProtocolErrorCode where
  | invalidSchema
  | invalidKey
  | invalidNonce
  | invalidRecord
  | authenticationFailed
  | invalidManifest
  | limitExceeded
  | multipartMismatch
  deriving DecidableEq, Repr

structure RecordingProtocolError where
  code : RecordingProtocolErrorCode
  message : String
  deriving DecidableEq, Repr

/-- What the functions of the package throw: their own error, an error of the
schema library, or a plain `Error`. -/
inductive Thrown where
  | protocol (error : RecordingProtocolError)
  | zod
  | error (message : String)
  deriving DecidableEq, Repr

/-- Runs a step that throws protocol errors only. -/
def orThrow {α : Type} : Except RecordingProtocolError α → Except Thrown α :=
  Except.mapError Thrown.protocol

@[simp] theorem orThrow_ok {α : Type} (a : α) : orThrow (.ok a) = .ok a := rfl

@[simp] theorem orThrow_error {α : Type} (e : RecordingProtocolError) :
    orThrow (.error e : Except _ α) = .error (.protocol e) := rfl

theorem orThrow_eq_ok {α : Type} {x : Except RecordingProtocolError α} {a : α} :
    orThrow x = .ok a ↔ x = .ok a := by
  cases x with
  | error e => simp
  | ok b => simp

end Media

end UnderstandProof
