import UnderstandProof.Foundation.JsonText
import UnderstandProof.Foundation.Sections
import UnderstandProof.Foundation.Text

/-!
# The hunks of a patch

`parsePatchHunks` of the generation context and `parseAnchors` of the analysis
read a patch line by line: a hunk header opens a hunk, the other lines belong to
the open one. Both count the lines that start with a plus or a minus sign and
leave out those that look like a file header, `+++` or `---`.
-/

open Foundation Foundation.JsString

namespace UnderstandProof

namespace Analysis

/-- `line.startsWith(text)` -/
def startsWith (text line : JsString) : Bool := text.isPrefixOf line

/-- `.` in a regular expression stops at these. -/
def isLineTerminator (c : UInt16) : Bool :=
  c == 0x0a || c == 0x0d || c == 0x2028 || c == 0x2029

/-- What is left behind a fixed text. -/
def skip (text line : JsString) : Option JsString :=
  if startsWith text line then some (line.drop text.length) else none

/-- `(\d+)` at the front, and what is left behind it. -/
def digits (line : JsString) : Option (JsString × JsString) :=
  if line.takeWhile Json.isDigit = [] then none
  else some (line.takeWhile Json.isDigit, line.dropWhile Json.isDigit)

/-- `(?:,\d+)?` at the front. -/
def optionalCount (line : JsString) : JsString :=
  match (skip (js ",") line).bind digits with
  | some (_, rest) => rest
  | none => line

/-- The two captured numbers of `HUNK_HEADER_PATTERN` and `HUNK_PATTERN`, which
differ in a flag and a capture that is not read. -/
def matchHunkHeader (line : JsString) : Option (JsString × JsString) := do
  let line ← skip (js "@@ -") line
  let (oldStart, line) ← digits line
  let line ← skip (js " +") (optionalCount line)
  let (newStart, line) ← digits line
  let line ← skip (js " @@") (optionalCount line)
  if line.any isLineTerminator then none else some (oldStart, newStart)

/-- `Number` of decimal digits: the nearest double, to even in a tie; `none` is
`Infinity`. -/
def number (text : JsString) : Option ℕ :=
  let n := text.foldl (fun value c => 10 * value + (c.toNat - 0x30)) 0
  let unit := 2 ^ (Nat.log2 n - 52)
  let up := unit < 2 * (n % unit) ∨ (unit = 2 * (n % unit) ∧ n / unit % 2 = 1)
  let rounded := (if up then n / unit + 1 else n / unit) * unit
  if rounded < 2 ^ 1024 then some rounded else none

def isAddition (line : JsString) : Bool :=
  startsWith (js "+") line && !startsWith (js "+++") line

def isDeletion (line : JsString) : Bool :=
  startsWith (js "-") line && !startsWith (js "---") line

/-! ## The generation context -/

structure PatchHunk where
  content : JsString
  byteLength : ℕ
  additions : ℕ
  deletions : ℕ
  header : JsString
  oldStart : Option ℕ
  newStart : Option ℕ
  changedLines : List JsString
  deriving DecidableEq, Repr

/-- `flush` of `parsePatchHunks`, for an open hunk. -/
def pushHunk (hunks : List PatchHunk) (current : List JsString) : List PatchHunk :=
  let content := joinLines current
  let header := current.headD []
  match matchHunkHeader header with
  | none => hunks
  | some (oldStart, newStart) =>
      let body := current.drop 1
      hunks ++ [{
        content
        byteLength := utf8Bytes content
        additions := (body.filter isAddition).length
        deletions := (body.filter isDeletion).length
        header
        oldStart := number oldStart
        newStart := number newStart
        changedLines := (body.filter fun line => isAddition line || isDeletion line).map
          fun line => line.drop 1 }]

def hunkReader : SectionReader JsString (List JsString) (List PatchHunk) where
  start := fun line => if (matchHunkHeader line).isSome then some [line] else none
  add := fun current line => current ++ [line]
  emit := pushHunk

def parsePatchHunks (patch : JsString) : List PatchHunk := hunkReader.run [] (lines patch)

/-! ## The analysis -/

inductive PatchFileKind where
  | text
  | binary
  | symlink
  deriving DecidableEq, Repr

structure PatchFile where
  path : JsString
  kind : PatchFileKind
  patch : Option JsString
  deriving DecidableEq, Repr

structure DiffAnchor where
  id : JsString
  file : JsString
  hunkHeader : JsString
  oldStart : Option ℕ
  newStart : Option ℕ
  changedLines : ℕ
  evidence : JsString
  deriving DecidableEq, Repr

def compactEvidence (changed : List JsString) : JsString :=
  let evidence := (js " | ").intercalate
    (((changed.map trim).filter fun line => line ≠ []).take 3)
  (if evidence = [] then js "Changed lines in bounded patch hunk" else evidence).take 500

/-- The open hunk of `parseAnchors`. -/
structure OpenAnchor where
  header : JsString
  oldStart : Option ℕ
  newStart : Option ℕ
  changed : List JsString
  deriving DecidableEq, Repr

/-- `flush` of `parseAnchors`, for an open hunk. -/
def pushAnchor (path : JsString) (firstAnchorIndex : ℕ) (anchors : List DiffAnchor)
    (current : OpenAnchor) : List DiffAnchor :=
  if current.changed.length = 0 then anchors
  else anchors ++ [{
    id := js "a" ++ decimal (firstAnchorIndex + anchors.length)
    file := path
    hunkHeader := current.header.take 500
    oldStart := current.oldStart
    newStart := current.newStart
    changedLines := current.changed.length
    evidence := compactEvidence current.changed }]

def anchorReader (path : JsString) (firstAnchorIndex : ℕ) :
    SectionReader JsString OpenAnchor (List DiffAnchor) where
  start := fun line => (matchHunkHeader line).map fun captures => {
    header := line, oldStart := number captures.1, newStart := number captures.2
    changed := [] }
  add := fun current line =>
    if isAddition line || isDeletion line then
      { current with changed := current.changed ++ [line.drop 1] }
    else current
  emit := pushAnchor path firstAnchorIndex

def parseAnchors (file : PatchFile) (firstAnchorIndex : ℕ) : List DiffAnchor :=
  match file.kind, file.patch with
  | .text, some patch => (anchorReader file.path firstAnchorIndex).run [] (lines patch)
  | _, _ => []

end Analysis

end UnderstandProof
