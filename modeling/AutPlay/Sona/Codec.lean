import AutPlay.Sona.Canonical
import AutPlay.Sona.Values
import AutPlay.Lib.Result

/-!
# The transport of Sona-Lite

Documents, their hashes, and the values that are read from them.

* `requestEnvelope`, `requestFromEnvelope`     what the model is asked;
* `outputEnvelope`, `outputFromEnvelope`       what it answers.

An error is the text of a `ValueError`.
-/

set_option linter.unusedSectionVars false

namespace AutPlay.Sona

open AutPlay.Sync (Uuid Json Payload)

/-- What the libraries do: the text of RFC 8785, SHA-256 in hexadecimal, and `UUID(text)`, which reads
the canonical spelling besides others. -/
structure CodecTools where
  text : Json → String
  sha256 : String → String
  uuid : String → Option Uuid
  uuid_text : ∀ u : Uuid, uuid u.text = some u

/-! ## accessors -/

def exactKeys (value : Payload) (expected : List String) (label : String) : Except String Unit :=
  if (∀ key ∈ keysOf value, key ∈ expected) ∧ ∀ key ∈ expected, key ∈ keysOf value then .ok ()
  else .error (label ++ " keys are invalid")

def mapping (value : Payload) (key : String) : Except String Payload :=
  match value.lookup key with
  | some (.obj fields) => .ok fields
  | _ => .error ("Sona " ++ key ++ " must be an object")

def asMapping : Json → Except String Payload
  | .obj fields => .ok fields
  | _ => .error "Sona sequence item must be an object"

def sequence (value : Payload) (key : String) : Except String (List Json) :=
  match value.lookup key with
  | some (.arr items) => .ok items
  | _ => .error ("Sona " ++ key ++ " must be an array")

def string (value : Payload) (key : String) : Except String String :=
  match value.lookup key with
  | some (.str s) => .ok s
  | _ => .error ("Sona " ++ key ++ " must be a string")

def integerItem (label : String) : Json → Except String Int
  | .int i => .ok i
  | _ => .error (label ++ " must be an integer")

def integer (value : Payload) (key : String) : Except String Int :=
  integerItem ("Sona " ++ key) ((value.lookup key).getD .null)

/-- `float(value)`; integers that passed the hash convert exactly. -/
def numberItem (label : String) : Json → Except String ℚ
  | .int i => .ok i
  | .float q => .ok q
  | _ => .error (label ++ " must be numeric")

def number (value : Payload) (key : String) : Except String ℚ :=
  numberItem ("Sona " ++ key) ((value.lookup key).getD .null)

/-- `UUID` of a string; a field that is no string is refused in the same words. -/
def uuidField (tools : CodecTools) (value : Payload) (key : String) : Except String Uuid :=
  match string value key with
  | .ok s =>
    match tools.uuid s with
    | some u => .ok u
    | none => .error ("Sona " ++ key ++ " must be a UUID")
  | .error _ => .error ("Sona " ++ key ++ " must be a UUID")

def semanticId (value : Payload) (key : String) : Except String SonaSemanticId := do
  let items ← (← sequence value key).mapM (integerItem ("Sona " ++ key))
  match items with
  | [level1, level2, level3] => SonaSemanticId.make level1 level2 level3
  | _ => .error "Sona Semantic ID depth is invalid"

section
variable (tools : CodecTools)

/-- `_digest`. -/
def digest (document : Json) : Except String String :=
  if inDomain document then .ok (tools.sha256 (tools.text (canonical document)))
  else .error "Sona document exceeds the canonical JSON domain"

/-! ## requests -/

def semanticIdDocument (sid : SonaSemanticId) : Json :=
  .arr [.int sid.level1, .int sid.level2, .int sid.level3]

def historyEventFields (event : SonaHistoryEvent) : Payload :=
  [("evidence_id", .str event.evidenceId.text),
    ("recording_id", .str event.recordingId.text),
    ("semantic_id", semanticIdDocument event.semanticId),
    ("action", .int event.action.code),
    ("origin", .int event.origin.code),
    ("age_bucket", .int event.ageBucket),
    ("effective_at_ms", .int event.effectiveAtMs),
    ("server_sequence", .int event.serverSequence)]

def candidateFields (candidate : SonaCandidate) : Payload :=
  [("recording_id", .str candidate.recordingId.text),
    ("semantic_id", semanticIdDocument candidate.semanticId)]

/-- The body that is hashed. -/
def requestFields (request : SonaInferenceRequest) : Payload :=
  [("schema_version", .int 1),
    ("architecture", .str "SONA_LITE_SHARED_ENCODER_V1"),
    ("owner_user_id", .str request.ownerUserId.text),
    ("temporal_snapshot_id", .str request.temporalSnapshotId.text),
    ("baseline_snapshot_id", .str request.baselineSnapshotId.text),
    ("cutoff_at_ms", .int request.cutoffAtMs),
    ("interaction_watermark", .int request.interactionWatermark),
    ("tokenizer_sha256", .str request.tokenizerSha256),
    ("model_manifest_sha256", .str request.modelManifestSha256),
    ("seed", .int request.seed),
    ("history", .arr (request.history.map fun event => .obj (historyEventFields event))),
    ("candidates", .arr (request.candidates.map fun candidate => .obj (candidateFields candidate)))]

/-- `sona_request_document`. -/
def requestDocument (request : SonaInferenceRequest) : Except String Json := do
  let hash ← digest tools (.obj (requestFields request))
  if hash ≠ request.requestSha256 then
    .error "Sona request object does not match its canonical hash"
  else .ok (.obj (requestFields request))

/-- `sona_request_envelope`. -/
def requestEnvelope (request : SonaInferenceRequest) : Except String Payload := do
  let document ← requestDocument tools request
  return [("request", document), ("request_sha256", .str request.requestSha256)]

def eventKeys : List String :=
  ["evidence_id", "recording_id", "semantic_id", "action", "origin", "age_bucket", "effective_at_ms",
    "server_sequence"]

/-- `_history_event`. -/
def historyEvent (value : Payload) : Except String SonaHistoryEvent := do
  exactKeys value eventKeys "Sona history event"
  let evidenceId ← uuidField tools value "evidence_id"
  let recordingId ← uuidField tools value "recording_id"
  let sid ← semanticId value "semantic_id"
  let action ← SonaAction.ofCode (← integer value "action")
  let origin ← SonaOrigin.ofCode (← integer value "origin")
  let ageBucket ← integer value "age_bucket"
  let effectiveAtMs ← integer value "effective_at_ms"
  let serverSequence ← integer value "server_sequence"
  SonaHistoryEvent.make evidenceId recordingId sid action origin ageBucket effectiveAtMs serverSequence

def candidateKeys : List String := ["recording_id", "semantic_id"]

/-- `_candidate`. -/
def candidate (value : Payload) : Except String SonaCandidate := do
  exactKeys value candidateKeys "Sona candidate"
  let recordingId ← uuidField tools value "recording_id"
  let sid ← semanticId value "semantic_id"
  return ⟨recordingId, sid⟩

def requestKeys : List String :=
  ["schema_version", "architecture", "owner_user_id", "temporal_snapshot_id", "baseline_snapshot_id",
    "cutoff_at_ms", "interaction_watermark", "tokenizer_sha256", "model_manifest_sha256", "seed",
    "history", "candidates"]

def envelopeKeys : List String := ["request", "request_sha256"]

/-- `sona_request_from_envelope`. -/
def requestFromEnvelope (value : Payload) : Except String SonaInferenceRequest := do
  exactKeys value envelopeKeys "Sona request envelope"
  let document ← mapping value "request"
  let declaredHash ← string value "request_sha256"
  exactKeys document requestKeys "Sona request"
  if (← integer document "schema_version") ≠ 1 then .error "Sona request schema is unsupported"
  else if (← string document "architecture") ≠ "SONA_LITE_SHARED_ENCODER_V1" then
    .error "Sona request schema is unsupported"
  else if (← digest tools (.obj document)) ≠ declaredHash then
    .error "Sona request canonical hash mismatch"
  else
    let history ← (← sequence document "history").mapM fun item => do
      historyEvent tools (← asMapping item)
    let candidates ← (← sequence document "candidates").mapM fun item => do
      candidate tools (← asMapping item)
    let ownerUserId ← uuidField tools document "owner_user_id"
    let temporalSnapshotId ← uuidField tools document "temporal_snapshot_id"
    let baselineSnapshotId ← uuidField tools document "baseline_snapshot_id"
    let cutoffAtMs ← integer document "cutoff_at_ms"
    let interactionWatermark ← integer document "interaction_watermark"
    let tokenizerSha256 ← string document "tokenizer_sha256"
    let modelManifestSha256 ← string document "model_manifest_sha256"
    let seed ← integer document "seed"
    SonaInferenceRequest.make ownerUserId temporalSnapshotId baselineSnapshotId cutoffAtMs
      interactionWatermark tokenizerSha256 modelManifestSha256 seed history candidates declaredHash

/-! ## outputs -/

def generatedFields (value : SonaGeneratedCandidate) : Payload :=
  [("semantic_id", semanticIdDocument value.semanticId), ("log_probability", .float value.logProbability)]

def rankedFields (value : SonaRankedCandidate) : Payload :=
  [("recording_id", .str value.recordingId.text),
    ("head_scores", .arr (value.headScores.map .float)),
    ("combined_score", .float value.combinedScore)]

/-- `sona_output_document`. -/
def outputFields (output : SonaInferenceOutput) : Payload :=
  [("schema_version", .int 1),
    ("request_sha256", .str output.requestSha256),
    ("generated", .arr (output.generated.map fun value => .obj (generatedFields value))),
    ("ranked", .arr (output.ranked.map fun value => .obj (rankedFields value)))]

/-- `sona_output_envelope`. -/
def outputEnvelope (output : SonaInferenceOutput) : Except String Payload := do
  let hash ← digest tools (.obj (outputFields output))
  return [("output", .obj (outputFields output)), ("output_sha256", .str hash)]

def generatedKeys : List String := ["semantic_id", "log_probability"]

/-- `_generated`. -/
def generated (value : Payload) : Except String SonaGeneratedCandidate := do
  exactKeys value generatedKeys "Sona generated candidate"
  let sid ← semanticId value "semantic_id"
  let logProbability ← number value "log_probability"
  return ⟨sid, logProbability⟩

def rankedKeys : List String := ["recording_id", "head_scores", "combined_score"]

/-- `_ranked`. -/
def ranked (value : Payload) : Except String SonaRankedCandidate := do
  exactKeys value rankedKeys "Sona ranked candidate"
  let scores ← (← sequence value "head_scores").mapM (numberItem "Sona ranking head score")
  match scores with
  | [completion, like, skip, pairwise] =>
    let recordingId ← uuidField tools value "recording_id"
    let combinedScore ← number value "combined_score"
    return ⟨recordingId, completion, like, skip, pairwise, combinedScore⟩
  | _ => .error "Sona ranking head count is invalid"

def outputKeys : List String := ["schema_version", "request_sha256", "generated", "ranked"]

def outputEnvelopeKeys : List String := ["output", "output_sha256"]

/-- `sona_output_from_envelope`. -/
def outputFromEnvelope (value : Payload) : Except String SonaInferenceOutput := do
  exactKeys value outputEnvelopeKeys "Sona output envelope"
  let document ← mapping value "output"
  let declaredHash ← string value "output_sha256"
  exactKeys document outputKeys "Sona output"
  if (← integer document "schema_version") ≠ 1 then .error "Sona output schema is unsupported"
  else if (← digest tools (.obj document)) ≠ declaredHash then
    .error "Sona output canonical hash mismatch"
  else
    let generated ← (← sequence document "generated").mapM fun item => do
      generated (← asMapping item)
    let ranked ← (← sequence document "ranked").mapM fun item => do ranked tools (← asMapping item)
    let requestSha256 ← string document "request_sha256"
    SonaInferenceOutput.make requestSha256 generated ranked

end

end AutPlay.Sona
