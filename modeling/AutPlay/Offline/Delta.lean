import AutPlay.Offline.Values

/-!
# The offline temporal delta

* `currentEpisode`, `normalize`   the journal rows of the running episode, and what they say;
* `build`                         the delta of a pack, its events and the items shown;
* `decode`                        what is accepted of a stored delta;
* `applyDelta`                    the items in the order of the delta.
-/

set_option linter.unusedSectionVars false

namespace AutPlay.Offline

open AutPlay.Sync (Uuid Json Payload isCanonicalUuid)
open AutPlay.Sona (sortFields keysOf)
open AutPlay.Recommend (keysInOrder clamp)

def payloadVersion : Int := 1
def payloadEncoding : String := "RAW_JSON"
def policyKey : String := "adaptive-taste"
def policyVersion : String := "1"
def policySha256 : String := "6fc6c3348475618696eec0ad171515d50e6f586ebf515f67f5add4ef245179db"
def maxLocalEvents : Nat := 256
def maxSourceRows : Nat := 257
def episodeGapMs : Int := 1800000
def maxDeltaLifetimeMs : Int := 604800000
def maxItems : Nat := 100
def totalAbsoluteCap : ℚ := 0.75

def fail {α : Type} (code : OfflineTemporalDeltaErrorCode) : Except Thrown α := .error (.delta code)

def refuse (bad : Prop) [Decidable bad] (thrown : Thrown) : Except Thrown Unit :=
  if bad then .error thrown else .ok ()

def check (bad : Prop) [Decidable bad] (code : OfflineTemporalDeltaErrorCode) : Except Thrown Unit :=
  refuse bad (.delta code)

def orFail {α : Type} (code : OfflineTemporalDeltaErrorCode) : Option α → Except Thrown α
  | some a => .ok a
  | none => fail code

/-- `String.validUuid` -/
def validUuid (text : String) : Option Uuid :=
  if h : isCanonicalUuid text = true then some ⟨text, h⟩ else none

/-- `Long.toInt` -/
def toInt (value : Int) : Int := value.bmod (2 ^ 32)

section
variable (tools : DeltaTools)

/-! ## accessors -/

def longOrNull : Option Json → Option Int
  | some (.int i) => if -2 ^ 63 ≤ i ∧ i < 2 ^ 63 then some i else none
  | some (.str text) => tools.longOf text
  | _ => none

def doubleOrNull : Option Json → Option ℚ
  | some (.int i) => some i
  | some (.float q) => some q
  | some (.str text) => tools.doubleOf text
  | _ => none

def booleanOrNull : Option Json → Option Bool
  | some (.bool b) => some b
  | some (.str text) => tools.booleanOf text
  | _ => none

def stringOf : Option Json → Option String
  | some (.str text) => some text
  | _ => none

def objectOf : Option Json → Option Payload
  | some (.obj fields) => some fields
  | _ => none

def arrayOf : Option Json → Option (List Json)
  | some (.arr items) => some items
  | _ => none

def requiredObject (value : Payload) (name : String) : Except Thrown Payload :=
  orFail .malformedPayload (objectOf (value.lookup name))

def requiredArray (value : Payload) (name : String) : Except Thrown (List Json) :=
  orFail .malformedPayload (arrayOf (value.lookup name))

def requiredString (value : Payload) (name : String) : Except Thrown String :=
  orFail .malformedPayload (stringOf (value.lookup name))

def requiredUuid (value : Payload) (name : String) : Except Thrown Uuid := do
  orFail .malformedPayload (validUuid (← requiredString value name))

def requiredHex (value : Payload) (name : String) : Except Thrown String := do
  let text ← requiredString value name
  if sha256Hex text then .ok text else fail .malformedPayload

def requiredLong (value : Payload) (name : String) : Except Thrown Int :=
  orFail .malformedPayload (longOrNull tools (value.lookup name))

def requiredDouble (value : Payload) (name : String) : Except Thrown ℚ :=
  orFail .malformedPayload (doubleOrNull tools (value.lookup name))

def requiredBoolean (value : Payload) (name : String) : Except Thrown Bool :=
  orFail .malformedPayload (booleanOrNull tools (value.lookup name))

def string (value : Payload) (name : String) : Except Thrown String :=
  orFail .eventInvalid (stringOf (value.lookup name))

def long (value : Payload) (name : String) : Except Thrown Int :=
  orFail .eventInvalid (longOrNull tools (value.lookup name))

def boolean (value : Payload) (name : String) : Except Thrown Bool :=
  orFail .eventInvalid (booleanOrNull tools (value.lookup name))

end

/-! ## the running episode -/

def sourceEventTypes : List String := ["USER_TRACK_PREFERENCE_SET", "LISTENING_EVENT_RECORDED"]

def validateSourceRow (binding : ClientEventBinding) (cutoffAtMs nowMs : Int)
    (row : LocalTemporalJournalRow) : Except Thrown Unit := do
  check (row.ownerUserId ≠ binding.userId.text ∨
    row.serverProfileId ≠ binding.serverProfileId.text) .ownerMismatch
  check (row.deviceId ≠ binding.deviceId.text) .deviceMismatch
  check (validUuid row.sourceEventId = none ∨ row.deviceSequence < 1 ∨
    row.occurredAtMs ≤ cutoffAtMs ∨ nowMs < row.occurredAtMs ∨
    row.sourceRequestSha256.length ≠ 32 ∨ row.sourceEventType ∉ sourceEventTypes) .eventInvalid

/-- `byId.putIfAbsent`, and the comparison with what was there. -/
def putRow (byId : List LocalTemporalJournalRow) (row : LocalTemporalJournalRow) :
    Except Thrown (List LocalTemporalJournalRow) :=
  match byId.find? fun prior => prior.sourceEventId = row.sourceEventId with
  | some prior => if prior ≠ row then fail .eventInvalid else .ok byId
  | none => .ok (byId ++ [row])

def gatherRow (binding : ClientEventBinding) (cutoffAtMs nowMs : Int)
    (byId : List LocalTemporalJournalRow) (row : LocalTemporalJournalRow) :
    Except Thrown (List LocalTemporalJournalRow) := do
  validateSourceRow binding cutoffAtMs nowMs row
  putRow byId row

def rowKey (row : LocalTemporalJournalRow) : ℤ ×ₗ ℤ ×ₗ String :=
  toLex (row.occurredAtMs, toLex (row.deviceSequence, row.sourceEventId))

/-- Newest first. -/
def rowBefore (a b : LocalTemporalJournalRow) : Prop := rowKey b ≤ rowKey a

instance decidableRelRowBefore : DecidableRel rowBefore := fun a b =>
  inferInstanceAs (Decidable (rowKey b ≤ rowKey a))

/-- The rows that the gaps still join, at most so many. -/
def episodeBack : Nat → Int → List LocalTemporalJournalRow → List LocalTemporalJournalRow
  | 0, _, _ => []
  | _, _, [] => []
  | limit + 1, newerAt, row :: rest =>
    if episodeGapMs < newerAt - row.occurredAtMs then []
    else row :: episodeBack limit row.occurredAtMs rest

def episodeOf (byId : List LocalTemporalJournalRow) (nowMs : Int) : List LocalTemporalJournalRow :=
  match byId.insertionSort rowBefore with
  | [] => []
  | newest :: rest =>
    if episodeGapMs < nowMs - newest.occurredAtMs then []
    else (episodeBack maxLocalEvents newest.occurredAtMs (newest :: rest)).reverse

def currentEpisode (rows : List LocalTemporalJournalRow) (binding : ClientEventBinding)
    (cutoffAtMs nowMs : Int) : Except Thrown (List LocalTemporalJournalRow) := do
  check (maxSourceRows < rows.length) .eventInvalid
  let byId ← rows.foldlM (gatherRow binding cutoffAtMs nowMs) []
  return episodeOf byId nowMs

/-! ## evidence -/

structure CausalAttribution where
  recommendationRequestId : Uuid
  impressionEventId : Uuid
  sourceRank : Int

structure EvidenceSpecification where
  signalKey : String
  derivationKey : String
  originLane : String
  signedStrength : ℚ
  qualityWeight : ℚ
  originWeight : ℚ
  excludedFromTaste : Bool
  causalAttribution : Option CausalAttribution

def EvidenceSpecification.exclusion : EvidenceSpecification :=
  ⟨"EXCLUDE_FROM_TASTE", "EXCLUSION_PROJECTION_V1", "EXCLUSION", 0, 0, 0, true, none⟩

structure ProjectedLocalEvidence where
  sourceEventId : String
  recordingId : Uuid
  signedStrength : ℚ
  originWeight : ℚ
  document : Payload

section
variable (tools : DeltaTools)

def preferenceSpecifications (payload : Payload) : Except Thrown (List EvidenceSpecification) := do
  if ← boolean tools payload "excluded_from_taste" then return [.exclusion]
  match ← string payload "preference" with
  | "LIKED" =>
    return [⟨"EXPLICIT_LIKE", "PREFERENCE_TRANSITION_V1", "EXPLICIT", 1, 1, 1, false, none⟩]
  | "DISLIKED" =>
    return [⟨"EXPLICIT_DISLIKE", "PREFERENCE_TRANSITION_V1", "EXPLICIT", 0, 1, 1, false, none⟩]
  | "NEUTRAL" => return []
  | _ => fail .eventInvalid

def causalAttribution (payload : Payload) : Except Thrown CausalAttribution := do
  let recommendation ← orFail .eventInvalid (objectOf (payload.lookup "recommendation"))
  let requestId ← orFail .eventInvalid
    (validUuid (← string recommendation "recommendation_request_id"))
  let impressionId ← orFail .eventInvalid
    (validUuid (← string recommendation "impression_event_local_id"))
  let sourceRank := toInt (← long tools recommendation "source_rank")
  check (¬ (1 ≤ sourceRank ∧ sourceRank ≤ 1000)) .eventInvalid
  return ⟨requestId, impressionId, sourceRank⟩

/-- `completion_ratio`, if there is one. -/
def completionRatio (payload : Payload) : Except Thrown (Option ℚ) :=
  match payload.lookup "completion_ratio" with
  | none => .ok none
  | some .null => .ok none
  | some element => do
    let ratio ← orFail .eventInvalid (doubleOrNull tools (some element))
    check (¬ (0 ≤ ratio ∧ ratio ≤ 1)) .eventInvalid
    return some ratio

def outcomeOf (ratio : Option ℚ) (playedMs : Int) : Option ℚ :=
  if (∃ value ∈ ratio, value ≤ 0.2) ∨ playedMs < 30000 then some (-0.45)
  else if ∃ value ∈ ratio, 0.8 ≤ value then some 0.3
  else none

/-- The attribution that a recommended listen names. -/
def causalOf (origin : String) (payload : Payload) : Except Thrown (Option CausalAttribution) :=
  if origin = "RECOMMENDED" then (causalAttribution tools payload).map some else .ok none

def listeningSpecifications (payload : Payload) : Except Thrown (List EvidenceSpecification) := do
  if ← boolean tools payload "excluded_from_taste" then return [.exclusion]
  let origin ← string payload "event_origin"
  let originLane := if origin = "ORGANIC" then "ORGANIC"
    else if origin = "RECOMMENDED" then "RECOMMENDATION" else "SOURCE_QUEUE"
  let originWeight : ℚ := if origin = "ORGANIC" then 0.8
    else if origin = "RECOMMENDED" then 0.35 else 0.6
  let causal ← causalOf tools origin payload
  let base : List EvidenceSpecification :=
    if origin = "ORGANIC" then
      [⟨"FINALIZED_ORGANIC_LISTEN", "BASE_LISTEN_V1", originLane, 0.4, 1, originWeight, false, none⟩]
    else if origin = "RECOMMENDED" then
      [⟨"FINALIZED_RECOMMENDATION_LISTEN", "BASE_LISTEN_V1", originLane, 0.2, 1, originWeight, false,
        causal⟩]
    else []
  let playedMs ← long tools payload "played_ms"
  check (playedMs < 0) .eventInvalid
  let ratio ← completionRatio tools payload
  match outcomeOf ratio playedMs with
  | none => return base
  | some outcome =>
    return base ++ [⟨if outcome < 0 then "FINALIZED_SHORT_LISTEN_SKIP" else "FINALIZED_COMPLETION",
      "OUTCOME_CLASSIFIER_V1", originLane, outcome, 1, originWeight, false, causal⟩]

def specificationsOf (sourceEventType : String) (payload : Payload) :
    Except Thrown (List EvidenceSpecification) :=
  if sourceEventType = "USER_TRACK_PREFERENCE_SET" then preferenceSpecifications tools payload
  else if sourceEventType = "LISTENING_EVENT_RECORDED" then listeningSpecifications tools payload
  else .ok []

def evidenceMaterial (sourceEventId signalKey : String) : String :=
  "autplay-r1b-evidence:" ++ sourceEventId ++ ":" ++ signalKey

def causalFields : Option CausalAttribution → Payload
  | none => []
  | some causal =>
    [("recommendation_request_id", .str causal.recommendationRequestId.text),
      ("impression_event_id", .str causal.impressionEventId.text),
      ("recommendation_source_rank", .int causal.sourceRank)]

/-- `withoutHash` -/
def evidenceFields (binding : ClientEventBinding) (row : LocalTemporalJournalRow) (recordingId : Uuid)
    (specification : EvidenceSpecification) : Payload :=
  [("schema_version", .int 1),
    ("evidence_id", .str (deterministicUuid tools
      (evidenceMaterial row.sourceEventId specification.signalKey)).text),
    ("source_event_id", .str row.sourceEventId),
    ("owner_user_id", .str binding.userId.text),
    ("server_profile_id", .str binding.serverProfileId.text),
    ("device_id", .str binding.deviceId.text),
    ("device_sequence", .int row.deviceSequence),
    ("server_sequence", .null),
    ("source_event_type", .str row.sourceEventType),
    ("signal_key", .str specification.signalKey),
    ("derivation_key", .str specification.derivationKey),
    ("recording_id", .str recordingId.text),
    ("dimensions", .arr [.obj [("kind", .str "BOUNDED_METADATA_TOKEN"),
      ("key", .str ("recording_id:" ++ recordingId.text))]]),
    ("occurred_at_ms", .int row.occurredAtMs),
    ("received_at_ms", .int row.occurredAtMs),
    ("effective_at_ms", .int row.occurredAtMs),
    ("time_classification", .str "LOCAL_UNSYNCED_TIME"),
    ("origin_lane", .str specification.originLane),
    ("signed_strength", .float specification.signedStrength),
    ("quality_weight", .float specification.qualityWeight),
    ("excluded_from_taste", .bool specification.excludedFromTaste),
    ("source_request_sha256", .str (toHex row.sourceRequestSha256))] ++
    causalFields specification.causalAttribution

/-- A document with the hash of the rest of it. -/
def sealed (name : String) (fields : Payload) : Payload :=
  fields ++ [(name, .str (canonicalSha256 tools (.obj fields)))]

def evidenceOf (binding : ClientEventBinding) (row : LocalTemporalJournalRow) (recordingId : Uuid)
    (specification : EvidenceSpecification) : ProjectedLocalEvidence :=
  { sourceEventId := row.sourceEventId
    recordingId := recordingId
    signedStrength := specification.signedStrength
    originWeight := specification.originWeight
    document := sealed tools "normalized_evidence_sha256"
      (evidenceFields tools binding row recordingId specification) }

def normalize (binding : ClientEventBinding) (row : LocalTemporalJournalRow) :
    Except Thrown (List ProjectedLocalEvidence) := do
  let recordingId ← orFail .eventInvalid (row.recordingId.bind validUuid)
  let payload ← orFail .eventInvalid (objectOf (tools.parse row.payloadJson))
  check (tools.canonicalize row.payloadJson ≠ some row.payloadJson) .eventInvalid
  let specifications ← specificationsOf tools row.sourceEventType payload
  return specifications.map (evidenceOf tools binding row recordingId)

end

/-- The groups that fit, from the newest on. -/
def boundGroups {α : Type} : Nat → List (List α) → List (List α)
  | _, [] => []
  | count, group :: groups =>
    if group = [] ∨ maxLocalEvents < count + group.length then boundGroups count groups
    else group :: boundGroups (count + group.length) groups

/-! ## scores -/

/-- The weighted strengths, shared out among the evidence of a source event. -/
def contributions (evidence : List ProjectedLocalEvidence) : List (Uuid × ℚ) :=
  (keysInOrder (evidence.map ProjectedLocalEvidence.sourceEventId)).flatMap fun sourceEventId =>
    let values := evidence.filter fun value => value.sourceEventId = sourceEventId
    let denominator := max 1 (values.map fun value => |value.signedStrength|).sum
    values.map fun value =>
      (value.recordingId, value.signedStrength / denominator * value.originWeight)

/-- `scoreByRecording[recordingId] ?: 0.0` -/
def scoreOf (evidence : List ProjectedLocalEvidence) (recordingId : Uuid) : ℚ :=
  clamp (((contributions evidence).filter fun entry => entry.1 = recordingId).map Prod.snd).sum
    (-totalAbsoluteCap) totalAbsoluteCap

def itemKey (evidence : List ProjectedLocalEvidence) (item : HomeRecommendationItem) :
    ℚ ×ₗ ℤ ×ₗ ℤ ×ₗ Uuid :=
  toLex (item.packPosition - scoreOf evidence item.recordingId,
    toLex (item.packPosition, toLex (item.sourceRank, item.recordingId)))

def itemBefore (evidence : List ProjectedLocalEvidence) (a b : HomeRecommendationItem) : Prop :=
  itemKey evidence a ≤ itemKey evidence b

instance decidableRelItemBefore (evidence : List ProjectedLocalEvidence) :
    DecidableRel (itemBefore evidence) := fun a b =>
  inferInstanceAs (Decidable (itemKey evidence a ≤ itemKey evidence b))

def orderedItems (evidence : List ProjectedLocalEvidence) (items : List HomeRecommendationItem) :
    List HomeRecommendationItem :=
  items.insertionSort (itemBefore evidence)

section
variable (tools : DeltaTools)

def impressionDocument (binding : ClientEventBinding) (requestId recordingId : Uuid)
    (sourceRank : Int) : Json :=
  .obj [("owner_user_id", .str binding.userId.text),
    ("device_id", .str binding.deviceId.text),
    ("recommendation_request_id", .str requestId.text),
    ("recording_id", .str recordingId.text),
    ("source_rank", .int sourceRank)]

def impressionKey (binding : ClientEventBinding) (requestId recordingId : Uuid) (sourceRank : Int) :
    String :=
  canonicalSha256 tools (impressionDocument binding requestId recordingId sourceRank)

def impressionMaterial (key : String) : String := "autplay-r1b-impression:" ++ key

def adjustmentOf (binding : ClientEventBinding) (requestId : Uuid)
    (evidence : List ProjectedLocalEvidence) (index : Nat) (item : HomeRecommendationItem) :
    OfflineTemporalAdjustment :=
  let key := impressionKey tools binding requestId item.recordingId item.sourceRank
  { recordingId := item.recordingId
    sourceRank := item.sourceRank
    displayPosition := index + 1
    boundedDelta := scoreOf evidence item.recordingId
    impressionEventId := deterministicUuid tools (impressionMaterial key)
    impressionKeySha256 := key }

def adjustmentsOf (binding : ClientEventBinding) (requestId : Uuid)
    (evidence : List ProjectedLocalEvidence) (items : List HomeRecommendationItem) :
    List OfflineTemporalAdjustment :=
  (orderedItems evidence items).mapIdx (adjustmentOf tools binding requestId evidence)

/-! ## the delta -/

def parentItemBefore (a b : OfflinePackItem) : Prop :=
  toLex (a.packPosition, a.sourceRank) ≤ toLex (b.packPosition, b.sourceRank)

instance decidableRelParentItemBefore : DecidableRel parentItemBefore := fun a b =>
  inferInstanceAs (Decidable (toLex (a.packPosition, a.sourceRank) ≤ toLex (b.packPosition, b.sourceRank)))

def parentItemFields (item : OfflinePackItem) : Payload :=
  [("recording_id", .str item.recordingId.text), ("source_rank", .int item.sourceRank)]

def parentItems (parent : DecodedOfflinePack tools.jcsInt) : List Json :=
  (parent.items.insertionSort parentItemBefore).map fun item => .obj (parentItemFields item)

def validateParentEnvelope (entity : RecommendationPackEntity)
    (parent : DecodedOfflinePack tools.jcsInt) (binding : ClientEventBinding) :
    Except Thrown Unit := do
  check (entity.offlinePackId ≠ parent.offlinePackId.text ∨
    entity.serverProfileId ≠ binding.serverProfileId.text ∨
    entity.ownerUserId ≠ binding.userId.text ∨ parent.userId ≠ binding.userId) .ownerMismatch
  check (parent.deviceId ≠ binding.deviceId) .deviceMismatch
  check (entity.payloadSha256.length ≠ 32 ∨ tools.sha256 entity.payload ≠ entity.payloadSha256)
    .parentMismatch

def deltaIdentity (parent : DecodedOfflinePack tools.jcsInt) (binding : ClientEventBinding)
    (evidence : List ProjectedLocalEvidence) : Json :=
  .obj [("device_id", .str binding.deviceId.text),
    ("feature_policy_sha256", .str policySha256),
    ("offline_pack_id", .str parent.offlinePackId.text),
    ("owner_user_id", .str binding.userId.text),
    ("recommendation_request_id", .str parent.recommendationRequestId.text),
    ("server_profile_id", .str binding.serverProfileId.text),
    ("source_event_ids", .arr
      ((keysInOrder (evidence.map ProjectedLocalEvidence.sourceEventId)).map .str))]

def deltaIdOf (parent : DecodedOfflinePack tools.jcsInt) (binding : ClientEventBinding)
    (evidence : List ProjectedLocalEvidence) : Uuid :=
  deterministicUuid tools
    ("autplay-r1b-delta:" ++ canonicalSha256 tools (deltaIdentity tools parent binding evidence))

def adjustmentFields (adjustment : OfflineTemporalAdjustment) : Payload :=
  [("recording_id", .str adjustment.recordingId.text),
    ("source_rank", .int adjustment.sourceRank),
    ("display_position", .int adjustment.displayPosition),
    ("bounded_delta", .float adjustment.boundedDelta),
    ("mandatory_filter_passed", .bool true),
    ("impression_event_id", .str adjustment.impressionEventId.text),
    ("impression_key_sha256", .str adjustment.impressionKeySha256)]

def policyFields : Payload :=
  [("key", .str policyKey), ("version", .str policyVersion), ("content_sha256", .str policySha256)]

/-- `withoutSelfHash` -/
def deltaFields (parentEntity : RecommendationPackEntity) (parent : DecodedOfflinePack tools.jcsInt)
    (binding : ClientEventBinding) (evidence : List ProjectedLocalEvidence)
    (items : List HomeRecommendationItem) (nowMs expiresAtMs : Int) : Payload :=
  [("schema_version", .int payloadVersion),
    ("delta_id", .str (deltaIdOf tools parent binding evidence).text),
    ("server_profile_id", .str binding.serverProfileId.text),
    ("owner_user_id", .str binding.userId.text),
    ("device_id", .str binding.deviceId.text),
    ("offline_pack_id", .str parent.offlinePackId.text),
    ("parent_pack_sha256", .str (toHex parentEntity.payloadSha256)),
    ("parent_items_sha256", .str (canonicalSha256 tools (.arr (parentItems tools parent)))),
    ("parent_expires_at_ms", .int parent.expiresAtMs),
    ("parent_items", .arr (parentItems tools parent)),
    ("recommendation_request_id", .str parent.recommendationRequestId.text),
    ("feature_policy", .obj policyFields),
    ("cutoff_at_ms", .int parent.createdAtMs),
    ("local_events", .arr (evidence.map fun value => .obj value.document)),
    ("adjustments", .arr ((adjustmentsOf tools binding parent.recommendationRequestId evidence
      items).map fun adjustment => .obj (adjustmentFields adjustment))),
    ("created_at_ms", .int nowMs),
    ("expires_at_ms", .int expiresAtMs)]

/-- The document that is stored, with the hash of the rest of it. -/
def deltaDocument (parentEntity : RecommendationPackEntity) (parent : DecodedOfflinePack tools.jcsInt)
    (binding : ClientEventBinding) (evidence : List ProjectedLocalEvidence)
    (items : List HomeRecommendationItem) (nowMs expiresAtMs : Int) : Payload :=
  sealed tools "delta_sha256"
    (deltaFields tools parentEntity parent binding evidence items nowMs expiresAtMs)

def deltaEntity (parentEntity : RecommendationPackEntity) (parent : DecodedOfflinePack tools.jcsInt)
    (binding : ClientEventBinding) (evidence : List ProjectedLocalEvidence)
    (items : List HomeRecommendationItem) (nowMs expiresAtMs : Int) :
    RecommendationTemporalDeltaEntity :=
  let payload := tools.jcs
    (.obj (deltaDocument tools parentEntity parent binding evidence items nowMs expiresAtMs))
  { deltaId := (deltaIdOf tools parent binding evidence).text
    serverProfileId := binding.serverProfileId.text
    ownerUserId := binding.userId.text
    deviceId := binding.deviceId.text
    offlinePackId := parent.offlinePackId.text
    recommendationRequestId := parent.recommendationRequestId.text
    featurePolicyVersion := policyVersion
    featurePolicySha256 := hexBytes policySha256
    parentPackSha256 := parentEntity.payloadSha256
    parentItemsSha256 := hexBytes (canonicalSha256 tools (.arr (parentItems tools parent)))
    payloadVersion := payloadVersion
    payloadEncoding := payloadEncoding
    payload := payload
    payloadSha256 := tools.sha256 payload
    cutoffAtMs := parent.createdAtMs
    createdAtMs := nowMs
    expiresAtMs := expiresAtMs }

/-- `boundedGroups.asReversed().flatten()` -/
def boundEvidence (groups : List (List ProjectedLocalEvidence)) : List ProjectedLocalEvidence :=
  (boundGroups 0 groups.reverse).reverse.flatten

/-- The evidence of the running episode. -/
def episodeEvidence (parent : DecodedOfflinePack tools.jcsInt) (binding : ClientEventBinding)
    (sourceRows : List LocalTemporalJournalRow) (nowMs : Int) :
    Except Thrown (List ProjectedLocalEvidence) := do
  let episode ← currentEpisode sourceRows binding parent.createdAtMs nowMs
  let groups ← episode.mapM (normalize tools binding)
  return boundEvidence groups

/-- The delta of the evidence; none where no item moves or nothing is left of the time. -/
def buildFrom (parentEntity : RecommendationPackEntity) (parent : DecodedOfflinePack tools.jcsInt)
    (binding : ClientEventBinding) (evidence : List ProjectedLocalEvidence)
    (items : List HomeRecommendationItem) (nowMs : Int) :
    Except Thrown (Option RecommendationTemporalDeltaEntity) :=
  if evidence = [] ∨ ∀ item ∈ items, scoreOf evidence item.recordingId = 0 then .ok none
  else do
    check (sha256Hex (toHex parentEntity.payloadSha256) = false) .parentMismatch
    refuse (2 ^ 63 ≤ nowMs + maxDeltaLifetimeMs) .arithmetic
    let expiresAtMs := min parent.expiresAtMs (nowMs + maxDeltaLifetimeMs)
    if expiresAtMs ≤ nowMs then return none
    else return some (deltaEntity tools parentEntity parent binding evidence items nowMs expiresAtMs)

def build (parentEntity : RecommendationPackEntity) (parent : DecodedOfflinePack tools.jcsInt)
    (binding : ClientEventBinding) (sourceRows : List LocalTemporalJournalRow)
    (mandatoryFilteredItems : List HomeRecommendationItem) (nowMs : Int) :
    Except Thrown (Option RecommendationTemporalDeltaEntity) := do
  refuse (nowMs < 0) .illegalArgument
  validateParentEnvelope tools parentEntity parent binding
  if parent.expiresAtMs ≤ nowMs ∨ mandatoryFilteredItems = [] then return none
  else
    let evidence ← episodeEvidence tools parent binding sourceRows nowMs
    buildFrom tools parentEntity parent binding evidence mandatoryFilteredItems nowMs

/-! ## decoding -/

def deltaKeys : List String :=
  ["schema_version", "delta_id", "server_profile_id", "owner_user_id", "device_id",
    "offline_pack_id", "parent_pack_sha256", "parent_items_sha256", "parent_expires_at_ms",
    "parent_items", "recommendation_request_id", "feature_policy", "cutoff_at_ms", "local_events",
    "adjustments", "created_at_ms", "expires_at_ms", "delta_sha256"]

def policyKeys : List String := ["key", "version", "content_sha256"]

def adjustmentKeys : List String :=
  ["recording_id", "source_rank", "display_position", "bounded_delta", "mandatory_filter_passed",
    "impression_event_id", "impression_key_sha256"]

def SameKeys (value : Payload) (keys : List String) : Prop :=
  (∀ key ∈ keysOf value, key ∈ keys) ∧ ∀ key ∈ keys, key ∈ keysOf value

instance decidableSameKeys (value : Payload) (keys : List String) : Decidable (SameKeys value keys) :=
  inferInstanceAs (Decidable (_ ∧ _))

/-- `filterKeys { it != name }` -/
def without (name : String) (value : Payload) : Payload := value.filter fun x => x.1 ≠ name

/-- One turn of the loop of `validateEvents`. -/
def validateEvent (binding : ClientEventBinding) (evidenceIds : List Uuid) (element : Json) :
    Except Thrown (List Uuid) := do
  let event ← orFail .eventInvalid (objectOf (some element))
  let hash ← requiredHex event "normalized_evidence_sha256"
  check (canonicalSha256 tools (.obj (without "normalized_evidence_sha256" event)) ≠ hash)
    .hashInvalid
  check ((← requiredUuid event "owner_user_id") ≠ binding.userId) .ownerMismatch
  check ((← requiredUuid event "server_profile_id") ≠ binding.serverProfileId) .ownerMismatch
  check ((← requiredUuid event "device_id") ≠ binding.deviceId) .deviceMismatch
  check (event.lookup "server_sequence" ≠ some .null) .eventInvalid
  check ((← requiredString event "time_classification") ≠ "LOCAL_UNSYNCED_TIME") .eventInvalid
  let evidenceId ← requiredUuid event "evidence_id"
  check (evidenceId ∈ evidenceIds) .eventInvalid
  let _ ← requiredUuid event "source_event_id"
  let _ ← requiredUuid event "recording_id"
  let _ ← requiredHex event "source_request_sha256"
  return evidenceIds ++ [evidenceId]

def validateEvents (events : List Json) (binding : ClientEventBinding) : Except Thrown Unit := do
  check (maxLocalEvents < events.length) .eventInvalid
  let _ ← events.foldlM (validateEvent tools binding) []

def decodeAdjustment (binding : ClientEventBinding) (requestId : Uuid)
    (parentPairs : List (Uuid × Int)) (element : Json) : Except Thrown OfflineTemporalAdjustment := do
  let value ← orFail .adjustmentInvalid (objectOf (some element))
  check (¬ SameKeys value adjustmentKeys) .adjustmentInvalid
  check ((← requiredBoolean tools value "mandatory_filter_passed") ≠ true) .adjustmentInvalid
  let recordingId ← requiredUuid value "recording_id"
  let sourceRank := toInt (← requiredLong tools value "source_rank")
  let displayPosition := toInt (← requiredLong tools value "display_position")
  let boundedDelta ← requiredDouble tools value "bounded_delta"
  let impressionEventId ← requiredUuid value "impression_event_id"
  let key ← requiredHex value "impression_key_sha256"
  check (¬ (1 ≤ sourceRank ∧ sourceRank ≤ 1000) ∨
    ¬ (1 ≤ displayPosition ∧ displayPosition ≤ 1000) ∨
    ¬ (-1 ≤ boundedDelta ∧ boundedDelta ≤ 1) ∨
    (recordingId, sourceRank) ∉ parentPairs ∨
    key ≠ impressionKey tools binding requestId recordingId sourceRank ∨
    impressionEventId ≠ deterministicUuid tools (impressionMaterial key)) .adjustmentInvalid
  return ⟨recordingId, sourceRank, displayPosition, boundedDelta, impressionEventId, key⟩

/-- The first checks, before the payload is read. -/
def checkEntity (entity : RecommendationTemporalDeltaEntity) (parentEntity : RecommendationPackEntity)
    (binding : ClientEventBinding) : Except Thrown Unit := do
  check (entity.serverProfileId ≠ binding.serverProfileId.text ∨
    entity.ownerUserId ≠ binding.userId.text) .ownerMismatch
  check (entity.deviceId ≠ binding.deviceId.text) .deviceMismatch
  check (entity.payloadVersion ≠ payloadVersion ∨ entity.payloadEncoding ≠ payloadEncoding ∨
    entity.featurePolicyVersion ≠ policyVersion ∨
    entity.featurePolicySha256 ≠ hexBytes policySha256) .policyMismatch
  check (entity.payload = "" ∨ entity.payloadSha256.length ≠ 32 ∨
    tools.sha256 entity.payload ≠ entity.payloadSha256) .hashInvalid
  check (parentEntity.payloadSha256 ≠ entity.parentPackSha256) .parentMismatch

/-- The payload as a document with the hash that it declares. -/
def readRoot (entity : RecommendationTemporalDeltaEntity) : Except Thrown Payload := do
  let canonical ← orFail .malformedPayload (tools.canonicalize entity.payload)
  check (canonical ≠ entity.payload) .nonCanonicalPayload
  let root ← orFail .malformedPayload (objectOf (tools.parse entity.payload))
  check (¬ SameKeys root deltaKeys) .malformedPayload
  let declaredHash ← requiredHex root "delta_sha256"
  check (canonicalSha256 tools (.obj (without "delta_sha256" root)) ≠ declaredHash) .hashInvalid
  return root

/-- `feature_policy`, `parent_pack_sha256` and the items of the parent. -/
def checkParent (entity : RecommendationTemporalDeltaEntity) (parentEntity : RecommendationPackEntity)
    (parent : DecodedOfflinePack tools.jcsInt) (root : Payload) : Except Thrown Unit := do
  let policy ← requiredObject root "feature_policy"
  check (¬ SameKeys policy policyKeys) .policyMismatch
  check ((← requiredString policy "key") ≠ policyKey) .policyMismatch
  check ((← requiredString policy "version") ≠ policyVersion) .policyMismatch
  check ((← requiredHex policy "content_sha256") ≠ policySha256) .policyMismatch
  check ((← requiredHex root "parent_pack_sha256") ≠ toHex parentEntity.payloadSha256)
    .parentMismatch
  let parentItemsHash := canonicalSha256 tools (.arr (parentItems tools parent))
  check ((← requiredArray root "parent_items") ≠ parentItems tools parent) .parentMismatch
  check ((← requiredHex root "parent_items_sha256") ≠ parentItemsHash) .parentMismatch
  check (entity.parentItemsSha256 ≠ hexBytes parentItemsHash) .parentMismatch

def checkAdjustments (adjustments : List OfflineTemporalAdjustment) : Except Thrown Unit :=
  check (maxItems < adjustments.length ∨
    ¬ (adjustments.map OfflineTemporalAdjustment.pair).Nodup ∨
    ¬ (adjustments.map OfflineTemporalAdjustment.displayPosition).Nodup ∨
    ¬ (adjustments.map OfflineTemporalAdjustment.impressionEventId).Nodup ∨
    ¬ (adjustments.map OfflineTemporalAdjustment.impressionKeySha256).Nodup) .adjustmentInvalid

def decode (entity : RecommendationTemporalDeltaEntity) (parentEntity : RecommendationPackEntity)
    (parent : DecodedOfflinePack tools.jcsInt) (binding : ClientEventBinding) (nowMs : Int) :
    Except Thrown DecodedOfflineTemporalDelta := do
  refuse (nowMs < 0) .illegalArgument
  validateParentEnvelope tools parentEntity parent binding
  checkEntity tools entity parentEntity binding
  let root ← readRoot tools entity
  let deltaId ← requiredUuid root "delta_id"
  let packId ← requiredUuid root "offline_pack_id"
  let requestId ← requiredUuid root "recommendation_request_id"
  let createdAtMs ← requiredLong tools root "created_at_ms"
  let expiresAtMs ← requiredLong tools root "expires_at_ms"
  let parentExpiresAtMs ← requiredLong tools root "parent_expires_at_ms"
  check ((← requiredLong tools root "schema_version") ≠ payloadVersion ∨
    deltaId.text ≠ entity.deltaId ∨ packId.text ≠ entity.offlinePackId ∨
    packId ≠ parent.offlinePackId ∨ requestId.text ≠ entity.recommendationRequestId ∨
    requestId ≠ parent.recommendationRequestId) .envelopeMismatch
  check ((← requiredUuid root "server_profile_id") ≠ binding.serverProfileId) .envelopeMismatch
  check ((← requiredUuid root "owner_user_id") ≠ binding.userId) .envelopeMismatch
  check ((← requiredUuid root "device_id") ≠ binding.deviceId) .envelopeMismatch
  check ((← requiredLong tools root "cutoff_at_ms") ≠ entity.cutoffAtMs) .envelopeMismatch
  check (createdAtMs ≠ entity.createdAtMs ∨ expiresAtMs ≠ entity.expiresAtMs ∨
    parentExpiresAtMs ≠ parent.expiresAtMs) .envelopeMismatch
  check (expiresAtMs ≤ createdAtMs ∨ parentExpiresAtMs < expiresAtMs ∨
    maxDeltaLifetimeMs < expiresAtMs - createdAtMs ∨ expiresAtMs ≤ nowMs ∨
    parentExpiresAtMs ≤ nowMs) .expired
  checkParent tools entity parentEntity parent root
  validateEvents tools (← requiredArray root "local_events") binding
  let parentPairs := parent.items.map fun item => (item.recordingId, item.sourceRank)
  let adjustments ← (← requiredArray root "adjustments").mapM
    (decodeAdjustment tools binding requestId parentPairs)
  checkAdjustments adjustments
  return ⟨deltaId, packId, requestId, createdAtMs, expiresAtMs, adjustments⟩

end

/-! ## the items in their order -/

def adjustmentBefore (a b : OfflineTemporalAdjustment) : Prop :=
  toLex (a.displayPosition, a.sourceRank) ≤ toLex (b.displayPosition, b.sourceRank)

instance decidableRelAdjustmentBefore : DecidableRel adjustmentBefore := fun a b =>
  inferInstanceAs (Decidable
    (toLex (a.displayPosition, a.sourceRank) ≤ toLex (b.displayPosition, b.sourceRank)))

/-- `byPair.getValue(…).copy(…)` -/
def adjusted (deltaId : Uuid) (adjustment : OfflineTemporalAdjustment)
    (item : HomeRecommendationItem) : HomeRecommendationItem :=
  { item with
    displayPosition := adjustment.displayPosition
    source := "local_temporal_delta"
    deltaId := some deltaId
    impressionEventId := some adjustment.impressionEventId
    impressionKeySha256 := some adjustment.impressionKeySha256 }

def applyDelta (delta : DecodedOfflineTemporalDelta)
    (mandatoryFilteredItems : List HomeRecommendationItem) :
    Except Thrown (List HomeRecommendationItem) := do
  let pairs := mandatoryFilteredItems.map HomeRecommendationItem.pair
  let adjustedPairs := delta.adjustments.map OfflineTemporalAdjustment.pair
  check (¬ pairs.Nodup ∨ ¬ ((∀ pair ∈ pairs, pair ∈ adjustedPairs) ∧
    ∀ pair ∈ adjustedPairs, pair ∈ pairs)) .adjustmentInvalid
  let positions := (delta.adjustments.map OfflineTemporalAdjustment.displayPosition).insertionSort
    (· ≤ ·)
  check (positions ≠ (List.range delta.adjustments.length).map fun (i : Nat) => (i : Int) + 1)
    .adjustmentInvalid
  (delta.adjustments.insertionSort adjustmentBefore).mapM fun adjustment =>
    match mandatoryFilteredItems.find? fun item => item.pair = adjustment.pair with
    | some item => .ok (adjusted delta.deltaId adjustment item)
    | none => .error .noSuchElement

end AutPlay.Offline
