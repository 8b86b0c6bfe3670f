import AutPlay.Sync.Generic

/-!
# Interaction projections

Listening events and recommendation impressions and feedback: `_validate_attribution`,
`_apply_listening` and `_apply_interaction`.  Unlike the generic projections they run without a
savepoint, but they too write nothing before their last check (`interactionChecks`).
-/

set_option linter.unusedSectionVars false

namespace AutPlay.Sync

/-- `_SAFE_KEY`: `^[a-z][a-z0-9_]{0,99}$`. -/
def safeKey (s : String) : Bool :=
  match s.toList with
  | [] => false
  | c :: cs =>
    ('a' ≤ c && c ≤ 'z') && cs.length ≤ 99 &&
      cs.all (fun c => ('a' ≤ c && c ≤ 'z') || ('0' ≤ c && c ≤ '9') || c == '_')

/-- A validated recommendation pointer. -/
structure Attribution where
  requestId : Uuid
  recordingId : Uuid
  rank : PyInt
  presentationId : Option Uuid
  impressionId : Option Uuid

/-- A text field whose value is a safe key. -/
def safeKeyField (value : Payload) (key : String) : Except Refusal Unit :=
  match value.get key with
  | some (.str s) => if safeKey s then .ok () else .error .valueError
  | _ => .error .valueError

/-- `source_rank`, from 1 to 1000. -/
def sourceRank (value : Payload) : Except Refusal PyInt :=
  match (value.get "source_rank").bind Json.asInt with
  | some n => if 1 ≤ n.val ∧ n.val ≤ 1000 then .ok n else .error .valueError
  | none => .error .valueError

/-- The owner's request has that recording at that rank. -/
def requireRecommended (db : SyncDb) (p : Principal) (requestId recordingId : Uuid) (rank : Int) :
    Except Refusal Unit :=
  match db.recommendationRequests.find requestId, db.recommendationItems.find (requestId, rank) with
  | some request, some item =>
    if request.userId = p.userId ∧ item.recordingId = recordingId then .ok ()
    else .error .attributionNotFound
  | _, _ => .error .attributionNotFound

/-- `_validate_attribution` of a present pointer. -/
def validateAttribution (db : SyncDb) (p : Principal) (value : Payload) :
    Except Refusal Attribution := do
  let requestId ← value.uuidField "recommendation_request_id"
  let recordingId ← value.uuidField "recording_id"
  let rank ← sourceRank value
  safeKeyField value "source"
  safeKeyField value "surface"
  requireRecommended db p requestId recordingId rank.val
  let presentation ← value.uuidOptional "presentation_id"
  let impression ← value.uuidOptionalAlias
    ["impression_event_server_id", "impression_event_local_id"]
  return ⟨requestId, recordingId, rank, presentation, impression⟩

/-! ## listening -/

/-- What `_apply_listening` has read when its checks are through. -/
structure Listening where
  ref : UserTrackRefRow
  recording : Option Uuid
  origin : EventOrigin
  context : ListeningContext
  feedback : ExplicitFeedback
  played : PyInt
  duration : Option PyInt
  ratio : Option Json
  excluded : Bool

/-- `completion_ratio`: null, or a number between 0 and 1. -/
def completionRatio (payload : Payload) : Except Refusal (Option Json) :=
  match payload.get "completion_ratio" with
  | none => .ok none
  | some (.float q) => if 0 ≤ q ∧ q ≤ 1 then .ok (some (.float q)) else .error .valueError
  | some candidate =>
    match candidate.asInt with
    | some n => if 0 ≤ n.val ∧ n.val ≤ 1 then .ok (some candidate) else .error .valueError
    | none => .error .valueError

/-- The recording that is named is the one the reference is resolved to, if both are known. -/
def requireRecording : Option Uuid → Option Uuid → Except Refusal Unit
  | some named, some resolved => if named = resolved then .ok () else .error .valueError
  | _, _ => .ok ()

/-- A recommended play names its recommendation. -/
def requireAttribution (origin : EventOrigin) (attribution : Option Attribution) :
    Except Refusal Unit :=
  if origin = .recommended ∧ attribution.isNone then .error .valueError else .ok ()

/-- The checks of `_apply_listening`. -/
def readListening (env : Env) (db : SyncDb) (p : Principal) (e : Event)
    (attribution : Option Attribution) : Except Refusal Listening := do
  let ref ← resolveTrackRef env db p e
  let recording ← e.payload.uuidOptional "recording_id"
  requireRecording recording ref.recordingId
  let origin ← e.payload.enumField "event_origin" EventOrigin.read
  let context ← e.payload.enumField "context" ListeningContext.read
  let feedback ← e.payload.enumField "explicit_feedback" ExplicitFeedback.read
  requireAttribution origin attribution
  let played ← e.payload.nonnegativeBounded "played_ms" 604800000
  let duration ← e.payload.nullableRange "track_duration_ms" 1 604800000
  let ratio ← completionRatio e.payload
  let excluded ← e.payload.boolean "excluded_from_taste"
  return ⟨ref, recording, origin, context, feedback, played, duration, ratio, excluded⟩

/-- Bind a number to a `numeric` column, to which `boolean` does not cast. -/
def toNumeric : Json → Except Abort ℚ
  | .int i => .ok i
  | .float q => .ok q
  | _ => .error .datatypeMismatch

/-- `INSERT` into `library.listening_event`.  The reference and the recommendation have been read
under their owner, so the foreign key on the recording is the one that can fail. -/
def SyncDb.insertListening (db : SyncDb) (p : Principal) (e : Event) (l : Listening)
    (attribution : Option Attribution) : Except Abort SyncDb := do
  let playedMs ← l.played.toBigint
  let trackDurationMs ← l.duration.mapM PyInt.toBigint
  let ratio ← l.ratio.mapM toNumeric
  if l.recording.all (fun id => id ∈ db.recordings) then
    let listeningEvents ← insertInto .listeningEvent db.listeningEvents
      { listeningEventId := e.eventId, userId := p.userId, deviceId := p.deviceId,
        userTrackRefId := l.ref.userTrackRefId, recordingId := l.recording,
        startedAt := e.occurredAt, playedMs := playedMs, trackDurationMs := trackDurationMs,
        completionRatio := ratio, eventOrigin := l.origin, context := l.context,
        recommendationRequestId := attribution.map Attribution.requestId,
        explicitFeedback := l.feedback, excludedFromTaste := l.excluded }
    return { db with listeningEvents := listeningEvents }
  else throw (.foreignKey .listeningEvent)

/-- The event that tells an interaction, its payload verbatim. -/
def interactionPublication (p : Principal) (e : Event) : Publication where
  eventId := e.eventId
  originDeviceId := some p.deviceId
  eventType := e.eventType
  schemaVersion := e.schemaVersion.val
  aggregateType := e.aggregateType
  aggregateId := e.aggregateId
  serverRowVersion := 1
  operation := .upsert
  payload := e.payload

/-! ## impressions and feedback -/

/-- An impression names its presentation and its display position. -/
def impressionOk (recommendation : Option Payload) (attribution : Option Attribution) : Bool :=
  match recommendation, attribution with
  | some r, some a => a.presentationId.isSome ∧ ((r.get "display_position").bind Json.asInt).isSome
  | _, _ => false

/-- The impression that feedback points to is the owner's own, of the same item. -/
def causalImpression (db : SyncDb) (p : Principal) (a : Attribution) (impressionId : Uuid) :
    Bool :=
  match db.interactions.find impressionId with
  | none => false
  | some i =>
    i.userId = p.userId ∧ i.deviceId = p.deviceId ∧
      i.eventType = .recommendationImpressionRecorded ∧
      i.recommendationRequestId = some a.requestId ∧ i.recordingId = some a.recordingId ∧
      i.sourceRank = some a.rank.val ∧
      (a.presentationId = none ∨ i.presentationId = a.presentationId)

/-- `payload.get("feedback_type") in {"SELECTED", "DISMISSED"}`. -/
def feedbackTypeOk (payload : Payload) : Bool :=
  match payload.get "feedback_type" with
  | some (.str s) => s = "SELECTED" ∨ s = "DISMISSED"
  | _ => false

def interactionRow (p : Principal) (e : Event) (attribution : Option Attribution) :
    UserInteractionEventRow where
  interactionId := e.eventId
  userId := p.userId
  deviceId := p.deviceId
  eventType := e.eventType
  recommendationRequestId := attribution.map Attribution.requestId
  recordingId := attribution.map Attribution.recordingId
  sourceRank := attribution.map (fun a => a.rank.val)
  presentationId := attribution.bind Attribution.presentationId
  impressionInteractionId := attribution.bind Attribution.impressionId
  payload := e.payload

/-- Another interaction of the owner has the semantic key of `r`. -/
def presentationRecorded (db : SyncDb) (r : UserInteractionEventRow) : Bool :=
  db.interactions.rows.any (fun i =>
    i.userId = r.userId ∧ i.presentationId = r.presentationId ∧ r.presentationId ≠ none ∧
      i.recommendationRequestId = r.recommendationRequestId ∧ i.sourceRank = r.sourceRank)

/-! ## `_apply_interaction` -/

/-- The row that the checks of an interaction lead to. -/
inductive InteractionWrite
  | listening (l : Listening) (attribution : Option Attribution)
  | interaction (row : UserInteractionEventRow)

section
variable (env : Env) (db : SyncDb) (p : Principal) (e : Event)

/-- `LISTENING_EVENT_RECORDED`; a lost optimistic write is a validation failure here. -/
def listeningChecks (attribution : Option Attribution) : Except RejectCode InteractionWrite :=
  match readListening env db p e attribution with
  | .error _ => .error .requestValidationFailed
  | .ok l => .ok (.listening l attribution)

/-- `RECOMMENDATION_IMPRESSION_RECORDED`. -/
def impressionChecks (recommendation : Option Payload) (attribution : Option Attribution) :
    Except RejectCode InteractionWrite :=
  if impressionOk recommendation attribution = false then .error .requestValidationFailed
  else if presentationRecorded db (interactionRow p e attribution) then
    .error .impressionAlreadyRecorded
  else .ok (.interaction (interactionRow p e attribution))

/-- `RECOMMENDATION_FEEDBACK_RECORDED`. -/
def feedbackChecks (attribution : Option Attribution) : Except RejectCode InteractionWrite :=
  match attribution with
  | none => .error .requestValidationFailed
  | some a =>
    match a.impressionId with
    | none => .error .requestValidationFailed
    | some impressionId =>
      if feedbackTypeOk e.payload = false then .error .requestValidationFailed
      else if causalImpression db p a impressionId = false then .error .attributionNotFound
      else .ok (.interaction (interactionRow p e attribution))

/-- The checks of the three kinds, when the recommendation pointer is validated or absent. -/
def attributedChecks (recommendation : Option Payload) (attribution : Option Attribution) :
    Except RejectCode InteractionWrite :=
  if e.eventType = .listeningEventRecorded then listeningChecks env db p e attribution
  else if e.eventType = .recommendationImpressionRecorded then
    impressionChecks db p e recommendation attribution
  else feedbackChecks db p e attribution

/-- The payload is one of the event's own kind, on the aggregate of that kind. -/
def interactionTypeOk : Bool :=
  let expected : AggregateType :=
    if e.eventType = .listeningEventRecorded then .listeningEvent else .userInteractionEvent
  let named :=
    match e.payload.get "interaction_type" with
    | some (.str s) => s == e.eventType.text
    | _ => false
  decide (e.aggregateType = expected) && named

/-- **The checks of `_apply_interaction`.** -/
def interactionChecks : Except RejectCode InteractionWrite :=
  if e.eventId ≠ e.aggregateLocalId then .error .eventAggregateIdMismatch
  else if interactionTypeOk e = false then .error .requestValidationFailed
  else
    match e.payload.get "recommendation" with
    | none => attributedChecks env db p e none none
    | some (.obj value) =>
      match validateAttribution db p value with
      | .error .attributionNotFound => .error .attributionNotFound
      | .error _ => .error .requestValidationFailed
      | .ok attribution => attributedChecks env db p e (some value) (some attribution)
    | some _ => .error .requestValidationFailed

end

/-- The `INSERT` of an interaction. -/
def InteractionWrite.run (db : SyncDb) (p : Principal) (e : Event) :
    InteractionWrite → Except Abort SyncDb
  | .listening l attribution => db.insertListening p e l attribution
  | .interaction row => do
    let interactions ← insertInto .userInteractionEvent db.interactions row
    return { db with interactions := interactions }

/-- **`_apply_interaction`**. -/
def applyInteraction (env : Env) (db : SyncDb) (p : Principal) (e : Event) (now : Int)
    (requestId : Uuid) : Except Abort (Ack × SyncDb) :=
  match interactionChecks env db p e with
  | .error code => .ok (rejected e code requestId false, db)
  | .ok write => do
    let db ← write.run db p e
    let db ← db.publish p.userId now (interactionPublication p e)
    return (applied e 1, db)

end AutPlay.Sync
