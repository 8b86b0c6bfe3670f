import AutPlay.Sync.Value

/-!
# Events and acknowledgements

`Event` is what the envelope validation `_event` returns: the fields it has checked, with the facts
it has checked about them.  `Ack` is the terminal acknowledgement of one event.
-/

set_option linter.unusedSectionVars false

namespace AutPlay.Sync

inductive EventType
  | userTrackRefCreated
  | userTrackRefPatched
  | libraryEntryUpserted
  | userTrackPreferenceSet
  | playlistCreated
  | playlistMetadataPatched
  | playlistEntryUpserted
  | playlistEntryMoved
  | aggregateDeleted
  | listeningEventRecorded
  | recommendationImpressionRecorded
  | recommendationFeedbackRecorded
  | catalogArtistUpserted
  | catalogArtistCreditUpserted
  | catalogRecordingCreditLinkUpserted
  | catalogReleaseCreditLinkUpserted
  | other (name : String)
  deriving DecidableEq, Repr

inductive AggregateType
  | userTrackRef
  | libraryEntry
  | userTrackPreference
  | playlist
  | playlistEntry
  | listeningEvent
  | userInteractionEvent
  | artist
  | artistCredit
  | recordingArtistCredit
  | releaseArtistCredit
  | other (name : String)
  deriving DecidableEq, Repr

namespace EventType

/-- The names both sides know. -/
def known : List (EventType × String) :=
  [(userTrackRefCreated, "USER_TRACK_REF_CREATED"),
   (userTrackRefPatched, "USER_TRACK_REF_PATCHED"),
   (libraryEntryUpserted, "LIBRARY_ENTRY_UPSERTED"),
   (userTrackPreferenceSet, "USER_TRACK_PREFERENCE_SET"),
   (playlistCreated, "PLAYLIST_CREATED"),
   (playlistMetadataPatched, "PLAYLIST_METADATA_PATCHED"),
   (playlistEntryUpserted, "PLAYLIST_ENTRY_UPSERTED"),
   (playlistEntryMoved, "PLAYLIST_ENTRY_MOVED"),
   (aggregateDeleted, "AGGREGATE_DELETED"),
   (listeningEventRecorded, "LISTENING_EVENT_RECORDED"),
   (recommendationImpressionRecorded, "RECOMMENDATION_IMPRESSION_RECORDED"),
   (recommendationFeedbackRecorded, "RECOMMENDATION_FEEDBACK_RECORDED"),
   (catalogArtistUpserted, "CATALOG_ARTIST_UPSERTED"),
   (catalogArtistCreditUpserted, "CATALOG_ARTIST_CREDIT_UPSERTED"),
   (catalogRecordingCreditLinkUpserted, "CATALOG_RECORDING_CREDIT_LINK_UPSERTED"),
   (catalogReleaseCreditLinkUpserted, "CATALOG_RELEASE_CREDIT_LINK_UPSERTED")]

def text : EventType → String
  | other name => name
  | t => (known.lookup t).getD ""

def ofText (s : String) : EventType :=
  match known.find? (fun p => p.2 == s) with
  | some p => p.1
  | none => other s

end EventType

namespace AggregateType

def known : List (AggregateType × String) :=
  [(userTrackRef, "USER_TRACK_REF"),
   (libraryEntry, "LIBRARY_ENTRY"),
   (userTrackPreference, "USER_TRACK_PREFERENCE"),
   (playlist, "PLAYLIST"),
   (playlistEntry, "PLAYLIST_ENTRY"),
   (listeningEvent, "LISTENING_EVENT"),
   (userInteractionEvent, "USER_INTERACTION_EVENT"),
   (artist, "ARTIST"),
   (artistCredit, "ARTIST_CREDIT"),
   (recordingArtistCredit, "RECORDING_ARTIST_CREDIT"),
   (releaseArtistCredit, "RELEASE_ARTIST_CREDIT")]

def text : AggregateType → String
  | other name => name
  | t => (known.lookup t).getD ""

def ofText (s : String) : AggregateType :=
  match known.find? (fun p => p.2 == s) with
  | some p => p.1
  | none => other s

end AggregateType

/-- `_GENERIC_EVENT_TYPES`: the aggregate type that each generic event type is about. -/
def genericEventTypes : List (EventType × AggregateType) :=
  [(.userTrackRefCreated, .userTrackRef),
   (.userTrackRefPatched, .userTrackRef),
   (.libraryEntryUpserted, .libraryEntry),
   (.userTrackPreferenceSet, .userTrackPreference),
   (.playlistCreated, .playlist),
   (.playlistMetadataPatched, .playlist),
   (.playlistEntryUpserted, .playlistEntry),
   (.playlistEntryMoved, .playlistEntry)]

/-- A validated event. -/
structure Event where
  eventId : Uuid
  idempotencyKey : String
  deviceSequence : PyInt
  eventType : EventType
  schemaVersion : PyInt
  aggregateType : AggregateType
  aggregateLocalId : Uuid
  serverProfileId : Option Uuid
  /-- The server id the client sent, or else its local id. -/
  aggregateId : Uuid
  baseVersion : Option PyInt
  occurredAt : Int
  payload : Payload
  requestHash : String

/-! ## acknowledgements -/

inductive Outcome
  | applied
  | conflict
  | rejected
  | duplicate
  deriving DecidableEq, Repr

inductive RejectCode
  | journalResetRequired
  | eventHashMismatch
  | deviceSequenceReuse
  | idempotencyKeyReuse
  | deviceSequenceGap
  | unsupportedSchemaVersion
  | unsupportedEventType
  | unsupportedAggregateType
  | eventAggregateIdMismatch
  | requestValidationFailed
  | attributionNotFound
  | impressionAlreadyRecorded
  deriving DecidableEq, Repr

def RejectCode.text : RejectCode → String
  | journalResetRequired => "JOURNAL_RESET_REQUIRED"
  | eventHashMismatch => "EVENT_HASH_MISMATCH"
  | deviceSequenceReuse => "DEVICE_SEQUENCE_REUSE"
  | idempotencyKeyReuse => "IDEMPOTENCY_KEY_REUSE"
  | deviceSequenceGap => "DEVICE_SEQUENCE_GAP"
  | unsupportedSchemaVersion => "UNSUPPORTED_SCHEMA_VERSION"
  | unsupportedEventType => "UNSUPPORTED_EVENT_TYPE"
  | unsupportedAggregateType => "UNSUPPORTED_AGGREGATE_TYPE"
  | eventAggregateIdMismatch => "EVENT_AGGREGATE_ID_MISMATCH"
  | requestValidationFailed => "REQUEST_VALIDATION_FAILED"
  | attributionNotFound => "ATTRIBUTION_NOT_FOUND"
  | impressionAlreadyRecorded => "IMPRESSION_ALREADY_RECORDED"

structure ErrorBody where
  code : RejectCode
  message : String
  retryable : Bool
  requestId : Uuid
  deriving DecidableEq

structure ConflictBody where
  conflictKind : String
  resolutionState : String
  deriving DecidableEq

structure Ack where
  eventId : Uuid
  deviceSequence : PyInt
  aggregateType : AggregateType
  aggregateLocalId : Uuid
  aggregateServerId : Option Uuid
  outcome : Outcome
  originalOutcome : Option Outcome
  error : Option ErrorBody
  conflict : Option ConflictBody
  serverRowVersion : Option Int
  deriving DecidableEq

/-- `_error`. -/
def errorBody (code : RejectCode) (requestId : Uuid) (retryable : Bool) : ErrorBody :=
  ⟨code, "The event could not be applied.", retryable, requestId⟩

/-- `_rejected`. -/
def rejected (e : Event) (code : RejectCode) (requestId : Uuid) (retryable : Bool) : Ack where
  eventId := e.eventId
  deviceSequence := e.deviceSequence
  aggregateType := e.aggregateType
  aggregateLocalId := e.aggregateLocalId
  aggregateServerId := none
  outcome := .rejected
  originalOutcome := none
  error := some (errorBody code requestId retryable)
  conflict := none
  serverRowVersion := none

/-- `_conflict`. -/
def conflicted (e : Event) : Ack where
  eventId := e.eventId
  deviceSequence := e.deviceSequence
  aggregateType := e.aggregateType
  aggregateLocalId := e.aggregateLocalId
  aggregateServerId := some e.aggregateId
  outcome := .conflict
  originalOutcome := none
  error := none
  conflict := some ⟨"STALE_VERSION", "REVIEW_REQUIRED"⟩
  serverRowVersion := none

/-- `_applied`. -/
def applied (e : Event) (version : Int) : Ack where
  eventId := e.eventId
  deviceSequence := e.deviceSequence
  aggregateType := e.aggregateType
  aggregateLocalId := e.aggregateLocalId
  aggregateServerId := some e.aggregateId
  outcome := .applied
  originalOutcome := none
  error := none
  conflict := none
  serverRowVersion := some version

/-- `_duplicate` of a stored acknowledgement. -/
def duplicate (ack : Ack) (e : Event) : Ack :=
  { ack with outcome := .duplicate, originalOutcome := some ack.outcome, eventId := e.eventId }

/-- A terminal outcome: what the inbox records. -/
def Outcome.Terminal (o : Outcome) : Prop := o = .applied ∨ o = .conflict ∨ o = .rejected

instance (o : Outcome) : Decidable o.Terminal :=
  inferInstanceAs (Decidable (o = .applied ∨ o = .conflict ∨ o = .rejected))

end AutPlay.Sync
