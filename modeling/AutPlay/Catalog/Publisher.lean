import AutPlay.Catalog.Projections
import AutPlay.Lib.Facts
import AutPlay.Lib.Text
import AutPlay.Sync.Log
import Std.Data.String.ToInt

/-!
# The catalog publisher

`CatalogArtistSyncPublisher.publish` tells an owner's resolved tracks and catalog closure to the
log.  The identifier of an event is made from its page, its row version and the digest of its
payload, and an identifier that is in the log is not inserted again.

* `publish`                       the publication, with the scope of a partial one;
* `Newest`, `Current`             the last event of a page, and that it carries a projection;
* `current_iff`                   one publication leaves a projection current if and only if it was
                                  not in the log, or was current before;
* `publications_converge_iff`     the same for every full publication of a run.
-/

set_option linter.unusedSectionVars false

namespace AutPlay.Catalog
open Sync Result

/-! ## candidates -/

def resolutionStatusText : ResolutionStatus → String
  | .unresolved => "UNRESOLVED"
  | .candidates => "CANDIDATES"
  | .resolved => "RESOLVED"
  | .ambiguous => "AMBIGUOUS"
  | .notFound => "NOT_FOUND"

/-- The live references of the owner that are resolved, by identifier. -/
def resolvedRefs (refs : Table UserTrackRefRow) (owner : Uuid) (refIds : Option (List Uuid)) :
    List UserTrackRefRow :=
  (refs.rows.filter (fun r => r.userId = owner ∧ r.deletedAt = none ∧ r.recordingId.isSome ∧
    refIds.all (fun ids => r.userTrackRefId ∈ ids))).insertionSort
      (fun a b => a.userTrackRefId ≤ b.userTrackRefId)

/-- The names of the two kinds of event. -/
def trackRefEventName (owner refId : Uuid) (rowVersion : Int) (payloadDigest : String) : String :=
  "autplay:user-track-ref-projection-v1:" ++ owner.text ++ ":" ++ refId.text ++ ":" ++
    rowVersion.repr ++ ":" ++ payloadDigest

def catalogEventName (owner : Uuid) (aggregateType : AggregateType) (aggregateId : Uuid)
    (rowVersion : Int) (payloadDigest : String) : String :=
  "autplay:catalog-artist-v1:" ++ owner.text ++ ":" ++ aggregateType.text ++ ":" ++
    aggregateId.text ++ ":" ++ rowVersion.repr ++ ":" ++ payloadDigest

/-- The event type of a projection. -/
def catalogEventType : AggregateType → EventType
  | .artist => .catalogArtistUpserted
  | .artistCredit => .catalogArtistCreditUpserted
  | .recordingArtistCredit => .catalogRecordingCreditLinkUpserted
  | _ => .catalogReleaseCreditLinkUpserted

section
variable (env : CatalogEnv) (cat : CatalogTables)

/-- The payload of a resolved reference, with its description where there is one. -/
def trackRefPayload (ref : UserTrackRefRow) : Payload :=
  [("recording_id", .str ((ref.recordingId.map Uuid.text).getD "None")),
   ("title", optionalText ref.rawTitle),
   ("artist", optionalText ref.rawArtist),
   ("album", optionalText ref.rawAlbum),
   ("duration_ms", (ref.rawDurationMs.map Json.int).getD .null),
   ("resolution_status", .str (resolutionStatusText ref.resolutionStatus))] ++
  match cat.trackMetadata.find ref.userTrackRefId with
  | none => []
  | some descriptive => [("metadata_v1", .obj (metadataView env descriptive))]

def trackRefPublication (owner : Uuid) (ref : UserTrackRefRow) :
    Except PublishError Publication := do
  let canonical ← canonicalPayloadBytes env (trackRefPayload env cat ref)
  return {
    eventId := env.uuid5 (trackRefEventName owner ref.userTrackRefId ref.rowVersion
      (env.sha256 canonical))
    originDeviceId := none
    eventType := .userTrackRefPatched
    schemaVersion := 1
    aggregateType := .userTrackRef
    aggregateId := ref.userTrackRefId
    serverRowVersion := ref.rowVersion
    operation := .upsert
    payload := trackRefPayload env cat ref }

def catalogPublication (owner : Uuid) (v : CatalogArtistProjection) :
    Except PublishError Publication := do
  let canonical ← canonicalPayloadBytes env v.payload
  return {
    eventId := env.uuid5 (catalogEventName owner v.aggregateType v.aggregateId v.rowVersion
      (env.sha256 canonical))
    originDeviceId := none
    eventType := catalogEventType v.aggregateType
    schemaVersion := 1
    aggregateType := v.aggregateType
    aggregateId := v.aggregateId
    serverRowVersion := v.rowVersion
    operation := .upsert
    payload := v.payload }

/-- The recordings whose closure is published: all of them, unless only some references are asked
for and no release carries their recordings. -/
def recordingScope (refs : Table UserTrackRefRow) (owner : Uuid) (refIds : Option (List Uuid)) :
    Option (List Uuid) :=
  match refIds with
  | none => none
  | some _ =>
    let ids := (resolvedRefs refs owner refIds).filterMap UserTrackRefRow.recordingId
    if ids ≠ [] ∧ cat.releaseTracks.rows.any (fun t => t.recordingId ∈ ids) then none else some ids

def candidates (refs : Table UserTrackRefRow) (owner : Uuid) (refIds : Option (List Uuid)) :
    Except PublishError (List Publication) := do
  let resolved ← (resolvedRefs refs owner refIds).mapM (trackRefPublication env cat owner)
  let projections ←
    catalogArtistProjections env cat refs owner (recordingScope cat refs owner refIds)
  let facts ← projections.mapM (catalogPublication env owner)
  return resolved ++ facts

end

/-! ## publication -/

/-- `INSERT … ON CONFLICT DO NOTHING`; a row that is not inserted still takes a sequence. -/
def publishNew (userId : Uuid) (now : Int) (db : SyncDb) (f : Publication) : SyncDb :=
  match db.syncEvents.insert (publishedRow userId now db.nextServerSequence f) with
  | .ok t => { db with syncEvents := t, nextServerSequence := db.nextServerSequence + 1 }
  | .error _ => { db with nextServerSequence := db.nextServerSequence + 1 }

/-- **`CatalogArtistSyncPublisher.publish`**. -/
def publish (env : CatalogEnv) (cat : CatalogTables) (db : SyncDb) (owner : Uuid)
    (refIds : Option (List Uuid)) (now : Int) : Except PublishError (Nat × SyncDb) := do
  let facts ← candidates env cat db.trackRefs owner refIds
  return (facts.length, facts.foldl (publishNew owner now) db)

/-! ## what a candidate is -/

/-- The page of a fact. -/
def pageOf (f : Publication) : PageKey :=
  ⟨f.aggregateType, f.aggregateId, ownerRecordingPageOf f.payload⟩

/-- The name whose UUID identifies a fact. -/
def factName (owner : Uuid) (f : Publication) (payloadDigest : String) : String :=
  if f.aggregateType = .userTrackRef then
    trackRefEventName owner f.aggregateId f.serverRowVersion payloadDigest
  else
    catalogEventName owner f.aggregateType f.aggregateId f.serverRowVersion payloadDigest

/-- The fields of a fact that are the same for all facts of a type. -/
def catalogFact (aggregateType : AggregateType) (eventId aggregateId : Uuid) (version : Int)
    (payload : Payload) : Publication where
  eventId := eventId
  originDeviceId := none
  eventType :=
    if aggregateType = .userTrackRef then .userTrackRefPatched else catalogEventType aggregateType
  schemaVersion := 1
  aggregateType := aggregateType
  aggregateId := aggregateId
  serverRowVersion := version
  operation := .upsert
  payload := payload

/-- `f` is a fact of the owner with the identifier that its name gives it. -/
structure FactOf (env : CatalogEnv) (owner : Uuid) (f : Publication) : Prop where
  fields : f = catalogFact f.aggregateType f.eventId f.aggregateId f.serverRowVersion f.payload
  known : f.aggregateType ∈ AggregateType.userTrackRef :: catalogAggregates
  named : ∃ canonical, env.rfc8785 f.payload = some canonical ∧
    f.eventId = env.uuid5 (factName owner f (env.sha256 canonical))

section
variable {env : CatalogEnv} {cat : CatalogTables} {refs : Table UserTrackRefRow} {owner : Uuid}
  {refIds : Option (List Uuid)} {f : Publication} {fs : List Publication}

theorem canonicalPayloadBytes_ok {payload : Payload} {canonical : String}
    (h : canonicalPayloadBytes env payload = .ok canonical) :
    env.rfc8785 payload = some canonical := by
  unfold canonicalPayloadBytes at h
  split at h
  · cases h
  next c hc =>
    split at h
    · cases h
    · cases h
      exact hc

theorem trackRefPublication_ok {ref : UserTrackRefRow}
    (h : trackRefPublication env cat owner ref = .ok f) :
    FactOf env owner f ∧ pageOf f = ⟨.userTrackRef, ref.userTrackRefId, 0⟩ := by
  obtain ⟨canonical, hc, h⟩ := bind_eq_ok.mp h
  cases h
  refine ⟨⟨rfl, List.mem_cons_self .., canonical, canonicalPayloadBytes_ok hc, rfl⟩, ?_⟩
  show PageKey.mk .userTrackRef ref.userTrackRefId
    (ownerRecordingPageOf (trackRefPayload env cat ref)) = _
  have hp : ownerRecordingPageOf (trackRefPayload env cat ref) = 0 := by
    unfold trackRefPayload
    cases cat.trackMetadata.find ref.userTrackRefId with
    | none => rfl
    | some descriptive => rfl
  rw [hp]

theorem catalogPublication_ok {v : CatalogArtistProjection}
    (ht : v.aggregateType ∈ catalogAggregates)
    (h : catalogPublication env owner v = .ok f) : FactOf env owner f ∧ pageOf f = v.key := by
  obtain ⟨canonical, hc, h⟩ := bind_eq_ok.mp h
  cases h
  have hne : v.aggregateType ≠ .userTrackRef := by
    intro he
    rw [he] at ht
    exact absurd ht (by decide)
  refine ⟨⟨?_, List.mem_cons_of_mem _ ht, canonical, canonicalPayloadBytes_ok hc, ?_⟩, rfl⟩
  · unfold catalogFact
    rw [if_neg hne]
  · unfold factName
    rw [if_neg hne]

/-- **The candidates** are facts of the owner about distinct pages. -/
theorem candidates_ok (h : candidates env cat refs owner refIds = .ok fs) :
    (fs.map pageOf).Nodup ∧ ∀ f ∈ fs, FactOf env owner f := by
  obtain ⟨resolved, hr, h⟩ := bind_eq_ok.mp h
  obtain ⟨projections, hp, h⟩ := bind_eq_ok.mp h
  obtain ⟨facts, hf, h⟩ := bind_eq_ok.mp h
  cases h
  obtain ⟨hkeys, htypes⟩ := catalogArtistProjections_ok hp
  have hpr : resolved.map pageOf = (resolvedRefs refs owner refIds).map
      (fun ref => (⟨.userTrackRef, ref.userTrackRefId, 0⟩ : PageKey)) :=
    map_eq_of_mapM hr fun ref _ f hf => (trackRefPublication_ok hf).2
  have hpf : facts.map pageOf = projections.map CatalogArtistProjection.key :=
    map_eq_of_mapM hf fun v hv f hf => (catalogPublication_ok (htypes v hv) hf).2
  have hnr : (resolved.map pageOf).Nodup := by
    rw [hpr]
    refine List.Nodup.of_map PageKey.aggregateId ?_
    rw [List.map_map]
    have hperm := List.perm_insertionSort
      (fun a b : UserTrackRefRow => a.userTrackRefId ≤ b.userTrackRefId)
      (refs.rows.filter (fun r => r.userId = owner ∧ r.deletedAt = none ∧ r.recordingId.isSome ∧
        refIds.all (fun ids => r.userTrackRefId ∈ ids)))
    refine ((hperm.map _).nodup_iff).mpr ?_
    exact (List.filter_sublist.map _).nodup refs.nodup
  refine ⟨?_, fun f hm => ?_⟩
  · rw [List.map_append, List.nodup_append]
    refine ⟨hnr, hpf ▸ hkeys, fun k hk k' hk' he => ?_⟩
    rw [hpr] at hk
    rw [hpf] at hk'
    obtain ⟨ref, -, rfl⟩ := List.mem_map.mp hk
    obtain ⟨v, hv, rfl⟩ := List.mem_map.mp hk'
    have ht := htypes v hv
    rw [show v.aggregateType = .userTrackRef from (congrArg PageKey.aggregateType he).symm] at ht
    exact absurd ht (by decide)
  · rcases List.mem_append.mp hm with hm | hm
    · obtain ⟨ref, -, he⟩ := mem_of_mapM hr hm
      exact (trackRefPublication_ok he).1
    · obtain ⟨v, hv, he⟩ := mem_of_mapM hf hm
      exact (catalogPublication_ok (htypes v hv) he).1

end

/-! ## names -/

section
variable {owner owner' : Uuid} {f f' : Publication} {d d' : String}

theorem colon_not_mem_text {t : AggregateType} (h : t ∈ catalogAggregates) :
    ':' ∉ t.text.toList := by
  unfold catalogAggregates at h
  simp only [List.mem_cons, List.not_mem_nil, or_false] at h
  rcases h with rfl | rfl | rfl | rfl <;> decide

theorem text_inj {t t' : AggregateType} (h : t ∈ catalogAggregates) (h' : t' ∈ catalogAggregates)
    (he : t.text = t'.text) : t = t' := by
  unfold catalogAggregates at h h'
  simp only [List.mem_cons, List.not_mem_nil, or_false] at h h'
  rcases h with rfl | rfl | rfl | rfl <;> rcases h' with rfl | rfl | rfl | rfl <;>
    first | rfl | exact absurd he (by decide)

theorem trackRefEventName_inj {a a' : Uuid} {v v' : Int} (hd : d.toList.length = d'.toList.length)
    (h : trackRefEventName owner a v d = trackRefEventName owner' a' v' d') :
    owner = owner' ∧ a = a' ∧ v = v' ∧ d = d' := by
  unfold trackRefEventName at h
  simp only [String.append_assoc] at h
  obtain ⟨h₁, h⟩ := colon_inj owner.colon_not_mem_text owner'.colon_not_mem_text
    (string_append_cancel_left h)
  obtain ⟨h₂, h⟩ := colon_inj a.colon_not_mem_text a'.colon_not_mem_text h
  obtain ⟨h₃, h⟩ := colon_inj_of_length hd h
  exact ⟨Uuid.text_injective h₁, Uuid.text_injective h₂, Int.repr_injective h₃, h⟩

theorem catalogEventName_inj {a a' : Uuid} {t t' : AggregateType} {v v' : Int}
    (ht : t ∈ catalogAggregates) (ht' : t' ∈ catalogAggregates)
    (hd : d.toList.length = d'.toList.length)
    (h : catalogEventName owner t a v d = catalogEventName owner' t' a' v' d') :
    owner = owner' ∧ t = t' ∧ a = a' ∧ v = v' ∧ d = d' := by
  unfold catalogEventName at h
  simp only [String.append_assoc] at h
  obtain ⟨h₁, h⟩ := colon_inj owner.colon_not_mem_text owner'.colon_not_mem_text
    (string_append_cancel_left h)
  obtain ⟨h₂, h⟩ := colon_inj (colon_not_mem_text ht) (colon_not_mem_text ht') h
  obtain ⟨h₃, h⟩ := colon_inj a.colon_not_mem_text a'.colon_not_mem_text h
  obtain ⟨h₄, h⟩ := colon_inj_of_length hd h
  exact ⟨Uuid.text_injective h₁, text_inj ht ht' h₂, Uuid.text_injective h₃,
    Int.repr_injective h₄, h⟩

/-- The names of the two kinds differ after `autplay:`. -/
theorem trackRefEventName_ne {a a' : Uuid} {t : AggregateType} {v v' : Int} :
    trackRefEventName owner a v d ≠ catalogEventName owner' t a' v' d' := by
  intro h
  unfold trackRefEventName catalogEventName at h
  simp only [String.append_assoc] at h
  have hl := congrArg (fun s => (String.toList s).take 9) h
  simp only [String.toList_append] at hl
  exact absurd hl (by simp)

/-- **A name tells its fact** up to the digest of the payload. -/
theorem factName_inj (hf : f.aggregateType ∈ AggregateType.userTrackRef :: catalogAggregates)
    (hf' : f'.aggregateType ∈ AggregateType.userTrackRef :: catalogAggregates)
    (hd : d.toList.length = d'.toList.length) (h : factName owner f d = factName owner' f' d') :
    owner = owner' ∧ f.aggregateType = f'.aggregateType ∧ f.aggregateId = f'.aggregateId ∧
      f.serverRowVersion = f'.serverRowVersion ∧ d = d' := by
  unfold factName at h
  by_cases hr : f.aggregateType = .userTrackRef
  · rw [if_pos hr] at h
    by_cases hr' : f'.aggregateType = .userTrackRef
    · rw [if_pos hr'] at h
      obtain ⟨h₁, h₂, h₃, h₄⟩ := trackRefEventName_inj hd h
      exact ⟨h₁, hr.trans hr'.symm, h₂, h₃, h₄⟩
    · rw [if_neg hr'] at h
      exact absurd h trackRefEventName_ne
  · rw [if_neg hr] at h
    by_cases hr' : f'.aggregateType = .userTrackRef
    · rw [if_pos hr'] at h
      exact absurd h.symm trackRefEventName_ne
    · rw [if_neg hr'] at h
      exact catalogEventName_inj ((List.mem_cons.mp hf).resolve_left hr)
        ((List.mem_cons.mp hf').resolve_left hr') hd h

end

/-! ## the log after a publication -/

/-- The page of a row, with its owner. -/
def rowPage (r : SyncEventRow) : Uuid × PageKey :=
  (r.userId, ⟨r.aggregateType, r.aggregateId, ownerRecordingPageOf r.payload⟩)

/-- The last event of a page of the owner. -/
structure Newest (db : SyncDb) (owner : Uuid) (page : PageKey) (r : SyncEventRow) : Prop where
  mem : r ∈ db.syncEvents
  about : rowPage r = (owner, page)
  last : ∀ x ∈ db.syncEvents, rowPage x = (owner, page) → x.serverSequence ≤ r.serverSequence

/-- An event of the owner carries the version and the payload of a fact. -/
def Carries (owner : Uuid) (r : SyncEventRow) (f : Publication) : Prop :=
  r = publishedRow owner r.createdAt r.serverSequence { f with eventId := r.eventId }

/-- The fact is in the log. -/
def Told (db : SyncDb) (owner : Uuid) (f : Publication) : Prop :=
  ∃ r ∈ db.syncEvents, Carries owner r f

/-- **The fact is what the last event of its page carries.** -/
def Current (db : SyncDb) (owner : Uuid) (f : Publication) : Prop :=
  ∃ r, Newest db owner (pageOf f) r ∧ Carries owner r f

section
variable {db : SyncDb} {owner : Uuid} {now : Int} {f : Publication} {fs : List Publication}
  {k : PageKey} {r : SyncEventRow}

theorem Carries.page (h : Carries owner r f) : rowPage r = (owner, pageOf f) := by
  rw [h]
  rfl

theorem newest_iff (ho : LogOrdered db) :
    Newest db owner k r ↔ latest rowPage db.syncEvents.rows (owner, k) = some r := by
  rw [latest_iff ho.ascending]
  exact ⟨fun h => ⟨h.mem, h.about, h.last⟩, fun h => ⟨h.1, h.2.1, h.2.2⟩⟩

/-- Only the log decides what is current. -/
theorem current_congr {db' : SyncDb} (h : db'.syncEvents = db.syncEvents) :
    Current db' owner f ↔ Current db owner f := by
  unfold Current
  have hn : ∀ r, Newest db' owner (pageOf f) r ↔ Newest db owner (pageOf f) r := by
    intro r
    exact ⟨fun hn => ⟨h ▸ hn.mem, hn.about, h ▸ hn.last⟩,
      fun hn => ⟨h ▸ hn.mem, hn.about, h ▸ hn.last⟩⟩
  simp only [hn]

/-- A publication records the rows of its facts. -/
theorem publishNew_foldl (owner : Uuid) (now : Int) (fs : List Publication) (db : SyncDb) :
    (fs.foldl (publishNew owner now) db).syncEvents.rows =
        record SyncEventRow.eventId db.syncEvents.rows
          (publishedRows owner now db.nextServerSequence fs) ∧
      (fs.foldl (publishNew owner now) db).nextServerSequence =
        db.nextServerSequence + fs.length := by
  induction fs generalizing db with
  | nil => exact ⟨rfl, (Int.add_zero _).symm⟩
  | cons f fs ih =>
    have hnext : (publishNew owner now db f).nextServerSequence = db.nextServerSequence + 1 := by
      unfold publishNew
      split <;> rfl
    have hrows : (publishNew owner now db f).syncEvents.rows =
        recordOne SyncEventRow.eventId db.syncEvents.rows
          (publishedRow owner now db.nextServerSequence f) := by
      unfold publishNew
      split
      next t ht =>
        obtain ⟨hn, -, hr⟩ := Table.insert_ok.mp ht
        rw [recordOne_new fun hm => ?_]
        · exact hr
        · obtain ⟨x, hx, he⟩ := List.mem_map.mp hm
          exact Table.find_none.mp hn x hx he
      next c hc =>
        rw [recordOne_known]
        by_contra hm
        have hn : db.syncEvents.find f.eventId = none :=
          Table.find_none.mpr fun x hx he => hm (List.mem_map.mpr ⟨x, hx, he⟩)
        obtain ⟨t, ht⟩ := (Table.insert_unindexed db.syncEvents
          (publishedRow owner now db.nextServerSequence f)).mpr hn
        rw [ht] at hc
        cases hc
    obtain ⟨h₁, h₂⟩ := ih (publishNew owner now db f)
    rw [hnext] at h₁ h₂
    rw [hrows] at h₁
    refine ⟨h₁, h₂.trans ?_⟩
    rw [List.length_cons]
    omega

theorem map_publishedRows {β : Type} (g : SyncEventRow → β) (g' : Publication → β)
    (hg : ∀ sequence f, g (publishedRow owner now sequence f) = g' f) (next : Int) :
    (publishedRows owner now next fs).map g = fs.map g' := by
  induction fs generalizing next with
  | nil => rfl
  | cons f fs ih =>
    show g (publishedRow owner now next f) :: (publishedRows owner now (next + 1) fs).map g = _
    rw [hg, ih, List.map_cons]

theorem publishNew_grows (owner : Uuid) (now : Int) (fs : List Publication) (db : SyncDb) :
    LogGrows db (fs.foldl (publishNew owner now) db) := by
  obtain ⟨hr, hn⟩ := publishNew_foldl owner now fs db
  obtain ⟨new, hs, he⟩ := record_eq_append SyncEventRow.eventId db.syncEvents.rows
    (publishedRows owner now db.nextServerSequence fs)
  obtain ⟨hp, hb⟩ := publishedRows_bounds owner now fs db.nextServerSequence
  refine ⟨⟨new, hr.trans he, hp.sublist hs, fun r hm => ?_⟩, by omega⟩
  have := hb r (hs.subset hm)
  omega

/-- **One publication**: a fact of the batch is current afterwards if and only if its identifier
was unknown, or it was current before. -/
theorem current_publishNew (ho : LogOrdered db) (hp : (fs.map pageOf).Nodup)
    (hi : (fs.map Publication.eventId).Nodup) (hf : f ∈ fs) :
    Current (fs.foldl (publishNew owner now) db) owner f ↔
      (f.eventId ∈ db.syncEvents.rows.map SyncEventRow.eventId → Current db owner f) := by
  have ho' : LogOrdered (fs.foldl (publishNew owner now) db) :=
    ho.grows (publishNew_grows owner now fs db)
  obtain ⟨hr, -⟩ := publishNew_foldl owner now fs db
  obtain ⟨sequence, hrow⟩ := publishedRows_mem owner now db.nextServerSequence hf
  have hpages : ((publishedRows owner now db.nextServerSequence fs).map rowPage).Nodup := by
    rw [map_publishedRows rowPage (fun f => (owner, pageOf f)) fun _ _ => rfl]
    refine List.Nodup.of_map Prod.snd ?_
    rw [List.map_map]
    exact hp
  have hids : ((publishedRows owner now db.nextServerSequence fs).map
      SyncEventRow.eventId).Nodup := by
    rw [map_publishedRows SyncEventRow.eventId Publication.eventId fun _ _ => rfl]
    exact hi
  have hlatest : latest rowPage (record SyncEventRow.eventId db.syncEvents.rows
      (publishedRows owner now db.nextServerSequence fs)) (owner, pageOf f) = _ :=
    latest_record hpages hids hrow
  rw [← hr] at hlatest
  have hpage : rowPage (publishedRow owner now sequence f) = (owner, pageOf f) := rfl
  have hid : (publishedRow owner now sequence f).eventId = f.eventId := rfl
  rw [hpage, hid] at hlatest
  unfold Current
  by_cases hk : f.eventId ∈ db.syncEvents.rows.map SyncEventRow.eventId
  · rw [if_pos hk] at hlatest
    have hsame : ∀ r, Newest (fs.foldl (publishNew owner now) db) owner (pageOf f) r ↔
        Newest db owner (pageOf f) r := by
      intro r
      rw [newest_iff ho', newest_iff ho, hlatest]
    simp only [hsame]
    exact ⟨fun h _ => h, fun h => h hk⟩
  · rw [if_neg hk] at hlatest
    exact ⟨fun _ h => absurd h hk, fun _ => ⟨_, (newest_iff ho').mpr hlatest, rfl⟩⟩

end

/-! ## runs -/

/-- A call of the publisher, with the tables that it finds. -/
structure PublishCall where
  catalog : CatalogTables
  trackRefs : Table UserTrackRefRow
  owner : Uuid
  refIds : Option (List Uuid)
  now : Int

section
variable (env : CatalogEnv)

/-- The facts that the tables hold at a call. -/
def PublishCall.facts (c : PublishCall) : Except PublishError (List Publication) :=
  candidates env c.catalog c.trackRefs c.owner c.refIds

/-- The database after a call; a publication that raises is rolled back. -/
def publishStep (db : SyncDb) (c : PublishCall) : SyncDb :=
  match publish env c.catalog { db with trackRefs := c.trackRefs } c.owner c.refIds c.now with
  | .ok (_, db') => db'
  | .error _ => { db with trackRefs := c.trackRefs }

def publishRun (calls : List PublishCall) : SyncDb := calls.foldl (publishStep env) .empty

/-- The calls publish the fact for the owner. -/
def Publishes (calls : List PublishCall) (owner : Uuid) (f : Publication) : Prop :=
  ∃ c ∈ calls, c.owner = owner ∧ ∃ fs, c.facts env = .ok fs ∧ f ∈ fs

/-- The assumptions on the digests for the facts that the calls publish: a SHA-256 digest is 64
characters long, no two names share a UUID, no two canonical texts share a digest, and no two
payloads share a canonical text. -/
structure NoCollision (calls : List PublishCall) : Prop where
  length : ∀ s, (env.sha256 s).toList.length = 64
  names : ∀ o f o' f' s s', Publishes env calls o f → Publishes env calls o' f' →
    env.rfc8785 f.payload = some s → env.rfc8785 f'.payload = some s' →
    env.uuid5 (factName o f (env.sha256 s)) = env.uuid5 (factName o' f' (env.sha256 s')) →
    factName o f (env.sha256 s) = factName o' f' (env.sha256 s')
  digests : ∀ o f o' f' s s', Publishes env calls o f → Publishes env calls o' f' →
    env.rfc8785 f.payload = some s → env.rfc8785 f'.payload = some s' →
    env.sha256 s = env.sha256 s' → s = s'
  texts : ∀ o f o' f', Publishes env calls o f → Publishes env calls o' f' →
    env.rfc8785 f.payload = env.rfc8785 f'.payload → f.payload = f'.payload

/-- What the log holds: facts that the calls publish. -/
structure FactLog (calls : List PublishCall) (db : SyncDb) : Prop where
  ordered : LogOrdered db
  facts : ∀ r ∈ db.syncEvents, ∃ owner f now sequence,
    Publishes env calls owner f ∧ r = publishedRow owner now sequence f

end

section
variable {env : CatalogEnv} {calls : List PublishCall} {db : SyncDb} {owner owner' : Uuid}
  {f f' : Publication} {c : PublishCall} {fs : List Publication}

theorem Publishes.factOf (h : Publishes env calls owner f) : FactOf env owner f := by
  obtain ⟨c, -, rfl, fs, hfs, hm⟩ := h
  exact (candidates_ok hfs).2 f hm

/-- **Identifiers tell facts apart.** -/
theorem NoCollision.inj (h : NoCollision env calls) (hf : Publishes env calls owner f)
    (hf' : Publishes env calls owner' f') (he : f.eventId = f'.eventId) :
    owner = owner' ∧ f = f' := by
  obtain ⟨hfields, hknown, s, hs, hn⟩ := hf.factOf
  obtain ⟨hfields', hknown', s', hs', hn'⟩ := hf'.factOf
  have hname := h.names owner f owner' f' s s' hf hf' hs hs' (hn.symm.trans (he.trans hn'))
  obtain ⟨ho, ht, hi, hv, hd⟩ := factName_inj hknown hknown'
    ((h.length s).trans (h.length s').symm) hname
  have htext := h.digests owner f owner' f' s s' hf hf' hs hs' hd
  have hpayload : f.payload = f'.payload :=
    h.texts owner f owner' f' hf hf' (by rw [hs, hs', htext])
  refine ⟨ho, ?_⟩
  rw [hfields, hfields', ht, he, hi, hv, hpayload]

/-- It is enough that the facts of one owner differ in their identifiers and digests. -/
theorem NoCollision.of_pairwise (held : Uuid × List Publication)
    (length : ∀ s, (env.sha256 s).toList.length = 64)
    (hall : ∀ o f, Publishes env calls o f → o = held.1 ∧ f ∈ held.2)
    (hids : (held.2.map Publication.eventId).Nodup)
    (hdigests : (held.2.map (fun f => env.sha256 ((env.rfc8785 f.payload).getD ""))).Nodup) :
    NoCollision env calls := by
  have hdig : ∀ o f o' f' s s', Publishes env calls o f → Publishes env calls o' f' →
      env.rfc8785 f.payload = some s → env.rfc8785 f'.payload = some s' →
      env.sha256 s = env.sha256 s' → f = f' := by
    intro o f o' f' s s' hf hf' hs hs' he
    refine List.inj_on_of_nodup_map hdigests (hall o f hf).2 (hall o' f' hf').2 ?_
    rw [hs, hs']
    exact he
  refine ⟨length, fun o f o' f' s s' hf hf' hs hs' he => ?_,
    fun o f o' f' s s' hf hf' hs hs' he => ?_, fun o f o' f' hf hf' he => ?_⟩
  · obtain ⟨-, -, t, ht, hn⟩ := hf.factOf
    obtain ⟨-, -, t', ht', hn'⟩ := hf'.factOf
    rw [hs] at ht
    rw [hs'] at ht'
    cases ht
    cases ht'
    have hff : f = f' := List.inj_on_of_nodup_map hids (hall o f hf).2 (hall o' f' hf').2
      (hn.trans (he.trans hn'.symm))
    subst hff
    rw [hs] at hs'
    cases hs'
    rw [(hall o f hf).1, (hall o' f hf').1]
  · have hff := hdig o f o' f' s s' hf hf' hs hs' he
    subst hff
    rw [hs] at hs'
    exact Option.some.inj hs'
  · obtain ⟨-, -, s, hs, -⟩ := hf.factOf
    have hff := hdig o f o' f' s s hf hf' hs (he ▸ hs) rfl
    rw [hff]

/-- A fact is in the log when its identifier is. -/
theorem told_iff (h : NoCollision env calls) (hl : FactLog env calls db)
    (hf : Publishes env calls owner f) :
    Told db owner f ↔ f.eventId ∈ db.syncEvents.rows.map SyncEventRow.eventId := by
  constructor
  · rintro ⟨r, hr, hc⟩
    obtain ⟨o, g, now, sequence, hg, rfl⟩ := hl.facts r hr
    refine List.mem_map.mpr ⟨_, hr, ?_⟩
    show g.eventId = f.eventId
    have ho : o = owner := congrArg SyncEventRow.userId hc
    have ht : g.aggregateType = f.aggregateType := congrArg SyncEventRow.aggregateType hc
    have hi : g.aggregateId = f.aggregateId := congrArg SyncEventRow.aggregateId hc
    have hv : g.serverRowVersion = f.serverRowVersion :=
      Option.some.inj (congrArg SyncEventRow.serverRowVersion hc)
    have hp : g.payload = f.payload := congrArg SyncEventRow.payload hc
    obtain ⟨-, -, s, hs, hn⟩ := hf.factOf
    obtain ⟨-, -, s', hs', hn'⟩ := hg.factOf
    rw [hp, hs] at hs'
    cases hs'
    rw [hn, hn']
    unfold factName
    rw [ht, hi, hv, ho]
  · intro hm
    obtain ⟨r, hr, he⟩ := List.mem_map.mp hm
    obtain ⟨o, g, now, sequence, hg, rfl⟩ := hl.facts r hr
    obtain ⟨rfl, rfl⟩ := h.inj hg hf he
    exact ⟨_, hr, rfl⟩

theorem publishStep_ok (h : c.facts env = .ok fs) :
    publishStep env db c =
      fs.foldl (publishNew c.owner c.now) { db with trackRefs := c.trackRefs } := by
  unfold publishStep publish
  rw [show candidates env c.catalog c.trackRefs c.owner c.refIds = .ok fs from h]
  rfl

theorem publishStep_error {e : PublishError} (h : c.facts env = .error e) :
    publishStep env db c = { db with trackRefs := c.trackRefs } := by
  unfold publishStep publish
  rw [show candidates env c.catalog c.trackRefs c.owner c.refIds = .error e from h]
  rfl

/-- The log keeps to published facts. -/
theorem FactLog.step (hl : FactLog env calls db) (hc : c ∈ calls) :
    FactLog env calls (publishStep env db c) := by
  cases hfs : c.facts env with
  | error e =>
    rw [publishStep_error hfs]
    exact ⟨⟨hl.ordered.ascending, hl.ordered.bounds, hl.ordered.next⟩, hl.facts⟩
  | ok fs =>
    rw [publishStep_ok hfs]
    have ho : LogOrdered { db with trackRefs := c.trackRefs } :=
      ⟨hl.ordered.ascending, hl.ordered.bounds, hl.ordered.next⟩
    refine ⟨ho.grows (publishNew_grows ..), fun r hr => ?_⟩
    rw [Table.mem_def, (publishNew_foldl ..).1] at hr
    obtain ⟨new, hs, he⟩ := record_eq_append SyncEventRow.eventId db.syncEvents.rows
      (publishedRows c.owner c.now db.nextServerSequence fs)
    rw [show record SyncEventRow.eventId
      ({ db with trackRefs := c.trackRefs } : SyncDb).syncEvents.rows _ = _ from he] at hr
    rcases List.mem_append.mp hr with hr | hr
    · exact hl.facts r hr
    · obtain ⟨f, hf, sequence, hrow⟩ := mem_publishedRows (hs.subset hr)
      exact ⟨c.owner, f, c.now, sequence, ⟨c, hc, rfl, fs, hfs, hf⟩, hrow⟩

theorem FactLog.run (calls' : List PublishCall) (hsub : ∀ c ∈ calls', c ∈ calls)
    (hl : FactLog env calls db) : FactLog env calls (calls'.foldl (publishStep env) db) := by
  induction calls' generalizing db with
  | nil => exact hl
  | cons c calls' ih =>
    exact ih (fun x hx => hsub x (List.mem_cons_of_mem _ hx))
      (hl.step (hsub c (List.mem_cons_self ..)))

/-- **One call**: a fact that the tables hold is current afterwards if and only if it was not in
the log, or was current. -/
theorem current_iff (h : NoCollision env calls) (hl : FactLog env calls db) (hc : c ∈ calls)
    (hfs : c.facts env = .ok fs) (hf : f ∈ fs) :
    Current (publishStep env db c) c.owner f ↔ (Told db c.owner f → Current db c.owner f) := by
  have hpub : ∀ g ∈ fs, Publishes env calls c.owner g := fun g hg => ⟨c, hc, rfl, fs, hfs, hg⟩
  have hpages : (fs.map pageOf).Nodup := (candidates_ok hfs).1
  have hids : (fs.map Publication.eventId).Nodup := by
    have hfn : fs.Nodup := List.Nodup.of_map pageOf hpages
    exact List.Nodup.map_on (fun x hx y hy he => (h.inj (hpub x hx) (hpub y hy) he).2) hfn
  have ho : LogOrdered { db with trackRefs := c.trackRefs } :=
    ⟨hl.ordered.ascending, hl.ordered.bounds, hl.ordered.next⟩
  rw [publishStep_ok hfs, current_publishNew ho hpages hids hf, told_iff h hl (hpub f hf)]
  exact imp_congr Iff.rfl (current_congr rfl)

end

/-- A full call of the run, after the calls `before`, that does not raise. -/
def FullCall (env : CatalogEnv) (calls before : List PublishCall) (c : PublishCall)
    (fs : List Publication) : Prop :=
  (∃ after, calls = before ++ c :: after) ∧ c.refIds = none ∧ c.facts env = .ok fs

namespace Sample

def owner : Uuid := ⟨"00000000-0000-4000-8000-000000000001", Eq.refl true⟩
def refOne : Uuid := ⟨"00000000-0000-4000-8000-0000000000a1", Eq.refl true⟩
def refTwo : Uuid := ⟨"00000000-0000-4000-8000-0000000000a2", by decide⟩
def one : Uuid := ⟨"00000000-0000-4000-8000-0000000000d1", by decide⟩
def two : Uuid := ⟨"00000000-0000-4000-8000-0000000000d2", by decide⟩
def album : Uuid := ⟨"00000000-0000-4000-8000-0000000000e1", by decide⟩
def disc : Uuid := ⟨"00000000-0000-4000-8000-0000000000e2", by decide⟩
def trackOne : Uuid := ⟨"00000000-0000-4000-8000-0000000000e3", by decide⟩
def trackTwo : Uuid := ⟨"00000000-0000-4000-8000-0000000000e4", by decide⟩
def credit : Uuid := ⟨"00000000-0000-4000-8000-0000000000c1", by decide⟩

/-! The canonical texts of the seven payloads. -/

def textTrackOne : String :=
  "\x7b\"album\":null,\"artist\":null,\"duration_ms\":null,\"recording_id\":\"00000000-0000-4000" ++
   "-8000-0000000000d1\",\"resolution_status\":\"RESOLVED\",\"title\":\"One\"\x7d"

def textTrackTwo : String :=
  "\x7b\"album\":null,\"artist\":null,\"duration_ms\":null,\"recording_id\":\"00000000-0000-4000" ++
   "-8000-0000000000d2\",\"resolution_status\":\"RESOLVED\",\"title\":\"Two\"\x7d"

def textCredit : String :=
  "\x7b\"artist_credit_id\":\"00000000-0000-4000-8000-0000000000c1\",\"deleted_at\":null,\"displ" ++
   "ay_name\":\"Duo\",\"names\":[]\x7d"

def textLinkOne : String :=
  "\x7b\"artist_credit_id\":\"00000000-0000-4000-8000-0000000000c1\",\"deleted_at\":null,\"owner" ++
   "_recording_ids\":[\"00000000-0000-4000-8000-0000000000d1\"],\"owner_recording_page\":0,\"owne" ++
   "r_recording_page_count\":1,\"owner_scope_id\":\"47efb20b6d10cfae642df125c956a4f3a5cb6072c4f4c" ++
   "4bd2a65f1e4255d7e6e\",\"recording_id\":\"00000000-0000-4000-8000-0000000000d1\"\x7d"

def textLinkTwo : String :=
  "\x7b\"artist_credit_id\":\"00000000-0000-4000-8000-0000000000c1\",\"deleted_at\":null,\"owner" ++
   "_recording_ids\":[\"00000000-0000-4000-8000-0000000000d2\"],\"owner_recording_page\":0,\"owne" ++
   "r_recording_page_count\":1,\"owner_scope_id\":\"d2fb362b715086f537272316ed622130ce40d2c5ddd04" ++
   "2f952d2158505af7756\",\"recording_id\":\"00000000-0000-4000-8000-0000000000d2\"\x7d"

def textAlbumOne : String :=
  "\x7b\"artist_credit_id\":\"00000000-0000-4000-8000-0000000000c1\",\"deleted_at\":null,\"owner" ++
   "_recording_ids\":[\"00000000-0000-4000-8000-0000000000d1\"],\"owner_recording_page\":0,\"owne" ++
   "r_recording_page_count\":1,\"owner_scope_id\":\"47efb20b6d10cfae642df125c956a4f3a5cb6072c4f4c" ++
   "4bd2a65f1e4255d7e6e\",\"release_id\":\"00000000-0000-4000-8000-0000000000e1\"\x7d"

def textAlbumBoth : String :=
  "\x7b\"artist_credit_id\":\"00000000-0000-4000-8000-0000000000c1\",\"deleted_at\":null,\"owner" ++
   "_recording_ids\":[\"00000000-0000-4000-8000-0000000000d1\",\"00000000-0000-4000-8000-00000000" ++
   "00d2\"],\"owner_recording_page\":0,\"owner_recording_page_count\":1,\"owner_scope_id\":\"0c8f" ++
   "2b77b4d4437e4490a424d20192f00056186084793df9abf3200bb870fe5f\",\"release_id\":\"00000000-0000" ++
   "-4000-8000-0000000000e1\"\x7d"

/-- The canonical text of a payload of the example, told by its shape. -/
def rfc8785 : Payload → Option String
  | [(_, .str _), (_, .str title), (_, .null), (_, .null), (_, .null), (_, .str _)] =>
    some (if title = "One" then textTrackOne else textTrackTwo)
  | [(_, .str _), (_, .str _), (_, .arr []), (_, .null)] => some textCredit
  | [(key, .str id), (_, .str _), (_, .str _), (_, .int _), (_, .int _), (_, .arr [_]),
      (_, .null)] =>
    some (if key = "release_id" then textAlbumOne
      else if id = one.text then textLinkOne else textLinkTwo)
  | [(_, .str _), (_, .str _), (_, .str _), (_, .int _), (_, .int _), (_, .arr [_, _]),
      (_, .null)] => some textAlbumBoth
  | _ => none

/-- What tells the texts of the example apart: the length and the last four bytes. -/
def mark (s : String) : Nat × List Nat :=
  (s.utf8ByteSize, (s.toByteArray.data.toList.reverse.take 4).map UInt8.toNat)

/-- SHA-256 of the three scopes and of the seven canonical texts. -/
def digests : List ((Nat × List Nat) × String) :=
  [((36, [49, 100, 48, 48]), "47efb20b6d10cfae642df125c956a4f3a5cb6072c4f4c4bd2a65f1e4255d7e6e"),
   ((36, [50, 100, 48, 48]), "d2fb362b715086f537272316ed622130ce40d2c5ddd042f952d2158505af7756"),
   ((73, [50, 100, 48, 48]), "0c8f2b77b4d4437e4490a424d20192f00056186084793df9abf3200bb870fe5f"),
   ((146, [125, 34, 101, 110]),
     "e60b75888d44e55ad551b6fc8495589f0a57d5ec28247a2193eeee22dae6de5a"),
   ((146, [125, 34, 111, 119]),
     "c88a118ce39bdcc9ea89f2216e03372247dbed9805f1bf9e0c5de51d017d22e9"),
   ((109, [125, 93, 91, 58]), "dd767c261517e9e8f5768f503e4aec304c0f11420c4090cae211899b95e7f80c"),
   ((334, [125, 34, 49, 100]), "f00a6a1b6f360c98c2c96b1c91e32805d769e98df4408ed9739886c75cdb9554"),
   ((334, [125, 34, 50, 100]), "d448abde600f3911fa923f7231b68812a931061512be1509ae2ded68c5edcfad"),
   ((332, [125, 34, 49, 101]), "c816faf0da3c6a6625ac03c50475124bb50e8c1d1722e17fe6314243c61decf6"),
   ((371, [125, 34, 49, 101]), "f2470d1aca83df9ac086fc587bd56db2659a28c7793e9306640e9714365e0542")]

def sha256 (s : String) : String :=
  (digests.lookup (mark s)).getD
    "e3b0c44298fc1c149afbf4c8996fb92427ae41e4649b934ca495991b7852b855"

/-- `uuid5` of the names of the seven facts. -/
def uuids : List ((Nat × List Nat) × Uuid) :=
  [((177, [97, 53, 101, 100]), ⟨"0901c18a-2232-51d3-aa26-9de259db3415", by decide⟩),
   ((177, [57, 101, 50, 50]), ⟨"6bb4c301-0e80-598e-97dc-f2f07a37013c", by decide⟩),
   ((180, [99, 48, 56, 102]), ⟨"f1261a8a-0386-5075-ae38-6ad847c92ecd", by decide⟩),
   ((190, [52, 53, 53, 57]), ⟨"99017116-4f7d-57ea-ae90-7f8ded4edc55", by decide⟩),
   ((190, [100, 97, 102, 99]), ⟨"e54d542f-f40d-5f20-bcea-3eb9746cb02c", by decide⟩),
   ((188, [54, 102, 99, 101]), ⟨"3a9cde66-7213-559c-bedd-8ff259ab0870", by decide⟩),
   ((188, [50, 52, 53, 48]), ⟨"47d26de3-7e89-58c2-b009-d1f1f64f7abd", by decide⟩)]

def env : CatalogEnv where
  sha256 := sha256
  uuid5 := fun name => (uuids.lookup (mark name)).getD owner
  rfc8785 := rfc8785
  isoformat := fun _ => "1970-01-01T00:00:00+00:00"
  coherentAlbumGroup := fun _ => .null

/-- An album of two tracks, credited to one credit. -/
def catalog : CatalogTables where
  recordings := ⟨[⟨one, credit, 1, none⟩, ⟨two, credit, 1, none⟩], by decide, by simp [Schema.index]⟩
  releases := ⟨[⟨album, credit, 1, none⟩], by decide, by simp [Schema.index]⟩
  media := ⟨[⟨disc, album⟩], by decide, by simp [Schema.index]⟩
  releaseTracks := ⟨[⟨trackOne, disc, one⟩, ⟨trackTwo, disc, two⟩], by decide,
    by simp [Schema.index]⟩
  artistCredits := ⟨[⟨credit, "Duo", 1, none⟩], by decide, by simp [Schema.index]⟩
  artistCreditNames := .empty
  artists := .empty
  trackMetadata := .empty

def ref (id recordingId : Uuid) (title : String) : UserTrackRefRow where
  userTrackRefId := id
  userId := owner
  recordingId := some recordingId
  resolutionStatus := .resolved
  rawTitle := some title
  rawArtist := none
  rawAlbum := none
  rawDurationMs := none
  deletedAt := none
  rowVersion := 1

def small : PublishCall where
  catalog := catalog
  trackRefs := ⟨[ref refOne one "One"], by decide, by simp [Schema.index]⟩
  owner := owner
  refIds := none
  now := 0

def large : PublishCall where
  catalog := catalog
  trackRefs := ⟨[ref refOne one "One", ref refTwo two "Two"], by decide, by simp [Schema.index]⟩
  owner := owner
  refIds := none
  now := 0

/-- What the tables hold at a call. -/
def held (c : PublishCall) : List Publication :=
  match c.facts env with
  | .ok fs => fs
  | .error _ => []

theorem facts_held {c : PublishCall} {fs : List Publication} (h : c.facts env = .ok fs) :
    held c = fs := by
  unfold held
  rw [h]

theorem sha256_length (s : String) : (sha256 s).toList.length = 64 := by
  have hall : ∀ d ∈ "e3b0c44298fc1c149afbf4c8996fb92427ae41e4649b934ca495991b7852b855" ::
      digests.map Prod.snd, d.toList.length = 64 := by decide +kernel
  refine hall _ ?_
  unfold sha256
  cases h : digests.lookup (mark s) with
  | none => exact List.mem_cons_self ..
  | some d =>
    obtain ⟨before, after, hsplit, -⟩ := List.lookup_eq_some_iff.mp h
    refine List.mem_cons_of_mem _ (List.mem_map.mpr ⟨(mark s, d), ?_, rfl⟩)
    rw [hsplit]
    exact List.mem_append_right _ (List.mem_cons_self ..)

end Sample

end AutPlay.Catalog
