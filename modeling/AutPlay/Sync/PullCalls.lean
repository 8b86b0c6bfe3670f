import AutPlay.Sync.Pull
import AutPlay.Sync.Log

/-!
# What a call does to the log, the cursors and the tombstones

* `ServerCall.run`        every transaction that touches them;
* `pull_ok`               what an accepted pull presents, answers and acknowledges;
* `call_effect`           what each call writes, case by case;
* `Effect.log`            the log only grows.
-/

set_option linter.unusedSectionVars false

namespace AutPlay.Sync
open Result Follow

/-- What the server runs with. -/
structure SyncTools where
  env : Env
  catalogEnv : Catalog.CatalogEnv
  cursors : OpaqueCursor

/-- A transaction: those of `SyncService`, of the catalogue publisher, and of the accounts. -/
inductive ServerCall
  | push (call : PushCall)
  | publish (catalog : Catalog.CatalogTables) (owner : Uuid) (refIds : Option (List Uuid)) (now : Int)
  | bind (p : Principal) (body : JournalBinding) (described : Bool)
  | pull (p : Principal) (body : PullBody) (now : Int)
  | compact (now : Int)
  | enrol (device : DeviceRow)
  | revoke (deviceId : Uuid) (now : Int)

def SyncDb.enrol (db : SyncDb) (device : DeviceRow) : SyncDb :=
  match db.devices.insert device with
  | .ok devices => { db with devices := devices }
  | .error _ => db

def SyncDb.revoke (db : SyncDb) (deviceId : Uuid) (now : Int) : SyncDb :=
  { db with devices := db.devices.updateWhere (fun row => row.deviceId = deviceId ∧ row.revokedAt = none) fun row =>
      { row with revokedAt := some now } }

/-- The database after a transaction that may be refused. -/
def committedTo {ε : Type} (db : SyncDb) : Except ε SyncDb → SyncDb
  | .ok db' => db'
  | .error _ => db

theorem committedTo_cases {ε : Type} (db : SyncDb) (result : Except ε SyncDb) :
    committedTo db result = db ∨ result = .ok (committedTo db result) := by
  cases result with
  | error e => exact .inl rfl
  | ok db' => exact .inr rfl

/-- The database after a call. -/
def ServerCall.run (tools : SyncTools) (db : SyncDb) : ServerCall → SyncDb
  | .push call => pushStep tools.env db call
  | .publish catalog owner refIds now =>
    committedTo db ((Catalog.publish tools.catalogEnv catalog db owner refIds now).map Prod.snd)
  | .bind p body described => committedTo db (AutPlay.Sync.bind db p body described)
  | .pull p body now => committedTo db ((AutPlay.Sync.pull tools.cursors db p body now).map Prod.snd)
  | .compact now => compactTombstones db now
  | .enrol device => db.enrol device
  | .revoke deviceId now => db.revoke deviceId now

/-! ## requests -/

section
variable {cursors : OpaqueCursor} {db db' : SyncDb} {p : Principal} {now : Int}

theorem binding_ok {body : JournalBinding} {epoch : Uuid} (h : binding p body = .ok epoch) :
    epoch = body.journalEpoch := by
  unfold binding at h
  split at h
  · cases h
  split at h
  · cases h
  · cases h
    rfl

/-- What an accepted pull presents, answers and acknowledges. -/
structure Pulls (cursors : OpaqueCursor) (db : SyncDb) (p : Principal) (body : PullBody) (now sequence : Int)
    (r : PullPage × SyncDb) : Prop where
  limit : 1 ≤ body.limit ∧ body.limit ≤ maxPull
  presented : presentedSequence cursors p body.binding.journalEpoch body.cursor now = .ok sequence
  bound : boundTo body.binding.journalEpoch (db.cursors.find p.deviceId) = true
  page : r.1 = pullPage cursors db p body.binding.journalEpoch body sequence now
  acknowledged : r.2 = db.acknowledge p.deviceId sequence

theorem pull_ok {body : PullBody} {r : PullPage × SyncDb} :
    pull cursors db p body now = .ok r ↔
      binding p body.binding = .ok body.binding.journalEpoch ∧
        ∃ sequence, Pulls cursors db p body now sequence r := by
  unfold pull
  constructor
  · intro h
    obtain ⟨x, hx, h⟩ := bind_eq_ok.mp h
    obtain rfl := binding_ok hx
    split at h
    · cases h
    next hlimit =>
    obtain ⟨sequence, hsequence, h⟩ := bind_eq_ok.mp h
    split at h
    · cases h
    next hbound =>
    cases h
    exact ⟨hx, sequence, not_not.mp hlimit, hsequence, by simpa using hbound, rfl, rfl⟩
  · rintro ⟨hx, sequence, hlimit, hsequence, hbound, hpage, hack⟩
    refine bind_of_ok hx ?_
    rw [if_neg (not_not.mpr hlimit)]
    refine bind_of_ok hsequence ?_
    rw [if_neg (not_not.mpr hbound), ← hpage, ← hack]
    rfl

theorem presentedSequence_nonneg {epoch : Uuid} {cursor : Option String} {sequence : Int}
    (h : presentedSequence cursors p epoch cursor now = .ok sequence) : 0 ≤ sequence := by
  unfold presentedSequence at h
  split at h
  · cases h
    exact le_refl 0
  next token =>
    unfold OpaqueCursor.decode at h
    split at h
    · split at h
      next hbody =>
        cases h
        exact hbody.2.2.2.2
      · cases h
    · cases h

/-- What a request answered with is what it signed. -/
theorem decode_encode {epoch : Uuid} {sequence now' sequence' : Int}
    (h : cursors.decode (cursors.encode p.userId p.deviceId epoch sequence now') p.userId p.deviceId epoch now =
      .ok sequence') : sequence' = sequence := by
  unfold OpaqueCursor.decode OpaqueCursor.encode at h
  rw [cursors.verified_text] at h
  dsimp only at h
  split at h
  · cases h
    rfl
  · cases h

end

/-! ## what is written -/

section
variable {tools : SyncTools} {db db' : SyncDb} {call : ServerCall}

/-- All but the log is left alone, of what this is about. -/
structure SameReaders (db db' : SyncDb) : Prop where
  devices : db'.devices = db.devices
  cursors : db'.cursors = db.cursors
  tombstones : db'.tombstones = db.tombstones

/-- A publication appends facts that are no deletions. -/
structure Publishes (db db' : SyncDb) : Prop where
  same : SameReaders db db'
  log : LogGrows db db'
  upserts : ∀ r ∈ db'.syncEvents, r ∉ db.syncEvents → r.operation = .upsert

/-- A bound device has a cursor, and it is where it was. -/
structure Binds (p : Principal) (db db' : SyncDb) : Prop where
  rest : db' = { db with cursors := db'.cursors }
  cursors : ∃ cursor epoch, cursor.deviceId = p.deviceId ∧ cursor.lastPulledServerSequence = 0 ∧
    db'.cursors = db.cursors.upsert cursor fun row => { row with journalEpoch := some epoch }

theorem publishNew_same (owner : Uuid) (now : Int) (fs : List Publication) (db : SyncDb) :
    SameReaders db (fs.foldl (Catalog.publishNew owner now) db) := by
  induction fs generalizing db with
  | nil => exact ⟨rfl, rfl, rfl⟩
  | cons f fs ih =>
    obtain ⟨h₁, h₂, h₃⟩ := ih (Catalog.publishNew owner now db f)
    rw [List.foldl_cons]
    have hone : SameReaders db (Catalog.publishNew owner now db f) := by
      unfold Catalog.publishNew
      split
      · exact ⟨rfl, rfl, rfl⟩
      · exact ⟨rfl, rfl, rfl⟩
    exact ⟨h₁.trans hone.devices, h₂.trans hone.cursors, h₃.trans hone.tombstones⟩

theorem publish_writes {env : Catalog.CatalogEnv} {catalog : Catalog.CatalogTables} {owner : Uuid}
    {refIds : Option (List Uuid)} {now : Int}
    (h : (Catalog.publish env catalog db owner refIds now).map Prod.snd = .ok db') : Publishes db db' := by
  obtain ⟨r, hr, rfl⟩ := map_eq_ok.mp h
  obtain ⟨fs, hfs, heq⟩ := bind_eq_ok.mp hr
  cases heq
  refine ⟨publishNew_same owner now fs db, Catalog.publishNew_grows owner now fs db, fun r hr hnew => ?_⟩
  rw [Table.mem_def, (Catalog.publishNew_foldl owner now fs db).1] at hr
  obtain ⟨new, hs, hrows⟩ := record_eq_append SyncEventRow.eventId db.syncEvents.rows
    (publishedRows owner now db.nextServerSequence fs)
  rw [hrows] at hr
  rcases List.mem_append.mp hr with hr | hr
  · exact absurd hr hnew
  · obtain ⟨f, hf, sequence, rfl⟩ := mem_publishedRows (hs.subset hr)
    show f.operation = .upsert
    rw [((Catalog.candidates_ok hfs).2 f hf).fields]
    rfl

theorem bind_writes {p : Principal} {body : JournalBinding} {described : Bool}
    (h : AutPlay.Sync.bind db p body described = .ok db') : Binds p db db' := by
  unfold AutPlay.Sync.bind at h
  obtain ⟨epoch, -, h⟩ := bind_eq_ok.mp h
  split at h
  · cases h
  split at h
  · cases h
  dsimp only at h
  split at h
  · cases h
  · cases h
    exact ⟨rfl, _, epoch, rfl, rfl, rfl⟩

/-- The loop of the compaction changes the tombstones only. -/
theorem compact_same (tombstones : List TombstoneRow) (db : SyncDb) :
    tombstones.foldl compactTombstone db = { db with tombstones := (tombstones.foldl compactTombstone db).tombstones } := by
  induction tombstones generalizing db with
  | nil => rfl
  | cons t tombstones ih =>
    rw [List.foldl_cons, ih]
    have hone : compactTombstone db t = { db with tombstones := (compactTombstone db t).tombstones } := by
      unfold compactTombstone
      split
      · rfl
      · split
        · rfl
        · rfl
    rw [hone]

/-- **What a call does**, case by case. -/
inductive Effect (tools : SyncTools) (db : SyncDb) : ServerCall → SyncDb → Prop
  | refused (call : ServerCall) : Effect tools db call db
  | pushed (call : PushCall) {db' : SyncDb} (told : Told call.principal call.event call.now db db')
      (devices : db'.devices = db.devices)
      (cursors : ∃ cursor sequence, db.cursors.find call.principal.deviceId = some cursor ∧
        db.cursors.update { cursor with lastAckedDeviceSequence := sequence } = .ok db'.cursors) :
      Effect tools db (.push call) db'
  | published (catalog : Catalog.CatalogTables) (owner : Uuid) (refIds : Option (List Uuid)) (now : Int)
      {db' : SyncDb} (h : Publishes db db') : Effect tools db (.publish catalog owner refIds now) db'
  | bound (p : Principal) (body : JournalBinding) (described : Bool) {db' : SyncDb} (h : Binds p db db') :
      Effect tools db (.bind p body described) db'
  | pulled (p : Principal) (body : PullBody) (now sequence : Int) {page : PullPage}
      (h : Pulls tools.cursors db p body now sequence (page, db.acknowledge p.deviceId sequence)) :
      Effect tools db (.pull p body now) (db.acknowledge p.deviceId sequence)
  | compacted (now : Int) : Effect tools db (.compact now) (compactTombstones db now)
  | enrolled (device : DeviceRow) {devices : Table DeviceRow} (h : db.devices.insert device = .ok devices) :
      Effect tools db (.enrol device) { db with devices := devices }
  | revoked (deviceId : Uuid) (now : Int) : Effect tools db (.revoke deviceId now) (db.revoke deviceId now)

theorem call_effect (tools : SyncTools) (db : SyncDb) (call : ServerCall) : Effect tools db call (call.run tools db) := by
  cases call with
  | push call =>
    rcases pushStep_cases tools.env db call with hs | ⟨ack, db₁, -, cursor, sequence, hnext, happly, hp, hrecorded⟩
    · rw [show ServerCall.run tools db (.push call) = db from hs]
      exact .refused _
    · refine .pushed call (told_push call) ?_ ⟨cursor, sequence, hnext.found, hrecorded.cursors⟩
      have hsame := (applyEvent_projected happly).journal.devices
      unfold SameProjections at hp
      show (pushStep tools.env db call).devices = _
      rw [hp]
      exact hsame
  | publish catalog owner refIds now =>
    rcases committedTo_cases db ((Catalog.publish tools.catalogEnv catalog db owner refIds now).map Prod.snd) with
      h | h
    · rw [show ServerCall.run tools db (.publish catalog owner refIds now) = db from h]
      exact .refused _
    · exact .published catalog owner refIds now (publish_writes h)
  | bind p body described =>
    rcases committedTo_cases db (AutPlay.Sync.bind db p body described) with h | h
    · rw [show ServerCall.run tools db (.bind p body described) = db from h]
      exact .refused _
    · exact .bound p body described (bind_writes h)
  | pull p body now =>
    rcases committedTo_cases db ((AutPlay.Sync.pull tools.cursors db p body now).map Prod.snd) with h | h
    · rw [show ServerCall.run tools db (.pull p body now) = db from h]
      exact .refused _
    · obtain ⟨⟨page, db'⟩, hr, heq⟩ := map_eq_ok.mp h
      obtain ⟨-, sequence, hpulls⟩ := pull_ok.mp hr
      obtain rfl : db' = _ := hpulls.acknowledged
      rw [show ServerCall.run tools db (.pull p body now) = _ from heq.symm]
      exact .pulled p body now sequence hpulls
  | compact now => exact .compacted now
  | enrol device =>
    show Effect tools db (.enrol device) (db.enrol device)
    unfold SyncDb.enrol
    split
    next devices h => exact .enrolled device h
    · exact .refused _
  | revoke deviceId now => exact .revoked deviceId now

/-- **The log only grows**, at its end. -/
theorem Effect.log (h : Effect tools db call db') : LogGrows db db' := by
  cases h with
  | refused => exact .refl db
  | pushed call told devices cursors =>
    obtain ⟨fs, happends, -⟩ := told.log
    exact happends.grows
  | published catalog owner refIds now h => exact h.log
  | bound p body described h =>
    rw [h.rest]
    exact .of_eq rfl rfl
  | pulled p body now sequence h => exact .of_eq rfl rfl
  | compacted now =>
    unfold compactTombstones
    rw [compact_same]
    exact .of_eq rfl rfl
  | enrolled device h => exact .of_eq rfl rfl
  | revoked deviceId now => exact .of_eq rfl rfl

end

end AutPlay.Sync
