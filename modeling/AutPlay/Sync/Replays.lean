import AutPlay.Lib.Replay
import AutPlay.Sync.Owners
import AutPlay.Sync.Followers

/-!
# The log tells the rows

A push writes rows and tells them in the log; a rebalance tells every entry that it re-keys.  The catalogue tells a
row again as it stands.  So the owner, the version and the deletion of a track reference, a playlist or an entry can
be read off the log.

* `standingOf`            what the tables say;
* `told`                  what a log says;
* `Retold`                a step whose events tell its writes (`call_retold`);
* `log_tells`             the two agree in every run, for the log of each owner.

Library entries are left out: one that is nested in a new reference is not told.
-/

set_option linter.unusedSectionVars false

namespace AutPlay.Sync
open Result Replay

/-- What an event says about its aggregate. -/
structure Notice where
  key : AggregateType × Uuid
  userId : Uuid
  rowVersion : Option Int
  operation : Operation

def SyncEventRow.notice (r : SyncEventRow) : Notice :=
  ⟨(r.aggregateType, r.aggregateId), r.userId, r.serverRowVersion, r.operation⟩

def Publication.notice (userId : Uuid) (f : Publication) : Notice :=
  ⟨(f.aggregateType, f.aggregateId), userId, some f.serverRowVersion, f.operation⟩

/-- The owner and the version of a row, and whether it is deleted. -/
structure Standing where
  userId : Uuid
  rowVersion : Option Int
  deleted : Bool
  deriving DecidableEq

/-- A deletion lasts. -/
def Notice.tell (old : Option Standing) (n : Notice) : Standing :=
  ⟨n.userId, n.rowVersion, old.any Standing.deleted || decide (n.operation = .delete)⟩

def UserTrackRefRow.standing (r : UserTrackRefRow) : Standing := ⟨r.userId, some r.rowVersion, r.deletedAt.isSome⟩

def PlaylistRow.standing (r : PlaylistRow) : Standing := ⟨r.ownerUserId, some r.rowVersion, r.deletedAt.isSome⟩

def PlaylistEntryRow.standing (r : PlaylistEntryRow) : Standing :=
  ⟨r.addedByUserId, some r.rowVersion, r.removedAt.isSome⟩

/-- What the tables say about an aggregate. -/
def standingOf (db : SyncDb) : AggregateType × Uuid → Option Standing
  | (.userTrackRef, id) => (db.trackRefs.find id).map UserTrackRefRow.standing
  | (.playlist, id) => (db.playlists.find id).map PlaylistRow.standing
  | (.playlistEntry, id) => (db.playlistEntries.find id).map PlaylistEntryRow.standing
  | _ => none

def followed : List AggregateType := [.userTrackRef, .playlist, .playlistEntry]

/-- What a log says. -/
def told (log : List SyncEventRow) : AggregateType × Uuid → Option Standing :=
  replay Notice.key Notice.tell (fun _ => none) (log.map SyncEventRow.notice)

/-- The notices of an owner tell what a step writes; they are about rows of this owner. -/
structure Tells (userId : Uuid) (notices : List Notice) (db db' : SyncDb) (k : AggregateType × Uuid) : Prop where
  standing : standingOf db' k = replay Notice.key Notice.tell (standingOf db) notices k
  users : ∀ n ∈ notices, n.userId = userId
  owner : (∃ n ∈ notices, n.key = k) → ∀ s, standingOf db k = some s → s.userId = userId

/-- A step whose events tell its writes. -/
def Retold (db db' : SyncDb) : Prop :=
  ∃ userId new, db'.syncEvents.rows = db.syncEvents.rows ++ new ∧
    ∀ k, k.1 ∈ followed → Tells userId (new.map SyncEventRow.notice) db db' k

/-- **The log tells the rows**; each event about a row is one of its owner. -/
structure LogTells (db : SyncDb) : Prop where
  standing : ∀ k, k.1 ∈ followed → standingOf db k = told db.syncEvents.rows k
  owners : ∀ r ∈ db.syncEvents, r.notice.key.1 ∈ followed →
    ∀ s, standingOf db r.notice.key = some s → s.userId = r.userId

section
variable {db db' db'' : SyncDb} {userId : Uuid} {notices : List Notice} {k k' : AggregateType × Uuid}

theorem standing_congr (hrefs : db'.trackRefs = db.trackRefs) (hlists : db'.playlists = db.playlists)
    (hentries : db'.playlistEntries = db.playlistEntries) : standingOf db' = standingOf db := by
  funext k
  unfold standingOf
  rw [hrefs, hlists, hentries]

theorem Tells.untouched (h : ∀ n ∈ notices, n.key ≠ k) (husers : ∀ n ∈ notices, n.userId = userId)
    (hs : standingOf db' k = standingOf db k) : Tells userId notices db db' k where
  standing := by rw [replay_other h, hs]
  users := husers
  owner := fun ⟨n, hn, hk⟩ => absurd hk (h n hn)

theorem Retold.of_eq (hevents : db'.syncEvents.rows = db.syncEvents.rows) (h : standingOf db' = standingOf db) :
    Retold db db' := by
  refine ⟨⟨"00000000-0000-4000-8000-000000000000", rfl⟩, [], by rw [hevents, List.append_nil], fun k _ => ?_⟩
  exact .untouched (fun n hn => absurd hn List.not_mem_nil) (fun n hn => absurd hn List.not_mem_nil) (congrFun h k)

/-- What follows a step and leaves the rows is told with it. -/
theorem Retold.congr (h : Retold db db') (hevents : db''.syncEvents.rows = db'.syncEvents.rows)
    (hs : standingOf db'' = standingOf db') : Retold db db'' := by
  obtain ⟨userId, new, hrows, htells⟩ := h
  refine ⟨userId, new, hevents.trans hrows, fun k hk => ?_⟩
  obtain ⟨hstanding, husers, howner⟩ := htells k hk
  exact ⟨(congrFun hs k).trans hstanding, husers, howner⟩

theorem told_isSome {log : List SyncEventRow} {r : SyncEventRow} (hr : r ∈ log) : (told log r.notice.key).isSome :=
  replay_isSome (List.mem_map_of_mem hr) rfl

/-- **A step keeps what the log tells.** -/
theorem LogTells.step (h : LogTells db) (hstep : Retold db db') : LogTells db' := by
  obtain ⟨userId, new, hrows, htells⟩ := hstep
  have hstanding : ∀ k, k.1 ∈ followed → standingOf db' k = told db'.syncEvents.rows k := by
    intro k hk
    unfold told
    rw [hrows, List.map_append, replay_append, (htells k hk).standing]
    exact replay_congr (h.standing k hk)
  refine ⟨hstanding, fun r hr hk s hs => ?_⟩
  obtain ⟨htold, husers, howner⟩ := htells r.notice.key hk
  -- an event tells the row, or the row is as it was
  have hcases := replay_cases Notice.key Notice.tell (standingOf db) (new.map SyncEventRow.notice) r.notice.key
  rw [← htold, hs] at hcases
  rw [Table.mem_def, hrows] at hr
  rcases List.mem_append.mp hr with hr | hr
  · rcases hcases with hcases | ⟨n, hn, hkey, old, hcases⟩
    · exact h.owners r hr hk s hcases.symm
    · obtain ⟨s', hs'⟩ := Option.isSome_iff_exists.mp (told_isSome hr)
      rw [← h.standing _ hk] at hs'
      cases hcases
      show n.userId = r.userId
      rw [husers n hn, ← howner ⟨n, hn, hkey⟩ s' hs']
      exact h.owners r hr hk s' hs'
  · have hr : r.userId = userId := husers r.notice (List.mem_map_of_mem hr)
    rcases hcases with hcases | ⟨n, hn, hkey, old, hcases⟩
    · rw [hr]
      exact howner ⟨r.notice, List.mem_map_of_mem ‹_›, rfl⟩ s hcases.symm
    · cases hcases
      exact (husers n hn).trans hr.symm

/-- The log of an owner tells the rows of this owner. -/
theorem LogTells.owned (h : LogTells db) (hk : k.1 ∈ followed) :
    told (ownedLog db userId) k = (standingOf db k).filter fun s => s.userId = userId := by
  have howners : ∀ r ∈ db.syncEvents.rows, r.notice.key = k → ∀ s, standingOf db k = some s → s.userId = r.userId := by
    rintro r hr rfl s hs
    exact h.owners r hr hk s hs
  unfold told ownedLog
  cases hs : standingOf db k with
  | none =>
    refine replay_other fun n hn hkey => ?_
    obtain ⟨r, hr, rfl⟩ := List.mem_map.mp hn
    have hsome := told_isSome (List.mem_of_mem_filter hr)
    rw [hkey, ← h.standing k hk, hs] at hsome
    exact absurd hsome Bool.false_ne_true
  | some s =>
    by_cases hu : s.userId = userId
    · have hall := h.standing k hk
      unfold told at hall
      rw [Option.filter_some, if_pos (decide_eq_true hu), ← hs, hall]
      have hmap : (db.syncEvents.rows.filter fun row => row.userId = userId).map SyncEventRow.notice =
          (db.syncEvents.rows.map SyncEventRow.notice).filter fun n => n.userId = userId := by
        rw [List.filter_map]
        rfl
      rw [hmap]
      refine replay_filter fun n hn hkey => ?_
      obtain ⟨r, hr, rfl⟩ := List.mem_map.mp hn
      exact decide_eq_true ((howners r hr hkey s hs).symm.trans hu)
    · rw [Option.filter_some, if_neg (by simpa using hu)]
      refine replay_other fun n hn hkey => ?_
      obtain ⟨r, hr, rfl⟩ := List.mem_map.mp hn
      obtain ⟨hr, huser⟩ := List.mem_filter.mp hr
      exact hu ((howners r hr hkey s hs).trans (of_decide_eq_true huser))

/-! ## one row -/

/-- One row is written and told. -/
theorem Tells.row {n : Notice} {s : Standing} (hn : n.userId = userId)
    (hs : ∀ k, standingOf db' k = if k' = k then some s else standingOf db k) (hkey : n.key = k')
    (htell : s = n.tell (standingOf db k')) (howner : ∀ s, standingOf db k' = some s → s.userId = userId) :
    Tells userId [n] db db' k where
  standing := by
    rw [hs]
    by_cases hk : k' = k
    · subst hk
      rw [if_pos rfl, htell, ← hkey]
      have hnodup : ([n].map Notice.key).Nodup := List.nodup_singleton _
      exact (replay_nodup hnodup (List.mem_singleton_self n)).symm
    · rw [if_neg hk]
      exact (replay_other fun x hx heq => hk (by rw [← hkey, ← List.mem_singleton.mp hx, heq])).symm
  users := fun x hx => by rw [List.mem_singleton.mp hx, hn]
  owner := by
    rintro ⟨x, hx, rfl⟩
    rw [List.mem_singleton.mp hx, hkey]
    exact howner

theorem standing_trackRefs {t : Table UserTrackRefRow} {row : UserTrackRefRow}
    (h : ∀ id, t.find id = if row.userTrackRefId = id then some row else db.trackRefs.find id)
    (hdb : db' = { db with trackRefs := t, libraryEntries := db'.libraryEntries }) (k : AggregateType × Uuid) :
    standingOf db' k = if (.userTrackRef, row.userTrackRefId) = k then some row.standing else standingOf db k := by
  rw [hdb]
  obtain ⟨type, id⟩ := k
  cases type with
  | userTrackRef =>
    show (t.find id).map _ = _
    rw [h id]
    by_cases hid : row.userTrackRefId = id
    · rw [if_pos hid, if_pos (by rw [hid])]
      rfl
    · rw [if_neg hid, if_neg fun heq => hid (Prod.ext_iff.mp heq).2]
      rfl
  | _ => rfl

theorem standing_playlists {t : Table PlaylistRow} {row : PlaylistRow}
    (h : ∀ id, t.find id = if row.playlistId = id then some row else db.playlists.find id) (k : AggregateType × Uuid) :
    standingOf { db with playlists := t } k =
      if (.playlist, row.playlistId) = k then some row.standing else standingOf db k := by
  obtain ⟨type, id⟩ := k
  cases type with
  | playlist =>
    show (t.find id).map _ = _
    rw [h id]
    by_cases hid : row.playlistId = id
    · rw [if_pos hid, if_pos (by rw [hid])]
      rfl
    · rw [if_neg hid, if_neg fun heq => hid (Prod.ext_iff.mp heq).2]
      rfl
  | _ => rfl

/-- A replaced row is found. -/
theorem find_replaced {ρ κ ι : Type} [DecidableEq κ] [Schema ρ κ ι] [DecidableEq ι] {t t' : Table ρ} {old row : ρ}
    (h : t.update row = .ok t') (hold : t.find (Schema.key row) = some old) (id : κ) :
    t'.find id = if Schema.key row = id then some row else t.find id := by
  rw [Table.find_update h]
  by_cases hid : Schema.key row = id
  · rw [if_pos hid, if_pos hid, ← hid, hold]
    rfl
  · rw [if_neg hid, if_neg hid]

/-! ## entries -/

@[simp] theorem settled_addedByUserId {plan : PositionPlan} {selfId : Uuid} {r : PlaylistEntryRow} :
    (settled plan selfId r).addedByUserId = r.addedByUserId := by
  have hrekey (key : String) (r : PlaylistEntryRow) : (rekeyRow key r).addedByUserId = r.addedByUserId := by
    unfold rekeyRow
    split <;> rfl
  have hkeys (keys : List (Uuid × String)) (r : PlaylistEntryRow) :
      (applyKeys keys r).addedByUserId = r.addedByUserId := by
    unfold applyKeys
    split
    · exact hrekey _ r
    · rfl
  unfold settled
  rw [hkeys, hkeys]

/-- What a plan does to the entries of a playlist. -/
structure Settles (plan : PositionPlan) (selfId playlistId : Uuid) (db db' : SyncDb) : Prop where
  rest : db' = { db with playlistEntries := db'.playlistEntries }
  find : ∀ id, db'.playlistEntries.find id = (db.playlistEntries.find id).map (settled plan selfId)
  unchanged : ∀ r ∈ db.playlistEntries, r ∉ plan.changed → settled plan selfId r = r
  changed : ∀ r ∈ plan.changed, r ∈ db.playlistEntries ∧ r.playlistId = playlistId
  nodup : (plan.changed.map PlaylistEntryRow.playlistEntryId).Nodup

theorem settles_keep {key : String} {selfId playlistId : Uuid} (h : db.rebalance (.keep key) selfId = .ok db') :
    Settles (.keep key) selfId playlistId db db' := by
  cases h
  refine ⟨rfl, fun id => ?_, fun r _ _ => rfl, fun r hr => absurd hr List.not_mem_nil, List.nodup_nil⟩
  cases db.playlistEntries.find id with
  | none => rfl
  | some r => rfl

theorem settles_plan {env : Env} {playlistId selfId : Uuid} {payload : Payload} {plan : PositionPlan}
    (hplan : positionPlan env db.playlistEntries playlistId payload selfId = .ok plan)
    (h : db.rebalance plan selfId = .ok db') : Settles plan selfId playlistId db db' := by
  rcases positionPlan_ok hplan with ⟨-, hkeep⟩ | ⟨-, hplaced⟩
  · rw [hkeep] at h ⊢
    exact settles_keep h
  · obtain ⟨hrest, hfind⟩ := rebalance_find hplaced h
    exact ⟨hrest, hfind, fun r hr hc => settled_unchanged hplaced hr hc,
      fun r hr => ⟨(hplaced.mem_changed.mp hr).1.1, (hplaced.mem_changed.mp hr).1.2.1⟩, hplaced.nodup_changed⟩

/-- The author of an entry is the owner of its playlist. -/
theorem addedBy_owner (ho : OwnersAgree db) {r : PlaylistEntryRow} {playlist : PlaylistRow}
    (hr : r ∈ db.playlistEntries) (hp : db.playlists.find r.playlistId = some playlist) :
    r.addedByUserId = playlist.ownerUserId := by
  obtain ⟨list, -, hlist, -, howner, -⟩ := entryOwnerOk_iff.mp (ho.entries r hr)
  rw [hp] at hlist
  cases hlist
  exact howner.symm

section
variable {env : Env} {p : Principal} {e : Event} {now : Int} {plan : PositionPlan} {playlistId : Uuid}
  {row : PlaylistEntryRow} {t : Table PlaylistEntryRow}

/-- **Entries are told with the entries that they re-key.** -/
theorem Tells.entry {db₁ : SyncDb} {n : Notice}
    (ht : ∀ id, t.find id = if row.playlistEntryId = id then some row else db₁.playlistEntries.find id)
    (hsettles : Settles plan row.playlistEntryId playlistId db db₁)
    (howner : ∀ r ∈ db.playlistEntries, r.playlistId = playlistId → r.addedByUserId = p.userId)
    (hself : ∀ s, standingOf db (.playlistEntry, row.playlistEntryId) = some s → s.userId = p.userId)
    (hn : n.userId = p.userId) (hkey : n.key = (.playlistEntry, row.playlistEntryId))
    (htell : row.standing = n.tell (standingOf db (.playlistEntry, row.playlistEntryId))) (k : AggregateType × Uuid) :
    Tells p.userId ((plan.noticeRows row.playlistEntryId).map
        (fun r => (rebalancePublication env p e r).notice p.userId) ++ [n]) db
      { db₁ with playlistEntries := t } k := by
  have hrest := hsettles.rest
  have hmem : ∀ x ∈ (plan.noticeRows row.playlistEntryId).map
      (fun r => (rebalancePublication env p e r).notice p.userId), ∃ r ∈ plan.changed,
        r.playlistEntryId ≠ row.playlistEntryId ∧
        x = (rebalancePublication env p e (settled plan row.playlistEntryId r)).notice p.userId := by
    intro x hx
    obtain ⟨y, hy, rfl⟩ := List.mem_map.mp hx
    obtain ⟨r, hr, rfl⟩ := List.mem_map.mp hy
    obtain ⟨hr, hne⟩ := List.mem_filter.mp hr
    exact ⟨r, hr, of_decide_eq_true hne, rfl⟩
  have hkeys : (((plan.noticeRows row.playlistEntryId).map
      (fun r => (rebalancePublication env p e r).notice p.userId) ++ [n]).map Notice.key).Nodup := by
    rw [List.map_append, List.map_map, List.nodup_append]
    refine ⟨?_, List.nodup_singleton _, ?_⟩
    · unfold PositionPlan.noticeRows
      rw [List.map_map]
      refine List.Nodup.of_map Prod.snd ?_
      rw [List.map_map]
      refine List.Nodup.sublist (List.filter_sublist.map _) ?_
      convert hsettles.nodup using 2
      funext r
      exact settled_id
    · intro x hx y hy heq
      obtain ⟨z, hz, rfl⟩ := List.mem_map.mp hx
      obtain ⟨r, -, hne, hzr⟩ := hmem _ (List.mem_map_of_mem hz)
      rw [List.map_singleton, List.mem_singleton, hkey] at hy
      have hid : z.playlistEntryId = row.playlistEntryId := (Prod.ext_iff.mp (heq.trans hy)).2
      have hid' : z.playlistEntryId = r.playlistEntryId :=
        (Prod.ext_iff.mp (congrArg Notice.key hzr)).2.trans settled_id
      exact hne (hid'.symm.trans hid)
  have husers : ∀ x ∈ (plan.noticeRows row.playlistEntryId).map
      (fun r => (rebalancePublication env p e r).notice p.userId) ++ [n], x.userId = p.userId := by
    intro x hx
    rcases List.mem_append.mp hx with hx | hx
    · obtain ⟨r, -, -, rfl⟩ := hmem x hx
      rfl
    · rw [List.mem_singleton.mp hx, hn]
  have hkind : ∀ x ∈ (plan.noticeRows row.playlistEntryId).map
      (fun r => (rebalancePublication env p e r).notice p.userId) ++ [n], x.key.1 = .playlistEntry := by
    intro x hx
    rcases List.mem_append.mp hx with hx | hx
    · obtain ⟨r, -, -, rfl⟩ := hmem x hx
      rfl
    · rw [List.mem_singleton.mp hx, hkey]
  obtain ⟨type, id⟩ := k
  by_cases htype : type = .playlistEntry
  · subst htype
    have hnow : standingOf { db₁ with playlistEntries := t } (.playlistEntry, id) =
        if row.playlistEntryId = id then some row.standing
        else (db.playlistEntries.find id).map fun r => (settled plan row.playlistEntryId r).standing := by
      show (t.find id).map _ = _
      rw [ht, hsettles.find, apply_ite (Option.map _), Option.map_map]
      rfl
    by_cases hid : row.playlistEntryId = id
    · rw [if_pos hid] at hnow
      subst hid
      refine ⟨?_, husers, fun _ => hself⟩
      rw [hnow, ← hkey, replay_nodup hkeys (List.mem_append_right _ (List.mem_singleton_self n)), htell, hkey]
    · rw [if_neg hid] at hnow
      by_cases hchanged : ∃ r ∈ plan.changed, r.playlistEntryId = id
      · obtain ⟨r, hr, rfl⟩ := hchanged
        obtain ⟨hrow, hplaylist⟩ := hsettles.changed r hr
        have hbefore : standingOf db (.playlistEntry, r.playlistEntryId) = some r.standing := by
          show (db.playlistEntries.find r.playlistEntryId).map _ = _
          rw [show db.playlistEntries.find r.playlistEntryId = some r from Table.find_mem hrow]
          rfl
        have haddedBy := howner r hrow hplaylist
        have hx : (rebalancePublication env p e (settled plan row.playlistEntryId r)).notice p.userId ∈
            (plan.noticeRows row.playlistEntryId).map
              (fun r => (rebalancePublication env p e r).notice p.userId) ++ [n] := by
          refine List.mem_append_left _ (List.mem_map.mpr ⟨_, List.mem_map.mpr ⟨r, ?_, rfl⟩, rfl⟩)
          exact List.mem_filter.mpr ⟨hr, decide_eq_true (Ne.symm hid)⟩
        have htold := @replay_nodup _ _ _ _ Notice.key Notice.tell (standingOf db) _ hkeys _ hx
        refine ⟨?_, husers, fun _ s hs => ?_⟩
        · have hkey' : ((rebalancePublication env p e (settled plan row.playlistEntryId r)).notice p.userId).key =
              (.playlistEntry, r.playlistEntryId) := congrArg (Prod.mk _) settled_id
          rw [hkey', hbefore] at htold
          rw [htold, hnow, show db.playlistEntries.find r.playlistEntryId = some r from Table.find_mem hrow]
          show some (settled plan row.playlistEntryId r).standing = _
          unfold PlaylistEntryRow.standing Notice.tell
          rw [settled_addedByUserId, settled_removedAt, haddedBy]
          exact congrArg some (congrArg _ (Bool.or_false _).symm)
        · rw [hbefore] at hs
          cases hs
          exact haddedBy
      · refine .untouched (fun x hx heq => ?_) husers ?_
        · rcases List.mem_append.mp hx with hx | hx
          · obtain ⟨r, hr, -, rfl⟩ := hmem x hx
            exact hchanged ⟨r, hr, settled_id.symm.trans (Prod.ext_iff.mp heq).2⟩
          · rw [List.mem_singleton.mp hx, hkey] at heq
            exact hid (Prod.ext_iff.mp heq).2
        · rw [hnow]
          show _ = (db.playlistEntries.find id).map _
          cases hfind : db.playlistEntries.find id with
          | none => rfl
          | some r =>
            have hr : r ∉ plan.changed := fun hc => hchanged ⟨r, hc, Table.key_of_find hfind⟩
            rw [Option.map_some, Option.map_some, hsettles.unchanged r (Table.mem_of_find hfind) hr]
  · refine .untouched (fun x hx heq => htype ?_) husers ?_
    · rw [← hkind x hx, heq]
    · rw [hrest]
      cases type with
      | playlistEntry => exact absurd rfl htype
      | _ => rfl

/-! ## the writes -/

/-- The event of a row tells it. -/
theorem tells_told {g : GenericResult} {s : Standing} {before : Option Standing}
    (hs : ∀ k, standingOf db' k = if k' = k then some s else standingOf db k) (hbefore : standingOf db k' = before)
    (hkey : (e.aggregateType, e.aggregateId) = k')
    (hstanding : s = ⟨p.userId, some g.rowVersion,
      before.any Standing.deleted || decide (genericOperation e = .delete)⟩)
    (howner : ∀ s, before = some s → s.userId = p.userId) (k : AggregateType × Uuid) :
    Tells p.userId [(genericPublication p e g).notice p.userId] db db' k := by
  refine Tells.row rfl hs hkey ?_ fun s h => howner s (hbefore.symm.trans h)
  rw [hstanding, hbefore]
  rfl

/-- An event of another kind. -/
theorem tells_other {g : GenericResult} (htype : e.aggregateType ∉ followed) (hs : standingOf db' = standingOf db)
    (hk : k.1 ∈ followed) : Tells p.userId [(genericPublication p e g).notice p.userId] db db' k := by
  refine .untouched (fun n hn heq => ?_) (fun n hn => ?_) (congrFun hs k)
  · rw [List.mem_singleton.mp hn] at heq
    rw [← heq] at hk
    exact htype hk
  · rw [List.mem_singleton.mp hn]
    rfl

theorem standing_trackRef {r : UserTrackRefRow} {id : Uuid} (hf : db.trackRefs.find id = some r) :
    standingOf db (.userTrackRef, id) = some r.standing := congrArg (Option.map _) hf

theorem standing_playlist {r : PlaylistRow} {id : Uuid} (hf : db.playlists.find id = some r) :
    standingOf db (.playlist, id) = some r.standing := congrArg (Option.map _) hf

theorem replaced_trackRef {old new : UserTrackRefRow} {id : Uuid} (h : db.updateTrackRef new = .ok db')
    (hf : db.trackRefs.find id = some old) (hid : new.userTrackRefId = old.userTrackRefId) (k : AggregateType × Uuid) :
    standingOf db' k = if (.userTrackRef, id) = k then some new.standing else standingOf db k := by
  obtain ⟨t, hupdate, rfl⟩ := SyncDb.updateTrackRef_ok.mp h
  have hkey : new.userTrackRefId = id := hid.trans (Table.key_of_find hf)
  subst hkey
  exact standing_trackRefs (find_replaced hupdate hf) rfl k

theorem replaced_playlist {old new : PlaylistRow} {id : Uuid} (h : db.updatePlaylist new = .ok db')
    (hf : db.playlists.find id = some old) (hid : new.playlistId = old.playlistId) (k : AggregateType × Uuid) :
    standingOf db' k = if (.playlist, id) = k then some new.standing else standingOf db k := by
  obtain ⟨t, hupdate, rfl⟩ := SyncDb.updatePlaylist_ok.mp h
  have hkey : new.playlistId = id := hid.trans (Table.key_of_find hf)
  subst hkey
  exact standing_playlists (find_replaced hupdate hf) k

theorem insertNested_rest {new : NewTrackRef} (h : db.insertNested p new = .ok db') :
    db' = { db with libraryEntries := db'.libraryEntries } := by
  unfold SyncDb.insertNested at h
  split at h
  · cases h
    rfl
  · split at h
    · cases h
      rfl
    · obtain ⟨-, t, -, rfl⟩ := SyncDb.insertLibraryEntry_ok.mp h
      rfl

theorem aggregateType_of (h : aggregateTypeOk e = true) {kind : EventType} (hkind : e.eventType = kind)
    (hne : kind ≠ .aggregateDeleted) : genericEventTypes.lookup kind = some e.aggregateType := by
  rw [← hkind]
  exact (of_decide_eq_true h).resolve_left fun heq => hne (hkind.symm.trans heq)

theorem genericOperation_delete (hk : e.eventType = .aggregateDeleted) : genericOperation e = .delete := if_pos hk

theorem genericOperation_upsert {kind : EventType} (hkind : e.eventType = kind) (hne : kind ≠ .aggregateDeleted) :
    genericOperation e = .upsert := if_neg fun heq => hne (hkind.symm.trans heq)

/-- An entry is updated. -/
theorem update_tells {g : GenericResult} (h : (RowWrite.updateEntry row plan).run db p = .ok g) (ho : OwnersAgree db)
    {old : PlaylistEntryRow} {playlist : PlaylistRow}
    (hf : db.playlistEntries.find e.aggregateId = some old) (hp : db.playlists.find old.playlistId = some playlist)
    (hown : playlist.ownerUserId = p.userId) (htype : e.aggregateType = .playlistEntry)
    (hid : row.playlistEntryId = old.playlistEntryId) (hadded : row.addedByUserId = old.addedByUserId)
    (hremoved : row.removedAt.isSome = (old.removedAt.isSome || decide (genericOperation e = .delete)))
    (hsettles : ∀ {db₁}, db.rebalance plan row.playlistEntryId = .ok db₁ →
      Settles plan row.playlistEntryId old.playlistId db db₁)
    (k : AggregateType × Uuid) :
    Tells p.userId (((RowWrite.updateEntry row plan).publications env p e g).map (Publication.notice p.userId)) db
      g.db k := by
  obtain ⟨db₁, h₁, h⟩ := bind_eq_ok.mp h
  obtain ⟨db₂, h₂, h⟩ := bind_eq_ok.mp h
  cases h
  obtain ⟨-, t, hupdate, rfl⟩ := SyncDb.updateEntry_ok.mp h₂
  have hkey : old.playlistEntryId = e.aggregateId := Table.key_of_find hf
  have hself : db.playlistEntries.find row.playlistEntryId = some old := by rw [hid, hkey, hf]
  have hstanding : standingOf db (.playlistEntry, row.playlistEntryId) = some old.standing := by
    show (db.playlistEntries.find row.playlistEntryId).map _ = _
    rw [hself]
    rfl
  have haddedBy : old.addedByUserId = p.userId := (addedBy_owner ho (Table.mem_of_find hf) hp).trans hown
  have hfind : db₁.playlistEntries.find row.playlistEntryId = some (settled plan row.playlistEntryId old) := by
    rw [(hsettles h₁).find, hself]
    rfl
  have hfinds := find_replaced hupdate hfind
  unfold RowWrite.publications
  rw [List.map_append, List.map_map]
  refine Tells.entry hfinds (hsettles h₁) (fun r hr hplaylist => ?_) (fun s hs => ?_) rfl
    (Prod.ext htype (hkey.symm.trans hid.symm)) ?_ k
  · exact (addedBy_owner ho hr (hplaylist ▸ hp)).trans hown
  · rw [hstanding] at hs
    cases hs
    exact haddedBy
  · rw [hstanding]
    unfold PlaylistEntryRow.standing Notice.tell
    dsimp only
    rw [hadded, haddedBy, hremoved]
    rfl

/-- **The writes of a projection are told.** -/
theorem run_tells (ho : OwnersAgree db) {w : RowWrite} (hc : Checked env db p e now w)
    (htype : aggregateTypeOk e = true) {g : GenericResult} (h : w.run db p = .ok g) (hk : k.1 ∈ followed) :
    Tells p.userId ((w.publications env p e g).map (Publication.notice p.userId)) db g.db k := by
  have hother {kind : EventType} {type : AggregateType} (hkind : e.eventType = kind) (hne : kind ≠ .aggregateDeleted)
      (hl : genericEventTypes.lookup kind = some type) : e.aggregateType = type :=
    Option.some.inj ((aggregateType_of htype hkind hne).symm.trans hl)
  cases hc with
  | deleteTrackRef old hkind ht hf hown hv =>
    obtain ⟨db₁, h₁, h⟩ := bind_eq_ok.mp h
    cases h
    refine tells_told (replaced_trackRef h₁ hf rfl) (standing_trackRef hf)
      (Prod.ext ht rfl) ?_ (fun s hs => by cases hs; exact hown) k
    rw [genericOperation_delete hkind]
    exact congrArg₂ (fun u d => (⟨u, _, d⟩ : Standing)) hown (Bool.or_true _).symm
  | patchTrackRef old title artist album hkind hf hown hv =>
    obtain ⟨db₁, h₁, h⟩ := bind_eq_ok.mp h
    cases h
    refine tells_told (replaced_trackRef h₁ hf rfl) (standing_trackRef hf)
      (Prod.ext (hother hkind (by decide) rfl) rfl) ?_ (fun s hs => by cases hs; exact hown) k
    rw [genericOperation_upsert hkind (by decide)]
    exact congrArg₂ (fun u d => (⟨u, _, d⟩ : Standing)) hown (Bool.or_false _).symm
  | deletePlaylist old hkind ht hf hown hv =>
    obtain ⟨db₁, h₁, h⟩ := bind_eq_ok.mp h
    cases h
    refine tells_told (replaced_playlist h₁ hf rfl) (standing_playlist hf)
      (Prod.ext ht rfl) ?_ (fun s hs => by cases hs; exact hown) k
    rw [genericOperation_delete hkind]
    exact congrArg₂ (fun u d => (⟨u, _, d⟩ : Standing)) hown (Bool.or_true _).symm
  | patchPlaylist old name description hkind hf hown hv =>
    obtain ⟨db₁, h₁, h⟩ := bind_eq_ok.mp h
    cases h
    refine tells_told (replaced_playlist h₁ hf rfl) (standing_playlist hf)
      (Prod.ext (hother hkind (by decide) rfl) rfl) ?_ (fun s hs => by cases hs; exact hown) k
    rw [genericOperation_upsert hkind (by decide)]
    exact congrArg₂ (fun u d => (⟨u, _, d⟩ : Standing)) hown (Bool.or_false _).symm
  | createTrackRef new hkind hid hb hd hn =>
    obtain ⟨d, -, h⟩ := bind_eq_ok.mp h
    obtain ⟨db₁, h₁, h⟩ := bind_eq_ok.mp h
    obtain ⟨db₂, h₂, h⟩ := bind_eq_ok.mp h
    cases h
    obtain ⟨-, t, hinsert, rfl⟩ := SyncDb.insertTrackRef_ok.mp h₁
    have hnone : standingOf db (.userTrackRef, new.id) = none :=
      congrArg (Option.map _) (Table.insert_ok.mp hinsert).1
    refine tells_told (standing_trackRefs (Table.find_insert hinsert) (insertNested_rest h₂)) hnone
      (Prod.ext (hother hkind (by decide) rfl) hid.symm) ?_ (fun s hs => nomatch hs) k
    rw [genericOperation_upsert hkind (by decide)]
    rfl
  | createPlaylist name description hkind hb =>
    obtain ⟨db₁, h₁, h⟩ := bind_eq_ok.mp h
    cases h
    obtain ⟨t, hinsert, rfl⟩ := SyncDb.insertPlaylist_ok.mp h₁
    have hnone : standingOf db (.playlist, e.aggregateId) = none :=
      congrArg (Option.map _) (Table.insert_ok.mp hinsert).1
    refine tells_told (standing_playlists (Table.find_insert hinsert)) hnone
      (Prod.ext (hother hkind (by decide) rfl) rfl) ?_ (fun s hs => nomatch hs) k
    rw [genericOperation_upsert hkind (by decide)]
    rfl
  | deletePlaylistEntry old parent hkind ht hf hp hown hl hv =>
    refine update_tells h ho hf hp hown ht rfl rfl ?_ settles_keep k
    rw [genericOperation_delete hkind]
    exact (Bool.or_true _).symm
  | movePlaylistEntry old playlist plan hkind hf hp hown hv hplan =>
    have hkey : old.playlistEntryId = e.aggregateId := Table.key_of_find hf
    have hmoved : e.aggregateType = .playlistEntry := by
      rcases hkind with hkind | hkind
      · exact hother hkind (by decide) rfl
      · exact hother hkind (by decide) rfl
    have hupsert : genericOperation e = .upsert := by
      rcases hkind with hkind | hkind
      · exact genericOperation_upsert hkind (by decide)
      · exact genericOperation_upsert hkind (by decide)
    refine update_tells h ho hf hp hown hmoved rfl rfl ?_ (settles_plan (hkey ▸ hplan)) k
    rw [hupsert]
    exact (Bool.or_false _).symm
  | createPlaylistEntry playlist refId ref plan hkind hnone hb hp hown hr hrown hplan =>
    have hmade : e.aggregateType = .playlistEntry := by
      rcases hkind with hkind | hkind
      · exact hother hkind (by decide) rfl
      · exact hother hkind (by decide) rfl
    have hupsert : genericOperation e = .upsert := by
      rcases hkind with hkind | hkind
      · exact genericOperation_upsert hkind (by decide)
      · exact genericOperation_upsert hkind (by decide)
    obtain ⟨db₁, h₁, h⟩ := bind_eq_ok.mp h
    obtain ⟨db₂, h₂, h⟩ := bind_eq_ok.mp h
    cases h
    obtain ⟨-, t, hinsert, rfl⟩ := SyncDb.insertEntry_ok.mp h₂
    have hbefore : standingOf db (.playlistEntry, e.aggregateId) = none := congrArg (Option.map _) hnone
    unfold RowWrite.publications
    rw [List.map_append, List.map_map]
    refine Tells.entry (Table.find_insert hinsert) (settles_plan hplan h₁) (fun r hr hplaylist => ?_) (fun s hs => ?_)
      rfl (Prod.ext hmade rfl) ?_ k
    · exact (addedBy_owner ho hr (hplaylist ▸ hp)).trans hown
    · rw [hbefore] at hs
      cases hs
    · rw [hbefore]
      unfold PlaylistEntryRow.standing Notice.tell genericPublication Publication.notice
      rw [hupsert]
      rfl
  | deleteLibraryEntry old hkind ht hf hown hv =>
    obtain ⟨db₁, h₁, h⟩ := bind_eq_ok.mp h
    cases h
    obtain ⟨-, t, -, rfl⟩ := SyncDb.updateLibraryEntry_ok.mp h₁
    exact tells_other (by rw [ht]; decide) (standing_congr rfl rfl rfl) hk
  | createLibraryEntry refId ref source availability hkind hn hb hr hf hown =>
    obtain ⟨db₁, h₁, h⟩ := bind_eq_ok.mp h
    cases h
    obtain ⟨-, t, -, rfl⟩ := SyncDb.insertLibraryEntry_ok.mp h₁
    exact tells_other (by rw [hother hkind (by decide) rfl]; decide) (standing_congr rfl rfl rfl) hk
  | updateLibraryEntry old removed hkind hf hown hv hr =>
    obtain ⟨db₁, h₁, h⟩ := bind_eq_ok.mp h
    cases h
    obtain ⟨-, t, -, rfl⟩ := SyncDb.updateLibraryEntry_ok.mp h₁
    exact tells_other (by rw [hother hkind (by decide) rfl]; decide) (standing_congr rfl rfl rfl) hk
  | createPreference ref preference excluded hkind hr hn hb =>
    obtain ⟨db₁, h₁, h⟩ := bind_eq_ok.mp h
    cases h
    obtain ⟨t, -, rfl⟩ := SyncDb.insertPreference_ok.mp h₁
    exact tells_other (by rw [hother hkind (by decide) rfl]; decide) (standing_congr rfl rfl rfl) hk
  | updatePreference ref old preference excluded hkind hr hf hv =>
    obtain ⟨db₁, h₁, h⟩ := bind_eq_ok.mp h
    cases h
    obtain ⟨t, -, rfl⟩ := SyncDb.updatePreference_ok.mp h₁
    exact tells_other (by rw [hother hkind (by decide) rfl]; decide) (standing_congr rfl rfl rfl) hk

end

end

/-! ## calls -/

section
variable {tools : SyncTools} {env : Env} {db db' : SyncDb} {p : Principal} {e : Event} {now : Int} {requestId : Uuid}
  {r : Ack × SyncDb}

theorem Retold.refl (db : SyncDb) : Retold db db := .of_eq rfl rfl

/-- What is published is what is told. -/
theorem map_notice (userId : Uuid) (now next : Int) (fs : List Publication) :
    (publishedRows userId now next fs).map SyncEventRow.notice = fs.map (Publication.notice userId) :=
  Catalog.map_publishedRows SyncEventRow.notice (Publication.notice userId) (fun _ _ => rfl) next

/-- The writes of a transaction, then the publications that tell them. -/
theorem Retold.published {fs : List Publication} {db₁ : SyncDb} (hevents : db₁.syncEvents = db.syncEvents)
    (h : ∀ k, k.1 ∈ followed → Tells p.userId (fs.map (Publication.notice p.userId)) db db₁ k)
    (hpublish : db₁.publishAll p.userId now fs = .ok db') : Retold db db' := by
  obtain ⟨-, hrest, -, hrows⟩ := publishAll_ok hpublish
  rw [hevents] at hrows
  have hs : standingOf db' = standingOf db₁ := by
    rw [hrest]
    exact standing_congr rfl rfl rfl
  refine ⟨p.userId, _, hrows, fun k hk => ?_⟩
  obtain ⟨hstanding, husers, howner⟩ := h k hk
  rw [map_notice]
  exact ⟨(congrFun hs k).trans hstanding, husers, howner⟩

theorem applyGeneric_retold (ho : OwnersAgree db) (h : applyGeneric env db p e now requestId = .ok r) :
    Retold db r.2 := by
  unfold applyGeneric at h
  split at h
  · cases h
    exact .refl db
  next htype =>
  split at h
  · cases h
    exact .refl db
  · cases h
    exact .refl db
  next w hw =>
    have hc := genericChecks_ok hw
    obtain ⟨g, db₁, hg, hp, hb, -⟩ := (generic_ok hc).mp h
    have hrows : RowsOnly db g.db := .run hg
    have hevents : g.db.syncEvents = db.syncEvents := by rw [hrows]
    have htold : Retold db db₁ := .published hevents
      (fun k hk => run_tells ho hc (eq_true_of_ne_false htype) hg hk) hp
    unfold SyncDb.buryDeleted at hb
    split at hb
    · obtain ⟨t, -, hb⟩ := SyncDb.bury_ok.mp hb
      rw [hb]
      exact htold.congr rfl (standing_congr rfl rfl rfl)
    · cases hb
      exact htold

/-- Interactions are about aggregates of their own. -/
theorem interaction_other {w : InteractionWrite} (h : interactionChecks env db p e = .ok w) :
    e.aggregateType ∉ followed := by
  unfold interactionChecks at h
  split at h
  · cases h
  split at h
  · cases h
  next htype =>
  have htype : interactionTypeOk e = true := eq_true_of_ne_false htype
  unfold interactionTypeOk at htype
  obtain ⟨htype, -⟩ := Bool.and_eq_true_iff.mp htype
  rw [of_decide_eq_true htype]
  split <;> decide

theorem applyInteraction_retold (h : applyInteraction env db p e now requestId = .ok r) : Retold db r.2 := by
  unfold applyInteraction at h
  split at h
  · cases h
    exact .refl db
  next w hw =>
    obtain ⟨db₁, h₁, h⟩ := bind_eq_ok.mp h
    obtain ⟨db₂, h₂, h⟩ := bind_eq_ok.mp h
    cases h
    have hs : standingOf db₁ = standingOf db := by
      cases w with
      | interaction row =>
        obtain ⟨t, -, rfl⟩ := bind_pure_eq_ok.mp h₁
        exact standing_congr rfl rfl rfl
      | listening l a =>
        obtain ⟨played, -, h₁⟩ := bind_eq_ok.mp h₁
        obtain ⟨duration, -, h₁⟩ := bind_eq_ok.mp h₁
        obtain ⟨ratio, -, h₁⟩ := bind_eq_ok.mp h₁
        split at h₁
        · obtain ⟨t, -, rfl⟩ := bind_pure_eq_ok.mp h₁
          exact standing_congr rfl rfl rfl
        · cases h₁
    refine .published (interaction_log h₁).1 (fun k hk => ?_) (publishAll_singleton.mpr h₂)
    refine .untouched (fun n hn heq => ?_) (fun n hn => ?_) (congrFun hs k)
    · rw [List.mem_singleton.mp hn] at heq
      rw [← heq] at hk
      exact interaction_other hw hk
    · rw [List.mem_singleton.mp hn]
      rfl

/-- **A push tells what it writes.** -/
theorem push_retold (ho : OwnersAgree db) (c : PushCall) : Retold db (pushStep env db c) := by
  rcases pushStep_cases env db c with hs | ⟨ack, db₁, -, cursor, sequence, hnext, happly, hp, hrecorded⟩
  · rw [hs]
    exact .refl db
  · unfold SameProjections at hp
    have htold : Retold db db₁ := by
      unfold applyEvent at happly
      split at happly
      · cases happly
        exact .refl db
      · split at happly
        · exact applyInteraction_retold happly
        · split at happly
          · exact applyGeneric_retold ho happly
          · cases happly
            exact .refl db
    rw [hp]
    exact htold.congr rfl (standing_congr rfl rfl rfl)

/-- A fact of the catalogue tells a reference as it stands. -/
theorem fact_stands {catalogEnv : Catalog.CatalogEnv} {catalog : Catalog.CatalogTables} {owner : Uuid}
    {refIds : Option (List Uuid)} {fs : List Publication} {f : Publication}
    (h : Catalog.candidates catalogEnv catalog db.trackRefs owner refIds = .ok fs) (hf : f ∈ fs)
    (hk : f.aggregateType ∈ followed) :
    standingOf db (f.aggregateType, f.aggregateId) = some ⟨owner, some f.serverRowVersion, false⟩ ∧
      f.operation = .upsert := by
  obtain ⟨resolved, hresolved, h⟩ := bind_eq_ok.mp h
  obtain ⟨projections, hprojections, h⟩ := bind_eq_ok.mp h
  obtain ⟨facts, hfacts, h⟩ := bind_eq_ok.mp h
  cases h
  rcases List.mem_append.mp hf with hf | hf
  · obtain ⟨ref, href, hf⟩ := mem_of_mapM hresolved hf
    obtain ⟨canonical, -, hf⟩ := bind_eq_ok.mp hf
    cases hf
    obtain ⟨hrow, hlive⟩ := List.mem_filter.mp ((List.mem_insertionSort _).mp href)
    obtain ⟨howner, hdeleted, -⟩ := of_decide_eq_true hlive
    refine ⟨?_, rfl⟩
    show (db.trackRefs.find ref.userTrackRefId).map UserTrackRefRow.standing = _
    rw [show db.trackRefs.find ref.userTrackRefId = some ref from Table.find_mem hrow, Option.map_some]
    unfold UserTrackRefRow.standing
    rw [howner, hdeleted]
    rfl
  · obtain ⟨v, hv, hf⟩ := mem_of_mapM hfacts hf
    obtain ⟨canonical, -, hf⟩ := bind_eq_ok.mp hf
    cases hf
    have htypes : ∀ type ∈ Catalog.catalogAggregates, type ∉ followed := by decide
    exact absurd hk (htypes _ ((Catalog.catalogArtistProjections_ok hprojections).2 v hv))

/-- The rows that a push may write are left alone. -/
structure SameRows (db db' : SyncDb) : Prop where
  trackRefs : db'.trackRefs = db.trackRefs
  playlists : db'.playlists = db.playlists
  libraryEntries : db'.libraryEntries = db.libraryEntries
  playlistEntries : db'.playlistEntries = db.playlistEntries

theorem SameRows.standing (h : SameRows db db') : standingOf db' = standingOf db :=
  standing_congr h.trackRefs h.playlists h.playlistEntries

theorem SameRows.owners (h : SameRows db db') (ho : OwnersAgree db) : OwnersAgree db' :=
  ho.of_eq h.trackRefs h.playlists h.libraryEntries h.playlistEntries

theorem publishNew_rows (owner : Uuid) (now : Int) (fs : List Publication) (db : SyncDb) :
    SameRows db (fs.foldl (Catalog.publishNew owner now) db) := by
  induction fs generalizing db with
  | nil => exact ⟨rfl, rfl, rfl, rfl⟩
  | cons f fs ih =>
    obtain ⟨h₁, h₂, h₃, h₄⟩ := ih (Catalog.publishNew owner now db f)
    rw [List.foldl_cons]
    have hone : SameRows db (Catalog.publishNew owner now db f) := by
      unfold Catalog.publishNew
      split
      · exact ⟨rfl, rfl, rfl, rfl⟩
      · exact ⟨rfl, rfl, rfl, rfl⟩
    exact ⟨h₁.trans hone.trackRefs, h₂.trans hone.playlists, h₃.trans hone.libraryEntries,
      h₄.trans hone.playlistEntries⟩

/-- **The catalogue tells references as they stand.** -/
theorem publish_retold {catalogEnv : Catalog.CatalogEnv} {catalog : Catalog.CatalogTables} {owner : Uuid}
    {refIds : Option (List Uuid)} (h : (Catalog.publish catalogEnv catalog db owner refIds now).map Prod.snd = .ok db') :
    SameRows db db' ∧ Retold db db' := by
  obtain ⟨x, hx, rfl⟩ := map_eq_ok.mp h
  obtain ⟨fs, hfs, heq⟩ := bind_eq_ok.mp hx
  cases heq
  have hrows := publishNew_rows owner now fs db
  obtain ⟨new, hs, hnew⟩ := record_eq_append SyncEventRow.eventId db.syncEvents.rows
    (publishedRows owner now db.nextServerSequence fs)
  have hfact : ∀ n ∈ new.map SyncEventRow.notice, ∃ f ∈ fs, n = f.notice owner := by
    intro n hn
    have hn := (hs.map SyncEventRow.notice).subset hn
    rw [map_notice] at hn
    obtain ⟨f, hf, rfl⟩ := List.mem_map.mp hn
    exact ⟨f, hf, rfl⟩
  refine ⟨hrows, owner, new, (Catalog.publishNew_foldl owner now fs db).1.trans hnew, fun k hk => ⟨?_, ?_, ?_⟩⟩
  · rw [hrows.standing]
    refine (replay_idle fun n hn hkey => ?_).symm
    obtain ⟨f, hf, rfl⟩ := hfact n hn
    obtain ⟨hstands, hupsert⟩ := fact_stands hfs hf (by rw [← hkey] at hk; exact hk)
    rw [← hkey]
    show standingOf db (f.aggregateType, f.aggregateId) =
      some ((f.notice owner).tell (standingOf db (f.aggregateType, f.aggregateId)))
    rw [hstands]
    unfold Notice.tell Publication.notice
    rw [hupsert]
    rfl
  · intro n hn
    obtain ⟨f, -, rfl⟩ := hfact n hn
    rfl
  · rintro ⟨n, hn, hkey⟩ s hstanding
    obtain ⟨f, hf, rfl⟩ := hfact n hn
    rw [← hkey] at hk hstanding
    have hstands := (fact_stands hfs hf hk).1
    rw [show standingOf db (f.aggregateType, f.aggregateId) = some s from hstanding] at hstands
    cases hstands
    rfl

/-- **Each call tells what it writes.** -/
theorem call_retold (tools : SyncTools) (ho : OwnersAgree db) (call : ServerCall) :
    Retold db (call.run tools db) ∧ OwnersAgree (call.run tools db) := by
  have hrest {db' : SyncDb} (hrows : SameRows db db') (hevents : db'.syncEvents = db.syncEvents) :
      Retold db db' ∧ OwnersAgree db' :=
    ⟨.of_eq (congrArg Table.rows hevents) hrows.standing, hrows.owners ho⟩
  cases call with
  | push call => exact ⟨push_retold ho call, ho.step call⟩
  | publish catalog owner refIds now =>
    rcases committedTo_cases db ((Catalog.publish tools.catalogEnv catalog db owner refIds now).map Prod.snd) with
      h | h
    · rw [show ServerCall.run tools db (.publish catalog owner refIds now) = db from h]
      exact ⟨.refl db, ho⟩
    · obtain ⟨hrows, htold⟩ := publish_retold h
      exact ⟨htold, hrows.owners ho⟩
  | bind p body described =>
    rcases committedTo_cases db (AutPlay.Sync.bind db p body described) with h | h
    · rw [show ServerCall.run tools db (.bind p body described) = db from h]
      exact ⟨.refl db, ho⟩
    · have hbinds := (bind_writes h).rest
      rw [show ServerCall.run tools db (.bind p body described) = _ from hbinds]
      exact hrest ⟨rfl, rfl, rfl, rfl⟩ rfl
  | pull p body now =>
    rcases committedTo_cases db ((AutPlay.Sync.pull tools.cursors db p body now).map Prod.snd) with h | h
    · rw [show ServerCall.run tools db (.pull p body now) = db from h]
      exact ⟨.refl db, ho⟩
    · obtain ⟨x, hx, heq⟩ := map_eq_ok.mp h
      obtain ⟨-, sequence, hpulls⟩ := pull_ok.mp hx
      rw [show ServerCall.run tools db (.pull p body now) = _ from heq.symm, hpulls.acknowledged]
      exact hrest ⟨rfl, rfl, rfl, rfl⟩ rfl
  | compact now =>
    show Retold db (compactTombstones db now) ∧ OwnersAgree (compactTombstones db now)
    unfold compactTombstones
    rw [compact_same]
    exact hrest ⟨rfl, rfl, rfl, rfl⟩ rfl
  | enrol device =>
    show Retold db (db.enrol device) ∧ OwnersAgree (db.enrol device)
    unfold SyncDb.enrol
    split
    · exact hrest ⟨rfl, rfl, rfl, rfl⟩ rfl
    · exact ⟨.refl db, ho⟩
  | revoke deviceId now => exact hrest ⟨rfl, rfl, rfl, rfl⟩ rfl

/-- The calls of the server and the pulls of a client keep what the log tells. -/
theorem told_run {epoch : Uuid} {catalog : Bool} {s s' : Following} {events : List FollowEvent}
    (path : Path (FollowStep tools p epoch catalog) s events s') (ho : OwnersAgree s.db) (h : LogTells s.db) :
    LogTells s'.db := by
  induction path with
  | nil s => exact h
  | cons hstep path ih =>
    cases hstep with
    | call call =>
      obtain ⟨htold, howners⟩ := call_retold tools ho call
      exact ih howners (h.step htold)
    | @ask limit now page db hpull =>
      obtain ⟨-, sequence, hpulls⟩ := pull_ok.mp hpull
      obtain rfl : db = _ := hpulls.acknowledged
      exact ih (ho.of_eq rfl rfl rfl rfl) (h.step (.of_eq rfl (standing_congr rfl rfl rfl)))
    | arrive page hpage => exact ih ho h
    | upgrade known hknown => exact ih ho h

/-- What is not of the catalogue is shown to every client. -/
theorem told_shown {catalog : Bool} {log : List SyncEventRow} {k : AggregateType × Uuid} (hk : k.1 ∈ followed) :
    told (log.filter (shownTo catalog)) k = told log k := by
  have hmap : (log.filter (shownTo catalog)).map SyncEventRow.notice = (log.map SyncEventRow.notice).filter fun n =>
      catalog || decide (n.key.1 ∉ Catalog.catalogAggregates) := by
    rw [List.filter_map]
    rfl
  have htypes : ∀ type ∈ followed, type ∉ Catalog.catalogAggregates := by decide
  unfold told
  rw [hmap]
  refine replay_filter fun n hn hkey => ?_
  rw [Bool.or_eq_true]
  exact .inr (decide_eq_true (htypes _ (hkey ▸ hk)))

end

/-! ## the playlist that the tablet knows -/

theorem Sample.unread_owners : OwnersAgree Sample.unread.db where
  library := fun _ hr => absurd hr List.not_mem_nil
  entries := fun _ hr => absurd hr List.not_mem_nil

theorem Sample.unread_told : LogTells Sample.unread.db where
  standing := by
    rintro ⟨type, id⟩ -
    cases type <;> rfl
  owners := fun _ hr => absurd hr List.not_mem_nil

end AutPlay.Sync
