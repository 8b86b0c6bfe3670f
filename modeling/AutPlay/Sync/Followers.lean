import AutPlay.Sync.Compaction

/-!
# A device that follows the log

The client of a device keeps a cursor and the events that it applied.  Its pulls are answered by the server and
the answers arrive late, more than once or not at all, while every other call goes on.  A page with an event that
the installed version does not know is set aside: these events are deferred and the cursor stays.

* `Follower.receive`      `applyPage` and `applyEvents` of the client;
* `follower_laws`         what was applied is the start of the log, each event once and in order, but for the events
                          that an earlier version had deferred.
-/

set_option linter.unusedSectionVars false

namespace AutPlay.Sync
open Result Follow

/-- What the client of a device keeps: `SyncCursorEntity.opaqueCursor`, the rows of `AppliedServerEventEntity` and
those of `DeferredServerEventEntity`; and the `KNOWN_EVENT_TYPES` of the installed version. -/
structure Follower where
  known : List EventType
  cursor : Option String
  applied : List SyncEventRow
  deferred : List SyncEventRow

/-- `isProjectionSupported` -/
def Follower.supports (follower : Follower) (row : SyncEventRow) : Bool :=
  row.schemaVersion = 1 ∧ row.eventType ∈ follower.known

/-- The part of `isServerEventKnown` that looks into the deferred events. -/
def isDeferred (deferred : List SyncEventRow) (row : SyncEventRow) : Bool :=
  row.eventId ∈ deferred.map SyncEventRow.eventId

/-- `applyPage`; the events of a page are applied one by one, but for those that are known, and then the cursor is
moved.  With an event that is not supported nothing is applied. -/
def Follower.receive (follower : Follower) (page : PullPage) : Follower :=
  let rows := page.events.map ServerEvent.row
  let unsupported := rows.filter fun row => !follower.supports row
  if unsupported = [] then
    { follower with
      cursor := some page.nextCursor
      applied := Follow.receive SyncEventRow.eventId follower.applied
        (rows.filter fun row => !isDeferred follower.deferred row) }
  else
    { follower with deferred := Follow.receive SyncEventRow.eventId follower.deferred unsupported }

/-- The server, the client of one device, and the answers that are on their way to it. -/
structure Following where
  db : SyncDb
  follower : Follower
  inFlight : List PullPage

/-- A call of the server; a pull of the client, answered; an answer that arrives; and a later version of the client,
which knows more. -/
inductive FollowEvent
  | call (call : ServerCall)
  | ask (limit now : Int)
  | arrive (page : PullPage)
  | upgrade (known : List EventType)

section
variable (tools : SyncTools) (p : Principal) (epoch : Uuid) (catalog : Bool)

/-- The pull of the client. -/
def askBody (follower : Follower) (limit : Int) : PullBody where
  binding := ⟨1, p.deviceId, none, epoch⟩
  limit := limit
  cursor := follower.cursor
  catalogProjectionVersion := if catalog then some 1 else none
  capabilities := []

inductive FollowStep : Following → FollowEvent → Following → Prop
  | call (s : Following) (call : ServerCall) : FollowStep s (.call call) { s with db := call.run tools s.db }
  | ask (s : Following) (limit now : Int) {page : PullPage} {db : SyncDb}
      (h : pull tools.cursors s.db p (askBody p epoch catalog s.follower limit) now = .ok (page, db)) :
      FollowStep s (.ask limit now) { s with db := db, inFlight := page :: s.inFlight }
  | arrive (s : Following) (page : PullPage) (h : page ∈ s.inFlight) :
      FollowStep s (.arrive page) { s with follower := s.follower.receive page }
  | upgrade (s : Following) (known : List EventType) (h : s.follower.known ⊆ known) :
      FollowStep s (.upgrade known) { s with follower := { s.follower with known := known } }

/-- The events of the owner that the client is shown. -/
def shownLog (db : SyncDb) : List SyncEventRow := (ownedLog db p.userId).filter (shownTo catalog)

/-- The rows that are shown and not deferred. -/
def taken (deferred : List SyncEventRow) (row : SyncEventRow) : Bool :=
  shownTo catalog row && !isDeferred deferred row

/-- A cursor of the client, at a sequence. -/
def CursorAt (cursor : Option String) (sequence : Int) : Prop :=
  (cursor = none ∧ sequence = 0) ∨ ∃ now, cursor = some (tools.cursors.encode p.userId p.deviceId epoch sequence now)

/-- An answer is a stretch of the log that starts no later than the frontier. -/
structure Answers (db : SyncDb) (frontier : Int) (page : PullPage) : Prop where
  stretch : ∃ s n, s ≤ frontier ∧ n < db.nextServerSequence ∧
    CursorAt tools p epoch (some page.nextCursor) n ∧
    page.events.map ServerEvent.row =
      (between SyncEventRow.serverSequence (ownedLog db p.userId) s n).filter (shownTo catalog)

/-- The invariant: what was applied is what the client is shown of the log, up to a frontier, but for the deferred
events; and all of it is supported. -/
structure Follows (s : Following) (frontier : Int) : Prop where
  ordered : LogOrdered s.db
  below : frontier < s.db.nextServerSequence
  applied : s.follower.applied = (through SyncEventRow.serverSequence (ownedLog s.db p.userId) frontier).filter
    (taken catalog s.follower.deferred)
  supported : ∀ r ∈ through SyncEventRow.serverSequence (ownedLog s.db p.userId) frontier,
    shownTo catalog r = true → s.follower.supports r = true
  deferred : ∀ r ∈ s.follower.deferred, r ∈ ownedLog s.db p.userId
  cursor : ∃ sequence, sequence ≤ frontier ∧ CursorAt tools p epoch s.follower.cursor sequence
  inFlight : ∀ page ∈ s.inFlight, Answers tools p epoch catalog s.db frontier page

end

section
variable {tools : SyncTools} {p : Principal} {epoch : Uuid} {catalog : Bool} {db db' : SyncDb} {s s' : Following}
  {frontier : Int}

theorem ownedLog_ascends (h : LogOrdered db) (userId : Uuid) :
    Ascends SyncEventRow.serverSequence (ownedLog db userId) := h.ascending.sublist List.filter_sublist

theorem ownedLog_keys (db : SyncDb) (userId : Uuid) : ((ownedLog db userId).map SyncEventRow.eventId).Nodup :=
  db.syncEvents.nodup.sublist (List.filter_sublist.map _)

theorem ownedLog_inj {userId : Uuid} {a b : SyncEventRow} (ha : a ∈ ownedLog db userId) (hb : b ∈ ownedLog db userId)
    (h : a.eventId = b.eventId) : a = b := List.inj_on_of_nodup_map (ownedLog_keys db userId) ha hb h

/-- The log of an owner grows with the log. -/
theorem ownedLog_grows (h : LogGrows db db') (userId : Uuid) :
    ∃ new, ownedLog db' userId = ownedLog db userId ++ new ∧
      ∀ r ∈ new, db.nextServerSequence ≤ r.serverSequence := by
  obtain ⟨new, hrows, -, hbounds⟩ := h.rows
  refine ⟨new.filter fun row => row.userId = userId, ?_, fun r hr => (hbounds r (List.mem_of_mem_filter hr)).1⟩
  unfold ownedLog
  rw [hrows, List.filter_append]

theorem Answers.grows {page : PullPage} (h : Answers tools p epoch catalog db frontier page) (hgrows : LogGrows db db') :
    Answers tools p epoch catalog db' frontier page := by
  obtain ⟨s, n, hs, hn, hcursor, hrows⟩ := h.stretch
  obtain ⟨new, howned, hnew⟩ := ownedLog_grows hgrows p.userId
  refine ⟨s, n, hs, hn.trans_le hgrows.next, hcursor, ?_⟩
  rw [hrows, howned, between_append fun r hr => hn.trans_le (hnew r hr)]

theorem Answers.further {page : PullPage} {frontier' : Int} (h : Answers tools p epoch catalog db frontier page)
    (hle : frontier ≤ frontier') : Answers tools p epoch catalog db frontier' page := by
  obtain ⟨s, n, hs, hrest⟩ := h.stretch
  exact ⟨s, n, hs.trans hle, hrest⟩

theorem receive_supported {follower : Follower} {page : PullPage}
    (h : ∀ row ∈ page.events.map ServerEvent.row, follower.supports row = true) :
    follower.receive page = { follower with
      cursor := some page.nextCursor
      applied := Follow.receive SyncEventRow.eventId follower.applied
        ((page.events.map ServerEvent.row).filter fun row => !isDeferred follower.deferred row) } := by
  unfold Follower.receive
  refine if_pos (List.filter_eq_nil_iff.mpr fun row hrow => ?_)
  rw [h row hrow]
  exact Bool.false_ne_true

theorem receive_cases (follower : Follower) (page : PullPage) :
    (∀ row ∈ page.events.map ServerEvent.row, follower.supports row = true) ∨
    follower.receive page = { follower with
      deferred := Follow.receive SyncEventRow.eventId follower.deferred
        ((page.events.map ServerEvent.row).filter fun row => !follower.supports row) } := by
  by_cases h : (page.events.map ServerEvent.row).filter (fun row => !follower.supports row) = []
  · refine .inl fun row hrow => ?_
    have hrow := List.filter_eq_nil_iff.mp h row hrow
    rwa [Bool.not_eq_true', Bool.not_eq_false] at hrow
  · exact .inr (if_neg h)

theorem filter_taken (deferred : List SyncEventRow) (rows : List SyncEventRow) :
    (rows.filter (shownTo catalog)).filter (fun row => !isDeferred deferred row) =
      rows.filter (taken catalog deferred) := by
  rw [List.filter_filter]
  exact List.filter_congr fun row _ => Bool.and_comm _ _

/-- A row is deferred when one with its identifier is set aside, or was before. -/
theorem isDeferred_receive {deferred rows : List SyncEventRow} {row : SyncEventRow}
    (h : ∀ x ∈ rows, x.eventId ≠ row.eventId) :
    isDeferred (Follow.receive SyncEventRow.eventId deferred rows) row = isDeferred deferred row := by
  unfold isDeferred
  rw [decide_eq_decide, List.mem_map, List.mem_map]
  constructor
  · rintro ⟨x, hx, heq⟩
    rcases mem_receive hx with hx | hx
    · exact ⟨x, hx, heq⟩
    · exact absurd heq (h x hx)
  · rintro ⟨x, hx, heq⟩
    exact ⟨x, subset_receive hx, heq⟩

/-- What the server does leaves the client where it is. -/
theorem Follows.grows (h : Follows tools p epoch catalog s frontier) (hgrows : LogGrows s.db db') :
    Follows tools p epoch catalog { s with db := db' } frontier := by
  obtain ⟨new, howned, hnew⟩ := ownedLog_grows hgrows p.userId
  have hthrough : through SyncEventRow.serverSequence (ownedLog db' p.userId) frontier =
      through SyncEventRow.serverSequence (ownedLog s.db p.userId) frontier := by
    rw [howned, through_append fun r hr => h.below.trans_le (hnew r hr)]
  refine ⟨h.ordered.grows hgrows, h.below.trans_le hgrows.next, ?_, fun r hr => ?_, fun r hr => ?_, h.cursor,
    fun page hpage => (h.inFlight page hpage).grows hgrows⟩
  · show s.follower.applied = _
    rw [h.applied, hthrough]
  · rw [hthrough] at hr
    exact h.supported r hr
  · show r ∈ ownedLog db' p.userId
    rw [howned]
    exact List.mem_append_left _ (h.deferred r hr)

/-- A page that is set aside leaves what was applied, since nothing of it had been passed. -/
theorem Follows.aside (h : Follows tools p epoch catalog s frontier) {page : PullPage}
    (hpage : Answers tools p epoch catalog s.db frontier page) {deferred : List SyncEventRow}
    (hdeferred : deferred = Follow.receive SyncEventRow.eventId s.follower.deferred
      ((page.events.map ServerEvent.row).filter fun row => !s.follower.supports row)) :
    Follows tools p epoch catalog { s with follower := { s.follower with deferred := deferred } } frontier := by
  obtain ⟨start, stop, -, -, -, hrows⟩ := hpage.stretch
  have hmem : ∀ x ∈ page.events.map ServerEvent.row, x ∈ ownedLog s.db p.userId := by
    intro x hx
    rw [hrows] at hx
    exact (mem_between.mp (List.mem_of_mem_filter hx)).1
  refine ⟨h.ordered, h.below, ?_, h.supported, fun r hr => ?_, h.cursor, h.inFlight⟩
  · show s.follower.applied = _
    rw [h.applied]
    refine List.filter_congr fun r hr => ?_
    unfold taken
    cases hshown : shownTo catalog r with
    | false => rfl
    | true =>
      rw [Bool.true_and, Bool.true_and, hdeferred, isDeferred_receive]
      intro x hx heq
      obtain ⟨hx, hunsupported⟩ := List.mem_filter.mp hx
      obtain rfl := (ownedLog_inj (hmem x hx) (mem_through.mp hr).1 heq)
      rw [h.supported x hr hshown] at hunsupported
      exact absurd hunsupported Bool.false_ne_true
  · rw [show r ∈ deferred ↔ r ∈ _ from Eq.to_iff (congrArg (r ∈ ·) hdeferred)] at hr
    rcases mem_receive hr with hr | hr
    · exact h.deferred r hr
    · exact hmem r (List.mem_of_mem_filter hr)

/-- A page that is applied moves the frontier to its end. -/
theorem Follows.applies (h : Follows tools p epoch catalog s frontier) {page : PullPage} {start stop : Int}
    (hstart : start ≤ frontier) (hstop : stop < s.db.nextServerSequence)
    (hcursor : CursorAt tools p epoch (some page.nextCursor) stop)
    (hrows : page.events.map ServerEvent.row =
      (between SyncEventRow.serverSequence (ownedLog s.db p.userId) start stop).filter (shownTo catalog))
    (hall : ∀ row ∈ page.events.map ServerEvent.row, s.follower.supports row = true) :
    Follows tools p epoch catalog { s with follower := s.follower.receive page } (max frontier stop) := by
  rw [receive_supported hall]
  refine ⟨h.ordered, max_lt h.below hstop, ?_, fun r hr hshown => ?_, h.deferred, ⟨stop, le_max_right _ _, hcursor⟩,
    fun x hx => (h.inFlight x hx).further (le_max_left _ _)⟩
  · show Follow.receive SyncEventRow.eventId s.follower.applied _ = _
    rw [hrows, filter_taken, h.applied]
    exact taken_received (ownedLog_ascends h.ordered p.userId) (ownedLog_keys s.db p.userId) hstart
  · show s.follower.supports r = true
    obtain ⟨hmem, hle⟩ := mem_through.mp hr
    by_cases hfrontier : r.serverSequence ≤ frontier
    · exact h.supported r (mem_through.mpr ⟨hmem, hfrontier⟩) hshown
    · have hlt := hstart.trans_lt (not_le.mp hfrontier)
      have hstop := (le_max_iff.mp hle).resolve_left hfrontier
      refine hall r ?_
      rw [hrows]
      exact List.mem_filter.mpr ⟨mem_between.mpr ⟨hmem, hlt, hstop⟩, hshown⟩

/-- The sequence of the client's own cursor. -/
theorem presented_cursor {cursor : Option String} {sequence presented now : Int}
    (h : CursorAt tools p epoch cursor sequence)
    (hpresented : presentedSequence tools.cursors p epoch cursor now = .ok presented) : presented = sequence := by
  rcases h with ⟨rfl, rfl⟩ | ⟨now', rfl⟩
  · cases hpresented
    rfl
  · exact decode_encode hpresented

theorem catalogEnabled_ask (follower : Follower) (limit : Int) :
    (askBody p epoch catalog follower limit).catalogEnabled = catalog := by
  unfold PullBody.catalogEnabled askBody
  cases catalog with
  | true => rfl
  | false => rfl

/-- The rows of an answer. -/
theorem asked_rows (tools : SyncTools) (p : Principal) (epoch : Uuid) (catalog : Bool) (h : LogOrdered db)
    (follower : Follower) (limit sequence now : Int) :
    (pullPage tools.cursors db p epoch (askBody p epoch catalog follower limit) sequence now).events.map
        ServerEvent.row =
      (between SyncEventRow.serverSequence (ownedLog db p.userId) sequence
        (answerTo SyncEventRow.serverSequence (ownedLog db p.userId) sequence limit.toNat).next).filter
          (shownTo catalog) := by
  show ((((answerTo SyncEventRow.serverSequence (ownedLog db p.userId) sequence limit.toNat).rows).filter
    (shownTo (askBody p epoch catalog follower limit).catalogEnabled)).map fun row =>
      (⟨row, tombstoneOf db row⟩ : ServerEvent)).map ServerEvent.row = _
  rw [List.map_map, catalogEnabled_ask, answered_rows (ownedLog_ascends h p.userId)]
  exact List.map_id _

/-- An answer of the server. -/
theorem answers_ask (h : Follows tools p epoch catalog s frontier) {limit now sequence : Int} {page : PullPage}
    (hpulls : Pulls tools.cursors s.db p (askBody p epoch catalog s.follower limit) now sequence (page, db)) :
    Answers tools p epoch catalog s.db frontier page := by
  obtain ⟨own, hown, hcursor⟩ := h.cursor
  have hsequence : sequence = own := presented_cursor hcursor hpulls.presented
  obtain rfl : page = _ := hpulls.page
  refine ⟨sequence, (answerTo SyncEventRow.serverSequence (ownedLog s.db p.userId) sequence limit.toNat).next,
    hsequence ▸ hown, ?_, .inr ⟨now, rfl⟩, asked_rows tools p epoch catalog h.ordered s.follower limit
      sequence now⟩
  rcases @next_mem _ SyncEventRow.serverSequence (ownedLog s.db p.userId) sequence limit.toNat with
    heq | ⟨r, hr, heq⟩
  · rw [heq, hsequence]
    exact hown.trans_lt h.below
  · rw [heq]
    exact (h.ordered.bounds r (List.mem_of_mem_filter hr)).2

/-- **A step of the server or of the client.** -/
theorem Follows.step (h : Follows tools p epoch catalog s frontier) {event : FollowEvent}
    (hstep : FollowStep tools p epoch catalog s event s') :
    ∃ frontier', frontier ≤ frontier' ∧ Follows tools p epoch catalog s' frontier' := by
  cases hstep with
  | call call => exact ⟨frontier, le_refl _, h.grows (call_effect tools s.db call).log⟩
  | @ask limit now page db hpull =>
    obtain ⟨-, sequence, hpulls⟩ := pull_ok.mp hpull
    have hgrows : LogGrows s.db db := by
      rw [show db = _ from hpulls.acknowledged]
      exact .of_eq rfl rfl
    have hnext := h.grows hgrows
    refine ⟨frontier, le_refl _, hnext.ordered, hnext.below, hnext.applied, hnext.supported, hnext.deferred,
      hnext.cursor, fun x hx => ?_⟩
    rcases List.mem_cons.mp hx with rfl | hx
    · exact (answers_ask h hpulls).grows hgrows
    · exact hnext.inFlight x hx
  | arrive page hpage =>
    have hanswers := h.inFlight page hpage
    rcases receive_cases s.follower page with hall | hreceive
    · obtain ⟨start, stop, hstart, hstop, hcursor, hrows⟩ := hanswers.stretch
      exact ⟨_, le_max_left _ _, h.applies hstart hstop hcursor hrows hall⟩
    · rw [hreceive]
      exact ⟨frontier, le_refl _, h.aside hanswers rfl⟩
  | upgrade known hknown =>
    refine ⟨frontier, le_refl _, h.ordered, h.below, h.applied, fun r hr hshown => ?_, h.deferred, h.cursor,
      h.inFlight⟩
    have hold := of_decide_eq_true (h.supported r hr hshown)
    exact decide_eq_true ⟨hold.1, hknown hold.2⟩

theorem follows_run {events : List FollowEvent} (path : Path (FollowStep tools p epoch catalog) s events s')
    (h : Follows tools p epoch catalog s frontier) :
    ∃ frontier', frontier ≤ frontier' ∧ Follows tools p epoch catalog s' frontier' := by
  induction path generalizing frontier with
  | nil s => exact ⟨frontier, le_refl _, h⟩
  | cons hstep path ih =>
    obtain ⟨next, hle, hnext⟩ := h.step hstep
    obtain ⟨last, hle', hlast⟩ := ih hnext
    exact ⟨last, hle.trans hle', hlast⟩

/-- No event is deferred that the installed version supports. -/
def Steady (follower : Follower) : Prop := ∀ row ∈ follower.deferred, follower.supports row = false

theorem steady_run {events : List FollowEvent} (path : Path (FollowStep tools p epoch catalog) s events s')
    (hevents : ∀ known, FollowEvent.upgrade known ∉ events) (h : Steady s.follower) : Steady s'.follower := by
  induction path with
  | nil s => exact h
  | cons hstep path ih =>
    refine ih (fun known hmem => hevents known (List.mem_cons_of_mem _ hmem)) ?_
    cases hstep with
    | call call => exact h
    | ask limit now hpull => exact h
    | arrive page hpage =>
      rcases receive_cases _ page with hall | hreceive
      · rw [receive_supported hall]
        exact h
      · rw [hreceive]
        show ∀ row ∈ Follow.receive _ _ _, _
        intro row hrow
        rcases mem_receive hrow with hrow | hrow
        · exact h row hrow
        · have hunsupported := (List.mem_filter.mp hrow).2
          rwa [Bool.not_eq_true'] at hunsupported
    | upgrade known hknown => exact absurd List.mem_cons_self (hevents known)

/-- A client that has just been bound. -/
def Following.Fresh (s : Following) : Prop :=
  LogOrdered s.db ∧ (∃ known, s.follower = ⟨known, none, [], []⟩) ∧ s.inFlight = []

theorem Following.Fresh.follows (h : s.Fresh) : Follows tools p epoch catalog s 0 := by
  obtain ⟨hordered, ⟨known, hfollower⟩, hflight⟩ := h
  have hnone : ∀ r, r ∉ through SyncEventRow.serverSequence (ownedLog s.db p.userId) 0 := by
    intro r hr
    obtain ⟨hmem, hle⟩ := mem_through.mp hr
    exact absurd (hordered.bounds r (List.mem_of_mem_filter hmem)).1 (not_lt.mpr hle)
  refine ⟨hordered, hordered.next, ?_, fun r hr => absurd hr (hnone r), fun r hr => ?_,
    ⟨0, le_refl 0, .inl ⟨?_, rfl⟩⟩, fun page hpage => ?_⟩
  · rw [hfollower, List.eq_nil_iff_forall_not_mem.mpr hnone]
    rfl
  · rw [hfollower] at hr
    exact absurd hr List.not_mem_nil
  · rw [hfollower]
  · rw [hflight] at hpage
    cases hpage

theorem Following.Fresh.steady (h : s.Fresh) : Steady s.follower := by
  obtain ⟨-, ⟨known, hfollower⟩, -⟩ := h
  rw [hfollower]
  exact fun row hrow => absurd hrow List.not_mem_nil

theorem filter_through (s : Int) (deferred : List SyncEventRow) :
    (through SyncEventRow.serverSequence (ownedLog db p.userId) s).filter (taken catalog deferred) =
      (through SyncEventRow.serverSequence (shownLog p catalog db) s).filter fun row => !isDeferred deferred row := by
  rw [← filter_taken]
  unfold through shownLog
  rw [List.filter_filter, List.filter_filter, List.filter_filter, List.filter_filter]
  refine List.filter_congr fun r _ => ?_
  rw [Bool.and_assoc, Bool.and_assoc, Bool.and_comm (shownTo catalog r)]

/-- A supported answer without more completes the log as it was answered. -/
theorem Follows.completed (h : Follows tools p epoch catalog s frontier) {limit now : Int} {page : PullPage}
    (hpull : pull tools.cursors s.db p (askBody p epoch catalog s.follower limit) now = .ok (page, db))
    (hsupports : ∀ event ∈ page.events, s.follower.supports event.row = true) (hmore : page.hasMore = false) :
    (s.follower.receive page).applied =
      (shownLog p catalog s.db).filter fun row => !isDeferred s.follower.deferred row := by
  obtain ⟨-, sequence, hpulls⟩ := pull_ok.mp hpull
  obtain ⟨own, hown, hcursor⟩ := h.cursor
  obtain rfl : sequence = own := presented_cursor hcursor hpulls.presented
  obtain rfl : page = pullPage tools.cursors s.db p epoch (askBody p epoch catalog s.follower limit) sequence now :=
    hpulls.page
  rw [← List.forall_mem_map (P := fun row => s.follower.supports row = true)] at hsupports
  rw [receive_supported hsupports]
  show Follow.receive SyncEventRow.eventId s.follower.applied _ = _
  have hasc := ownedLog_ascends h.ordered p.userId
  rw [asked_rows tools p epoch catalog h.ordered, filter_taken, h.applied,
    taken_received hasc (ownedLog_keys s.db p.userId) hown]
  have hend : through SyncEventRow.serverSequence (ownedLog s.db p.userId) (max frontier
      (answerTo SyncEventRow.serverSequence (ownedLog s.db p.userId) sequence limit.toNat).next) =
        ownedLog s.db p.userId :=
    List.filter_eq_self.mpr fun r hr => decide_eq_true ((answered_all hasc hmore hr).trans (le_max_right _ _))
  rw [hend, ← filter_taken]
  rfl

end

/-! ## a playlist that reaches the tablet -/

namespace Sample

/-- The tablet of the owner. -/
def reader : Principal := ⟨user, tablet⟩

/-- The tablet is bound besides the phone. -/
def paired : SyncDb :=
  { enrolled with
    cursors := ⟨[⟨phone, user, 0, 0, some journal⟩, ⟨tablet, user, 0, 0, some journal⟩], by decide, by decide⟩ }

def unread : Following := ⟨paired, ⟨[.playlistCreated], none, [], []⟩, []⟩

/-- The phone has made the list. -/
noncomputable def made : SyncDb := ServerCall.run tools paired (.push (push createList))

/-- The first pull of the tablet. -/
noncomputable def firstPage : PullPage :=
  pullPage tools.cursors made reader journal (askBody reader journal true ⟨[.playlistCreated], none, [], []⟩ 10) 0 0

/-- The pull is answered, and the answer arrives. -/
noncomputable def read : Following :=
  ⟨made.acknowledge tablet 0, (⟨[.playlistCreated], none, [], []⟩ : Follower).receive firstPage, [firstPage]⟩

theorem unread_fresh : unread.Fresh :=
  ⟨⟨List.Pairwise.nil, fun _ h => absurd h List.not_mem_nil, Int.one_pos⟩, ⟨_, rfl⟩, rfl⟩

theorem read_path : Path (FollowStep tools reader journal true) unread
    [.call (.push (push createList)), .ask 10 0, .arrive firstPage] read :=
  .cons (.call unread _)
    (.cons (.ask ⟨made, ⟨[.playlistCreated], none, [], []⟩, []⟩ 10 0 (pull_ok.mpr ⟨rfl, 0, by decide, rfl, rfl, rfl, rfl⟩))
      (.cons (.arrive _ firstPage (List.mem_singleton.mpr rfl)) (.nil read)))

end Sample

end AutPlay.Sync
