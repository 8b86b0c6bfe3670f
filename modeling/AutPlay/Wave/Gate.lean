import AutPlay.Wave.Invariant
import Mathlib.Order.Bounds.Basic

/-!
# The start gate

What the two queries of the gate count, said participant by participant.

* `Present`, `Ready`, `Reports`   who is present, who is ready, and what a clock report says;
* `GateOpen`                      when a recording may start, and with which lead;
* `startLead_iff`                 the counts of the queries say the same;
* `start_gate`                    what a start appends.
-/

set_option linter.unusedSectionVars false

namespace AutPlay.Wave
open Sync (Uuid Json Payload)
open Table (mem_def)

/-- Who takes part in a room. -/
inductive Participant
  | member (m : MemberRow)
  | guest (g : GuestSessionRow)

/-- Seen at the cutoff or later. -/
def Seen (lastPresentAt : Option Instant) (cutoff : Instant) : Prop :=
  ∃ t, lastPresentAt = some t ∧ cutoff ≤ t

/-- **A participant is present**: a joined member, seen in the last 30 s, as the caller just was; or an
active unexpired guest of a live invitation, seen in the last 30 s. -/
def Present (db : WaveDb) (room caller : Uuid) (now : Instant) : Participant → Prop
  | .member m => m ∈ db.members ∧ m.roomId = room ∧ m.status = .joined ∧
      (m.deviceId = caller ∨ Seen m.lastPresentAt (now - seconds 30))
  | .guest g => g ∈ db.guestSessions ∧ g.roomId = room ∧ g.state = .active ∧ now < g.expiresAt ∧
      Seen g.lastPresentAt (now - seconds 30) ∧
      ∃ i ∈ db.guestInvitations, i.invitationId = g.invitationId ∧
        (i.state = .pending ∨ i.state = .depleted) ∧ now < i.expiresAt

/-- **A participant is ready** for exactly the entry, the recording and the version of the queue. -/
def Ready (db : WaveDb) (room : Uuid) (q : StartRequest) (now : Instant) : Participant → Prop
  | .member m => ∃ f ∈ db.preflights, f.roomId = room ∧ f.deviceId = m.deviceId ∧
      f.queueEntryId = q.queueEntryId ∧ f.recordingId = q.recordingId ∧
      f.queueVersion = q.expectedQueueVersion ∧ f.finalReady = true ∧
      f.availability ≠ .unavailable ∧ now < f.expiresAt
  | .guest g => ∃ f ∈ db.guestPreflights, f.roomId = room ∧ f.guestSessionId = g.guestSessionId ∧
      f.queueEntryId = q.queueEntryId ∧ f.recordingId = q.recordingId ∧
      f.queueVersion = q.expectedQueueVersion ∧ f.finalReady = true ∧
      f.availability ≠ .unavailable ∧ now < f.expiresAt

/-- The report of a participant's clock for the expected sequence, at most 60 s old. -/
def Reports (db : WaveDb) (room : Uuid) (q : StartRequest) (now : Instant) :
    Participant → Int → Int → Prop
  | .member m, rtt, uncertainty => ∃ t ∈ db.timingReports, t.roomId = room ∧
      t.deviceId = m.deviceId ∧ t.commandSequence = q.expectedSequence ∧
      now - seconds 60 ≤ t.reportedAt ∧ t.rttMs = rtt ∧ t.uncertaintyMs = uncertainty
  | .guest g, rtt, uncertainty => ∃ t ∈ db.guestTimingReports, t.roomId = room ∧
      t.guestSessionId = g.guestSessionId ∧ t.commandSequence = q.expectedSequence ∧
      now - seconds 60 ≤ t.reportedAt ∧ t.rttMs = rtt ∧ t.uncertaintyMs = uncertainty

/-- **The gate is open**, with a lead in milliseconds. -/
structure GateOpen (db : WaveDb) (room caller : Uuid) (q : StartRequest) (now : Instant)
    (lead : Int) : Prop where
  entry : ∃ e ∈ db.queueEntries, e.roomId = room ∧ e.queueEntryId = q.queueEntryId ∧
    e.recordingId = q.recordingId ∧ e.removedAt = none
  someone : ∃ x, Present db room caller now x
  ready : ∀ x, Present db room caller now x → Ready db room q now x
  clock : ∀ x, Present db room caller now x → ∃ rtt uncertainty,
    Reports db room q now x rtt uncertainty ∧ (0 ≤ rtt ∧ rtt ≤ 1000) ∧
      0 ≤ uncertainty ∧ uncertainty ≤ 100
  longest : ∃ maxRtt maxUncertainty,
    IsGreatest {rtt | ∃ x, Present db room caller now x ∧
      ∃ uncertainty, Reports db room q now x rtt uncertainty} maxRtt ∧
    IsGreatest {uncertainty | ∃ x, Present db room caller now x ∧
      ∃ rtt, Reports db room q now x rtt uncertainty} maxUncertainty ∧
    lead = max 2000 (3 * maxRtt + 2 * maxUncertainty + 250)
  bound : lead ≤ 8000

/-! ## one line of the query for each participant -/

/-- The line of `participant_gate` for a participant. -/
def gateOf (db : WaveDb) (room : Uuid) (q : StartRequest) (now : Instant) :
    Participant → ParticipantGate
  | .member m => memberGate db room q now m
  | .guest g => guestGate db room q now g

section
variable {db : WaveDb} {room caller : Uuid} {q : StartRequest} {now : Instant} {x : Participant}

theorem argmax_of_subsingleton {α β : Type*} [LinearOrder β] {l : List α} (f : α → β)
    (h : ∀ a ∈ l, ∀ b ∈ l, a = b) (a : α) : l.argmax f = some a ↔ a ∈ l := by
  constructor
  · exact fun ha => List.argmax_mem (Option.mem_def.mpr ha)
  · intro ha
    cases hm : l.argmax f with
    | none =>
      rw [List.argmax_eq_none.mp hm] at ha
      cases ha
    | some b => exact congrArg some (h b (List.argmax_mem (Option.mem_def.mpr hm)) a ha)

/-- Where a filter fixes the primary key, the latest row it leaves is the only one. -/
theorem argmax_of_key {ρ κ ι β : Type*} [Schema ρ κ ι] [LinearOrder β] {t : Table ρ} {p : ρ → Prop}
    [DecidablePred p] (f : ρ → β) {k : κ} (hkey : ∀ r, p r → Schema.key r = k) (r : ρ) :
    (t.rows.filter fun r => p r).argmax f = some r ↔ r ∈ t ∧ p r := by
  rw [argmax_of_subsingleton, List.mem_filter, decide_eq_true_iff]
  · rfl
  · intro r hr r' hr'
    obtain ⟨hr, hp⟩ := List.mem_filter.mp hr
    obtain ⟨hr', hp'⟩ := List.mem_filter.mp hr'
    have hk := hkey r (of_decide_eq_true hp)
    have hk' := hkey r' (of_decide_eq_true hp')
    exact Table.eq_of_key hr hr' (hk.trans hk'.symm)

/-- The primary key leaves a member one report for a sequence number. -/
theorem memberReport_iff {m : MemberRow} {t : TimingReportRow} :
    latestTiming (db.timingReports.rows.filter fun t => t.roomId = room ∧
      t.deviceId = m.deviceId ∧ t.commandSequence = q.expectedSequence ∧
      now - seconds 60 ≤ t.reportedAt) = some t ↔
    t ∈ db.timingReports ∧ t.roomId = room ∧ t.deviceId = m.deviceId ∧
      t.commandSequence = q.expectedSequence ∧ now - seconds 60 ≤ t.reportedAt := by
  refine argmax_of_key _ (k := (room, m.deviceId, q.expectedSequence)) ?_ t
  rintro t ⟨hroom, hdevice, hseq, -⟩
  exact Prod.ext hroom (Prod.ext hdevice hseq)

theorem guestReport_iff {g : GuestSessionRow} {t : GuestTimingReportRow} :
    latestGuestTiming (db.guestTimingReports.rows.filter fun t => t.roomId = room ∧
      t.guestSessionId = g.guestSessionId ∧ t.commandSequence = q.expectedSequence ∧
      now - seconds 60 ≤ t.reportedAt) = some t ↔
    t ∈ db.guestTimingReports ∧ t.roomId = room ∧ t.guestSessionId = g.guestSessionId ∧
      t.commandSequence = q.expectedSequence ∧ now - seconds 60 ≤ t.reportedAt := by
  refine argmax_of_key _ (k := (room, g.guestSessionId, q.expectedSequence)) ?_ t
  rintro t ⟨hroom, hguest, hseq, -⟩
  exact Prod.ext hroom (Prod.ext hguest hseq)

/-- Two columns of one row. -/
theorem map_eq_some_both {τ α β : Type*} {o : Option τ} {f : τ → α} {g : τ → β} {a : α} {b : β} :
    o.map f = some a ∧ o.map g = some b ↔ ∃ t, o = some t ∧ f t = a ∧ g t = b := by
  rw [Option.map_eq_some_iff, Option.map_eq_some_iff]
  constructor
  · rintro ⟨⟨t, ht, hf⟩, t', ht', hg⟩
    cases ht.symm.trans ht'
    exact ⟨t, ht, hf, hg⟩
  · rintro ⟨t, ht, hf, hg⟩
    exact ⟨⟨t, ht, hf⟩, t, ht, hg⟩

theorem gateOf_ready : (gateOf db room q now x).ready = true ↔ Ready db room q now x := by
  cases x with
  | member m =>
    show (db.preflights.rows.any _) = true ↔ _
    rw [List.any_eq_true]
    exact exists_congr fun f => and_congr Iff.rfl decide_eq_true_iff
  | guest g =>
    show (db.guestPreflights.rows.any _) = true ↔ _
    rw [List.any_eq_true]
    exact exists_congr fun f => and_congr Iff.rfl decide_eq_true_iff

/-- The two numbers of a line come from one report. -/
theorem gateOf_report {rtt uncertainty : Int} :
    (gateOf db room q now x).rtt = some rtt ∧ (gateOf db room q now x).uncertainty = some uncertainty ↔
      Reports db room q now x rtt uncertainty := by
  cases x with
  | member m =>
    show (Option.map _ _ = some rtt ∧ Option.map _ _ = some uncertainty) ↔ _
    rw [map_eq_some_both]
    constructor
    · rintro ⟨t, ht, hrtt, hu⟩
      obtain ⟨hmem, hroom, hdevice, hseq, hage⟩ := (memberReport_iff).mp ht
      exact ⟨t, hmem, hroom, hdevice, hseq, hage, hrtt, hu⟩
    · rintro ⟨t, hmem, hroom, hdevice, hseq, hage, hrtt, hu⟩
      exact ⟨t, (memberReport_iff).mpr ⟨hmem, hroom, hdevice, hseq, hage⟩, hrtt, hu⟩
  | guest g =>
    show (Option.map _ _ = some rtt ∧ Option.map _ _ = some uncertainty) ↔ _
    rw [map_eq_some_both]
    constructor
    · rintro ⟨t, ht, hrtt, hu⟩
      obtain ⟨hmem, hroom, hguest, hseq, hage⟩ := (guestReport_iff).mp ht
      exact ⟨t, hmem, hroom, hguest, hseq, hage, hrtt, hu⟩
    · rintro ⟨t, hmem, hroom, hguest, hseq, hage, hrtt, hu⟩
      exact ⟨t, (guestReport_iff).mpr ⟨hmem, hroom, hguest, hseq, hage⟩, hrtt, hu⟩

/-- A line has both numbers or none. -/
theorem gateOf_known :
    ((gateOf db room q now x).rtt = none ∧ (gateOf db room q now x).uncertainty = none) ∨
      ∃ rtt uncertainty, Reports db room q now x rtt uncertainty := by
  have hboth : (gateOf db room q now x).rtt = none ↔ (gateOf db room q now x).uncertainty = none := by
    cases x with
    | member m =>
      show Option.map _ _ = none ↔ Option.map _ _ = none
      rw [Option.map_eq_none_iff, Option.map_eq_none_iff]
    | guest g =>
      show Option.map _ _ = none ↔ Option.map _ _ = none
      rw [Option.map_eq_none_iff, Option.map_eq_none_iff]
  cases hr : (gateOf db room q now x).rtt with
  | none => exact Or.inl ⟨rfl, hboth.mp hr⟩
  | some rtt =>
    cases hu : (gateOf db room q now x).uncertainty with
    | none => exact absurd (hboth.mpr hu) (by rw [hr]; exact nofun)
    | some uncertainty => exact Or.inr ⟨rtt, uncertainty, (gateOf_report).mp ⟨hr, hu⟩⟩

theorem gateOf_rtt {rtt : Int} : (gateOf db room q now x).rtt = some rtt ↔
    ∃ uncertainty, Reports db room q now x rtt uncertainty := by
  constructor
  · intro h
    obtain ⟨hnone, -⟩ | ⟨rtt', uncertainty, hr⟩ := @gateOf_known db room q now x
    · rw [h] at hnone
      cases hnone
    · cases h.symm.trans ((gateOf_report).mpr hr).1
      exact ⟨uncertainty, hr⟩
  · exact fun ⟨uncertainty, hr⟩ => ((gateOf_report).mpr hr).1

theorem gateOf_uncertainty {uncertainty : Int} :
    (gateOf db room q now x).uncertainty = some uncertainty ↔
      ∃ rtt, Reports db room q now x rtt uncertainty := by
  constructor
  · intro h
    obtain ⟨-, hnone⟩ | ⟨rtt, uncertainty', hr⟩ := @gateOf_known db room q now x
    · rw [h] at hnone
      cases hnone
    · cases h.symm.trans ((gateOf_report).mpr hr).2
      exact ⟨rtt, hr⟩
  · exact fun ⟨rtt, hr⟩ => ((gateOf_report).mpr hr).2

theorem gateOf_clockOk :
    (gateOf db room q now x).clockOk = true ↔ ∃ rtt uncertainty,
      Reports db room q now x rtt uncertainty ∧ (0 ≤ rtt ∧ rtt ≤ 1000) ∧
        0 ≤ uncertainty ∧ uncertainty ≤ 100 := by
  unfold ParticipantGate.clockOk
  rw [Bool.and_eq_true, Option.any_eq_true, Option.any_eq_true]
  constructor
  · rintro ⟨⟨rtt, hr, hrtt⟩, uncertainty, hu, hun⟩
    exact ⟨rtt, uncertainty, (gateOf_report).mp ⟨hr, hu⟩, of_decide_eq_true hrtt,
      of_decide_eq_true hun⟩
  · rintro ⟨rtt, uncertainty, h, hrtt, hun⟩
    obtain ⟨hr, hu⟩ := (gateOf_report).mpr h
    exact ⟨⟨rtt, hr, decide_eq_true hrtt⟩, uncertainty, hu, decide_eq_true hun⟩

theorem seenSince_iff {lastPresentAt : Option Instant} {cutoff : Instant} :
    (match lastPresentAt with
      | none => false
      | some t => decide (cutoff ≤ t)) = true ↔ Seen lastPresentAt cutoff := by
  cases lastPresentAt with
  | none => exact ⟨nofun, fun ⟨t, h, _⟩ => nomatch h⟩
  | some t =>
    constructor
    · exact fun h => ⟨t, rfl, of_decide_eq_true h⟩
    · rintro ⟨t', h, hle⟩
      cases h
      exact decide_eq_true hle

/-- The lines of the query, after the caller was seen. -/
theorem mem_participantGate {g : ParticipantGate} :
    g ∈ participantGate (touched db room caller now) room q now ↔
      ∃ x, Present db room caller now x ∧ g = gateOf db room q now x := by
  unfold participantGate
  rw [List.mem_append, List.mem_map, List.mem_map]
  constructor
  · rintro (⟨m, hm, rfl⟩ | ⟨s, hs, rfl⟩)
    · obtain ⟨hm, hp⟩ := List.mem_filter.mp hm
      obtain ⟨hjoined, hseen⟩ := of_decide_eq_true hp
      obtain ⟨hm, hroom⟩ := mem_membersOf.mp hm
      obtain ⟨m₀, hm₀, rfl⟩ := mem_touched.mp hm
      rw [touchRow_status] at hjoined
      rw [touchRow_roomId] at hroom
      refine ⟨.member m₀, ⟨hm₀, hroom, hjoined, ?_⟩, ?_⟩
      · by_cases hd : m₀.deviceId = caller
        · exact Or.inl hd
        · refine Or.inr ((seenSince_iff).mp ?_)
          have hsame : touchRow room caller now m₀ = m₀ := by
            unfold touchRow
            exact if_neg fun h => hd (of_decide_eq_true h).2
          rw [hsame] at hseen
          exact hseen
      · show memberGate _ room q now _ = memberGate db room q now m₀
        unfold memberGate
        rw [touchRow_deviceId]
        rfl
    · obtain ⟨hs, hp⟩ := List.mem_filter.mp hs
      obtain ⟨hs, hroom⟩ := List.mem_filter.mp hs
      obtain ⟨hpresent, hseen, hinv⟩ := of_decide_eq_true hp
      obtain ⟨hactive, hexp⟩ := of_decide_eq_true hpresent
      obtain ⟨i, hi, hlive⟩ := (Option.any_eq_true ..).mp hinv
      obtain ⟨hstate, hexpires⟩ := of_decide_eq_true hlive
      refine ⟨.guest s, ⟨hs, of_decide_eq_true hroom, hactive, hexp, (seenSince_iff).mp hseen, i,
        Table.mem_of_find hi, Table.key_of_find hi, hstate, hexpires⟩, rfl⟩
  · rintro ⟨x, hx, rfl⟩
    cases x with
    | member m =>
      obtain ⟨hm, hroom, hjoined, hseen⟩ := hx
      refine Or.inl ⟨touchRow room caller now m, List.mem_filter.mpr ⟨mem_membersOf.mpr
        ⟨mem_touched.mpr ⟨m, hm, rfl⟩, (touchRow_roomId ..).trans hroom⟩,
        decide_eq_true ⟨(touchRow_status ..).trans hjoined, ?_⟩⟩, ?_⟩
      · by_cases hd : m.deviceId = caller
        · unfold touchRow
          rw [if_pos (decide_eq_true ⟨hroom, hd⟩)]
          exact (seenSince_iff).mpr ⟨now, rfl, Int.sub_le_self now (by decide)⟩
        · unfold touchRow
          rw [if_neg fun h => hd (of_decide_eq_true h).2]
          exact (seenSince_iff).mpr (hseen.resolve_left hd)
      · show memberGate _ room q now _ = memberGate db room q now m
        unfold memberGate
        rw [touchRow_deviceId]
        rfl
    | guest s =>
      obtain ⟨hs, hroom, hactive, hexp, hseen, i, hi, hid, hstate, hexpires⟩ := hx
      refine Or.inr ⟨s, List.mem_filter.mpr ⟨List.mem_filter.mpr ⟨hs, decide_eq_true hroom⟩,
        decide_eq_true ⟨decide_eq_true ⟨hactive, hexp⟩, (seenSince_iff).mpr hseen, ?_⟩⟩, rfl⟩
      refine (Option.any_eq_true ..).mpr ⟨i, ?_, decide_eq_true ⟨hstate, hexpires⟩⟩
      exact Table.find_some.mpr ⟨hi, hid⟩

/-! ## the counts of the query -/

theorem participantGate_pos_iff :
    0 < (participantGate (touched db room caller now) room q now).length ↔
      ∃ x, Present db room caller now x := by
  rw [List.length_pos_iff_exists_mem]
  constructor
  · rintro ⟨g, hg⟩
    obtain ⟨x, hx, -⟩ := (mem_participantGate).mp hg
    exact ⟨x, hx⟩
  · exact fun ⟨x, hx⟩ => ⟨gateOf db room q now x, (mem_participantGate).mpr ⟨x, hx, rfl⟩⟩

/-- A count that is the length says so of every participant. -/
theorem countP_participantGate {p : ParticipantGate → Bool} {P : Participant → Prop}
    (h : ∀ x, p (gateOf db room q now x) = true ↔ P x) :
    (participantGate (touched db room caller now) room q now).countP p =
        (participantGate (touched db room caller now) room q now).length ↔
      ∀ x, Present db room caller now x → P x := by
  rw [List.countP_eq_length]
  constructor
  · exact fun hall x hx => (h x).mp (hall _ ((mem_participantGate).mpr ⟨x, hx, rfl⟩))
  · intro hall g hg
    obtain ⟨x, hx, rfl⟩ := (mem_participantGate).mp hg
    exact (h x).mpr (hall x hx)

/-- `coalesce(max(x),0)` is the greatest of the known values. -/
theorem maxOrZero_isGreatest {values : List (Option Int)} {a : Int} (h : some a ∈ values) :
    IsGreatest {b | some b ∈ values} (maxOrZero values) := by
  have hknown : ∀ b, b ∈ values.filterMap id ↔ some b ∈ values := fun b => by simp
  cases hm : (values.filterMap id).max? with
  | none =>
    rw [List.max?_eq_none_iff] at hm
    exact absurd ((hknown a).mpr h) (by rw [hm]; exact List.not_mem_nil)
  | some m =>
    obtain ⟨hmem, hle⟩ := List.max?_eq_some_iff.mp hm
    unfold maxOrZero
    rw [hm]
    exact ⟨(hknown m).mp hmem, fun b hb => hle b ((hknown b).mpr hb)⟩

/-- The greatest value of a column, over the participants that have one. -/
theorem max_isGreatest {column : ParticipantGate → Option Int} {P : Participant → Int → Prop}
    {a : Int} (h : ∀ x b, column (gateOf db room q now x) = some b ↔ P x b)
    (hx : Present db room caller now x) (ha : P x a) :
    IsGreatest {b | ∃ x, Present db room caller now x ∧ P x b}
      (maxOrZero ((participantGate (touched db room caller now) room q now).map column)) := by
  have hset : {b | ∃ x, Present db room caller now x ∧ P x b} =
      {b | some b ∈ (participantGate (touched db room caller now) room q now).map column} := by
    ext b
    show (∃ x, Present db room caller now x ∧ P x b) ↔ some b ∈ List.map column _
    rw [List.mem_map]
    constructor
    · rintro ⟨y, hy, hb⟩
      exact ⟨_, (mem_participantGate).mpr ⟨y, hy, rfl⟩, (h y b).mpr hb⟩
    · rintro ⟨g, hg, hb⟩
      obtain ⟨y, hy, rfl⟩ := (mem_participantGate).mp hg
      exact ⟨y, hy, (h y b).mp hb⟩
  rw [hset]
  exact maxOrZero_isGreatest (List.mem_map.mpr
    ⟨_, (mem_participantGate).mpr ⟨x, hx, rfl⟩, (h x a).mpr ha⟩)

/-- **The counts of the queries open the gate exactly when every participant does.** -/
theorem startLead_iff {lead : Int} :
    startLead (touched db room caller now) room q now = some lead ↔
      GateOpen db room caller q now lead := by
  have hgreatest : (∃ x, Present db room caller now x) →
      (∀ x, Present db room caller now x → ∃ rtt uncertainty,
        Reports db room q now x rtt uncertainty ∧ (0 ≤ rtt ∧ rtt ≤ 1000) ∧
          0 ≤ uncertainty ∧ uncertainty ≤ 100) →
      ∃ x rtt uncertainty, Present db room caller now x ∧
        Reports db room q now x rtt uncertainty := by
    rintro ⟨x, hx⟩ hclock
    obtain ⟨rtt, uncertainty, h, -⟩ := hclock x hx
    exact ⟨x, rtt, uncertainty, hx, h⟩
  unfold startLead gateCounts
  dsimp only
  rw [ite_eq_iff]
  constructor
  · rintro (⟨⟨⟨hentry, hpos, hready, hclock⟩, hbound⟩, hlead⟩ | ⟨-, h⟩)
    · have hsome := (participantGate_pos_iff).mp hpos
      have hclock := (countP_participantGate fun x => gateOf_clockOk).mp hclock
      obtain ⟨x, rtt, uncertainty, hx, hr⟩ := hgreatest hsome hclock
      cases hlead
      exact ⟨hentry, hsome, (countP_participantGate fun x => gateOf_ready).mp hready, hclock,
        ⟨_, _, max_isGreatest (fun _ _ => gateOf_rtt) hx ⟨uncertainty, hr⟩,
          max_isGreatest (fun _ _ => gateOf_uncertainty) hx ⟨rtt, hr⟩, rfl⟩, hbound⟩
    · cases h
  · intro h
    obtain ⟨x, rtt, uncertainty, hx, hr⟩ := hgreatest h.someone h.clock
    obtain ⟨maxRtt, maxUncertainty, hrtt, huncertainty, hlead⟩ := h.longest
    have hr₁ := hrtt.unique (max_isGreatest (fun _ _ => gateOf_rtt) hx ⟨uncertainty, hr⟩)
    have hu₁ := huncertainty.unique
      (max_isGreatest (fun _ _ => gateOf_uncertainty) hx ⟨rtt, hr⟩)
    rw [hr₁, hu₁] at hlead
    exact Or.inl ⟨⟨⟨h.entry, (participantGate_pos_iff).mpr h.someone,
      (countP_participantGate fun x => gateOf_ready).mpr h.ready,
      (countP_participantGate fun x => gateOf_clockOk).mpr h.clock⟩, hlead ▸ h.bound⟩,
      congrArg some hlead.symm⟩

end

/-! ## what a start appends -/

/-- The room row and the log of the room, after the row of a start. -/
structure StartRow (room : Uuid) (db db' : WaveDb) (row' : RoomRow) (c : CommandRow) : Prop where
  found : db'.rooms.find room = some row'
  log : db'.commandsOf room = db.commandsOf room ++ [c]
  queue : db'.queueEntries = db.queueEntries

theorem Started.startRow {env : WaveEnv} {db db' : WaveDb} {room : Uuid} {p : Principal}
    {q : StartRequest} {now : Instant} {row : RoomRow} {value : WaveRoom} {lead : Option Int}
    (h : Started env db room p q now row value lead db') :
    StartRow room db db' (startedRow q lead now row) (startCommand env room p q lead now) := by
  have hview := view_insertCommand h.written rfl (view_updateRoom (startedRow q lead now)
    (fun _ => rfl) (fun _ => rfl) (view_touched p.deviceId h.visited.view))
  obtain ⟨hrow, hlog, -⟩ := view_eq_some.mp hview
  obtain ⟨-, commands, -, rfl⟩ := insertCommand_ok.mp h.written
  exact ⟨hrow, hlog, rfl⟩

/-- **A start appends one command, a PLAY exactly when the gate is open**: the sequence grows by one,
the queue stays, a PLAY takes effect after the lead, and any other start leaves the room paused. -/
theorem start_gate {env : WaveEnv} {db db' : WaveDb} {room : Uuid} {p : Principal}
    {q : StartRequest} {now : Instant} {result : StartResult}
    (h : start env db room p q now = .ok (result, db')) :
    ∃ row row' c, db.rooms.find room = some row ∧ StartRow room db db' row' c ∧
      row.queueVersion = q.expectedQueueVersion ∧ row.commandSequence = q.expectedSequence ∧
      c.commandSequence = row.commandSequence + 1 ∧
      row'.commandSequence = row.commandSequence + 1 ∧ row'.queueVersion = row.queueVersion ∧
      (c.commandKind = .play ↔ ∃ lead, GateOpen db room p.deviceId q now lead) ∧
      (∀ lead, GateOpen db room p.deviceId q now lead →
        c.effectiveAt = some (now + milliseconds lead) ∧
          row'.timelineEffectiveAt = some (now + milliseconds lead) ∧
          row'.playbackState = .playing ∧
          result = ⟨c.commandSequence, .playing, true, some (now + milliseconds lead)⟩) ∧
      ((¬∃ lead, GateOpen db room p.deviceId q now lead) →
        c.commandKind = .startAborted ∧ c.effectiveAt = none ∧ row'.timelineEffectiveAt = none ∧
          row'.playbackState = .paused ∧ result = ⟨c.commandSequence, .paused, false, none⟩) := by
  obtain ⟨row, value, lead, hs, rfl⟩ := start_ok h
  refine ⟨row, startedRow q lead now row, startCommand env room p q lead now, hs.visited.found,
    hs.startRow, hs.queueVersion, hs.commandSequence, ?_, ?_, rfl, ?_⟩
  · exact congrArg (· + 1) hs.commandSequence.symm
  · exact congrArg (· + 1) hs.commandSequence.symm
  have hgate : ∀ ms, lead = some ms ↔ GateOpen db room p.deviceId q now ms := fun ms => by
    rw [hs.gate]
    exact startLead_iff
  cases lead with
  | none =>
    have hshut : ¬∃ lead, GateOpen db room p.deviceId q now lead := by
      rintro ⟨ms, hopen⟩
      cases (hgate ms).mpr hopen
    refine ⟨⟨nofun, fun hopen => absurd hopen hshut⟩, fun ms hopen => absurd ⟨ms, hopen⟩ hshut,
      fun _ => ⟨rfl, rfl, rfl, rfl, rfl⟩⟩
  | some ms =>
    have hopen : ∃ lead, GateOpen db room p.deviceId q now lead := ⟨ms, (hgate ms).mp rfl⟩
    refine ⟨⟨fun _ => hopen, fun _ => rfl⟩, fun lead hlead => ?_, fun hshut => absurd hopen hshut⟩
    cases (hgate lead).mpr hlead
    exact ⟨rfl, rfl, rfl, rfl⟩

/-- The host queues a recording, has it, and reports its clock. -/
def Sample.gathered : List (Op × Instant × Instant) :=
  [(.create host roomId "WAVE42" [], 0, 0),
   (.command roomId host ⟨"QUEUE", "q-1",
      "c75de8c1b7c3ae5252091267a736a9bf57001d80e82668b3cb3cd09e2f6a43cb", 1, 0, some songOne⟩
      entryOne, seconds 1, seconds 1),
   (.preflight roomId host entryOne songOne 2 .localReadable true, seconds 2, seconds 2),
   (.timing roomId host ⟨1, 40, 0, 5, none, none⟩, seconds 2, seconds 2)]

def Sample.firstStart : Except WaveError (StartResult × WaveDb) :=
  start env (reached gathered).db roomId host ⟨entryOne, songOne, 2, 1⟩ (seconds 3)

theorem start_gate_opened :
    (∃ es, Path (Step Sample.env) ⟨Sample.db, 0⟩ es (Sample.reached Sample.gathered)) ∧
      ∃ result db', Sample.firstStart = .ok (result, db') ∧ result.started = true ∧
        ∃ lead, GateOpen (Sample.reached Sample.gathered).db Sample.roomId Sample.hostDevice
          ⟨Sample.entryOne, Sample.songOne, 2, 1⟩ (seconds 3) lead := by
  refine ⟨⟨_, Sample.path_reached (by decide +kernel)⟩, ?_⟩
  have hstarted : (Sample.firstStart.toOption.map fun r => r.1.started) = some true := by
    decide +kernel
  cases hrun : Sample.firstStart with
  | error e =>
    rw [hrun] at hstarted
    cases hstarted
  | ok r =>
    rw [hrun] at hstarted
    have hplay : r.1.started = true := Option.some.inj hstarted
    refine ⟨r.1, r.2, rfl, hplay, ?_⟩
    obtain ⟨row, row', c, -, -, -, -, -, -, -, -, -, hshut⟩ := start_gate hrun
    by_contra hnone
    rw [(hshut hnone).2.2.2.2] at hplay
    cases hplay

end AutPlay.Wave
