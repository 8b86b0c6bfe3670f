import AutPlay.Consent.Runs

/-!
# What the guard leaves

* `Settled`          an account whose row, if it says granted, passes `require_granted`;
* `guardBatch_frame` a batch settles its accounts and leaves the others as they were;
* `GuardReturns`     a guard that comes to its last page;
* `guard_settles`    it settles every account.
-/

set_option linter.unusedSectionVars false

namespace AutPlay.Consent

open AutPlay.Sync (Uuid)
open AutPlay.Evidence
open AutPlay.Result

/-! ## one account -/

/-- A row that says granted is usable. -/
def Settled (S : Digests) (s : Db × Ledger) (u : Uuid) : Prop :=
  ∀ row, s.1.consents.get? u = some row → row.decision = .granted →
    requireGranted S u row.revision s.1 s.2 = .ok ()

/-- What an account sees of the two stores. -/
structure Alike (S : Digests) (u : Uuid) (s s' : Db × Ledger) : Prop where
  accounts : s'.1.accounts = s.1.accounts
  operations : s'.1.operations = s.1.operations
  row : s'.1.consents.get? u = s.1.consents.get? u
  latest : s'.2.history.latest.get? (S.ownerTag u) = s.2.history.latest.get? (S.ownerTag u)

section
variable {S : Digests} {fresh : Fresh} {s s' s'' : Db × Ledger} {u v : Uuid}

theorem Alike.rfl : Alike S u s s := ⟨Eq.refl _, Eq.refl _, Eq.refl _, Eq.refl _⟩

theorem Alike.trans (h : Alike S u s s') (h' : Alike S u s' s'') : Alike S u s s'' :=
  ⟨h'.accounts.trans h.accounts, h'.operations.trans h.operations, h'.row.trans h.row,
    h'.latest.trans h.latest⟩

theorem provenGrant_congr {db db' : Db} {row : TrainingConsentRow} {history history' : TrainingConsentHistory}
    (hop : db'.operations = db.operations)
    (hlatest : history'.latest.get? (S.ownerTag u) = history.latest.get? (S.ownerTag u))
    (h : ProvenGrant S db u row history) : ProvenGrant S db' u row history' := by
  unfold ProvenGrant at h ⊢
  rw [hop, hlatest]
  exact h

theorem requireGranted_ok {revision : Int} {db : Db} {ledger : Ledger}
    (h : requireGranted S u revision db ledger = .ok ()) :
    ∃ account row, db.accounts.get? u = some account ∧ account.status = "ACTIVE" ∧ account.deletedAt = none ∧
      db.consents.get? u = some row ∧ row.decision = .granted ∧ row.revision = revision ∧
        ProvenGrant S db u row ledger.history := by
  obtain ⟨account, ha, h⟩ := bind_eq_ok.mp h
  obtain ⟨haccount, hactive, hdeleted⟩ := lockAccount_ok ha
  cases hrow : db.consents.get? u with
  | none =>
    rw [hrow] at h
    cases h
  | some row =>
    rw [hrow] at h
    dsimp only at h
    split at h
    · cases h
    · rename_i hok
      rw [not_or, not_or, not_not, not_not, not_not] at hok
      exact ⟨account, row, haccount, hactive, hdeleted, rfl, hok.1, hok.2.1, require_ok.mp h⟩

theorem requireGranted_of {db : Db} {ledger : Ledger} {account : Auth.UserAccountRow} {row : TrainingConsentRow}
    (haccount : db.accounts.get? u = some account) (hactive : account.status = "ACTIVE")
    (hdeleted : account.deletedAt = none) (hrow : db.consents.get? u = some row)
    (hgranted : row.decision = .granted) (hproven : ProvenGrant S db u row ledger.history) :
    requireGranted S u row.revision db ledger = .ok () := by
  have hversion : row.policyVersion = 1 := by
    obtain ⟨i, -, -, tag, -, receipt, -, -, -, -, -, -, -, h⟩ := hproven
    exact h
  have hlock : lockAccount db u = .ok account := by
    unfold lockAccount
    rw [haccount]
    exact if_neg (not_or.mpr ⟨not_not_intro hactive, not_not_intro hdeleted⟩)
  refine bind_eq_ok.mpr ⟨account, hlock, ?_⟩
  rw [hrow]
  dsimp only
  rw [if_neg (not_or.mpr ⟨not_not_intro hgranted, not_or.mpr ⟨not_not_intro rfl, not_not_intro hversion⟩⟩)]
  exact require_ok.mpr hproven

theorem Settled.congr (h : Settled S s u) (halike : Alike S u s s') : Settled S s' u := by
  intro row hrow hgranted
  rw [halike.row] at hrow
  obtain ⟨account, row', haccount, hactive, hdeleted, hrow', -, -, hproven⟩ :=
    requireGranted_ok (h row hrow hgranted)
  rw [hrow] at hrow'
  cases hrow'
  rw [← halike.accounts] at haccount
  exact requireGranted_of haccount hactive hdeleted (halike.row.trans hrow) hgranted
    (provenGrant_congr halike.operations halike.latest hproven)

/-- **One account of a batch** is settled, and no other is touched. -/
theorem guardAccount_settles {db : Db} {ledger : Ledger} (hmax : currentRevision (db.consents.get? u) < maxRevision)
    (hread : Alike S u (db, ledger) s) (h : guardAccount S fresh db.consents ledger.history s u = some s') :
    Settled S s' u ∧ ∀ v, v ≠ u → Alike S v s s' := by
  have hother : ∀ v, v ≠ u → S.ownerTag v ≠ S.ownerTag u := fun v hv ht => hv (S.ownerTag_injective ht)
  unfold guardAccount at h
  dsimp only at h
  have hrow : s.1.consents.get? u = db.consents.get? u := hread.row
  split at h
  · rename_i hstays
    cases h
    refine ⟨fun row hrow' hgranted => ?_, fun v _ => Alike.rfl⟩
    obtain ⟨⟨account, haccount, hactive, hdeleted⟩, r, hr, -, hproven⟩ := hstays
    rw [hrow, Option.mem_def.mp hr] at hrow'
    cases hrow'
    exact requireGranted_of haccount hactive hdeleted (hrow.trans hr) hgranted
      (provenGrant_congr rfl hread.latest hproven)
  · split at h
    · rename_i hprivate
      cases h
      refine ⟨fun row hrow' hgranted => ?_, fun v _ => Alike.rfl⟩
      obtain ⟨⟨r, hr, hne⟩, -⟩ := hprivate
      rw [hrow, Option.mem_def.mp hr] at hrow'
      cases hrow'
      exact absurd hgranted hne
    · split at h
      · rename_i hnone
        cases h
        refine ⟨fun row hrow' _ => ?_, fun v _ => Alike.rfl⟩
        rw [hrow, hnone.1] at hrow'
        cases hrow'
      · obtain ⟨decision, now, hret⟩ := retire_some h
        have hlatest : ∀ v, v ≠ u →
            s'.2.history.latest.get? (S.ownerTag v) = s.2.history.latest.get? (S.ownerTag v) := by
          intro v hv
          rcases hret.ledger with ⟨-, hrec⟩ | ⟨-, hsame⟩
          · exact Ledger.record_latest hrec (hother v hv)
          · rw [hsame]
        rcases hret.rows with ⟨row', hrow', hrows⟩ | ⟨hnone, -⟩
        · refine ⟨fun row hget hgranted => ?_, fun v hv => ⟨?_, ?_, ?_, hlatest v hv⟩⟩
          · rw [hrows] at hget
            have hget : (s.1.consents.set u row').get? u = some row := hget
            rw [Dict.get?_set_self] at hget
            cases hget
            exact absurd hgranted (retiredRow_some hrow').1
          · rw [hrows]
          · rw [hrows]
          · rw [hrows]
            exact Dict.get?_set_ne s.1.consents row' hv
        · -- a revision is never at its bound
          obtain ⟨r, hr, hle⟩ := retiredRow_none hnone
          rw [hr] at hmax
          have hlt : r.revision < maxRevision := hmax
          omega

/-! ## a batch -/

/-- **A batch** settles its accounts and leaves the others as they were. -/
theorem guardBatch_settles {db : Db} {ledger : Ledger} {users : List Uuid}
    (hmax : ∀ u, currentRevision (db.consents.get? u) < maxRevision) (hnodup : users.Nodup)
    (hread : ∀ u ∈ users, Alike S u (db, ledger) s)
    (h : users.foldlM (guardAccount S fresh db.consents ledger.history) s = some s') :
    (∀ u ∈ users, Settled S s' u) ∧ ∀ u, u ∉ users → Alike S u s s' := by
  induction users generalizing s with
  | nil =>
    cases h
    exact ⟨fun u hu => absurd hu List.not_mem_nil, fun u _ => Alike.rfl⟩
  | cons u users ih =>
    rw [List.foldlM_cons] at h
    obtain ⟨s₁, h₁, h⟩ := Option.bind_eq_some_iff.mp h
    obtain ⟨hu, hnodup⟩ := List.nodup_cons.mp hnodup
    obtain ⟨hsettled, hframe⟩ := guardAccount_settles (hmax u) (hread u List.mem_cons_self) h₁
    have hread₁ : ∀ v ∈ users, Alike S v (db, ledger) s₁ := by
      intro v hv
      have hne : v ≠ u := fun heq => hu (heq ▸ hv)
      exact (hread v (List.mem_cons_of_mem _ hv)).trans (hframe v hne)
    obtain ⟨hrest, hsame⟩ := ih hnodup hread₁ h
    refine ⟨fun v hv => ?_, fun v hv => ?_⟩
    · rcases List.mem_cons.mp hv with rfl | hv
      · exact hsettled.congr (hsame v hu)
      · exact hrest v hv
    · rw [List.mem_cons, not_or] at hv
      exact (hframe v hv.1).trans (hsame v hv.2)

end

/-! ## the pages -/

section
variable {S : Digests} {db : Db} {cursor : Option Uuid} {u last : Uuid}

theorem mem_accountsAfter :
    u ∈ accountsAfter db cursor ↔ (db.accounts.get? u).isSome = true ∧ ∀ c, cursor = some c → c.text < u.text := by
  unfold accountsAfter
  rw [List.mem_mergeSort, List.mem_filter, List.mem_map]
  refine and_congr ⟨?_, ?_⟩ ?_
  · rintro ⟨e, he, rfl⟩
    rw [Dict.get?_eq_some.mpr he]
    rfl
  · intro h
    obtain ⟨account, ha⟩ := Option.isSome_iff_exists.mp h
    exact ⟨(u, account), Dict.get?_eq_some.mp ha, rfl⟩
  · cases cursor with
    | none => exact ⟨fun _ c hc => (by cases hc), fun _ => rfl⟩
    | some c =>
      show Decidable.decide (c.text < u.text) = true ↔ _
      rw [decide_eq_true_iff]
      exact ⟨fun h c' hc => by cases hc; exact h, fun h => h c rfl⟩

theorem accountsAfter_sorted : (accountsAfter db cursor).Pairwise fun u v => u.text ≤ v.text := by
  unfold accountsAfter
  have htrans : ∀ a b c : Uuid, Decidable.decide (a.text ≤ b.text) = true →
      Decidable.decide (b.text ≤ c.text) = true → Decidable.decide (a.text ≤ c.text) = true := by
    intro a b c hab hbc
    rw [decide_eq_true_iff] at hab hbc ⊢
    exact hab.trans hbc
  have htotal : ∀ a b : Uuid,
      (Decidable.decide (a.text ≤ b.text) || Decidable.decide (b.text ≤ a.text)) = true := by
    intro a b
    rw [Bool.or_eq_true, decide_eq_true_iff, decide_eq_true_iff]
    exact le_total _ _
  have h := List.pairwise_mergeSort htrans htotal
    ((db.accounts.items.map Prod.fst).filter fun u => cursor.all fun c => c.text < u.text)
  refine h.imp fun hab => ?_
  exact decide_eq_true_iff.mp hab

theorem accountsAfter_nodup : (accountsAfter db cursor).Nodup := by
  unfold accountsAfter
  rw [List.Perm.nodup_iff (List.mergeSort_perm _ _)]
  exact db.accounts.nodup.filter _

theorem guardPage_nodup : (guardPage db cursor).Nodup :=
  (List.take_sublist _ _).nodup accountsAfter_nodup

theorem mem_of_mem_guardPage (h : u ∈ guardPage db cursor) : u ∈ accountsAfter db cursor :=
  List.mem_of_mem_take h

/-- What a page leaves comes after its last account. -/
theorem after_last (hlast : (guardPage db cursor).getLast? = some last) (hu : u ∈ accountsAfter db cursor)
    (hnot : u ∉ guardPage db cursor) : last.text < u.text := by
  have hsplit := List.take_append_drop 256 (accountsAfter db cursor)
  have hrest : u ∈ (accountsAfter db cursor).drop 256 := by
    rw [← hsplit, List.mem_append] at hu
    exact hu.resolve_left hnot
  have hsorted : (accountsAfter db cursor).Pairwise fun u v => u.text ≤ v.text := accountsAfter_sorted
  rw [← hsplit, List.pairwise_append] at hsorted
  have hmem : last ∈ guardPage db cursor := List.mem_of_getLast? hlast
  have hle : last.text ≤ u.text := hsorted.2.2 last hmem u hrest
  refine lt_of_le_of_ne hle fun heq => hnot ?_
  rw [← Uuid.text_injective heq]
  exact hmem

end

/-! ## a guard that returns -/

/-- `restore_guard` from a cursor: pages until there is none. -/
inductive GuardReturns (S : Digests) : Option Uuid → World → World → Prop
  | done {cursor : Option Uuid} {w : World} (h : guardPage w.db cursor = []) : GuardReturns S cursor w w
  | batch {cursor : Option Uuid} {last : Uuid} {w w' : World} {fresh : Fresh} {db : Db} {ledger : Ledger}
      (hlast : (guardPage w.db cursor).getLast? = some last)
      (h : guardBatch S fresh (guardPage w.db cursor) w.db w.ledger = some (db, ledger))
      (rest : GuardReturns S (some last) ⟨db, ledger, db :: w.past⟩ w') : GuardReturns S cursor w w'

section
variable {S : Digests} {cursor : Option Uuid} {w w' : World}

/-- A page and its batch are one step. -/
theorem page_step {fresh : Fresh} {db : Db} {ledger : Ledger}
    (h : guardBatch S fresh (guardPage w.db cursor) w.db w.ledger = some (db, ledger)) :
    Step S w (.guarded fresh (guardPage w.db cursor)) ⟨db, ledger, db :: w.past⟩ :=
  .guarded (fun _ hu => (mem_accountsAfter.mp (mem_of_mem_guardPage hu)).1) h

theorem guard_settles_from (hinv : Inv S w) (hguard : GuardReturns S cursor w w')
    (hbefore : ∀ u, (w.db.accounts.get? u).isSome = true → u ∉ accountsAfter w.db cursor →
      Settled S (w.db, w.ledger) u) :
    Inv S w' ∧ ∀ u, (w'.db.accounts.get? u).isSome = true → Settled S (w'.db, w'.ledger) u := by
  induction hguard with
  | @done cursor w h =>
    have hempty : accountsAfter w.db cursor = [] := by
      have hlength := congrArg List.length h
      unfold guardPage at hlength
      rw [List.length_take, List.length_nil] at hlength
      exact List.length_eq_zero_iff.mp (by omega)
    refine ⟨hinv, fun u hu => hbefore u hu ?_⟩
    rw [hempty]
    exact List.not_mem_nil
  | @batch cursor last w w' fresh db ledger hlast h rest ih =>
    have hmax : ∀ u, currentRevision (w.db.consents.get? u) < maxRevision := by
      intro u
      have hlt := hinv.revision_lt u
      omega
    obtain ⟨hsettled, hframe⟩ := guardBatch_settles hmax guardPage_nodup (fun _ _ => Alike.rfl) h
    have hrows := hinv.rows w.db hinv.current
    have haccounts : db.accounts = w.db.accounts :=
      (guardBatch_ok hrows hinv.ledger (fun u hu => (mem_accountsAfter.mp (mem_of_mem_guardPage hu)).1)
        ⟨hinv.ledger, hrows, hinv.owned w.db hinv.current, hinv.authored, Nat.le_refl _, rfl⟩ h).accounts
    refine ih (step_inv hinv (page_step h)) fun u hu hnot => ?_
    by_cases hpage : u ∈ guardPage w.db cursor
    · exact hsettled u hpage
    · refine (hbefore u ?_ fun hafter => hnot ?_).congr (hframe u hpage)
      · rw [← haccounts]
        exact hu
      · refine mem_accountsAfter.mpr ⟨hu, fun c hc => ?_⟩
        cases hc
        exact after_last hlast hafter hpage

/-- **A guard that returns** leaves every row that says granted usable. -/
theorem guard_settles (hinv : Inv S w) (hguard : GuardReturns S none w w') {u : Uuid} {row : TrainingConsentRow}
    (hrow : w'.db.consents.get? u = some row) (hgranted : row.decision = .granted) :
    requireGranted S u row.revision w'.db w'.ledger = .ok () := by
  obtain ⟨hinv', hsettled⟩ := guard_settles_from hinv hguard fun u hu hnot => by
    refine absurd (mem_accountsAfter.mpr ⟨hu, fun c hc => ?_⟩) hnot
    cases hc
  exact hsettled u (hinv'.owned w'.db hinv'.current u row hrow) row hrow hgranted

end

end AutPlay.Consent
