import AutPlay.Binding.Recovery

/-!
# The laws of a binding

* `Lineage`            the binding, the session and the generation that an envelope belongs to;
* `Follows`            a lineage of the binding of a checkpoint, no older than it;
* `Sound`              a lineage that recovery accepts;
* `rotateM5_keeps`     what a rotation keeps, wherever it stops;
* `recover_ready`      recovery of a sound lineage;
* `binding_survives`   every run, and every run whose rotations start from a checkpoint that is up to date.
-/

set_option linter.unusedSectionVars false

namespace AutPlay.Binding

open AutPlay.Sync (Uuid isCanonicalUuid)

/-! ## lineages -/

/-- What recovery reads of an envelope. -/
structure Lineage where
  bindingCommitId : Option String
  sessionId : Option String
  sessionFamilyId : Option String
  sessionGeneration : Option Int
  refreshPending : Bool

def EnvelopeFields.lineage (f : EnvelopeFields) : Lineage :=
  ⟨f.bindingCommitId, f.sessionId, f.sessionFamilyId, f.sessionGeneration, f.refreshPending⟩

/-- The lineage belongs to the binding of the checkpoint, with such a session and generation. -/
structure Lineage.Of (l : Lineage) (c : M5BindingCheckpoint) (sessionId : String) (generation : Int) : Prop where
  commit : l.bindingCommitId = some c.bindingCommitId.text
  session : l.sessionId = some sessionId
  family : l.sessionFamilyId = some c.sessionFamilyId.text
  generation : l.sessionGeneration = some generation

/-- **A lineage of the same binding and family**, of a generation no smaller than the checkpoint's. -/
def Follows (c : M5BindingCheckpoint) (l : Lineage) : Prop :=
  ∃ sessionId generation, l.Of c sessionId generation ∧ c.sessionGeneration ≤ generation ∧
    (generation = c.sessionGeneration → sessionId = c.sessionId.text)

/-- **A lineage that recovery accepts**: the checkpoint's own, or a later one that is not pending. -/
def Sound (c : M5BindingCheckpoint) (l : Lineage) : Prop :=
  ∃ sessionId generation, l.Of c sessionId generation ∧ c.sessionGeneration ≤ generation ∧
    (generation = c.sessionGeneration → sessionId = c.sessionId.text) ∧
    (l.refreshPending = true → generation = c.sessionGeneration) ∧ isCanonicalUuid sessionId = true

theorem Sound.follows {c : M5BindingCheckpoint} {l : Lineage} (h : Sound c l) : Follows c l := by
  obtain ⟨sessionId, generation, hof, hle, hsame, -, -⟩ := h
  exact ⟨sessionId, generation, hof, hle, hsame⟩

/-- The lineage and the checkpoint are of one generation. -/
def Level (c : M5BindingCheckpoint) (l : Lineage) : Prop := l.sessionGeneration = some c.sessionGeneration

/-- The lineage with a pending rotation. -/
def Lineage.pend (l : Lineage) : Lineage := { l with refreshPending := true }

/-- The lineage of the successor in a session. -/
def Lineage.next (l : Lineage) (sessionId : String) (generation : Int) : Lineage :=
  { l with sessionId := some sessionId, sessionGeneration := some (generation + 1), refreshPending := false }

theorem withSession_eq_some {c c' : M5BindingCheckpoint} {sessionId : String} {generation : Int}
    (h : c.withSession sessionId generation = some c') :
    c'.bindingCommitId = c.bindingCommitId ∧ c'.sessionFamilyId = c.sessionFamilyId ∧
      c'.sessionId.text = sessionId ∧ c'.sessionGeneration = generation := by
  unfold M5BindingCheckpoint.withSession at h
  obtain ⟨id, hid, h⟩ := Option.bind_eq_some_iff.mp h
  unfold uuidOf at hid
  split at hid
  · cases hid
    split at h
    · cases h
      exact ⟨rfl, rfl, rfl, rfl⟩
    · cases h
  · cases hid

theorem withSession_of_canonical {c : M5BindingCheckpoint} {sessionId : String} {generation : Int}
    (hid : isCanonicalUuid sessionId = true) (hgeneration : 0 ≤ generation) :
    ∃ c', c.withSession sessionId generation = some c' := by
  unfold M5BindingCheckpoint.withSession uuidOf
  rw [dif_pos hid]
  show ∃ c', (if h : 0 ≤ generation then _ else none) = some c'
  rw [dif_pos hgeneration]
  exact ⟨_, rfl⟩

/-- A lineage is sound for the checkpoint that has its session. -/
theorem Follows.sound_withSession {c c' : M5BindingCheckpoint} {l : Lineage} {sessionId : String}
    {generation : Int} (hof : l.Of c sessionId generation) (h : c.withSession sessionId generation = some c') :
    Sound c' l ∧ Level c' l ∧ c'.bindingCommitId = c.bindingCommitId ∧ c'.sessionFamilyId = c.sessionFamilyId := by
  obtain ⟨hcommit, hfamily, hsession, hgeneration⟩ := withSession_eq_some h
  have hof' : l.Of c' sessionId generation := by
    refine ⟨?_, hof.session, ?_, hof.generation⟩
    · rw [hcommit]
      exact hof.commit
    · rw [hfamily]
      exact hof.family
  refine ⟨⟨sessionId, generation, hof', Int.le_of_eq hgeneration, fun _ => hsession.symm,
    fun _ => hgeneration.symm, ?_⟩, ?_, hcommit, hfamily⟩
  · rw [← hsession]
    exact c'.sessionId.canonical
  · unfold Level
    rw [hof.generation, hgeneration]

/-! ## what is stored -/

section
variable {Material : Type} {P : Platform Material} {profileId : ServerProfileId}

/-- The settings bind the profile by the checkpoint, and the credentials hold an envelope of the lineage. -/
def Holds (P : Platform Material) (profileId : ServerProfileId) (c : M5BindingCheckpoint) (l : Lineage)
    (d : Device Material) : Prop :=
  d.settings.Binds profileId c ∧
    ∃ material e, d.credentials = some material ∧ P.decode material = some e ∧ e.lineage = l

/-- Some checkpoint and lineage of one binding are stored, and they are related so. -/
def Stores (P : Platform Material) (profileId : ServerProfileId) (commit family : Uuid)
    (I : M5BindingCheckpoint → Lineage → Prop) (d : Device Material) : Prop :=
  ∃ c l, Holds P profileId c l d ∧ c.bindingCommitId = commit ∧ c.sessionFamilyId = family ∧ I c l

/-! ### one effect -/

theorem tick_triple {H : Device Material → Prop} (hleft : ∀ d left, H d → H { d with left := left }) :
    Effect.Triple H tick (fun _ => H) H := by
  unfold tick
  refine .get fun d hd => .ite (fun _ => .stop fun _ hs => hs ▸ hd) fun _ => .modify fun s hs => ?_
  subst hs
  exact hleft s _ hd

theorem Holds.left {c : M5BindingCheckpoint} {l : Lineage} (d : Device Material) (left : Nat)
    (h : Holds P profileId c l d) : Holds P profileId c l { d with left := left } := h

theorem readCredentials_triple {c : M5BindingCheckpoint} {l : Lineage} {stored : Option Material} :
    Effect.Triple (fun d => Holds P profileId c l d ∧ d.credentials = stored) readCredentials
      (fun m d => Holds P profileId c l d ∧ m = stored ∧ d.credentials = stored) (Holds P profileId c l) := by
  unfold readCredentials
  refine .bind ((tick_triple fun _ _ hd => hd).mono (fun _ hd => hd) (fun _ _ hd => hd) fun _ hd => hd.1)
    fun _ => .get fun d hd => .pure fun s hs => ?_
  subst hs
  exact ⟨hd.1, hd.2, hd.2⟩

theorem settingsFirst_triple {c : M5BindingCheckpoint} {l : Lineage} :
    Effect.Triple (Holds P profileId c l) settingsFirst
      (fun s d => Holds P profileId c l d ∧ d.settings = s) (Holds P profileId c l) := by
  unfold settingsFirst
  refine .bind (tick_triple Holds.left) fun _ => .get fun d hd => .pure fun s hs => ?_
  subst hs
  exact ⟨hd, rfl⟩

/-- An envelope that is written is the one that is stored. -/
theorem persistLocked_triple {c : M5BindingCheckpoint} {l : Lineage} (e : SessionCredentialEnvelope) :
    Effect.Triple (Holds P profileId c l) (persistLocked P e) (fun _ => Holds P profileId c e.lineage)
      (Holds P profileId c l) := by
  unfold persistLocked writeCredentials
  refine .bind (tick_triple Holds.left) fun _ => .modify fun d hd => ⟨hd.1, ?_⟩
  obtain ⟨e', hdecode, hfields⟩ := P.decode_encode e
  refine ⟨P.encode e, e', rfl, hdecode, ?_⟩
  rw [hfields]
  rfl

/-- The envelope that is read is the stored one. -/
theorem readEnvelope_triple {around : Surroundings} {c : M5BindingCheckpoint} {l : Lineage}
    {stored : Option Material} :
    Effect.Triple (fun d => Holds P profileId c l d ∧ d.credentials = stored) (readEnvelope P around)
      (fun r d => Holds P profileId c l d ∧ ∃ material e, stored = some material ∧ P.decode material = some e ∧
        r = some e ∧ e.lineage = l) (Holds P profileId c l) := by
  unfold readEnvelope
  refine .bind readCredentials_triple fun m => ?_
  cases m with
  | none =>
    refine .pure fun d ⟨hd, hnone, hcredentials⟩ => ?_
    obtain ⟨-, material, e, hmaterial, -, -⟩ := hd
    rw [hcredentials, ← hnone] at hmaterial
    cases hmaterial
  | some material =>
    have hread : ∀ d e, Holds P profileId c l d → d.credentials = some material →
        P.decode material = some e → e.lineage = l := by
      rintro d e ⟨-, material', e', hmaterial, hdecode, hl⟩ hcredentials he
      rw [hcredentials] at hmaterial
      cases hmaterial
      rw [he] at hdecode
      cases hdecode
      exact hl
    refine .bind (Q := fun e d => Holds P profileId c l d ∧ stored = some material ∧ P.decode material = some e ∧
        e.lineage = l) (.require ?_ fun d hd _ => hd.1) fun e => ?_
    · rintro d e ⟨hd, hstored, hcredentials⟩ he
      exact ⟨hd, hstored.symm, he, hread d e hd (hcredentials.trans hstored.symm) he⟩
    · refine .bind (Q := fun _ d => Holds P profileId c l d ∧ stored = some material ∧ P.decode material = some e ∧
        e.lineage = l) (.check (fun d hd _ => hd) fun d hd _ => hd.1) fun _ => .pure fun d hd => ?_
      exact ⟨hd.1, material, e, hd.2.1, hd.2.2.1, rfl, hd.2.2.2⟩

/-- Reading an envelope that has to be there. -/
theorem requireEnvelope_triple {β : Type} {around : Surroundings} {c : M5BindingCheckpoint} {l : Lineage}
    {f : SessionCredentialEnvelope → Effect (Device Material) β} {Q : β → Device Material → Prop}
    {E : Device Material → Prop} (hE : ∀ d, Holds P profileId c l d → E d) (d : Device Material)
    (hd : Holds P profileId c l d)
    (h : ∀ material e, d.credentials = some material → P.decode material = some e → e.lineage = l →
      Effect.Triple (Holds P profileId c l) (f e) Q E) :
    Effect.Triple (fun d' => d' = d) (readEnvelope P around >>= fun r => Effect.require r >>= f) Q E := by
  have hread : Effect.Triple (fun s => Holds P profileId c l s ∧ s.credentials = d.credentials)
      (readEnvelope P around)
      (fun r s => Holds P profileId c l s ∧ ∃ material e, d.credentials = some material ∧
        P.decode material = some e ∧ r = some e ∧ e.lineage = l) (Holds P profileId c l) := readEnvelope_triple
  refine .bind (hread.mono ?_ (fun _ _ hs => hs) hE) fun r => ?_
  · rintro _ rfl
    exact ⟨hd, rfl⟩
  · refine .bind (Q := fun e s => Holds P profileId c l s ∧ ∃ material, d.credentials = some material ∧
      P.decode material = some e ∧ e.lineage = l) (.require ?_ fun d hd _ => hE d hd.1) fun e => ?_
    · rintro s e ⟨hs, material, e', hcredentials, hdecode, hr, hl⟩ rfl
      cases hr
      exact ⟨hs, material, hcredentials, hdecode, hl⟩
    · rintro s ⟨hs, material, hcredentials, hdecode, hl⟩
      exact h material e hcredentials hdecode hl s hs

/-! ### the checkpoint -/

theorem persisted_checkpoint {resolver : Resolver} {e : SessionCredentialEnvelope} {s s' : NonSecretSettings}
    {c : M5BindingCheckpoint} {sessionId : String} {generation : Int} (hof : e.lineage.Of c sessionId generation)
    (hb : s.Binds profileId c) (h : persisted resolver profileId e s = some s') :
    ∃ c', c.withSession sessionId generation = some c' ∧ s'.Binds profileId c' := by
  obtain ⟨hactive, hbinding⟩ := hb
  have hsession : e.sessionId = some sessionId := hof.session
  have hgeneration : e.sessionGeneration = some generation := hof.generation
  have hstored : ∀ {c'}, some { s with m5Binding := some c' } = some s' → s'.Binds profileId c' := by
    intro c' hs
    cases hs
    exact ⟨hactive, rfl⟩
  cases resolver with
  | settings =>
    have h : persistedBySettings profileId e s = some s' := h
    unfold persistedBySettings at h
    rw [hbinding, hsession, hgeneration] at h
    dsimp only at h
    split at h
    · cases h
    · obtain ⟨c', hc', h⟩ := Option.map_eq_some_iff.mp h
      exact ⟨c', hc', hstored (congrArg some h)⟩
  | playback =>
    have h : persistedByPlayback profileId e s = some s' := h
    unfold persistedByPlayback at h
    rw [hbinding, hsession, hgeneration] at h
    dsimp only at h
    rw [if_pos ⟨hactive, hof.commit, hof.family⟩] at h
    obtain ⟨c', hc', h⟩ := Option.map_eq_some_iff.mp h
    exact ⟨c', hc', hstored (congrArg some h)⟩

/-- What is stored of the binding is sound, and the checkpoint is level with it. -/
def SoundLevel (c : M5BindingCheckpoint) (l : Lineage) : Prop := Sound c l ∧ Level c l

/-- **Persisting a successor** that follows the checkpoint brings the checkpoint to it. -/
theorem persistSuccessor_triple {resolver : Resolver} {e : SessionCredentialEnvelope} {c : M5BindingCheckpoint}
    {sessionId : String} {generation : Int} (hof : e.lineage.Of c sessionId generation) :
    Effect.Triple (Holds P profileId c e.lineage) (persistSuccessor profileId resolver e)
      (fun _ => fun d => ∃ c', Holds P profileId c' e.lineage d ∧ c'.bindingCommitId = c.bindingCommitId ∧
        c'.sessionFamilyId = c.sessionFamilyId ∧ SoundLevel c' e.lineage)
      (Holds P profileId c e.lineage) := by
  unfold persistSuccessor mutateSettings
  refine .bind (tick_triple Holds.left) fun _ => .get fun d hd => ?_
  refine .bind (Q := fun s' d' => d' = d ∧ persisted resolver profileId e d.settings = some s')
    (.require (fun s a hs ha => ⟨hs, ha⟩) fun s hs _ => hs ▸ hd) fun s' => .modify fun d' hd' => ?_
  obtain ⟨rfl, hs'⟩ := hd'
  obtain ⟨hbinds, hstored⟩ := hd
  obtain ⟨c', hc', hbinds'⟩ := persisted_checkpoint hof hbinds hs'
  obtain ⟨hsound, hlevel, hcommit, hfamily⟩ := Follows.sound_withSession hof hc'
  exact ⟨c', ⟨hbinds', hstored⟩, hcommit, hfamily, hsound, hlevel⟩

/-! ## a rotation -/

theorem pendingOf_lineage {around : Surroundings} {current pending : SessionCredentialEnvelope} {request : String}
    (h : pendingOf around current request = some pending) : pending.lineage = current.lineage.pend := by
  have hfields := SessionCredentialEnvelope.init_eq_some h
  rw [hfields]
  rfl

theorem plusOne_eq {n : Int} (h : 0 ≤ plusOne n) : plusOne n = n + 1 := by
  unfold plusOne at h ⊢
  split at h
  · omega
  · rename_i hne
    rw [if_neg hne]

/-- A successor is of the next generation, in the session that the server names. -/
theorem successorOf_lineage {pending successor : SessionCredentialEnvelope} {token : String}
    {response : RotationResponse} (h : successorOf pending token response = some successor) :
    ∃ root generation, response.document = some root ∧ pending.sessionGeneration = some generation ∧
      successor.lineage = pending.lineage.next root.sessionId generation := by
  unfold successorOf at h
  split at h
  · cases h
  · split at h
    · cases h
    · split at h
      · rename_i root generation hroot hgeneration
        split at h
        · cases h
        · split at h
          · cases h
          · rename_i hchecks
            have hfields := SessionCredentialEnvelope.init_eq_some h
            simp only [not_or, not_not] at hchecks
            obtain ⟨-, -, -, -, hfamily, hnext, -⟩ := hchecks
            have hpos : 0 ≤ root.generation := by
              refine successor.valid.sessionGeneration root.generation ?_
              rw [hfields]
              rfl
            have hplus : root.generation = generation + 1 := by
              rw [hnext] at hpos ⊢
              exact plusOne_eq hpos
            refine ⟨root, generation, hroot, hgeneration, ?_⟩
            rw [hfields]
            unfold EnvelopeFields.lineage Lineage.next
            dsimp only
            rw [hplus, ← hfamily]
      · cases h

/-- Going on only if there is a value, and leaving everything as it is. -/
theorem require_bind {α β : Type} {o : Option α} {f : α → Effect (Device Material) β}
    {H E : Device Material → Prop} {Q : β → Device Material → Prop} (hE : ∀ d, H d → E d)
    (h : ∀ a, o = some a → Effect.Triple H (f a) Q E) : Effect.Triple H (Effect.require o >>= f) Q E := by
  refine .bind (Q := fun a d => H d ∧ o = some a) (.require (fun d a hd ha => ⟨hd, ha⟩) fun d hd _ => hE d hd)
    fun a => ?_
  rintro d ⟨hd, ha⟩
  exact h a ha d hd

theorem check_bind {β : Type} {p : Prop} [Decidable p] {f : PUnit → Effect (Device Material) β}
    {H E : Device Material → Prop} {Q : β → Device Material → Prop} (hE : ∀ d, H d → E d)
    (h : p → Effect.Triple H (f ⟨⟩) Q E) : Effect.Triple H (Effect.check p >>= f) Q E := by
  refine .bind (Q := fun _ d => H d ∧ p) (.check (fun d hd hp => ⟨hd, hp⟩) fun d hd _ => hE d hd) fun _ => ?_
  rintro d ⟨hd, hp⟩
  exact h hp d hd

/-- Reading the settings, whatever they are used for. -/
theorem settings_bind {β : Type} {c : M5BindingCheckpoint} {l : Lineage}
    {f : NonSecretSettings → Effect (Device Material) β} {Q : β → Device Material → Prop}
    {E : Device Material → Prop} (hE : ∀ d, Holds P profileId c l d → E d)
    (h : ∀ s, Effect.Triple (Holds P profileId c l) (f s) Q E) :
    Effect.Triple (Holds P profileId c l) (settingsFirst >>= f) Q E := by
  refine .bind (settingsFirst_triple.mono (fun _ hd => hd) (fun _ _ hd => hd) hE) fun s => ?_
  exact (h s).mono (fun d hd => hd.1) (fun _ _ hq => hq) fun _ he => he

/-- `prepare` writes nothing. -/
theorem prepare_triple {around : Surroundings} {c : M5BindingCheckpoint} {l : Lineage}
    {current : SessionCredentialEnvelope} :
    Effect.Triple (Holds P profileId c l) (prepare P around profileId current)
      (fun pending d => Holds P profileId c l d ∧ pending.lineage = current.lineage.pend)
      (Holds P profileId c l) := by
  have hE : ∀ d, Holds P profileId c l d → Holds P profileId c l d := fun _ hd => hd
  unfold prepare
  refine settings_bind hE fun s => require_bind hE fun context _ => require_bind hE fun refreshToken _ => ?_
  refine check_bind hE fun _ => require_bind hE fun parentSessionId _ => require_bind hE fun generation _ => ?_
  refine require_bind hE fun request _ => .require (fun d pending hd hp => ?_) fun d hd _ => hd
  exact ⟨hd, pendingOf_lineage hp⟩

/-- The session ids that the server answers with. -/
def Surroundings.Names (around : Surroundings) (sessionId : String) : Prop :=
  ∃ origin request response root, around.post origin request = some response ∧
    response.document = some root ∧ root.sessionId = sessionId

/-- `execute` writes nothing. -/
theorem execute_triple {around : Surroundings} {c : M5BindingCheckpoint} {l : Lineage}
    {pending : SessionCredentialEnvelope} :
    Effect.Triple (Holds P profileId c l) (execute around profileId pending)
      (fun successor d => Holds P profileId c l d ∧ ∃ sessionId generation, around.Names sessionId ∧
        pending.sessionGeneration = some generation ∧ successor.lineage = pending.lineage.next sessionId generation)
      (Holds P profileId c l) := by
  have hE : ∀ d, Holds P profileId c l d → Holds P profileId c l d := fun _ hd => hd
  unfold execute
  refine settings_bind hE fun s => require_bind hE fun context _ => require_bind hE fun request _ => ?_
  refine require_bind hE fun token _ => .bind (tick_triple Holds.left) fun _ => require_bind hE fun response hpost => ?_
  refine .require (fun d successor hd hs => ⟨hd, ?_⟩) fun d hd _ => hd
  obtain ⟨root, generation, hroot, hgeneration, hlineage⟩ := successorOf_lineage hs
  exact ⟨root.sessionId, generation, ⟨_, _, response, root, hpost, hroot, rfl⟩, hgeneration, hlineage⟩

/-- A property of what is stored that a rotation keeps. -/
structure Rotates (around : Surroundings) (I : M5BindingCheckpoint → Lineage → Prop) : Prop where
  of : ∀ {c l}, I c l → ∃ sessionId generation, l.Of c sessionId generation
  level : ∀ {c l}, SoundLevel c l → I c l
  next : ∀ {c l sessionId generation}, I c l → l.sessionGeneration = some generation →
    around.Names sessionId → I c (l.next sessionId generation)

variable {commit family : Uuid} {around : Surroundings} {I : M5BindingCheckpoint → Lineage → Prop}

theorem Holds.stores {c : M5BindingCheckpoint} {l : Lineage} (hcommit : c.bindingCommitId = commit)
    (hfamily : c.sessionFamilyId = family) (hI : I c l) (d : Device Material) (hd : Holds P profileId c l d) :
    Stores P profileId commit family I d :=
  ⟨c, l, hd, hcommit, hfamily, hI⟩

theorem pendingEnvelope_triple {c : M5BindingCheckpoint} {current : SessionCredentialEnvelope}
    (hcommit : c.bindingCommitId = commit) (hfamily : c.sessionFamilyId = family) (hI : I c current.lineage)
    (hpend : current.refreshPending = false → I c current.lineage.pend) :
    Effect.Triple (Holds P profileId c current.lineage) (pendingEnvelope P around profileId current)
      (fun pending d => Holds P profileId c pending.lineage d ∧ I c pending.lineage)
      (Stores P profileId commit family I) := by
  unfold pendingEnvelope
  refine .ite (fun _ => .pure fun d hd => ⟨hd, hI⟩) fun hnot => ?_
  have hfalse : current.refreshPending = false := Bool.eq_false_iff.mpr hnot
  refine .bind (prepare_triple.mono (fun _ hd => hd) (fun _ _ hd => hd) (Holds.stores hcommit hfamily hI))
    fun pending => ?_
  rintro d ⟨hd, hlineage⟩
  have hpending : I c pending.lineage := hlineage ▸ hpend hfalse
  refine (Effect.Triple.bind (Q := fun _ => Holds P profileId c pending.lineage)
    ((persistLocked_triple pending).mono (fun _ hs => hs) (fun _ _ hs => hs) (Holds.stores hcommit hfamily hI))
    fun _ => .pure fun s hs => ⟨hs, hpending⟩) d hd

/-- **What a rotation keeps**, wherever it stops: the pending envelope is written where there is none, then
the successor, then the checkpoint. -/
theorem rotateM5_triple {c : M5BindingCheckpoint} {l : Lineage} {rejectedGeneration : Int} {d : Device Material}
    (hd : Holds P profileId c l d) (hcommit : c.bindingCommitId = commit) (hfamily : c.sessionFamilyId = family)
    (hrotates : Rotates around I) (hI : I c l)
    (hpend : ∀ material e, d.credentials = some material → P.decode material = some e →
      ¬ Renewed around rejectedGeneration e.toEnvelopeFields → e.refreshPending = false → I c l.pend) :
    Effect.Triple (fun d' => d' = d) (rotateM5 P around profileId rejectedGeneration)
      (fun _ => Stores P profileId commit family I) (Stores P profileId commit family I) := by
  have hE : ∀ {l}, I c l → ∀ d, Holds P profileId c l d → Stores P profileId commit family I d :=
    fun hI => Holds.stores hcommit hfamily hI
  unfold rotateM5
  refine requireEnvelope_triple (hE hI) d hd fun material current hmaterial hdecode hcurrent => ?_
  refine check_bind (hE hI) fun _ => .ite (fun _ => .pure (hE hI)) fun hnot => require_bind (hE hI) fun rotation _ => ?_
  have hpend := hpend material current hmaterial hdecode hnot
  subst hcurrent
  refine .bind (pendingEnvelope_triple hcommit hfamily hI hpend) fun pending => ?_
  rintro d ⟨hd, hpending⟩
  refine check_bind (E := Stores P profileId commit family I) (hE hpending) (fun _ => ?_) d hd
  refine .bind (execute_triple.mono (fun _ hs => hs) (fun _ _ hs => hs) (hE hpending)) fun successor => ?_
  rintro d ⟨hd, sessionId, generation, hnames, hgeneration, hlineage⟩
  have hsuccessor : I c successor.lineage := by
    rw [hlineage]
    exact hrotates.next hpending hgeneration hnames
  refine (Effect.Triple.bind (Q := fun _ => Holds P profileId c successor.lineage)
    ((persistLocked_triple successor).mono (fun _ hs => hs) (fun _ _ hs => hs) (hE hpending)) fun _ => ?_) d hd
  obtain ⟨sessionId', generation', hof⟩ := hrotates.of hsuccessor
  refine .bind ((persistSuccessor_triple hof).mono (fun _ hs => hs) (fun _ _ hs => hs) (hE hsuccessor)) fun _ => ?_
  refine .pure fun d hd => ?_
  obtain ⟨c', hholds, hcommit', hfamily', hlevel⟩ := hd
  exact ⟨c', _, hholds, hcommit'.trans hcommit, hfamily'.trans hfamily, hrotates.level hlevel⟩

/-- **Repairing the checkpoint** leaves it level with what is stored. -/
theorem repairCheckpoint_triple {c : M5BindingCheckpoint} {l : Lineage} {d : Device Material}
    (hd : Holds P profileId c l d) (hcommit : c.bindingCommitId = commit) (hfamily : c.sessionFamilyId = family)
    (hrotates : Rotates around I) (hI : I c l) :
    Effect.Triple (fun d' => d' = d) (repairCheckpoint P around profileId)
      (fun e d => ∃ c', Holds P profileId c' e.lineage d ∧ c'.bindingCommitId = commit ∧
        c'.sessionFamilyId = family ∧ SoundLevel c' e.lineage)
      (Stores P profileId commit family I) := by
  have hE : ∀ d, Holds P profileId c l d → Stores P profileId commit family I d := Holds.stores hcommit hfamily hI
  unfold repairCheckpoint
  refine .bind (Q := fun _ d' => d' = d) (.require (fun s _ hs _ => hs) fun s hs _ => hE s (hs ▸ hd)) fun rotation => ?_
  refine requireEnvelope_triple hE d hd fun _ latest _ _ hlatest => check_bind hE fun _ => ?_
  subst hlatest
  obtain ⟨sessionId, generation, hof⟩ := hrotates.of hI
  refine .bind ((persistSuccessor_triple hof).mono (fun _ hs => hs) (fun _ _ hs => hs) hE) fun _ => .pure fun d hd => ?_
  obtain ⟨c', hholds, hcommit', hfamily', hlevel⟩ := hd
  exact ⟨c', hholds, hcommit'.trans hcommit, hfamily'.trans hfamily, hlevel⟩

/-- The rotation of a credential without a binding finds a binding, and stops. -/
theorem refreshCurrent_triple {c : M5BindingCheckpoint} {l : Lineage} {rejectedGeneration : Int}
    {d : Device Material} (hd : Holds P profileId c l d) (hcommit : c.bindingCommitId = commit)
    (hfamily : c.sessionFamilyId = family) (hrotates : Rotates around I) (hI : I c l) :
    Effect.Triple (fun d' => d' = d) (refreshCurrent P around rejectedGeneration)
      (fun _ => Stores P profileId commit family I) (Stores P profileId commit family I) := by
  have hE : ∀ d, Holds P profileId c l d → Stores P profileId commit family I d := Holds.stores hcommit hfamily hI
  unfold refreshCurrent
  refine requireEnvelope_triple hE d hd fun _ current _ _ hcurrent => check_bind hE fun _ => check_bind hE fun hnone => ?_
  obtain ⟨sessionId, generation, hof⟩ := hrotates.of hI
  have hcommit' : current.bindingCommitId = some c.bindingCommitId.text := by
    rw [← hcurrent] at hof
    exact hof.commit
  rw [hcommit'] at hnone
  cases hnone

theorem Follows.next {c : M5BindingCheckpoint} {l : Lineage} {sessionId : String} {generation : Int}
    (h : Follows c l) (hgeneration : l.sessionGeneration = some generation) :
    (l.next sessionId generation).Of c sessionId (generation + 1) ∧ c.sessionGeneration < generation + 1 := by
  obtain ⟨sessionId', generation', hof, hle, -⟩ := h
  rw [hof.generation] at hgeneration
  cases hgeneration
  refine ⟨⟨hof.commit, rfl, hof.family, rfl⟩, ?_⟩
  omega

theorem rotates_follows (around : Surroundings) : Rotates around Follows where
  of h := by
    obtain ⟨sessionId, generation, hof, -, -⟩ := h
    exact ⟨sessionId, generation, hof⟩
  level h := h.1.follows
  next h hgeneration _ := by
    obtain ⟨hof, hlt⟩ := h.next hgeneration
    refine ⟨_, _, hof, Int.le_of_lt hlt, fun he => ?_⟩
    omega

/-- The server names its sessions by UUIDs. -/
def Surroundings.NamesUuids (around : Surroundings) : Prop :=
  ∀ sessionId, around.Names sessionId → isCanonicalUuid sessionId = true

theorem rotates_sound {around : Surroundings} (hnames : around.NamesUuids) : Rotates around Sound where
  of h := by
    obtain ⟨sessionId, generation, hof, -⟩ := h
    exact ⟨sessionId, generation, hof⟩
  level h := h.1
  next h hgeneration hname := by
    obtain ⟨hof, hlt⟩ := h.follows.next hgeneration
    refine ⟨_, _, hof, Int.le_of_lt hlt, fun he => ?_, fun hpending => ?_, hnames _ hname⟩
    · omega
    · cases hpending

theorem Follows.pend {c : M5BindingCheckpoint} {l : Lineage} (h : Follows c l) : Follows c l.pend := by
  obtain ⟨sessionId, generation, hof, hle, hsame⟩ := h
  exact ⟨sessionId, generation, ⟨hof.commit, hof.session, hof.family, hof.generation⟩, hle, hsame⟩

theorem Sound.pend {c : M5BindingCheckpoint} {l : Lineage} (h : Sound c l) (hlevel : Level c l) :
    Sound c l.pend := by
  obtain ⟨sessionId, generation, hof, hle, hsame, -, hcanonical⟩ := h
  refine ⟨sessionId, generation, ⟨hof.commit, hof.session, hof.family, hof.generation⟩, hle, hsame, fun _ => ?_,
    hcanonical⟩
  unfold Level at hlevel
  rw [hof.generation] at hlevel
  exact Option.some.inj hlevel

/-! ## recovery -/

theorem settingsFirst_run (d : Device Material) (n : Nat) :
    settingsFirst { d with left := n + 1 } = (some d.settings, { d with left := n }) := rfl

theorem readCredentials_run (d : Device Material) (n : Nat) :
    readCredentials { d with left := n + 1 } = (some d.credentials, { d with left := n }) := rfl

theorem promote_run {d : Device Material} {c promoted : M5BindingCheckpoint} (hb : d.settings.Binds profileId c)
    (n : Nat) :
    promote profileId c promoted { d with left := n + 1 } =
      (some (.ready promoted), { d with settings := { d.settings with m5Binding := some promoted }, left := n }) := by
  have hif : promote profileId c promoted { d with left := n + 1 } =
      (if d.settings.Binds profileId c then do
          Effect.modify fun d => { d with settings := { d.settings with m5Binding := some promoted } }
          pure (.ready promoted)
        else pure .noM5Binding : Effect (Device Material) BindingRecoveryResult) { d with left := n } := rfl
  rw [hif, if_pos hb]
  rfl

/-- **Recovery finds the binding ready**, and leaves the credentials and the binding in place. -/
def Recovers (P : Platform Material) (profileId : ServerProfileId) (commit family : Uuid)
    (d : Device Material) : Prop :=
  ∀ vetoes left, vetoes (some commit.text) = false → P.isReservedCredentialProfile profileId = false → 3 ≤ left →
    ∃ c d', recover P profileId vetoes { d with left := left } = (some (.ready c), d') ∧
      d'.credentials = d.credentials ∧ d'.settings = { d.settings with m5Binding := some c } ∧
        c.bindingCommitId = commit ∧ c.sessionFamilyId = family

theorem recoverMaterial_ready {c : M5BindingCheckpoint} {l : Lineage} {d : Device Material} {material : Material}
    (hd : Holds P profileId c l d) (hmaterial : d.credentials = some material) (h : Sound c l) (n : Nat) :
    ∃ c' d', recoverMaterial P profileId c material { d with left := n + 1 } = (some (.ready c'), d') ∧
      d'.credentials = d.credentials ∧ d'.settings = { d.settings with m5Binding := some c' } ∧
        c'.bindingCommitId = c.bindingCommitId ∧ c'.sessionFamilyId = c.sessionFamilyId := by
  obtain ⟨hbinds, material', e, hstored, hdecode, hlineage⟩ := hd
  rw [hmaterial] at hstored
  cases hstored
  obtain ⟨sessionId, generation, hof, hle, hsame, hpending, hcanonical⟩ := h
  rw [← hlineage] at hof hpending
  have hsession : e.sessionId = some sessionId := hof.session
  have hgeneration : e.sessionGeneration = some generation := hof.generation
  unfold recoverMaterial
  rw [hdecode]
  dsimp only
  by_cases hmatches : matchesCheckpoint c e
  · rw [if_pos hmatches]
    refine ⟨c, _, rfl, rfl, ?_, rfl, rfl⟩
    show d.settings = { d.settings with m5Binding := some c }
    rw [← hbinds.2]
  · have hne : generation ≠ c.sessionGeneration := by
      intro he
      refine hmatches ⟨hof.commit, ?_, hof.family, ?_⟩
      · rw [hsession, hsame he]
      · rw [hgeneration, he]
    have hnot : e.refreshPending = false := Bool.eq_false_iff.mpr fun hp => hne (hpending hp)
    have hlt : c.sessionGeneration < generation := by omega
    have hpromote : canPromoteSuccessor c e = some (sessionId, generation) := by
      unfold canPromoteSuccessor
      rw [hsession, hgeneration]
      exact if_pos ⟨hnot, hof.commit, hof.family, hlt⟩
    have hnonneg : 0 ≤ generation := Int.le_trans c.generation_nonneg hle
    obtain ⟨c', hc'⟩ := withSession_of_canonical (c := c) hcanonical hnonneg
    obtain ⟨hcommit, hfamily, -, -⟩ := withSession_eq_some hc'
    rw [if_neg hmatches, hpromote]
    refine ⟨c', { d with settings := { d.settings with m5Binding := some c' }, left := n }, ?_, rfl, rfl, hcommit,
      hfamily⟩
    have hrequire : (Effect.require (c.withSession sessionId generation) : Effect (Device Material) _)
        { d with left := n + 1 } = (some c', { d with left := n + 1 }) := by
      rw [hc']
      rfl
    exact (Effect.bind_run hrequire).trans (promote_run hbinds n)

theorem recover_ready {d : Device Material} (h : Stores P profileId commit family Sound d) :
    Recovers P profileId commit family d := by
  obtain ⟨c, l, hd, rfl, rfl, hsound⟩ := h
  have hholds := hd
  obtain ⟨hbinds, material, e, hmaterial, -, -⟩ := hd
  intro vetoes left hvetoes hreserved hleft
  obtain ⟨n, rfl⟩ : ∃ n, left = n + 1 + 1 + 1 := ⟨left - 3, by omega⟩
  obtain ⟨c', d', hrun, hcredentials, hsettings, hcommit, hfamily⟩ :=
    recoverMaterial_ready hholds hmaterial hsound n
  refine ⟨c', d', ?_, hcredentials, hsettings, hcommit, hfamily⟩
  unfold recover
  rw [Effect.bind_run (settingsFirst_run d (n + 1 + 1)), hbinds.2]
  dsimp only
  rw [if_neg (fun hne => hne hbinds.1), hreserved, if_neg Bool.false_ne_true, hvetoes,
    if_neg Bool.false_ne_true, Effect.bind_run (readCredentials_run d (n + 1))]
  rw [hmaterial] at hrun ⊢
  exact hrun

end

/-! ## runs -/

/-- What runs at once: under the lock, or the reading at an entry point. -/
inductive Section
  | look (around : Surroundings)
  | repair (around : Surroundings)
  | rotate (around : Surroundings) (rejectedGeneration : Int)
  | refresh (around : Surroundings) (rejectedGeneration : Int)

def Section.around : Section → Surroundings
  | .look around => around
  | .repair around => around
  | .rotate around _ => around
  | .refresh around _ => around

section
variable {Material : Type} (P : Platform Material) (profileId : ServerProfileId)

/-- The device after a section, which may have stopped anywhere. -/
def Section.state (d : Device Material) : Section → Device Material
  | .look around => (readEnvelope P around).state d
  | .repair around => (repairCheckpoint P around profileId).state d
  | .rotate around rejectedGeneration => (rotateM5 P around profileId rejectedGeneration).state d
  | .refresh around rejectedGeneration => (refreshCurrent P around rejectedGeneration).state d

/-- **A rotation starts from a checkpoint that is up to date**: it finds a pending envelope, or one that was
renewed, or the checkpoint has the generation of the envelope. -/
def StartsLevel (around : Surroundings) (rejectedGeneration : Int) (d : Device Material) : Prop :=
  ∀ c material e, d.settings.m5Binding = some c → d.credentials = some material → P.decode material = some e →
    e.refreshPending = true ∨ Renewed around rejectedGeneration e.toEnvelopeFields ∨ Level c e.lineage

/-- The server names its sessions by UUIDs, and a rotation starts from a checkpoint that is up to date. -/
def Section.Checked (s : Section) (d : Device Material) : Prop :=
  s.around.NamesUuids ∧
    ∀ around rejectedGeneration, s = .rotate around rejectedGeneration → StartsLevel P around rejectedGeneration d

/-- The devices that such sections lead to. Between two of them the process may stop, or go on for any number
of effects. -/
inductive Run (allowed : Section → Device Material → Prop) (start : Device Material) : Device Material → Prop
  | start : Run allowed start start
  | left {d : Device Material} (h : Run allowed start d) (left : Nat) : Run allowed start { d with left := left }
  | step {d : Device Material} (h : Run allowed start d) (s : Section) (hs : allowed s d) :
      Run allowed start (s.state P profileId d)

end

section
variable {Material : Type} {P : Platform Material} {profileId : ServerProfileId} {commit family : Uuid}
  {I : M5BindingCheckpoint → Lineage → Prop}

/-- What one section keeps. -/
theorem Stores.step {d : Device Material} {s : Section} (hrotates : Rotates s.around I)
    (hpend : ∀ around rejectedGeneration, s = .rotate around rejectedGeneration →
      ∀ c material e, d.settings.m5Binding = some c → d.credentials = some material → P.decode material = some e →
        I c e.lineage → ¬ Renewed around rejectedGeneration e.toEnvelopeFields → e.refreshPending = false →
          I c e.lineage.pend)
    (h : Stores P profileId commit family I d) : Stores P profileId commit family I (s.state P profileId d) := by
  obtain ⟨c, l, hd, hcommit, hfamily, hI⟩ := h
  have hE : ∀ d, Holds P profileId c l d → Stores P profileId commit family I d := Holds.stores hcommit hfamily hI
  cases s with
  | look around =>
    have hread : Effect.Triple (fun s => Holds P profileId c l s ∧ s.credentials = d.credentials)
        (readEnvelope P around) _ (Holds P profileId c l) := readEnvelope_triple
    refine Effect.Triple.state_of (hread.mono ?_ (fun _ d hd => hE d hd.1) hE)
    rintro _ rfl
    exact ⟨hd, rfl⟩
  | repair around =>
    refine Effect.Triple.state_of
      ((repairCheckpoint_triple hd hcommit hfamily hrotates hI).mono (fun _ hs => hs) ?_ fun _ hs => hs)
    rintro e d ⟨c', hholds, hcommit', hfamily', hlevel⟩
    exact ⟨c', _, hholds, hcommit', hfamily', hrotates.level hlevel⟩
  | rotate around rejectedGeneration =>
    have hbinding : d.settings.m5Binding = some c := hd.1.2
    refine Effect.Triple.state_of (rotateM5_triple hd hcommit hfamily hrotates hI ?_)
    intro material e hmaterial hdecode hnot hpending
    obtain ⟨-, material', e', hmaterial', hdecode', hlineage⟩ := hd
    rw [hmaterial] at hmaterial'
    cases hmaterial'
    rw [hdecode] at hdecode'
    cases hdecode'
    rw [← hlineage] at hI ⊢
    exact hpend around rejectedGeneration rfl c material e hbinding hmaterial hdecode hI hnot hpending
  | refresh around rejectedGeneration =>
    exact Effect.Triple.state_of (refreshCurrent_triple hd hcommit hfamily hrotates hI)

/-- The credentials hold the envelope of the session of the checkpoint. -/
def Bound (P : Platform Material) (profileId : ServerProfileId) (commit family : Uuid) (d : Device Material) : Prop :=
  Stores P profileId commit family (fun c l => l.Of c c.sessionId.text c.sessionGeneration) d

theorem Bound.sound {d : Device Material} (h : Bound P profileId commit family d) :
    Stores P profileId commit family Sound d := by
  obtain ⟨c, l, hd, hcommit, hfamily, hof⟩ := h
  exact ⟨c, l, hd, hcommit, hfamily, _, _, hof, Int.le_refl _, fun _ => rfl, fun _ => rfl, c.sessionId.canonical⟩

theorem Stores.mono {I' : M5BindingCheckpoint → Lineage → Prop} {d : Device Material}
    (h : Stores P profileId commit family I d) (hI : ∀ c l, I c l → I' c l) :
    Stores P profileId commit family I' d := by
  obtain ⟨c, l, hd, hcommit, hfamily, h⟩ := h
  exact ⟨c, l, hd, hcommit, hfamily, hI c l h⟩

/-- Every run. -/
theorem run_follows {start d : Device Material} (hstart : Bound P profileId commit family start)
    (h : Run P profileId (fun _ _ => True) start d) : Stores P profileId commit family Follows d := by
  induction h with
  | start => exact hstart.sound.mono fun _ _ => Sound.follows
  | left _ left ih => exact ih
  | step _ s _ ih => exact ih.step (rotates_follows s.around) fun _ _ _ _ _ _ _ _ _ hI _ _ => hI.pend

/-- Every run whose sections are checked. -/
theorem run_sound {start d : Device Material} (hstart : Bound P profileId commit family start)
    (h : Run P profileId (Section.Checked P) start d) : Stores P profileId commit family Sound d := by
  induction h with
  | start => exact hstart.sound
  | left _ left ih => exact ih
  | step _ s hs ih =>
    refine ih.step (rotates_sound hs.1) ?_
    intro around rejectedGeneration hrotate c material e hc hmaterial hdecode hI hnot hpending
    rcases hs.2 around rejectedGeneration hrotate c material e hc hmaterial hdecode with hp | hrenewed | hlevel
    · rw [hp] at hpending
      cases hpending
    · exact absurd hrenewed hnot
    · exact hI.pend hlevel

/-- **A binding survives its rotations.** In every run the credentials hold an envelope of the binding and the
family of the checkpoint, of a generation no smaller than it; and recovery finds the binding ready after every
run whose rotations start from a checkpoint that is up to date. -/
theorem binding_survives {start : Device Material} (hstart : Bound P profileId commit family start) :
    (∀ d, Run P profileId (fun _ _ => True) start d → Stores P profileId commit family Follows d) ∧
      ∀ d, Run P profileId (Section.Checked P) start d → Recovers P profileId commit family d :=
  ⟨fun _ h => run_follows hstart h, fun _ h => recover_ready (run_sound hstart h)⟩

/-! ### the entry points -/

variable {around : Surroundings} {allowed : Section → Device Material → Prop} {start d : Device Material}

theorem look_runs (hlook : ∀ d, allowed (.look around) d) :
    Effect.Triple (Run P profileId allowed start) (readEnvelope P around)
      (fun _ => Run P profileId allowed start) (Run P profileId allowed start) :=
  .of_state fun d hd => hd.step (.look around) (hlook d)

theorem require_runs {α : Type} (o : Option α) :
    Effect.Triple (Run P profileId allowed start) (Effect.require o)
      (fun _ => Run P profileId allowed start) (Run P profileId allowed start) :=
  .require (fun _ _ hd _ => hd) fun _ hd _ => hd

/-- **`access` is such a run**: it reads, repairs the checkpoint and rotates. -/
theorem access_runs (hlook : ∀ d, allowed (.look around) d) (hrepair : ∀ d, allowed (.repair around) d)
    (hrefresh : ∀ generation d, allowed (.refresh around generation) d)
    (hrotate : ∀ d durable d', Run P profileId allowed start d →
      repairCheckpoint P around profileId d = (some durable, d') → allowed (.rotate around durable.generation) d')
    (h : Run P profileId allowed start d) :
    Run P profileId allowed start ((access P around profileId).state d) := by
  have htriple : Effect.Triple (Run P profileId allowed start) (access P around profileId)
      (fun _ => Run P profileId allowed start) (Run P profileId allowed start) := by
    unfold access
    refine .bind (look_runs hlook) fun r => .bind (require_runs r) fun current => .ite (fun _ => ?_) fun _ => ?_
    · refine .bind (Q := fun durable d' => Run P profileId allowed start d' ∧
        allowed (.rotate around durable.generation) d') ?_ fun durable => .ite (fun _ => ?_) fun _ => ?_
      · intro d hd
        have hstate := hd.step (.repair around) (hrepair d)
        unfold Section.state Effect.state at hstate
        cases hr : repairCheckpoint P around profileId d with
        | mk o d' =>
          simp only [hr] at hstate
          cases o with
          | none => exact hstate
          | some durable => exact ⟨hstate, hrotate d durable d' hd hr⟩
      · rintro d ⟨hd, hallowed⟩
        have hstate := hd.step (.rotate around durable.generation) hallowed
        unfold Section.state Effect.state at hstate
        cases hr : rotateM5 P around profileId durable.generation d with
        | mk o d' =>
          simp only [hr] at hstate
          cases o with
          | none => exact hstate
          | some _ => exact hstate
      · exact .pure fun d hd => hd.1
    · refine .ite (fun _ => .stop fun _ hd => hd) fun _ => .ite (fun _ => ?_) fun _ => .pure fun _ hd => hd
      exact .of_state fun d hd => hd.step (.refresh around current.generation) (hrefresh _ d)
  exact Effect.Triple.state_of (htriple.mono (fun _ he => he ▸ h) (fun _ _ hd => hd) fun _ hd => hd)

/-- **`refreshAfterRejection` is such a run**, without a repair. -/
theorem refreshAfterRejection_runs {rejectedGeneration : Int} (hlook : ∀ d, allowed (.look around) d)
    (hrefresh : ∀ d, allowed (.refresh around rejectedGeneration) d)
    (hrotate : ∀ d, Run P profileId allowed start d → allowed (.rotate around rejectedGeneration) d)
    (h : Run P profileId allowed start d) :
    Run P profileId allowed start ((refreshAfterRejection P around profileId rejectedGeneration).state d) := by
  have htriple : Effect.Triple (Run P profileId allowed start)
      (refreshAfterRejection P around profileId rejectedGeneration)
      (fun _ => Run P profileId allowed start) (Run P profileId allowed start) := by
    unfold refreshAfterRejection
    refine .bind (look_runs hlook) fun r => .bind (require_runs r) fun current => .ite (fun _ => ?_) fun _ => ?_
    · exact .of_state fun d hd => hd.step (.rotate around rejectedGeneration) (hrotate d hd)
    · exact .of_state fun d hd => hd.step (.refresh around rejectedGeneration) (hrefresh d)
  exact Effect.Triple.state_of (htriple.mono (fun _ he => he ▸ h) (fun _ _ hd => hd) fun _ hd => hd)

/-- **`access` starts its rotation from a checkpoint that is up to date**, since it repairs it first. -/
theorem access_checked (hstart : Bound P profileId commit family start) (hnames : around.NamesUuids)
    (h : Run P profileId (Section.Checked P) start d) :
    Run P profileId (Section.Checked P) start ((access P around profileId).state d) := by
  refine access_runs (fun _ => ⟨hnames, nofun⟩) (fun _ => ⟨hnames, nofun⟩) (fun _ _ => ⟨hnames, nofun⟩) ?_ h
  intro d durable d' hd hr
  refine ⟨hnames, ?_⟩
  rintro _ _ ⟨⟩ c material e hc hmaterial hdecode
  obtain ⟨c₀, l, hholds, hcommit, hfamily, hsound⟩ := run_sound hstart hd
  have hrepaired := repairCheckpoint_triple hholds hcommit hfamily (rotates_sound hnames) hsound d rfl
  rw [hr] at hrepaired
  obtain ⟨c', ⟨hbinds, material', e', hmaterial', hdecode', hlineage⟩, -, -, -, hlevel⟩ := hrepaired
  rw [hbinds.2] at hc
  cases hc
  rw [hmaterial] at hmaterial'
  cases hmaterial'
  rw [hdecode] at hdecode'
  cases hdecode'
  rw [← hlineage] at hlevel
  exact Or.inr (Or.inr hlevel)

end

/-! ## a lost binding -/

namespace Sample

theorem readBack_valid {f : EnvelopeFields} (h : f.Valid) : f.readBack.Valid where
  access := h.access
  refresh token htoken := h.refresh token (Option.filter_eq_some_iff.mp htoken).1
  generation := h.generation
  lineage := h.lineage
  sessionGeneration := h.sessionGeneration
  rotation := h.rotation
  pending := h.pending

/-- Envelopes that are stored as they are. -/
def platform : Platform EnvelopeFields where
  encode e := e.toEnvelopeFields
  decode f := SessionCredentialEnvelope.init f.readBack
  isReservedCredentialProfile profileId := profileId.startsWith "ad5c0e5e-"
  sha256 _ := "0f007385b6f9d4b7eeb2748605afe1a984a0a3bfa3f014d09e2a784ce9e5cd1a"
  decode_encode e := by
    refine ⟨⟨e.readBack, readBack_valid e.valid⟩, ?_, rfl⟩
    exact dif_pos (readBack_valid e.valid)

def commit : Uuid := ⟨"00000000-0000-4000-8000-000000000001", by decide +kernel⟩
def family : Uuid := ⟨"00000000-0000-4000-8000-000000000002", by decide +kernel⟩
def session : Uuid := ⟨"00000000-0000-4000-8000-000000000003", by decide +kernel⟩
def server : Uuid := ⟨"00000000-0000-4000-8000-000000000004", by decide +kernel⟩

def nextSessionId : String := "00000000-0000-4000-8000-000000000005"

def checkpoint : M5BindingCheckpoint where
  bindingCommitId := commit
  serverInstanceId := server
  identityEpoch := 1
  deviceKeyAlias := "device"
  sessionId := session
  sessionFamilyId := family
  sessionGeneration := 0
  epoch_pos := by decide
  generation_nonneg := by decide

def envelope : EnvelopeFields where
  accessToken := "access-token-of-the-generation-zero"
  refreshToken := some "refresh-token"
  generation := 0
  refreshPending := false
  bindingCommitId := some commit.text
  sessionId := some session.text
  sessionFamilyId := some family.text
  sessionGeneration := some 0
  m5PendingRotationId := none
  m5PendingRotationRequest := none
  m5PendingSuccessorRefreshToken := none

def bound : Device EnvelopeFields where
  settings := ⟨some server.text, some "user", some "device", some "https://server", some checkpoint,
    some "evidence", some "KEEP", none⟩
  credentials := some envelope
  left := 0

/-- The server answers the rotation of the generation zero. -/
def surroundings : Surroundings where
  vetoes _ := false
  expiring _ := false
  rotation := some .settings
  guarded := true
  guardedAgain := true
  successorToken := "AAAAAAAAAAAAAAAAAAAAAAAAAAAAAAAAAAAAAAAAAAA"
  rotationId := "00000000-0000-4000-8000-000000000006"
  keyed _ := true
  sign _ _ := some "request"
  post _ _ := some ⟨200, true, some ⟨"v1", 1, "00000000-0000-4000-8000-000000000006", session.text, family.text, 1,
    "access-token-of-the-generation-one", nextSessionId⟩⟩
  refresh _ := none

/-- A rejected rotation that writes its successor, and not the checkpoint. -/
def ahead : Device EnvelopeFields :=
  (refreshAfterRejection platform surroundings server.text 0).state { bound with left := 7 }

/-- The next one writes its pending envelope. -/
def lost : Device EnvelopeFields :=
  (refreshAfterRejection platform surroundings server.text 1).state { ahead with left := 4 }

theorem bound_bound : Bound platform server.text commit family bound := by
  have hvalid : envelope.readBack.Valid := by decide +kernel
  refine ⟨checkpoint, envelope.lineage, ⟨⟨rfl, rfl⟩, envelope, ⟨envelope.readBack, hvalid⟩, rfl, ?_, rfl⟩, rfl, rfl, ?_⟩
  · show SessionCredentialEnvelope.init envelope.readBack = _
    exact dif_pos hvalid
  · exact ⟨rfl, rfl, rfl, rfl⟩

theorem surroundings_uuids : surroundings.NamesUuids := by
  rintro _ ⟨_, _, response, root, hpost, hroot, rfl⟩
  cases hpost
  cases hroot
  decide +kernel

end Sample

theorem binding_survives_access :
    Recovers Sample.platform Sample.server.text Sample.commit Sample.family
      ((access Sample.platform Sample.surroundings Sample.server.text).state { Sample.bound with left := 9 }) :=
  (binding_survives Sample.bound_bound).2 _
    (access_checked Sample.bound_bound Sample.surroundings_uuids (.left .start 9))

/-- **A failed checkpoint write, and a rotation after it, cost the binding.** -/
theorem rejected_rotation_loses :
    Bound Sample.platform Sample.server.text Sample.commit Sample.family Sample.bound ∧
      Run Sample.platform Sample.server.text (fun _ _ => True) Sample.bound Sample.lost ∧
      ((recover Sample.platform Sample.server.text fun _ => false) { Sample.lost with left := 9 }).1 =
        some .clearedPartialBinding ∧
      (((recover Sample.platform Sample.server.text fun _ => false) { Sample.lost with left := 9 }).2.credentials =
        none) := by
  refine ⟨Sample.bound_bound, ?_, by decide +kernel, by decide +kernel⟩
  have hrun : ∀ {d : Device EnvelopeFields} {rejected : Int},
      Run Sample.platform Sample.server.text (fun _ _ => True) Sample.bound d →
        Run Sample.platform Sample.server.text (fun _ _ => True) Sample.bound
          ((refreshAfterRejection Sample.platform Sample.surroundings Sample.server.text rejected).state d) :=
    refreshAfterRejection_runs (fun _ => trivial) (fun _ => trivial) fun _ _ => trivial
  exact hrun (.left (hrun (.left .start 7)) 4)

end AutPlay.Binding
