import AutPlay.Offline.Episode

/-!
# The offline temporal delta is read back

* `adjustmentsOf_adjusts`     what build writes is what decode asks for;
* `NoCollisions`              the digests tell their inputs apart;
* `decode_deltaEntity`        the delta is decoded;
* `decode_representable`      only if its times were written as they are.
-/

set_option linter.unusedSectionVars false

namespace AutPlay.Offline

open AutPlay.Sync (Uuid Json Payload)
open AutPlay.Sona (keysOf)
open AutPlay.Recommend (clamp)
open Result

/-! ## lists by position -/

theorem map_mapIdx_const {α β γ : Type} {f : Nat → α → β} {g : β → γ} {h : α → γ}
    (heq : ∀ i a, g (f i a) = h a) (l : List α) : (l.mapIdx f).map g = l.map h := by
  rw [List.mapIdx_eq_zipIdx_map, List.map_map]
  conv_rhs => rw [← List.zipIdx_map_fst 0 l, List.map_map]
  exact List.map_congr_left fun x _ => heq x.2 x.1

theorem map_mapIdx_range {α β γ : Type} {f : Nat → α → β} {g : β → γ} {h : Nat → γ}
    (heq : ∀ i a, g (f i a) = h i) (l : List α) :
    (l.mapIdx f).map g = (List.range l.length).map h := by
  rw [List.mapIdx_eq_zipIdx_map, List.map_map, List.range_eq_range', ← List.zipIdx_map_snd 0 l,
    List.map_map]
  exact List.map_congr_left fun x _ => heq x.2 x.1

theorem mapM_mapIdx_ok {α β γ : Type} {f : Nat → α → β} {g : β → Except Thrown γ}
    {h : Nat → α → γ} {l : List α} (heq : ∀ i, ∀ a ∈ l, g (f i a) = .ok (h i a)) :
    (l.mapIdx f).mapM g = .ok (l.mapIdx h) := by
  induction l generalizing f h with
  | nil => rfl
  | cons a l ih =>
    rw [List.mapIdx_cons, List.mapIdx_cons, List.mapM_cons]
    refine bind_of_ok (heq 0 a List.mem_cons_self) ?_
    exact bind_of_ok (ih fun i b hb => heq (i + 1) b (List.mem_cons_of_mem _ hb)) rfl

section
variable {tools : DeltaTools} {parentEntity : RecommendationPackEntity}
  {parent : DecodedOfflinePack tools.jcsInt} {binding : ClientEventBinding}
  {evidence : List ProjectedLocalEvidence} {items : List HomeRecommendationItem}

/-! ## adjustments -/

/-- Items of the pack, each once. -/
structure PackItems (parent : DecodedOfflinePack tools.jcsInt) (items : List HomeRecommendationItem) :
    Prop where
  distinct : (items.map HomeRecommendationItem.pair).Nodup
  parent : ∀ item ∈ items,
    item.pair ∈ parent.items.map fun item => (item.recordingId, item.sourceRank)

/-- The digests of the inputs that are used tell them apart. -/
structure NoCollisions (tools : DeltaTools) (parent : DecodedOfflinePack tools.jcsInt)
    (binding : ClientEventBinding) (items : List HomeRecommendationItem)
    (rows : List LocalTemporalJournalRow) : Prop where
  impressionKeys : ∀ a ∈ items, ∀ b ∈ items,
    tools.sha256 (tools.jcs (impressionDocument binding parent.recommendationRequestId a.recordingId
      a.sourceRank)) =
    tools.sha256 (tools.jcs (impressionDocument binding parent.recommendationRequestId b.recordingId
      b.sourceRank)) → a.pair = b.pair
  impressionIds : ∀ a ∈ items, ∀ b ∈ items, ∀ key key',
    key = impressionKey tools binding parent.recommendationRequestId a.recordingId a.sourceRank →
    key' = impressionKey tools binding parent.recommendationRequestId b.recordingId b.sourceRank →
    deterministicUuid tools (impressionMaterial key) =
      deterministicUuid tools (impressionMaterial key') → key = key'
  evidenceIds : ∀ row ∈ rows, ∀ row' ∈ rows, ∀ key ∈ signalKeys, ∀ key' ∈ signalKeys,
    deterministicUuid tools (evidenceMaterial row.sourceEventId key) =
      deterministicUuid tools (evidenceMaterial row'.sourceEventId key') →
    row.sourceEventId = row'.sourceEventId ∧ key = key'

theorem orderedItems_perm (evidence : List ProjectedLocalEvidence)
    (items : List HomeRecommendationItem) : (orderedItems evidence items).Perm items :=
  List.perm_insertionSort _ _

/-- What an adjustment has of its item. -/
theorem map_adjustmentsOf {γ : Type} (requestId : Uuid) (g : OfflineTemporalAdjustment → γ)
    (h : HomeRecommendationItem → γ)
    (heq : ∀ i item, g (adjustmentOf tools binding requestId evidence i item) = h item) :
    (adjustmentsOf tools binding requestId evidence items).map g =
      (orderedItems evidence items).map h :=
  map_mapIdx_const heq _

variable (tools binding evidence items) in
theorem pairs_adjustmentsOf (requestId : Uuid) :
    (adjustmentsOf tools binding requestId evidence items).map OfflineTemporalAdjustment.pair =
      (orderedItems evidence items).map HomeRecommendationItem.pair :=
  map_adjustmentsOf requestId _ _ fun _ _ => rfl

variable (tools binding evidence items) in
theorem positions_adjustmentsOf (requestId : Uuid) :
    (adjustmentsOf tools binding requestId evidence items).map
      OfflineTemporalAdjustment.displayPosition =
        (List.range items.length).map fun (i : Nat) => (i : Int) + 1 := by
  rw [← (orderedItems_perm evidence items).length_eq]
  unfold adjustmentsOf
  refine map_mapIdx_range ?_ _
  intro _ _
  rfl

theorem length_adjustmentsOf (requestId : Uuid) :
    (adjustmentsOf tools binding requestId evidence items).length = items.length := by
  unfold adjustmentsOf
  rw [List.length_mapIdx, (orderedItems_perm evidence items).length_eq]

theorem abs_scoreOf_le (evidence : List ProjectedLocalEvidence) (recordingId : Uuid) :
    |scoreOf evidence recordingId| ≤ totalAbsoluteCap := by
  have hcap : -totalAbsoluteCap ≤ totalAbsoluteCap := by decide +kernel
  unfold scoreOf clamp
  rw [abs_le]
  exact ⟨le_min hcap (le_max_left _ _), min_le_left _ _⟩

theorem length_items_le (hitems : PackItems parent items) : items.length ≤ 100 := by
  have hsub : (items.map HomeRecommendationItem.pair).Subperm
      (parent.items.map fun item => (item.recordingId, item.sourceRank)) := by
    apply List.subperm_of_subset hitems.distinct
    intro pair hp
    obtain ⟨item, hi, rfl⟩ := List.mem_map.mp hp
    exact hitems.parent item hi
  have hlength := hsub.length_le
  rw [List.length_map, List.length_map] at hlength
  exact hlength.trans parent.items_bounded

theorem adjustmentsOf_adjusts (hitems : PackItems parent items)
    {adjustment : OfflineTemporalAdjustment}
    (ha : adjustment ∈ adjustmentsOf tools binding parent.recommendationRequestId evidence items) :
    Adjusts tools binding parent.recommendationRequestId
      (parent.items.map fun item => (item.recordingId, item.sourceRank)) adjustment := by
  have hposition : adjustment.displayPosition ∈
      (List.range items.length).map fun (i : Nat) => (i : Int) + 1 := by
    rw [← positions_adjustmentsOf tools binding evidence items
      parent.recommendationRequestId]
    exact List.mem_map_of_mem ha
  obtain ⟨position, hrange, hposition⟩ := List.mem_map.mp hposition
  have hlength := length_items_le hitems
  rw [List.mem_range] at hrange
  obtain ⟨i, hi, rfl⟩ := List.mem_mapIdx.mp ha
  have hitem := (orderedItems_perm evidence items).mem_iff.mp (List.getElem_mem hi)
  have hpair := hitems.parent _ hitem
  obtain ⟨packItem, hpack, heq⟩ := List.mem_map.mp hpair
  have hrank := parent.ranks packItem hpack
  rw [(Prod.mk.inj heq).2] at hrank
  refine ⟨hrank, ?_, ?_, hpair, rfl, rfl⟩
  · rw [← hposition]
    omega
  · exact (abs_scoreOf_le evidence _).trans (by decide +kernel)

theorem checkAdjustments_ok (hitems : PackItems parent items) {rows : List LocalTemporalJournalRow}
    (hcoll : NoCollisions tools parent binding items rows) :
    checkAdjustments (adjustmentsOf tools binding parent.recommendationRequestId evidence items) =
      .ok () := by
  have hpairs : ((orderedItems evidence items).map HomeRecommendationItem.pair).Nodup :=
    ((orderedItems_perm evidence items).map _).nodup_iff.mpr hitems.distinct
  have hmem : ∀ {item}, item ∈ orderedItems evidence items → item ∈ items := fun h =>
    (orderedItems_perm evidence items).mem_iff.mp h
  -- a digest of a pair is that of no other
  have hkeys : ((orderedItems evidence items).map fun item =>
      impressionKey tools binding parent.recommendationRequestId item.recordingId
        item.sourceRank).Nodup := by
    rw [List.nodup_map_iff_inj_on (hpairs.of_map _)]
    intro a ha b hb heq
    have hpair := hcoll.impressionKeys a (hmem ha) b (hmem hb) (toHex_inj heq)
    exact List.inj_on_of_nodup_map hpairs ha hb hpair
  have hids : ((orderedItems evidence items).map fun item =>
      deterministicUuid tools (impressionMaterial (impressionKey tools binding
        parent.recommendationRequestId item.recordingId item.sourceRank))).Nodup := by
    rw [List.nodup_map_iff_inj_on (hpairs.of_map _)]
    intro a ha b hb heq
    have hkey := hcoll.impressionIds a (hmem ha) b (hmem hb) _ _ rfl rfl heq
    exact List.inj_on_of_nodup_map hkeys ha hb hkey
  refine check_ok.mpr ?_
  rintro (h | h | h | h | h)
  · rw [length_adjustmentsOf] at h
    exact absurd (length_items_le hitems) (not_le.mpr h)
  · rw [pairs_adjustmentsOf] at h
    exact h hpairs
  · rw [positions_adjustmentsOf] at h
    refine h (List.nodup_range.map fun i j hij => ?_)
    have hsucc : (i : Int) + 1 = j + 1 := hij
    omega
  · rw [map_adjustmentsOf parent.recommendationRequestId _ _ fun _ _ => rfl] at h
    exact h hids
  · rw [map_adjustmentsOf parent.recommendationRequestId _ _ fun _ _ => rfl] at h
    exact h hkeys

/-! ## the document -/

variable (tools parentEntity parent binding evidence items) in
theorem keysOf_deltaFields (nowMs expiresAtMs : Int) :
    keysOf (deltaFields tools parentEntity parent binding evidence items nowMs expiresAtMs) ++
      ["delta_sha256"] = deltaKeys := rfl

variable (tools parentEntity parent binding evidence items) in
theorem nodup_deltaFields (nowMs expiresAtMs : Int) :
    (keysOf (deltaFields tools parentEntity parent binding evidence items nowMs expiresAtMs)).Nodup ∧
      "delta_sha256" ∉
        keysOf (deltaFields tools parentEntity parent binding evidence items nowMs expiresAtMs) := by
  have hall : deltaKeys.Nodup := by decide
  rw [← keysOf_deltaFields tools parentEntity parent binding evidence items nowMs expiresAtMs,
    List.nodup_append] at hall
  exact ⟨hall.1, fun hmem => hall.2.2 _ hmem _ List.mem_cons_self rfl⟩

/-- What is parsed of the stored document. -/
def rootOf (tools : DeltaTools) (parentEntity : RecommendationPackEntity)
    (parent : DecodedOfflinePack tools.jcsInt) (binding : ClientEventBinding)
    (evidence : List ProjectedLocalEvidence) (items : List HomeRecommendationItem)
    (nowMs expiresAtMs : Int) : Payload :=
  writtenObj tools.jcsInt
    (deltaDocument tools parentEntity parent binding evidence items nowMs expiresAtMs)

variable (tools parentEntity parent binding evidence items) in
theorem nodup_deltaDocument (nowMs expiresAtMs : Int) :
    (keysOf (deltaDocument tools parentEntity parent binding evidence items nowMs
      expiresAtMs)).Nodup :=
  nodup_sealed (nodup_deltaFields tools parentEntity parent binding evidence items nowMs expiresAtMs).2
    (nodup_deltaFields tools parentEntity parent binding evidence items nowMs expiresAtMs).1

theorem lookup_deltaDocument {nowMs expiresAtMs : Int} {key : String} {v : Json}
    (hne : key ≠ "delta_sha256")
    (h : (deltaFields tools parentEntity parent binding evidence items nowMs expiresAtMs).lookup key =
      some v) :
    (deltaDocument tools parentEntity parent binding evidence items nowMs expiresAtMs).lookup key =
      some v :=
  (lookup_sealed_of_ne
    (nodup_deltaFields tools parentEntity parent binding evidence items nowMs expiresAtMs).2 hne).trans h

theorem readRoot_ok {nowMs expiresAtMs : Int}
    (reads : tools.Reads (.obj (deltaDocument tools parentEntity parent binding evidence items nowMs
      expiresAtMs))) :
    readRoot tools
      (deltaEntity tools parentEntity parent binding evidence items nowMs expiresAtMs) =
        .ok (rootOf tools parentEntity parent binding evidence items nowMs expiresAtMs) := by
  obtain ⟨hn, hname⟩ := nodup_deltaFields tools parentEntity parent binding evidence items nowMs
    expiresAtMs
  have hparsed : orFail .malformedPayload (objectOf (tools.parse
      (deltaEntity tools parentEntity parent binding evidence items nowMs expiresAtMs).payload)) =
        .ok (rootOf tools parentEntity parent binding evidence items nowMs expiresAtMs) := by
    show orFail _ (objectOf (tools.parse (tools.jcs _))) = _
    rw [reads.parsed, written_obj]
    rfl
  have hcanonical : orFail .malformedPayload (tools.canonicalize
      (deltaEntity tools parentEntity parent binding evidence items nowMs expiresAtMs).payload) =
        .ok (deltaEntity tools parentEntity parent binding evidence items nowMs
          expiresAtMs).payload := by
    show orFail _ (tools.canonicalize (tools.jcs _)) = _
    rw [reads.canonical]
    rfl
  refine bind_of_ok hcanonical ?_
  refine bind_of_ok (check_ok.mpr (not_not.mpr rfl)) ?_
  refine bind_of_ok hparsed ?_
  refine bind_of_ok (check_ok.mpr (not_not.mpr (sameKeys_writtenObj _ ?_))) ?_
  · exact (keysOf_sealed hname).trans
      (keysOf_deltaFields tools parentEntity parent binding evidence items nowMs expiresAtMs)
  refine bind_of_ok (requiredHex_written
    (nodup_deltaDocument tools parentEntity parent binding evidence items nowMs expiresAtMs)
    (lookup_sealed_self hname hn) (sha256Hex_canonicalSha256 _)) ?_
  exact bind_of_ok (check_ok.mpr (not_not.mpr (canonicalSha256_without hname hn))) rfl

theorem written_parentItems (parent : DecodedOfflinePack tools.jcsInt) :
    (parentItems tools parent).map (written tools.jcsInt) = parentItems tools parent := by
  unfold parentItems
  rw [List.map_map]
  apply List.map_congr_left
  intro item hi
  rw [List.mem_insertionSort] at hi
  have hrank := parent.ranks item hi
  have hsafe : tools.jcsInt item.sourceRank = item.sourceRank :=
    tools.jcsInt_safe _ (abs_le.mpr ⟨by omega, by omega⟩)
  have hsorted : (parentItemFields item).Pairwise Sona.keyLe := by
    unfold parentItemFields
    rw [List.pairwise_pair]
    exact (by decide : "recording_id" ≤ "source_rank")
  have hfields : (parentItemFields item).map (fun x => (x.1, written tools.jcsInt x.2)) =
      parentItemFields item := by
    have htext : written tools.jcsInt (.str item.recordingId.text) = .str item.recordingId.text := by
      simp [written]
    have hint : written tools.jcsInt (.int item.sourceRank) = .int item.sourceRank := by
      rw [written, hsafe]
    unfold parentItemFields
    rw [List.map_cons, List.map_cons, List.map_nil, htext, hint]
  show written tools.jcsInt (.obj (parentItemFields item)) = .obj (parentItemFields item)
  rw [written_obj]
  unfold writtenObj
  rw [hfields]
  exact congrArg Json.obj (List.Pairwise.insertionSort_eq hsorted)

theorem sha256Hex_policy : sha256Hex policySha256 = true := by decide +kernel

theorem checkParent_ok {nowMs expiresAtMs : Int} (hhash : parentEntity.payloadSha256.length = 32) :
    checkParent tools
      (deltaEntity tools parentEntity parent binding evidence items nowMs expiresAtMs) parentEntity
      parent (rootOf tools parentEntity parent binding evidence items nowMs expiresAtMs) = .ok () := by
  have hn := nodup_deltaDocument tools parentEntity parent binding evidence items nowMs
    expiresAtMs
  have hpolicy : (keysOf policyFields).Nodup := by decide
  have hitems : requiredArray
      (rootOf tools parentEntity parent binding evidence items nowMs expiresAtMs) "parent_items" =
        .ok (parentItems tools parent) := by
    have hlookup : (deltaDocument tools parentEntity parent binding evidence items nowMs
        expiresAtMs).lookup "parent_items" = some (.arr (parentItems tools parent)) :=
      lookup_deltaDocument (by decide) rfl
    have hread : requiredArray
        (rootOf tools parentEntity parent binding evidence items nowMs expiresAtMs) "parent_items" =
          .ok ((parentItems tools parent).map (written tools.jcsInt)) :=
      requiredArray_written hn hlookup
    rw [written_parentItems] at hread
    exact hread
  refine bind_of_ok (requiredObject_written hn (lookup_deltaDocument (by decide) rfl)) ?_
  refine bind_of_ok (check_ok.mpr (not_not.mpr (sameKeys_writtenObj _ rfl))) ?_
  refine bind_of_ok (requiredString_written hpolicy rfl) ?_
  refine bind_of_ok (check_ok.mpr (not_not.mpr rfl)) ?_
  refine bind_of_ok (requiredString_written hpolicy rfl) ?_
  refine bind_of_ok (check_ok.mpr (not_not.mpr rfl)) ?_
  refine bind_of_ok (requiredHex_written hpolicy rfl sha256Hex_policy) ?_
  refine bind_of_ok (check_ok.mpr (not_not.mpr rfl)) ?_
  refine bind_of_ok (requiredHex_written hn (lookup_deltaDocument (by decide) rfl)
    (sha256Hex_toHex hhash)) ?_
  refine bind_of_ok (check_ok.mpr (not_not.mpr rfl)) ?_
  refine bind_of_ok hitems ?_
  refine bind_of_ok (check_ok.mpr (not_not.mpr rfl)) ?_
  refine bind_of_ok (requiredHex_written hn (lookup_deltaDocument (by decide) rfl)
    (sha256Hex_canonicalSha256 _)) ?_
  refine bind_of_ok (check_ok.mpr (not_not.mpr rfl)) ?_
  exact check_ok.mpr (not_not.mpr rfl)

theorem checkEntity_ok {nowMs expiresAtMs : Int}
    (reads : tools.Reads (.obj (deltaDocument tools parentEntity parent binding evidence items nowMs
      expiresAtMs))) :
    checkEntity tools
      (deltaEntity tools parentEntity parent binding evidence items nowMs expiresAtMs) parentEntity
      binding = .ok () := by
  refine bind_of_ok (check_ok.mpr ?_) ?_
  · exact not_or.mpr ⟨not_not.mpr rfl, not_not.mpr rfl⟩
  refine bind_of_ok (check_ok.mpr (not_not.mpr rfl)) ?_
  refine bind_of_ok (check_ok.mpr ?_) ?_
  · exact not_or.mpr ⟨not_not.mpr rfl, not_or.mpr ⟨not_not.mpr rfl,
      not_or.mpr ⟨not_not.mpr rfl, not_not.mpr rfl⟩⟩⟩
  refine bind_of_ok (check_ok.mpr ?_) ?_
  · exact not_or.mpr ⟨reads.nonempty, not_or.mpr ⟨not_not.mpr (tools.sha256_length _),
      not_not.mpr rfl⟩⟩
  exact check_ok.mpr (not_not.mpr rfl)

/-! ## decoding what was built -/

/-- The delta that is decoded. -/
def decodedOf (tools : DeltaTools) (parent : DecodedOfflinePack tools.jcsInt)
    (binding : ClientEventBinding) (evidence : List ProjectedLocalEvidence)
    (items : List HomeRecommendationItem) (nowMs expiresAtMs : Int) : DecodedOfflineTemporalDelta :=
  ⟨deltaIdOf tools parent binding evidence, parent.offlinePackId, parent.recommendationRequestId,
    nowMs, expiresAtMs,
    adjustmentsOf tools binding parent.recommendationRequestId evidence items⟩

/-- What `build` has made sure of. -/
structure Built (tools : DeltaTools) (parentEntity : RecommendationPackEntity)
    (parent : DecodedOfflinePack tools.jcsInt) (binding : ClientEventBinding)
    (nowMs expiresAtMs : Int) : Prop where
  envelope : validateParentEnvelope tools parentEntity parent binding = .ok ()
  now_nonneg : 0 ≤ nowMs
  expires : expiresAtMs = min parent.expiresAtMs (nowMs + maxDeltaLifetimeMs)
  open_ : nowMs < expiresAtMs
  range : nowMs + maxDeltaLifetimeMs < 2 ^ 63

/-- The times of a delta are written as they are. -/
def Representable (tools : DeltaTools) (parent : DecodedOfflinePack tools.jcsInt) (nowMs : Int) : Prop :=
  tools.jcsInt nowMs = nowMs ∧
    tools.jcsInt (min parent.expiresAtMs (nowMs + maxDeltaLifetimeMs)) =
      min parent.expiresAtMs (nowMs + maxDeltaLifetimeMs)

theorem hash_of_envelope (h : validateParentEnvelope tools parentEntity parent binding = .ok ()) :
    parentEntity.payloadSha256.length = 32 := by
  obtain ⟨_, _, h⟩ := bind_eq_ok.mp h
  obtain ⟨_, _, h⟩ := bind_eq_ok.mp h
  exact not_not.mp (not_or.mp (check_ok.mp h)).1

theorem evidenceIds_nodup {rows : List LocalTemporalJournalRow} {sources : List EvidenceSource}
    (hsources : Sources tools binding rows evidence sources)
    (hcoll : NoCollisions tools parent binding items rows) :
    (sources.map (EvidenceSource.evidenceId tools)).Nodup := by
  rw [List.nodup_map_iff_inj_on (hsources.signals.of_map _)]
  intro a ha b hb heq
  obtain ⟨hrow, hkey⟩ := hsources.rows a ha
  obtain ⟨hrow', hkey'⟩ := hsources.rows b hb
  obtain ⟨hid, hsignal⟩ := hcoll.evidenceIds _ hrow _ hrow' _ hkey _ hkey' heq
  exact List.inj_on_of_nodup_map hsources.signals ha hb (Prod.ext hid hsignal)

theorem decode_deltaEntity {nowMs expiresAtMs later : Int}
    (hbuilt : Built tools parentEntity parent binding nowMs expiresAtMs)
    {rows : List LocalTemporalJournalRow} {sources : List EvidenceSource}
    (hsources : Sources tools binding rows evidence sources) (hitems : PackItems parent items)
    (hcoll : NoCollisions tools parent binding items rows)
    (reads : tools.Reads (.obj (deltaDocument tools parentEntity parent binding evidence items nowMs
      expiresAtMs)))
    (hrepresentable : Representable tools parent nowMs) (hlater : 0 ≤ later)
    (hopen : later < expiresAtMs) :
    decode tools (deltaEntity tools parentEntity parent binding evidence items nowMs expiresAtMs)
      parentEntity parent binding later =
        .ok (decodedOf tools parent binding evidence items nowMs expiresAtMs) := by
  have hn := nodup_deltaDocument tools parentEntity parent binding evidence items nowMs
    expiresAtMs
  have hevents : validateEvents tools ((evidence.map fun value => Json.obj value.document).map
      (written tools.jcsInt)) binding = .ok () := by
    rw [hsources.projected, List.map_map, List.map_map]
    exact validateEvents_ok hsources.valid hsources.fits (evidenceIds_nodup hsources hcoll)
  have hadjustments : (((adjustmentsOf tools binding parent.recommendationRequestId evidence items).map
      fun adjustment => Json.obj (adjustmentFields adjustment)).map (written tools.jcsInt)).mapM
        (decodeAdjustment tools binding parent.recommendationRequestId
          (parent.items.map fun item => (item.recordingId, item.sourceRank))) =
      .ok (adjustmentsOf tools binding parent.recommendationRequestId evidence items) := by
    rw [List.map_map]
    exact mapM_map_eq_ok fun adjustment ha => decodeAdjustment_ok (adjustmentsOf_adjusts hitems ha)
  obtain ⟨hcreated, hexpires⟩ := hrepresentable
  rw [← hbuilt.expires] at hexpires
  have hnow := hbuilt.now_nonneg
  have hrange := hbuilt.range
  have hlive := hbuilt.open_
  have hbound := hbuilt.expires
  have htimes := parent.times_range
  unfold maxDeltaLifetimeMs at hrange hbound
  refine bind_of_ok (if_neg (not_lt.mpr hlater)) ?_
  refine bind_of_ok hbuilt.envelope ?_
  refine bind_of_ok (checkEntity_ok reads) ?_
  refine bind_of_ok (readRoot_ok reads) ?_
  refine bind_of_ok (requiredUuid_written hn (lookup_deltaDocument (by decide) rfl)) ?_
  refine bind_of_ok (requiredUuid_written hn (lookup_deltaDocument (by decide) rfl)) ?_
  refine bind_of_ok (requiredUuid_written hn (lookup_deltaDocument (by decide) rfl)) ?_
  refine bind_of_ok (requiredLong_written (i := nowMs) hn (lookup_deltaDocument (by decide) rfl)
    hcreated (by omega)) ?_
  refine bind_of_ok (requiredLong_written (i := expiresAtMs) hn
    (lookup_deltaDocument (by decide) rfl) hexpires (by omega)) ?_
  refine bind_of_ok (requiredLong_written (i := parent.expiresAtMs) hn
    (lookup_deltaDocument (by decide) rfl) parent.times_canonical.2 (by omega)) ?_
  refine bind_of_ok (requiredLong_written (i := payloadVersion) hn
    (lookup_deltaDocument (by decide) rfl) (tools.jcsInt_safe _ (by decide)) (by decide)) ?_
  refine bind_of_ok (check_ok.mpr ?_) ?_
  · rintro (h | h | h | h | h | h) <;> exact h rfl
  refine bind_of_ok (requiredUuid_written hn (lookup_deltaDocument (by decide) rfl)) ?_
  refine bind_of_ok (check_ok.mpr (not_not.mpr rfl)) ?_
  refine bind_of_ok (requiredUuid_written hn (lookup_deltaDocument (by decide) rfl)) ?_
  refine bind_of_ok (check_ok.mpr (not_not.mpr rfl)) ?_
  refine bind_of_ok (requiredUuid_written hn (lookup_deltaDocument (by decide) rfl)) ?_
  refine bind_of_ok (check_ok.mpr (not_not.mpr rfl)) ?_
  refine bind_of_ok (requiredLong_written (i := parent.createdAtMs) hn
    (lookup_deltaDocument (by decide) rfl) parent.times_canonical.1 (by omega)) ?_
  refine bind_of_ok (check_ok.mpr (not_not.mpr rfl)) ?_
  refine bind_of_ok (check_ok.mpr ?_) ?_
  · rintro (h | h | h) <;> exact h rfl
  refine bind_of_ok (check_ok.mpr ?_) ?_
  · unfold maxDeltaLifetimeMs
    omega
  refine bind_of_ok (checkParent_ok (hash_of_envelope hbuilt.envelope)) ?_
  refine bind_of_ok (requiredArray_written hn (lookup_deltaDocument (by decide) rfl)) ?_
  refine bind_of_ok hevents ?_
  refine bind_of_ok (requiredArray_written hn (lookup_deltaDocument (by decide) rfl)) ?_
  refine bind_of_ok hadjustments ?_
  exact bind_of_ok (checkAdjustments_ok hitems hcoll) rfl

/-- A decoded delta has the times of its row. -/
theorem decode_times {entity : RecommendationTemporalDeltaEntity} {later : Int}
    {delta : DecodedOfflineTemporalDelta}
    (h : decode tools entity parentEntity parent binding later = .ok delta) :
    ∃ root, readRoot tools entity = .ok root ∧
      requiredLong tools root "created_at_ms" = .ok entity.createdAtMs ∧
      requiredLong tools root "expires_at_ms" = .ok entity.expiresAtMs ∧
      0 ≤ later ∧ later < entity.expiresAtMs := by
  obtain ⟨_, hlater, h⟩ := bind_eq_ok.mp h
  obtain ⟨_, _, h⟩ := bind_eq_ok.mp h
  obtain ⟨_, _, h⟩ := bind_eq_ok.mp h
  obtain ⟨root, hroot, h⟩ := bind_eq_ok.mp h
  obtain ⟨_, _, h⟩ := bind_eq_ok.mp h
  obtain ⟨_, _, h⟩ := bind_eq_ok.mp h
  obtain ⟨_, _, h⟩ := bind_eq_ok.mp h
  obtain ⟨created, hcreated, h⟩ := bind_eq_ok.mp h
  obtain ⟨expires, hexpires, h⟩ := bind_eq_ok.mp h
  obtain ⟨_, _, h⟩ := bind_eq_ok.mp h
  obtain ⟨_, _, h⟩ := bind_eq_ok.mp h
  obtain ⟨_, _, h⟩ := bind_eq_ok.mp h
  obtain ⟨_, _, h⟩ := bind_eq_ok.mp h
  obtain ⟨_, _, h⟩ := bind_eq_ok.mp h
  obtain ⟨_, _, h⟩ := bind_eq_ok.mp h
  obtain ⟨_, _, h⟩ := bind_eq_ok.mp h
  obtain ⟨_, _, h⟩ := bind_eq_ok.mp h
  obtain ⟨_, _, h⟩ := bind_eq_ok.mp h
  obtain ⟨_, _, h⟩ := bind_eq_ok.mp h
  obtain ⟨_, _, h⟩ := bind_eq_ok.mp h
  obtain ⟨_, hsame, h⟩ := bind_eq_ok.mp h
  obtain ⟨_, hopen, _⟩ := bind_eq_ok.mp h
  have hsame := check_ok.mp hsame
  have hopen := check_ok.mp hopen
  simp only [not_or, not_not] at hsame hopen
  rw [← hsame.1, ← hsame.2.1]
  refine ⟨root, hroot, hcreated, hexpires, ?_, not_le.mp hopen.2.2.2.1⟩
  by_contra hneg
  unfold refuse at hlater
  rw [if_pos (not_le.mp hneg)] at hlater
  cases hlater

/-- A delta is decoded only if its times were written as they are. -/
theorem decode_representable {nowMs expiresAtMs later : Int}
    (hexpires : expiresAtMs = min parent.expiresAtMs (nowMs + maxDeltaLifetimeMs))
    (reads : tools.Reads (.obj (deltaDocument tools parentEntity parent binding evidence items nowMs
      expiresAtMs)))
    {delta : DecodedOfflineTemporalDelta}
    (h : decode tools (deltaEntity tools parentEntity parent binding evidence items nowMs expiresAtMs)
      parentEntity parent binding later = .ok delta) : Representable tools parent nowMs := by
  have hn := nodup_deltaDocument tools parentEntity parent binding evidence items nowMs
    expiresAtMs
  obtain ⟨root, hroot, hcreated, hexpiry, -⟩ := decode_times h
  rw [readRoot_ok reads] at hroot
  have hroot := Except.ok.inj hroot
  subst hroot
  refine ⟨((requiredLong_eq_ok (i := nowMs) hn (lookup_deltaDocument (by decide) rfl)).mp
    hcreated).1, ?_⟩
  rw [← hexpires]
  exact ((requiredLong_eq_ok (i := expiresAtMs) hn
    (lookup_deltaDocument (by decide) rfl)).mp hexpiry).1

end

end AutPlay.Offline
