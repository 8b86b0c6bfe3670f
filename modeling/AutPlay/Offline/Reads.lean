import AutPlay.Offline.Delta
import Mathlib.Tactic.NormNum

/-!
# What is read back of a delta

* `requiredUuid_written`, …          the accessors on what was written;
* `canonicalSha256_without`          the hash of a sealed document is found again;
* `validateEvents_ok`                the events of the evidence are accepted;
* `decodeAdjustment_ok`              so are its adjustments.
-/

set_option linter.unusedSectionVars false

namespace AutPlay.Offline

open AutPlay.Sync (Uuid Json Payload isCanonicalUuid isHexLower)
open AutPlay.Sona (sortFields keysOf plain)
open Result

theorem check_ok {bad : Prop} [Decidable bad] {code : OfflineTemporalDeltaErrorCode} :
    check bad code = .ok () ↔ ¬ bad := by
  unfold check refuse
  split
  · rename_i h
    exact ⟨nofun, fun hn => absurd h hn⟩
  · rename_i h
    exact ⟨fun _ => h, fun _ => rfl⟩

theorem validUuid_text (u : Uuid) : validUuid u.text = some u := by
  unfold validUuid
  rw [dif_pos u.canonical]

/-! ## digests as text -/

theorem isHexLower_toHex (bytes : List Byte) : (toHex bytes).toList.all isHexLower = true := by
  unfold toHex
  rw [String.toList_ofList, List.all_eq_true]
  intro c hc
  obtain ⟨byte, -, hc⟩ := List.mem_flatMap.mp hc
  unfold hexPair at hc
  rcases List.mem_cons.mp hc with rfl | hc
  · exact isHexLower_hexDigit _
  · rw [List.mem_singleton.mp hc]
    exact isHexLower_hexDigit _

theorem length_toHex (bytes : List Byte) : (toHex bytes).length = 2 * bytes.length := by
  unfold toHex
  rw [String.length_ofList, List.length_flatMap]
  induction bytes with
  | nil => rfl
  | cons byte bytes ih =>
    rw [List.map_cons, List.sum_cons, ih, List.length_cons]
    show 2 + _ = _
    omega

theorem sha256Hex_toHex {bytes : List Byte} (h : bytes.length = 32) :
    sha256Hex (toHex bytes) = true := by
  unfold sha256Hex
  rw [isHexLower_toHex, length_toHex, h]
  rfl

theorem hexDigit_inj : ∀ a b : Fin 16, hexDigit a = hexDigit b → a = b := by decide

theorem hexPair_inj {a b : Byte} (h : hexPair a = hexPair b) : a = b := by
  unfold hexPair at h
  obtain ⟨hhigh, hlow⟩ := List.cons_eq_cons.mp h
  have hd : (a : Nat) / 16 = b / 16 := congrArg Fin.val (hexDigit_inj ⟨a / 16, by omega⟩
    ⟨b / 16, by omega⟩ hhigh)
  have hm : (a : Nat) % 16 = b % 16 := congrArg Fin.val (hexDigit_inj ⟨a % 16, by omega⟩
    ⟨b % 16, by omega⟩ (List.cons_eq_cons.mp hlow).1)
  apply Fin.ext
  omega

theorem toHex_inj {a b : List Byte} (h : toHex a = toHex b) : a = b := by
  unfold toHex at h
  have hchars := String.ofList_injective h
  clear h
  induction a generalizing b with
  | nil =>
    cases b with
    | nil => rfl
    | cons byte b => cases hchars
  | cons byte a ih =>
    cases b with
    | nil => cases hchars
    | cons byte' b =>
      rw [List.flatMap_cons, List.flatMap_cons] at hchars
      obtain ⟨hpair, hrest⟩ := List.append_inj hchars rfl
      rw [hexPair_inj hpair, ih hrest]

section
variable {tools : DeltaTools}

theorem sha256Hex_canonicalSha256 (v : Json) : sha256Hex (canonicalSha256 tools v) = true :=
  sha256Hex_toHex (tools.sha256_length _)

/-! ## accessors on what was written -/

theorem lookup_writtenObj (jcsInt : Int → Int) {fields : Payload} (hn : (keysOf fields).Nodup)
    (name : String) :
    (writtenObj jcsInt fields).lookup name = (fields.lookup name).map (written jcsInt) := by
  have hwritten : (keysOf (fields.map fun x => (x.1, written jcsInt x.2))).Nodup := by
    rw [Sona.keysOf_map]
    exact hn
  unfold writtenObj
  rw [Sona.lookup_perm (Sona.sortFields_perm _) (Sona.nodup_sortFields hwritten), Sona.lookup_map]

theorem mem_keysOf_writtenObj (jcsInt : Int → Int) (fields : Payload) (name : String) :
    name ∈ keysOf (writtenObj jcsInt fields) ↔ name ∈ keysOf fields := by
  unfold writtenObj
  rw [Sona.keysOf_sortFields, Sona.keysOf_map]

theorem sameKeys_writtenObj (jcsInt : Int → Int) {fields : Payload} {keys : List String}
    (h : keysOf fields = keys) : SameKeys (writtenObj jcsInt fields) keys := by
  constructor
  · intro key hk
    rw [← h]
    exact (mem_keysOf_writtenObj jcsInt fields key).mp hk
  · intro key hk
    rw [← h] at hk
    exact (mem_keysOf_writtenObj jcsInt fields key).mpr hk

section accessors
variable {fields : Payload} (hn : (keysOf fields).Nodup) {name : String}
include hn

theorem requiredString_written {text : String} (h : fields.lookup name = some (.str text)) :
    requiredString (writtenObj tools.jcsInt fields) name = .ok text := by
  unfold requiredString
  rw [lookup_writtenObj tools.jcsInt hn, h]
  rfl

theorem requiredUuid_written {u : Uuid} (h : fields.lookup name = some (.str u.text)) :
    requiredUuid (writtenObj tools.jcsInt fields) name = .ok u := by
  refine bind_of_ok (requiredString_written hn h) ?_
  rw [validUuid_text]
  rfl

theorem requiredHex_written {text : String} (h : fields.lookup name = some (.str text))
    (hhex : sha256Hex text = true) :
    requiredHex (writtenObj tools.jcsInt fields) name = .ok text := by
  refine bind_of_ok (requiredString_written hn h) ?_
  rw [if_pos hhex]

theorem requiredBoolean_written {b : Bool} (h : fields.lookup name = some (.bool b)) :
    requiredBoolean tools (writtenObj tools.jcsInt fields) name = .ok b := by
  unfold requiredBoolean
  rw [lookup_writtenObj tools.jcsInt hn, h]
  rfl

theorem requiredObject_written {value : Payload} (h : fields.lookup name = some (.obj value)) :
    requiredObject (writtenObj tools.jcsInt fields) name = .ok (writtenObj tools.jcsInt value) := by
  unfold requiredObject
  rw [lookup_writtenObj tools.jcsInt hn, h, Option.map_some, written_obj]
  rfl

theorem requiredArray_written {items : List Json} (h : fields.lookup name = some (.arr items)) :
    requiredArray (writtenObj tools.jcsInt fields) name =
      .ok (items.map (written tools.jcsInt)) := by
  unfold requiredArray
  rw [lookup_writtenObj tools.jcsInt hn, h, Option.map_some, written_arr]
  rfl

/-- An integer is read as what is left of it. -/
theorem requiredLong_eq_ok {i value : Int} (h : fields.lookup name = some (.int i)) :
    requiredLong tools (writtenObj tools.jcsInt fields) name = .ok value ↔
      tools.jcsInt i = value ∧ -2 ^ 63 ≤ value ∧ value < 2 ^ 63 := by
  unfold requiredLong
  rw [lookup_writtenObj tools.jcsInt hn, h, Option.map_some, written]
  unfold longOrNull
  dsimp only
  split
  · rename_i hrange
    constructor
    · intro heq
      cases heq
      exact ⟨rfl, hrange⟩
    · rintro ⟨rfl, -⟩
      rfl
  · rename_i hrange
    constructor
    · intro heq
      cases heq
    · rintro ⟨rfl, hvalue⟩
      exact absurd hvalue hrange

theorem requiredLong_written {i : Int} (h : fields.lookup name = some (.int i))
    (hsame : tools.jcsInt i = i) (hrange : -2 ^ 63 ≤ i ∧ i < 2 ^ 63) :
    requiredLong tools (writtenObj tools.jcsInt fields) name = .ok i :=
  (requiredLong_eq_ok hn h).mpr ⟨hsame, hrange⟩

/-- A share between -1 and 1 is read as it is. -/
theorem requiredDouble_written {q : ℚ} (h : fields.lookup name = some (.float q)) (hq : |q| ≤ 1) :
    requiredDouble tools (writtenObj tools.jcsInt fields) name = .ok q := by
  unfold requiredDouble
  rw [lookup_writtenObj tools.jcsInt hn, h, Option.map_some, written]
  split
  · rename_i hplain
    have hnum : (q.num : ℚ) = q := (Rat.den_eq_one_iff q).mp hplain.1
    have hsmall : |q.num| ≤ 2 ^ 53 := by
      rw [← hnum] at hq
      have habs : |q.num| ≤ 1 := by exact_mod_cast hq
      exact habs.trans (by norm_num)
    rw [tools.jcsInt_safe _ hsmall]
    show Except.ok (q.num : ℚ) = _
    rw [hnum]
  · rfl

end accessors

/-! ## sealed documents -/

section sealed
variable {name : String} {fields : Payload} (hname : name ∉ keysOf fields)
include hname

theorem keysOf_sealed : keysOf (sealed tools name fields) = keysOf fields ++ [name] := by
  unfold sealed keysOf
  rw [List.map_append]
  rfl

theorem nodup_sealed (hn : (keysOf fields).Nodup) : (keysOf (sealed tools name fields)).Nodup := by
  rw [keysOf_sealed hname, List.nodup_append]
  refine ⟨hn, List.nodup_singleton _, ?_⟩
  intro key hk other ho heq
  rw [List.mem_singleton.mp ho] at heq
  exact hname (heq ▸ hk)

theorem lookup_sealed_of_ne {other : String} (hne : other ≠ name) :
    (sealed tools name fields).lookup other = fields.lookup other := by
  unfold sealed
  rw [List.lookup_append, List.lookup_cons]
  have hno : (other == name) = false := beq_false_of_ne hne
  rw [hno]
  exact Option.or_none

theorem lookup_sealed_self (hn : (keysOf fields).Nodup) :
    (sealed tools name fields).lookup name = some (.str (canonicalSha256 tools (.obj fields))) := by
  rw [Sona.lookup_eq_some_iff_mem (nodup_sealed hname hn)]
  exact List.mem_append_right _ List.mem_cons_self

/-- Without the hash the document is what was hashed. -/
theorem without_sealed (hn : (keysOf fields).Nodup) :
    without name (writtenObj tools.jcsInt (sealed tools name fields)) =
      writtenObj tools.jcsInt fields := by
  have hperm : (without name (writtenObj tools.jcsInt (sealed tools name fields))).Perm
      (fields.map fun x => (x.1, written tools.jcsInt x.2)) := by
    unfold without writtenObj
    refine ((Sona.sortFields_perm _).filter _).trans ?_
    unfold sealed
    rw [List.map_append, List.filter_append]
    have hkeep : (fields.map fun x => (x.1, written tools.jcsInt x.2)).filter
        (fun x => decide (x.1 ≠ name)) = fields.map fun x => (x.1, written tools.jcsInt x.2) := by
      rw [List.filter_eq_self]
      intro x hx
      obtain ⟨y, hy, rfl⟩ := List.mem_map.mp hx
      rw [decide_eq_true_eq]
      rintro rfl
      exact hname (show y.1 ∈ keysOf fields from List.mem_map_of_mem hy)
    rw [hkeep]
    have hdrop : ([(name, Json.str (canonicalSha256 tools (.obj fields)))].map
        fun x => (x.1, written tools.jcsInt x.2)).filter (fun x => decide (x.1 ≠ name)) = [] := by
      simp
    rw [hdrop, List.append_nil]
  have hsorted : (without name (writtenObj tools.jcsInt (sealed tools name fields))).Pairwise
      Sona.keyLe :=
    (List.pairwise_insertionSort Sona.keyLe _).sublist List.filter_sublist
  have hkeys : (keysOf (fields.map fun x => (x.1, written tools.jcsInt x.2))).Nodup := by
    rw [Sona.keysOf_map]
    exact hn
  rw [← List.Pairwise.insertionSort_eq hsorted]
  exact (Sona.sortFields_eq_iff ((hperm.map Prod.fst).nodup_iff.mpr hkeys)).mpr hperm

theorem canonicalSha256_without (hn : (keysOf fields).Nodup) :
    canonicalSha256 tools (.obj (without name (writtenObj tools.jcsInt (sealed tools name fields)))) =
      canonicalSha256 tools (.obj fields) := by
  rw [without_sealed hname hn, ← written_obj]
  unfold canonicalSha256 DeltaTools.jcs
  rw [written_written tools.jcsInt_jcsInt]

end sealed

/-! ## events -/

/-- What an event of the delta was made of. -/
structure EvidenceSource where
  row : LocalTemporalJournalRow
  recordingId : Uuid
  specification : EvidenceSpecification

namespace EvidenceSource

def project (tools : DeltaTools) (binding : ClientEventBinding) (source : EvidenceSource) :
    ProjectedLocalEvidence :=
  evidenceOf tools binding source.row source.recordingId source.specification

def evidenceId (tools : DeltaTools) (source : EvidenceSource) : Uuid :=
  deterministicUuid tools
    (evidenceMaterial source.row.sourceEventId source.specification.signalKey)

/-- What the row was checked for. -/
structure Valid (source : EvidenceSource) : Prop where
  uuid : ∃ id, validUuid source.row.sourceEventId = some id
  hash : source.row.sourceRequestSha256.length = 32

end EvidenceSource

def evidenceKeys : List String :=
  ["schema_version", "evidence_id", "source_event_id", "owner_user_id", "server_profile_id",
    "device_id", "device_sequence", "server_sequence", "source_event_type", "signal_key",
    "derivation_key", "recording_id", "dimensions", "occurred_at_ms", "received_at_ms",
    "effective_at_ms", "time_classification", "origin_lane", "signed_strength", "quality_weight",
    "excluded_from_taste", "source_request_sha256"]

variable (tools) in
theorem keysOf_evidenceFields (binding : ClientEventBinding) (row : LocalTemporalJournalRow)
    (recordingId : Uuid) (specification : EvidenceSpecification) :
    keysOf (evidenceFields tools binding row recordingId specification) = evidenceKeys ∨
      keysOf (evidenceFields tools binding row recordingId specification) = evidenceKeys ++
        ["recommendation_request_id", "impression_event_id", "recommendation_source_rank"] := by
  unfold evidenceFields
  cases specification.causalAttribution with
  | none => exact Or.inl rfl
  | some causal => exact Or.inr rfl

variable (tools) in
theorem nodup_evidenceFields (binding : ClientEventBinding) (row : LocalTemporalJournalRow)
    (recordingId : Uuid) (specification : EvidenceSpecification) :
    (keysOf (evidenceFields tools binding row recordingId specification)).Nodup ∧
      "normalized_evidence_sha256" ∉
        keysOf (evidenceFields tools binding row recordingId specification) := by
  rcases keysOf_evidenceFields tools binding row recordingId specification with h | h
  · rw [h]
    decide
  · rw [h]
    decide

theorem validateEvent_ok {binding : ClientEventBinding} {source : EvidenceSource}
    (hvalid : source.Valid) {evidenceIds : List Uuid}
    (hnew : source.evidenceId tools ∉ evidenceIds) :
    validateEvent tools binding evidenceIds
      (written tools.jcsInt (.obj (source.project tools binding).document)) =
        .ok (evidenceIds ++ [source.evidenceId tools]) := by
  obtain ⟨hn, hname⟩ := nodup_evidenceFields tools binding source.row source.recordingId
    source.specification
  have hs : (keysOf (source.project tools binding).document).Nodup := nodup_sealed hname hn
  have hlookup : ∀ {key : String} {v : Json}, key ≠ "normalized_evidence_sha256" →
      (evidenceFields tools binding source.row source.recordingId
        source.specification).lookup key = some v →
      (source.project tools binding).document.lookup key = some v := fun hne h =>
    (lookup_sealed_of_ne hname hne).trans h
  obtain ⟨id, hid⟩ := hvalid.uuid
  have hidText : source.row.sourceEventId = id.text := by
    unfold validUuid at hid
    split at hid
    · cases hid
      rfl
    · cases hid
  rw [written_obj]
  refine bind_of_ok rfl ?_
  refine bind_of_ok (requiredHex_written hs (lookup_sealed_self hname hn)
    (sha256Hex_canonicalSha256 _)) ?_
  refine bind_of_ok (check_ok.mpr (not_not.mpr (canonicalSha256_without hname hn))) ?_
  refine bind_of_ok (requiredUuid_written hs (hlookup (by decide) rfl)) ?_
  refine bind_of_ok (check_ok.mpr (not_not.mpr rfl)) ?_
  refine bind_of_ok (requiredUuid_written hs (hlookup (by decide) rfl)) ?_
  refine bind_of_ok (check_ok.mpr (not_not.mpr rfl)) ?_
  refine bind_of_ok (requiredUuid_written hs (hlookup (by decide) rfl)) ?_
  refine bind_of_ok (check_ok.mpr (not_not.mpr rfl)) ?_
  refine bind_of_ok (check_ok.mpr (not_not.mpr ?_)) ?_
  · have hnull : (source.project tools binding).document.lookup "server_sequence" = some .null :=
      hlookup (by decide) rfl
    exact (lookup_writtenObj _ hs _).trans (congrArg (Option.map (written tools.jcsInt)) hnull)
  refine bind_of_ok (requiredString_written hs (hlookup (by decide) rfl)) ?_
  refine bind_of_ok (check_ok.mpr (not_not.mpr rfl)) ?_
  refine bind_of_ok (requiredUuid_written (u := source.evidenceId tools) hs
    (hlookup (by decide) rfl)) ?_
  refine bind_of_ok (check_ok.mpr hnew) ?_
  refine bind_of_ok (requiredUuid_written (u := id) hs (hlookup (by decide) ?_)) ?_
  · rw [← hidText]
    rfl
  refine bind_of_ok (requiredUuid_written hs (hlookup (by decide) rfl)) ?_
  refine bind_of_ok (requiredHex_written hs (hlookup (by decide) rfl)
    (sha256Hex_toHex hvalid.hash)) ?_
  rfl

theorem foldlM_validateEvent_ok {binding : ClientEventBinding} (sources : List EvidenceSource)
    (hvalid : ∀ source ∈ sources, source.Valid) {evidenceIds : List Uuid}
    (hn : (evidenceIds ++ sources.map (EvidenceSource.evidenceId tools)).Nodup) :
    (sources.map fun source => written tools.jcsInt
      (.obj (source.project tools binding).document)).foldlM (validateEvent tools binding)
        evidenceIds = .ok (evidenceIds ++ sources.map (EvidenceSource.evidenceId tools)) := by
  induction sources generalizing evidenceIds with
  | nil =>
    rw [List.map_nil, List.map_nil, List.append_nil]
    rfl
  | cons source sources ih =>
    rw [List.map_cons, List.append_cons] at hn
    have hnew : source.evidenceId tools ∉ evidenceIds := by
      have hpart := hn.sublist (List.sublist_append_left _ _)
      rw [List.nodup_append] at hpart
      exact fun hmem => hpart.2.2 _ hmem _ List.mem_cons_self rfl
    rw [List.map_cons, List.foldlM_cons, List.map_cons, List.append_cons]
    refine bind_of_ok (validateEvent_ok (hvalid source List.mem_cons_self) hnew) ?_
    exact ih (fun other ho => hvalid other (List.mem_cons_of_mem _ ho)) hn

theorem validateEvents_ok {binding : ClientEventBinding} {sources : List EvidenceSource}
    (hvalid : ∀ source ∈ sources, source.Valid) (hlength : sources.length ≤ maxLocalEvents)
    (hn : (sources.map (EvidenceSource.evidenceId tools)).Nodup) :
    validateEvents tools (sources.map fun source => written tools.jcsInt
      (.obj (source.project tools binding).document)) binding = .ok () := by
  refine bind_of_ok (check_ok.mpr ?_) (bind_of_ok (foldlM_validateEvent_ok sources hvalid hn) rfl)
  rw [List.length_map]
  exact not_lt.mpr hlength

/-! ## adjustments -/

/-- What the decoder asks of an adjustment. -/
structure Adjusts (tools : DeltaTools) (binding : ClientEventBinding) (requestId : Uuid)
    (parentPairs : List (Uuid × Int)) (adjustment : OfflineTemporalAdjustment) : Prop where
  rank : 1 ≤ adjustment.sourceRank ∧ adjustment.sourceRank ≤ 1000
  position : 1 ≤ adjustment.displayPosition ∧ adjustment.displayPosition ≤ 1000
  bounded : |adjustment.boundedDelta| ≤ 1
  parent : adjustment.pair ∈ parentPairs
  key : adjustment.impressionKeySha256 =
    impressionKey tools binding requestId adjustment.recordingId adjustment.sourceRank
  impression : adjustment.impressionEventId =
    deterministicUuid tools (impressionMaterial adjustment.impressionKeySha256)

theorem toInt_small {i : Int} (h : 1 ≤ i ∧ i ≤ 1000) : toInt i = i := by
  unfold toInt
  rw [Int.bmod_def]
  omega

theorem decodeAdjustment_ok {binding : ClientEventBinding} {requestId : Uuid}
    {parentPairs : List (Uuid × Int)} {adjustment : OfflineTemporalAdjustment}
    (h : Adjusts tools binding requestId parentPairs adjustment) :
    decodeAdjustment tools binding requestId parentPairs
      (written tools.jcsInt (.obj (adjustmentFields adjustment))) = .ok adjustment := by
  have hkeys : keysOf (adjustmentFields adjustment) = adjustmentKeys := rfl
  have hn : (keysOf (adjustmentFields adjustment)).Nodup := by
    rw [hkeys]
    decide
  have hsafe : ∀ {i : Int}, 1 ≤ i ∧ i ≤ 1000 → tools.jcsInt i = i := fun hi =>
    tools.jcsInt_safe _ (abs_le.mpr ⟨by omega, by omega⟩)
  have hkey : (adjustmentFields adjustment).lookup "impression_key_sha256" =
      some (.str adjustment.impressionKeySha256) := rfl
  obtain ⟨hlow, hhigh⟩ := abs_le.mp h.bounded
  rw [written_obj]
  refine bind_of_ok rfl ?_
  refine bind_of_ok (check_ok.mpr (not_not.mpr (sameKeys_writtenObj _ hkeys))) ?_
  refine bind_of_ok (requiredBoolean_written hn rfl) ?_
  refine bind_of_ok (check_ok.mpr (not_not.mpr rfl)) ?_
  refine bind_of_ok (requiredUuid_written (u := adjustment.recordingId) hn rfl) ?_
  refine bind_of_ok (requiredLong_written (i := adjustment.sourceRank) hn rfl (hsafe h.rank)
    (by have := h.rank; omega)) ?_
  refine bind_of_ok (requiredLong_written (i := adjustment.displayPosition) hn rfl
    (hsafe h.position) (by have := h.position; omega)) ?_
  refine bind_of_ok (requiredDouble_written (q := adjustment.boundedDelta) hn rfl h.bounded) ?_
  refine bind_of_ok (requiredUuid_written (u := adjustment.impressionEventId) hn rfl) ?_
  refine bind_of_ok (requiredHex_written hn hkey ?_) ?_
  · rw [h.key]
    exact sha256Hex_canonicalSha256 _
  rw [toInt_small h.rank, toInt_small h.position]
  refine bind_of_ok (check_ok.mpr ?_) rfl
  rintro (hb | hb | hb | hb | hb | hb)
  · exact hb h.rank
  · exact hb h.position
  · exact hb ⟨hlow, hhigh⟩
  · exact hb h.parent
  · exact hb h.key
  · exact hb h.impression

end

end AutPlay.Offline
