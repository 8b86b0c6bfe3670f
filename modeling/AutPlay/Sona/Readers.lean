import AutPlay.Sona.Codec

/-!
# What the Sona-Lite codec reads

* `historyEvent_ok`, `candidate_ok`, `generated_ok`, `ranked_ok`     the fields of what is accepted;
* `historyEvent_wired`, …       what is written and parsed back is read as it was;
* `requestFromEnvelope_ok`, `outputFromEnvelope_ok`     the fields of an accepted envelope.
-/

set_option linter.unusedSectionVars false

namespace AutPlay.Sona

open AutPlay.Sync (Uuid Json Payload)
open Result

/-! ## accessors -/

section
variable {tools : CodecTools} {value : Payload} {key : String}

theorem exactKeys_ok {expected : List String} {label : String} :
    exactKeys value expected label = .ok () ↔ ∀ key, key ∈ keysOf value ↔ key ∈ expected := by
  unfold exactKeys
  constructor
  · intro h
    split at h
    next hkeys => exact fun key => ⟨hkeys.1 key, hkeys.2 key⟩
    next => cases h
  · intro h
    rw [if_pos ⟨fun key => (h key).mp, fun key => (h key).mpr⟩]

theorem mapping_ok {fields : Payload} :
    mapping value key = .ok fields ↔ value.lookup key = some (.obj fields) := by
  unfold mapping
  split
  next found h => rw [h]; simp
  next h =>
    constructor
    · intro hc
      cases hc
    · intro hc
      exact absurd hc (h fields)

theorem asMapping_ok {item : Json} {fields : Payload} :
    asMapping item = .ok fields ↔ item = .obj fields := by
  cases item <;> simp [asMapping]

theorem sequence_ok {items : List Json} :
    sequence value key = .ok items ↔ value.lookup key = some (.arr items) := by
  unfold sequence
  split
  next found h => rw [h]; simp
  next h =>
    constructor
    · intro hc
      cases hc
    · intro hc
      exact absurd hc (h items)

theorem string_ok {s : String} : string value key = .ok s ↔ value.lookup key = some (.str s) := by
  unfold string
  split
  next found h => rw [h]; simp
  next h =>
    constructor
    · intro hc
      cases hc
    · intro hc
      exact absurd hc (h s)

theorem integerItem_ok {label : String} {item : Json} {i : Int} :
    integerItem label item = .ok i ↔ item = .int i := by
  cases item <;> simp [integerItem]

theorem integer_ok {i : Int} : integer value key = .ok i ↔ value.lookup key = some (.int i) := by
  unfold integer
  rw [integerItem_ok]
  cases value.lookup key <;> simp

theorem numberItem_ok {label : String} {item : Json} {q : ℚ} :
    numberItem label item = .ok q ↔ (∃ i : Int, item = .int i ∧ (i : ℚ) = q) ∨ item = .float q := by
  cases item <;> simp [numberItem]

theorem number_ok {q : ℚ} :
    number value key = .ok q ↔ ∃ item, value.lookup key = some item ∧
      ((∃ i : Int, item = .int i ∧ (i : ℚ) = q) ∨ item = .float q) := by
  unfold number
  rw [numberItem_ok]
  cases value.lookup key <;> simp

/-- The identifier in a field, in whatever spelling. -/
def ReadsId (tools : CodecTools) (value : Payload) (key : String) (u : Uuid) : Prop :=
  ∃ s, value.lookup key = some (.str s) ∧ tools.uuid s = some u

theorem uuidField_ok {u : Uuid} : uuidField tools value key = .ok u ↔ ReadsId tools value key u := by
  unfold uuidField ReadsId
  split
  next s hs =>
    rw [string_ok] at hs
    rw [hs]
    split
    next u' hu' => simp [hu']
    next hnone => simp [hnone]
  next hs =>
    constructor
    · intro hc
      cases hc
    · rintro ⟨s, hlookup, -⟩
      rw [← string_ok] at hlookup
      rw [hlookup] at hs
      cases hs

theorem readsId_text {u : Uuid} (h : value.lookup key = some (.str u.text)) :
    ReadsId tools value key u := ⟨u.text, h, tools.uuid_text u⟩

theorem semanticId_ok {sid : SonaSemanticId} :
    semanticId value key = .ok sid ↔ value.lookup key = some (semanticIdDocument sid) := by
  unfold semanticId semanticIdDocument
  constructor
  · intro h
    obtain ⟨items, hitems, h⟩ := bind_eq_ok.mp h
    obtain ⟨levels, hlevels, h⟩ := bind_eq_ok.mp h
    split at h
    next level1 level2 level3 =>
      obtain ⟨rfl, rfl, rfl⟩ := SonaSemanticId.make_ok.mp h
      rw [sequence_ok.mp hitems]
      have hall := mapM_forall₂ hlevels
      obtain _ | ⟨h1, _ | ⟨h2, _ | ⟨h3, hnil⟩⟩⟩ := hall
      cases hnil
      rw [integerItem_ok.mp h1, integerItem_ok.mp h2, integerItem_ok.mp h3]
    next => cases h
  · intro h
    refine bind_eq_ok.mpr ⟨_, sequence_ok.mpr h, ?_⟩
    exact SonaSemanticId.make_ok.mpr ⟨rfl, rfl, rfl⟩

end

/-! ## what the readers accept -/

section
variable {tools : CodecTools} {value : Payload}

theorem historyEvent_ok {event : SonaHistoryEvent} :
    historyEvent tools value = .ok event ↔
      (∀ key, key ∈ keysOf value ↔ key ∈ eventKeys) ∧
      ReadsId tools value "evidence_id" event.evidenceId ∧
      ReadsId tools value "recording_id" event.recordingId ∧
      value.lookup "semantic_id" = some (semanticIdDocument event.semanticId) ∧
      value.lookup "action" = some (.int event.action.code) ∧
      value.lookup "origin" = some (.int event.origin.code) ∧
      value.lookup "age_bucket" = some (.int event.ageBucket) ∧
      value.lookup "effective_at_ms" = some (.int event.effectiveAtMs) ∧
      value.lookup "server_sequence" = some (.int event.serverSequence) := by
  unfold historyEvent
  constructor
  · intro h
    obtain ⟨_, hkeys, h⟩ := bind_eq_ok.mp h
    obtain ⟨evidenceId, hevidence, h⟩ := bind_eq_ok.mp h
    obtain ⟨recordingId, hrecording, h⟩ := bind_eq_ok.mp h
    obtain ⟨sid, hsid, h⟩ := bind_eq_ok.mp h
    obtain ⟨code, hcode, h⟩ := bind_eq_ok.mp h
    obtain ⟨action, haction, h⟩ := bind_eq_ok.mp h
    obtain ⟨code', hcode', h⟩ := bind_eq_ok.mp h
    obtain ⟨origin, horigin, h⟩ := bind_eq_ok.mp h
    obtain ⟨ageBucket, hage, h⟩ := bind_eq_ok.mp h
    obtain ⟨effectiveAtMs, heffective, h⟩ := bind_eq_ok.mp h
    obtain ⟨serverSequence, hsequence, h⟩ := bind_eq_ok.mp h
    obtain ⟨rfl, rfl, rfl, rfl, rfl, rfl, rfl, rfl⟩ := SonaHistoryEvent.make_ok h
    refine ⟨exactKeys_ok.mp hkeys, uuidField_ok.mp hevidence, uuidField_ok.mp hrecording,
      semanticId_ok.mp hsid, ?_, ?_, integer_ok.mp hage, integer_ok.mp heffective,
      integer_ok.mp hsequence⟩
    · rw [SonaAction.code_of_ofCode haction]
      exact integer_ok.mp hcode
    · rw [SonaOrigin.code_of_ofCode horigin]
      exact integer_ok.mp hcode'
  · rintro ⟨hkeys, hevidence, hrecording, hsid, haction, horigin, hage, heffective, hsequence⟩
    refine bind_eq_ok.mpr ⟨_, exactKeys_ok.mpr hkeys, ?_⟩
    refine bind_eq_ok.mpr ⟨_, uuidField_ok.mpr hevidence, ?_⟩
    refine bind_eq_ok.mpr ⟨_, uuidField_ok.mpr hrecording, ?_⟩
    refine bind_eq_ok.mpr ⟨_, semanticId_ok.mpr hsid, ?_⟩
    refine bind_eq_ok.mpr ⟨_, integer_ok.mpr haction, ?_⟩
    refine bind_eq_ok.mpr ⟨_, SonaAction.ofCode_code _, ?_⟩
    refine bind_eq_ok.mpr ⟨_, integer_ok.mpr horigin, ?_⟩
    refine bind_eq_ok.mpr ⟨_, SonaOrigin.ofCode_code _, ?_⟩
    refine bind_eq_ok.mpr ⟨_, integer_ok.mpr hage, ?_⟩
    refine bind_eq_ok.mpr ⟨_, integer_ok.mpr heffective, ?_⟩
    refine bind_eq_ok.mpr ⟨_, integer_ok.mpr hsequence, ?_⟩
    exact event.make_self

theorem candidate_ok {c : SonaCandidate} :
    candidate tools value = .ok c ↔
      (∀ key, key ∈ keysOf value ↔ key ∈ candidateKeys) ∧
      ReadsId tools value "recording_id" c.recordingId ∧
      value.lookup "semantic_id" = some (semanticIdDocument c.semanticId) := by
  unfold candidate
  constructor
  · intro h
    obtain ⟨_, hkeys, h⟩ := bind_eq_ok.mp h
    obtain ⟨recordingId, hrecording, h⟩ := bind_eq_ok.mp h
    obtain ⟨sid, hsid, h⟩ := bind_eq_ok.mp h
    cases h
    exact ⟨exactKeys_ok.mp hkeys, uuidField_ok.mp hrecording, semanticId_ok.mp hsid⟩
  · rintro ⟨hkeys, hrecording, hsid⟩
    refine bind_eq_ok.mpr ⟨_, exactKeys_ok.mpr hkeys, ?_⟩
    refine bind_eq_ok.mpr ⟨_, uuidField_ok.mpr hrecording, ?_⟩
    exact bind_eq_ok.mpr ⟨_, semanticId_ok.mpr hsid, rfl⟩

theorem generated_ok {g : SonaGeneratedCandidate} :
    generated value = .ok g ↔
      (∀ key, key ∈ keysOf value ↔ key ∈ generatedKeys) ∧
      value.lookup "semantic_id" = some (semanticIdDocument g.semanticId) ∧
      number value "log_probability" = .ok g.logProbability := by
  unfold generated
  constructor
  · intro h
    obtain ⟨_, hkeys, h⟩ := bind_eq_ok.mp h
    obtain ⟨sid, hsid, h⟩ := bind_eq_ok.mp h
    obtain ⟨logProbability, hlog, h⟩ := bind_eq_ok.mp h
    cases h
    exact ⟨exactKeys_ok.mp hkeys, semanticId_ok.mp hsid, hlog⟩
  · rintro ⟨hkeys, hsid, hlog⟩
    refine bind_eq_ok.mpr ⟨_, exactKeys_ok.mpr hkeys, ?_⟩
    refine bind_eq_ok.mpr ⟨_, semanticId_ok.mpr hsid, ?_⟩
    exact bind_eq_ok.mpr ⟨_, hlog, rfl⟩

theorem ranked_ok {x : SonaRankedCandidate} :
    ranked tools value = .ok x ↔
      (∀ key, key ∈ keysOf value ↔ key ∈ rankedKeys) ∧
      (∃ items, value.lookup "head_scores" = some (.arr items) ∧
        items.mapM (numberItem "Sona ranking head score") = .ok x.headScores) ∧
      ReadsId tools value "recording_id" x.recordingId ∧
      number value "combined_score" = .ok x.combinedScore := by
  unfold ranked
  constructor
  · intro h
    obtain ⟨_, hkeys, h⟩ := bind_eq_ok.mp h
    obtain ⟨items, hitems, h⟩ := bind_eq_ok.mp h
    obtain ⟨scores, hscores, h⟩ := bind_eq_ok.mp h
    split at h
    next =>
      obtain ⟨recordingId, hrecording, h⟩ := bind_eq_ok.mp h
      obtain ⟨combinedScore, hcombined, h⟩ := bind_eq_ok.mp h
      cases h
      exact ⟨exactKeys_ok.mp hkeys, ⟨items, sequence_ok.mp hitems, hscores⟩,
        uuidField_ok.mp hrecording, hcombined⟩
    next => cases h
  · rintro ⟨hkeys, ⟨items, hitems, hscores⟩, hrecording, hcombined⟩
    refine bind_eq_ok.mpr ⟨_, exactKeys_ok.mpr hkeys, ?_⟩
    refine bind_eq_ok.mpr ⟨_, sequence_ok.mpr hitems, ?_⟩
    refine bind_eq_ok.mpr ⟨_, hscores, ?_⟩
    refine bind_eq_ok.mpr ⟨_, uuidField_ok.mpr hrecording, ?_⟩
    exact bind_eq_ok.mpr ⟨_, hcombined, rfl⟩

end

/-! ## items that are parsed back -/

/-- The fields of a parsed object. -/
def wired (fields : Payload) : Payload := sortFields (wireFields fields)

theorem wire_obj (fields : Payload) : wire (.obj fields) = .obj (wired fields) := by
  rw [wire, wired]

theorem wire_arr (items : List Json) : wire (.arr items) = .arr (items.map wire) := by
  rw [wire, wireItems_eq]

section
variable {tools : CodecTools}

theorem wired_lookup {fields : Payload} {keys : List String} (hn : keys.Nodup)
    (hkeys : keysOf fields = keys) {key : String} {item : Json} (h : fields.lookup key = some item) :
    (wired fields).lookup key = some (wire item) := by
  unfold wired
  rw [lookup_wire (hkeys ▸ hn), h]
  rfl

/-- What holds no float is parsed back as it was. -/
theorem wired_same {fields : Payload} {keys : List String} (hn : keys.Nodup)
    (hkeys : keysOf fields = keys) {key : String} {item : Json} (h : fields.lookup key = some item)
    (hwire : wire item = item) : (wired fields).lookup key = some item := by
  rw [wired_lookup hn hkeys h, hwire]

theorem wired_keys {fields : Payload} {keys : List String} (hkeys : keysOf fields = keys)
    (key : String) : key ∈ keysOf (wired fields) ↔ key ∈ keys := by
  unfold wired
  rw [keysOf_sortFields, wireFields_eq, keysOf_map, hkeys]

theorem eventKeys_nodup : eventKeys.Nodup := by decide

theorem candidateKeys_nodup : candidateKeys.Nodup := by decide

theorem generatedKeys_nodup : generatedKeys.Nodup := by decide

theorem rankedKeys_nodup : rankedKeys.Nodup := by decide

theorem requestKeys_nodup : requestKeys.Nodup := by decide

theorem outputKeys_nodup : outputKeys.Nodup := by decide

theorem historyEvent_wired (event : SonaHistoryEvent) :
    historyEvent tools (wired (historyEventFields event)) = .ok event := by
  have hfield {key : String} {item : Json} (h : (historyEventFields event).lookup key = some item)
      (hwire : wire item = item) : (wired (historyEventFields event)).lookup key = some item :=
    wired_same eventKeys_nodup rfl h hwire
  exact historyEvent_ok.mpr ⟨wired_keys rfl, readsId_text (hfield rfl rfl),
    readsId_text (hfield rfl rfl), hfield rfl rfl, hfield rfl rfl, hfield rfl rfl, hfield rfl rfl,
    hfield rfl rfl, hfield rfl rfl⟩

theorem candidate_wired (c : SonaCandidate) : candidate tools (wired (candidateFields c)) = .ok c := by
  have hfield {key : String} {item : Json} (h : (candidateFields c).lookup key = some item)
      (hwire : wire item = item) : (wired (candidateFields c)).lookup key = some item :=
    wired_same candidateKeys_nodup rfl h hwire
  exact candidate_ok.mpr ⟨wired_keys rfl, readsId_text (hfield rfl rfl), hfield rfl rfl⟩

/-- The text of a float is read back as its value. -/
theorem numberItem_wire (label : String) (q : ℚ) : numberItem label (wire (.float q)) = .ok q := by
  rw [numberItem_ok, wire]
  split
  next h => exact .inl ⟨q.num, rfl, Rat.den_eq_one_iff q |>.mp h.1⟩
  next => exact .inr rfl

theorem number_wired {fields : Payload} {keys : List String} (hn : keys.Nodup)
    (hkeys : keysOf fields = keys) {key : String} {q : ℚ} (h : fields.lookup key = some (.float q)) :
    number (wired fields) key = .ok q := by
  unfold number
  rw [wired_lookup hn hkeys h]
  exact numberItem_wire _ q

theorem generated_wired (g : SonaGeneratedCandidate) : generated (wired (generatedFields g)) = .ok g :=
  generated_ok.mpr ⟨wired_keys rfl, wired_same generatedKeys_nodup rfl rfl rfl,
    number_wired generatedKeys_nodup rfl rfl⟩

theorem ranked_wired (x : SonaRankedCandidate) : ranked tools (wired (rankedFields x)) = .ok x := by
  refine ranked_ok.mpr ⟨wired_keys rfl, ⟨(x.headScores.map .float).map wire, ?_, ?_⟩,
    readsId_text (wired_same rankedKeys_nodup rfl rfl rfl), number_wired rankedKeys_nodup rfl rfl⟩
  · rw [← wire_arr]
    exact wired_lookup rankedKeys_nodup rfl rfl
  · rw [List.map_map]
    exact mapM_map_eq_ok fun q _ => numberItem_wire _ q

/-! ## requests that are parsed back -/

theorem requestFromEnvelope_ok {value : Payload} {r : SonaInferenceRequest} :
    requestFromEnvelope tools value = .ok r ↔
      (∀ key, key ∈ keysOf value ↔ key ∈ envelopeKeys) ∧ ∃ document,
        value.lookup "request" = some (.obj document) ∧
        value.lookup "request_sha256" = some (.str r.requestSha256) ∧
        (∀ key, key ∈ keysOf document ↔ key ∈ requestKeys) ∧
        document.lookup "schema_version" = some (.int 1) ∧
        document.lookup "architecture" = some (.str "SONA_LITE_SHARED_ENCODER_V1") ∧
        digest tools (.obj document) = .ok r.requestSha256 ∧
        (∃ items, document.lookup "history" = some (.arr items) ∧
          (items.mapM fun item => do historyEvent tools (← asMapping item)) = .ok r.history) ∧
        (∃ items, document.lookup "candidates" = some (.arr items) ∧
          (items.mapM fun item => do candidate tools (← asMapping item)) = .ok r.candidates) ∧
        ReadsId tools document "owner_user_id" r.ownerUserId ∧
        ReadsId tools document "temporal_snapshot_id" r.temporalSnapshotId ∧
        ReadsId tools document "baseline_snapshot_id" r.baselineSnapshotId ∧
        document.lookup "cutoff_at_ms" = some (.int r.cutoffAtMs) ∧
        document.lookup "interaction_watermark" = some (.int r.interactionWatermark) ∧
        document.lookup "tokenizer_sha256" = some (.str r.tokenizerSha256) ∧
        document.lookup "model_manifest_sha256" = some (.str r.modelManifestSha256) ∧
        document.lookup "seed" = some (.int r.seed) := by
  unfold requestFromEnvelope
  constructor
  · intro h
    obtain ⟨_, henvelope, h⟩ := bind_eq_ok.mp h
    obtain ⟨document, hdocument, h⟩ := bind_eq_ok.mp h
    obtain ⟨declared, hdeclared, h⟩ := bind_eq_ok.mp h
    obtain ⟨_, hkeys, h⟩ := bind_eq_ok.mp h
    obtain ⟨schema, hschema, h⟩ := bind_eq_ok.mp h
    split at h
    · cases h
    next hone =>
    obtain ⟨architecture, harchitecture, h⟩ := bind_eq_ok.mp h
    split at h
    · cases h
    next hname =>
    obtain ⟨hash, hhash, h⟩ := bind_eq_ok.mp h
    split at h
    · cases h
    next hmatch =>
    obtain ⟨items, hitems, h⟩ := bind_eq_ok.mp h
    obtain ⟨history, hhistory, h⟩ := bind_eq_ok.mp h
    obtain ⟨items', hitems', h⟩ := bind_eq_ok.mp h
    obtain ⟨candidates, hcandidates, h⟩ := bind_eq_ok.mp h
    obtain ⟨owner, howner, h⟩ := bind_eq_ok.mp h
    obtain ⟨temporal, htemporal, h⟩ := bind_eq_ok.mp h
    obtain ⟨baseline, hbaseline, h⟩ := bind_eq_ok.mp h
    obtain ⟨cutoff, hcutoff, h⟩ := bind_eq_ok.mp h
    obtain ⟨watermark, hwatermark, h⟩ := bind_eq_ok.mp h
    obtain ⟨tokenizer, htokenizer, h⟩ := bind_eq_ok.mp h
    obtain ⟨manifest, hmanifest, h⟩ := bind_eq_ok.mp h
    obtain ⟨seed, hseed, h⟩ := bind_eq_ok.mp h
    obtain ⟨rfl, rfl, rfl, rfl, rfl, rfl, rfl, rfl, rfl, rfl, rfl⟩ := SonaInferenceRequest.make_ok h
    obtain rfl := not_not.mp hone
    obtain rfl := not_not.mp hname
    obtain rfl := not_not.mp hmatch
    exact ⟨exactKeys_ok.mp henvelope, document, mapping_ok.mp hdocument, string_ok.mp hdeclared,
      exactKeys_ok.mp hkeys, integer_ok.mp hschema, string_ok.mp harchitecture, hhash,
      ⟨items, sequence_ok.mp hitems, hhistory⟩, ⟨items', sequence_ok.mp hitems', hcandidates⟩,
      uuidField_ok.mp howner, uuidField_ok.mp htemporal, uuidField_ok.mp hbaseline,
      integer_ok.mp hcutoff, integer_ok.mp hwatermark, string_ok.mp htokenizer,
      string_ok.mp hmanifest, integer_ok.mp hseed⟩
  · rintro ⟨henvelope, document, hdocument, hdeclared, hkeys, hschema, harchitecture, hhash,
      ⟨items, hitems, hhistory⟩, ⟨items', hitems', hcandidates⟩, howner, htemporal, hbaseline, hcutoff,
      hwatermark, htokenizer, hmanifest, hseed⟩
    refine bind_eq_ok.mpr ⟨_, exactKeys_ok.mpr henvelope, ?_⟩
    refine bind_eq_ok.mpr ⟨_, mapping_ok.mpr hdocument, ?_⟩
    refine bind_eq_ok.mpr ⟨_, string_ok.mpr hdeclared, ?_⟩
    refine bind_eq_ok.mpr ⟨_, exactKeys_ok.mpr hkeys, ?_⟩
    refine bind_eq_ok.mpr ⟨_, integer_ok.mpr hschema, ?_⟩
    rw [if_neg (not_not.mpr rfl)]
    refine bind_eq_ok.mpr ⟨_, string_ok.mpr harchitecture, ?_⟩
    rw [if_neg (not_not.mpr rfl)]
    refine bind_eq_ok.mpr ⟨_, hhash, ?_⟩
    rw [if_neg (not_not.mpr rfl)]
    refine bind_eq_ok.mpr ⟨_, sequence_ok.mpr hitems, ?_⟩
    refine bind_eq_ok.mpr ⟨_, hhistory, ?_⟩
    refine bind_eq_ok.mpr ⟨_, sequence_ok.mpr hitems', ?_⟩
    refine bind_eq_ok.mpr ⟨_, hcandidates, ?_⟩
    refine bind_eq_ok.mpr ⟨_, uuidField_ok.mpr howner, ?_⟩
    refine bind_eq_ok.mpr ⟨_, uuidField_ok.mpr htemporal, ?_⟩
    refine bind_eq_ok.mpr ⟨_, uuidField_ok.mpr hbaseline, ?_⟩
    refine bind_eq_ok.mpr ⟨_, integer_ok.mpr hcutoff, ?_⟩
    refine bind_eq_ok.mpr ⟨_, integer_ok.mpr hwatermark, ?_⟩
    refine bind_eq_ok.mpr ⟨_, string_ok.mpr htokenizer, ?_⟩
    refine bind_eq_ok.mpr ⟨_, string_ok.mpr hmanifest, ?_⟩
    refine bind_eq_ok.mpr ⟨_, integer_ok.mpr hseed, ?_⟩
    exact r.make_self

/-! ## outputs that are parsed back -/

theorem outputFromEnvelope_ok {value : Payload} {o : SonaInferenceOutput} :
    outputFromEnvelope tools value = .ok o ↔
      (∀ key, key ∈ keysOf value ↔ key ∈ outputEnvelopeKeys) ∧ ∃ document hash,
        value.lookup "output" = some (.obj document) ∧
        value.lookup "output_sha256" = some (.str hash) ∧
        (∀ key, key ∈ keysOf document ↔ key ∈ outputKeys) ∧
        document.lookup "schema_version" = some (.int 1) ∧
        digest tools (.obj document) = .ok hash ∧
        (∃ items, document.lookup "generated" = some (.arr items) ∧
          (items.mapM fun item => do generated (← asMapping item)) = .ok o.generated) ∧
        (∃ items, document.lookup "ranked" = some (.arr items) ∧
          (items.mapM fun item => do ranked tools (← asMapping item)) = .ok o.ranked) ∧
        document.lookup "request_sha256" = some (.str o.requestSha256) := by
  unfold outputFromEnvelope
  constructor
  · intro h
    obtain ⟨_, henvelope, h⟩ := bind_eq_ok.mp h
    obtain ⟨document, hdocument, h⟩ := bind_eq_ok.mp h
    obtain ⟨declared, hdeclared, h⟩ := bind_eq_ok.mp h
    obtain ⟨_, hkeys, h⟩ := bind_eq_ok.mp h
    obtain ⟨schema, hschema, h⟩ := bind_eq_ok.mp h
    split at h
    · cases h
    next hone =>
    obtain ⟨hash, hhash, h⟩ := bind_eq_ok.mp h
    split at h
    · cases h
    next hmatch =>
    obtain ⟨items, hitems, h⟩ := bind_eq_ok.mp h
    obtain ⟨generated, hgenerated, h⟩ := bind_eq_ok.mp h
    obtain ⟨items', hitems', h⟩ := bind_eq_ok.mp h
    obtain ⟨ranked, hranked, h⟩ := bind_eq_ok.mp h
    obtain ⟨requestSha256, hrequest, h⟩ := bind_eq_ok.mp h
    obtain ⟨rfl, rfl, rfl⟩ := SonaInferenceOutput.make_ok h
    obtain rfl := not_not.mp hone
    obtain rfl := not_not.mp hmatch
    exact ⟨exactKeys_ok.mp henvelope, document, hash, mapping_ok.mp hdocument, string_ok.mp hdeclared,
      exactKeys_ok.mp hkeys, integer_ok.mp hschema, hhash, ⟨items, sequence_ok.mp hitems, hgenerated⟩,
      ⟨items', sequence_ok.mp hitems', hranked⟩, string_ok.mp hrequest⟩
  · rintro ⟨henvelope, document, hash, hdocument, hdeclared, hkeys, hschema, hhash,
      ⟨items, hitems, hgenerated⟩, ⟨items', hitems', hranked⟩, hrequest⟩
    refine bind_eq_ok.mpr ⟨_, exactKeys_ok.mpr henvelope, ?_⟩
    refine bind_eq_ok.mpr ⟨_, mapping_ok.mpr hdocument, ?_⟩
    refine bind_eq_ok.mpr ⟨_, string_ok.mpr hdeclared, ?_⟩
    refine bind_eq_ok.mpr ⟨_, exactKeys_ok.mpr hkeys, ?_⟩
    refine bind_eq_ok.mpr ⟨_, integer_ok.mpr hschema, ?_⟩
    rw [if_neg (not_not.mpr rfl)]
    refine bind_eq_ok.mpr ⟨_, hhash, ?_⟩
    rw [if_neg (not_not.mpr rfl)]
    refine bind_eq_ok.mpr ⟨_, sequence_ok.mpr hitems, ?_⟩
    refine bind_eq_ok.mpr ⟨_, hgenerated, ?_⟩
    refine bind_eq_ok.mpr ⟨_, sequence_ok.mpr hitems', ?_⟩
    refine bind_eq_ok.mpr ⟨_, hranked, ?_⟩
    refine bind_eq_ok.mpr ⟨_, string_ok.mpr hrequest, ?_⟩
    exact o.make_self

end

end AutPlay.Sona
