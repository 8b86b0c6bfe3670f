import AutPlay.Sona.Readers

/-!
# The codec of Sona-Lite

* `request_round_trip`, `output_round_trip_iff`     what is parsed back from an envelope;
* `request_reencoded_iff`, `output_reencoded_iff`   what an accepted envelope is written as;
* `codec_laws`                                      all of them.
-/

set_option linter.unusedSectionVars false

namespace AutPlay.Sona

open AutPlay.Sync (Uuid Json Payload)
open Result

section
variable {tools : CodecTools}

/-! ## hashes of what is parsed back -/

theorem inDomain_obj (fields : Payload) :
    inDomain (.obj fields) = fields.all fun x => inDomain x.2 := by
  rw [inDomain, inDomainFields_eq]

theorem inDomain_arr (items : List Json) : inDomain (.arr items) = items.all inDomain := by
  rw [inDomain, inDomainItems_eq]

theorem inDomain_wire_fields {fields : Payload}
    (h : ∀ x ∈ fields, inDomain (wire x.2) = inDomain x.2) :
    inDomain (wire (.obj fields)) = inDomain (.obj fields) := by
  rw [inDomain_wire_obj, inDomain_obj, Bool.eq_iff_iff, List.all_eq_true, List.all_eq_true]
  exact forall₂_congr fun x hx => by rw [h x hx]

theorem inDomain_wire_items {items : List Json}
    (h : ∀ item ∈ items, inDomain (wire item) = inDomain item) :
    inDomain (wire (.arr items)) = inDomain (.arr items) := by
  rw [inDomain_wire_arr, inDomain_arr, Bool.eq_iff_iff, List.all_eq_true, List.all_eq_true]
  exact forall₂_congr fun item hitem => by rw [h item hitem]

theorem digest_wired {fields : Payload}
    (h : inDomain (wire (.obj fields)) = inDomain (.obj fields)) :
    digest tools (.obj (wired fields)) = digest tools (.obj fields) := by
  unfold digest
  rw [← wire_obj, h, same_wire]

theorem inDomain_wire_event (event : SonaHistoryEvent) :
    inDomain (wire (.obj (historyEventFields event))) = inDomain (.obj (historyEventFields event)) := by
  refine inDomain_wire_fields fun x hx => ?_
  simp only [historyEventFields, List.mem_cons, List.not_mem_nil, or_false] at hx
  rcases hx with rfl | rfl | rfl | rfl | rfl | rfl | rfl | rfl <;> rfl

theorem inDomain_wire_candidate (c : SonaCandidate) :
    inDomain (wire (.obj (candidateFields c))) = inDomain (.obj (candidateFields c)) := by
  refine inDomain_wire_fields fun x hx => ?_
  simp only [candidateFields, List.mem_cons, List.not_mem_nil, or_false] at hx
  rcases hx with rfl | rfl <;> rfl

theorem inDomain_wire_request (r : SonaInferenceRequest) :
    inDomain (wire (.obj (requestFields r))) = inDomain (.obj (requestFields r)) := by
  refine inDomain_wire_fields fun x hx => ?_
  simp only [requestFields, List.mem_cons, List.not_mem_nil, or_false] at hx
  rcases hx with rfl | rfl | rfl | rfl | rfl | rfl | rfl | rfl | rfl | rfl | rfl | rfl
  iterate 10 rfl
  · refine inDomain_wire_items fun item hitem => ?_
    obtain ⟨event, -, rfl⟩ := List.mem_map.mp hitem
    exact inDomain_wire_event event
  · refine inDomain_wire_items fun item hitem => ?_
    obtain ⟨c, -, rfl⟩ := List.mem_map.mp hitem
    exact inDomain_wire_candidate c

theorem envelopeKeys_nodup : envelopeKeys.Nodup := by decide

theorem outputEnvelopeKeys_nodup : outputEnvelopeKeys.Nodup := by decide

theorem requestEnvelope_ok {r : SonaInferenceRequest} {envelope : Payload} :
    requestEnvelope tools r = .ok envelope ↔
      digest tools (.obj (requestFields r)) = .ok r.requestSha256 ∧
        envelope = [("request", .obj (requestFields r)), ("request_sha256", .str r.requestSha256)] := by
  unfold requestEnvelope requestDocument
  constructor
  · intro h
    obtain ⟨document, hdocument, h⟩ := bind_eq_ok.mp h
    obtain ⟨hash, hhash, hdocument⟩ := bind_eq_ok.mp hdocument
    split at hdocument
    · cases hdocument
    next hmatch =>
      cases hdocument
      cases h
      obtain rfl := not_not.mp hmatch
      exact ⟨hhash, rfl⟩
  · rintro ⟨hhash, rfl⟩
    refine bind_eq_ok.mpr ⟨.obj (requestFields r), bind_eq_ok.mpr ⟨_, hhash, ?_⟩, rfl⟩
    rw [if_neg (not_not.mpr rfl)]

/-- A request is parsed back from its envelope. -/
theorem request_round_trip {r : SonaInferenceRequest}
    (h : digest tools (.obj (requestFields r)) = .ok r.requestSha256) :
    ∃ envelope parsed, requestEnvelope tools r = .ok envelope ∧ wire (.obj envelope) = .obj parsed ∧
      requestFromEnvelope tools parsed = .ok r := by
  refine ⟨_, _, requestEnvelope_ok.mpr ⟨h, rfl⟩, wire_obj _, ?_⟩
  have hfield {key : String} {item : Json} (hl : (requestFields r).lookup key = some item)
      (hwire : wire item = item) : (wired (requestFields r)).lookup key = some item :=
    wired_same requestKeys_nodup rfl hl hwire
  refine requestFromEnvelope_ok.mpr ⟨wired_keys rfl, wired (requestFields r), ?_,
    wired_same envelopeKeys_nodup rfl rfl rfl, wired_keys rfl, hfield rfl rfl, hfield rfl rfl, ?_,
    ⟨(r.history.map fun event => .obj (historyEventFields event)).map wire, ?_, ?_⟩,
    ⟨(r.candidates.map fun c => .obj (candidateFields c)).map wire, ?_, ?_⟩,
    readsId_text (hfield rfl rfl), readsId_text (hfield rfl rfl), readsId_text (hfield rfl rfl),
    hfield rfl rfl, hfield rfl rfl, hfield rfl rfl, hfield rfl rfl, hfield rfl rfl⟩
  · rw [← wire_obj]
    exact wired_lookup envelopeKeys_nodup rfl rfl
  · rw [digest_wired (inDomain_wire_request r), h]
  · rw [← wire_arr]
    exact wired_lookup requestKeys_nodup rfl rfl
  · rw [List.map_map]
    refine mapM_map_eq_ok fun event _ => ?_
    rw [Function.comp_apply, wire_obj]
    exact bind_eq_ok.mpr ⟨_, asMapping_ok.mpr rfl, historyEvent_wired event⟩
  · rw [← wire_arr]
    exact wired_lookup requestKeys_nodup rfl rfl
  · rw [List.map_map]
    refine mapM_map_eq_ok fun c _ => ?_
    rw [Function.comp_apply, wire_obj]
    exact bind_eq_ok.mpr ⟨_, asMapping_ok.mpr rfl, candidate_wired c⟩

/-! ## outputs -/

/-- The text of every float of an output is read back as a number that may be written again. -/
def OutputTransportable (o : SonaInferenceOutput) : Prop :=
  (∀ g ∈ o.generated, Transportable g.logProbability) ∧
    ∀ x ∈ o.ranked, (∀ q ∈ x.headScores, Transportable q) ∧ Transportable x.combinedScore

theorem inDomain_level {i : Int} (h : inCodebook i) : inDomain (.int i) = true := by
  unfold inCodebook codebookSize at h
  rw [inDomain, decide_eq_true_iff]
  unfold maxInt
  omega

theorem inDomain_semanticId (sid : SonaSemanticId) : inDomain (semanticIdDocument sid) = true := by
  unfold semanticIdDocument
  rw [inDomain_arr, List.all_eq_true]
  intro item hitem
  simp only [List.mem_cons, List.not_mem_nil, or_false] at hitem
  rcases hitem with rfl | rfl | rfl
  · exact inDomain_level sid.bounded.1
  · exact inDomain_level sid.bounded.2.1
  · exact inDomain_level sid.bounded.2.2

theorem inDomain_outputFields (o : SonaInferenceOutput) : inDomain (.obj (outputFields o)) = true := by
  rw [inDomain_obj, List.all_eq_true]
  intro x hx
  simp only [outputFields, List.mem_cons, List.not_mem_nil, or_false] at hx
  rcases hx with rfl | rfl | rfl | rfl
  · exact inDomain_level (by decide)
  · rfl
  · rw [inDomain_arr, List.all_eq_true]
    intro item hitem
    obtain ⟨g, -, rfl⟩ := List.mem_map.mp hitem
    rw [inDomain_obj, List.all_eq_true]
    intro y hy
    simp only [generatedFields, List.mem_cons, List.not_mem_nil, or_false] at hy
    rcases hy with rfl | rfl
    · exact inDomain_semanticId g.semanticId
    · rfl
  · rw [inDomain_arr, List.all_eq_true]
    intro item hitem
    obtain ⟨x, -, rfl⟩ := List.mem_map.mp hitem
    rfl

theorem inDomain_wire_generated (g : SonaGeneratedCandidate) :
    inDomain (wire (.obj (generatedFields g))) = true ↔ Transportable g.logProbability := by
  rw [inDomain_wire_obj, ← inDomain_wire_float]
  show (inDomain (semanticIdDocument g.semanticId) && (inDomain _ && true)) = true ↔ _
  rw [inDomain_semanticId, Bool.true_and, Bool.and_true]

theorem inDomain_wire_ranked (x : SonaRankedCandidate) :
    inDomain (wire (.obj (rankedFields x))) = true ↔
      (∀ q ∈ x.headScores, Transportable q) ∧ Transportable x.combinedScore := by
  rw [inDomain_wire_obj, ← inDomain_wire_float]
  show (true && (inDomain (wire (.arr (x.headScores.map .float))) && (inDomain _ && true))) = true ↔ _
  rw [Bool.true_and, Bool.and_true, Bool.and_eq_true, inDomain_wire_arr, List.all_map, List.all_eq_true]
  exact and_congr_left fun _ => forall₂_congr fun q _ => inDomain_wire_float q

theorem inDomain_wire_output (o : SonaInferenceOutput) :
    inDomain (wire (.obj (outputFields o))) = true ↔ OutputTransportable o := by
  rw [inDomain_wire_obj]
  show (true && (true && (inDomain (wire (.arr _)) && (inDomain (wire (.arr _)) && true)))) = true ↔ _
  rw [Bool.true_and, Bool.true_and, Bool.and_true, Bool.and_eq_true, inDomain_wire_arr,
    inDomain_wire_arr, List.all_map, List.all_map, List.all_eq_true, List.all_eq_true]
  exact and_congr (forall₂_congr fun g _ => inDomain_wire_generated g)
    (forall₂_congr fun x _ => inDomain_wire_ranked x)

theorem outputEnvelope_ok (o : SonaInferenceOutput) : ∃ hash,
    digest tools (.obj (outputFields o)) = .ok hash ∧
      outputEnvelope tools o = .ok [("output", .obj (outputFields o)), ("output_sha256", .str hash)] := by
  have hhash : digest tools (.obj (outputFields o)) =
      .ok (tools.sha256 (tools.text (canonical (.obj (outputFields o))))) := by
    unfold digest
    rw [inDomain_outputFields, if_pos rfl]
  refine ⟨_, hhash, ?_⟩
  unfold outputEnvelope
  exact bind_eq_ok.mpr ⟨_, hhash, rfl⟩

/-- An output is parsed back from its envelope exactly when its floats are. -/
theorem output_round_trip_iff (o : SonaInferenceOutput) :
    (∃ envelope parsed, outputEnvelope tools o = .ok envelope ∧ wire (.obj envelope) = .obj parsed ∧
      outputFromEnvelope tools parsed = .ok o) ↔ OutputTransportable o := by
  obtain ⟨hash, hhash, henvelope⟩ := @outputEnvelope_ok tools o
  have hdocument : (wired [("output", .obj (outputFields o)), ("output_sha256", .str hash)]).lookup
      "output" = some (.obj (wired (outputFields o))) := by
    rw [← wire_obj]
    exact wired_lookup outputEnvelopeKeys_nodup rfl rfl
  rw [← inDomain_wire_output]
  constructor
  · rintro ⟨envelope, parsed, hok, hparsed, hread⟩
    rw [henvelope] at hok
    cases hok
    rw [wire_obj, Json.obj.injEq] at hparsed
    subst hparsed
    obtain ⟨-, document, hash', hlookup, -, -, -, hdigest, -⟩ := outputFromEnvelope_ok.mp hread
    rw [hdocument, Option.some.injEq, Json.obj.injEq] at hlookup
    subst hlookup
    rw [← wire_obj] at hdigest
    unfold digest at hdigest
    split at hdigest
    next h => exact h
    next => cases hdigest
  · intro hdomain
    refine ⟨_, _, henvelope, wire_obj _, ?_⟩
    have hdigest : digest tools (.obj (wired (outputFields o))) = .ok hash := by
      rw [digest_wired (hdomain.trans (inDomain_outputFields o).symm), hhash]
    refine outputFromEnvelope_ok.mpr ⟨wired_keys rfl, wired (outputFields o), hash, hdocument,
      wired_same outputEnvelopeKeys_nodup rfl rfl rfl, wired_keys rfl,
      wired_same outputKeys_nodup rfl rfl rfl, hdigest,
      ⟨(o.generated.map fun g => .obj (generatedFields g)).map wire, ?_, ?_⟩,
      ⟨(o.ranked.map fun x => .obj (rankedFields x)).map wire, ?_, ?_⟩,
      wired_same outputKeys_nodup rfl rfl rfl⟩
    · rw [← wire_arr]
      exact wired_lookup outputKeys_nodup rfl rfl
    · rw [List.map_map]
      refine mapM_map_eq_ok fun g _ => ?_
      rw [Function.comp_apply, wire_obj]
      exact bind_eq_ok.mpr ⟨_, asMapping_ok.mpr rfl, generated_wired g⟩
    · rw [← wire_arr]
      exact wired_lookup outputKeys_nodup rfl rfl
    · rw [List.map_map]
      refine mapM_map_eq_ok fun x _ => ?_
      rw [Function.comp_apply, wire_obj]
      exact bind_eq_ok.mpr ⟨_, asMapping_ok.mpr rfl, ranked_wired x⟩

end

/-! ## parsed values -/

mutual

/-- A value that `json.loads` gives: an object has every key once. -/
def parsed : Json → Bool
  | .arr items => parsedItems items
  | .obj fields => decide (keysOf fields).Nodup && parsedFields fields
  | _ => true

def parsedItems : List Json → Bool
  | [] => true
  | x :: xs => parsed x && parsedItems xs

def parsedFields : List (String × Json) → Bool
  | [] => true
  | x :: xs => parsed x.2 && parsedFields xs

end

theorem parsedItems_eq (items : List Json) : parsedItems items = items.all parsed := by
  induction items with
  | nil => rfl
  | cons x xs ih => rw [parsedItems, ih, List.all_cons]

theorem parsedFields_eq (fields : Payload) : parsedFields fields = fields.all fun x => parsed x.2 := by
  induction fields with
  | nil => rfl
  | cons x xs ih => rw [parsedFields, ih, List.all_cons]

theorem mem_of_lookup {fields : Payload} {key : String} {item : Json}
    (h : fields.lookup key = some item) : (key, item) ∈ fields := by
  obtain ⟨l, l', rfl, -⟩ := List.lookup_eq_some_iff.mp h
  exact List.mem_append_right _ List.mem_cons_self

theorem nodup_of_parsed {fields : Payload} (h : parsed (.obj fields) = true) :
    (keysOf fields).Nodup := by
  rw [parsed, Bool.and_eq_true] at h
  exact of_decide_eq_true h.1

theorem parsed_of_lookup {fields : Payload} (h : parsed (.obj fields) = true) {key : String}
    {item : Json} (hl : fields.lookup key = some item) : parsed item = true := by
  rw [parsed, Bool.and_eq_true, parsedFields_eq, List.all_eq_true] at h
  exact h.2 _ (mem_of_lookup hl)

theorem parsed_of_mem {items : List Json} (h : parsed (.arr items) = true) {item : Json}
    (hmem : item ∈ items) : parsed item = true := by
  rw [parsed, parsedItems_eq, List.all_eq_true] at h
  exact h item hmem

/-! ## spellings of identifiers -/

/-- The identifier in a field is spelled as `str` prints it. -/
def CanonicalId (value : Payload) (key : String) : Prop :=
  ∃ u : Uuid, value.lookup key = some (.str u.text)

/-- The identifiers in some fields of an item. -/
def CanonicalIds (keys : List String) (item : Json) : Prop :=
  ∃ fields, item = .obj fields ∧ ∀ key ∈ keys, CanonicalId fields key

/-- The identifiers in the items of a field. -/
def CanonicalItems (value : Payload) (key : String) (keys : List String) : Prop :=
  ∃ items, value.lookup key = some (.arr items) ∧ ∀ item ∈ items, CanonicalIds keys item

/-- The identifiers of a request. -/
def RequestIdsCanonical (envelope : Payload) : Prop :=
  ∃ document, envelope.lookup "request" = some (.obj document) ∧
    CanonicalId document "owner_user_id" ∧ CanonicalId document "temporal_snapshot_id" ∧
    CanonicalId document "baseline_snapshot_id" ∧
    CanonicalItems document "history" ["evidence_id", "recording_id"] ∧
    CanonicalItems document "candidates" ["recording_id"]

/-- The identifiers of an output. -/
def OutputIdsCanonical (envelope : Payload) : Prop :=
  ∃ document, envelope.lookup "output" = some (.obj document) ∧
    CanonicalItems document "ranked" ["recording_id"]

section
variable {tools : CodecTools} {value : Payload}

theorem field_same {key : String} {item item' : Json} (h : value.lookup key = some item) :
    (∃ v, value.lookup key = some v ∧ Same v item') ↔ Same item item' := by
  rw [h]
  constructor
  · rintro ⟨v, hv, hsame⟩
    cases hv
    exact hsame
  · intro hsame
    exact ⟨item, rfl, hsame⟩

/-- A field that was read as an identifier is written as it was if it was spelled so. -/
theorem id_same {key : String} {u : Uuid} (h : ReadsId tools value key u) :
    (∃ v, value.lookup key = some v ∧ Same v (.str u.text)) ↔ CanonicalId value key := by
  obtain ⟨s, hs, hu⟩ := h
  rw [field_same hs]
  unfold CanonicalId
  rw [hs]
  constructor
  · intro hsame
    have heq : Json.str s = Json.str u.text := hsame
    exact ⟨u, congrArg some heq⟩
  · rintro ⟨u', hu'⟩
    have htext : s = u'.text := by
      cases hu'
      rfl
    rw [htext, tools.uuid_text] at hu
    cases hu
    rw [htext]
    rfl

theorem same_fields_iff {fields : Payload} {keys : List String} (hn : (keysOf value).Nodup)
    (hkn : keys.Nodup) (hfields : keysOf fields = keys) (hkeys : ∀ key, key ∈ keysOf value ↔ key ∈ keys) :
    Same (.obj value) (.obj fields) ↔ ∀ x ∈ fields, ∃ v, value.lookup x.1 = some v ∧ Same v x.2 := by
  subst hfields
  exact same_obj_iff hn hkn hkeys

theorem same_historyEvent {event : SonaHistoryEvent} (hn : (keysOf value).Nodup)
    (h : historyEvent tools value = .ok event) :
    Same (.obj value) (.obj (historyEventFields event)) ↔
      ∀ key ∈ ["evidence_id", "recording_id"], CanonicalId value key := by
  obtain ⟨hkeys, hevidence, hrecording, hsid, haction, horigin, hage, heffective, hsequence⟩ :=
    historyEvent_ok.mp h
  rw [same_fields_iff hn eventKeys_nodup rfl hkeys]
  constructor
  · intro hall key hkey
    simp only [List.mem_cons, List.not_mem_nil, or_false] at hkey
    rcases hkey with rfl | rfl
    · exact (id_same hevidence).mp (hall _ (mem_of_lookup rfl))
    · exact (id_same hrecording).mp (hall _ (mem_of_lookup rfl))
  · intro hids x hx
    simp only [historyEventFields, List.mem_cons, List.not_mem_nil, or_false] at hx
    rcases hx with rfl | rfl | rfl | rfl | rfl | rfl | rfl | rfl
    · exact (id_same hevidence).mpr (hids _ List.mem_cons_self)
    · exact (id_same hrecording).mpr (hids _ (List.mem_cons_of_mem _ List.mem_cons_self))
    · exact ⟨_, hsid, rfl⟩
    · exact ⟨_, haction, rfl⟩
    · exact ⟨_, horigin, rfl⟩
    · exact ⟨_, hage, rfl⟩
    · exact ⟨_, heffective, rfl⟩
    · exact ⟨_, hsequence, rfl⟩

theorem same_candidate {c : SonaCandidate} (hn : (keysOf value).Nodup)
    (h : candidate tools value = .ok c) :
    Same (.obj value) (.obj (candidateFields c)) ↔
      ∀ key ∈ ["recording_id"], CanonicalId value key := by
  obtain ⟨hkeys, hrecording, hsid⟩ := candidate_ok.mp h
  rw [same_fields_iff hn candidateKeys_nodup rfl hkeys]
  constructor
  · intro hall key hkey
    rw [List.mem_singleton.mp hkey]
    exact (id_same hrecording).mp (hall _ (mem_of_lookup rfl))
  · intro hids x hx
    simp only [candidateFields, List.mem_cons, List.not_mem_nil, or_false] at hx
    rcases hx with rfl | rfl
    · exact (id_same hrecording).mpr (hids _ List.mem_cons_self)
    · exact ⟨_, hsid, rfl⟩

theorem same_number {key : String} {q : ℚ} (h : number value key = .ok q) :
    ∃ v, value.lookup key = some v ∧ Same v (.float q) := by
  obtain ⟨item, hitem, ⟨i, rfl, rfl⟩ | rfl⟩ := number_ok.mp h
  · exact ⟨_, hitem, rfl⟩
  · exact ⟨_, hitem, rfl⟩

theorem same_generated {g : SonaGeneratedCandidate} (hn : (keysOf value).Nodup)
    (h : generated value = .ok g) : Same (.obj value) (.obj (generatedFields g)) := by
  obtain ⟨hkeys, hsid, hlog⟩ := generated_ok.mp h
  refine (same_fields_iff hn generatedKeys_nodup rfl hkeys).mpr fun x hx => ?_
  simp only [generatedFields, List.mem_cons, List.not_mem_nil, or_false] at hx
  rcases hx with rfl | rfl
  · exact ⟨_, hsid, rfl⟩
  · exact same_number hlog

theorem same_scores {label : String} {items : List Json} {scores : List ℚ}
    (h : items.mapM (numberItem label) = .ok scores) : Same (.arr items) (.arr (scores.map .float)) := by
  rw [same_arr_iff, List.map_map]
  refine (map_eq_of_mapM h fun item _ q hq => ?_).symm
  obtain ⟨i, rfl, rfl⟩ | rfl := numberItem_ok.mp hq <;> rfl

theorem same_ranked {x : SonaRankedCandidate} (hn : (keysOf value).Nodup)
    (h : ranked tools value = .ok x) :
    Same (.obj value) (.obj (rankedFields x)) ↔ ∀ key ∈ ["recording_id"], CanonicalId value key := by
  obtain ⟨hkeys, ⟨items, hitems, hscores⟩, hrecording, hcombined⟩ := ranked_ok.mp h
  rw [same_fields_iff hn rankedKeys_nodup rfl hkeys]
  constructor
  · intro hall key hkey
    rw [List.mem_singleton.mp hkey]
    exact (id_same hrecording).mp (hall _ (mem_of_lookup rfl))
  · intro hids y hy
    simp only [rankedFields, List.mem_cons, List.not_mem_nil, or_false] at hy
    rcases hy with rfl | rfl | rfl
    · exact (id_same hrecording).mpr (hids _ List.mem_cons_self)
    · exact ⟨_, hitems, same_scores hscores⟩
    · exact same_number hcombined

/-- The items of a field are written as they were if each of them is. -/
theorem same_items {α : Type} {f : Payload → Except String α} {fieldsOf : α → Payload}
    {keys : List String} {items : List Json} {ys : List α}
    (hread : (items.mapM fun item => do f (← asMapping item)) = .ok ys)
    (hparsed : parsed (.arr items) = true)
    (hsame : ∀ fields y, (keysOf fields).Nodup → f fields = .ok y →
      (Same (.obj fields) (.obj (fieldsOf y)) ↔ ∀ key ∈ keys, CanonicalId fields key)) :
    Same (.arr items) (.arr (ys.map fun y => .obj (fieldsOf y))) ↔
      ∀ item ∈ items, CanonicalIds keys item := by
  rw [same_arr_iff, List.map_map]
  have hall := mapM_forall₂ hread
  clear hread
  have hitems := fun item (hmem : item ∈ items) => parsed_of_mem hparsed hmem
  clear hparsed
  induction hall with
  | nil => exact ⟨fun _ item hitem => absurd hitem List.not_mem_nil, fun _ => rfl⟩
  | @cons item y items ys hitem _ ih =>
    obtain ⟨fields, hfields, hread⟩ := bind_eq_ok.mp hitem
    obtain rfl := asMapping_ok.mp hfields
    have hhead := hsame fields y (nodup_of_parsed (hitems _ List.mem_cons_self)) hread
    have htail := ih fun item hmem => hitems item (List.mem_cons_of_mem _ hmem)
    rw [List.map_cons, List.map_cons, List.cons.injEq, List.forall_mem_cons]
    refine and_congr (hhead.trans ?_) htail
    constructor
    · intro hids
      exact ⟨fields, rfl, hids⟩
    · rintro ⟨fields', heq, hids⟩
      cases heq
      exact hids

/-! ## accepted envelopes -/

theorem inDomain_of_lookup {fields : Payload} (h : inDomain (.obj fields) = true) {key : String}
    {item : Json} (hl : fields.lookup key = some item) : inDomain item = true := by
  rw [inDomain_obj, List.all_eq_true] at h
  exact h _ (mem_of_lookup hl)

theorem inDomain_of_digest {document : Json} {hash : String} (h : digest tools document = .ok hash) :
    inDomain document = true := by
  unfold digest at h
  split at h
  next hd => exact hd
  next => cases h

theorem inDomain_historyEvent {event : SonaHistoryEvent} (h : historyEvent tools value = .ok event)
    (hd : inDomain (.obj value) = true) : inDomain (.obj (historyEventFields event)) = true := by
  obtain ⟨-, -, -, -, haction, horigin, hage, heffective, hsequence⟩ := historyEvent_ok.mp h
  rw [inDomain_obj, List.all_eq_true]
  intro x hx
  simp only [historyEventFields, List.mem_cons, List.not_mem_nil, or_false] at hx
  rcases hx with rfl | rfl | rfl | rfl | rfl | rfl | rfl | rfl
  · rfl
  · rfl
  · exact inDomain_semanticId event.semanticId
  · exact inDomain_of_lookup hd haction
  · exact inDomain_of_lookup hd horigin
  · exact inDomain_of_lookup hd hage
  · exact inDomain_of_lookup hd heffective
  · exact inDomain_of_lookup hd hsequence

/-- The integers that are written again are those that were read. -/
theorem inDomain_request {envelope : Payload} {r : SonaInferenceRequest}
    (h : requestFromEnvelope tools envelope = .ok r) : inDomain (.obj (requestFields r)) = true := by
  obtain ⟨-, document, -, -, -, -, -, hhash, ⟨items, hitems, hhistory⟩, -, -, -, -, hcutoff, hwatermark,
    -, -, hseed⟩ := requestFromEnvelope_ok.mp h
  have hd := inDomain_of_digest hhash
  rw [inDomain_obj, List.all_eq_true]
  intro x hx
  simp only [requestFields, List.mem_cons, List.not_mem_nil, or_false] at hx
  rcases hx with rfl | rfl | rfl | rfl | rfl | rfl | rfl | rfl | rfl | rfl | rfl | rfl
  · exact inDomain_level (by decide)
  · rfl
  · rfl
  · rfl
  · rfl
  · exact inDomain_of_lookup hd hcutoff
  · exact inDomain_of_lookup hd hwatermark
  · rfl
  · rfl
  · exact inDomain_of_lookup hd hseed
  · have hall := inDomain_of_lookup hd hitems
    rw [inDomain_arr, List.all_eq_true] at hall ⊢
    intro item hitem
    obtain ⟨event, hevent, rfl⟩ := List.mem_map.mp hitem
    obtain ⟨source, hsource, hread⟩ := mem_of_mapM hhistory hevent
    obtain ⟨fields, hfields, hread⟩ := bind_eq_ok.mp hread
    obtain rfl := asMapping_ok.mp hfields
    exact inDomain_historyEvent hread (hall _ hsource)
  · rw [inDomain_arr, List.all_eq_true]
    intro item hitem
    obtain ⟨c, -, rfl⟩ := List.mem_map.mp hitem
    rw [inDomain_obj, List.all_eq_true]
    intro y hy
    simp only [candidateFields, List.mem_cons, List.not_mem_nil, or_false] at hy
    rcases hy with rfl | rfl
    · rfl
    · exact inDomain_semanticId c.semanticId

theorem canonicalItems_iff {key : String} {keys : List String} {items : List Json}
    (h : value.lookup key = some (.arr items)) :
    CanonicalItems value key keys ↔ ∀ item ∈ items, CanonicalIds keys item := by
  unfold CanonicalItems
  rw [h]
  constructor
  · rintro ⟨items', heq, hall⟩
    cases heq
    exact hall
  · intro hall
    exact ⟨items, rfl, hall⟩

/-- An envelope is written as it was if its document is. -/
theorem same_envelope {envelope document : Payload} {key hashKey hash : String}
    (hkn : [key, hashKey].Nodup) (hn : (keysOf envelope).Nodup)
    (hkeys : ∀ k, k ∈ keysOf envelope ↔ k ∈ [key, hashKey])
    (hdocument : envelope.lookup key = some (.obj document))
    (hhash : envelope.lookup hashKey = some (.str hash)) (written : Payload) :
    Same (.obj envelope) (.obj [(key, .obj written), (hashKey, .str hash)]) ↔
      Same (.obj document) (.obj written) := by
  rw [same_fields_iff hn hkn rfl hkeys]
  constructor
  · intro hall
    exact (field_same hdocument).mp (hall _ List.mem_cons_self)
  · intro hdocuments x hx
    simp only [List.mem_cons, List.not_mem_nil, or_false] at hx
    rcases hx with rfl | rfl
    · exact ⟨_, hdocument, hdocuments⟩
    · exact ⟨_, hhash, rfl⟩

/-- An accepted request is written as the document that was accepted exactly when the identifiers were
spelled canonically. -/
theorem request_reencoded_iff {envelope : Payload} {r : SonaInferenceRequest}
    (hparsed : parsed (.obj envelope) = true) (h : requestFromEnvelope tools envelope = .ok r) :
    (∃ written, requestEnvelope tools r = .ok written ∧ Same (.obj envelope) (.obj written)) ↔
      RequestIdsCanonical envelope := by
  obtain ⟨henvelope, document, hdocument, hdeclared, hkeys, hschema, harchitecture, hhash,
    ⟨items, hitems, hhistory⟩, ⟨items', hitems', hcandidates⟩, howner, htemporal, hbaseline, hcutoff,
    hwatermark, htokenizer, hmanifest, hseed⟩ := requestFromEnvelope_ok.mp h
  have hdoc := parsed_of_lookup hparsed hdocument
  have hevents := same_items hhistory (parsed_of_lookup hdoc hitems)
    fun fields event hn hread => same_historyEvent hn hread
  have hcands := same_items hcandidates (parsed_of_lookup hdoc hitems')
    fun fields c hn hread => same_candidate hn hread
  have hsame : Same (.obj document) (.obj (requestFields r)) ↔ RequestIdsCanonical envelope := by
    rw [same_fields_iff (nodup_of_parsed hdoc) requestKeys_nodup rfl hkeys]
    unfold RequestIdsCanonical
    constructor
    · intro hall
      exact ⟨document, hdocument, (id_same howner).mp (hall _ (mem_of_lookup rfl)),
        (id_same htemporal).mp (hall _ (mem_of_lookup rfl)),
        (id_same hbaseline).mp (hall _ (mem_of_lookup rfl)),
        (canonicalItems_iff hitems).mpr
          (hevents.mp ((field_same hitems).mp (hall ("history", _) (mem_of_lookup rfl)))),
        (canonicalItems_iff hitems').mpr
          (hcands.mp ((field_same hitems').mp (hall ("candidates", _) (mem_of_lookup rfl))))⟩
    · rintro ⟨document', hdocument', hids⟩ x hx
      rw [hdocument] at hdocument'
      cases hdocument'
      obtain ⟨hids₁, hids₂, hids₃, hids₄, hids₅⟩ := hids
      simp only [requestFields, List.mem_cons, List.not_mem_nil, or_false] at hx
      rcases hx with rfl | rfl | rfl | rfl | rfl | rfl | rfl | rfl | rfl | rfl | rfl | rfl
      · exact ⟨_, hschema, rfl⟩
      · exact ⟨_, harchitecture, rfl⟩
      · exact (id_same howner).mpr hids₁
      · exact (id_same htemporal).mpr hids₂
      · exact (id_same hbaseline).mpr hids₃
      · exact ⟨_, hcutoff, rfl⟩
      · exact ⟨_, hwatermark, rfl⟩
      · exact ⟨_, htokenizer, rfl⟩
      · exact ⟨_, hmanifest, rfl⟩
      · exact ⟨_, hseed, rfl⟩
      · exact ⟨_, hitems, hevents.mpr ((canonicalItems_iff hitems).mp hids₄)⟩
      · exact ⟨_, hitems', hcands.mpr ((canonicalItems_iff hitems').mp hids₅)⟩
  have hwrap := same_envelope envelopeKeys_nodup (nodup_of_parsed hparsed) henvelope hdocument hdeclared
    (requestFields r)
  rw [← hsame, ← hwrap]
  constructor
  · rintro ⟨written, hwritten, hsame'⟩
    obtain ⟨-, rfl⟩ := requestEnvelope_ok.mp hwritten
    exact hsame'
  · intro hsame'
    refine ⟨_, requestEnvelope_ok.mpr ⟨?_, rfl⟩, hsame'⟩
    have hcanonical : canonical (.obj document) = canonical (.obj (requestFields r)) :=
      hwrap.mp hsame'
    have hd := inDomain_of_digest hhash
    unfold digest at hhash ⊢
    rw [if_pos hd] at hhash
    rw [if_pos (inDomain_request h), ← hcanonical]
    exact hhash

/-- An accepted output is written as the document that was accepted exactly when the identifiers were
spelled canonically. -/
theorem output_reencoded_iff {envelope : Payload} {o : SonaInferenceOutput}
    (hparsed : parsed (.obj envelope) = true) (h : outputFromEnvelope tools envelope = .ok o) :
    (∃ written, outputEnvelope tools o = .ok written ∧ Same (.obj envelope) (.obj written)) ↔
      OutputIdsCanonical envelope := by
  obtain ⟨henvelope, document, hash, hdocument, hdeclared, hkeys, hschema, hhash,
    ⟨items, hitems, hgenerated⟩, ⟨items', hitems', hranked⟩, hrequest⟩ := outputFromEnvelope_ok.mp h
  have hdoc := parsed_of_lookup hparsed hdocument
  have hgen := @same_items _ _ generatedFields [] items _ hgenerated (parsed_of_lookup hdoc hitems)
    fun fields g hn hread => iff_of_true (same_generated hn hread) fun _ hkey => nomatch hkey
  have hrank := same_items hranked (parsed_of_lookup hdoc hitems')
    fun fields x hn hread => same_ranked hn hread
  have hall : ∀ item ∈ items, CanonicalIds [] item := by
    intro item hitem
    obtain ⟨g, hread⟩ := ok_of_mem_mapM hgenerated hitem
    obtain ⟨fields, hfields, -⟩ := bind_eq_ok.mp hread
    exact ⟨fields, asMapping_ok.mp hfields, fun _ hkey => nomatch hkey⟩
  have hsame : Same (.obj document) (.obj (outputFields o)) ↔ OutputIdsCanonical envelope := by
    rw [same_fields_iff (nodup_of_parsed hdoc) outputKeys_nodup rfl hkeys]
    unfold OutputIdsCanonical
    constructor
    · intro hfields
      exact ⟨document, hdocument, (canonicalItems_iff hitems').mpr
        (hrank.mp ((field_same hitems').mp (hfields ("ranked", _) (mem_of_lookup rfl))))⟩
    · rintro ⟨document', hdocument', hids⟩ x hx
      rw [hdocument] at hdocument'
      cases hdocument'
      simp only [outputFields, List.mem_cons, List.not_mem_nil, or_false] at hx
      rcases hx with rfl | rfl | rfl | rfl
      · exact ⟨_, hschema, rfl⟩
      · exact ⟨_, hrequest, rfl⟩
      · exact ⟨_, hitems, hgen.mpr hall⟩
      · exact ⟨_, hitems', hrank.mpr ((canonicalItems_iff hitems').mp hids)⟩
  obtain ⟨hash', hhash', hwritten⟩ := @outputEnvelope_ok tools o
  have hcanonical (hs : Same (.obj document) (.obj (outputFields o))) : hash' = hash := by
    have hd := inDomain_of_digest hhash
    have hd' := inDomain_of_digest hhash'
    have heq : canonical (.obj document) = canonical (.obj (outputFields o)) := hs
    unfold digest at hhash hhash'
    rw [if_pos hd, heq] at hhash
    rw [if_pos hd'] at hhash'
    exact Except.ok.inj (hhash'.symm.trans hhash)
  have hwrap := same_envelope outputEnvelopeKeys_nodup (nodup_of_parsed hparsed) henvelope hdocument
    hdeclared (outputFields o)
  rw [← hsame, ← hwrap]
  constructor
  · rintro ⟨written, hok, hs⟩
    rw [hwritten] at hok
    cases hok
    have hdocuments : Same (.obj document) (.obj (outputFields o)) := by
      rw [same_fields_iff (nodup_of_parsed hparsed) outputEnvelopeKeys_nodup rfl henvelope] at hs
      exact (field_same hdocument).mp (hs _ List.mem_cons_self)
    rwa [hcanonical hdocuments] at hs
  · intro hs
    refine ⟨_, hwritten, ?_⟩
    rwa [hcanonical (hwrap.mp hs)]

/-- The codec gives every request back, an output if the text of its floats is read back, and writes
an accepted envelope as it was if the identifiers in it were spelled canonically. -/
theorem codec_laws (tools : CodecTools) :
    (∀ r, digest tools (.obj (requestFields r)) = .ok r.requestSha256 →
      ∃ envelope parsed, requestEnvelope tools r = .ok envelope ∧
        wire (.obj envelope) = .obj parsed ∧ requestFromEnvelope tools parsed = .ok r) ∧
    (∀ o, (∃ envelope parsed, outputEnvelope tools o = .ok envelope ∧
      wire (.obj envelope) = .obj parsed ∧ outputFromEnvelope tools parsed = .ok o) ↔
        OutputTransportable o) ∧
    (∀ envelope r, parsed (.obj envelope) = true → requestFromEnvelope tools envelope = .ok r →
      ((∃ written, requestEnvelope tools r = .ok written ∧ Same (.obj envelope) (.obj written)) ↔
        RequestIdsCanonical envelope)) ∧
    ∀ envelope o, parsed (.obj envelope) = true → outputFromEnvelope tools envelope = .ok o →
      ((∃ written, outputEnvelope tools o = .ok written ∧ Same (.obj envelope) (.obj written)) ↔
        OutputIdsCanonical envelope) :=
  ⟨fun _ h => request_round_trip h, output_round_trip_iff, fun _ _ hp h => request_reencoded_iff hp h,
    fun _ _ hp h => output_reencoded_iff hp h⟩

end

/-! ## a request in two spellings -/

namespace Sample

mutual

/-- The text of a canonical value with whole numbers and without escapes. -/
def text : Json → String
  | .null => "null"
  | .bool b => if b then "true" else "false"
  | .int i => toString i
  | .float q => toString q.num
  | .str s => "\"" ++ s ++ "\""
  | .arr items => "[" ++ itemsText "" items ++ "]"
  | .obj fields => "\x7b" ++ fieldsText "" fields ++ "\x7d"

def itemsText (sep : String) : List Json → String
  | [] => ""
  | x :: xs => sep ++ text x ++ itemsText "," xs

def fieldsText (sep : String) : List (String × Json) → String
  | [] => ""
  | x :: xs => sep ++ "\"" ++ x.1 ++ "\":" ++ text x.2 ++ fieldsText "," xs

end

def ownerId : Uuid := ⟨"0000000a-0000-7000-8000-000000000001", rfl⟩

/-- The same identifier with a capital letter. -/
def capitalId : String := "0000000A-0000-7000-8000-000000000001"

def document (owner : String) : Payload :=
  [("schema_version", .int 1), ("architecture", .str "SONA_LITE_SHARED_ENCODER_V1"),
    ("owner_user_id", .str owner),
    ("temporal_snapshot_id", .str "00000000-0000-7000-8000-000000000002"),
    ("baseline_snapshot_id", .str "00000000-0000-7000-8000-000000000003"),
    ("cutoff_at_ms", .int 1000), ("interaction_watermark", .int 1),
    ("tokenizer_sha256", .str "bbbbbbbbbbbbbbbbbbbbbbbbbbbbbbbbbbbbbbbbbbbbbbbbbbbbbbbbbbbbbbbb"),
    ("model_manifest_sha256", .str "cccccccccccccccccccccccccccccccccccccccccccccccccccccccccccccccc"),
    ("seed", .int 17), ("history", .arr []),
    ("candidates", .arr [.obj [("recording_id", .str "00000000-0000-7000-8000-000000000005"),
      ("semantic_id", .arr [.int 1, .int 2, .int 3])]])]

def capitalHash : String := "baaa2b5622fe12f4158b7928975f99cc745af8f927501d890c6550c62eb35edb"
def ownerHash : String := "374ccf6c172a8030c44e0e9640c5932c5b504a50f11caf5a466687d9f5d56e17"

/-- The digests of the texts of both documents. -/
def sha256 (s : String) : String :=
  if s = text (canonical (.obj (document capitalId))) then capitalHash
  else if s = text (canonical (.obj (document ownerId.text))) then ownerHash else ""

/-- `UUID(text)` of canonical texts and of the capital spelling. -/
def uuid (s : String) : Option Uuid :=
  if h : Sync.isCanonicalUuid s = true then some ⟨s, h⟩
  else if s = capitalId then some ownerId else none

def tools : CodecTools where
  text := text
  sha256 := sha256
  uuid := uuid
  uuid_text := by
    intro u
    unfold uuid
    rw [dif_pos u.canonical]

def envelope (owner hash : String) : Payload :=
  [("request", .obj (document owner)), ("request_sha256", .str hash)]

/-- One track with a score of `1e20`. -/
def output : SonaInferenceOutput where
  requestSha256 := ownerHash
  generated := []
  ranked := [⟨ownerId, 0, 0, 0, 0, 10 ^ 20⟩]
  hashed := by decide +kernel
  generatedBounded := by decide
  rankedBounded := by decide
  distinct := by decide
  ordered := List.pairwise_singleton _ _

end Sample

/-- A request is accepted and cannot be written again; an output is written and not accepted. -/
theorem codec_not_inverse :
    (∃ r, requestFromEnvelope Sample.tools (Sample.envelope Sample.capitalId Sample.capitalHash) =
        .ok r ∧ ¬ ∃ written, requestEnvelope Sample.tools r = .ok written ∧
          Same (.obj (Sample.envelope Sample.capitalId Sample.capitalHash)) (.obj written)) ∧
      ¬ ∃ envelope parsed, outputEnvelope Sample.tools Sample.output = .ok envelope ∧
        wire (.obj envelope) = .obj parsed ∧
          outputFromEnvelope Sample.tools parsed = .ok Sample.output := by
  constructor
  · have hok : (requestFromEnvelope Sample.tools
        (Sample.envelope Sample.capitalId Sample.capitalHash)).isOk = true := by decide +kernel
    cases hr : requestFromEnvelope Sample.tools
        (Sample.envelope Sample.capitalId Sample.capitalHash) with
    | error e =>
      rw [hr] at hok
      cases hok
    | ok r =>
      refine ⟨r, rfl, fun hwritten => ?_⟩
      obtain ⟨document, hdocument, ⟨u, hu⟩, -⟩ :=
        (request_reencoded_iff (by decide +kernel) hr).mp hwritten
      cases hdocument
      have htext : Sample.capitalId = u.text := by
        have hlookup : (Sample.document Sample.capitalId).lookup "owner_user_id" =
            some (.str Sample.capitalId) := rfl
        rw [hlookup] at hu
        exact Json.str.inj (Option.some.inj hu)
      have hcanonical := u.canonical
      rw [← htext] at hcanonical
      revert hcanonical
      decide +kernel
  · rw [output_round_trip_iff]
    rintro ⟨-, hranked⟩
    have hscore := (hranked _ List.mem_cons_self).2
    revert hscore
    decide +kernel

/-- In canonical spelling the request is written as it was. -/
theorem codec_laws_canonical : ∃ r,
    requestFromEnvelope Sample.tools (Sample.envelope Sample.ownerId.text Sample.ownerHash) = .ok r ∧
      ∃ written, requestEnvelope Sample.tools r = .ok written ∧
        Same (.obj (Sample.envelope Sample.ownerId.text Sample.ownerHash)) (.obj written) := by
  have hok : (requestFromEnvelope Sample.tools
      (Sample.envelope Sample.ownerId.text Sample.ownerHash)).isOk = true := by decide +kernel
  cases hr : requestFromEnvelope Sample.tools
      (Sample.envelope Sample.ownerId.text Sample.ownerHash) with
  | error e =>
    rw [hr] at hok
    cases hok
  | ok r =>
    refine ⟨r, rfl, ((codec_laws Sample.tools).2.2.1 _ r (by decide +kernel) hr).mpr ?_⟩
    refine ⟨_, rfl, ⟨Sample.ownerId, rfl⟩, ⟨⟨"00000000-0000-7000-8000-000000000002", rfl⟩, rfl⟩,
      ⟨⟨"00000000-0000-7000-8000-000000000003", rfl⟩, rfl⟩, ⟨[], rfl, fun _ h => nomatch h⟩, _, rfl, ?_⟩
    intro item hitem
    rw [List.mem_singleton.mp hitem]
    refine ⟨_, rfl, fun key hkey => ?_⟩
    rw [List.mem_singleton.mp hkey]
    exact ⟨⟨"00000000-0000-7000-8000-000000000005", rfl⟩, rfl⟩

end AutPlay.Sona
