import AutPlay.Metadata.SourceEntries

/-!
# The strict reader

* `parse_eq_ok`             what the strict reader asks of a document, and what it reads;
* `readExternalIds_again`   identifiers that are valid on their own are read again, in any order.
-/

set_option linter.unusedSectionVars false

namespace AutPlay.Metadata.Evidence
open Jobs (JsonValue JsonObject)

/-! ## the strict reader -/

/-- The document passes the check of the size. -/
structure Fits (raw : JsonValue) : Prop where
  dumpable : Dumpable raw
  size : encodedSize raw ≤ maxSourceMetadataBytes

theorem checkSize_eq_ok {raw : JsonValue} : checkSize raw = .ok () ↔ Fits raw := by
  unfold checkSize
  constructor
  · intro h
    split at h
    · cases h
    · rename_i hdump
      split at h
      · cases h
      · rename_i hsize
        exact ⟨not_not.mp hdump, by omega⟩
  · rintro ⟨hdump, hsize⟩
    rw [if_neg (not_not.mpr hdump), if_neg (by omega)]

/-- **A valid head**: the version, the provider and the source are valid, and no key is unknown. -/
structure ValidHead (entries : Dict String JsonValue) (provider sourceId : String) : Prop where
  known : ∀ e ∈ entries.items, e.1 ∈ topKeys
  version : entries.get? "schema_version" = some (.int 1)
  providerAt : entries.get? "provider" = some (.str provider)
  providerOk : boundedText 100 (.str provider) = .ok provider
  sourceIdAt : entries.get? "source_id" = some (.str sourceId)
  sourceIdOk : opaqueSourceId (.str sourceId) = .ok sourceId

/-- What the strict reader asks of a document. -/
structure Parsed (tools : UrlTools) (entries fields : Dict String JsonValue) (v : SourceMetadata) : Prop where
  fits : Fits (.dict entries.items)
  head : ValidHead entries v.provider v.sourceId
  version : v.schemaVersion = 1
  fieldsAt : entries.get? "fields" = some (.dict fields.items)
  sourceKeys : ∀ e ∈ fields.items, e.1 ∈ sourceFields
  fieldsOk : validateFields fields false = .ok v.fields
  external : readExternalIds ((entries.get? "external_ids").getD (.dict [])) = .ok v.externalIds
  artwork : readPictures tools ((entries.get? "artwork").getD (.list [])) = .ok v.artwork

theorem any_isVersionOne {value : Option JsonValue} :
    value.any isVersionOne = true ↔ value = some (.int 1) := by
  constructor
  · intro h
    cases value with
    | none => cases h
    | some v =>
      cases v with
      | int n => rw [of_decide_eq_true h]
      | _ => cases h
  · rintro rfl
    rfl

theorem evidenceShape_eq_some {entries fields : Dict String JsonValue} {provider sourceId : JsonValue} :
    evidenceShape entries = some (provider, sourceId, fields) ↔
      (∀ e ∈ entries.items, e.1 ∈ topKeys) ∧ entries.get? "schema_version" = some (.int 1) ∧
        entries.get? "provider" = some provider ∧ entries.get? "source_id" = some sourceId ∧
        entries.get? "fields" = some (.dict fields.items) ∧ ∀ e ∈ fields.items, e.1 ∈ sourceFields := by
  have hknown {d : Dict String JsonValue} {keys : List String} :
      (¬ (d.items.any fun e => e.1 ∉ keys) = true) ↔ ∀ e ∈ d.items, e.1 ∈ keys := by
    rw [Bool.not_eq_true, List.any_eq_false]
    refine forall₂_congr fun e _ => ?_
    rw [decide_eq_true_eq, not_not]
  have hfields (d : Dict String JsonValue) :
      (entries.get? "fields").bind asDict = some d ↔ entries.get? "fields" = some (.dict d.items) := by
    rw [Option.bind_eq_some_iff]
    constructor
    · rintro ⟨v, hv, hd⟩
      rw [hv, asDict_eq_some.mp hd]
    · intro hv
      exact ⟨_, hv, asDict_items d⟩
  unfold evidenceShape
  constructor
  · intro h
    split at h
    · cases h
    · rename_i htop
      split at h
      · cases h
      · rename_i hversion
        split at h
        · rename_i hp hs hf
          split at h
          · cases h
          · rename_i hsource
            cases h
            exact ⟨hknown.mp htop, any_isVersionOne.mp (not_not.mp hversion), hp, hs, (hfields _).mp hf,
              hknown.mp hsource⟩
        · cases h
  · rintro ⟨htop, hversion, hp, hs, hf, hsource⟩
    rw [if_neg (hknown.mpr htop), if_neg (not_not.mpr (any_isVersionOne.mpr hversion)), hp, hs,
      (hfields fields).mpr hf]
    dsimp only
    rw [if_neg (hknown.mpr hsource)]

/-- **What the strict reader asks of a document, and what it reads.** -/
theorem parse_eq_ok {tools : UrlTools} {raw : JsonValue} {v : SourceMetadata} :
    parseSourceMetadata tools raw = .ok v ↔
      ∃ entries fields : Dict String JsonValue,
        raw = .dict entries.items ∧ Parsed tools entries fields v := by
  constructor
  · intro h
    unfold parseSourceMetadata at h
    split at h
    · cases h
    · rename_i entries hentries
      cases asDict_eq_some.mp hentries
      obtain ⟨_, hsize, h⟩ := Result.bind_eq_ok.mp h
      split at h
      · cases h
      · rename_i provider sourceId fields hshape
        obtain ⟨htop, hversion, hp, hs, hf, hsource⟩ := evidenceShape_eq_some.mp hshape
        obtain ⟨p, hpok, h⟩ := Result.bind_eq_ok.mp h
        obtain ⟨s, hsok, h⟩ := Result.bind_eq_ok.mp h
        obtain ⟨checked, hfok, h⟩ := Result.bind_eq_ok.mp h
        obtain ⟨ids, hids, h⟩ := Result.bind_eq_ok.mp h
        obtain ⟨artwork, hart, h⟩ := Result.bind_eq_ok.mp h
        cases h
        cases boundedText_text hpok
        cases opaqueSourceId_text hsok
        exact ⟨entries, fields, rfl,
          { fits := checkSize_eq_ok.mp hsize
            head := ⟨htop, hversion, hp, hpok, hs, hsok⟩
            version := rfl
            fieldsAt := hf
            sourceKeys := hsource
            fieldsOk := hfok
            external := hids
            artwork := hart }⟩
  · rintro ⟨entries, fields, rfl, h⟩
    have hshape := evidenceShape_eq_some.mpr ⟨h.head.known, h.head.version, h.head.providerAt,
      h.head.sourceIdAt, h.fieldsAt, h.sourceKeys⟩
    unfold parseSourceMetadata
    rw [asDict_items]
    dsimp only
    refine Result.bind_of_ok (checkSize_eq_ok.mpr h.fits) ?_
    rw [hshape]
    dsimp only
    refine Result.bind_of_ok h.head.providerOk ?_
    refine Result.bind_of_ok h.head.sourceIdOk ?_
    refine Result.bind_of_ok h.fieldsOk ?_
    refine Result.bind_of_ok h.external ?_
    refine Result.bind_of_ok h.artwork ?_
    rw [← h.version]

theorem dict_inj {d d' : Dict String JsonValue} (h : JsonValue.dict d.items = .dict d'.items) : d = d' :=
  Dict.ext_items (JsonValue.dict.inj h)

theorem parse_dict_eq_ok {tools : UrlTools} {entries : Dict String JsonValue} {v : SourceMetadata} :
    parseSourceMetadata tools (.dict entries.items) = .ok v ↔
      ∃ fields : Dict String JsonValue, Parsed tools entries fields v := by
  rw [parse_eq_ok]
  constructor
  · rintro ⟨entries', fields, heq, h⟩
    rw [dict_inj heq]
    exact ⟨fields, h⟩
  · rintro ⟨fields, h⟩
    exact ⟨entries, fields, rfl, h⟩

/-! ## identifiers again -/

theorem externalDocument_eq (ids : Dict String String) :
    externalDocument ids = .dict (ids.mapValues JsonValue.str).items := rfl

theorem keptExternalId_again {key : String} {value : Option JsonValue} :
    ((value.bind (keptExternalId key)).map JsonValue.str).bind (keptExternalId key) =
      value.bind (keptExternalId key) := by
  apply Option.ext
  intro s
  rw [Option.bind_eq_some_iff]
  constructor
  · rintro ⟨v, hv, hs⟩
    obtain ⟨s', hs', rfl⟩ := Option.map_eq_some_iff.mp hv
    have hsame := readExternalId_text (keptExternalId_eq_some.mp hs).2
    cases hsame
    exact hs'
  · intro hs
    refine ⟨.str s, Option.map_eq_some_iff.mpr ⟨s, hs, rfl⟩, ?_⟩
    obtain ⟨v, _, hv⟩ := Option.bind_eq_some_iff.mp hs
    cases readExternalId_text (keptExternalId_eq_some.mp hv).2
    exact hv

/-- Identifiers that are valid on their own are read again, whatever their order. -/
theorem readExternalIds_again {ids : Dict String String} {external : Option (Dict String JsonValue)}
    (h : ∀ k, ids.get? k = (external.bind fun d => d.get? k).bind (keptExternalId k)) :
    readExternalIds (externalDocument ids) = .ok (keptExternalIds external) := by
  have hvalid : ∀ k v, (ids.mapValues JsonValue.str).get? k = some v →
      k ∈ externalKeys ∧ ∃ s, readExternalId k v = .ok s := by
    intro k v hv
    rw [Dict.get?_mapValues, h] at hv
    obtain ⟨s, hs, rfl⟩ := Option.map_eq_some_iff.mp hv
    obtain ⟨v, _, hv⟩ := Option.bind_eq_some_iff.mp hs
    obtain ⟨hk, hv⟩ := keptExternalId_eq_some.mp hv
    cases readExternalId_text hv
    exact ⟨hk, s, hv⟩
  rw [externalDocument_eq, readExternalIds_of_valid hvalid]
  refine congrArg Except.ok (Dict.ofKeys_congr _ fun k _ => ?_)
  show ((ids.mapValues JsonValue.str).get? k).bind (keptExternalId k) = _
  rw [Dict.get?_mapValues, h]
  exact keptExternalId_again

theorem dumpable_externalDocument (ids : Dict String String) : Dumpable (externalDocument ids) := by
  refine (dumpable_dict _).mpr fun e he => ?_
  obtain ⟨e', _, rfl⟩ := List.mem_map.mp he
  exact trivial

theorem dumpable_artworkDocument (artwork : List SourceArtwork) : Dumpable (artworkDocument artwork) := by
  refine (dumpable_list _).mpr fun v hv => ?_
  obtain ⟨a, _, rfl⟩ := List.mem_map.mp hv
  exact dumpable_asdict a

end AutPlay.Metadata.Evidence
