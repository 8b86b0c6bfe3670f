import AutPlay.Metadata.SourceReader

/-!
# The document that the sanitizer hands on

* `finalDocument_items`         its entries;
* `encodedSize_finalDocument`   its size, which is that of the evidence it stands for;
* `parse_finalDocument`         what the strict reader makes of it;
* `sanitize_kept_iff`           the sanitizer keeps what is valid on its own, just when that fits.
-/

set_option linter.unusedSectionVars false

namespace AutPlay.Metadata.Evidence
open Jobs (JsonValue JsonObject)

/-! ## the document that the sanitizer hands on -/

/-- The fields of a document, without an empty `external_ids`, that holds some artwork. -/
def finalFields (v : SourceMetadata) (artwork : JsonValue) : JsonObject :=
  [("schema_version", .int v.schemaVersion), ("provider", .str v.provider), ("source_id", .str v.sourceId)] ++
    ([("fields", fieldsDocument v.fields)] ++
      ((if v.externalIds.items = [] then [] else [("external_ids", externalDocument v.externalIds)]) ++
        [("artwork", artwork)]))

/-- **The document of evidence as the sanitizer writes it**: without an empty `external_ids`. -/
def cleanedDocument (v : SourceMetadata) : JsonValue := .dict (finalFields v (artworkDocument v.artwork))

section
variable {tools : UrlTools} {entries fields : Dict String JsonValue} {provider sourceId : String}

theorem fields_eq : fields.filterMap cleanField = (kept tools entries fields provider sourceId).fields :=
  congrArg fields.filterMap cleanField_eq

theorem get?_cleanedExternalIds (k : String) :
    (cleanedExternalIds entries).get? k =
      ((((entries.get? "external_ids").bind asDict).bind fun d => d.get? k).bind (keptExternalId k)) := by
  unfold cleanedExternalIds
  cases (entries.get? "external_ids").bind asDict with
  | none => rfl
  | some external =>
    dsimp only
    rw [Dict.get?_filterMap, cleanExternalId_eq]
    rfl

/-- The identifiers of the document are those of the evidence, in the order of the document. -/
theorem cleanedExternalIds_perm :
    (cleanedExternalIds entries).items.Perm (kept tools entries fields provider sourceId).externalIds.items :=
  Dict.perm_of_get? fun k => (get?_cleanedExternalIds k).trans get?_keptExternalIds.symm

/-- The head of the document. -/
def headOf (entries : Dict String JsonValue) : Dict String JsonValue :=
  entries.filter fun key _ => key ∉ ["fields", "external_ids", "artwork"]

theorem get?_headOf {k : String} (hk : k ∉ ["fields", "external_ids", "artwork"]) :
    (headOf entries).get? k = entries.get? k := by
  unfold headOf
  rw [Dict.get?_filter]
  cases entries.get? k with
  | none => rfl
  | some v => exact Option.filter_some_pos (decide_eq_true hk)

theorem get?_headOf_none {k : String} (hk : k ∈ ["fields", "external_ids", "artwork"]) :
    (headOf entries).get? k = none := by
  unfold headOf
  rw [Dict.get?_filter]
  cases entries.get? k with
  | none => rfl
  | some v => exact Option.filter_some_neg (by rw [decide_eq_false_iff_not, not_not]; exact hk)

/-- A valid head has its three entries, in some order. -/
theorem headOf_perm (head : ValidHead entries provider sourceId) :
    (headOf entries).items.Perm
      [("schema_version", .int 1), ("provider", .str provider), ("source_id", .str sourceId)] := by
  have hversion := (get?_headOf (by decide)).trans head.version
  have hprovider := (get?_headOf (by decide)).trans head.providerAt
  have hsource := (get?_headOf (by decide)).trans head.sourceIdAt
  have hsub : [("schema_version", JsonValue.int 1), ("provider", .str provider),
      ("source_id", .str sourceId)] ⊆ (headOf entries).items := by
    intro e he
    simp only [List.mem_cons, List.not_mem_nil, or_false] at he
    rcases he with rfl | rfl | rfl
    · exact Dict.get?_eq_some.mp hversion
    · exact Dict.get?_eq_some.mp hprovider
    · exact Dict.get?_eq_some.mp hsource
  have hnodup : [("schema_version", JsonValue.int 1), ("provider", .str provider),
      ("source_id", .str sourceId)].Nodup := by
    refine List.Nodup.of_map Prod.fst ?_
    show (["schema_version", "provider", "source_id"] : List String).Nodup
    decide
  have hkeys : (headOf entries).items.map Prod.fst ⊆ ["schema_version", "provider", "source_id"] := by
    intro k hk
    obtain ⟨e, he, rfl⟩ := List.mem_map.mp hk
    obtain ⟨hin, hout⟩ := List.mem_filter.mp he
    have htop := head.known e hin
    have hout := of_decide_eq_true hout
    unfold topKeys at htop
    simp only [List.mem_cons, List.not_mem_nil, or_false, not_or] at htop hout ⊢
    tauto
  have hlen := (List.subperm_of_subset (headOf entries).nodup hkeys).length_le
  rw [List.length_map] at hlen
  exact ((List.subperm_of_subset hnodup hsub).perm_of_length_le hlen).symm

/-- The document that holds this artwork. -/
def finalDocument (entries fields : Dict String JsonValue) (artwork : JsonValue) : Dict String JsonValue :=
  (cleaned entries fields).set "artwork" artwork

theorem finalDocument_items (artwork : JsonValue) :
    (finalDocument entries fields artwork).items = (headOf entries).items ++
      ([("fields", fieldsDocument (fields.filterMap cleanField))] ++
        ((if (cleanedExternalIds entries).items = [] then []
          else [("external_ids", externalDocument (cleanedExternalIds entries))]) ++
          [("artwork", artwork)])) := by
  have hfields : ((headOf entries).set "fields" (fieldsDocument (fields.filterMap cleanField))).items =
      (headOf entries).items ++ [("fields", fieldsDocument (fields.filterMap cleanField))] :=
    Dict.items_set_of_none (get?_headOf_none (by decide))
  have hnone {k : String} (hk : k ∈ ["external_ids", "artwork"]) :
      ((headOf entries).set "fields" (fieldsDocument (fields.filterMap cleanField))).get? k = none := by
    have hne : k ≠ "fields" := by
      rintro rfl
      exact absurd hk (by decide)
    rw [Dict.get?_set_ne _ _ hne]
    exact get?_headOf_none (List.mem_cons_of_mem _ hk)
  unfold finalDocument cleaned
  dsimp only
  show (Dict.set (if _ then (headOf entries).set "fields" _ else
    ((headOf entries).set "fields" _).set "external_ids" _) "artwork" artwork).items = _
  split
  · rw [Dict.items_set_of_none (hnone (by decide)), hfields, List.append_assoc]
    rfl
  · have hart : (((headOf entries).set "fields" (fieldsDocument (fields.filterMap cleanField))).set
        "external_ids" (externalDocument (cleanedExternalIds entries))).get? "artwork" = none := by
      rw [Dict.get?_set_ne _ _ (by decide)]
      exact hnone (by decide)
    rw [Dict.items_set_of_none hart, Dict.items_set_of_none (hnone (by decide)), hfields, List.append_assoc,
      List.append_assoc]

theorem fieldSize_externalDocument {ids ids' : Dict String String} (h : ids.items.Perm ids'.items) :
    fieldSize ("external_ids", externalDocument ids) = fieldSize ("external_ids", externalDocument ids') := by
  have hsize : encodedSize (externalDocument ids) = encodedSize (externalDocument ids') :=
    encodedSize_perm (h.map fun e : String × String => (e.1, JsonValue.str e.2))
  unfold fieldSize
  dsimp only
  rw [hsize]

/-- The size of that document is the size of the evidence with this artwork. -/
theorem encodedSize_finalDocument (head : ValidHead entries provider sourceId) (artwork : JsonValue) :
    encodedSize (.dict (finalDocument entries fields artwork).items) =
      encodedSize (.dict (finalFields (kept tools entries fields provider sourceId) artwork)) := by
  have hids := @cleanedExternalIds_perm tools entries fields provider sourceId
  have hnil : (cleanedExternalIds entries).items = [] ↔
      (kept tools entries fields provider sourceId).externalIds.items = [] := by
    constructor
    · intro h
      rw [h] at hids
      exact List.nil_perm.mp hids
    · intro h
      rw [h] at hids
      exact List.perm_nil.mp hids
  rw [encodedSize_dict, encodedSize_dict, finalDocument_items]
  refine joined_perm ?_
  unfold finalFields
  rw [List.map_append, List.map_append]
  refine ((headOf_perm head).map fieldSize).append (List.Perm.of_eq ?_)
  rw [← fields_eq]
  by_cases hempty : (cleanedExternalIds entries).items = []
  · rw [if_pos hempty, if_pos (hnil.mp hempty)]
    rfl
  · rw [if_neg hempty, if_neg fun h => hempty (hnil.mpr h)]
    simp only [List.map_append, List.map_cons, List.map_nil, fieldSize_externalDocument hids]
    rfl

theorem dumpable_finalDocument (head : ValidHead entries provider sourceId) {artwork : JsonValue}
    (hart : Dumpable artwork) : Dumpable (.dict (finalDocument entries fields artwork).items) := by
  rw [dumpable_dict, finalDocument_items]
  intro e he
  rcases List.mem_append.mp he with he | he
  · have hmem := (headOf_perm head).subset he
    simp only [List.mem_cons, List.not_mem_nil, or_false] at hmem
    rcases hmem with rfl | rfl | rfl
    · show (Nat.toDigits 10 1).length ≤ 4300
      decide
    · exact trivial
    · exact trivial
  rcases List.mem_append.mp he with he | he
  · rw [List.mem_singleton.mp he]
    have hchecked := (sourceChecked_filterMap fields).checked
    rw [← cleanField_eq] at hchecked
    exact dumpable_fieldsDocument hchecked
  rcases List.mem_append.mp he with he | he
  · split at he
    · exact absurd he List.not_mem_nil
    · rw [List.mem_singleton.mp he]
      exact dumpable_externalDocument _
  · rw [List.mem_singleton.mp he]
    exact hart

theorem validHead_finalDocument (head : ValidHead entries provider sourceId) (artwork : JsonValue) :
    ValidHead (finalDocument entries fields artwork) provider sourceId := by
  have hsame {k : String} {v : JsonValue} (hk : k ∉ ["fields", "external_ids", "artwork"])
      (hv : entries.get? k = some v) : (finalDocument entries fields artwork).get? k = some v := by
    rw [Dict.get?_eq_some, finalDocument_items]
    exact List.mem_append_left _ (Dict.get?_eq_some.mp ((get?_headOf hk).trans hv))
  have hknown : ∀ e ∈ (finalDocument entries fields artwork).items, e.1 ∈ topKeys := by
    intro e he
    rw [finalDocument_items] at he
    rcases List.mem_append.mp he with he | he
    · exact head.known e (List.mem_filter.mp he).1
    rcases List.mem_append.mp he with he | he
    · rw [List.mem_singleton.mp he]
      exact (by decide : "fields" ∈ topKeys)
    rcases List.mem_append.mp he with he | he
    · split at he
      · exact absurd he List.not_mem_nil
      · rw [List.mem_singleton.mp he]
        exact (by decide : "external_ids" ∈ topKeys)
    · rw [List.mem_singleton.mp he]
      exact (by decide : "artwork" ∈ topKeys)
  exact ⟨hknown, hsame (by decide) head.version, hsame (by decide) head.providerAt, head.providerOk,
    hsame (by decide) head.sourceIdAt, head.sourceIdOk⟩

theorem get?_finalDocument_fields (artwork : JsonValue) :
    (finalDocument entries fields artwork).get? "fields" =
      some (fieldsDocument (fields.filterMap cleanField)) := by
  rw [Dict.get?_eq_some, finalDocument_items]
  exact List.mem_append_right _ List.mem_cons_self

theorem get?_finalDocument_artwork (artwork : JsonValue) :
    (finalDocument entries fields artwork).get? "artwork" = some artwork :=
  Dict.get?_set_self ..

theorem get?_finalDocument_external (artwork : JsonValue) :
    ((finalDocument entries fields artwork).get? "external_ids").getD (.dict []) =
      externalDocument (cleanedExternalIds entries) := by
  have hnone : ((headOf entries).set "fields"
      (fieldsDocument (fields.filterMap cleanField))).get? "external_ids" = none := by
    rw [Dict.get?_set_ne _ _ (by decide)]
    exact get?_headOf_none (by decide)
  unfold finalDocument
  rw [Dict.get?_set_ne _ _ (by decide)]
  unfold cleaned
  dsimp only
  split
  · rename_i hempty
    show (((headOf entries).set "fields"
      (fieldsDocument (fields.filterMap cleanField))).get? "external_ids").getD _ = _
    rw [hnone]
    show _ = JsonValue.dict ((cleanedExternalIds entries).items.map fun e => (e.1, JsonValue.str e.2))
    rw [hempty]
    rfl
  · rw [Dict.get?_set_self]
    rfl

/-- **What the strict reader makes of that document.** -/
theorem parse_finalDocument (head : ValidHead entries provider sourceId) {artwork : JsonValue}
    {pictures : List SourceArtwork} (hart : readPictures tools artwork = .ok pictures)
    (hdump : Dumpable artwork)
    (hsize : encodedSize (.dict (finalFields (kept tools entries fields provider sourceId) artwork)) ≤
      maxSourceMetadataBytes) :
    parseSourceMetadata tools (.dict (finalDocument entries fields artwork).items) =
      .ok { kept tools entries fields provider sourceId with artwork := pictures } := by
  have hchecked := sourceChecked_filterMap fields
  refine parse_dict_eq_ok.mpr
    ⟨(kept tools entries fields provider sourceId).fields.mapValues MetadataValue.raw, ?_⟩
  exact
    { fits := ⟨dumpable_finalDocument head hdump, (encodedSize_finalDocument head artwork).trans_le hsize⟩
      head := validHead_finalDocument head artwork
      version := rfl
      fieldsAt := by
        rw [get?_finalDocument_fields, cleanField_eq]
        rfl
      sourceKeys := by
        intro e he
        obtain ⟨e', he', rfl⟩ := List.mem_map.mp he
        exact (hchecked e'.1 e'.2 (Dict.get?_eq_some.mpr he')).1
      fieldsOk := validateFields_again hchecked.checked
      external := by
        rw [get?_finalDocument_external]
        exact readExternalIds_again get?_cleanedExternalIds
      artwork := by
        rw [get?_finalDocument_artwork]
        exact hart }

/-- What it read it had to find there, within the size. -/
theorem parse_finalDocument_inv (head : ValidHead entries provider sourceId) {artwork : JsonValue}
    {w : SourceMetadata}
    (h : parseSourceMetadata tools (.dict (finalDocument entries fields artwork).items) = .ok w) :
    readPictures tools artwork = .ok w.artwork ∧
      encodedSize (.dict (finalFields (kept tools entries fields provider sourceId) artwork)) ≤
        maxSourceMetadataBytes := by
  obtain ⟨fields', hparsed⟩ := parse_dict_eq_ok.mp h
  have hart := hparsed.artwork
  rw [get?_finalDocument_artwork] at hart
  refine ⟨hart, ?_⟩
  rw [← encodedSize_finalDocument head artwork]
  exact hparsed.fits.size

/-- A document with one of the pictures is no larger than that with all of them. -/
theorem size_one_picture {v : SourceMetadata} {picture : JsonValue} {a : SourceArtwork}
    (hread : readPicture tools picture = .ok a) (ha : a ∈ v.artwork) :
    encodedSize (.dict (finalFields v (.list [picture]))) ≤ encodedSize (cleanedDocument v) := by
  have hart : encodedSize (.list [picture]) ≤ encodedSize (artworkDocument v.artwork) := by
    rw [encodedSize_list, List.map_singleton, encodedSize_picture hread]
    unfold artworkDocument
    rw [encodedSize_list, List.map_map]
    exact joined_singleton_le (List.mem_map.mpr ⟨a, ha, rfl⟩)
  have hsize (artwork : JsonValue) (pre : JsonObject) :
      encodedSize (.dict (pre ++ [("artwork", artwork)])) =
        ((pre.map fieldSize).map (· + 2)).sum +
          (utf8Size (Jobs.quoted "artwork") + 2 + encodedSize artwork + 2) := by
    have hne : (pre ++ [("artwork", artwork)]).map fieldSize ≠ [] := by
      rw [List.map_append]
      exact List.append_ne_nil_of_right_ne_nil _ (List.cons_ne_nil _ _)
    rw [encodedSize_dict, joined_of_ne_nil hne, List.map_append, List.map_append, List.sum_append]
    rfl
  unfold cleanedDocument finalFields
  rw [← List.append_assoc, ← List.append_assoc, ← List.append_assoc, ← List.append_assoc, hsize, hsize]
  omega

theorem rawPictures_few : (rawPictures entries).length ≤ 4 := by
  unfold rawPictures
  split
  · exact List.length_take_le 4 _
  · exact Nat.zero_le 4

/-- Each picture on its own, while the document fits. -/
theorem cleanPicture_eq (head : ValidHead entries provider sourceId)
    (hsize : encodedSize (cleanedDocument (kept tools entries fields provider sourceId)) ≤
      maxSourceMetadataBytes)
    {picture : JsonValue} (hin : picture ∈ rawPictures entries) :
    cleanPicture tools (cleaned entries fields) picture = (readPicture tools picture).toOption.toList := by
  unfold cleanPicture
  cases hread : readPicture tools picture with
  | ok a =>
    have hpictures : readPictures tools (.list [picture]) = .ok [a] := readPictures_one.mpr ⟨a, hread, rfl⟩
    have ha : a ∈ (kept tools entries fields provider sourceId).artwork :=
      mem_keptPictures.mpr ⟨picture, hin, hread⟩
    have hparse := parse_finalDocument head hpictures
      ((dumpable_list _).mpr fun v hv => by
        rw [List.mem_singleton.mp hv]
        exact dumpable_picture hread)
      ((size_one_picture hread ha).trans hsize)
    unfold finalDocument at hparse
    rw [hparse]
    rfl
  | error err =>
    cases hparse : parseSourceMetadata tools
        (.dict ((cleaned entries fields).set "artwork" (.list [picture])).items) with
    | error err' => rfl
    | ok w =>
      obtain ⟨hart, -⟩ := parse_finalDocument_inv head hparse
      obtain ⟨a, ha, -⟩ := readPictures_one.mp hart
      rw [hread] at ha
      cases ha

theorem pictures_eq (head : ValidHead entries provider sourceId)
    (hsize : encodedSize (cleanedDocument (kept tools entries fields provider sourceId)) ≤
      maxSourceMetadataBytes) :
    (rawPictures entries).flatMap (cleanPicture tools (cleaned entries fields)) =
      (kept tools entries fields provider sourceId).artwork := by
  show _ = keptPictures tools (rawPictures entries)
  unfold keptPictures
  rw [List.filterMap_eq_flatMap_toList]
  exact List.flatMap_congr fun picture hin => cleanPicture_eq head hsize hin

theorem sanitize_eq (hfits : Fits (.dict entries.items))
    (hfields : entries.get? "fields" = some (.dict fields.items)) :
    sanitizeSourceMetadata tools (.dict entries.items) =
      parseSourceMetadata tools (.dict (finalDocument entries fields (artworkDocument
        ((rawPictures entries).flatMap (cleanPicture tools (cleaned entries fields))))).items) := by
  unfold sanitizeSourceMetadata
  rw [asDict_items]
  dsimp only
  rw [hfields, Option.bind_some, asDict_items]
  dsimp only
  rw [checkSize_eq_ok.mpr hfits]
  rfl

/-- **The sanitizer keeps exactly what is valid on its own, just when that fits.** -/
theorem sanitize_kept_iff (hfits : Fits (.dict entries.items)) (head : ValidHead entries provider sourceId)
    (hfields : entries.get? "fields" = some (.dict fields.items)) :
    sanitizeSourceMetadata tools (.dict entries.items) = .ok (kept tools entries fields provider sourceId) ↔
      encodedSize (cleanedDocument (kept tools entries fields provider sourceId)) ≤
        maxSourceMetadataBytes := by
  rw [sanitize_eq hfits hfields]
  constructor
  · intro h
    obtain ⟨hart, hsize⟩ := parse_finalDocument_inv head h
    rw [← readPictures_document_eq hart] at hsize
    exact hsize
  · intro hsize
    rw [pictures_eq head hsize]
    refine (parse_finalDocument head (readPictures_document ?_ ?_) (dumpable_artworkDocument _) hsize)
    · exact (List.length_filterMap_le _ _).trans rawPictures_few
    · intro a ha
      obtain ⟨p, _, hread⟩ := mem_keptPictures.mp ha
      exact readPicture_asdict hread

end

end AutPlay.Metadata.Evidence
