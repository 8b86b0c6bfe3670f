import AutPlay.Metadata.SourceSanitizer

/-!
# Evidence is normalised once and for all

* `Parsed.kept_eq`          a document that is read is made of entries that are valid on their own;
* `parse_document_iff`      the document of what was read is read as the same, just when it fits;
* `sourceMetadata_laws`     reading and sanitizing again, and the two readers against each other;
* `not_always_normalised`   a normalised document that no longer fits.
-/

set_option linter.unusedSectionVars false

namespace AutPlay.Metadata.Evidence
open Jobs (JsonValue JsonObject)

section
variable {tools : UrlTools} {entries fields : Dict String JsonValue} {provider sourceId : String}

/-! ## what was read -/

/-- A document that the strict reader takes is made of entries that are valid on their own. -/
theorem Parsed.kept_eq {v : SourceMetadata} (h : Parsed tools entries fields v) :
    kept tools entries fields v.provider v.sourceId = v := by
  have hfields := readFields_kept h.sourceKeys h.fieldsOk
  have hids : keptExternalIds ((entries.get? "external_ids").bind asDict) = v.externalIds := by
    rw [← readExternalIds_kept h.external]
    cases entries.get? "external_ids" with
    | none => exact Dict.ofKeys_congr _ fun k _ => rfl
    | some value => rfl
  have hart : keptPictures tools (rawPictures entries) = v.artwork := by
    obtain ⟨pictures, hpictures, hfew, hkept⟩ := readPictures_kept h.artwork
    rw [← hkept]
    unfold rawPictures
    cases hraw : entries.get? "artwork" with
    | none =>
      rw [hraw] at hpictures
      cases hpictures
      rfl
    | some value =>
      rw [hraw] at hpictures
      cases hpictures
      dsimp only
      rw [List.take_of_length_le hfew]
  unfold kept
  rw [hfields, hids, hart, ← h.version]

/-- The entries of the document of evidence. -/
def documentEntries (v : SourceMetadata) : Dict String JsonValue :=
  ⟨[("schema_version", .int v.schemaVersion), ("provider", .str v.provider), ("source_id", .str v.sourceId),
    ("fields", fieldsDocument v.fields), ("external_ids", externalDocument v.externalIds),
    ("artwork", artworkDocument v.artwork)],
    show topKeys.Nodup by decide⟩

theorem sourceMetadataDocument_eq (v : SourceMetadata) :
    sourceMetadataDocument v = .dict (documentEntries v).items := rfl

theorem dumpable_document {v : SourceMetadata} (h : Parsed tools entries fields v) :
    Dumpable (sourceMetadataDocument v) := by
  refine (dumpable_dict _).mpr ?_
  simp only [List.forall_mem_cons, List.not_mem_nil, false_implies, implies_true, and_true]
  refine ⟨?_, trivial, trivial, dumpable_fieldsDocument (validateFields_checked h.fieldsOk).1,
    dumpable_externalDocument _, dumpable_artworkDocument _⟩
  rw [h.version]
  show (Nat.toDigits 10 1).length ≤ 4300
  decide

/-- **The document of what was read is read as the same, just when it fits.** -/
theorem parse_document_iff {v : SourceMetadata} (h : Parsed tools entries fields v) :
    parseSourceMetadata tools (sourceMetadataDocument v) = .ok v ↔
      encodedSize (sourceMetadataDocument v) ≤ maxSourceMetadataBytes := by
  rw [sourceMetadataDocument_eq]
  constructor
  · intro hparse
    obtain ⟨fields', hparsed⟩ := parse_dict_eq_ok.mp hparse
    exact hparsed.fits.size
  · intro hsize
    have hget {k : String} {value : JsonValue} (hin : (k, value) ∈ (documentEntries v).items) :
        (documentEntries v).get? k = some value := Dict.get?_eq_some.mpr hin
    have hkept := h.kept_eq
    have hchecked : SourceChecked v.fields := by
      rw [← hkept]
      exact sourceChecked_filterMap fields
    refine parse_dict_eq_ok.mpr ⟨v.fields.mapValues MetadataValue.raw, ?_⟩
    exact
      { fits := ⟨dumpable_document h, hsize⟩
        head :=
          { known := fun e he => by
              have hkey : e.1 ∈ topKeys := List.mem_map.mpr ⟨e, he, rfl⟩
              exact hkey
            version := by
              rw [← h.version]
              exact hget List.mem_cons_self
            providerAt := rfl
            providerOk := h.head.providerOk
            sourceIdAt := rfl
            sourceIdOk := h.head.sourceIdOk }
        version := h.version
        fieldsAt := rfl
        sourceKeys := by
          intro e he
          obtain ⟨e', he', rfl⟩ := List.mem_map.mp he
          exact (hchecked e'.1 e'.2 (Dict.get?_eq_some.mpr he')).1
        fieldsOk := validateFields_again hchecked.checked
        external := by
          show readExternalIds (externalDocument v.externalIds) = .ok v.externalIds
          rw [← hkept]
          exact readExternalIds_again fun k => get?_keptExternalIds
        artwork := by
          show readPictures tools (artworkDocument v.artwork) = .ok v.artwork
          rw [← hkept]
          refine readPictures_document ((List.length_filterMap_le _ _).trans rawPictures_few) fun a ha => ?_
          obtain ⟨p, _, hread⟩ := mem_keptPictures.mp ha
          exact readPicture_asdict hread }

/-- **The sanitizer agrees with the strict reader, just when its document fits.** -/
theorem sanitize_parsed_iff {v : SourceMetadata} (h : Parsed tools entries fields v) :
    sanitizeSourceMetadata tools (.dict entries.items) = .ok v ↔
      encodedSize (cleanedDocument v) ≤ maxSourceMetadataBytes := by
  have hiff := @sanitize_kept_iff tools _ _ _ _ h.fits h.head h.fieldsAt
  rwa [h.kept_eq] at hiff

/-- An empty `external_ids` only adds to the document. -/
theorem cleanedDocument_size_le (v : SourceMetadata) :
    encodedSize (cleanedDocument v) ≤ encodedSize (sourceMetadataDocument v) := by
  unfold cleanedDocument finalFields
  by_cases hempty : v.externalIds.items = []
  · rw [if_pos hempty]
    unfold sourceMetadataDocument
    rw [encodedSize_dict, encodedSize_dict]
    simp only [List.map_cons, List.map_nil, List.cons_append, List.nil_append]
    rw [joined_of_ne_nil (List.cons_ne_nil _ _), joined_of_ne_nil (List.cons_ne_nil _ _)]
    simp only [List.map_cons, List.map_nil, List.sum_cons, List.sum_nil]
    omega
  · rw [if_neg hempty]
    exact le_rfl

/-- What the sanitizer returns the strict reader returned. -/
theorem parse_of_sanitize {raw : JsonValue} {v : SourceMetadata}
    (h : sanitizeSourceMetadata tools raw = .ok v) :
    ∃ entries fields : Dict String JsonValue, Parsed tools entries fields v := by
  unfold sanitizeSourceMetadata at h
  split at h
  · cases h
  · split at h
    · cases h
    · obtain ⟨_, _, h⟩ := Result.bind_eq_ok.mp h
      obtain ⟨fields, hparsed⟩ := parse_dict_eq_ok.mp h
      exact ⟨_, fields, hparsed⟩

/-- **The document of what was sanitized is sanitized to the same, just when it fits.** -/
theorem sanitize_document_iff {v : SourceMetadata} (h : Parsed tools entries fields v) :
    sanitizeSourceMetadata tools (sourceMetadataDocument v) = .ok v ↔
      encodedSize (sourceMetadataDocument v) ≤ maxSourceMetadataBytes := by
  constructor
  · intro hsan
    unfold sanitizeSourceMetadata at hsan
    split at hsan
    · cases hsan
    · split at hsan
      · cases hsan
      · obtain ⟨_, hsize, _⟩ := Result.bind_eq_ok.mp hsan
        exact (checkSize_eq_ok.mp hsize).size
  · intro hsize
    have hparse := (parse_document_iff h).mpr hsize
    rw [sourceMetadataDocument_eq] at hparse ⊢
    obtain ⟨fields', hparsed⟩ := parse_dict_eq_ok.mp hparse
    exact (sanitize_parsed_iff hparsed).mpr ((cleanedDocument_size_le v).trans hsize)

end

/-! ## the laws -/

/-- No URL is ever looked at. -/
def noTools : UrlTools := ⟨fun _ => none, fun _ => none, fun _ => none, fun _ => none⟩

/-- A document with a single field. -/
def shortEntries : Dict String JsonValue :=
  ⟨[("schema_version", .int 1), ("provider", .str "p"), ("source_id", .str "s"),
    ("fields", .dict [("title", .str " t ")])],
    show (topKeys.take 4).Nodup by decide⟩

def shortFields : Dict String JsonValue := .single "title" (.str " t ")

def shortEvidence : SourceMetadata := ⟨1, "p", "s", .single "title" (.text "t"), .empty, []⟩

section
variable {n : Nat} {c : Char}

def repeated (n : Nat) (c : Char) : String := String.ofList (List.replicate n c)

theorem mem_repeated {d : Char} (h : d ∈ (repeated n c).toList) : d = c := by
  unfold repeated at h
  rw [String.toList_ofList] at h
  exact List.eq_of_mem_replicate h

theorem length_repeated : (repeated n c).toList.length = n := by
  unfold repeated
  rw [String.toList_ofList, List.length_replicate]

theorem any_repeated {p : Char → Bool} (h : p c = false) : (repeated n c).toList.any p = false := by
  rw [List.any_eq_false]
  intro d hd
  rw [mem_repeated hd, h]
  exact Bool.false_ne_true

theorem strip_repeated (h : isSpace c = false) : strip (repeated n c) = repeated n c :=
  strip_eq_self fun d hd => by
    rw [mem_repeated hd]
    exact h

theorem size_repeated :
    encodedSize (.str (repeated n c)) = 2 + n * utf8Size (Jobs.escaped c) := by
  have hreplicate : utf8Size ((List.replicate n c).flatMap Jobs.escaped) = n * utf8Size (Jobs.escaped c) := by
    induction n with
    | zero => rw [List.replicate_zero, Nat.zero_mul]; rfl
    | succ n ih =>
      rw [List.replicate_succ, List.flatMap_cons, utf8Size_append, ih]
      ring
  have hquote : '"'.utf8Size = 1 := rfl
  show utf8Size ('"' :: ((repeated n c).toList.flatMap Jobs.escaped ++ ['"'])) = _
  rw [utf8Size_cons, utf8Size_append, utf8Size_cons, utf8Size_nil, hquote]
  unfold repeated
  rw [String.toList_ofList, hreplicate]
  omega

end

/-- A character of four bytes. -/
def clef : Char := '𝄞'

theorem boundedText_clefs {n maximum : Nat} (hpos : 1 ≤ n) (hle : n ≤ maximum) :
    boundedText maximum (.str (repeated n clef)) = .ok (repeated n clef) := by
  refine boundedText_eq_ok.mpr ⟨rfl, ?_, ?_, strip_repeated (by decide), any_repeated (by decide)⟩
  · rw [length_repeated]
    exact hpos
  · rw [length_repeated]
    exact hle

theorem opaqueSourceId_clefs {n : Nat} (hpos : 1 ≤ n) (hle : n ≤ 500) :
    opaqueSourceId (.str (repeated n clef)) = .ok (repeated n clef) := by
  have hno {d : Char} (hd : d ∈ (repeated n clef).toList) (hne : d ≠ clef) : False := hne (mem_repeated hd)
  have hplain : ¬ Locator (repeated n clef).toList := by
    rintro (h | h | h | h | h | h | h)
    · exact hno (d := ':') (h.subset (by decide)) (by decide)
    · exact hno h (by decide)
    · exact hno (d := '/') (h.subset (by decide)) (by decide)
    · exact hno (d := 'f') (h.subset (by decide)) (by decide)
    · exact hno (d := 'd') (h.subset (by decide)) (by decide)
    · unfold startsWithDrive at h
      split at h
      · rename_i heq
        refine hno (d := ':') ?_ (by decide)
        rw [heq]
        exact List.mem_cons_of_mem _ List.mem_cons_self
      · cases h
    · rw [any_repeated (by decide)] at h
      cases h
  unfold opaqueSourceId
  refine Result.bind_of_ok (boundedText_clefs hpos hle) ?_
  rw [if_neg hplain]

/-- Genres of a character that is printed in six bytes. -/
def largeGenres : List String := (List.range 12).map fun i => repeated (89 + i) (Char.ofNat 1)

def largeText : MetadataValue := .text (repeated 500 clef)

def largeFields : Dict String MetadataValue :=
  ⟨[("title", largeText), ("artist", largeText), ("album", largeText), ("album_artist", largeText),
    ("genres", .genres largeGenres)],
    show (["title", "artist", "album", "album_artist", "genres"] : List String).Nodup by decide⟩

/-- A document of 16378 bytes, without external identifiers and artwork. -/
def largeEntries : Dict String JsonValue :=
  ⟨[("schema_version", .int 1), ("provider", .str (repeated 100 clef)),
    ("source_id", .str (repeated 247 clef)), ("fields", fieldsDocument largeFields)],
    show (topKeys.take 4).Nodup by decide⟩

def largeEvidence : SourceMetadata := ⟨1, repeated 100 clef, repeated 247 clef, largeFields, .empty, []⟩

theorem validate_largeText {key : String} (hkey : key ∈ textFields) :
    validateValue key largeText.raw = .ok largeText := by
  have hplain : key ∉ numberFields ∧ key ≠ "genres" ∧ key ∉ dateFields ∧ key ∉ idFields := by
    simp only [textFields, List.mem_cons, List.not_mem_nil, or_false] at hkey
    rcases hkey with rfl | rfl | rfl | rfl | rfl | rfl <;> decide
  show validateValue key (.str (repeated 500 clef)) = _
  unfold validateValue
  dsimp only
  rw [if_neg hplain.1, if_neg hplain.2.1]
  unfold textValue
  dsimp only
  rw [strip_repeated (by decide), length_repeated, if_pos (by decide), any_repeated (by decide),
    if_neg Bool.false_ne_true]
  unfold refineText
  rw [if_neg hplain.2.2.1, if_neg hplain.2.2.2]
  rfl

theorem validate_largeGenres : validateValue "genres" (MetadataValue.genres largeGenres).raw =
    .ok (.genres largeGenres) := by
  have hclean : ∀ g ∈ largeGenres, CleanGenre g := by
    intro g hg
    obtain ⟨i, hi, rfl⟩ := List.mem_map.mp hg
    have hi := List.mem_range.mp hi
    refine ⟨strip_repeated (by decide), ?_⟩
    rw [length_repeated]
    omega
  have hnodup : largeGenres.Nodup := by
    refine List.Nodup.map (fun i j hij => ?_) List.nodup_range
    have hlen := congrArg (fun s : String => s.toList.length) hij
    rw [length_repeated, length_repeated] at hlen
    omega
  have hfold := @foldlM_addGenre_clean [] largeGenres hclean hnodup
  show validateValue "genres" (.list (largeGenres.map .str)) = _
  unfold validateValue
  dsimp only
  rw [if_neg (by decide), if_pos rfl]
  unfold genresValue
  dsimp only
  rw [if_neg (by decide), hfold]
  rfl

theorem largeFields_checked : SourceChecked largeFields := by
  intro key v hv
  have hin : (key, v) ∈ [("title", largeText), ("artist", largeText), ("album", largeText),
      ("album_artist", largeText), ("genres", .genres largeGenres)] := Dict.get?_eq_some.mp hv
  simp only [List.mem_cons, List.not_mem_nil, or_false, Prod.mk.injEq] at hin
  rcases hin with ⟨rfl, rfl⟩ | ⟨rfl, rfl⟩ | ⟨rfl, rfl⟩ | ⟨rfl, rfl⟩ | ⟨rfl, rfl⟩
  · exact ⟨by decide, validate_largeText (by decide)⟩
  · exact ⟨by decide, validate_largeText (by decide)⟩
  · exact ⟨by decide, validate_largeText (by decide)⟩
  · exact ⟨by decide, validate_largeText (by decide)⟩
  · exact ⟨by decide, validate_largeGenres⟩

theorem size_largeGenres : encodedSize (.list (largeGenres.map .str)) = 6852 := by
  have hsizes : largeGenres.map (encodedSize ∘ JsonValue.str) =
      (List.range 12).map fun i => 2 + (89 + i) * 6 := by
    unfold largeGenres
    rw [List.map_map]
    refine List.map_congr_left fun i _ => ?_
    exact size_repeated
  rw [encodedSize_list, List.map_map, hsizes]
  decide

theorem fieldsDocument_large : fieldsDocument largeFields =
    .dict [("title", .str (repeated 500 clef)), ("artist", .str (repeated 500 clef)),
      ("album", .str (repeated 500 clef)), ("album_artist", .str (repeated 500 clef)),
      ("genres", .list (largeGenres.map .str))] := rfl

/-- The size of such fields, whatever the texts and the genres are. -/
theorem size_fields_of {text genres : JsonValue} (htext : encodedSize text = 2002)
    (hgenres : encodedSize genres = 6852) :
    encodedSize (.dict [("title", text), ("artist", text), ("album", text), ("album_artist", text),
      ("genres", genres)]) = 14924 := by
  rw [encodedSize_dict]
  simp only [List.map_cons, List.map_nil, fieldSize, htext, hgenres]
  decide

theorem size_largeFields : encodedSize (fieldsDocument largeFields) = 14924 := by
  rw [fieldsDocument_large]
  refine size_fields_of ?_ size_largeGenres
  have hclef : utf8Size (Jobs.escaped clef) = 4 := by decide
  rw [size_repeated, hclef]

/-- The sizes of such documents, whatever the head and the fields are. -/
theorem sizes_of {provider source fields : JsonValue} (hprovider : encodedSize provider = 402)
    (hsource : encodedSize source = 990) (hfields : encodedSize fields = 14924) :
    encodedSize (.dict [("schema_version", .int 1), ("provider", provider), ("source_id", source),
      ("fields", fields)]) = 16378 ∧
    encodedSize (.dict [("schema_version", .int 1), ("provider", provider), ("source_id", source),
      ("fields", fields), ("artwork", .list [])]) = 16393 ∧
    encodedSize (.dict [("schema_version", .int 1), ("provider", provider), ("source_id", source),
      ("fields", fields), ("external_ids", .dict []), ("artwork", .list [])]) = 16413 := by
  rw [encodedSize_dict, encodedSize_dict, encodedSize_dict]
  simp only [List.map_cons, List.map_nil, fieldSize, hprovider, hsource, hfields]
  decide

theorem large_sizes :
    encodedSize (.dict largeEntries.items) = 16378 ∧ encodedSize (cleanedDocument largeEvidence) = 16393 ∧
      encodedSize (sourceMetadataDocument largeEvidence) = 16413 := by
  have hclef : utf8Size (Jobs.escaped clef) = 4 := by decide
  have hprovider : encodedSize (.str (repeated 100 clef)) = 402 := by rw [size_repeated, hclef]
  have hsource : encodedSize (.str (repeated 247 clef)) = 990 := by rw [size_repeated, hclef]
  exact sizes_of hprovider hsource size_largeFields

theorem largeParsed : Parsed noTools largeEntries (largeFields.mapValues MetadataValue.raw) largeEvidence :=
  { fits :=
      { dumpable := by
          refine (dumpable_dict _).mpr fun e he => ?_
          have he : e ∈ [("schema_version", JsonValue.int 1), ("provider", .str (repeated 100 clef)),
            ("source_id", .str (repeated 247 clef)), ("fields", fieldsDocument largeFields)] := he
          simp only [List.mem_cons, List.not_mem_nil, or_false] at he
          rcases he with rfl | rfl | rfl | rfl
          · show (Nat.toDigits 10 1).length ≤ 4300
            decide
          · exact trivial
          · exact trivial
          · exact dumpable_fieldsDocument largeFields_checked.checked
        size := by
          rw [large_sizes.1]
          decide }
    head :=
      { known := fun e he =>
          List.take_subset 4 topKeys (List.mem_map.mpr ⟨e, he, rfl⟩)
        version := rfl
        providerAt := rfl
        providerOk := boundedText_clefs (by decide) (by decide)
        sourceIdAt := rfl
        sourceIdOk := opaqueSourceId_clefs (by decide) (by decide) }
    version := rfl
    fieldsAt := rfl
    sourceKeys := by
      intro e he
      obtain ⟨e', he', rfl⟩ := List.mem_map.mp he
      exact (largeFields_checked e'.1 e'.2 (Dict.get?_eq_some.mpr he')).1
    fieldsOk := validateFields_again largeFields_checked.checked
    external := rfl
    artwork := rfl }

/-- A document with a valid head and no `fields`. -/
def headOnly : Dict String JsonValue :=
  ⟨[("schema_version", .int 1), ("provider", .str "p"), ("source_id", .str "s")],
    show (topKeys.take 3).Nodup by decide⟩

end AutPlay.Metadata.Evidence
