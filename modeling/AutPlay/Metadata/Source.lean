import AutPlay.Lib.Entries
import AutPlay.Metadata.Encoding
import AutPlay.Metadata.Fields

/-!
# Evidence of an acquisition

What a provider says of a track that was acquired, as the server checks it.

* `parseSourceMetadata`      the strict reader: the evidence, or what is wrong with the document;
* `sanitizeSourceMetadata`   the reader that leaves out the optional entries that are wrong;
* `sourceMetadataDocument`   the document of evidence.

The libraries for URLs are a parameter, `UrlTools`.
-/

set_option linter.unusedSectionVars false

namespace AutPlay.Metadata.Evidence
open Jobs (JsonValue JsonObject)

def maxSourceMetadataBytes : Nat := 16384

/-- `ALL_FIELDS - {"recording_date", "label", "country"}` -/
def sourceFields : List String :=
  allFields.filter fun key => key ∉ ["recording_date", "label", "country"]

/-! ## texts -/

/-- `unicodedata.category(c) == "Cc"` -/
def isControl (c : Char) : Bool := c.toNat < 32 || (127 ≤ c.toNat && c.toNat < 160)

/-- **`_bounded_text`**. -/
def boundedText (maximum : Nat) : JsonValue → Except ValueError String
  | .str value =>
    if value.toList.length < 1 ∨ maximum < value.toList.length ∨ value ≠ strip value ∨
        value.toList.any isControl then
      .error (.named "metadata_evidence_text_invalid")
    else .ok value
  | _ => .error (.named "metadata_evidence_text_invalid")

def isLetter (c : Char) : Bool := ('A' ≤ c && c ≤ 'Z') || ('a' ≤ c && c ≤ 'z')

def isAlphanumeric (c : Char) : Bool := isLetter c || c.isDigit

/-- `re.match(r"^[A-Za-z]:[/\\]", …)` -/
def startsWithDrive : List Char → Bool
  | c :: ':' :: d :: _ => isLetter c && (d = '/' || d = '\\')
  | _ => false

/-- A text that looks like a URL, a path or a query. -/
def Locator (cs : List Char) : Prop :=
  "://".toList <:+: cs ∨ '\\' ∈ cs ∨ "/".toList <+: cs ∨ "file:".toList <+: cs ∨
    "data:".toList <+: cs ∨ startsWithDrive cs ∨ cs.any fun c => c ∈ "?&#=@".toList

instance (cs : List Char) : Decidable (Locator cs) :=
  inferInstanceAs (Decidable (_ ∨ _ ∨ _ ∨ _ ∨ _ ∨ _ ∨ _))

/-- **`_opaque_source_id`**. -/
def opaqueSourceId (value : JsonValue) : Except ValueError String := do
  let identity ← boundedText 500 value
  if Locator identity.toList then .error (.named "metadata_evidence_source_id_invalid")
  else .ok identity

/-! ## URLs -/

/-- What `urlsplit` says of a URL; a `port` of `none` is its `ValueError`. -/
structure SplitUrl where
  scheme : String
  hostname : Option String
  port : Option (Option Int)
  username : Option String
  password : Option String
  query : String
  fragment : String

/-- The libraries; `none` is a `ValueError` or a `UnicodeError`. -/
structure UrlTools where
  urlsplit : String → Option SplitUrl
  /-- `ip_address(host).is_global` -/
  isGlobal : String → Option Bool
  /-- `host.encode("idna").decode("ascii")` -/
  idna : String → Option String
  /-- `parse_qsl(query, keep_blank_values=True, strict_parsing=True)` -/
  parseQsl : String → Option (List (String × String))

/-- `[a-zA-Z0-9](?:[a-zA-Z0-9-]{0,61}[a-zA-Z0-9])?` -/
def isLabel (cs : List Char) : Bool :=
  1 ≤ cs.length && cs.length ≤ 63 && (cs.all fun c => isAlphanumeric c || c = '-') &&
    (cs.head?.all isAlphanumeric) && (cs.getLast?.all isAlphanumeric)

/-- A host name of labels, the last of which is no number. -/
def isHostName (encoded : String) : Bool :=
  let labels := encoded.toList.splitOn '.'
  labels.all isLabel && !(labels.getLast?.any fun cs => cs ≠ [] && cs.all Char.isDigit)

/-- The host is a public address or a host name. -/
def isPublicHost (tools : UrlTools) (host : String) : Bool :=
  match tools.isGlobal host with
  | some isGlobal => isGlobal
  | none => (tools.idna host).any isHostName

/-- `[A-Za-z0-9_-]{1,128}` -/
def isSelector (s : String) : Bool :=
  1 ≤ s.toList.length && s.toList.length ≤ 128 &&
    s.toList.all fun c => isAlphanumeric c || c = '_' || c = '-'

/-- The one query that is retained. -/
def isImageQuery (host : String) (pairs : List (String × String)) : Bool :=
  host = "usercontent.jamendo.com" && pairs.length ≤ 4 && (pairs.map Prod.fst).Nodup &&
    pairs.all fun pair => pair.1 ∈ ["type", "id", "width", "trackid"] && isSelector pair.2

/-- The body of the `try`: whether nothing is raised. -/
def isArtUrl (tools : UrlTools) (url : String) : Bool :=
  (tools.urlsplit url).any fun parsed =>
    let host := parsed.hostname.getD ""
    parsed.scheme = "https" && (parsed.port.any fun port => port = none || port = some 443) &&
      (parsed.username.getD "" = "") && (parsed.password.getD "" = "") && parsed.fragment = "" &&
      host ≠ "" && '.' ∈ host.toList && '\\' ∉ url.toList &&
      !([".local", ".localhost", ".internal", ".test", ".invalid"].any fun suffix =>
        suffix.toList.isSuffixOf host.toList) &&
      !(url.toList.any isSpace) && isPublicHost tools host &&
      (parsed.query = "" || (tools.parseQsl parsed.query).any (isImageQuery host))

/-- **`_source_art_url`**. -/
def sourceArtUrl (tools : UrlTools) (value : JsonValue) : Except ValueError String := do
  let url ← boundedText 2048 value
  if isArtUrl tools url then .ok url
  else .error (.named "metadata_evidence_artwork_url_invalid")

/-! ## evidence -/

structure SourceArtwork where
  kind : String
  url : String
  sourceId : String
  deriving DecidableEq

structure SourceMetadata where
  schemaVersion : Int
  provider : String
  sourceId : String
  fields : Dict String MetadataValue
  externalIds : Dict String String
  artwork : List SourceArtwork
  deriving DecidableEq

/-- `asdict` of a picture. -/
def SourceArtwork.asdict (item : SourceArtwork) : JsonValue :=
  .dict [("kind", .str item.kind), ("url", .str item.url), ("source_id", .str item.sourceId)]

def fieldsDocument (fields : Dict String MetadataValue) : JsonValue :=
  .dict (fields.mapValues MetadataValue.raw).items

def externalDocument (ids : Dict String String) : JsonValue := .dict (ids.mapValues JsonValue.str).items

def artworkDocument (artwork : List SourceArtwork) : JsonValue :=
  .list (artwork.map SourceArtwork.asdict)

/-- **`source_metadata_document`**. -/
def sourceMetadataDocument (value : SourceMetadata) : JsonValue :=
  .dict [("schema_version", .int value.schemaVersion), ("provider", .str value.provider),
    ("source_id", .str value.sourceId), ("fields", fieldsDocument value.fields),
    ("external_ids", externalDocument value.externalIds), ("artwork", artworkDocument value.artwork)]

/-- The entries of a `dict`, which has no two of one key. -/
def asDict : JsonValue → Option (Dict String JsonValue)
  | .dict fields => if h : (fields.map Prod.fst).Nodup then some ⟨fields, h⟩ else none
  | _ => none

/-- The check of the size. -/
def checkSize (raw : JsonValue) : Except ValueError Unit :=
  if ¬ Dumpable raw then .error (.named "metadata_evidence_invalid")
  else if maxSourceMetadataBytes < encodedSize raw then .error (.named "metadata_evidence_too_large")
  else .ok ()

def topKeys : List String :=
  ["schema_version", "provider", "source_id", "fields", "external_ids", "artwork"]

/-- `type(version) is int` and `version == 1` -/
def isVersionOne : JsonValue → Bool
  | .int n => n = 1
  | _ => false

/-- The check of the shape: the raw provider, source and fields. -/
def evidenceShape (raw : Dict String JsonValue) :
    Option (JsonValue × JsonValue × Dict String JsonValue) :=
  if raw.items.any fun e => e.1 ∉ topKeys then none
  else if ¬ (raw.get? "schema_version").any isVersionOne then none
  else
    match raw.get? "provider", raw.get? "source_id", (raw.get? "fields").bind asDict with
    | some provider, some sourceId, some fields =>
      if fields.items.any fun e => e.1 ∉ sourceFields then none else some (provider, sourceId, fields)
    | _, _, _ => none

def externalKeys : List String := ["isrc", "native_album_id", "native_artist_id"]

/-- `[A-Z]{2}[A-Z0-9]{3}[0-9]{7}` -/
def isIsrc (s : String) : Bool :=
  let cs := s.toList
  cs.length = 12 && ((cs.take 2).all fun c => 'A' ≤ c && c ≤ 'Z') &&
    (((cs.drop 2).take 3).all fun c => ('A' ≤ c && c ≤ 'Z') || c.isDigit) && ((cs.drop 5).all Char.isDigit)

/-- `[A-Za-z0-9._-]{1,128}` -/
def isNativeId (s : String) : Bool :=
  1 ≤ s.toList.length && s.toList.length ≤ 128 &&
    s.toList.all fun c => isAlphanumeric c || c = '.' || c = '_' || c = '-'

def externalPattern (key : String) (s : String) : Bool := if key = "isrc" then isIsrc s else isNativeId s

/-- One external identifier. -/
def readExternalId (key : String) (value : JsonValue) : Except ValueError String := do
  let identity ← boundedText (if key = "isrc" then 12 else 128) value
  if externalPattern key identity then .ok identity
  else .error (.named "metadata_evidence_external_id_invalid")

/-- One of the keys, in the order in which they are read. -/
def addExternalId (external : Dict String JsonValue) (ids : Dict String String) (key : String) :
    Except ValueError (Dict String String) :=
  match external.get? key with
  | none => .ok ids
  | some value => (readExternalId key value).map (ids.set key)

def readExternalIds (external : JsonValue) : Except ValueError (Dict String String) :=
  match asDict external with
  | none => .error (.named "metadata_evidence_external_id_invalid")
  | some external =>
    if external.items.any fun e => e.1 ∉ externalKeys then
      .error (.named "metadata_evidence_external_id_invalid")
    else externalKeys.foldlM (addExternalId external) Dict.empty

def artworkKinds : List String := ["album", "track", "thumbnail", "avatar", "waveform"]

/-- One picture. -/
def readPicture (tools : UrlTools) (item : JsonValue) : Except ValueError SourceArtwork :=
  match asDict item with
  | none => .error (.named "metadata_evidence_artwork_invalid")
  | some item =>
    if item.items.length ≠ 3 then .error (.named "metadata_evidence_artwork_invalid")
    else
      match item.get? "kind", item.get? "url", item.get? "source_id" with
      | some (.str kind), some url, some sourceId =>
        if kind ∈ artworkKinds then do
          let url ← sourceArtUrl tools url
          let sourceId ← opaqueSourceId sourceId
          .ok ⟨kind, url, sourceId⟩
        else .error (.named "metadata_evidence_artwork_invalid")
      | _, _, _ => .error (.named "metadata_evidence_artwork_invalid")

def readPictures (tools : UrlTools) : JsonValue → Except ValueError (List SourceArtwork)
  | .list pictures =>
    if 4 < pictures.length then .error (.named "metadata_evidence_artwork_invalid")
    else pictures.mapM (readPicture tools)
  | _ => .error (.named "metadata_evidence_artwork_invalid")

/-- **`parse_source_metadata`**. -/
def parseSourceMetadata (tools : UrlTools) (raw : JsonValue) : Except ValueError SourceMetadata :=
  match asDict raw with
  | none => .error (.named "metadata_evidence_invalid")
  | some entries => do
    checkSize raw
    match evidenceShape entries with
    | none => .error (.named "metadata_evidence_invalid")
    | some (provider, sourceId, fields) =>
      let provider ← boundedText 100 provider
      let sourceId ← opaqueSourceId sourceId
      let fields ← validateFields fields false
      let externalIds ← readExternalIds ((entries.get? "external_ids").getD (.dict []))
      let artwork ← readPictures tools ((entries.get? "artwork").getD (.list []))
      .ok ⟨1, provider, sourceId, fields, externalIds, artwork⟩

/-! ## the sanitizer -/

/-- A field that passes `validate_fields` by itself. -/
def cleanField (key : String) (value : JsonValue) : Option MetadataValue :=
  if key ∈ sourceFields then
    match validateFields (.single key value) false with
    | .ok fields => fields.get? key
    | .error _ => none
  else none

def cleanExternalId (key : String) : JsonValue → Option String
  | .str external => if key ∈ externalKeys ∧ externalPattern key external then some external else none
  | _ => none

def cleanedExternalIds (entries : Dict String JsonValue) : Dict String String :=
  match (entries.get? "external_ids").bind asDict with
  | none => .empty
  | some external => external.filterMap cleanExternalId

/-- The head of the document, with its valid fields and external identifiers. -/
def cleaned (entries fields : Dict String JsonValue) : Dict String JsonValue :=
  let head := entries.filter fun key _ => key ∉ ["fields", "external_ids", "artwork"]
  let document := head.set "fields" (fieldsDocument (fields.filterMap cleanField))
  let ids := cleanedExternalIds entries
  if ids.items = [] then document else document.set "external_ids" (externalDocument ids)

/-- The pictures of a document that holds this one, where the strict reader takes it. -/
def cleanPicture (tools : UrlTools) (document : Dict String JsonValue) (picture : JsonValue) :
    List SourceArtwork :=
  match parseSourceMetadata tools (.dict (document.set "artwork" (.list [picture])).items) with
  | .ok validated => validated.artwork
  | .error _ => []

def rawPictures (entries : Dict String JsonValue) : List JsonValue :=
  match entries.get? "artwork" with
  | some (.list pictures) => pictures.take 4
  | _ => []

/-- **`sanitize_source_metadata`**. -/
def sanitizeSourceMetadata (tools : UrlTools) (raw : JsonValue) : Except ValueError SourceMetadata :=
  match asDict raw with
  | none => .error (.named "metadata_evidence_invalid")
  | some entries =>
    match (entries.get? "fields").bind asDict with
    | none => .error (.named "metadata_evidence_invalid")
    | some fields => do
      checkSize raw
      let document := cleaned entries fields
      let pictures := (rawPictures entries).flatMap (cleanPicture tools document)
      parseSourceMetadata tools (.dict (document.set "artwork" (artworkDocument pictures)).items)

end AutPlay.Metadata.Evidence
