import AutPlay.Imports.Values

/-!
# The import parser

* `Python`             the library functions that the parser calls;
* `durationMs`, `rowFromMapping`, `malformedRow`   one row;
* `csvRows`, `jsonRows`, `htmlRows`, `txtRows`     the envelope of each format, and its data rows;
* `parseImport`        an import.

`casefold`, `float`, `int`, the grammar of JSON and the events of `HTMLParser` are parameters; so are the
bytes of RFC 8785 and the digest of them.
-/

set_option linter.unusedSectionVars false

namespace AutPlay.Imports

abbrev Bytes := List UInt8

/-! ## the library -/

/-- The tags that the table parser tells apart, in lower case. -/
inductive HtmlTag
  | script
  | style
  | tr
  | td
  | th
  | other
  deriving DecidableEq

inductive HtmlEvent
  | startTag (tag : HtmlTag)
  | endTag (tag : HtmlTag)
  | data (text : PyStr)

structure Python where
  decodeUtf8Sig : Bytes → Option PyStr
  decodeCp1251 : Bytes → Option PyStr
  isSpace : Nat → Bool
  isDigit : Nat → Bool
  casefold : PyStr → PyStr
  /-- `int` of a text; `none` is `ValueError`. -/
  int : PyStr → Option Int
  /-- `float` of a text; `none` is `ValueError`. -/
  float : PyStr → Option PyFloat
  /-- The value of a JSON text, of any size and depth; `none` is `JSONDecodeError`. -/
  json : PyStr → Option Json
  /-- How deep `json.loads` reads. -/
  scannerDepth : Nat
  /-- How many calls the parser may nest. -/
  frames : Nat
  strOf : Json → PyStr
  html : PyStr → List HtmlEvent
  encode : List (PyStr × Json) → Bytes
  /-- `sha256(..).hexdigest()[:16]` -/
  digest : Bytes → String
  scalars_utf8Sig : ∀ b t, decodeUtf8Sig b = some t → scalars t = true
  scalars_cp1251 : ∀ b t, decodeCp1251 b = some t → scalars t = true
  scalars_html : ∀ t s, scalars t = true → HtmlEvent.data s ∈ html t → scalars s = true
  length_utf8Sig : ∀ b t, decodeUtf8Sig b = some t → t.length ≤ b.length
  length_cp1251 : ∀ b t, decodeCp1251 b = some t → t.length ≤ b.length
  length_html : ∀ t, (html t).length ≤ 2 * t.length

/-! ## constants -/

def maxImportBytes : Nat := 2 * 1024 * 1024
def maxImportRows : Nat := 10000
def maxRowBytes : Nat := 64 * 1024
def maxFieldsPerRow : Nat := 256
def maxFieldChars : Nat := 4000
def importEnvelopeVersion : String := "1"

def knownFields : List PyStr :=
  ["title", "track", "track_title", "name", "artist", "artists", "artist_name", "album", "release",
    "release_title", "duration_ms", "duration", "external_id", "track_id", "id", "available", "is_available",
    "unavailable", "status", "provider", "provider_key", "market", "playlist", "playlist_id", "position",
    "isrc", "mbid", "sha256", "fingerprint", "fingerprint_algorithm", "fingerprint_version",
    "fingerprint_coverage"].map lit

/-! ## documents -/

inductive ImportFormat
  | csv
  | json
  | html
  | txt
  deriving DecidableEq, Repr

structure ImportEnvelope where
  format : ImportFormat
  content : Bytes
  schemaVersion : String
  adapterId : String
  adapterVersion : String
  version_eq : schemaVersion = importEnvelopeVersion
  size_pos : content ≠ []
  size_le : content.length ≤ maxImportBytes
  adapter_ok : 1 ≤ adapterId.length ∧ adapterId.length ≤ 200 ∧ 1 ≤ adapterVersion.length ∧
    adapterVersion.length ≤ 100

abbrev Fields := Dict PyStr Json

structure ParsedImportRow where
  sourceRowKey : String
  rowNumber : Nat
  rawFields : Fields
  title : PyStr
  artist : PyStr
  album : Option PyStr
  durationMs : Option Int
  externalId : Option PyStr
  availability : String
  unknownFieldCount : Nat
  errorCode : Option String

structure ParsedImport where
  envelope : ImportEnvelope
  encoding : String
  rows : List ParsedImportRow

/-- What leaves the parser: `ImportEnvelopeError`, `OverflowError`, `RecursionError`, or the `ValueError`
of an integer of too many digits. -/
inductive Escape
  | envelope (code : String)
  | overflow
  | recursion
  | digits
  deriving DecidableEq

/-! ## one row -/

section
variable (S : Python)

def strip (s : PyStr) : PyStr := stripWith S.isSpace s

/-- `_normalize_key` -/
def normalizeKey (value : PyStr) : PyStr :=
  let key := stripWith (· = 95) (collapseRuns false (S.casefold (strip S value)))
  if key = [] then lit "field" else key

/-- `_canonical_row_bytes` -/
def canonicalRowBytes (fields : Fields) : Except Escape Bytes :=
  if canonicalFields fields.items then .ok (S.encode fields.items)
  else .error (.envelope "import.row_not_canonicalizable")

/-- `f"{number:08d}"` -/
def padded (number : Nat) : String :=
  String.ofList (List.replicate (8 - (toString number).length) '0') ++ toString number

def sourceRowKey (number : Nat) (canonical : Bytes) : String :=
  "row:" ++ padded number ++ ":" ++ S.digest canonical

def unknownFieldCount (fields : Fields) : Nat := fields.items.countP fun e => ¬ knownFields.contains e.1

/-- A malformed row, with its fields as they are. -/
def malformed (number : Nat) (fields : Fields) (code : String) : ParsedImportRow where
  sourceRowKey := sourceRowKey S number (S.encode fields.items)
  rowNumber := number
  rawFields := fields
  title := []
  artist := []
  album := none
  durationMs := none
  externalId := none
  availability := "UNKNOWN"
  unknownFieldCount := unknownFieldCount fields
  errorCode := some code

/-- `_malformed_row` -/
def malformedRow (number : Nat) (fields : Fields) (code : String) : Except Escape ParsedImportRow :=
  (canonicalRowBytes S fields).map fun _ => malformed S number fields code

def allStr : List Json → Option (List PyStr)
  | [] => some []
  | .str s :: xs => (allStr xs).map (s :: ·)
  | _ :: _ => none

/-- `_scalar_text` -/
def scalarText : Option Json → PyStr
  | some (.str s) => (strip S s).take maxFieldChars
  | some (.bool b) => lit (if b then "true" else "false")
  | some (.int i) => lit (toString i)
  | some (.float (.finite _ text)) => text
  | some (.float .nan) => lit "nan"
  | some (.float (.infinity negative)) => lit (if negative then "-inf" else "inf")
  | some (.arr items) => (allStr items).elim [] fun texts => (join (lit "; ") texts).take maxFieldChars
  | some .null => []
  | some (.obj _) => []
  | none => []

/-- `_first_text` -/
def firstText (fields : Fields) (keys : List String) : PyStr :=
  ((keys.map fun key => scalarText S (fields.get? (lit key))).find? fun text => text ≠ []).getD []

inductive DurationError
  | invalid
  | overflow
  deriving DecidableEq

/-- `int(x)` of a float: it raises `ValueError` of a NaN, and `OverflowError` of an infinity. -/
def intOfFloat : PyFloat → Except DurationError Int
  | .nan => .error .invalid
  | .infinity _ => .error .overflow
  | .finite truncated _ => .ok truncated

/-- `0 < duration <= 24 * 60 * 60 * 1000` -/
def boundedDuration (duration : Int) : Except DurationError (Option Int) :=
  if 0 < duration ∧ duration ≤ 24 * 60 * 60 * 1000 then .ok (some duration) else .error .invalid

/-- `h:m:s` -/
def clockDuration (text : PyStr) : Except DurationError Int :=
  let pieces := splitOn 58 text
  if (pieces.length = 2 ∨ pieces.length = 3) ∧ ∀ piece ∈ pieces, piece ≠ [] ∧ piece.all S.isDigit = true then
    match pieces.mapM S.int with
    | none => .error .invalid
    | some values => .ok (values.foldl (fun seconds value => seconds * 60 + value) 0 * 1000)
  else .error .invalid

def textDuration (text : PyStr) : Except DurationError Int :=
  if text.contains 58 then clockDuration S text
  else
    match S.float text with
    | none => .error .invalid
    | some x => intOfFloat x

/-- `_duration_ms` -/
def durationMs : Option Json → Except DurationError (Option Int)
  | none => .ok none
  | some .null => .ok none
  | some (.bool _) => .error .invalid
  | some (.int i) => boundedDuration i
  | some (.float x) => (intOfFloat x).bind boundedDuration
  | some (.str s) => if s = [] then .ok none else (textDuration S (strip S s)).bind boundedDuration
  | some (.arr _) => .error .invalid
  | some (.obj _) => .error .invalid

/-- `mapping.get("duration_ms", mapping.get("duration"))` -/
def durationField (fields : Fields) : Option Json :=
  (fields.get? (lit "duration_ms")).orElse fun _ => fields.get? (lit "duration")

def isTrue : Option Json → Bool
  | some (.bool true) => true
  | _ => false

def isFalse : Option Json → Bool
  | some (.bool false) => true
  | _ => false

/-- `_availability` -/
def availability (fields : Fields) : String :=
  let folded (value : Option Json) := S.casefold (scalarText S value)
  let unavailable := fields.get? (lit "unavailable")
  let available := (fields.get? (lit "available")).orElse fun _ => fields.get? (lit "is_available")
  let status := folded (fields.get? (lit "status"))
  if isTrue unavailable || (["1", "true", "yes"].map lit).contains (folded unavailable) then "UNAVAILABLE"
  else if isFalse available || (["0", "false", "no"].map lit).contains (folded available) then "UNAVAILABLE"
  else if (["unavailable", "gray", "grey", "removed"].map lit).contains status then "UNAVAILABLE"
  else if isTrue available || (["available", "active"].map lit).contains status then "AVAILABLE"
  else "UNKNOWN"

/-- `{_normalize_key(key): value for key, value in supplied.items()}` -/
def normalizeFields (supplied : Fields) : Fields :=
  supplied.items.foldl (fun fields e => fields.set (normalizeKey S e.1) e.2) Dict.empty

def single (key : String) (value : Json) : Fields := Dict.empty.set (lit key) value

/-- A row whose duration is read. -/
def rowWithDuration (number : Nat) (fields : Fields) (duration : Option Int) : Except Escape ParsedImportRow :=
  let title := firstText S fields ["title", "track", "track_title", "name"]
  let artist := firstText S fields ["artist", "artists", "artist_name"]
  let album := firstText S fields ["album", "release", "release_title"]
  let externalId := firstText S fields ["external_id", "track_id", "id"]
  if title = [] ∨ artist = [] then malformedRow S number fields "import.required_metadata_missing"
  else
    (canonicalRowBytes S fields).map fun canonical =>
      { sourceRowKey := sourceRowKey S number canonical
        rowNumber := number
        rawFields := fields
        title := title
        artist := artist
        album := if album = [] then none else some album
        durationMs := duration
        externalId := if externalId = [] then none else some externalId
        availability := availability S fields
        unknownFieldCount := unknownFieldCount fields
        errorCode := none }

/-- `_row_from_mapping`: only `ValueError` of a duration is caught. -/
def rowFromMapping (number : Nat) (supplied : Fields) : Except Escape ParsedImportRow :=
  let fields := normalizeFields S supplied
  if maxFieldsPerRow < fields.items.length then
    malformedRow S number (single "field_count" (.int fields.items.length)) "import.row_field_limit"
  else
    match durationMs S (durationField fields) with
    | .error .overflow => .error .overflow
    | .error .invalid => malformedRow S number fields "import.duration_invalid"
    | .ok duration => rowWithDuration S number fields duration

/-! ## bounded JSON -/

inductive BoundError
  | code (code : String)
  | recursion
  deriving DecidableEq

mutual

/-- `_bounded_json_value`, with so many calls left; an object starts again at depth zero. -/
def boundedJsonValue : Nat → Nat → Json → Except BoundError Json
  | 0, _, _ => .error .recursion
  | frames + 1, depth, value =>
    if 8 < depth then .error (.code "import.row_nesting_limit")
    else
      match value with
      | .str s => if maxFieldChars < s.length then .error (.code "import.field_too_large") else .ok (.str s)
      | .arr items =>
        if maxFieldsPerRow < items.length then .error (.code "import.row_field_limit")
        else (items.mapM (boundedJsonValue frames (depth + 1))).map .arr
      | .obj fields => (boundedJsonObject frames fields).map fun output => .obj output.items
      | scalar => .ok scalar

/-- `_bounded_json_object` -/
def boundedJsonObject : Nat → List (PyStr × Json) → Except BoundError Fields
  | 0, _ => .error .recursion
  | frames + 1, fields =>
    if maxFieldsPerRow < fields.length then .error (.code "import.row_field_limit")
    else
      (fields.foldlM (fun (output : Fields) e =>
        if e.1 = [] ∨ 200 < e.1.length then .error (.code "import.field_name_invalid")
        else (boundedJsonValue frames 0 e.2).map fun value => output.set (normalizeKey S e.1) value)
        Dict.empty).bind fun output =>
          if canonicalFields output.items then
            if maxRowBytes < (S.encode output.items).length then .error (.code "import.row_too_large")
            else .ok output
          else .error (.code "import.row_not_canonicalizable")

end

/-! ## the rows of each format -/

/-- A data row with what it is read by. -/
inductive DataRow
  | csv (header : List PyStr) (line : PyStr)
  | json (item : Json)
  | html (header : List PyStr) (values : List PyStr)
  | txt (line : PyStr)

/-- The values of a row under its header. -/
def mappingOf (header values : List PyStr) : Fields :=
  header.zipIdx.foldl (fun fields p => fields.set p.1 (.str (values.getD p.2 []))) Dict.empty

/-- The values of a row, if there are as many as the header names. -/
def tableRow (number : Nat) (header values : List PyStr) (code : String) : Except Escape ParsedImportRow :=
  if values.length ≠ header.length then
    malformedRow S number ((mappingOf header values).set (lit "_column_count") (.int values.length)) code
  else rowFromMapping S number (mappingOf header values)

def rowPresent : Fields := single "row_present" (.bool true)

def csvRow (number : Nat) (header : List PyStr) (line : PyStr) : Except Escape ParsedImportRow :=
  if maxRowBytes < utf8Length line then malformedRow S number rowPresent "import.row_too_large"
  else
    match csvFields line with
    | none => malformedRow S number rowPresent "import.csv_row_malformed"
    | some values => tableRow S number header values "import.csv_column_count"

/-- `type(item).__name__` -/
def typeName : Json → String
  | .null => "NoneType"
  | .bool _ => "bool"
  | .int _ => "int"
  | .float _ => "float"
  | .str _ => "str"
  | .arr _ => "list"
  | .obj _ => "dict"

def jsonRow (number : Nat) (item : Json) : Except Escape ParsedImportRow :=
  match item with
  | .obj fields =>
    match boundedJsonObject S S.frames fields with
    | .error .recursion => .error .recursion
    | .error (.code code) => malformedRow S number rowPresent code
    | .ok sanitized => rowFromMapping S number sanitized
  | other => malformedRow S number (single "value_type" (.str (lit (typeName other)))) "import.row_not_object"

def txtFields (artist title album : PyStr) : Fields :=
  ((Dict.empty.set (lit "artist") (.str artist)).set (lit "title") (.str title)).set (lit "album") (.str album)

def txtRow (number : Nat) (rawLine : PyStr) : Except Escape ParsedImportRow :=
  let line := strip S rawLine
  let tabFields := (splitOn 9 line).map (strip S)
  if maxRowBytes < utf8Length rawLine then malformedRow S number rowPresent "import.row_too_large"
  else
    match tabFields with
    | [artist, title] => rowFromMapping S number (txtFields artist title [])
    | [artist, title, album] => rowFromMapping S number (txtFields artist title album)
    | _ =>
      match partition (lit " - ") line with
      | some (artist, title) => rowFromMapping S number (txtFields (strip S artist) (strip S title) [])
      | none => malformedRow S number rowPresent "import.txt_row_malformed"

def DataRow.read (number : Nat) : DataRow → Except Escape ParsedImportRow
  | .csv header line => csvRow S number header line
  | .json item => jsonRow S number item
  | .html header values => tableRow S number header values "import.html_column_count"
  | .txt line => txtRow S number line

abbrev Rows := List (Nat × DataRow)

/-! ### the envelopes -/

/-- `enumerate(rows, start=first)` -/
def numbered {α : Type} (first : Nat) (make : α → DataRow) (rows : List α) : Rows :=
  (rows.zipIdx first).map fun p => (p.2, make p.1)

def normalizedHeader (code : String) (header : List PyStr) : Except Escape (List PyStr) :=
  let normalized := header.map (normalizeKey S)
  if normalized = [] ∨ ¬ normalized.Nodup then .error (.envelope code) else .ok normalized

def csvRows (text : PyStr) : Except Escape Rows :=
  match splitLines text with
  | [] => .error (.envelope "import.csv_header_missing")
  | first :: lines =>
    match csvFields first with
    | none => .error (.envelope "import.csv_header_malformed")
    | some header =>
      (normalizedHeader S "import.csv_header_invalid" header).map fun names => numbered 2 (.csv names) lines

/-- The value of a key of an object, as a `dict` has it. -/
def lookup (fields : List (PyStr × Json)) (key : String) : Option Json :=
  (fields.find? fun e => e.1 = lit key).map Prod.snd

/-- The tracks of a document. -/
def jsonRows (root : Json) (declaredSchema : String) : Except Escape Rows :=
  let tracks : Except Escape (Option Json) :=
    match root with
    | .obj fields =>
      if ((lookup fields "schema_version").map S.strOf).getD (lit declaredSchema) ≠ lit declaredSchema then
        .error (.envelope "import.schema_version_mismatch")
      else .ok (lookup fields "tracks")
    | other => .ok (some other)
  tracks.bind fun values =>
    match values with
    | some (.arr items) => .ok (numbered 1 .json items)
    | _ => .error (.envelope "import.json_tracks_missing")

/-- `json.loads` -/
def loads (text : PyStr) : Except Escape Json :=
  match S.json text with
  | none => .error (.envelope "import.json_malformed")
  | some root =>
    if root.hugeInt then .error .digits
    else if S.scannerDepth < root.depth then .error .recursion
    else .ok root

/-- The state of `_TableParser`. -/
structure Table where
  rows : List (List PyStr)
  row : Option (List PyStr)
  cell : Option (List PyStr)
  ignoredDepth : Nat

def Table.start (t : Table) (tag : HtmlTag) : Table :=
  if tag = .script ∨ tag = .style then { t with ignoredDepth := t.ignoredDepth + 1 }
  else if t.ignoredDepth = 0 ∧ tag = .tr then { t with row := some [] }
  else if t.ignoredDepth = 0 ∧ (tag = .td ∨ tag = .th) ∧ t.row.isSome = true then { t with cell := some [] }
  else t

/-- The text of a cell. -/
def cellText (cell : List PyStr) : PyStr := strip S (collapseSpaces S.isSpace false cell.flatten)

/-- An end tag; `none` is the failure of the assertion that a cell is in a row. -/
def Table.close (t : Table) (tag : HtmlTag) : Option Table :=
  if (tag = .script ∨ tag = .style) ∧ t.ignoredDepth ≠ 0 then
    some { t with ignoredDepth := t.ignoredDepth - 1 }
  else if t.ignoredDepth = 0 ∧ (tag = .td ∨ tag = .th) ∧ t.cell.isSome = true then
    t.row.map fun row => { t with row := some (row ++ [cellText S (t.cell.getD [])]), cell := none }
  else if t.ignoredDepth = 0 ∧ tag = .tr then
    match t.row with
    | none => some t
    | some row => some { t with rows := if row = [] then t.rows else t.rows ++ [row], row := none }
  else some t

def Table.data (t : Table) (text : PyStr) : Table :=
  if t.ignoredDepth = 0 then { t with cell := t.cell.map (· ++ [text]) } else t

def Table.handle (t : Table) : HtmlEvent → Option Table
  | .startTag tag => some (t.start tag)
  | .endTag tag => t.close S tag
  | .data text => some (t.data text)

/-- The table after the events, as far as the assertion holds, and whether it failed. -/
def Table.feed (t : Table) : List HtmlEvent → Table × Bool
  | [] => (t, false)
  | e :: events =>
    match t.handle S e with
    | none => (t, true)
    | some t' => t'.feed events

def htmlTable (text : PyStr) : Table × Bool := (⟨[], none, none, 0⟩ : Table).feed S (S.html text)

def htmlRows (table : Table) : Except Escape Rows :=
  match table.rows with
  | [] => .error (.envelope "import.html_table_missing")
  | header :: rows =>
    (normalizedHeader S "import.html_header_invalid" header).map fun names => numbered 2 (.html names) rows

/-- A blank line, and the header that a list may have. -/
def skipsLine (number : Nat) (rawLine : PyStr) : Bool :=
  let line := strip S rawLine
  let folded := (splitOn 9 line).map fun value => S.casefold (strip S value)
  line = [] || (utf8Length rawLine ≤ maxRowBytes && number = 1 &&
    (folded = ["artist", "title"].map lit || folded = ["artist", "title", "album"].map lit))

def txtRows (text : PyStr) : Except Escape Rows :=
  let rows := ((splitLines text).zipIdx 1).filter fun p => ! skipsLine S p.2 p.1
  if rows = [] then .error (.envelope "import.txt_empty") else .ok (rows.map fun p => (p.2, .txt p.1))

/-! ## an import -/

/-- `_decode` -/
def decode (content : Bytes) : Except Escape (PyStr × String) :=
  match S.decodeUtf8Sig content with
  | some text => .ok (text, "utf-8-sig")
  | none =>
    match S.decodeCp1251 content with
    | some text => .ok (text, "cp1251")
    | none => .error (.envelope "import.encoding_unsupported")

/-- The loop over the rows. -/
def readRows (rows : Rows) : Except Escape (List ParsedImportRow) := rows.mapM fun p => p.2.read S p.1

def parseHtml (text : PyStr) : Except Escape (List ParsedImportRow) :=
  if (htmlTable S text).2 then .error (.envelope "import.html_malformed")
  else (htmlRows S (htmlTable S text).1).bind (readRows S)

def parseFormat (format : ImportFormat) (schemaVersion : String) (text : PyStr) :
    Except Escape (List ParsedImportRow) :=
  match format with
  | .csv => (csvRows S text).bind (readRows S)
  | .json => (loads S text).bind fun root => (jsonRows S root schemaVersion).bind (readRows S)
  | .html => parseHtml S text
  | .txt => (txtRows S text).bind (readRows S)

/-- `parse_import` -/
def parseImport (e : ImportEnvelope) : Except Escape ParsedImport :=
  (decode S e.content).bind fun p =>
    (parseFormat S e.format e.schemaVersion p.1).bind fun rows =>
      if maxImportRows < rows.length then .error (.envelope "import.row_limit_exceeded")
      else .ok ⟨e, p.2, rows⟩

end

end AutPlay.Imports
