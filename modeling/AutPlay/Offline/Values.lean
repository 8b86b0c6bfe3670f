import AutPlay.Sona.Canonical
import AutPlay.Recommend.Temporal
import AutPlay.Lib.Result

/-!
# Values of the offline temporal delta

* `written`            what is parsed back from the text that RFC 8785 gives to a value;
* `DeltaTools`         the canonicalizer, the parser and the digest;
* `deterministicUuid`  an identifier of digest bytes;
* values               packs, journal rows, items, and the stored delta.

Numbers are exact; a `Long` is an integer.
-/

set_option linter.unusedSectionVars false

namespace AutPlay.Offline

open AutPlay.Sync (Uuid Json Payload isCanonicalUuid fitsUuidFrom fitsUuidAt isHexLower)
open AutPlay.Sona (sortFields keysOf plain sortFields_map sortFields_sortFields)

/-! ## canonical text -/

section
variable (jcsInt : Int → Int)

mutual

/-- A value after RFC 8785 and back. Integers go through a double: `jcsInt` is what is left of them. -/
def written : Json → Json
  | .int i => .int (jcsInt i)
  | .float q => if plain q then .int (jcsInt q.num) else .float q
  | .arr items => .arr (writtenItems items)
  | .obj fields => .obj (sortFields (writtenFields fields))
  | v => v

def writtenItems : List Json → List Json
  | [] => []
  | x :: xs => written x :: writtenItems xs

def writtenFields : List (String × Json) → List (String × Json)
  | [] => []
  | x :: xs => (x.1, written x.2) :: writtenFields xs

end

theorem writtenItems_eq (items : List Json) :
    writtenItems jcsInt items = items.map (written jcsInt) := by
  induction items with
  | nil => rfl
  | cons x xs ih => rw [writtenItems, ih, List.map_cons]

theorem writtenFields_eq (fields : Payload) :
    writtenFields jcsInt fields = fields.map fun x => (x.1, written jcsInt x.2) := by
  induction fields with
  | nil => rfl
  | cons x xs ih => rw [writtenFields, ih, List.map_cons]

/-- The fields of a written object. -/
def writtenObj (fields : Payload) : Payload :=
  sortFields (fields.map fun x => (x.1, written jcsInt x.2))

theorem written_obj (fields : Payload) :
    written jcsInt (.obj fields) = .obj (writtenObj jcsInt fields) := by
  rw [written, writtenFields_eq]
  rfl

theorem written_arr (items : List Json) :
    written jcsInt (.arr items) = .arr (items.map (written jcsInt)) := by
  rw [written, writtenItems_eq]

end

section
variable {jcsInt : Int → Int} (hidem : ∀ i, jcsInt (jcsInt i) = jcsInt i)
include hidem

mutual

/-- What is written is written as it is. -/
theorem written_written (v : Json) : written jcsInt (written jcsInt v) = written jcsInt v := by
  cases v with
  | int i => rw [written, written, hidem]
  | float q =>
    rw [written]
    split
    next => rw [written, hidem]
    next hq => rw [written, if_neg hq]
  | arr items => rw [written, written, writtenItems_writtenItems items]
  | obj fields =>
    rw [written, written, writtenFields_eq, sortFields_map, sortFields_sortFields,
      ← writtenFields_eq, writtenFields_writtenFields fields]
  | null => rfl
  | bool b => rfl
  | str s => rfl

theorem writtenItems_writtenItems (items : List Json) :
    writtenItems jcsInt (writtenItems jcsInt items) = writtenItems jcsInt items := by
  cases items with
  | nil => rfl
  | cons x xs => rw [writtenItems, writtenItems, written_written x, writtenItems_writtenItems xs]

theorem writtenFields_writtenFields (fields : List (String × Json)) :
    writtenFields jcsInt (writtenFields jcsInt fields) = writtenFields jcsInt fields := by
  cases fields with
  | nil => rfl
  | cons x xs =>
    rw [writtenFields, writtenFields, written_written x.2, writtenFields_writtenFields xs]

end

end

abbrev Byte := Fin 256

/-- What the libraries do: the text of a canonical value, `JsonCanonicalizer` on a text, the parser,
the digest, the integers that are written, and what the accessors make of a string literal. -/
structure DeltaTools where
  text : Json → String
  canonicalize : String → Option String
  parse : String → Option Json
  sha256 : String → List Byte
  jcsInt : Int → Int
  longOf : String → Option Int
  doubleOf : String → Option ℚ
  booleanOf : String → Option Bool
  sha256_length : ∀ text, (sha256 text).length = 32
  jcsInt_safe : ∀ i, |i| ≤ 2 ^ 53 → jcsInt i = i
  jcsInt_jcsInt : ∀ i, jcsInt (jcsInt i) = jcsInt i

/-- `JsonCanonicalizer(value.toString())` -/
def DeltaTools.jcs (tools : DeltaTools) (value : Json) : String :=
  tools.text (written tools.jcsInt value)

/-- The text of the value is canonical, and is parsed as what was written. -/
structure DeltaTools.Reads (tools : DeltaTools) (value : Json) : Prop where
  canonical : tools.canonicalize (tools.jcs value) = some (tools.jcs value)
  parsed : tools.parse (tools.jcs value) = some (written tools.jcsInt value)
  nonempty : tools.jcs value ≠ ""

/-! ## bytes -/

def hexDigit (n : Nat) : Char := "0123456789abcdef".toList.getD n '0'

theorem isHexLower_hexDigit (n : Nat) : isHexLower (hexDigit n) = true := by
  rcases lt_or_ge n 16 with hn | hn
  · revert n
    decide
  · unfold hexDigit
    rw [List.getD_eq_getElem?_getD, List.getElem?_eq_none hn]
    rfl

def hexPair (byte : Byte) : List Char := [hexDigit (byte / 16), hexDigit (byte % 16)]

/-- `ByteArray.toHex` -/
def toHex (bytes : List Byte) : String := String.ofList (bytes.flatMap hexPair)

def hexValue (c : Char) : Nat := "0123456789abcdef".toList.idxOf c

def byteOf (n : Nat) : Byte := Fin.ofNat 256 n

/-- `String.hexBytes` -/
def hexBytesFrom : List Char → List Byte
  | a :: b :: rest => byteOf (hexValue a * 16 + hexValue b) :: hexBytesFrom rest
  | _ => []

def hexBytes (text : String) : List Byte := hexBytesFrom text.toList

/-- `Regex("^[0-9a-f]{64}$")` -/
def sha256Hex (text : String) : Bool := text.length == 64 && text.toList.all isHexLower

/-- The text of `UUID(high, low)` of sixteen bytes. -/
def uuidChars (bytes : List Byte) : List Char :=
  let pair (i : Nat) : List Char := hexPair (bytes.getD i 0)
  pair 0 ++ pair 1 ++ pair 2 ++ pair 3 ++ '-' :: pair 4 ++ pair 5 ++ '-' :: pair 6 ++ pair 7 ++
    '-' :: pair 8 ++ pair 9 ++ '-' :: pair 10 ++ pair 11 ++ pair 12 ++ pair 13 ++ pair 14 ++ pair 15

theorem fits_uuidChars (bytes : List Byte) : fitsUuidFrom 0 (uuidChars bytes) = true := by
  unfold uuidChars hexPair
  simp [fitsUuidFrom, fitsUuidAt, isHexLower_hexDigit]

def uuidOfBytes (bytes : List Byte) : Uuid where
  text := String.ofList (uuidChars bytes)
  canonical := by
    unfold isCanonicalUuid
    rw [String.toList_ofList]
    exact fits_uuidChars bytes

/-- The version and variant bits, over the first sixteen bytes of the digest. -/
def stampVersion (digest : List Byte) : List Byte :=
  ((digest.take 16).modify 6 fun byte => Fin.ofNat 256 (byte % 16 + 128)).modify 8
    fun byte => Fin.ofNat 256 (byte % 64 + 128)

section
variable (tools : DeltaTools)

def deterministicUuid (material : String) : Uuid := uuidOfBytes (stampVersion (tools.sha256 material))

def canonicalSha256 (value : Json) : String := toHex (tools.sha256 (tools.jcs value))

end

/-! ## values -/

inductive OfflineTemporalDeltaErrorCode
  | envelopeMismatch
  | hashInvalid
  | nonCanonicalPayload
  | malformedPayload
  | ownerMismatch
  | deviceMismatch
  | parentMismatch
  | policyMismatch
  | eventInvalid
  | adjustmentInvalid
  | expired
  deriving DecidableEq

/-- What is thrown: an `OfflineTemporalDeltaException`, by its code, or what a failed `require`,
`addExact` or `getValue` throws. -/
inductive Thrown
  | delta (code : OfflineTemporalDeltaErrorCode)
  | illegalArgument
  | arithmetic
  | noSuchElement
  deriving DecidableEq

/-- The identifiers are canonical UUIDs by their constructors. -/
structure ClientEventBinding where
  userId : Uuid
  deviceId : Uuid
  serverProfileId : Uuid

/-- What is read of a stored pack. -/
structure RecommendationPackEntity where
  offlinePackId : String
  serverProfileId : String
  ownerUserId : String
  payload : String
  payloadSha256 : List Byte

structure OfflinePackItem where
  recordingId : Uuid
  sourceRank : Int
  packPosition : Int
  deriving DecidableEq

/-- What is read of a decoded pack; the fields below `items` are what its decoder has checked. -/
structure DecodedOfflinePack (jcsInt : Int → Int) where
  offlinePackId : Uuid
  recommendationRequestId : Uuid
  userId : Uuid
  deviceId : Uuid
  createdAtMs : Int
  expiresAtMs : Int
  items : List OfflinePackItem
  items_bounded : items.length ≤ 100
  ranks : ∀ item ∈ items, 1 ≤ item.sourceRank ∧ item.sourceRank ≤ 1000
  positions : ∀ item ∈ items, 1 ≤ item.packPosition ∧ item.packPosition ≤ 100
  recordings_distinct : (items.map OfflinePackItem.recordingId).Nodup
  ranks_distinct : (items.map OfflinePackItem.sourceRank).Nodup
  positions_distinct : (items.map OfflinePackItem.packPosition).Nodup
  times_range : 0 ≤ createdAtMs ∧ createdAtMs < expiresAtMs ∧ expiresAtMs < 2 ^ 63
  /-- The times were read from canonical text. -/
  times_canonical : jcsInt createdAtMs = createdAtMs ∧ jcsInt expiresAtMs = expiresAtMs

structure LocalTemporalJournalRow where
  sourceEventId : String
  ownerUserId : String
  serverProfileId : String
  deviceId : String
  deviceSequence : Int
  sourceEventType : String
  aggregateLocalId : String
  payloadJson : String
  sourceRequestSha256 : List Byte
  occurredAtMs : Int
  recordingId : Option String
  deriving DecidableEq

structure HomeRecommendationItem where
  offlinePackId : String
  recommendationRequestId : String
  recordingId : Uuid
  localUserTrackRefId : String
  title : String
  artist : String
  sourceRank : Int
  packPosition : Int
  displayPosition : Int
  sectionKey : String
  surface : String
  source : String
  reasonCode : String
  deltaId : Option Uuid
  impressionEventId : Option Uuid
  impressionKeySha256 : Option String
  deriving DecidableEq

def HomeRecommendationItem.pair (item : HomeRecommendationItem) : Uuid × Int :=
  (item.recordingId, item.sourceRank)

structure OfflineTemporalAdjustment where
  recordingId : Uuid
  sourceRank : Int
  displayPosition : Int
  boundedDelta : ℚ
  impressionEventId : Uuid
  impressionKeySha256 : String
  deriving DecidableEq

def OfflineTemporalAdjustment.pair (adjustment : OfflineTemporalAdjustment) : Uuid × Int :=
  (adjustment.recordingId, adjustment.sourceRank)

structure DecodedOfflineTemporalDelta where
  deltaId : Uuid
  offlinePackId : Uuid
  recommendationRequestId : Uuid
  createdAtMs : Int
  expiresAtMs : Int
  adjustments : List OfflineTemporalAdjustment

structure RecommendationTemporalDeltaEntity where
  deltaId : String
  serverProfileId : String
  ownerUserId : String
  deviceId : String
  offlinePackId : String
  recommendationRequestId : String
  featurePolicyVersion : String
  featurePolicySha256 : List Byte
  parentPackSha256 : List Byte
  parentItemsSha256 : List Byte
  payloadVersion : Int
  payloadEncoding : String
  payload : String
  payloadSha256 : List Byte
  cutoffAtMs : Int
  createdAtMs : Int
  expiresAtMs : Int
  deriving DecidableEq

end AutPlay.Offline
