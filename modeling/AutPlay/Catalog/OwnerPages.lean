import AutPlay.Lib.Paging
import AutPlay.Sync.Value
import AutPlay.Sync.Event
import Mathlib.Data.List.Sort
import Mathlib.Data.List.Dedup

/-!
# Pages of an owner proof

The credit link of a recording or a release is published with the recordings through which its
owner reaches it, a hundred a page.  The pages of one proof share a scope, the SHA-256 digest of the
sorted recordings.
-/

set_option linter.unusedSectionVars false

namespace AutPlay.Catalog
open Sync

/-- What a credit link is about. -/
inductive SubjectType
  | recording
  | release
  deriving DecidableEq, Repr

namespace SubjectType

def subjectKey : SubjectType → String
  | recording => "recording_id"
  | release => "release_id"

def aggregateType : SubjectType → AggregateType
  | recording => .recordingArtistCredit
  | release => .releaseArtistCredit

def eventType : SubjectType → EventType
  | recording => .catalogRecordingCreditLinkUpserted
  | release => .catalogReleaseCreditLinkUpserted

end SubjectType

/-- `_OWNER_RECORDING_PAGE_SIZE`. -/
def ownerRecordingPageSize : Nat := 100

/-- One item of `_owner_recording_pages`. -/
structure OwnerPage where
  ownerScopeId : String
  ownerRecordingPage : Nat
  ownerRecordingPageCount : Nat
  ownerRecordingIds : List Uuid
  deriving DecidableEq

/-- `sorted(set(recording_ids), key=str)`. -/
def ordered (recordingIds : List Uuid) : List Uuid := recordingIds.dedup.insertionSort (· ≤ ·)

section
variable (sha256 : String → String)

/-- The digest of a proof; `sha256` is the hexadecimal digest of a text. -/
def ownerScopeId (recordingIds : List Uuid) : String :=
  sha256 (String.intercalate "\x00" ((ordered recordingIds).map Uuid.text))

/-- The item of page `p`. -/
def ownerPage (recordingIds : List Uuid) (p : Nat) : OwnerPage where
  ownerScopeId := ownerScopeId sha256 recordingIds
  ownerRecordingPage := p
  ownerRecordingPageCount := pageCount ownerRecordingPageSize (ordered recordingIds)
  ownerRecordingIds := page ownerRecordingPageSize (ordered recordingIds) p

/-- **`_owner_recording_pages`**. -/
def ownerRecordingPages (recordingIds : List Uuid) : Except Refusal (List OwnerPage) :=
  if ordered recordingIds = [] then .error .valueError
  else
    .ok ((List.range (pageCount ownerRecordingPageSize (ordered recordingIds))).map
      (ownerPage sha256 recordingIds))

end

/-- The payload of a credit link with one page of its owner proof. -/
def creditLinkPayload (type : SubjectType) (subjectId creditId : Uuid) (p : OwnerPage)
    (deletedAt : Option String) : Payload :=
  [(type.subjectKey, .str subjectId.text),
   ("artist_credit_id", .str creditId.text),
   ("owner_scope_id", .str p.ownerScopeId),
   ("owner_recording_page", .int p.ownerRecordingPage),
   ("owner_recording_page_count", .int p.ownerRecordingPageCount),
   ("owner_recording_ids", .arr (p.ownerRecordingIds.map (fun id => .str id.text))),
   ("deleted_at", (deletedAt.map Json.str).getD .null)]

section
variable {recordingIds : List Uuid}

theorem mem_ordered {id : Uuid} : id ∈ ordered recordingIds ↔ id ∈ recordingIds := by
  unfold ordered
  rw [List.mem_insertionSort, List.mem_dedup]

theorem nodup_ordered (recordingIds : List Uuid) : (ordered recordingIds).Nodup := by
  unfold ordered
  rw [(List.perm_insertionSort _ _).nodup_iff]
  exact List.nodup_dedup _

theorem ordered_ne_nil (h : recordingIds ≠ []) : ordered recordingIds ≠ [] := by
  obtain ⟨id, hid⟩ := List.exists_mem_of_ne_nil _ h
  exact List.ne_nil_of_mem (mem_ordered.mpr hid)

theorem ownerRecordingPages_ok (sha256 : String → String) (h : recordingIds ≠ []) :
    ownerRecordingPages sha256 recordingIds =
      .ok ((List.range (pageCount ownerRecordingPageSize (ordered recordingIds))).map
        (ownerPage sha256 recordingIds)) :=
  if_neg (ordered_ne_nil h)

end

end AutPlay.Catalog
