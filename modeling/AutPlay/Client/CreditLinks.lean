import AutPlay.Client.Remote
import AutPlay.Catalog.OwnerPages

/-!
# Credit links on the client

`applyArtistCreditLinkProjection` puts the pages of an owner proof together.  Of what it has received
the client keeps the scope, the row version, the credit, the last page and the last sequence; a page
of another scope has to be the first, any other page the one after the last.

* `readOwnerPage`, `storeOwnerPage`   the checks of the payload, and what is stored;
* `Consistent`                        the invariant of the stored state;
* `consistent_store`                  no published page, in any order, breaks it;
* `owner_pages_round_trip`            all the pages in order, with any repetitions, store the proof.

Page numbers are integers here.  The client narrows them to 32 bits, which no proof of fewer than
two hundred thousand million recordings reaches.
-/

set_option linter.unusedSectionVars false

namespace AutPlay.Client
open Sync Catalog

/-! ## the stored state -/

/-- `CatalogArtistCreditLinkEntity`, for one subject. -/
structure CreditLink where
  artistCreditId : Uuid
  ownerScopeId : String
  ownerPageCount : Int
  lastOwnerPage : Int
  ownerScopeComplete : Bool
  serverRowVersion : Int
  lastServerSequence : Int
  deletedAtMs : Option Int
  deriving DecidableEq

/-- `CatalogArtistCreditLinkOwnerEntity`, for one subject. -/
structure LinkOwner where
  localOwnerId : Uuid
  ownerScopeId : String
  ownerRecordingId : Uuid
  deriving DecidableEq

/-- The rows of one profile, one subject type and one subject. -/
structure LinkState where
  link : Option CreditLink
  owners : List LinkOwner
  deriving DecidableEq

def LinkState.empty : LinkState := ⟨none, []⟩

/-- `@Upsert` of one row, by its primary key. -/
def upsertOwner (rows : List LinkOwner) (r : LinkOwner) : List LinkOwner :=
  if rows.any (fun x => x.localOwnerId = r.localOwnerId) then
    rows.map (fun x => if x.localOwnerId = r.localOwnerId then r else x)
  else rows ++ [r]

def upsertOwners (rows new : List LinkOwner) : List LinkOwner := new.foldl upsertOwner rows

/-! ## `applyArtistCreditLinkProjection` -/

/-- `MAX_OWNER_RECORDING_PAGE`. -/
def maxOwnerRecordingPage : Nat := 100

/-- `OWNER_SCOPE_PATTERN`: `^[a-f0-9]{64}$`. -/
def isOwnerScope (s : String) : Bool := s.toList.length = 64 ∧ s.toList.all isHexLower

/-- What the checks of the payload leave. -/
structure ReadPage where
  type : SubjectType
  subjectId : Uuid
  creditId : Uuid
  ownerIds : List Uuid
  scopeId : String
  ownerPage : Int
  ownerPageCount : Int
  deriving DecidableEq

/-- `type`: every other event of the projection is about a release. -/
def subjectTypeOf (event : RemoteEvent) : SubjectType :=
  if event.eventType = .catalogRecordingCreditLinkUpserted then .recording else .release

/-- An element of `owner_recording_ids`. -/
def readOwnerId (element : Json) : Option Uuid := (contentOrNull element).bind canonicalUuid

/-- The checks of the payload; `none` is `return false`. -/
def readOwnerPage (event : RemoteEvent) : Option ReadPage := do
  let type := subjectTypeOf event
  let subjectId ← (payloadString event.payload type.subjectKey).bind canonicalUuid
  let creditId ← (payloadString event.payload "artist_credit_id").bind canonicalUuid
  match event.payload.lookup "owner_recording_ids" with
  | some (.arr elements) =>
    if elements = [] ∨ maxOwnerRecordingPage < elements.length then none
    else
      let ownerIds ← elements.mapM readOwnerId
      if ¬ ownerIds.Nodup then none
      else
        let scopeId ← (payloadString event.payload "owner_scope_id").filter isOwnerScope
        let ownerPage ← payloadLong event.payload "owner_recording_page"
        let ownerPageCount ← payloadLong event.payload "owner_recording_page_count"
        if ownerPageCount < 1 ∨ ownerPage < 0 ∨ ownerPageCount ≤ ownerPage then none
        else if event.aggregateType ≠ type.aggregateType ∨
            event.aggregateServerId ≠ some subjectId then none
        else
          return ⟨type, subjectId, creditId, ownerIds.insertionSort (· ≤ ·), scopeId, ownerPage,
            ownerPageCount⟩
  | _ => none

section
variable (nameUuid : String → Uuid) (profile : Uuid)

/-- The name of an owner row: `remoteLocalId` hashes it with the profile. -/
def ownerName (type : SubjectType) (subjectId : Uuid) (scopeId : String) (ownerId : Uuid) :
    String :=
  profile.text ++ ":artist-credit-link-owner:" ++
    (match type with | .recording => "RECORDING" | .release => "RELEASE") ++ ":" ++
    subjectId.text ++ ":" ++ scopeId ++ ":" ++ ownerId.text

def ownerRow (page : ReadPage) (ownerId : Uuid) : LinkOwner where
  localOwnerId := nameUuid (ownerName profile page.type page.subjectId page.scopeId ownerId)
  ownerScopeId := page.scopeId
  ownerRecordingId := ownerId

/-- The link row that a page leaves. -/
def linkRow (page : ReadPage) (version sequence : Int) (deletedAtMs : Option Int) : CreditLink where
  artistCreditId := page.creditId
  ownerScopeId := page.scopeId
  ownerPageCount := page.ownerPageCount
  lastOwnerPage := page.ownerPage
  ownerScopeComplete := page.ownerPage = page.ownerPageCount - 1
  serverRowVersion := version
  lastServerSequence := sequence
  deletedAtMs := deletedAtMs

/-- The link that a page of the same proof continues; `none` when the page opens a new scope. -/
def continued (link : Option CreditLink) (page : ReadPage) (version : Int) : Option CreditLink :=
  link.filter (fun l => l.ownerScopeId = page.scopeId ∧ l.serverRowVersion = version ∧
    l.artistCreditId = page.creditId)

/-- The rows after the upserts of a page. -/
def putOwnerPage (page : ReadPage) (version sequence : Int) (deletedAtMs : Option Int)
    (owners : List LinkOwner) : LinkState where
  link := some (linkRow page version sequence deletedAtMs)
  owners := upsertOwners owners (page.ownerIds.map (ownerRow nameUuid profile page))

/-- What a page that has been read does to the stored state. -/
def storeOwnerPage (page : ReadPage) (version sequence : Int) (deletedAtMs : Option Int)
    (state : LinkState) : Option LinkState :=
  let put := putOwnerPage nameUuid profile page version sequence deletedAtMs
  if state.link.any (fun l => version < l.serverRowVersion) then some state
  else if state.link.any (fun l => 0 < sequence ∧ sequence ≤ l.lastServerSequence) then some state
  else
    match continued state.link page version with
    | none => if page.ownerPage ≠ 0 then none else some (put [])
    | some current =>
      if current.ownerPageCount ≠ page.ownerPageCount then none
      else if page.ownerPage ≤ current.lastOwnerPage then some state
      else if page.ownerPage ≠ current.lastOwnerPage + 1 then none
      else some (put state.owners)

/-- **`applyArtistCreditLinkProjection`**; `none` is its `false`, which undoes the transaction. -/
def applyArtistCreditLinkProjection (event : RemoteEvent) (version : Int)
    (deletedAtMs : Option Int) (state : LinkState) : Option LinkState :=
  (readOwnerPage event).bind
    (fun page => storeOwnerPage nameUuid profile page version event.sequence deletedAtMs state)

end

/-! ## upserts -/

section
variable {rows new : List LinkOwner} {r x : LinkOwner}

theorem upsertOwner_eq (h : ∀ x ∈ rows, x.localOwnerId = r.localOwnerId → x = r) :
    ∀ x, x ∈ upsertOwner rows r ↔ x ∈ rows ∨ x = r := by
  intro x
  unfold upsertOwner
  by_cases ha : rows.any (fun x => x.localOwnerId = r.localOwnerId)
  · rw [if_pos ha]
    obtain ⟨y, hy, hk⟩ := List.any_eq_true.mp ha
    have hyr : y = r := h y hy (of_decide_eq_true hk)
    have hmap : rows.map (fun x => if x.localOwnerId = r.localOwnerId then r else x) = rows := by
      conv_rhs => rw [← List.map_id rows]
      refine List.map_congr_left fun z hz => ?_
      by_cases hz' : z.localOwnerId = r.localOwnerId
      · rw [if_pos hz', h z hz hz']
        rfl
      · rw [if_neg hz']
        rfl
    rw [hmap]
    constructor
    · exact Or.inl
    · rintro (hx | rfl)
      · exact hx
      · exact hyr ▸ hy
  · rw [if_neg ha, List.mem_append, List.mem_singleton]

/-- Rows whose keys are theirs alone are all there after an upsert. -/
theorem mem_upsertOwners
    (h : ∀ x, x ∈ rows ∨ x ∈ new → ∀ y ∈ new, x.localOwnerId = y.localOwnerId → x = y) :
    x ∈ upsertOwners rows new ↔ x ∈ rows ∨ x ∈ new := by
  unfold upsertOwners
  induction new generalizing rows with
  | nil => simp
  | cons r new ih =>
    have hr : ∀ x, x ∈ upsertOwner rows r ↔ x ∈ rows ∨ x = r :=
      upsertOwner_eq fun x hx hk => h x (Or.inl hx) r (List.mem_cons_self ..) hk
    rw [List.foldl_cons, ih, hr, List.mem_cons, or_assoc]
    intro x hx y hy hk
    refine h x ?_ y (List.mem_cons_of_mem _ hy) hk
    rcases hx with hx | hx
    · rcases (hr x).mp hx with hx | rfl
      · exact Or.inl hx
      · exact Or.inr (List.mem_cons_self ..)
    · exact Or.inr (List.mem_cons_of_mem _ hx)

end

/-! ## published pages -/

section
variable (sha256 : String → String) (nameUuid : String → Uuid) (profile : Uuid)
  (type : SubjectType) (subjectId : Uuid)

/-- Page `p` of the proof of `recordingIds`, as it is read. -/
def publishedPage (creditId : Uuid) (recordingIds : List Uuid) (p : Nat) : ReadPage where
  type := type
  subjectId := subjectId
  creditId := creditId
  ownerIds := page ownerRecordingPageSize (ordered recordingIds) p
  scopeId := ownerScopeId sha256 recordingIds
  ownerPage := p
  ownerPageCount := pageCount ownerRecordingPageSize (ordered recordingIds)

/-- The event that carries the page. -/
def pageEvent (eventId creditId : Uuid) (version sequence : Int) (deletedAt : Option String)
    (p : OwnerPage) : RemoteEvent where
  eventId := eventId
  sequence := sequence
  eventType := type.eventType
  schemaVersion := 1
  payload := creditLinkPayload type subjectId creditId p deletedAt
  aggregateType := type.aggregateType
  aggregateServerId := some subjectId
  serverRowVersion := some version
  operation := .upsert
  tombstoneId := none
  redirectServerId := none

/-- The assumptions on the two digests for the proofs that were published: a SHA-256 digest is 64
hexadecimal digits, no two of the proofs share one, and no two owners of a proof share the name UUID
of their rows. -/
structure NoCollision (published : List (List Uuid)) : Prop where
  hex : ∀ s, isOwnerScope (sha256 s) = true
  scopes : ∀ a ∈ published, ∀ b ∈ published, ownerScopeId sha256 a = ownerScopeId sha256 b →
    ordered a = ordered b
  names : ∀ a ∈ published, ∀ x ∈ a, ∀ y ∈ a,
    nameUuid (ownerName profile type subjectId (ownerScopeId sha256 a) x) =
      nameUuid (ownerName profile type subjectId (ownerScopeId sha256 a) y) → x = y

/-- **The invariant of the stored state**: the owners are the pages, up to the last one, of one
published proof, and the proof is complete when that page is its last. -/
def Consistent (published : List (List Uuid)) (state : LinkState) : Prop :=
  match state.link with
  | none => state.owners = []
  | some l => ∃ a ∈ published, ∃ last : Nat,
      l.ownerScopeId = ownerScopeId sha256 a ∧
      l.ownerPageCount = pageCount ownerRecordingPageSize (ordered a) ∧
      l.lastOwnerPage = last ∧ last < pageCount ownerRecordingPageSize (ordered a) ∧
      (l.ownerScopeComplete = true ↔
        last + 1 = pageCount ownerRecordingPageSize (ordered a)) ∧
      ∀ x, x ∈ state.owners ↔ ∃ id ∈ (ordered a).take ((last + 1) * ownerRecordingPageSize),
        x = ownerRow nameUuid profile (publishedPage sha256 type subjectId l.artistCreditId a 0) id

end

section
variable {sha256 : String → String} {nameUuid : String → Uuid} {profile : Uuid}
  {type : SubjectType} {subjectId : Uuid} {published : List (List Uuid)} {a : List Uuid}
  {state state' : LinkState}

theorem pageSize_pos : 0 < ownerRecordingPageSize := by decide

/-- The identifiers of a page are read back. -/
theorem mapM_readOwnerId (ids : List Uuid) :
    (ids.map (fun id => Json.str id.text)).mapM readOwnerId = some ids := by
  induction ids with
  | nil => rfl
  | cons id ids ih =>
    rw [List.map_cons, List.mapM_cons, ih]
    show ((canonicalUuid id.text).bind fun x => some (x :: ids)) = _
    rw [canonicalUuid_text]
    rfl

theorem sorted_page (a : List Uuid) (p : Nat) :
    (page ownerRecordingPageSize (ordered a) p).insertionSort (· ≤ ·) =
      page ownerRecordingPageSize (ordered a) p :=
  List.Pairwise.insertionSort_eq ((List.pairwise_insertionSort _ _).sublist page_sublist)

/-- **The payload of a published page** passes every check of the client. -/
theorem readOwnerPage_pageEvent (hex : ∀ s, isOwnerScope (sha256 s) = true) {p : Nat}
    (hp : p < pageCount ownerRecordingPageSize (ordered a)) (eventId creditId : Uuid)
    (version sequence : Int) (deletedAt : Option String) :
    readOwnerPage (pageEvent type subjectId eventId creditId version sequence deletedAt
        (ownerPage sha256 a p)) =
      some (publishedPage sha256 type subjectId creditId a p) := by
  have hne : page ownerRecordingPageSize (ordered a) p ≠ [] := page_ne_nil pageSize_pos hp
  have hle : (page ownerRecordingPageSize (ordered a) p).length ≤ maxOwnerRecordingPage :=
    length_page_le
  have hnd : (page ownerRecordingPageSize (ordered a) p).Nodup :=
    page_sublist.nodup (nodup_ordered a)
  have hscope : (some (ownerScopeId sha256 a)).filter isOwnerScope =
      some (ownerScopeId sha256 a) := Option.filter_some_pos (hex _)
  have htype : subjectTypeOf (pageEvent type subjectId eventId creditId version sequence deletedAt
      (ownerPage sha256 a p)) = type := by cases type <;> rfl
  have hsubject : payloadString (creditLinkPayload type subjectId creditId (ownerPage sha256 a p)
      deletedAt) type.subjectKey = some subjectId.text := by cases type <;> rfl
  have hcredit : payloadString (creditLinkPayload type subjectId creditId (ownerPage sha256 a p)
      deletedAt) "artist_credit_id" = some creditId.text := by cases type <;> rfl
  have hids : (creditLinkPayload type subjectId creditId (ownerPage sha256 a p) deletedAt).lookup
      "owner_recording_ids" = some (.arr ((page ownerRecordingPageSize (ordered a) p).map
        (fun id => .str id.text))) := by cases type <;> rfl
  have hs : payloadString (creditLinkPayload type subjectId creditId (ownerPage sha256 a p)
      deletedAt) "owner_scope_id" = some (ownerScopeId sha256 a) := by cases type <;> rfl
  have hpg : payloadLong (creditLinkPayload type subjectId creditId (ownerPage sha256 a p)
      deletedAt) "owner_recording_page" = some (p : Int) := by cases type <;> rfl
  have hpc : payloadLong (creditLinkPayload type subjectId creditId (ownerPage sha256 a p)
      deletedAt) "owner_recording_page_count" =
        some (pageCount ownerRecordingPageSize (ordered a) : Int) := by cases type <;> rfl
  unfold readOwnerPage
  rw [htype]
  simp only [pageEvent, hsubject, hcredit, hids, hs, hpg, hpc, hscope, canonicalUuid_text,
    mapM_readOwnerId, Option.bind_eq_bind, Option.bind_some, List.map_eq_nil_iff, List.length_map,
    hne, hnd, not_true_eq_false, if_false, ne_eq, or_self]
  have h₁ : ¬ (False ∨ maxOwnerRecordingPage <
      (page ownerRecordingPageSize (ordered a) p).length) :=
    fun h => h.elim id (Nat.not_lt.mpr hle)
  have h₂ : ¬ ((pageCount ownerRecordingPageSize (ordered a) : Int) < 1 ∨ (p : Int) < 0 ∨
      (pageCount ownerRecordingPageSize (ordered a) : Int) ≤ p) := by omega
  rw [if_neg h₁, if_neg h₂, sorted_page]
  rfl

/-- What is stored when the page after the pages before it is put in. -/
theorem consistent_put (hd : NoCollision sha256 nameUuid profile type subjectId published)
    (ha : a ∈ published) {p : Nat} (hp : p < pageCount ownerRecordingPageSize (ordered a))
    {owners : List LinkOwner} (creditId : Uuid)
    (ho : ∀ x, x ∈ owners ↔ ∃ id ∈ (ordered a).take (p * ownerRecordingPageSize),
      x = ownerRow nameUuid profile (publishedPage sha256 type subjectId creditId a 0) id)
    (version sequence : Int) (deletedAtMs : Option Int) :
    Consistent sha256 nameUuid profile type subjectId published
      (putOwnerPage nameUuid profile (publishedPage sha256 type subjectId creditId a p) version
        sequence deletedAtMs owners) := by
  have hnew : ∀ x, x ∈ (publishedPage sha256 type subjectId creditId a p).ownerIds.map
      (ownerRow nameUuid profile (publishedPage sha256 type subjectId creditId a p)) ↔
      ∃ id ∈ page ownerRecordingPageSize (ordered a) p,
        x = ownerRow nameUuid profile (publishedPage sha256 type subjectId creditId a 0) id := by
    intro x
    rw [List.mem_map]
    exact ⟨fun ⟨id, hid, hx⟩ => ⟨id, hid, hx.symm⟩, fun ⟨id, hid, hx⟩ => ⟨id, hid, hx.symm⟩⟩
  have hall : ∀ x, x ∈ owners ∨ x ∈ (publishedPage sha256 type subjectId creditId a p).ownerIds.map
      (ownerRow nameUuid profile (publishedPage sha256 type subjectId creditId a p)) →
      ∃ id ∈ a, x =
        ownerRow nameUuid profile (publishedPage sha256 type subjectId creditId a 0) id := by
    intro x hx
    rcases hx with hx | hx
    · obtain ⟨id, hid, he⟩ := (ho x).mp hx
      exact ⟨id, mem_ordered.mp (List.mem_of_mem_take hid), he⟩
    · obtain ⟨id, hid, he⟩ := (hnew x).mp hx
      exact ⟨id, mem_ordered.mp (page_sublist.subset hid), he⟩
  refine ⟨a, ha, p, rfl, rfl, rfl, hp, ?_, fun x => ?_⟩
  · show decide ((p : Int) = (pageCount ownerRecordingPageSize (ordered a) : Int) - 1) = true ↔ _
    rw [decide_eq_true_iff]
    omega
  · show x ∈ upsertOwners owners _ ↔ _
    rw [mem_upsertOwners, ho, hnew, take_succ_page]
    · constructor
      · rintro (⟨id, hid, hx⟩ | ⟨id, hid, hx⟩)
        · exact ⟨id, List.mem_append.mpr (Or.inl hid), hx⟩
        · exact ⟨id, List.mem_append.mpr (Or.inr hid), hx⟩
      · rintro ⟨id, hid, hx⟩
        rcases List.mem_append.mp hid with hid | hid
        · exact Or.inl ⟨id, hid, hx⟩
        · exact Or.inr ⟨id, hid, hx⟩
    · -- two rows of one proof with one key are of one owner
      intro x hx y hy hk
      obtain ⟨id, hid, rfl⟩ := hall x hx
      obtain ⟨id', hid', rfl⟩ := hall y (Or.inr hy)
      rw [hd.names a ha id hid id' hid' hk]

theorem take_zero_rows (creditId : Uuid) (x : LinkOwner) :
    x ∈ ([] : List LinkOwner) ↔ ∃ id ∈ (ordered a).take (0 * ownerRecordingPageSize),
      x = ownerRow nameUuid profile (publishedPage sha256 type subjectId creditId a 0) id := by
  simp

/-- **No published page breaks the invariant**, whatever its proof, version and sequence. -/
theorem consistent_store (hd : NoCollision sha256 nameUuid profile type subjectId published)
    (ha : a ∈ published) {p : Nat} (hp : p < pageCount ownerRecordingPageSize (ordered a))
    (hc : Consistent sha256 nameUuid profile type subjectId published state) {creditId : Uuid}
    {version sequence : Int} {deletedAtMs : Option Int}
    (h : storeOwnerPage nameUuid profile (publishedPage sha256 type subjectId creditId a p) version
      sequence deletedAtMs state = some state') :
    Consistent sha256 nameUuid profile type subjectId published state' := by
  unfold storeOwnerPage at h
  simp only at h
  split at h
  · cases h
    exact hc
  split at h
  · cases h
    exact hc
  split at h
  · split at h
    · cases h
    next hz =>
      cases h
      have hp0 : p = 0 := by
        have : (p : Int) = 0 := not_not.mp hz
        omega
      subst hp0
      exact consistent_put hd ha hp creditId (take_zero_rows creditId) _ _ _
  next l hl =>
    unfold continued at hl
    obtain ⟨hlink, hsame⟩ := Option.filter_eq_some_iff.mp hl
    simp only [decide_eq_true_eq] at hsame
    obtain ⟨hscope, -, hcredit⟩ := hsame
    split at h
    · cases h
    split at h
    · cases h
      exact hc
    split at h
    · cases h
    next hcount hle hnext =>
      cases h
      have hst := hc
      unfold Consistent at hst
      rw [hlink] at hst
      obtain ⟨b, hb, last, hs, -, hlast, -, -, hrows⟩ := hst
      have hab : ordered b = ordered a := hd.scopes b hb a ha (hs.symm.trans hscope)
      have hpl : last + 1 = p := by
        have : (p : Int) = l.lastOwnerPage + 1 := not_not.mp hnext
        omega
      refine consistent_put hd ha hp creditId (fun x => ?_) _ _ _
      rw [hrows x, hab, hpl]
      have hrow : ∀ id, ownerRow nameUuid profile
          (publishedPage sha256 type subjectId l.artistCreditId b 0) id =
          ownerRow nameUuid profile (publishedPage sha256 type subjectId creditId a 0) id := by
        intro id
        have hid : ownerScopeId sha256 b = ownerScopeId sha256 a := hs.symm.trans hscope
        unfold ownerRow publishedPage ownerName
        simp only [hid]
      simp only [hrow]

/-- A complete proof is stored as it was published. -/
theorem Consistent.complete (hc : Consistent sha256 nameUuid profile type subjectId published state)
    {l : CreditLink} (hl : state.link = some l) (h : l.ownerScopeComplete = true) :
    ∃ b ∈ published, l.ownerScopeId = ownerScopeId sha256 b ∧
      ∀ id, id ∈ state.owners.map LinkOwner.ownerRecordingId ↔ id ∈ b := by
  unfold Consistent at hc
  rw [hl] at hc
  obtain ⟨b, hb, last, hs, -, -, -, hfull, hrows⟩ := hc
  refine ⟨b, hb, hs, fun id => ?_⟩
  rw [hfull.mp h, take_pageCount pageSize_pos] at hrows
  rw [List.mem_map, ← mem_ordered]
  constructor
  · rintro ⟨x, hx, rfl⟩
    obtain ⟨id', hid', rfl⟩ := (hrows x).mp hx
    exact hid'
  · intro hid
    exact ⟨_, (hrows _).mpr ⟨id, hid, rfl⟩, rfl⟩

end

/-! ## deliveries -/

/-- A published page on its way to the client. -/
structure Delivery where
  eventId : Uuid
  recordingIds : List Uuid
  page : Nat
  creditId : Uuid
  version : Int
  sequence : Int
  deletedAt : Option String
  deletedAtMs : Option Int

section
variable (sha256 : String → String) (nameUuid : String → Uuid) (profile : Uuid)
  (type : SubjectType) (subjectId : Uuid)

def deliver (state : LinkState) (d : Delivery) : Option LinkState :=
  applyArtistCreditLinkProjection nameUuid profile
    (pageEvent type subjectId d.eventId d.creditId d.version d.sequence d.deletedAt
      (ownerPage sha256 d.recordingIds d.page)) d.version d.deletedAtMs state

/-- The page is one of those of `_owner_recording_pages`. -/
def Delivery.Published (published : List (List Uuid)) (d : Delivery) : Prop :=
  d.recordingIds ∈ published ∧
    ∃ pages, ownerRecordingPages sha256 d.recordingIds = .ok pages ∧
      ownerPage sha256 d.recordingIds d.page ∈ pages

end

/-- The deliveries of the pages from `k` on, in order; a page that was delivered may come again at
any time, with its sequence or, from a bootstrap, with none. -/
inductive Schedule (seq : Nat → Int) (count : Nat) : Nat → List (Nat × Int) → Prop
  | done : Schedule seq count count []
  | next {k : Nat} {rest : List (Nat × Int)} (h : k < count)
      (hr : Schedule seq count (k + 1) rest) : Schedule seq count k ((k, seq k) :: rest)
  | again {k q : Nat} {s : Int} {rest : List (Nat × Int)} (h : q < k) (hs : s = seq q ∨ s = 0)
      (hr : Schedule seq count k rest) : Schedule seq count k ((q, s) :: rest)

section
variable {sha256 : String → String} {nameUuid : String → Uuid} {profile : Uuid}
  {type : SubjectType} {subjectId : Uuid} {published : List (List Uuid)} {a : List Uuid}
  {state state' : LinkState}

theorem Delivery.Published.lt {d : Delivery} (h : d.Published sha256 published) :
    d.page < pageCount ownerRecordingPageSize (ordered d.recordingIds) := by
  obtain ⟨pages, hp, hm⟩ := h.2
  unfold ownerRecordingPages at hp
  split at hp
  · cases hp
  · cases hp
    obtain ⟨q, hq, he⟩ := List.mem_map.mp hm
    rw [← show q = d.page from congrArg OwnerPage.ownerRecordingPage he]
    exact List.mem_range.mp hq

/-- A delivered page is read, and stored. -/
theorem deliver_eq (hd : NoCollision sha256 nameUuid profile type subjectId published)
    {d : Delivery} (hp : d.page < pageCount ownerRecordingPageSize (ordered d.recordingIds)) :
    deliver sha256 nameUuid profile type subjectId state d =
      storeOwnerPage nameUuid profile
        (publishedPage sha256 type subjectId d.creditId d.recordingIds d.page) d.version d.sequence
        d.deletedAtMs state := by
  unfold deliver applyArtistCreditLinkProjection
  rw [readOwnerPage_pageEvent hd.hex hp]
  rfl

/-- **Every state that published pages lead to is consistent.** -/
theorem consistent_run (hd : NoCollision sha256 nameUuid profile type subjectId published)
    {history : List Delivery} (hh : ∀ d ∈ history, d.Published sha256 published)
    (hc : Consistent sha256 nameUuid profile type subjectId published state)
    (h : history.foldlM (deliver sha256 nameUuid profile type subjectId) state = some state') :
    Consistent sha256 nameUuid profile type subjectId published state' := by
  induction history generalizing state with
  | nil =>
    cases h
    exact hc
  | cons d history ih =>
    obtain ⟨state₁, h₁, h₂⟩ := Option.bind_eq_some_iff.mp h
    have hpub := hh d (List.mem_cons_self ..)
    rw [deliver_eq hd hpub.lt] at h₁
    exact ih (fun x hx => hh x (List.mem_cons_of_mem _ hx))
      (consistent_store hd hpub.1 hpub.lt hc h₁) h₂

/-- The first `k` pages of `a` are behind, and the sequences to come are new. -/
structure Behind (sha256 : String → String) (a : List Uuid) (creditId : Uuid) (version : Int)
    (seq : Nat → Int) (k : Nat) (state : LinkState) : Prop where
  old : ∀ l, state.link = some l → l.serverRowVersion ≤ version
  fresh : ∀ l, state.link = some l → ∀ p, k ≤ p → seq p = 0 ∨ l.lastServerSequence < seq p
  same : 0 < k → ∃ l, state.link = some l ∧ l.ownerScopeId = ownerScopeId sha256 a ∧
    l.serverRowVersion = version ∧ l.artistCreditId = creditId ∧ (k : Int) ≤ l.lastOwnerPage + 1

section
variable {creditId : Uuid} {version : Int} {seq : Nat → Int} {k : Nat} {deletedAtMs : Option Int}

/-- A page that the stored proof already has changes nothing. -/
theorem store_behind (hc : Consistent sha256 nameUuid profile type subjectId published state)
    (hd : NoCollision sha256 nameUuid profile type subjectId published) (ha : a ∈ published)
    {l : CreditLink} (hl : state.link = some l)
    (hs : l.ownerScopeId = ownerScopeId sha256 a) (hv : l.serverRowVersion = version)
    (hcr : l.artistCreditId = creditId) {q : Nat} (hq : (q : Int) ≤ l.lastOwnerPage) (s : Int) :
    storeOwnerPage nameUuid profile (publishedPage sha256 type subjectId creditId a q) version s
      deletedAtMs state = some state := by
  have hcont : continued state.link (publishedPage sha256 type subjectId creditId a q) version =
      some l := by
    unfold continued
    rw [hl]
    exact Option.filter_some_pos (decide_eq_true ⟨hs, hv, hcr⟩)
  have hcount : l.ownerPageCount = pageCount ownerRecordingPageSize (ordered a) := by
    unfold Consistent at hc
    rw [hl] at hc
    obtain ⟨b, hb, last, hsb, hn, -⟩ := hc
    rw [hn, hd.scopes b hb a ha (hsb.symm.trans hs)]
  unfold storeOwnerPage
  simp only [hcont]
  split
  · rfl
  split
  · rfl
  have hn : ¬ l.ownerPageCount ≠
      (publishedPage sha256 type subjectId creditId a q).ownerPageCount := not_not.mpr hcount
  rw [if_neg hn]
  exact if_pos hq

/-- **The next page** moves the proof on by one. -/
theorem Behind.next (hb : Behind sha256 a creditId version seq k state)
    (hc : Consistent sha256 nameUuid profile type subjectId published state)
    (hd : NoCollision sha256 nameUuid profile type subjectId published) (ha : a ∈ published)
    (hseq : ∀ q p, q < p → seq p = 0 ∨ seq q < seq p) :
    ∃ state', storeOwnerPage nameUuid profile (publishedPage sha256 type subjectId creditId a k)
        version (seq k) deletedAtMs state = some state' ∧
      Behind sha256 a creditId version seq (k + 1) state' := by
  have hold : ¬ state.link.any (fun l => version < l.serverRowVersion) = true := by
    intro h
    obtain ⟨l, hl, hlt⟩ := (Option.any_eq_true _ _).mp h
    exact absurd (hb.old l hl) (Int.not_le.mpr (of_decide_eq_true hlt))
  have hnew : ¬ state.link.any (fun l => 0 < seq k ∧ seq k ≤ l.lastServerSequence) = true := by
    intro h
    obtain ⟨l, hl, hlt⟩ := (Option.any_eq_true _ _).mp h
    obtain ⟨hpos, hle⟩ := of_decide_eq_true hlt
    rcases hb.fresh l hl k (le_refl k) with h0 | hlt
    · omega
    · omega
  -- whatever is put has the page as its last, and the sequence of the page
  have hput : ∀ owners, Behind sha256 a creditId version seq (k + 1)
      (putOwnerPage nameUuid profile (publishedPage sha256 type subjectId creditId a k) version
        (seq k) deletedAtMs owners) := by
    intro owners
    refine ⟨fun l hl => ?_, fun l hl p hp => ?_, fun _ => ⟨_, rfl, rfl, rfl, rfl, ?_⟩⟩
    · cases hl
      exact le_refl version
    · cases hl
      exact hseq k p hp
    · show ((k + 1 : Nat) : Int) ≤ (k : Int) + 1
      omega
  have hsame : ∀ l, state.link = some l → 0 < k →
      continued state.link (publishedPage sha256 type subjectId creditId a k) version =
        some l := by
    intro l hl hpos
    obtain ⟨l', hl', hs, hv, hcr, -⟩ := hb.same hpos
    rw [hl] at hl'
    cases hl'
    unfold continued
    rw [hl]
    exact Option.filter_some_pos (decide_eq_true ⟨hs, hv, hcr⟩)
  cases hcont : continued state.link (publishedPage sha256 type subjectId creditId a k) version with
  | none =>
    have hk0 : k = 0 := by
      rcases Nat.eq_zero_or_pos k with h0 | hpos
      · exact h0
      · obtain ⟨l, hl, -⟩ := hb.same hpos
        rw [hsame l hl hpos] at hcont
        cases hcont
    have hz : ¬ (publishedPage sha256 type subjectId creditId a k).ownerPage ≠ 0 := by
      show ¬ (k : Int) ≠ 0
      omega
    refine ⟨_, ?_, hput []⟩
    unfold storeOwnerPage
    simp only [hcont]
    rw [if_neg hold, if_neg hnew, if_neg hz]
  | some l =>
    obtain ⟨hlink, hsm⟩ := Option.filter_eq_some_iff.mp hcont
    obtain ⟨hs, hv, hcr⟩ := of_decide_eq_true hsm
    by_cases hle : (k : Int) ≤ l.lastOwnerPage
    · refine ⟨state, store_behind hc hd ha hlink hs hv hcr hle _, hb.old, fun l' hl' p hp =>
        hb.fresh l' hl' p (Nat.le_of_succ_le hp), fun _ => ⟨l, hlink, hs, hv, hcr, ?_⟩⟩
      omega
    · have hcount : l.ownerPageCount = pageCount ownerRecordingPageSize (ordered a) ∧
          0 ≤ l.lastOwnerPage := by
        unfold Consistent at hc
        rw [hlink] at hc
        obtain ⟨b, hbm, last, hsb, hn, hlast, -⟩ := hc
        exact ⟨by rw [hn, hd.scopes b hbm a ha (hsb.symm.trans hs)], by omega⟩
      have hlast : (k : Int) = l.lastOwnerPage + 1 := by
        rcases Nat.eq_zero_or_pos k with h0 | hpos
        · omega
        · obtain ⟨l', hl', -, -, -, hkl⟩ := hb.same hpos
          rw [hlink] at hl'
          cases hl'
          omega
      have h₁ : ¬ l.ownerPageCount ≠
          (publishedPage sha256 type subjectId creditId a k).ownerPageCount :=
        not_not.mpr hcount.1
      have h₂ : ¬ (publishedPage sha256 type subjectId creditId a k).ownerPage ≤
          l.lastOwnerPage := hle
      have h₃ : ¬ (publishedPage sha256 type subjectId creditId a k).ownerPage ≠
          l.lastOwnerPage + 1 := not_not.mpr hlast
      refine ⟨_, ?_, hput state.owners⟩
      unfold storeOwnerPage
      simp only [hcont]
      rw [if_neg hold, if_neg hnew, if_neg h₁, if_neg h₂, if_neg h₃]

/-- The delivery of page `q` of `a`. -/
def pageDelivery (a : List Uuid) (creditId : Uuid) (version : Int) (eventIds : Nat → Uuid)
    (deletedAt : Option String) (deletedAtMs : Option Int) (d : Nat × Int) : Delivery :=
  ⟨eventIds d.1, a, d.1, creditId, version, d.2, deletedAt, deletedAtMs⟩

/-- **A whole schedule** goes through and leaves all pages behind. -/
theorem Behind.schedule {eventIds : Nat → Uuid} {deletedAt : Option String}
    (hd : NoCollision sha256 nameUuid profile type subjectId published) (ha : a ∈ published)
    (hseq : ∀ q p, q < p → seq p = 0 ∨ seq q < seq p) {ds : List (Nat × Int)}
    (hs : Schedule seq (pageCount ownerRecordingPageSize (ordered a)) k ds)
    (hb : Behind sha256 a creditId version seq k state)
    (hc : Consistent sha256 nameUuid profile type subjectId published state) :
    ∃ state', (ds.map (pageDelivery a creditId version eventIds deletedAt deletedAtMs)).foldlM
        (deliver sha256 nameUuid profile type subjectId) state = some state' ∧
      Behind sha256 a creditId version seq (pageCount ownerRecordingPageSize (ordered a)) state' ∧
      ∀ before after, ds = before ++ after →
        ∃ mid, (before.map (pageDelivery a creditId version eventIds deletedAt deletedAtMs)).foldlM
          (deliver sha256 nameUuid profile type subjectId) state = some mid ∧
          Consistent sha256 nameUuid profile type subjectId published mid := by
  induction hs generalizing state with
  | done =>
    refine ⟨state, rfl, hb, fun before after h => ?_⟩
    obtain ⟨rfl, rfl⟩ := List.append_eq_nil_iff.mp h.symm
    exact ⟨state, rfl, hc⟩
  | @next k rest h hr ih =>
    obtain ⟨state₁, h₁, hb₁⟩ := hb.next hc hd ha hseq
    have hc₁ := consistent_store hd ha h hc h₁
    have hstep : deliver sha256 nameUuid profile type subjectId state
        (pageDelivery a creditId version eventIds deletedAt deletedAtMs (k, seq k)) =
          some state₁ := (deliver_eq hd h).trans h₁
    obtain ⟨state', h', hb', hpre⟩ := ih hb₁ hc₁
    refine ⟨state', ?_, hb', fun before after hba => ?_⟩
    · rw [List.map_cons, List.foldlM_cons, hstep]
      exact h'
    · cases before with
      | nil => exact ⟨state, rfl, hc⟩
      | cons d before =>
        rw [List.cons_append, List.cons.injEq] at hba
        obtain ⟨rfl, hba⟩ := hba
        rw [List.map_cons, List.foldlM_cons, hstep]
        exact hpre before after hba
  | @again k q s rest h hsq hr ih =>
    have hpos : 0 < k := Nat.lt_of_le_of_lt (Nat.zero_le q) h
    obtain ⟨l, hl, hsl, hvl, hcl, hkl⟩ := hb.same hpos
    have hq : (q : Int) ≤ l.lastOwnerPage := by omega
    have hlt : q < pageCount ownerRecordingPageSize (ordered a) := by
      have hst := hc
      unfold Consistent at hst
      rw [hl] at hst
      obtain ⟨b, hbm, last, hsb, -, hlast, hlt, -⟩ := hst
      rw [hd.scopes b hbm a ha (hsb.symm.trans hsl)] at hlt
      omega
    have hstep : deliver sha256 nameUuid profile type subjectId state
        (pageDelivery a creditId version eventIds deletedAt deletedAtMs (q, s)) = some state :=
      (deliver_eq hd hlt).trans (store_behind hc hd ha hl hsl hvl hcl hq s)
    obtain ⟨state', h', hb', hpre⟩ := ih hb hc
    refine ⟨state', ?_, hb', fun before after hba => ?_⟩
    · rw [List.map_cons, List.foldlM_cons, hstep]
      exact h'
    · cases before with
      | nil => exact ⟨state, rfl, hc⟩
      | cons d before =>
        rw [List.cons_append, List.cons.injEq] at hba
        obtain ⟨rfl, hba⟩ := hba
        rw [List.map_cons, List.foldlM_cons, hstep]
        exact hpre before after hba

end

/-- All pages behind: the proof is stored. -/
theorem Behind.complete {creditId : Uuid} {version : Int} {seq : Nat → Int}
    (hd : NoCollision sha256 nameUuid profile type subjectId published) (ha : a ∈ published)
    (hne : a ≠ [])
    (hb : Behind sha256 a creditId version seq (pageCount ownerRecordingPageSize (ordered a)) state)
    (hc : Consistent sha256 nameUuid profile type subjectId published state) :
    ∃ l, state.link = some l ∧ l.ownerScopeComplete = true ∧
      ∀ id, id ∈ state.owners.map LinkOwner.ownerRecordingId ↔ id ∈ a := by
  have hpos : 0 < pageCount ownerRecordingPageSize (ordered a) :=
    pageCount_pos pageSize_pos (ordered_ne_nil hne)
  obtain ⟨l, hl, hs, -, -, hk⟩ := hb.same hpos
  have hfull : l.ownerScopeComplete = true := by
    have hst := hc
    unfold Consistent at hst
    rw [hl] at hst
    obtain ⟨b, hbm, last, hsb, -, hlast, hlt, hfull, -⟩ := hst
    have hab := hd.scopes b hbm a ha (hsb.symm.trans hs)
    rw [hab] at hlt hfull
    exact hfull.mpr (by omega)
  obtain ⟨b, hbm, hsb, hids⟩ := hc.complete hl hfull
  have hab : ordered b = ordered a := hd.scopes b hbm a ha (hsb.symm.trans hs)
  refine ⟨l, hl, hfull, fun id => (hids id).trans ?_⟩
  rw [← mem_ordered, hab, mem_ordered]

end

/-- **Owner proofs make the round trip.**  From any state that published pages have led to, whose
row version is not larger and whose sequence is smaller, the pages of a proof in order, with any of
the delivered ones repeated in between, are all accepted and leave the proof complete and the owners
those of the proof; and whenever a proof is complete in between, its owners are those of one
published proof. -/
theorem owner_pages_round_trip (sha256 : String → String) (nameUuid : String → Uuid)
    (profile : Uuid) (type : SubjectType) (subjectId : Uuid) (published : List (List Uuid))
    (hd : NoCollision sha256 nameUuid profile type subjectId published)
    (history : List Delivery) (hh : ∀ d ∈ history, d.Published sha256 published)
    (start : LinkState) (hstart : history.foldlM
      (deliver sha256 nameUuid profile type subjectId) .empty = some start)
    (a : List Uuid) (ha : a ∈ published) (hne : a ≠ []) (creditId : Uuid) (version : Int)
    (seq : Nat → Int) (hseq : ∀ q p, q < p → seq p = 0 ∨ seq q < seq p)
    (hlink : ∀ l, start.link = some l →
      l.serverRowVersion ≤ version ∧ ∀ p, seq p = 0 ∨ l.lastServerSequence < seq p)
    (eventIds : Nat → Uuid) (deletedAt : Option String) (deletedAtMs : Option Int)
    (ds : List (Nat × Int))
    (hs : Schedule seq (pageCount ownerRecordingPageSize (ordered a)) 0 ds) :
    (∃ state l, (ds.map (pageDelivery a creditId version eventIds deletedAt deletedAtMs)).foldlM
        (deliver sha256 nameUuid profile type subjectId) start = some state ∧
      state.link = some l ∧ l.ownerScopeComplete = true ∧
      ∀ id, id ∈ state.owners.map LinkOwner.ownerRecordingId ↔ id ∈ a) ∧
    ∀ before after, ds = before ++ after →
      ∃ mid, (before.map (pageDelivery a creditId version eventIds deletedAt deletedAtMs)).foldlM
          (deliver sha256 nameUuid profile type subjectId) start = some mid ∧
        ∀ l, mid.link = some l → l.ownerScopeComplete = true →
          ∃ b ∈ published, ∀ id, id ∈ mid.owners.map LinkOwner.ownerRecordingId ↔ id ∈ b := by
  have hempty : Consistent sha256 nameUuid profile type subjectId published .empty := rfl
  have hc := consistent_run hd hh hempty hstart
  have hb : Behind sha256 a creditId version seq 0 start :=
    ⟨fun l hl => (hlink l hl).1, fun l hl p _ => (hlink l hl).2 p, fun h => absurd h (lt_irrefl 0)⟩
  obtain ⟨state, hrun, hb', hpre⟩ := hb.schedule hd ha hseq hs hc
  refine ⟨?_, fun before after hba => ?_⟩
  · obtain ⟨mid, hmid, hcm⟩ := hpre ds [] (List.append_nil ds).symm
    rw [hrun] at hmid
    cases hmid
    obtain ⟨l, hl, hfull, hids⟩ := hb'.complete hd ha hne hcm
    exact ⟨state, l, hrun, hl, hfull, hids⟩
  · obtain ⟨mid, hmid, hcm⟩ := hpre before after hba
    refine ⟨mid, hmid, fun l hl hfull => ?_⟩
    obtain ⟨b, hbm, -, hids⟩ := hcm.complete hl hfull
    exact ⟨b, hbm, hids⟩

/-- The recording with a proof of its own, delivered twice. -/
theorem owner_pages_round_trip_single :
    let recording : Uuid := ⟨"00000000-0000-4000-8000-0000000000d1", by decide⟩
    let profile : Uuid := ⟨"00000000-0000-4000-8000-0000000000d2", by decide⟩
    let sha256 : String → String :=
      fun _ => "47efb20b6d10cfae642df125c956a4f3a5cb6072c4f4c4bd2a65f1e4255d7e6e"
    let nameUuid : String → Uuid := fun _ => ⟨"3929e553-5e38-31cf-80ce-738d932f8122", by decide⟩
    ∃ state l, ([(0, 7), (0, 0)].map
        (pageDelivery [recording] recording 3 (fun _ => profile) none none)).foldlM
          (deliver sha256 nameUuid profile .recording recording) .empty = some state ∧
      state.link = some l ∧ l.ownerScopeComplete = true ∧
      ∀ id, id ∈ state.owners.map LinkOwner.ownerRecordingId ↔ id ∈ [recording] := by
  intro recording profile sha256 nameUuid
  have hd : NoCollision sha256 nameUuid profile .recording recording [[recording]] := by
    refine ⟨fun _ => by decide, fun a ha b hb _ => ?_, fun a ha x hx y hy _ => ?_⟩
    · rw [List.mem_singleton.mp ha, List.mem_singleton.mp hb]
    · rw [List.mem_singleton.mp ha] at hx hy
      rw [List.mem_singleton.mp hx, List.mem_singleton.mp hy]
  have hcount : pageCount ownerRecordingPageSize (ordered [recording]) = 1 := by decide
  have hs : Schedule (fun p => 7 + (p : Int))
      (pageCount ownerRecordingPageSize (ordered [recording])) 0 [(0, 7), (0, 0)] := by
    rw [hcount]
    exact .next Nat.one_pos (.again Nat.one_pos (Or.inr rfl) .done)
  exact (owner_pages_round_trip sha256 nameUuid profile .recording recording [[recording]] hd
    [] (fun d h => absurd h (List.not_mem_nil)) .empty rfl [recording] (List.mem_singleton.mpr rfl)
    (List.cons_ne_nil _ _) recording 3 (fun p => 7 + (p : Int)) (fun q p h => Or.inr (by omega))
    (fun l h => nomatch h) (fun _ => profile) none none [(0, 7), (0, 0)] hs).1

end AutPlay.Client
