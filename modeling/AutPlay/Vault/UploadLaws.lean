import Mathlib.Algebra.GroupWithZero.Nat
import Mathlib.Data.List.Forall2
import Mathlib.Data.List.Nodup
import AutPlay.Vault.Uploads

/-!
# An upload and its file agree

* `Holds`             a file starts with the recorded bytes;
* `append_spec`       what the writers make of such a file;
* `Tiles`, `Agrees`   the invariant of row, receipts and file;
* `step_agrees`       every step keeps it, with the payload that the step recorded;
* `UploadLaws`        the laws of a session, at the end of every run.
-/

set_option linter.unusedSectionVars false

namespace AutPlay.Vault

open AutPlay.Sync (Uuid)
open Result

/-! ## the staging file -/

/-- The file starts with `bytes`; before the first byte there may be no file. -/
def Holds (file : Staging) (bytes : Bytes) : Prop :=
  (∃ rest, file = some (bytes ++ rest)) ∨ (file = none ∧ bytes = [])

theorem Holds.exact (bytes : Bytes) : Holds (some bytes) bytes :=
  Or.inl ⟨[], by rw [List.append_nil]⟩

theorem Holds.more (bytes rest : Bytes) : Holds (some (bytes ++ rest)) bytes := Or.inl ⟨rest, rfl⟩

/-- Cutting such a file back to the recorded size leaves the recorded bytes. -/
theorem prepare_holds {file : Staging} {bytes : Bytes} (h : Holds file bytes) :
    prepareUploadStaging bytes.length file = .ok (some bytes) := by
  rcases h with ⟨rest, rfl⟩ | ⟨rfl, rfl⟩
  · have hlen : ¬ (bytes ++ rest).length < bytes.length := by
      rw [List.length_append]
      omega
    unfold prepareUploadStaging truncateStaging
    dsimp only
    rw [if_neg hlen, List.take_left]
  · rfl

section
variable {sha256 : Bytes → Digest} {limits : VaultLimits}

theorem writeChunk_end {bytes payload : Bytes} {sha : Digest} {written : Staging}
    (h : writeChunk sha256 limits bytes.length payload sha (some bytes) = .ok written) :
    payload ≠ [] ∧ sha256 payload = sha ∧ written = some (bytes ++ payload) := by
  unfold writeChunk at h
  split at h
  · cases h
  · split at h
    · cases h
    · rename_i hlimit
      split at h
      · cases h
      · rename_i hsha
        dsimp only at h
        split at h
        · cases h
        · rw [if_pos rfl] at h
          cases h
          refine ⟨fun he => hlimit (Or.inl he), ?_, rfl⟩
          by_contra hne
          exact hsha hne

/-- **A writer at the end of the recorded bytes** appends the payload, which has its digest, or leaves
the file as it was or cut back. -/
theorem append_spec (sha256 : Bytes → Digest) (limits : VaultLimits) (writer : Writer) {call : WriterCall} {file : Staging} {bytes : Bytes}
    (hf : Holds file bytes) (hc : call.committedSize = bytes.length) (ho : call.offset = bytes.length) :
    ((appendReconciledChunk sha256 limits writer call file).1 = .ok () →
        call.payload ≠ [] ∧ sha256 call.payload = call.payloadSha256 ∧
          (appendReconciledChunk sha256 limits writer call file).2 = some (bytes ++ call.payload)) ∧
      ((appendReconciledChunk sha256 limits writer call file).1 ≠ .ok () →
        (appendReconciledChunk sha256 limits writer call file).2 = file ∨
          (appendReconciledChunk sha256 limits writer call file).2 = some bytes) := by
  unfold appendReconciledChunk
  cases writerChecks sha256 limits writer call with
  | error e => exact ⟨fun h => (by cases h), fun _ => Or.inl rfl⟩
  | ok _ =>
    dsimp only
    split
    · exact ⟨fun h => (by cases h), fun _ => Or.inl rfl⟩
    · rw [hc, prepare_holds hf]
      dsimp only
      rw [ho]
      cases hw : writeChunk sha256 limits bytes.length call.payload call.payloadSha256 (some bytes) with
      | error e => exact ⟨fun h => (by cases h), fun _ => Or.inr rfl⟩
      | ok written =>
        obtain ⟨hne, hsha, rfl⟩ := writeChunk_end hw
        exact ⟨fun _ => ⟨hne, hsha, rfl⟩, fun h => absurd rfl h⟩

/-- An interrupted writer leaves the recorded bytes with a part of the payload at most, or the file. -/
theorem torn_spec {call : WriterCall} {file file' : Staging} {bytes : Bytes} (hf : Holds file bytes)
    (hc : call.committedSize = bytes.length) (h : Torn call file file') :
    file' = file ∨ ∃ n, file' = some (bytes ++ call.payload.take n) := by
  cases h with
  | untouched => exact Or.inl rfl
  | prepared h =>
    rw [hc, prepare_holds hf] at h
    cases h
    exact Or.inr ⟨0, by rw [List.take_zero, List.append_nil]⟩
  | partly h n =>
    rw [hc, prepare_holds hf] at h
    cases h
    exact Or.inr ⟨n, rfl⟩

end

/-! ## the invariant -/

/-- The chunks lie one after the other, from `start` to `stop`. -/
def Tiles : Nat → List UploadChunkRow → Nat → Prop
  | start, [], stop => start = stop
  | start, c :: cs, stop => c.startOffset = start ∧ 0 < c.byteSize ∧ Tiles (start + c.byteSize) cs stop

theorem Tiles.snoc {start stop : Nat} {chunks : List UploadChunkRow} {c : UploadChunkRow}
    (h : Tiles start chunks stop) (hc : c.startOffset = stop) (hb : 0 < c.byteSize) :
    Tiles start (chunks ++ [c]) (stop + c.byteSize) := by
  induction chunks generalizing start with
  | nil =>
    have hs : start = stop := h
    exact ⟨hc.trans hs.symm, hb, congrArg (· + c.byteSize) hs⟩
  | cons d chunks ih => exact ⟨h.1, h.2.1, ih h.2.2⟩

theorem Tiles.sum {start stop : Nat} {chunks : List UploadChunkRow} (h : Tiles start chunks stop) :
    start + (chunks.map UploadChunkRow.byteSize).sum = stop := by
  induction chunks generalizing start with
  | nil => exact h
  | cons c chunks ih =>
    rw [List.map_cons, List.sum_cons]
    have hrest := ih h.2.2
    omega

theorem Tiles.start_lt {start stop : Nat} {chunks : List UploadChunkRow} (h : Tiles start chunks stop) :
    ∀ c ∈ chunks, start ≤ c.startOffset ∧ c.startOffset + c.byteSize ≤ stop := by
  induction chunks generalizing start with
  | nil => exact fun c hc => absurd hc List.not_mem_nil
  | cons d chunks ih =>
    intro c hc
    have hsum := Tiles.sum h.2.2
    rcases List.mem_cons.mp hc with rfl | hc
    · have hs := h.1
      omega
    · obtain ⟨h₁, h₂⟩ := ih h.2.2 c hc
      omega

theorem tiles_pos {start stop : Nat} {chunks : List UploadChunkRow} (h : Tiles start chunks stop) :
    ∀ c ∈ chunks, 0 < c.byteSize := by
  induction chunks generalizing start with
  | nil => exact fun c hc => absurd hc List.not_mem_nil
  | cons d chunks ih =>
    intro c hc
    rcases List.mem_cons.mp hc with rfl | hc
    · exact h.2.1
    · exact ih h.2.2 c hc

/-- A receipt is one of these bytes. -/
def Recorded (sha256 : Bytes → Digest) (c : UploadChunkRow) (payload : Bytes) : Prop :=
  c.byteSize = payload.length ∧ c.sha256 = sha256 payload

/-- **Row, receipts and file agree** on the payloads that were recorded, in their order. -/
structure Agrees (sha256 : Bytes → Digest) (w : World) (payloads : List Bytes) : Prop where
  receipts : List.Forall₂ (Recorded sha256) w.chunks payloads
  indexes : (w.chunks.map UploadChunkRow.chunkIndex).Nodup
  tiles : Tiles 0 w.chunks w.row.receivedSize
  bounded : w.row.receivedSize ≤ w.row.expectedSize
  positive : 0 < w.row.expectedSize
  holds : Holds w.file payloads.flatten
  /-- Nothing follows the bytes of a complete upload. -/
  full : w.row.receivedSize = w.row.expectedSize → w.file = some payloads.flatten
  isSealed : w.row.state.isSealed = true → w.row.receivedSize = w.row.expectedSize

theorem flatten_length {sha256 : Bytes → Digest} {chunks : List UploadChunkRow} {payloads : List Bytes}
    (h : List.Forall₂ (Recorded sha256) chunks payloads) :
    payloads.flatten.length = (chunks.map UploadChunkRow.byteSize).sum := by
  induction h with
  | nil => rfl
  | cons hc _ ih =>
    rw [List.flatten_cons, List.length_append, List.map_cons, List.sum_cons, ih, hc.1]

theorem Agrees.length {sha256 : Bytes → Digest} {w : World} {payloads : List Bytes}
    (h : Agrees sha256 w payloads) : payloads.flatten.length = w.row.receivedSize := by
  have hs := h.tiles.sum
  rw [flatten_length h.receipts]
  omega

/-! ## the calls -/

section
variable {sha256 : Bytes → Digest} {limits : VaultLimits} {w w' : World} {principal : VaultPrincipal}
  {guard : Option String} {now : Int}

theorem ownedRow_ok {row row' : UploadSessionRow} (h : ownedRow principal row = .ok row') : row' = row := by
  unfold ownedRow at h
  split at h
  · cases h
    rfl
  · cases h

/-- A chunk is recorded already, or it is new and starts at the end. -/
theorem recordChunk_ok {chunk : Chunk} {r : ChunkWriteResult}
    (h : recordChunk principal chunk guard now w = .ok (r, w')) :
    w.row.state = .opened ∧
      ((r = ⟨w.row.receivedSize, true⟩ ∧ w' = w ∧ ∃ existing ∈ w.chunks,
          existing.chunkIndex = chunk.chunkIndex ∧ existing.startOffset = chunk.offset ∧
            existing.byteSize = chunk.payload.length ∧ existing.sha256 = chunk.payloadSha256) ∨
        (r = ⟨w.row.receivedSize + chunk.payload.length, false⟩ ∧
          chunk.offset = w.row.receivedSize ∧
          w.row.receivedSize + chunk.payload.length ≤ w.row.expectedSize ∧
          0 < chunk.payload.length ∧ (∀ c ∈ w.chunks, c.chunkIndex ≠ chunk.chunkIndex) ∧
          w' = { w with row := received chunk w.row, chunks := w.chunks ++ [receipt chunk w.row] })) := by
  unfold recordChunk at h
  obtain ⟨row, hrow, h⟩ := bind_eq_ok.mp h
  obtain ⟨⟨⟩, -, h⟩ := bind_eq_ok.mp h
  rw [ownedRow_ok hrow] at h
  split at h
  · cases h
  · rename_i hstate
    have hopen : w.row.state = .opened := by
      by_contra hne
      exact hstate (Or.inl hne)
    refine ⟨hopen, ?_⟩
    cases hf : w.chunks.find? fun c => c.chunkIndex = chunk.chunkIndex with
    | some existing =>
      rw [hf] at h
      dsimp only at h
      unfold recordAgain at h
      split at h
      · rename_i hsame
        cases h
        have hindex : existing.chunkIndex = chunk.chunkIndex := by simpa using List.find?_some hf
        exact Or.inl ⟨rfl, rfl, existing, List.mem_of_find?_eq_some hf, hindex, hsame⟩
      · cases h
    | none =>
      rw [hf] at h
      dsimp only at h
      unfold recordNew at h
      split at h
      · cases h
      · rename_i hfits
        split at h
        · cases h
        · cases h
          push Not at hfits
          obtain ⟨hoff, hpos, -, -, hlen⟩ := hfits
          refine Or.inr ⟨rfl, hoff, ?_, by omega, fun c hc => ?_, rfl⟩
          · omega
          · simpa using List.find?_eq_none.mp hf c hc

/-- A receipt for the bytes that the file now ends with. -/
theorem Agrees.record {chunk : Chunk} {payloads : List Bytes} {written : Staging}
    (h : Agrees sha256 w payloads) (hopen : w.row.state = .opened)
    (hw : written = some (payloads.flatten ++ chunk.payload)) (hpos : 0 < chunk.payload.length)
    (hsha : sha256 chunk.payload = chunk.payloadSha256)
    (hlen : w.row.receivedSize + chunk.payload.length ≤ w.row.expectedSize)
    (hindex : ∀ c ∈ w.chunks, c.chunkIndex ≠ chunk.chunkIndex) :
    Agrees sha256
      { w with
        file := written
        row := received chunk w.row
        chunks := w.chunks ++ [receipt chunk w.row] }
      (payloads ++ [chunk.payload]) := by
  have hflat : (payloads ++ [chunk.payload]).flatten = payloads.flatten ++ chunk.payload := by
    rw [List.flatten_append, List.flatten_cons, List.flatten_nil, List.append_nil]
  refine ⟨?_, ?_, ?_, hlen, h.positive, ?_, ?_, ?_⟩
  · exact List.rel_append h.receipts (.cons ⟨rfl, hsha.symm⟩ .nil)
  · show ((w.chunks ++ [receipt chunk w.row]).map UploadChunkRow.chunkIndex).Nodup
    rw [List.map_append, List.nodup_append]
    refine ⟨h.indexes, List.nodup_singleton _, fun a ha b hb => ?_⟩
    obtain ⟨c, hc, rfl⟩ := List.mem_map.mp ha
    rw [List.mem_singleton.mp hb]
    exact hindex c hc
  · exact h.tiles.snoc rfl hpos
  · rw [hflat, hw]
    exact Holds.exact _
  · intro _
    rw [hflat]
    exact hw
  · intro hs
    have hs : w.row.state.isSealed = true := hs
    rw [hopen] at hs
    cases hs

/-- A file that holds the recorded bytes, exactly when they are all. -/
theorem Agrees.refile {payloads : List Bytes} {file : Staging} (h : Agrees sha256 w payloads)
    (hf : Holds file payloads.flatten)
    (hfull : w.row.receivedSize = w.row.expectedSize → file = some payloads.flatten) :
    Agrees sha256 { w with file := file } payloads :=
  ⟨h.receipts, h.indexes, h.tiles, h.bounded, h.positive, hf, hfull, h.isSealed⟩

theorem reachesStorage_ok {chunk : Chunk} {env : Surroundings} {writer : Writer}
    (h : reachesStorage principal chunk env w = .ok writer) :
    w.row.state = .opened ∧ w.row.receivedSize + chunk.payload.length ≤ w.row.expectedSize := by
  unfold reachesStorage at h
  obtain ⟨row, hrow, h⟩ := bind_eq_ok.mp h
  rw [ownedRow_ok hrow] at h
  split at h
  · cases h
  · rename_i hstate
    split at h
    · cases h
    · rename_i hfits
      push Not at hfits
      refine ⟨?_, hfits.2⟩
      by_contra hne
      exact hstate hne

/-- Where the upload is complete, nothing but an empty payload gets to the file. -/
theorem payload_nil_of_full {chunk : Chunk} {env : Surroundings} {writer : Writer}
    (h : reachesStorage principal chunk env w = .ok writer)
    (hfull : w.row.receivedSize = w.row.expectedSize) : chunk.payload = [] := by
  obtain ⟨-, hlen⟩ := reachesStorage_ok h
  refine List.length_eq_zero_iff.mp ?_
  omega

/-- **What an append does**: it changes nothing, or the file alone and raises, or it records its payload
at the end. -/
inductive Appended (sha256 : Bytes → Digest) (w : World) (payloads : List Bytes) (chunk : Chunk) :
    Except UploadError ChunkWriteResult → World → Prop
  | again (h : ∃ existing ∈ w.chunks, existing.chunkIndex = chunk.chunkIndex ∧
        existing.startOffset = chunk.offset ∧ existing.byteSize = chunk.payload.length ∧
          existing.sha256 = chunk.payloadSha256) :
      Appended sha256 w payloads chunk (.ok ⟨w.row.receivedSize, true⟩) w
  | refused (e : UploadError) (file : Staging) (h : Agrees sha256 { w with file := file } payloads) :
      Appended sha256 w payloads chunk (.error e) { w with file := file }
  | new (written : Staging) (h : Agrees sha256
        { w with
          file := written
          row := received chunk w.row
          chunks := w.chunks ++ [receipt chunk w.row] } (payloads ++ [chunk.payload])) :
      Appended sha256 w payloads chunk (.ok ⟨w.row.receivedSize + chunk.payload.length, false⟩)
        { w with
          file := written
          row := received chunk w.row
          chunks := w.chunks ++ [receipt chunk w.row] }

theorem Appended.unchanged {payloads : List Bytes} {chunk : Chunk} {e : UploadError}
    (h : Agrees sha256 w payloads) : Appended sha256 w payloads chunk (.error e) w :=
  .refused e w.file h

/-- A receipt at the end of the session is not a repeat: recorded chunks end before it. -/
theorem not_recorded_at_end {payloads : List Bytes} (h : Agrees sha256 w payloads) {c : UploadChunkRow}
    (hc : c ∈ w.chunks) (hpos : 0 < c.byteSize) : (c.startOffset : Int) ≠ w.row.receivedSize := by
  obtain ⟨-, hend⟩ := h.tiles.start_lt c hc
  omega

theorem append_appended (limits : VaultLimits) (principal : VaultPrincipal) (h : Agrees sha256 w payloads) (chunk : Chunk) (env : Surroundings) :
    Appended sha256 w payloads chunk (append sha256 limits principal chunk env w).1
      (append sha256 limits principal chunk env w).2 := by
  unfold append
  cases hrow : ownedRow principal w.row with
  | error e => exact .unchanged h
  | ok row =>
    dsimp only
    rw [ownedRow_ok hrow]
    split
    · exact .unchanged h
    · split
      · rename_i hoffset
        cases hr : recordChunk principal chunk env.guardAfter env.now w with
        | error e => exact .unchanged h
        | ok r =>
          obtain ⟨-, ⟨hres, hsame, hagain⟩ | ⟨-, hoff, -⟩⟩ := recordChunk_ok hr
          · dsimp only
            rw [hres, hsame]
            exact .again hagain
          · exact absurd hoff hoffset
      · rename_i hoffset
        have hoffset : chunk.offset = w.row.receivedSize := by
          by_contra hne
          exact hoffset hne
        unfold appendAtEnd
        cases hreach : reachesStorage principal chunk env w with
        | error e => exact .unchanged h
        | ok writer =>
          have hcommitted : (writerCall chunk env w).committedSize = payloads.flatten.length :=
            h.length.symm
          have hend : (writerCall chunk env w).offset = payloads.flatten.length := by
            rw [h.length]
            exact hoffset
          obtain ⟨hok, herror⟩ := append_spec sha256 limits writer h.holds hcommitted hend
          dsimp only
          generalize appendReconciledChunk sha256 limits writer (writerCall chunk env w) w.file = result
            at hok herror ⊢
          obtain ⟨outcome, file⟩ := result
          cases outcome with
          | error e =>
            refine .refused e file ?_
            rcases herror (fun he => (by cases he)) with he | he
            · have he : file = w.file := he
              rw [he]
              exact h
            · have he : file = some payloads.flatten := he
              rw [he]
              exact h.refile (Holds.exact _) fun _ => rfl
          | ok _ =>
            obtain ⟨hne, hsha, hfile⟩ := hok rfl
            have hfile : file = some (payloads.flatten ++ chunk.payload) := hfile
            obtain ⟨hopen, hlen⟩ := reachesStorage_ok hreach
            have hpos : 0 < chunk.payload.length := List.length_pos_iff.mpr hne
            -- the bytes are there, with or without their receipt
            have hwritten : Agrees sha256 { w with file := file } payloads := by
              refine h.refile ?_ fun hfull => ?_
              · rw [hfile]
                exact Holds.more _ _
              · exact absurd (payload_nil_of_full hreach hfull) hne
            show Appended sha256 w payloads chunk (recordWritten principal chunk env w file).1
              (recordWritten principal chunk env w file).2
            unfold recordWritten
            cases hr : recordChunk principal chunk env.guardAfter env.now { w with file := file } with
            | error e => exact .refused e file hwritten
            | ok r =>
              obtain ⟨-, ⟨-, -, existing, hmem, -, hstart, hsize, -⟩ | ⟨hres, -, -, -, hindex, hsame⟩⟩ :=
                recordChunk_ok hr
              · exact absurd (hstart.trans hoffset)
                  (not_recorded_at_end h hmem (by rw [hsize]; exact hpos))
              · dsimp only
                rw [hres, hsame]
                exact .new file (h.record hopen hfile hpos hsha hlen hindex)

/-! ## the other calls -/

/-- Changes of the row that keep its sizes. -/
theorem Agrees.relabel {payloads : List Bytes} (h : Agrees sha256 w payloads) {row : UploadSessionRow}
    (hr : row.receivedSize = w.row.receivedSize) (he : row.expectedSize = w.row.expectedSize)
    (hs : row.state.isSealed = true → w.row.receivedSize = w.row.expectedSize) :
    Agrees sha256 { w with row := row } payloads := by
  refine ⟨h.receipts, h.indexes, ?_, ?_, ?_, h.holds, ?_, ?_⟩
  · show Tiles 0 w.chunks row.receivedSize
    rw [hr]
    exact h.tiles
  · show row.receivedSize ≤ row.expectedSize
    rw [hr, he]
    exact h.bounded
  · show 0 < row.expectedSize
    rw [he]
    exact h.positive
  · show row.receivedSize = row.expectedSize → w.file = _
    rw [hr, he]
    exact h.full
  · show row.state.isSealed = true → row.receivedSize = row.expectedSize
    rw [hr, he]
    exact hs

/-- A call on the row alone: nothing, or the session is sealed when it is complete, expired or
cancelled. -/
inductive Relabelled (w : World) : World → Prop
  | same : Relabelled w w
  | sealed (jobId : Uuid) (now : Int) (state : w.row.state = .opened)
      (complete : w.row.receivedSize = w.row.expectedSize) :
      Relabelled w
        { w with row := { w.row with jobId := some jobId, state := .sealed, sealedAt := some now } }
  | expire (now : Int) (state : w.row.state = .opened) :
      Relabelled w
        { w with
          row := { w.row with
            state := .expired
            errorCode := some "upload_session_expired"
            completedAt := some now } }
  | cancel (now : Int) (state : w.row.state = .opened ∨ w.row.state = .sealed) :
      Relabelled w
        { w with
          row := { w.row with
            state := .cancelled
            errorCode := some "upload_cancelled"
            completedAt := some now } }

theorem Relabelled.agrees {payloads : List Bytes} (hr : Relabelled w w') (h : Agrees sha256 w payloads) :
    Agrees sha256 w' payloads := by
  cases hr with
  | same => exact h
  | sealed jobId now state complete => exact h.relabel rfl rfl fun _ => complete
  | expire now state => exact h.relabel rfl rfl fun hs => Bool.noConfusion hs
  | cancel now state => exact h.relabel rfl rfl fun hs => Bool.noConfusion hs

theorem complete_relabelled {jobId : Uuid} {info : UploadInfo}
    (h : complete principal guard jobId now w = .ok (info, w')) : Relabelled w w' := by
  unfold complete at h
  obtain ⟨row, hrow, h⟩ := bind_eq_ok.mp h
  rw [ownedRow_ok hrow] at h
  split at h
  · cases h
    exact .same
  · split at h
    · cases h
    · rename_i hready
      push Not at hready
      unfold sealAndEnqueue at h
      obtain ⟨row', hrow', h⟩ := bind_eq_ok.mp h
      obtain ⟨⟨⟩, -, h⟩ := bind_eq_ok.mp h
      rw [ownedRow_ok hrow'] at h
      split at h
      · cases h
        exact .same
      · split at h
        · cases h
        · cases h
          exact .sealed jobId now hready.1 hready.2

theorem cancel_relabelled {u : Unit} (h : cancel principal guard now w = .ok (u, w')) :
    Relabelled w w' := by
  unfold cancel at h
  obtain ⟨row, hrow, h⟩ := bind_eq_ok.mp h
  obtain ⟨⟨⟩, -, h⟩ := bind_eq_ok.mp h
  rw [ownedRow_ok hrow] at h
  split at h
  · rename_i hstate
    cases h
    exact .cancel now hstate
  · split at h
    · cases h
      exact .same
    · cases h

theorem expireIfDue_relabelled {info : Option UploadInfo}
    (h : expireIfDue principal guard now w = .ok (info, w')) : Relabelled w w' := by
  unfold expireIfDue at h
  obtain ⟨row, hrow, h⟩ := bind_eq_ok.mp h
  rw [ownedRow_ok hrow] at h
  split at h
  · rename_i hdue
    obtain ⟨r, hr, h⟩ := bind_eq_ok.mp h
    cases h
    unfold expireOpen at hr
    obtain ⟨row', hrow', hr⟩ := bind_eq_ok.mp hr
    rw [ownedRow_ok hrow', if_pos hdue.1] at hr
    obtain ⟨⟨⟩, -, hr⟩ := bind_eq_ok.mp hr
    cases hr
    exact .expire now hdue.1
  · cases h
    exact .same

end

/-! ## runs -/

/-- The payload that a step records. -/
def Label.recorded : Label → List Bytes
  | .served (.append _ chunk _) (.written result) => if result.idempotent then [] else [chunk.payload]
  | _ => []

section
variable {sha256 : Bytes → Digest} {limits : VaultLimits} {w w' : World} {payloads : List Bytes}

theorem transaction_relabelled {α : Type} {f : World → Except UploadError (α × World)}
    {outcome : α → Outcome} (hf : ∀ a w', f w = .ok (a, w') → Relabelled w w') :
    Relabelled w (transaction f outcome w).2 := by
  unfold transaction
  cases h : f w with
  | error e => exact .same
  | ok r => exact hf r.1 r.2 h

/-- The calls that leave receipts and file alone. -/
theorem runCall_relabelled {call : Call} (h : ∀ principal chunk env, call ≠ .append principal chunk env) :
    Relabelled w (runCall sha256 limits call w).2 := by
  cases call with
  | append principal chunk env => exact absurd rfl (h principal chunk env)
  | status principal =>
    unfold runCall
    dsimp only
    split
    · exact .same
    · exact .same
  | complete principal guard jobId now =>
    exact transaction_relabelled fun _ _ => complete_relabelled
  | cancel principal guard now => exact transaction_relabelled fun _ _ => cancel_relabelled
  | expireIfDue principal guard now => exact transaction_relabelled fun _ _ => expireIfDue_relabelled

theorem recorded_of_ne {call : Call} {outcome : Outcome}
    (h : ∀ principal chunk env, call ≠ .append principal chunk env) :
    (Label.served call outcome).recorded = [] := by
  cases call with
  | append principal chunk env => exact absurd rfl (h principal chunk env)
  | status principal => rfl
  | complete principal guard jobId now => rfl
  | cancel principal guard now => rfl
  | expireIfDue principal guard now => rfl

/-- **Every step keeps row, receipts and file in agreement**, with the payload that it records. -/
theorem step_agrees {label : Label} (h : Agrees sha256 w payloads) (hs : Step sha256 limits w label w') :
    Agrees sha256 w' (payloads ++ label.recorded) := by
  cases hs with
  | lost reaches torn =>
    rename_i principal chunk env writer file
    show Agrees sha256 _ (payloads ++ [])
    rw [List.append_nil]
    rcases torn_spec h.holds h.length.symm torn with rfl | ⟨n, rfl⟩
    · exact h
    · refine h.refile (Holds.more _ _) fun hfull => ?_
      have hnil : (writerCall chunk env w).payload = [] := payload_nil_of_full reaches.2 hfull
      rw [hnil, List.take_nil, List.append_nil]
  | served call =>
    by_cases hc : ∃ principal chunk env, call = .append principal chunk env
    · obtain ⟨principal, chunk, env, rfl⟩ := hc
      have happ := append_appended limits principal h chunk env
      unfold runCall
      dsimp only
      generalize append sha256 limits principal chunk env w = result at happ ⊢
      obtain ⟨outcome, after⟩ := result
      dsimp only at happ
      cases happ with
      | again hex =>
        show Agrees sha256 w (payloads ++ [])
        rw [List.append_nil]
        exact h
      | refused e file hrefused =>
        show Agrees sha256 _ (payloads ++ [])
        rw [List.append_nil]
        exact hrefused
      | new written hnew => exact hnew
    · have hne : ∀ principal chunk env, call ≠ .append principal chunk env := by
        intro principal chunk env he
        exact hc ⟨principal, chunk, env, he⟩
      rw [recorded_of_ne hne, List.append_nil]
      exact (runCall_relabelled hne).agrees h

/-- The payloads that a run records. -/
def recorded (labels : List Label) : List Bytes := labels.flatMap Label.recorded

theorem path_agrees {labels : List Label} (p : Path (Step sha256 limits) w labels w')
    (h : Agrees sha256 w payloads) : Agrees sha256 w' (payloads ++ recorded labels) := by
  induction p generalizing payloads with
  | nil w =>
    show Agrees sha256 w (payloads ++ [])
    rw [List.append_nil]
    exact h
  | cons hs p ih =>
    have hnext := ih (step_agrees h hs)
    rw [List.append_assoc] at hnext
    exact hnext

/-! ## sealing -/

theorem Relabelled.state (hr : Relabelled w w') : w'.row.state = w.row.state ∨
    (w.row.state = .opened ∧ w'.row.state = .sealed ∧ w.row.receivedSize = w.row.expectedSize) ∨
      w'.row.state = .cancelled ∨ w'.row.state = .expired := by
  cases hr with
  | same => exact Or.inl rfl
  | sealed jobId now state complete => exact Or.inr (Or.inl ⟨state, rfl, complete⟩)
  | expire now state => exact Or.inr (Or.inr (Or.inr rfl))
  | cancel now state => exact Or.inr (Or.inr (Or.inl rfl))

theorem step_state {label : Label} (h : Agrees sha256 w payloads) (hs : Step sha256 limits w label w') :
    w'.row.state = w.row.state ∨
      (w.row.state = .opened ∧ w'.row.state = .sealed ∧ w.row.receivedSize = w.row.expectedSize) ∨
        w'.row.state = .cancelled ∨ w'.row.state = .expired := by
  cases hs with
  | lost reaches torn => exact Or.inl rfl
  | served call =>
    by_cases hc : ∃ principal chunk env, call = .append principal chunk env
    · obtain ⟨principal, chunk, env, rfl⟩ := hc
      have happ := append_appended limits principal h chunk env
      unfold runCall
      dsimp only
      generalize append sha256 limits principal chunk env w = result at happ ⊢
      obtain ⟨outcome, after⟩ := result
      dsimp only at happ
      cases happ with
      | again hex => exact Or.inl rfl
      | refused e file hrefused => exact Or.inl rfl
      | new written hnew => exact Or.inl rfl
    · exact (runCall_relabelled fun principal chunk env he => hc ⟨principal, chunk, env, he⟩).state

/-- A session that is not open does not open again. -/
theorem path_not_opened {labels : List Label} (p : Path (Step sha256 limits) w labels w')
    (h : Agrees sha256 w payloads) (hw : w.row.state ≠ .opened) : w'.row.state ≠ .opened := by
  induction p generalizing payloads with
  | nil w => exact hw
  | cons hs p ih =>
    refine ih (step_agrees h hs) ?_
    rcases step_state h hs with he | ⟨ho, -, -⟩ | he | he
    · rw [he]
      exact hw
    · exact absurd ho hw
    · rw [he]
      exact fun hn => UploadState.noConfusion hn
    · rw [he]
      exact fun hn => UploadState.noConfusion hn

end

/-! ## the laws together -/

/-- A new session, as `create` leaves it: no bytes, and no staging file. -/
def created (uploadSessionId : Uuid) (principal : VaultPrincipal) (expectedSize : Nat)
    (stagingKey : String) (expiresAt : Int) (limits : VaultLimits) : World :=
  { row := createdRow uploadSessionId principal expectedSize stagingKey expiresAt limits
    chunks := []
    file := none }

theorem created_agrees {sha256 : Bytes → Digest} {uploadSessionId : Uuid} {principal : VaultPrincipal}
    {expectedSize : Nat} {stagingKey : String} {expiresAt : Int} {limits : VaultLimits}
    (h : 0 < expectedSize) :
    Agrees sha256 (created uploadSessionId principal expectedSize stagingKey expiresAt limits) [] where
  receipts := .nil
  indexes := List.nodup_nil
  tiles := rfl
  bounded := Nat.zero_le _
  positive := h
  holds := Or.inr ⟨rfl, rfl⟩
  full := fun hf => absurd hf (Nat.ne_of_lt h)
  isSealed := fun hs => Bool.noConfusion hs

/-- **The laws of an upload session** in a world that a run of recorded `payloads` reached. -/
structure UploadLaws (sha256 : Bytes → Digest) (limits : VaultLimits) (w : World)
    (payloads : List Bytes) : Prop where
  /-- The received size is the sum of the chunks, which lie one after the other. -/
  size : w.row.receivedSize = (w.chunks.map UploadChunkRow.byteSize).sum
  tiles : Tiles 0 w.chunks w.row.receivedSize
  /-- Each receipt has the length and the digest of its payload. -/
  receipts : List.Forall₂ (Recorded sha256) w.chunks payloads
  /-- The file starts with the payloads. -/
  bytes : (w.file.getD []).take w.row.receivedSize = payloads.flatten
  /-- A chunk that is recorded is accepted again only as it is, and changes nothing. -/
  again : ∀ (principal : VaultPrincipal) (chunk : Chunk) (env : Surroundings), ∀ c ∈ w.chunks,
    c.chunkIndex = chunk.chunkIndex → (c.startOffset : Int) = chunk.offset →
      c.byteSize = chunk.payload.length → c.sha256 = chunk.payloadSha256 →
        (append sha256 limits principal chunk env w).2 = w ∧
          (w.row.userId = principal.userId → w.row.deviceId = principal.deviceId →
            w.row.state = .opened → env.guardAfter = none → env.now < w.row.expiresAt →
              (append sha256 limits principal chunk env w).1 = .ok ⟨w.row.receivedSize, true⟩)
  /-- An append that raises leaves the row, the receipts and the recorded bytes. -/
  refused : ∀ principal chunk env e, (append sha256 limits principal chunk env w).1 = .error e →
    (append sha256 limits principal chunk env w).2.row = w.row ∧
      (append sha256 limits principal chunk env w).2.chunks = w.chunks ∧
        (((append sha256 limits principal chunk env w).2.file).getD []).take w.row.receivedSize =
          payloads.flatten
  /-- A sealed session is complete, and its file has exactly the expected size. -/
  isSealed : w.row.state = .sealed → w.row.receivedSize = w.row.expectedSize ∧
    w.file = some payloads.flatten ∧ payloads.flatten.length = w.row.expectedSize
  /-- It is sealed at most once: from an open session, and never again. -/
  once : ∀ label w₁ labels w₂ label' w₃, Step sha256 limits w label w₁ → w.row.state ≠ .sealed →
    w₁.row.state = .sealed → Path (Step sha256 limits) w₁ labels w₂ → Step sha256 limits w₂ label' w₃ →
      w₂.row.state ≠ .sealed → w₃.row.state ≠ .sealed

section
variable {sha256 : Bytes → Digest} {limits : VaultLimits} {w : World} {payloads : List Bytes}

theorem Agrees.bytes {file : Staging} (h : Holds file payloads.flatten)
    (hlen : payloads.flatten.length = w.row.receivedSize) :
    (file.getD []).take w.row.receivedSize = payloads.flatten := by
  rw [← hlen]
  rcases h with ⟨rest, rfl⟩ | ⟨rfl, hnil⟩
  · exact List.take_left
  · rw [hnil]
    rfl

/-- A receipt that is there is the one that its index finds. -/
theorem find_receipt (h : Agrees sha256 w payloads) {c : UploadChunkRow} (hc : c ∈ w.chunks) {k : Int}
    (hk : c.chunkIndex = k) : w.chunks.find? (fun d => d.chunkIndex = k) = some c := by
  cases hf : w.chunks.find? fun d => d.chunkIndex = k with
  | none => exact absurd (decide_eq_true hk) (List.find?_eq_none.mp hf c hc)
  | some d =>
    have hd : d.chunkIndex = k := by simpa using List.find?_some hf
    exact congrArg some
      (List.inj_on_of_nodup_map h.indexes (List.mem_of_find?_eq_some hf) hc (hd.trans hk.symm))

theorem append_again (h : Agrees sha256 w payloads) (principal : VaultPrincipal) (chunk : Chunk)
    (env : Surroundings) {c : UploadChunkRow} (hc : c ∈ w.chunks) (hindex : c.chunkIndex = chunk.chunkIndex)
    (hstart : (c.startOffset : Int) = chunk.offset) (hsize : c.byteSize = chunk.payload.length)
    (hsha : c.sha256 = chunk.payloadSha256) :
    (append sha256 limits principal chunk env w).2 = w ∧
      (w.row.userId = principal.userId → w.row.deviceId = principal.deviceId →
        w.row.state = .opened → env.guardAfter = none → env.now < w.row.expiresAt →
          (append sha256 limits principal chunk env w).1 = .ok ⟨w.row.receivedSize, true⟩) := by
  have hrecorded : recordAgain chunk w c = .ok (⟨w.row.receivedSize, true⟩, w) :=
    if_pos ⟨hstart, hsize, hsha⟩
  have hne : chunk.offset ≠ w.row.receivedSize := by
    rw [← hstart]
    refine not_recorded_at_end h hc ?_
    exact tiles_pos h.tiles c hc
  constructor
  · unfold append
    cases hrow : ownedRow principal w.row with
    | error e => rfl
    | ok row =>
      dsimp only
      rw [ownedRow_ok hrow]
      split
      · rfl
      · cases hr : recordChunk principal chunk env.guardAfter env.now w with
        | error e => rfl
        | ok r =>
          obtain ⟨-, ⟨-, hsame, -⟩ | ⟨-, hoff, -⟩⟩ := recordChunk_ok hr
          · exact hsame
          · exact absurd hoff hne
  · intro hu hd hopen hguard hnow
    have hrow : ownedRow principal w.row = .ok w.row := if_pos ⟨hu, hd⟩
    have hlive : ¬ (w.row.state ≠ .opened ∨ w.row.expiresAt ≤ env.now) := by
      rintro (hs | ht)
      · exact hs hopen
      · omega
    have hr : recordChunk principal chunk env.guardAfter env.now w =
        .ok (⟨w.row.receivedSize, true⟩, w) := by
      unfold recordChunk
      rw [hrow, hguard]
      show (if w.row.state ≠ .opened ∨ w.row.expiresAt ≤ env.now then _ else _) = _
      rw [if_neg hlive, find_receipt h hc hindex]
      exact hrecorded
    unfold append
    rw [hrow]
    show (if w.row.state ≠ .opened then _ else _ : Except UploadError ChunkWriteResult × World).1 = _
    rw [if_neg (not_not_intro hopen), if_pos hne, hr]

theorem append_refused (h : Agrees sha256 w payloads) (principal : VaultPrincipal) (chunk : Chunk)
    (env : Surroundings) {e : UploadError} (he : (append sha256 limits principal chunk env w).1 = .error e) :
    (append sha256 limits principal chunk env w).2.row = w.row ∧
      (append sha256 limits principal chunk env w).2.chunks = w.chunks ∧
        (((append sha256 limits principal chunk env w).2.file).getD []).take w.row.receivedSize =
          payloads.flatten := by
  have happ := append_appended limits principal h chunk env
  generalize append sha256 limits principal chunk env w = result at happ he ⊢
  obtain ⟨outcome, after⟩ := result
  have he : outcome = .error e := he
  subst he
  cases happ with
  | refused _ file hrefused => exact ⟨rfl, rfl, Agrees.bytes hrefused.holds h.length⟩

/-- A step that seals starts from an open session. -/
theorem opened_of_seals {label : Label} {w' : World} (h : Agrees sha256 w payloads)
    (hs : Step sha256 limits w label w') (hw : w.row.state ≠ .sealed) (hw' : w'.row.state = .sealed) :
    w.row.state = .opened := by
  rcases step_state h hs with he | ⟨ho, -, -⟩ | he | he
  · exact absurd (he.symm.trans hw') hw
  · exact ho
  · rw [hw'] at he
    cases he
  · rw [hw'] at he
    cases he

end

/-- **A resumable upload agrees with its storage**, in every run of its calls, also where an append is
lost between the file and its receipt. -/
theorem upload_agrees_with_storage (sha256 : Bytes → Digest) (limits : VaultLimits)
    (uploadSessionId : Uuid) (principal : VaultPrincipal) (expectedSize : Nat) (stagingKey : String)
    (expiresAt : Int) (labels : List Label) (w : World) (hsize : 0 < expectedSize)
    (p : Path (Step sha256 limits)
      (created uploadSessionId principal expectedSize stagingKey expiresAt limits) labels w) :
    UploadLaws sha256 limits w (recorded labels) := by
  have h : Agrees sha256 w (recorded labels) := path_agrees p (created_agrees hsize)
  refine ⟨?_, h.tiles, h.receipts, Agrees.bytes h.holds h.length,
    fun principal chunk env c => append_again h principal chunk env,
    fun principal chunk env e => append_refused h principal chunk env, ?_, ?_⟩
  · have hsum := h.tiles.sum
    omega
  · intro hsealed
    have hfull : w.row.receivedSize = w.row.expectedSize := by
      refine h.isSealed ?_
      rw [hsealed]
      rfl
    exact ⟨hfull, h.full hfull, h.length.trans hfull⟩
  · intro label w₁ between w₂ label' w₃ hs hw hw₁ q hs' hw₂ hw₃
    have h₁ := step_agrees h hs
    have h₂ := path_agrees q h₁
    have hclosed : w₁.row.state ≠ .opened := by
      rw [hw₁]
      exact fun hn => UploadState.noConfusion hn
    exact path_not_opened q h₁ hclosed (opened_of_seals h₂ hs' hw₂ hw₃)

/-! ## a run -/

namespace Sample

def uploadId : Uuid := ⟨"00000000-0000-0000-0000-000000000001", Eq.refl true⟩

def principal : VaultPrincipal := ⟨uploadId, uploadId⟩

def limits : VaultLimits := ⟨1024, 16, 4⟩

/-- A digest that is the payload itself. -/
def sha256 : Bytes → Digest := id

def surroundings : Surroundings := ⟨some .direct, 4096, 0, none, none, 0⟩

def chunk : Chunk := ⟨0, 0, [1, 2, 3], [1, 2, 3]⟩

def opened : World := created uploadId principal 3 "staged" 100 limits

def written : World := (runCall sha256 limits (.append principal chunk surroundings) opened).2

def finished : World := (runCall sha256 limits (.complete principal none uploadId 1) written).2

end Sample

/-- The laws of an upload of one chunk that is sealed. -/
theorem upload_agrees_of_one_chunk :
    UploadLaws Sample.sha256 Sample.limits Sample.finished [[1, 2, 3]] :=
  upload_agrees_with_storage Sample.sha256 Sample.limits Sample.uploadId Sample.principal 3 "staged" 100 _ _
    (by decide)
    (.cons (.served Sample.opened (.append Sample.principal Sample.chunk Sample.surroundings))
      (.cons (.served Sample.written (.complete Sample.principal none Sample.uploadId 1)) (.nil _)))

/-- The chunk is recorded, and while the session is open a repeat returns the next offset; once it is
sealed, the repeat raises. -/
theorem repeat_raises_when_sealed :
    (append Sample.sha256 Sample.limits Sample.principal Sample.chunk Sample.surroundings
        Sample.written).1 = .ok ⟨3, true⟩ ∧
      Sample.finished.chunks = Sample.written.chunks ∧ Sample.finished.row.state = .sealed ∧
        (append Sample.sha256 Sample.limits Sample.principal Sample.chunk Sample.surroundings
          Sample.finished).1 = .error .invalidState :=
  ⟨rfl, rfl, rfl, rfl⟩

end AutPlay.Vault
