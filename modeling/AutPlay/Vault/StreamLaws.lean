import AutPlay.Vault.Streams

/-!
# A stream delivers its range

* `drain_spec`          the blocks of a reader, whatever the reads return;
* `readFrame_pack`      a frame that was written is read back, however the pipe cuts it;
* `streamLoop_spec`     a block for every request, then the end;
* `range_delivered`     an open range, in the process of the server and through the child;
* `vaultStreaming_laws` the plan of a request, and the delivery of every range.
-/

set_option linter.unusedSectionVars false

namespace AutPlay.Vault

open Result PyText

section
variable {short shortIn : Nat → Nat} {content stream payload : Bytes} {r : FileRangeReader}

/-! ## the reader -/

theorem someOf_length {wanted still : Nat} :
    (someOf short wanted stream still).length = min (min wanted (short still + 1)) stream.length :=
  List.length_take

theorem someOf_ne_nil {wanted still : Nat} (hw : 0 < wanted) (hs : stream ≠ []) :
    someOf short wanted stream still ≠ [] := by
  intro h
  have hlen := congrArg List.length h
  have hpos := List.length_pos_of_ne_nil hs
  rw [someOf_length, List.length_nil] at hlen
  omega

theorem someOf_eq_take {wanted still : Nat} :
    someOf short wanted stream still = stream.take (someOf short wanted stream still).length := by
  rw [someOf_length]
  unfold someOf
  exact (List.take_eq_take_min ..).trans rfl

/-- A reader whose bytes are in the file. -/
structure FileRangeReader.Ready (r : FileRangeReader) (content : Bytes) : Prop where
  opened : r.closed = false
  within : r.position + r.remaining ≤ content.length
  block_pos : 0 < r.blockSize

def FileRangeReader.rest (r : FileRangeReader) (content : Bytes) : Bytes :=
  (content.drop r.position).take r.remaining

/-- A turn yields a part of what is left, not longer than a block, or ends when nothing is left. -/
theorem next_spec (h : r.Ready content) :
    (r.remaining = 0 ∧ r.next short content (fun _ => false) = .ok (none, { r with closed := true })) ∨
    ∃ block r', r.next short content (fun _ => false) = .ok (some block, r') ∧ block ≠ [] ∧
      block.length ≤ r.blockSize ∧ r'.Ready content ∧ r'.blockSize = r.blockSize ∧
      r'.remaining < r.remaining ∧ r.rest content = block ++ r'.rest content := by
  unfold FileRangeReader.next
  by_cases hrem : r.remaining = 0
  · exact Or.inl ⟨hrem, if_pos (Or.inr hrem)⟩
  have hgo : ¬ (r.closed = true ∨ r.remaining = 0) := by
    rw [h.opened]
    exact fun hor => hor.elim nofun hrem
  have hin := h.within
  have hblock := h.block_pos
  have hdrop : content.drop r.position ≠ [] := by
    rw [Ne, List.drop_eq_nil_iff]
    omega
  rw [if_neg hgo, if_neg nofun]
  dsimp only
  generalize hpayload : someOf short (min r.remaining r.blockSize) (content.drop r.position) r.remaining = block
  have hne : block ≠ [] := hpayload ▸ someOf_ne_nil (by omega) hdrop
  have hlen : block.length ≤ min r.remaining r.blockSize := by
    rw [← hpayload, someOf_length]
    omega
  have hpos := List.length_pos_of_ne_nil hne
  have htake : block = (content.drop r.position).take block.length := by
    rw [← hpayload]
    exact someOf_eq_take
  rw [if_neg hne]
  refine Or.inr ⟨block, _, rfl, hne, by omega, ⟨h.opened, ?_, hblock⟩, rfl, ?_, ?_⟩
  · show r.position + block.length + (r.remaining - block.length) ≤ content.length
    omega
  · show r.remaining - block.length < r.remaining
    omega
  · show (content.drop r.position).take r.remaining =
      block ++ (content.drop (r.position + block.length)).take (r.remaining - block.length)
    rw [← List.drop_drop]
    conv_lhs => rw [← List.take_append_drop block.length (content.drop r.position), ← htake]
    rw [List.take_append, List.take_of_length_le (by omega)]

/-- **The blocks of a reader** are its bytes, in order, in blocks of the size or less. -/
theorem drain_spec (h : r.Ready content) {turns : Nat} (hturns : r.remaining < turns) :
    ∃ blocks, r.drain short content (fun _ => false) turns = .ok blocks ∧ blocks.flatten = r.rest content ∧
      ∀ block ∈ blocks, block ≠ [] ∧ block.length ≤ r.blockSize := by
  induction turns generalizing r with
  | zero => exact absurd hturns (Nat.not_lt_zero _)
  | succ turns ih =>
    rcases next_spec h with ⟨hrem, hnext⟩ | ⟨block, r', hnext, hne, hlen, hready, hsize, hlt, hrest⟩
    · refine ⟨[], bind_of_ok hnext rfl, ?_, nofun⟩
      unfold FileRangeReader.rest
      rw [hrem]
      rfl
    · obtain ⟨blocks, hdrain, hflat, hblocks⟩ := ih hready (by omega)
      refine ⟨block :: blocks, bind_of_ok hnext (bind_of_ok hdrain rfl), ?_, ?_⟩
      · rw [List.flatten_cons, hflat, hrest]
      · rw [hsize] at hblocks
        exact List.forall_mem_cons.mpr ⟨⟨hne, hlen⟩, hblocks⟩

/-! ## frames -/

theorem readExact_ok {turns wanted : Nat} (hturns : wanted ≤ turns) (hlen : wanted ≤ stream.length) :
    readExact short turns wanted stream = .ok (stream.take wanted, stream.drop wanted) := by
  induction turns generalizing wanted stream with
  | zero =>
    obtain rfl := Nat.le_zero.mp hturns
    rfl
  | succ turns ih =>
    cases wanted with
    | zero => rfl
    | succ wanted =>
      rw [readExact]
      dsimp only
      generalize hpart : someOf short (wanted + 1) stream (wanted + 1) = part
      have hstream : stream ≠ [] := by
        rintro rfl
        exact absurd hlen (Nat.not_succ_le_zero _)
      have hne : part ≠ [] := hpart ▸ someOf_ne_nil (Nat.succ_pos _) hstream
      have hpos := List.length_pos_of_ne_nil hne
      have hle : part.length ≤ wanted + 1 := by
        rw [← hpart, someOf_length]
        omega
      have htake : part = stream.take part.length := by
        rw [← hpart]
        exact someOf_eq_take
      have hrest : readExact short turns (wanted + 1 - part.length) (stream.drop part.length) = .ok _ :=
        ih (by omega) (by rw [List.length_drop]; omega)
      rw [if_neg hne]
      refine bind_of_ok hrest (congrArg Except.ok (Prod.ext ?_ ?_))
      · show part ++ (stream.drop part.length).take (wanted + 1 - part.length) = stream.take (wanted + 1)
        conv_rhs => rw [← List.take_append_drop part.length stream, ← htake]
        rw [List.take_append, List.take_of_length_le hle]
      · show (stream.drop part.length).drop (wanted + 1 - part.length) = stream.drop (wanted + 1)
        rw [List.drop_drop]
        congr 1
        omega

theorem toNat_ofNat_mod (n : Nat) : (UInt8.ofNat (n % 256)).toNat = n % 256 := by
  rw [UInt8.toNat_ofNat']
  omega

/-- **A frame is read back**, however the pipe cuts it. -/
theorem readFrame_pack {tag : UInt8} {maximum : Nat} (hmax : payload.length ≤ maximum)
    (hsize : payload.length < 4294967296) (rest : Bytes) :
    readFrame short maximum (packFrame tag payload ++ rest) = .ok (⟨tag, payload⟩, rest) := by
  refine bind_of_ok (readExact_ok le_rfl (by unfold packFrame; simp)) ?_
  have hvalue : ((payload.length / 16777216 % 256 * 256 + payload.length / 65536 % 256) * 256 +
      payload.length / 256 % 256) * 256 + payload.length % 256 = payload.length := by omega
  show (if _ > maximum then _ else _) = _
  rw [toNat_ofNat_mod, toNat_ofNat_mod, toNat_ofNat_mod, toNat_ofNat_mod, hvalue, if_neg (by omega)]
  refine bind_of_ok (readExact_ok le_rfl ?_) ?_
  · show payload.length ≤ (payload ++ rest).length
    rw [List.length_append]
    omega
  · show Except.ok (Frame.mk tag ((payload ++ rest).take payload.length), (payload ++ rest).drop payload.length) = _
    rw [List.take_left', List.drop_left']
    · rfl
    · rfl

theorem readFrame_nil {maximum : Nat} : readFrame short maximum [] = .error .childProtocol := by
  have hpart : someOf short (4 + 1) [] (4 + 1) = [] := List.take_nil
  refine bind_eq_error.mpr (Or.inl ?_)
  rw [readExact]
  dsimp only
  rw [if_pos hpart]

/-! ## the exchange -/

/-- The requests for so many blocks. -/
def requests (m : Nat) : Bytes := (List.replicate m (packFrame (tagOf 'N') [])).flatten

theorem requests_succ (m : Nat) : requests (m + 1) = packFrame (tagOf 'N') [] ++ requests m := by
  unfold requests
  rw [List.replicate_succ, List.flatten_cons]

theorem length_requests (m : Nat) : (requests m).length = m * 5 := by
  induction m with
  | zero => rfl
  | succ m ih =>
    rw [requests_succ, List.length_append, ih, Nat.succ_mul, Nat.add_comm]
    rfl

/-- The frames that answer the requests: the blocks, and the end. -/
def answers (blocks : List Bytes) : List Bytes :=
  blocks.map (packFrame (tagOf 'D')) ++ [packFrame (tagOf 'R') []]

/-- How the exchange ends: when the end was asked for, or when the requests stop before. -/
def ending (blocks : List Bytes) (m : Nat) : Except StreamFault Unit :=
  if blocks.length < m then .ok () else .error .childProtocol

theorem ending_nil (m : Nat) : ending [] (m + 1) = .ok () := if_pos (Nat.succ_pos m)

/-- **Every request is answered by the next block**, and the last one by the end. -/
theorem streamLoop_spec (h : r.Ready content) (hblock : r.blockSize ≤ maxFrameBytes) {dturns turns m : Nat}
    {blocks : List Bytes} (hdrain : r.drain short content (fun _ => false) dturns = .ok blocks)
    (hturns : m < turns) : streamLoop short shortIn content turns (requests m) r =
      (((answers blocks).take m).flatten, ending blocks m) := by
  induction dturns generalizing r turns m blocks with
  | zero => cases hdrain
  | succ dturns ih =>
    obtain ⟨turns, rfl⟩ := Nat.exists_eq_succ_of_ne_zero (Nat.ne_of_gt (Nat.zero_lt_of_lt hturns))
    cases m with
    | zero =>
      have hread : readFrame shortIn 0 (requests 0) = .error .childProtocol := readFrame_nil
      rw [streamLoop, hread]
      rfl
    | succ m =>
      have hread : readFrame shortIn 0 (requests (m + 1)) = .ok (⟨tagOf 'N', []⟩, requests m) := by
        rw [requests_succ]
        exact readFrame_pack (Nat.le_refl 0) (by decide) _
      have hrequest : ¬ ((⟨tagOf 'N', []⟩ : Frame).tag ≠ tagOf 'N' ∨ (⟨tagOf 'N', []⟩ : Frame).payload ≠ []) :=
        fun hor => hor.elim (fun h => h rfl) fun h => h rfl
      obtain ⟨⟨block?, r'⟩, hnext', hdrain⟩ := bind_eq_ok.mp hdrain
      rw [streamLoop, hread]
      dsimp only
      rw [if_neg hrequest]
      rcases next_spec h with ⟨hrem, hnext⟩ | ⟨block, r₁, hnext, hne, hlen, hready, hsize, hlt, hrest⟩
      · cases hnext.symm.trans hnext'
        cases hdrain
        rw [hnext]
        refine Prod.ext ?_ (ending_nil m).symm
        show packFrame (tagOf 'R') [] = ([packFrame (tagOf 'R') []].take (m + 1)).flatten
        rw [List.take_succ_cons, List.take_nil]
        rfl
      · cases hnext.symm.trans hnext'
        obtain ⟨blocks', hdrain', heq⟩ := bind_eq_ok.mp hdrain
        cases heq
        have hwrite : writeFrame (tagOf 'D') block = .ok (packFrame (tagOf 'D') block) := if_neg (by omega)
        have hloop := ih hready (hsize.le.trans hblock) hdrain' (Nat.lt_of_succ_lt_succ hturns)
        rw [hnext]
        dsimp only
        rw [hwrite]
        dsimp only
        rw [hloop]
        refine Prod.ext rfl ?_
        show ending blocks' m = ending (block :: blocks') (m + 1)
        unfold ending
        rw [List.length_cons]
        exact if_congr Nat.succ_lt_succ_iff.symm rfl rfl

end

/-! ## delivery -/

/-- The bytes of a range. -/
def ByteRange.bytes (range : ByteRange) (content : Bytes) : Bytes :=
  (content.drop range.start.toNat).take (range.last - range.start + 1).toNat

/-- The object is as it was when it was verified. -/
structure StoredObject.Proven (object : StoredObject) (verifiedNs : Int) : Prop where
  mtime : object.mtimeNs ≤ verifiedNs
  sealed : object.writable = false

/-- The command that asks for a range of an object, within the limits of a command. -/
structure StreamCommand.AsksFor (command : StreamCommand) (object : StoredObject) (range : ByteRange)
    (verifiedNs : Int) (block : Nat) : Prop where
  start : command.start = range.start
  last : command.last = range.last
  expectedSize : command.expectedSize = object.content.length
  verified : command.verifiedNs = some verifiedNs
  ioBlockBytes : command.ioBlockBytes = block
  block_le : block ≤ maxPayloadBytes
  object_le : command.maxObjectBytes ≤ 4 * 1024 ^ 3
  size_le : (object.content.length : Int) ≤ command.maxObjectBytes
  chunk_pos : 1 ≤ command.maxChunkBytes
  chunk_le : command.maxChunkBytes ≤ maxPayloadBytes
  chunk_le_object : command.maxChunkBytes ≤ command.maxObjectBytes
  chunks_pos : 1 ≤ command.maxChunks
  chunks_le : command.maxChunks ≤ 2 ^ 53 - 1

section
variable {object : StoredObject} {range : ByteRange} {verifiedNs : Int} {block : Nat}
  {command : StreamCommand}

theorem openRange_ok (hproven : object.Proven verifiedNs) (hin : range.last < object.content.length) :
    openRange object range object.content.length (some verifiedNs) block =
      .ok ⟨range.start.toNat, (range.last - range.start + 1).toNat, block, false⟩ := by
  have hstart := range.start_nonneg
  have hordered := range.ordered
  have hmtime := hproven.mtime
  have hgo : ¬ ((object.content.length : Int) ≠ object.content.length ∨ range.last ≥ object.content.length ∨
      object.mtimeNs > verifiedNs ∨ object.writable = true) := by
    rw [hproven.sealed]
    rintro (h | h | h | h)
    · exact h rfl
    · omega
    · omega
    · cases h
  unfold openRange
  dsimp only
  rw [if_neg (by omega), if_neg hgo]

theorem ready_openRange (hin : range.last < object.content.length) (hblock : 0 < block) :
    FileRangeReader.Ready ⟨range.start.toNat, (range.last - range.start + 1).toNat, block, false⟩
      object.content := by
  have hstart := range.start_nonneg
  have hordered := range.ordered
  refine ⟨rfl, ?_, hblock⟩
  show range.start.toNat + (range.last - range.start + 1).toNat ≤ object.content.length
  omega

theorem integer_ok {value maximum : Int} (h : 0 ≤ value) (hle : value ≤ maximum) :
    integer value maximum = .ok () := if_pos ⟨h, hle⟩

theorem openStream_ok (hcommand : command.AsksFor object range verifiedNs block)
    (hin : range.last < object.content.length) (hblock : 0 < block) :
    openStream object command =
      openRange object range object.content.length (some verifiedNs) block := by
  obtain ⟨hs, hl, he, hv, hb, hble, hole, hsle, hcpos, hcle, hco, hnpos, hnle⟩ := hcommand
  have hstart := range.start_nonneg
  have hordered := range.ordered
  have hbound : (block : Int) ≤ maxPayloadBytes := Int.ofNat_le.mpr hble
  unfold openStream
  rw [integer_ok (by omega) hole, hb, integer_ok (by omega) hbound, integer_ok (by omega) hcle,
    integer_ok (by omega) hnle, ok_bind, ok_bind, ok_bind, ok_bind, if_neg (by omega), hs, hl,
    integer_ok (by omega) (by omega), integer_ok (by omega) (by omega), ok_bind, ok_bind]
  have hrange : byteRange range.start range.last = some range := byteRange_eq_some.mpr ⟨rfl, rfl⟩
  rw [hrange]
  dsimp only
  rw [he, integer_ok (by omega) hsle, ok_bind, hv]
  rfl

/-- **Every range is delivered**: by the reader, and by the child to whoever asks for its blocks. -/
theorem range_delivered (short : Nat → Nat) (hproven : object.Proven verifiedNs)
    (hin : range.last < object.content.length) (hblock : 0 < block) :
    ∃ reader blocks, openRange object range object.content.length (some verifiedNs) block = .ok reader ∧
      reader.drain short object.content (fun _ => false) (reader.remaining + 1) = .ok blocks ∧
      blocks.flatten = range.bytes object.content ∧
      (∀ b ∈ blocks, b ≠ [] ∧ b.length ≤ block) ∧
      ∀ command : StreamCommand, command.AsksFor object range verifiedNs block → ∀ shortIn m,
        executeStream short shortIn object command (requests m) =
          (packFrame (tagOf 'O') [] ++ ((answers blocks).take m).flatten, ending blocks m) := by
  have hready := ready_openRange hin hblock
  obtain ⟨blocks, hdrain, hflat, hblocks⟩ := drain_spec hready (Nat.lt_succ_self _)
  refine ⟨_, blocks, openRange_ok hproven hin, hdrain, hflat, hblocks, fun command hcommand shortIn m => ?_⟩
  have hturns : m < (requests m).length + 1 := by
    rw [length_requests]
    omega
  unfold executeStream
  rw [openStream_ok hcommand hin hblock, openRange_ok hproven hin]
  dsimp only
  rw [streamLoop_spec hready hcommand.block_le hdrain hturns]

end

/-- **Range requests**: the plan is that of RFC 7233 just when the header does not apply or no number of it
is misread; and every range of an object is delivered, block by block, also through a child, whose frames
are read back as they were written. -/
theorem vaultStreaming_laws (u : Unicode) :
    (∀ (rangeHeader ifRange : Option Points) (etag : Points) (byteSize : Int), 1 ≤ byteSize →
      (PlanMeets u rangeHeader ifRange etag byteSize ↔
        ¬ (Applies rangeHeader ifRange etag ∧ ∃ rest, rangeHeader = some (bytesUnit ++ rest) ∧ comma ∉ rest ∧
          Misread u byteSize (strip u rest)))) ∧
    (∀ (short : Nat → Nat) (object : StoredObject) (range : ByteRange) (verifiedNs : Int) (block : Nat),
      object.Proven verifiedNs → range.last < object.content.length → 0 < block →
      ∃ reader blocks, openRange object range object.content.length (some verifiedNs) block = .ok reader ∧
        reader.drain short object.content (fun _ => false) (reader.remaining + 1) = .ok blocks ∧
        blocks.flatten = range.bytes object.content ∧
        (∀ b ∈ blocks, b ≠ [] ∧ b.length ≤ block) ∧
        ∀ command : StreamCommand, command.AsksFor object range verifiedNs block → ∀ shortIn m,
          executeStream short shortIn object command (requests m) =
            (packFrame (tagOf 'O') [] ++ ((answers blocks).take m).flatten, ending blocks m)) ∧
    ∀ (short : Nat → Nat) (tag : UInt8) (payload rest : Bytes), payload.length ≤ maxFrameBytes →
      readFrame short maxFrameBytes (packFrame tag payload ++ rest) = .ok (⟨tag, payload⟩, rest) := by
  refine ⟨fun rangeHeader ifRange etag byteSize hsize => planMeets_iff u rangeHeader ifRange etag hsize,
    fun short object range verifiedNs block hproven hin hblock => range_delivered short hproven hin hblock,
    fun short tag payload rest hlen => readFrame_pack hlen (lt_of_le_of_lt hlen (by decide)) rest⟩

/-- Three sealed bytes, of which the last two are asked for. -/
def sampleObject : StoredObject := ⟨[1, 2, 3], 0, false⟩

def sampleRange : ByteRange := ⟨1, 2, by decide, by decide⟩

theorem whole_and_part_served :
    PlanMeets ⟨fun _ => false, fun _ => none⟩ none none [] 10 ∧
    (∃ reader blocks, openRange sampleObject sampleRange 3 (some 0) 1 = .ok reader ∧
      reader.drain (fun _ => 0) sampleObject.content (fun _ => false) (reader.remaining + 1) = .ok blocks ∧
      blocks.flatten = sampleRange.bytes sampleObject.content) ∧
    readFrame (fun _ => 0) maxFrameBytes (packFrame (tagOf 'D') [7, 8] ++ [9]) =
      .ok (⟨tagOf 'D', [7, 8]⟩, [9]) := by
  obtain ⟨hplan, hdelivered, hframe⟩ := vaultStreaming_laws ⟨fun _ => false, fun _ => none⟩
  obtain ⟨reader, blocks, hopen, hdrain, hbytes, -⟩ :=
    hdelivered (fun _ => 0) sampleObject sampleRange 0 1 ⟨le_rfl, rfl⟩ (by decide) (by decide)
  refine ⟨(hplan none none [] 10 (by decide)).mpr ?_, ⟨reader, blocks, hopen, hdrain, hbytes⟩,
    hframe (fun _ => 0) (tagOf 'D') [7, 8] [9] (by decide)⟩
  intro h
  exact Bool.noConfusion h.1.1

/-- A header whose first number has a sign. -/
def signedHeader : Points := "bytes=+0-5".toList.map point

/-- What `int` makes of texts in ASCII. -/
def asciiOnly : Unicode := ⟨fun _ => false, fun _ => none⟩

theorem signed_range_served : ¬ PlanMeets asciiOnly (some signedHeader) none [] 10 := by
  rintro ⟨plan, hplan, -, happlies⟩
  obtain ⟨-, hnone⟩ := happlies ⟨rfl, nofun⟩ signedHeader rfl
  have hno : ¬ ∃ r, RfcHeader asciiOnly signedHeader 10 r := by
    rintro ⟨r, rest, heq, hrange⟩
    have heq : bytesUnit ++ "+0-5".toList.map point = bytesUnit ++ rest := heq
    have hrest : rest = "+0-5".toList.map point := (List.append_cancel_left heq).symm
    rw [hrest] at hrange
    have hdigits := digits_of_rfcRange hrange ("+0".toList.map point) (by decide) (by decide)
    exact absurd hdigits (by decide)
  have hstatus : (parseSingleRange asciiOnly (some signedHeader) none [] 10).map StreamPlan.statusCode =
      .ok 206 := by decide +kernel
  rw [hplan, hnone hno] at hstatus
  exact absurd (Except.ok.inj hstatus) (by decide)

end AutPlay.Vault
