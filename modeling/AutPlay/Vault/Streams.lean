import AutPlay.Lib.Result
import AutPlay.Vault.Ranges
import AutPlay.Vault.Uploads

/-!
# Streaming a range

A range of a stored object, read block by block, in the process of the server or in a child.

* `openRange`, `FileRangeReader.next`     the reader of `open_range`;
* `FileRangeReader.drain`     its blocks, to the end;
* `readFrame`, `packFrame`    the frames of the pipes between parent and child;
* `executeStream`             the child's `STREAM` exchange: a block for every request, then the end.

How much a call to the system returns is a parameter, `short`: a count for what is still wanted.  Within
one read, and within one stream, less is wanted after every call, so that this is any pattern.
-/

set_option linter.unusedSectionVars false

namespace AutPlay.Vault

open Result

inductive StreamFault
  | storageSafety
  | childProtocol
  | valueError
  | unfinished
  deriving DecidableEq

/-- A stored object, as `fstat` and the reads see it. -/
structure StoredObject where
  content : Bytes
  mtimeNs : Int
  writable : Bool

structure FileRangeReader where
  position : Nat
  remaining : Nat
  blockSize : Nat
  closed : Bool

/-- `open_range`, the object being found; a verification time without a zone is `none`. -/
def openRange (object : StoredObject) (range : ByteRange) (expectedSize : Int) (verifiedNs : Option Int)
    (ioBlockBytes : Nat) : Except StreamFault FileRangeReader :=
  match verifiedNs with
  | none => .error .storageSafety
  | some verifiedNs =>
    if expectedSize < 1 then .error .storageSafety
    else if (object.content.length : Int) ≠ expectedSize ∨ range.last ≥ object.content.length ∨
        object.mtimeNs > verifiedNs ∨ object.writable = true then .error .storageSafety
    else .ok ⟨range.start.toNat, (range.last - range.start + 1).toNat, ioBlockBytes, false⟩

/-- What a call returns: not more than is wanted, and something if there is anything. -/
def someOf (short : Nat → Nat) (wanted : Nat) (stream : Bytes) (still : Nat) : Bytes :=
  stream.take (min wanted (short still + 1))

/-- One turn of `__iter__`; a generator that has ended yields nothing. -/
def FileRangeReader.next (short : Nat → Nat) (content : Bytes) (cancelled : Nat → Bool)
    (r : FileRangeReader) : Except StreamFault (Option Bytes × FileRangeReader) :=
  if r.closed ∨ r.remaining = 0 then .ok (none, { r with closed := true })
  else if cancelled r.remaining then .ok (none, { r with closed := true })
  else
    let payload := someOf short (min r.remaining r.blockSize) (content.drop r.position) r.remaining
    if payload = [] then .error .storageSafety
    else .ok (some payload, { r with
      position := r.position + payload.length, remaining := r.remaining - payload.length })

/-- The blocks of a reader, to its end. -/
def FileRangeReader.drain (short : Nat → Nat) (content : Bytes) (cancelled : Nat → Bool) :
    Nat → FileRangeReader → Except StreamFault (List Bytes)
  | 0, _ => .error .unfinished
  | turns + 1, r => do
    let (block, r) ← r.next short content cancelled
    match block with
    | none => return []
    | some block =>
      let blocks ← FileRangeReader.drain short content cancelled turns r
      return block :: blocks

/-! ## frames -/

structure Frame where
  tag : UInt8
  payload : Bytes

def tagOf (c : Char) : UInt8 := c.toUInt8

def maxPayloadBytes : Nat := 1024 * 1024

def maxFrameBytes : Nat := maxPayloadBytes

/-- `struct.pack("!cI", …)` and the payload. -/
def packFrame (tag : UInt8) (payload : Bytes) : Bytes :=
  tag :: UInt8.ofNat (payload.length / 16777216 % 256) :: UInt8.ofNat (payload.length / 65536 % 256) ::
    UInt8.ofNat (payload.length / 256 % 256) :: UInt8.ofNat (payload.length % 256) :: payload

/-- `_read_exact` -/
def readExact (short : Nat → Nat) : Nat → Nat → Bytes → Except StreamFault (Bytes × Bytes)
  | _, 0, stream => .ok ([], stream)
  | 0, _ + 1, _ => .error .unfinished
  | turns + 1, wanted + 1, stream =>
    let part := someOf short (wanted + 1) stream (wanted + 1)
    if part = [] then .error .childProtocol
    else do
      let (payload, stream) ← readExact short turns (wanted + 1 - part.length) (stream.drop part.length)
      return (part ++ payload, stream)

/-- `read_frame` -/
def readFrame (short : Nat → Nat) (maximum : Nat) (stream : Bytes) : Except StreamFault (Frame × Bytes) := do
  let (header, stream) ← readExact short 5 5 stream
  match header with
  | [tag, a, b, c, d] =>
    let size := ((a.toNat * 256 + b.toNat) * 256 + c.toNat) * 256 + d.toNat
    if size > maximum then .error .childProtocol
    else
      let (payload, stream) ← readExact short size size stream
      return (⟨tag, payload⟩, stream)
  | _ => .error .childProtocol

/-- `write_frame`; all of a frame is written, in however many pieces. -/
def writeFrame (tag : UInt8) (payload : Bytes) : Except StreamFault Bytes :=
  if payload.length > maxFrameBytes then .error .childProtocol else .ok (packFrame tag payload)

/-! ## the child -/

structure StreamCommand where
  maxObjectBytes : Int
  maxChunkBytes : Int
  maxChunks : Int
  ioBlockBytes : Int
  start : Int
  last : Int
  expectedSize : Int
  verifiedNs : Option Int

/-- `_integer` -/
def integer (value maximum : Int) : Except StreamFault Unit :=
  if 0 ≤ value ∧ value ≤ maximum then .ok () else .error .childProtocol

/-- The loop of the exchange: what is written, and how it ends. -/
def streamLoop (short shortIn : Nat → Nat) (content : Bytes) :
    Nat → Bytes → FileRangeReader → Bytes × Except StreamFault Unit
  | 0, _, _ => ([], .error .unfinished)
  | turns + 1, source, r =>
    match readFrame shortIn 0 source with
    | .error fault => ([], .error fault)
    | .ok (frame, source) =>
      if frame.tag ≠ tagOf 'N' ∨ frame.payload ≠ [] then ([], .error .childProtocol)
      else
        match r.next short content fun _ => false with
        | .error fault => ([], .error fault)
        | .ok (none, _) => (packFrame (tagOf 'R') [], .ok ())
        | .ok (some block, r) =>
          match writeFrame (tagOf 'D') block with
          | .error fault => ([], .error fault)
          | .ok written =>
            let rest := streamLoop short shortIn content turns source r
            (written ++ rest.1, rest.2)

/-- The checks of a `STREAM` command, and the open range. -/
def openStream (object : StoredObject) (command : StreamCommand) : Except StreamFault FileRangeReader := do
  integer command.maxObjectBytes (4 * 1024 ^ 3)
  integer command.ioBlockBytes maxPayloadBytes
  integer command.maxChunkBytes maxPayloadBytes
  integer command.maxChunks (2 ^ 53 - 1)
  if command.maxObjectBytes < 1 ∨ command.maxChunkBytes < 1 ∨ command.maxChunks < 1 ∨ command.ioBlockBytes < 1 ∨
      command.maxChunkBytes > command.maxObjectBytes then .error .valueError
  else
    integer command.start command.maxObjectBytes
    integer command.last command.maxObjectBytes
    match byteRange command.start command.last with
    | none => .error .valueError
    | some selected =>
      integer command.expectedSize command.maxObjectBytes
      match command.verifiedNs with
      | none => .error .childProtocol
      | some verifiedNs =>
        openRange object selected command.expectedSize (some verifiedNs) command.ioBlockBytes.toNat

/-- `execute_command` of a `STREAM` command: what the child writes, and how it ends. -/
def executeStream (short shortIn : Nat → Nat) (object : StoredObject) (command : StreamCommand)
    (source : Bytes) : Bytes × Except StreamFault Unit :=
  match openStream object command with
  | .error fault => ([], .error fault)
  | .ok reader =>
    let rest := streamLoop short shortIn object.content (source.length + 1) source reader
    (packFrame (tagOf 'O') [] ++ rest.1, rest.2)

end AutPlay.Vault
