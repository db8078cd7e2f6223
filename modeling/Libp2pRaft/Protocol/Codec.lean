import Libp2pRaft.Library.Binary
import Libp2pRaft.Behaviour.Behaviour

/-!
# The wire format

`WireEnvelope` of `protocol/messages.rs`, `protocol/codec.rs`, and the framed
reads and writes of `handler.rs`.  A payload is in the default encoding of
bincode: integers of fixed width, the least significant byte first, enum
variants by a `u32` tag, booleans by one byte, sequences by a `u64` length.  A
stream is the list of its bytes; what a transport reports is left out.
-/

namespace Libp2pRaft

open Binary

/-- A message with the number its sender gave the exchange. -/
structure WireEnvelope where
  correlationId : Nat
  msg : RaftMessage
  deriving DecidableEq, Repr

/-- Why a payload is refused. -/
inductive DecodeError
  | unexpectedEnd
  | invalidBool (byte : Nat)
  | invalidVariant (tag variants : Nat)
  deriving DecidableEq, Repr

def DecodeError.text : DecodeError → String
  | .unexpectedEnd => "io error: unexpected end of file"
  | .invalidBool byte =>
      "invalid u8 while decoding bool, expected 0 or 1, found " ++ toString byte
  | .invalidVariant tag variants =>
      "invalid value: integer `" ++ toString tag ++
        "`, expected variant index 0 <= i < " ++ toString variants

def RaftError.text : RaftError → String
  | .notLeader => "not leader"
  | .membershipPending => "membership change pending"
  | .invalidMembership => "invalid membership change"

def StorageError.text : StorageError → String
  | .msg text => "storage: " ++ text

def Error.text : Error → String
  | .raft error => error.text
  | .storage error => error.text
  | .codec text => "codec: " ++ text
  | .unknownNode node => "unknown node " ++ toString node
  | .rpc text => "rpc failed: " ++ text

/-! ## Serialization -/

namespace Bincode

def u32 (value : Nat) : List UInt8 := littleEndian 4 value

def u64 (value : Nat) : List UInt8 := littleEndian 8 value

def bool (value : Bool) : List UInt8 := [if value then 1 else 0]

/-- A sequence behind its length. -/
def vec {α : Type} (write : α → List UInt8) (items : List α) : List UInt8 :=
  u64 items.length ++ items.flatMap write

def byte (value : UInt8) : List UInt8 := [value]

def entryType : EntryType → List UInt8
  | .command data => u32 0 ++ vec byte data

def logEntry (entry : LogEntry) : List UInt8 :=
  u64 entry.index ++ u64 entry.term ++ entryType entry.entryType

def message : RaftMessage → List UInt8
  | .requestVote term candidateId lastLogIndex lastLogTerm =>
      u32 0 ++ u64 term ++ u64 candidateId ++ u64 lastLogIndex ++
        u64 lastLogTerm
  | .requestVoteResp term voteGranted =>
      u32 1 ++ u64 term ++ bool voteGranted
  | .appendEntries term leaderId prevLogIndex prevLogTerm entries
      leaderCommit =>
      u32 2 ++ u64 term ++ u64 leaderId ++ u64 prevLogIndex ++
        u64 prevLogTerm ++ vec logEntry entries ++ u64 leaderCommit
  | .appendEntriesResp term success matchIndex =>
      u32 3 ++ u64 term ++ bool success ++ u64 matchIndex
  | .installSnapshot term leaderId lastIncludedIndex lastIncludedTerm offset
      data done =>
      u32 4 ++ u64 term ++ u64 leaderId ++ u64 lastIncludedIndex ++
        u64 lastIncludedTerm ++ u64 offset ++ vec byte data ++ bool done
  | .installSnapshotResp term => u32 5 ++ u64 term

/-- The payload of an envelope. -/
def serialize (envelope : WireEnvelope) : List UInt8 :=
  u64 envelope.correlationId ++ message envelope.msg

/-! ## Deserialization -/

def readU32 : Reader DecodeError Nat := readLittleEndian .unexpectedEnd 4

def readU64 : Reader DecodeError Nat := readLittleEndian .unexpectedEnd 8

def readByte : Reader DecodeError UInt8 :=
  UInt8.ofNat <$> readLittleEndian .unexpectedEnd 1

def readBool : Reader DecodeError Bool := do
  match ← readLittleEndian .unexpectedEnd 1 with
  | 0 => pure false
  | 1 => pure true
  | byte => throw (.invalidBool byte)

def readVec {α : Type} (read : Reader DecodeError α) :
    Reader DecodeError (List α) := do
  let length ← readU64
  readMany read length

def readEntryType : Reader DecodeError EntryType := do
  match ← readU32 with
  | 0 => .command <$> readVec readByte
  | tag => throw (.invalidVariant tag 1)

def readLogEntry : Reader DecodeError LogEntry := do
  let index ← readU64
  let term ← readU64
  LogEntry.mk index term <$> readEntryType

/-- The fields of the variant with a tag. -/
def readVariant : Nat → Reader DecodeError RaftMessage
  | 0 => do
      let term ← readU64
      let candidateId ← readU64
      let lastLogIndex ← readU64
      .requestVote term candidateId lastLogIndex <$> readU64
  | 1 => do
      let term ← readU64
      .requestVoteResp term <$> readBool
  | 2 => do
      let term ← readU64
      let leaderId ← readU64
      let prevLogIndex ← readU64
      let prevLogTerm ← readU64
      let entries ← readVec readLogEntry
      .appendEntries term leaderId prevLogIndex prevLogTerm entries <$> readU64
  | 3 => do
      let term ← readU64
      let success ← readBool
      .appendEntriesResp term success <$> readU64
  | 4 => do
      let term ← readU64
      let leaderId ← readU64
      let lastIncludedIndex ← readU64
      let lastIncludedTerm ← readU64
      let offset ← readU64
      let data ← readVec readByte
      .installSnapshot term leaderId lastIncludedIndex lastIncludedTerm offset
        data <$> readBool
  | 5 => .installSnapshotResp <$> readU64
  | tag => throw (.invalidVariant tag 6)

def readMessage : Reader DecodeError RaftMessage := do
  let tag ← readU32
  readVariant tag

/-- Read a payload. -/
def deserialize : Reader DecodeError WireEnvelope := do
  let correlationId ← readU64
  WireEnvelope.mk correlationId <$> readMessage

end Bincode

/-! ## Frames -/

/-- A payload behind its length, cut to a `u32`. -/
def encodeEnvelope (env : WireEnvelope) : Except Error (List UInt8) :=
  let payload := Bincode.serialize env
  .ok (bigEndian 4 (payload.length % 2 ^ 32) ++ payload)

/-- Read the payload whose length stands in front; what follows is ignored. -/
def decodeEnvelope (bytes : List UInt8) : Except Error WireEnvelope :=
  if bytes.length < 4 then
    .error (.codec "failed to fill whole buffer")
  else
    let len := ofBigEndian (bytes.take 4)
    let start := 4
    let stop := start + len
    if bytes.length < stop then
      .error (.codec "truncated")
    else
      match Bincode.deserialize.run ((bytes.take stop).drop start) with
      | .ok (env, _) => .ok env
      | .error error => .error (.codec error.text)

/-- The largest payload a peer accepts. -/
def maxFrameBytes : Nat := 4 * 1024 * 1024

/-- Append a frame to a stream, unless it is too large. -/
def writeFrame
    (stream : List UInt8)
    (env : WireEnvelope) : List UInt8 × Except String Unit :=
  match encodeEnvelope env with
  | .error error => (stream, .error error.text)
  | .ok bytes =>
      if bytes.length > maxFrameBytes + 4 then
        (stream, .error "encoded frame too large")
      else
        (stream ++ bytes, .ok ())

/-- Take a frame off the front of a stream. -/
def readFrame : Reader String WireEnvelope := do
  let lenBuf ← take "read len: unexpected end of file" 4
  let len := ofBigEndian lenBuf
  if len > maxFrameBytes then
    throw ("frame too large: " ++ toString len)
  else
    let payload ← take "read payload: unexpected end of file" len
    match decodeEnvelope (lenBuf ++ payload) with
    | .ok env => pure env
    | .error error => throw error.text

end Libp2pRaft
