import PcpClient.Serialization

/-!
v1::MessageChunk and v1::Message: chunks of the wire format, the constructors and
modifiers that validate them, getSerialized() and parseMessage(). Log entries are left out.
-/
namespace PcpMessageV1
open PcpOctets PcpSerialization

namespace ChunkDescriptor

def typeMask : UInt8 := 0x0F
def envelope : UInt8 := 0x01
def data : UInt8 := 0x02
def debug : UInt8 := 0x03

def names : List (UInt8 × String) :=
  [(envelope, "envelope"), (data, "data"), (debug, "debug")]

end ChunkDescriptor

def minEnvelopeSize : Nat := 6
def chunkMetadataSize : Nat := 5
def versionFieldSize : Nat := 1
def uintMax : Nat := 2 ^ 32 - 1

/-- The last entry is used for new messages. -/
def supportedVersions : List UInt8 := [1]

structure MessageChunk where
  descriptor : UInt8 := 0
  size : UInt32 := 0
  content : Bytes := []
  deriving DecidableEq, Repr

/-- The constructor that takes the size from the content. -/
def MessageChunk.ofContent (descriptor : UInt8) (content : Bytes) : MessageChunk :=
  ⟨descriptor, UInt32.ofNat content.length, content⟩

def MessageChunk.descBit (c : MessageChunk) : UInt8 := c.descriptor &&& ChunkDescriptor.typeMask

def MessageChunk.serializeOn (c : MessageChunk) (buffer : Bytes) : Except Fault Bytes := do
  let buffer ← serializeUInt8 c.descriptor 1 buffer
  let buffer ← serializeUInt32 c.size 4 buffer
  serializeString c.content c.size.toNat buffer

structure Message where
  version : UInt8
  envelopeChunk : MessageChunk
  dataChunk : MessageChunk := {}
  debugChunks : List MessageChunk := []
  deriving DecidableEq, Repr

/-! The constructors from chunks and the modifiers. -/

def validateChunk (chunk : MessageChunk) : Except Fault Unit :=
  if (ChunkDescriptor.names.lookup chunk.descBit).isNone then
    .error (.invalidChunkError "unknown descriptor")
  else if chunk.size ≠ UInt32.ofNat chunk.content.length then
    if chunk.size = 1 ∧ chunk.content.length = 1 then .error .assertionFailure
    else .error (.invalidChunkError "invalid size")
  else .ok ()

def newVersion : UInt8 := supportedVersions.getLast (by decide)

def Message.ofEnvelope (envelopeChunk : MessageChunk) : Except Fault Message := do
  validateChunk envelopeChunk
  return ⟨newVersion, envelopeChunk, {}, []⟩

def Message.ofData (envelopeChunk dataChunk : MessageChunk) : Except Fault Message := do
  validateChunk envelopeChunk
  validateChunk dataChunk
  return ⟨newVersion, envelopeChunk, dataChunk, []⟩

def Message.ofDebug (envelopeChunk dataChunk debugChunk : MessageChunk) :
    Except Fault Message := do
  validateChunk envelopeChunk
  validateChunk dataChunk
  validateChunk debugChunk
  return ⟨newVersion, envelopeChunk, dataChunk, [debugChunk]⟩

def Message.setDataChunk (m : Message) (dataChunk : MessageChunk) : Except Fault Message := do
  validateChunk dataChunk
  return { m with dataChunk }

def Message.addDebugChunk (m : Message) (debugChunk : MessageChunk) : Except Fault Message := do
  validateChunk debugChunk
  return { m with debugChunks := m.debugChunks ++ [debugChunk] }

def Message.hasData (m : Message) : Bool := m.dataChunk.descriptor != 0

def Message.hasDebug (m : Message) : Bool := !m.debugChunks.isEmpty

def Message.getSerialized (m : Message) : Except Fault Bytes := do
  let buffer ← serializeUInt8 m.version 1 []
  let buffer ← m.envelopeChunk.serializeOn buffer
  let buffer ← if m.hasData then m.dataChunk.serializeOn buffer else pure buffer
  if m.hasDebug then m.debugChunks.foldlM (fun buffer d => d.serializeOn buffer) buffer
  else pure buffer

/-! The constructor that parses a transport message. -/

def validateVersion (version : UInt8) : Except Fault Unit :=
  if supportedVersions.contains version then .ok ()
  else .error (.unsupportedVersionError
    ("unsupported message version: " ++ toString version.toNat))

/-- The variables of the loop of parseMessage(), with the chunks it has stored. -/
structure ParseState where
  nextItr : Bytes
  stillToParse : Nat
  dataChunk : MessageChunk := {}
  debugChunks : List MessageChunk := []

def ParseState.hasData (p : ParseState) : Bool := p.dataChunk.descriptor != 0

def ParseState.store (p : ParseState) (chunk : MessageChunk) : Except Fault ParseState :=
  if chunk.descBit = ChunkDescriptor.data then
    if p.hasData then
      .error (.messageSerializationError "invalid msg: multiple data chunks")
    else .ok { p with dataChunk := chunk }
  else .ok { p with debugChunks := p.debugChunks ++ [chunk] }

def ParseState.parseChunk (width : Nat) (p : ParseState) : Except Fault ParseState := do
  let (chunkDesc, itr) ← deserializeUInt8 1 p.nextItr
  let chunkDescBit := chunkDesc &&& ChunkDescriptor.typeMask
  if chunkDescBit ≠ ChunkDescriptor.data ∧ chunkDescBit ≠ ChunkDescriptor.debug then
    .error (.messageSerializationError "invalid msg: invalid chunk descriptor")
  else
    let (chunkSize, itr) ← deserializeUInt32 4 itr
    let missingBytes ← sizeSub p.stillToParse chunkMetadataSize
    if missingBytes < chunkSize.toNat then
      if 1 < chunkSize.toNat then
        .error (.messageSerializationError "invalid msg: missing chunk content")
      else .error .assertionFailure
    else
      let (chunkContent, itr) ← deserializeString chunkSize.toNat itr
      let p ← p.store ⟨chunkDesc, chunkSize, chunkContent⟩
      let parsed ← sizeAdd width chunkMetadataSize chunkSize.toNat
      let stillToParse ← sizeSub p.stillToParse parsed
      return { p with nextItr := itr, stillToParse }

/-- `while (still_to_parse > CHUNK_METADATA_SIZE)`. -/
def ParseState.parseChunks (width : Nat) : Nat → ParseState → Except Fault ParseState
  | fuel, p =>
    if chunkMetadataSize < p.stillToParse then
      match fuel with
      | 0 => .error .outOfFuel
      | fuel + 1 => do parseChunks width fuel (← p.parseChunk width)
    else .ok p

/-- parseMessage() with a size_t of the given width. -/
def parseMessage (width : Nat) (transportMsg : Bytes) : Except Fault Message := do
  let msgSize := transportMsg.length
  if msgSize < minEnvelopeSize then
    .error (.messageSerializationError "invalid msg: envelope too small")
  else
    let (msgVersion, itr) ← deserializeUInt8 1 transportMsg
    validateVersion msgVersion
    let (envelopeDesc, itr) ← deserializeUInt8 1 itr
    if envelopeDesc &&& ChunkDescriptor.typeMask ≠ ChunkDescriptor.envelope then
      .error (.messageSerializationError "invalid msg: no envelope descriptor")
    else
      let (envelopeSize, itr) ← deserializeUInt32 4 itr
      let headerSize ← sizeAdd width versionFieldSize chunkMetadataSize
      let maxSize ← sizeSub uintMax headerSize
      if maxSize < envelopeSize.toNat then
        .error (.messageSerializationError "invalid msg: size too large")
      else
        let parsed ← sizeAdd width headerSize envelopeSize.toNat
        if msgSize < parsed then .error (.messageSerializationError "invalid msg: no envelope")
        else
          let (envelopeContent, itr) ← deserializeString envelopeSize.toNat itr
          let stillToParse ← sizeSub msgSize parsed
          let p ← ParseState.parseChunks width msgSize ⟨itr, stillToParse, {}, []⟩
          return ⟨msgVersion, ⟨envelopeDesc, envelopeSize, envelopeContent⟩, p.dataChunk,
            p.debugChunks⟩

end PcpMessageV1
