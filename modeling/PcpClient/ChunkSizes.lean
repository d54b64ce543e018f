import PcpClient.MessageOperations
import Mathlib.Algebra.Order.Ring.Nat

/-!
The size of a chunk in its three widths: the size_t of its content, the uint32_t of its field
and the region that serialize() makes for it. validateChunk() compares the first two as
uint32_t.
-/
namespace PcpChunkSizes
open PcpOctets PcpSerialization PcpMessageV1 PcpWireGrammar PcpWireParser PcpWireRoundTrip
open PcpMessageOperations

/-- The content fills the region that was made for it, and nothing else is written. -/
def Fills (c : MessageChunk) (buffer : Bytes) : Prop :=
  ∃ bytes, c.serializeOn buffer = .ok bytes ∧
    bytes.length = buffer.length + (5 + c.content.length) ∧ c.size.toNat = c.content.length

/-- Messages from any of the constructors, after any calls of the modifiers. -/
inductive Obtained : Message → Prop where
  | parsed {s : Bytes} {m : Message} (made : parseMessage 64 s = .ok m) : Obtained m
  | built {c : Construction} {m : Message} (made : c.build = .ok m) : Obtained m
  | modified {m : Message} (op : Operation) (before : Obtained m) : Obtained (op.run m).2

def contentLengths (m : Message) : List Nat := (allChunks m).map fun c => 5 + c.content.length

theorem copyTo_overflows (octets buffer : Bytes) (itr : Nat) (inside : itr ≤ buffer.length)
    (more : buffer.length < itr + octets.length) :
    copyTo buffer itr octets = .error .outOfBounds := by
  induction octets generalizing buffer itr with
  | nil =>
    rw [List.length_nil] at more
    omega
  | cons b rest ih =>
    rw [List.length_cons] at more
    unfold copyTo
    split
    · exact ih (buffer.set itr b) (itr + 1) (by rw [List.length_set]; omega)
        (by rw [List.length_set]; omega)
    · rfl

theorem serialize_overflows {octets : Bytes} {thingSize : Nat} (buffer : Bytes)
    (more : thingSize < octets.length) :
    serialize octets thingSize buffer = .error .outOfBounds := by
  have region : (resize buffer (buffer.length + thingSize)).length =
      buffer.length + thingSize := by
    simp [resize]
  have overflows := copyTo_overflows octets (resize buffer (buffer.length + thingSize))
    buffer.length (by omega) (by omega)
  simp [serialize, overflows]

theorem serializeOn_overflows {c : MessageChunk} (buffer : Bytes)
    (more : c.size.toNat < c.content.length) : c.serializeOn buffer = .error .outOfBounds := by
  have descriptor := serialize_ok [c.descriptor] buffer
  have size := serialize_ok (networkBytes 4 c.size.toNat) (buffer ++ [c.descriptor])
  rw [networkBytes_length] at size
  simp only [List.length_singleton] at descriptor
  simp only [MessageChunk.serializeOn, serializeUInt8, serializeUInt32, serializeString,
    descriptor, size, ok_bind]
  exact serialize_overflows _ more

theorem size_of_large {c : MessageChunk} (large : ¬c.content.length < 2 ^ 32) :
    c.size.toNat < c.content.length := by
  have narrow := c.size.toNat_lt
  omega

theorem fills_iff {c : MessageChunk} (size : c.size = UInt32.ofNat c.content.length)
    (buffer : Bytes) : Fills c buffer ↔ c.content.length < 2 ^ 32 := by
  constructor
  · rintro ⟨_, _, _, sized⟩
    rw [← sized]
    exact c.size.toNat_lt
  · intro small
    have sized := sized_of_small size small
    refine ⟨_, serializeOn_ok sized buffer, ?_, sized⟩
    rw [List.length_append, octets_length]

/-! Whole messages. -/

theorem getSerialized_eq (m : Message) :
    m.getSerialized = (allChunks m).foldlM (fun buffer c => c.serializeOn buffer) [m.version] := by
  have version := serialize_ok [m.version] []
  simp only [List.length_singleton, List.nil_append] at version
  simp only [Message.getSerialized, serializeUInt8, version, ok_bind, allChunks, optionalChunks,
    List.foldlM_cons, List.foldlM_append]
  cases m.envelopeChunk.serializeOn [m.version] with
  | error fault => rfl
  | ok buffer =>
    simp only [ok_bind]
    have debugs : ∀ buffer, (if m.hasDebug = true
        then m.debugChunks.foldlM (fun buffer d => d.serializeOn buffer) buffer
        else pure buffer : Except Fault Bytes) =
          m.debugChunks.foldlM (fun buffer d => d.serializeOn buffer) buffer := by
      intro buffer
      cases chunks : m.debugChunks <;> simp [Message.hasDebug, chunks]
    cases m.hasData <;> simp [debugs]

theorem serializeAll_overflows {chunks : List MessageChunk} {c : MessageChunk}
    (sizes : ∀ d ∈ chunks, d.size = UInt32.ofNat d.content.length) (mem : c ∈ chunks)
    (large : ¬c.content.length < 2 ^ 32) (buffer : Bytes) :
    chunks.foldlM (fun buffer d => d.serializeOn buffer) buffer =
      (.error .outOfBounds : Except Fault Bytes) := by
  induction chunks generalizing buffer with
  | nil => cases mem
  | cons d rest ih =>
    have size := sizes d (by simp)
    rw [List.foldlM_cons]
    by_cases small : d.content.length < 2 ^ 32
    · have later : c ∈ rest := by
        rcases List.mem_cons.mp mem with rfl | later
        · exact absurd small large
        · exact later
      rw [serializeOn_ok (sized_of_small size small), ok_bind]
      exact ih (fun e inside => sizes e (by simp [inside])) later _
    · rw [serializeOn_overflows buffer (size_of_large small), error_bind]

theorem flatMap_octets_length (chunks : List MessageChunk) :
    (chunks.flatMap octets).length = (chunks.map fun c => 5 + c.content.length).sum := by
  induction chunks with
  | nil => rfl
  | cons c chunks ih => simp [octets_length, ih]

theorem serialized_length_iff {m : Message}
    (sizes : ∀ c ∈ allChunks m, c.size = UInt32.ofNat c.content.length) :
    (∃ bytes, m.getSerialized = .ok bytes ∧ bytes.length = 1 + (contentLengths m).sum) ↔
      ∀ c ∈ allChunks m, c.content.length < 2 ^ 32 := by
  constructor
  · rintro ⟨bytes, serialized, _⟩ c mem
    by_contra large
    rw [getSerialized_eq, serializeAll_overflows sizes mem large] at serialized
    cases serialized
  · intro small
    refine ⟨_, getSerialized_ok fun c mem => sized_of_small (sizes c mem) (small c mem), ?_⟩
    rw [List.length_cons, flatMap_octets_length, contentLengths, Nat.add_comm]

/-! The sizes of any message agree with its contents as uint32_t. -/

theorem sizes_parsed {s : Bytes} {m : Message} (made : parseMessage 64 s = .ok m) :
    ∀ c ∈ allChunks m, c.size = UInt32.ofNat c.content.length := by
  obtain ⟨envelope, chunks, tail, grammar, rfl⟩ :=
    (parseMessage_ok_iff s (.inl (by omega)) m).mp made
  have sizedAll : ∀ {s : Bytes} {chunks : List MessageChunk} {tail : Bytes},
      Splits s chunks tail → ∀ c ∈ chunks, Sized c := by
    intro s chunks
    induction chunks generalizing s with
    | nil => intro tail _ c mem; cases mem
    | cons d rest ih =>
      rintro tail ⟨_, _, sized, after, _, splits⟩ c mem
      rcases List.mem_cons.mp mem with rfl | later
      · exact sized
      · exact ih splits c later
  obtain ⟨rest, _, splits⟩ := grammar.body
  have sized : ∀ c ∈ allChunks (assemble envelope chunks), Sized c := by
    intro c mem
    simp only [allChunks, optionalChunks, assemble, List.mem_cons, List.mem_append] at mem
    rcases mem with rfl | data | debug
    · exact grammar.sized
    · cases found : chunks.find? isData with
      | none => simp [found, Message.hasData] at data
      | some d =>
        have stored : c = d := by
          simpa [found] using (List.mem_ite_nil_right.mp data).2
        exact stored ▸ sizedAll splits d (List.mem_of_find?_eq_some found)
    · exact sizedAll splits c (List.mem_filter.mp debug).1
  intro c mem
  rw [← sized c mem, UInt32.ofNat_toNat]

theorem sizes_assign {m : Message} {op : Operation}
    (sizes : ∀ c ∈ allChunks m, c.size = UInt32.ofNat c.content.length)
    (valid : validateChunk op.chunk = .ok ()) :
    ∀ c ∈ allChunks (op.assign m), c.size = UInt32.ofNat c.content.length := by
  have size := (validateChunk_ok valid).1
  intro c mem
  simp only [allChunks, optionalChunks, List.mem_cons, List.mem_append] at sizes
  cases op with
  | setDataChunk chunk =>
    simp only [allChunks, optionalChunks, Operation.assign, List.mem_cons, List.mem_append] at mem
    rcases mem with rfl | data | debug
    · exact sizes _ (.inl rfl)
    · have same : c = chunk := List.mem_singleton.mp (List.mem_ite_nil_right.mp data).2
      exact same ▸ size
    · exact sizes c (.inr (.inr debug))
  | addDebugChunk chunk =>
    simp only [allChunks, optionalChunks, Operation.assign, List.mem_cons, List.mem_append,
      List.not_mem_nil, or_false] at mem
    rcases mem with rfl | data | debug | rfl
    · exact sizes _ (.inl rfl)
    · exact sizes c (.inr (.inl data))
    · exact sizes c (.inr (.inr debug))
    · exact size

theorem sizes_obtained {m : Message} (obtained : Obtained m) :
    ∀ c ∈ allChunks m, c.size = UInt32.ofNat c.content.length := by
  induction obtained with
  | parsed made => exact sizes_parsed made
  | built made => exact (built_validated (build_built made)).sizes
  | modified op before ih =>
    cases valid : validateChunk op.chunk with
    | error fault => rwa [run_invalid valid]
    | ok _ =>
      rw [run_valid valid]
      exact sizes_assign ih valid

/-- An accepted chunk is serialized whole if and only if its content is shorter than 2^32
    bytes; so the serialized message has the length of its chunks if and only if all of its
    contents are. -/
theorem serialized_sizes_iff (m : Message) (buffer : Bytes) :
    (∀ c, validateChunk c = .ok () → (Fills c buffer ↔ c.content.length < 2 ^ 32)) ∧
      (Obtained m →
        ((∃ bytes, m.getSerialized = .ok bytes ∧ bytes.length = 1 + (contentLengths m).sum) ↔
          ∀ c ∈ allChunks m, c.content.length < 2 ^ 32)) :=
  ⟨fun _ valid => fills_iff (validateChunk_ok valid).1 buffer,
    fun obtained => serialized_length_iff (sizes_obtained obtained)⟩

theorem small_chunk_fills :
    Fills helloEnvelope [1] ∧
      ∃ m, (Construction.envelope helloEnvelope).build = .ok m ∧
        ∃ bytes, m.getSerialized = .ok bytes ∧ bytes.length = 1 + (contentLengths m).sum := by
  obtain ⟨m, made, small⟩ : ∃ m, (Construction.envelope helloEnvelope).build = .ok m ∧
      ∀ c ∈ allChunks m, c.content.length < 2 ^ 32 := ⟨_, rfl, by decide⟩
  obtain ⟨chunk, message⟩ := serialized_sizes_iff m [1]
  exact ⟨(chunk helloEnvelope rfl).mpr (by decide), m, made, (message (.built made)).mpr small⟩

theorem ofContent_valid (content : Bytes) : validateChunk (.ofContent 1 content) = .ok () := by
  have known : (ChunkDescriptor.names.lookup (1 &&& ChunkDescriptor.typeMask)).isNone = false := by
    decide
  simp [validateChunk, MessageChunk.ofContent, MessageChunk.descBit, known]

theorem ofContent_overflows {content : Bytes} (large : ¬content.length < 2 ^ 32) :
    (MessageChunk.ofContent 1 content).serializeOn [] = .error .outOfBounds :=
  serializeOn_overflows [] (size_of_large large)

/-- The size of 2^32 bytes is stored as 0, and compared as 0. -/
theorem huge_chunk_overflows :
    ∃ content : Bytes, content.length = 2 ^ 32 ∧
      validateChunk (.ofContent 1 content) = .ok () ∧
      (MessageChunk.ofContent 1 content).serializeOn [] = .error .outOfBounds := by
  have length : (List.replicate (2 ^ 32) (0 : UInt8)).length = 2 ^ 32 := List.length_replicate
  exact ⟨_, length, ofContent_valid _, ofContent_overflows (by rw [length]; exact Nat.lt_irrefl _)⟩

end PcpChunkSizes
