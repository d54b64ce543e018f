import PcpClient.WireParser

/-!
Messages built from chunks, the bytes of getSerialized(), and what the parser makes of
them.
-/
namespace PcpWireRoundTrip
open PcpOctets PcpSerialization PcpMessageV1 PcpWireGrammar PcpWireParser

/-- What the constructors from chunks and the modifiers can build. -/
inductive Built : Message → Prop where
  | ofEnvelope {envelope : MessageChunk} {m : Message}
      (made : Message.ofEnvelope envelope = .ok m) : Built m
  | ofData {envelope data : MessageChunk} {m : Message}
      (made : Message.ofData envelope data = .ok m) : Built m
  | ofDebug {envelope data debug : MessageChunk} {m : Message}
      (made : Message.ofDebug envelope data debug = .ok m) : Built m
  | setDataChunk {m m' : Message} {data : MessageChunk} (before : Built m)
      (made : m.setDataChunk data = .ok m') : Built m'
  | addDebugChunk {m m' : Message} {debug : MessageChunk} (before : Built m)
      (made : m.addDebugChunk debug = .ok m') : Built m'

def optionalChunks (m : Message) : List MessageChunk :=
  (if m.hasData then [m.dataChunk] else []) ++ m.debugChunks

def allChunks (m : Message) : List MessageChunk := m.envelopeChunk :: optionalChunks m

/-- The chunks have the types of their places and contents of which the size is a uint32_t. -/
structure WellTyped (m : Message) : Prop where
  envelope : m.envelopeChunk.descBit = ChunkDescriptor.envelope
  data : m.hasData = true → isData m.dataChunk = true
  debug : ∀ d ∈ m.debugChunks, isDebug d = true
  small : ∀ c ∈ allChunks m, c.content.length < 2 ^ 32 - 6

/-- No optional chunk, or content in the last one. -/
def EndsWithContent (m : Message) : Prop :=
  ∀ c, (optionalChunks m).getLast? = some c → c.content ≠ []

/-- What validateChunk() checks of the chunks of a message. -/
structure Validated (m : Message) : Prop where
  version : m.version = 1
  sizes : ∀ c ∈ allChunks m, c.size = UInt32.ofNat c.content.length
  noData : m.hasData = false → m.dataChunk = {}

theorem validateChunk_ok {c : MessageChunk} (valid : validateChunk c = .ok ()) :
    c.size = UInt32.ofNat c.content.length ∧ c.descriptor ≠ 0 := by
  unfold validateChunk at valid
  split at valid
  · cases valid
  · rename_i known
    split at valid
    · split at valid <;> cases valid
    · rename_i same
      refine ⟨Decidable.not_not.mp same, fun zero => known ?_⟩
      simp only [MessageChunk.descBit, zero]
      decide

theorem built_validated {m : Message} (built : Built m) : Validated m := by
  induction built with
  | ofEnvelope made =>
    obtain ⟨_, valid, same⟩ := bind_ok_iff.mp made
    cases same
    have sized := (validateChunk_ok valid).1
    exact ⟨rfl, by simpa [allChunks, optionalChunks, Message.hasData] using sized, fun _ => rfl⟩
  | ofData made =>
    obtain ⟨_, valid, rest⟩ := bind_ok_iff.mp made
    obtain ⟨_, valid', same⟩ := bind_ok_iff.mp rest
    cases same
    have sized := (validateChunk_ok valid).1
    obtain ⟨sized', present⟩ := validateChunk_ok valid'
    exact ⟨rfl, by simp [allChunks, optionalChunks, Message.hasData, present, sized, sized'],
      by simp [Message.hasData, present]⟩
  | ofDebug made =>
    obtain ⟨_, valid, rest⟩ := bind_ok_iff.mp made
    obtain ⟨_, valid', rest'⟩ := bind_ok_iff.mp rest
    obtain ⟨_, valid'', same⟩ := bind_ok_iff.mp rest'
    cases same
    have sized := (validateChunk_ok valid).1
    obtain ⟨sized', present⟩ := validateChunk_ok valid'
    have sized'' := (validateChunk_ok valid'').1
    refine ⟨rfl, ?_, by simp [Message.hasData, present]⟩
    simp [allChunks, optionalChunks, Message.hasData, present, sized, sized', sized'']
  | @setDataChunk _ _ chunk before made ih =>
    obtain ⟨_, valid, same⟩ := bind_ok_iff.mp made
    cases same
    obtain ⟨sized, present⟩ := validateChunk_ok valid
    refine ⟨ih.version, ?_, by simp [Message.hasData, present]⟩
    have sizes := ih.sizes
    simp only [allChunks, optionalChunks, List.mem_cons, List.mem_append] at sizes ⊢
    rintro c (rfl | data | debug)
    · exact sizes _ (.inl rfl)
    · have same : c = chunk := by simpa [Message.hasData, present] using data
      rw [same]
      exact sized
    · exact sizes c (.inr (.inr debug))
  | addDebugChunk before made ih =>
    obtain ⟨_, valid, same⟩ := bind_ok_iff.mp made
    cases same
    have sized := (validateChunk_ok valid).1
    refine ⟨ih.version, ?_, ih.noData⟩
    have sizes := ih.sizes
    simp only [allChunks, optionalChunks, List.mem_cons, List.mem_append, List.not_mem_nil,
      or_false] at sizes ⊢
    rintro c (rfl | data | debug | rfl)
    · exact sizes _ (.inl rfl)
    · exact sizes c (.inr (.inl data))
    · exact sizes c (.inr (.inr debug))
    · exact sized

theorem sized_of_small {c : MessageChunk} (size : c.size = UInt32.ofNat c.content.length)
    (small : c.content.length < 2 ^ 32) : Sized c := by
  rw [Sized, size, UInt32.toNat_ofNat', Nat.mod_eq_of_lt small]

theorem serializeOn_ok {c : MessageChunk} (sized : Sized c) (buffer : Bytes) :
    c.serializeOn buffer = .ok (buffer ++ octets c) := by
  have descriptor := serialize_ok [c.descriptor] buffer
  have size := serialize_ok (networkBytes 4 c.size.toNat) (buffer ++ [c.descriptor])
  have content := serialize_ok c.content
    (buffer ++ [c.descriptor] ++ networkBytes 4 c.size.toNat)
  rw [networkBytes_length] at size
  simp only [List.length_singleton] at descriptor
  rw [← sized] at content
  simp only [MessageChunk.serializeOn, serializeUInt8, serializeUInt32, serializeString,
    descriptor, size, content, ok_bind]
  simp [octets]

theorem serializeAll_ok (chunks : List MessageChunk) (sized : ∀ c ∈ chunks, Sized c)
    (buffer : Bytes) :
    chunks.foldlM (fun buffer c => c.serializeOn buffer) buffer =
      (.ok (buffer ++ chunks.flatMap octets) : Except Fault Bytes) := by
  induction chunks generalizing buffer with
  | nil => simp [pure, Except.pure]
  | cons c chunks ih =>
    rw [List.foldlM_cons, serializeOn_ok (sized c (by simp)), ok_bind,
      ih (fun d mem => sized d (by simp [mem]))]
    simp

theorem getSerialized_ok {m : Message} (sized : ∀ c ∈ allChunks m, Sized c) :
    m.getSerialized = .ok (m.version :: (allChunks m).flatMap octets) := by
  have version := serialize_ok [m.version] []
  have envelope := sized m.envelopeChunk (by simp [allChunks])
  have debug : ∀ c ∈ m.debugChunks, Sized c := fun c mem =>
    sized c (by simp [allChunks, optionalChunks, mem])
  simp only [List.length_singleton, List.nil_append] at version
  simp only [Message.getSerialized, serializeUInt8, version, serializeOn_ok envelope, ok_bind]
  cases data : m.hasData with
  | false =>
    cases debugs : m.debugChunks with
    | nil => simp [Message.hasDebug, debugs, allChunks, optionalChunks, data, pure, Except.pure]
    | cons d rest =>
      rw [debugs] at debug
      simp [Message.hasDebug, debugs, allChunks, optionalChunks, data,
        serializeAll_ok (d :: rest) debug, pure, Except.pure]
  | true =>
    have dataSized := sized m.dataChunk (by simp [allChunks, optionalChunks, data])
    simp only [if_true, serializeOn_ok dataSized, ok_bind]
    cases debugs : m.debugChunks with
    | nil => simp [Message.hasDebug, debugs, allChunks, optionalChunks, data, pure, Except.pure]
    | cons d rest =>
      rw [debugs] at debug
      simp [Message.hasDebug, debugs, allChunks, optionalChunks, data,
        serializeAll_ok (d :: rest) debug]

theorem splits_flatMap (chunks : List MessageChunk) (tail : Bytes)
    (sized : ∀ c ∈ chunks, Sized c) (kinds : ∀ c ∈ chunks, isData c || isDebug c)
    (short : tail.length ≤ chunkMetadataSize)
    (last : ∀ c, chunks.getLast? = some c → c.content ≠ [] ∨ tail ≠ []) :
    Splits (chunks.flatMap octets ++ tail) chunks tail := by
  induction chunks with
  | nil => exact ⟨rfl, short⟩
  | cons c chunks ih =>
    refine ⟨?_, kinds c (by simp), sized c (by simp), chunks.flatMap octets ++ tail, by simp,
      ih (fun d mem => sized d (by simp [mem])) (fun d mem => kinds d (by simp [mem])) ?_⟩
    · simp only [chunkMetadataSize, List.flatMap_cons, List.length_append, octets_length]
      cases chunks with
      | nil =>
        rcases last c rfl with content | more
        · have some := List.length_pos_iff.mpr content
          omega
        · have some := List.length_pos_iff.mpr more
          omega
      | cons d chunks =>
        simp only [List.flatMap_cons, List.length_append, octets_length]
        omega
    · intro d isLast
      cases chunks with
      | nil => cases isLast
      | cons e chunks => exact last d (by rw [List.getLast?_cons_cons]; exact isLast)

theorem optional_kinds {m : Message} (typed : WellTyped m) :
    ∀ c ∈ optionalChunks m, isData c || isDebug c := by
  intro c mem
  rcases List.mem_append.mp mem with data | debug
  · cases present : m.hasData with
    | false => simp [present] at data
    | true =>
      obtain rfl : c = m.dataChunk := by simpa [present] using data
      simp [typed.data present]
  · simp [typed.debug c debug]

theorem debug_not_data {c : MessageChunk} (debug : isDebug c = true) : isData c = false := by
  simp only [isDebug, beq_iff_eq] at debug
  simp [isData, debug, ChunkDescriptor.data, ChunkDescriptor.debug]

theorem data_not_debug {c : MessageChunk} (data : isData c = true) : isDebug c = false := by
  simp only [isData, beq_iff_eq] at data
  simp [isDebug, data, ChunkDescriptor.data, ChunkDescriptor.debug]

theorem debug_filters {chunks : List MessageChunk} (debug : ∀ d ∈ chunks, isDebug d = true) :
    chunks.filter isData = [] ∧ chunks.filter isDebug = chunks := by
  constructor
  · rw [List.filter_eq_nil_iff]
    intro d mem
    simp [debug_not_data (debug d mem)]
  · rw [List.filter_eq_self]
    exact debug

theorem optional_one_data {m : Message} (typed : WellTyped m) :
    ((optionalChunks m).filter isData).length ≤ 1 := by
  rw [optionalChunks, List.filter_append, (debug_filters typed.debug).1, List.append_nil]
  exact Nat.le_trans (List.length_filter_le _ _) (by split <;> simp)

theorem assemble_optional {m : Message} (valid : Validated m) (typed : WellTyped m) :
    assemble m.envelopeChunk (optionalChunks m) = m := by
  obtain ⟨version, envelope, data, debugs⟩ := m
  obtain ⟨noData, onlyDebug⟩ := debug_filters typed.debug
  have version1 := valid.version
  have notFound : debugs.find? isData = none := by simpa using noData
  simp only at version1 onlyDebug
  subst version1
  simp only [assemble, optionalChunks, List.filter_append, onlyDebug, List.find?_append, notFound]
  cases present : Message.hasData ⟨1, envelope, data, debugs⟩ with
  | false =>
    have none : data = {} := valid.noData present
    simp [none]
  | true =>
    have isDataChunk : isData data = true := typed.data present
    simp [isDataChunk, data_not_debug isDataChunk]

theorem kinds_bound (chunks : List MessageChunk) :
    (chunks.filter isData).length + (chunks.filter isDebug).length ≤ chunks.length := by
  induction chunks with
  | nil => simp
  | cons c chunks ih =>
    cases data : isData c with
    | true =>
      simp [data, data_not_debug data]
      omega
    | false =>
      cases debug : isDebug c <;> simp [data, debug] <;> omega

theorem optional_assemble_length (envelope : MessageChunk) (chunks : List MessageChunk) :
    (optionalChunks (assemble envelope chunks)).length ≤ chunks.length := by
  have bound := kinds_bound chunks
  have present : (assemble envelope chunks).hasData = true → 1 ≤ (chunks.filter isData).length := by
    intro data
    cases found : chunks.find? isData with
    | none => simp [assemble, Message.hasData, found] at data
    | some d =>
      have member := List.find?_some found
      exact List.length_pos_iff.mpr (List.ne_nil_of_mem
        (List.mem_filter.mpr ⟨List.mem_of_find?_eq_some found, member⟩))
  rw [optionalChunks, List.length_append]
  split
  · rename_i data
    have one := present data
    simp only [List.length_singleton, assemble]
    omega
  · simp only [List.length_nil, assemble]
    omega

theorem decomposes_without_last {m : Message} {chunks : List MessageChunk} {c : MessageChunk}
    (typed : WellTyped m) (sized : ∀ d ∈ allChunks m, Sized d)
    (split : optionalChunks m = chunks ++ [c]) (empty : c.content = []) :
    Decomposes (1 :: (allChunks m).flatMap octets) m.envelopeChunk chunks (octets c) := by
  have inside : ∀ d ∈ chunks, d ∈ optionalChunks m := fun d mem => by simp [split, mem]
  have oneData := optional_one_data typed
  rw [split, List.filter_append, List.length_append] at oneData
  have splits := splits_flatMap chunks (octets c)
    (fun d mem => sized d (by simp [allChunks, inside d mem]))
    (fun d mem => optional_kinds typed d (inside d mem))
    (by simp [octets_length, empty, chunkMetadataSize]) (fun _ _ => .inr (by simp [octets]))
  have small := typed.small m.envelopeChunk (by simp [allChunks])
  exact ⟨⟨_, by simp [allChunks, split], splits⟩, typed.envelope,
    sized _ (by simp [allChunks]), by omega, by omega⟩

/-- A built message is serialized, and the parser gives it back if and only if its last
    optional chunk has content. -/
theorem parse_serialized_iff {m : Message} (built : Built m) (typed : WellTyped m) :
    ∃ bytes, m.getSerialized = .ok bytes ∧
      (parseMessage 64 bytes = .ok m ↔ EndsWithContent m) := by
  have valid := built_validated built
  have sized : ∀ c ∈ allChunks m, Sized c := fun c mem =>
    sized_of_small (valid.sizes c mem) (by have small := typed.small c mem; omega)
  have optional : ∀ c ∈ optionalChunks m, Sized c := fun c mem =>
    sized c (by simp [allChunks, mem])
  have inEnvelope : m.envelopeChunk ∈ allChunks m := by simp [allChunks]
  refine ⟨_, getSerialized_ok sized, ?_⟩
  rw [valid.version, parseMessage_ok_iff _ (.inl (by omega))]
  constructor
  · rintro ⟨envelope, chunks, tail, grammar, same⟩ c last empty
    obtain ⟨init, split⟩ := List.getLast?_eq_some_iff.mp last
    have other := decomposes_without_last typed sized split empty
    obtain ⟨_, rfl, _⟩ := decomposition_unique grammar other
    have bound := optional_assemble_length envelope chunks
    rw [← same, split, List.length_append, List.length_singleton] at bound
    omega
  · intro content
    refine ⟨m.envelopeChunk, optionalChunks m, [], ⟨⟨(optionalChunks m).flatMap octets, by
      simp [allChunks], ?_⟩, typed.envelope, sized _ inEnvelope, ?_, optional_one_data typed⟩,
      (assemble_optional valid typed).symm⟩
    · have splits := splits_flatMap (optionalChunks m) [] optional (optional_kinds typed)
        (by simp) (fun c last => .inl (content c last))
      simpa using splits
    · have small := typed.small _ inEnvelope
      omega

def helloEnvelope : MessageChunk := .ofContent 0x01 [0x7b, 0x7d]
def helloData : MessageChunk := .ofContent 0x02 [0x68, 0x69]

theorem built_message_parses :
    ∃ bytes, Message.getSerialized ⟨1, helloEnvelope, helloData, []⟩ = .ok bytes ∧
      parseMessage 64 bytes = .ok ⟨1, helloEnvelope, helloData, []⟩ := by
  have made : Message.ofData helloEnvelope helloData = .ok ⟨1, helloEnvelope, helloData, []⟩ := by
    decide
  have built : Built ⟨1, helloEnvelope, helloData, []⟩ := .ofData made
  have typed : WellTyped ⟨1, helloEnvelope, helloData, []⟩ :=
    ⟨rfl, by decide, by simp, by decide⟩
  obtain ⟨bytes, serialized, parses⟩ := parse_serialized_iff built typed
  refine ⟨bytes, serialized, parses.mpr fun c last => ?_⟩
  obtain rfl : helloData = c := Option.some.inj last
  decide

theorem empty_data_is_dropped :
    ∃ bytes, Message.ofData helloEnvelope (.ofContent 0x02 []) =
        .ok ⟨1, helloEnvelope, .ofContent 0x02 [], []⟩ ∧
      Message.getSerialized ⟨1, helloEnvelope, .ofContent 0x02 [], []⟩ = .ok bytes ∧
      parseMessage 64 bytes = .ok ⟨1, helloEnvelope, {}, []⟩ :=
  ⟨[1, 1, 0, 0, 0, 2, 0x7b, 0x7d, 2, 0, 0, 0, 0], by decide⟩

end PcpWireRoundTrip
