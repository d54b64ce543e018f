import PcpClient.WireRoundTrip

/-!
Sequences of calls on a v1::Message: a constructor from chunks, then setDataChunk() and
addDebugChunk() in any number and order, with any chunks; some of the calls may throw.
-/
namespace PcpMessageOperations
open PcpOctets PcpSerialization PcpMessageV1 PcpWireGrammar PcpWireParser PcpWireRoundTrip

inductive Construction where
  | envelope (envelopeChunk : MessageChunk)
  | data (envelopeChunk dataChunk : MessageChunk)
  | debug (envelopeChunk dataChunk debugChunk : MessageChunk)
  deriving DecidableEq, Repr

def Construction.build : Construction → Except Fault Message
  | .envelope envelopeChunk => Message.ofEnvelope envelopeChunk
  | .data envelopeChunk dataChunk => Message.ofData envelopeChunk dataChunk
  | .debug envelopeChunk dataChunk debugChunk => Message.ofDebug envelopeChunk dataChunk debugChunk

def Construction.chunks : Construction → List MessageChunk
  | .envelope envelopeChunk => [envelopeChunk]
  | .data envelopeChunk dataChunk => [envelopeChunk, dataChunk]
  | .debug envelopeChunk dataChunk debugChunk => [envelopeChunk, dataChunk, debugChunk]

inductive Operation where
  | setDataChunk (dataChunk : MessageChunk)
  | addDebugChunk (debugChunk : MessageChunk)
  deriving DecidableEq, Repr

def Operation.chunk : Operation → MessageChunk
  | .setDataChunk dataChunk => dataChunk
  | .addDebugChunk debugChunk => debugChunk

def Operation.assign : Operation → Message → Message
  | .setDataChunk dataChunk, m => { m with dataChunk }
  | .addDebugChunk debugChunk, m => { m with debugChunks := m.debugChunks ++ [debugChunk] }

def Operation.call (op : Operation) : ExceptT Fault (StateM Message) Unit := do
  validateChunk op.chunk
  modify op.assign

/-- How a call ends, and the message after it. -/
def Operation.run (op : Operation) (m : Message) : Except Fault Unit × Message :=
  op.call.run.run m

/-- The message as constructed and after each of the calls. -/
def obtained (m : Message) : List Operation → List Message
  | [] => [m]
  | op :: ops => m :: obtained (op.run m).2 ops

theorem run_eq (op : Operation) (m : Message) :
    op.run m = match validateChunk op.chunk with
      | .ok () => (.ok (), op.assign m)
      | .error fault => (.error fault, m) := by
  unfold Operation.run Operation.call
  cases validateChunk op.chunk <;> rfl

theorem run_valid {op : Operation} {m : Message} (valid : validateChunk op.chunk = .ok ()) :
    op.run m = (.ok (), op.assign m) := by
  rw [run_eq, valid]

theorem run_invalid {op : Operation} {m : Message} {fault : Fault}
    (invalid : validateChunk op.chunk = .error fault) : op.run m = (.error fault, m) := by
  rw [run_eq, invalid]

theorem run_modifiers (m : Message) (chunk : MessageChunk) :
    (m.setDataChunk chunk = match (Operation.setDataChunk chunk).run m with
      | (.ok (), m') => .ok m'
      | (.error fault, _) => .error fault) ∧
    (m.addDebugChunk chunk = match (Operation.addDebugChunk chunk).run m with
      | (.ok (), m') => .ok m'
      | (.error fault, _) => .error fault) := by
  simp only [run_eq, Operation.chunk, Message.setDataChunk, Message.addDebugChunk]
  cases validateChunk chunk <;> exact ⟨rfl, rfl⟩

theorem run_built {op : Operation} {m : Message} (built : Built m) : Built (op.run m).2 := by
  cases valid : validateChunk op.chunk with
  | error fault => rwa [run_invalid valid]
  | ok _ =>
    rw [run_valid valid]
    cases op with
    | setDataChunk chunk =>
      exact .setDataChunk built (show m.setDataChunk chunk = _ by
        rw [(run_modifiers m chunk).1, run_valid valid])
    | addDebugChunk chunk =>
      exact .addDebugChunk built (show m.addDebugChunk chunk = _ by
        rw [(run_modifiers m chunk).2, run_valid valid])

theorem build_built {c : Construction} {m : Message} (made : c.build = .ok m) : Built m := by
  cases c with
  | envelope envelopeChunk => exact .ofEnvelope made
  | data envelopeChunk dataChunk => exact .ofData made
  | debug envelopeChunk dataChunk debugChunk => exact .ofDebug made

/-- Every chunk is of the type of its place. -/
structure Valid (m : Message) : Prop where
  envelope : m.envelopeChunk.descBit = ChunkDescriptor.envelope
  data : m.hasData = true → isData m.dataChunk = true
  debug : ∀ d ∈ m.debugChunks, isDebug d = true

def Accepted (m : Message) : Prop :=
  ∃ bytes m', m.getSerialized = .ok bytes ∧ parseMessage 64 bytes = .ok m'

def Construction.InPlace : Construction → Prop
  | .envelope envelopeChunk => envelopeChunk.descBit = ChunkDescriptor.envelope
  | .data envelopeChunk dataChunk =>
    envelopeChunk.descBit = ChunkDescriptor.envelope ∧ isData dataChunk = true
  | .debug envelopeChunk dataChunk debugChunk =>
    envelopeChunk.descBit = ChunkDescriptor.envelope ∧ isData dataChunk = true ∧
      isDebug debugChunk = true

def Operation.InPlace : Operation → Prop
  | .setDataChunk dataChunk => isData dataChunk = true
  | .addDebugChunk debugChunk => isDebug debugChunk = true

instance : ∀ c : Construction, Decidable c.InPlace
  | .envelope _ => inferInstanceAs (Decidable (_ = _))
  | .data _ _ => inferInstanceAs (Decidable (_ ∧ _))
  | .debug _ _ _ => inferInstanceAs (Decidable (_ ∧ _ ∧ _))

instance : ∀ op : Operation, Decidable op.InPlace
  | .setDataChunk _ | .addDebugChunk _ => inferInstanceAs (Decidable (_ = _))

theorem wellTyped_accepted {m : Message} (built : Built m) (typed : WellTyped m) : Accepted m := by
  have valid := built_validated built
  have sized : ∀ c ∈ allChunks m, Sized c := fun c mem =>
    sized_of_small (valid.sizes c mem) (by have small := typed.small c mem; omega)
  by_cases content : EndsWithContent m
  · obtain ⟨bytes, serialized, parses⟩ := parse_serialized_iff built typed
    exact ⟨bytes, m, serialized, parses.mpr content⟩
  · simp only [EndsWithContent, not_forall] at content
    obtain ⟨c, last, empty⟩ := content
    obtain ⟨init, split⟩ := List.getLast?_eq_some_iff.mp last
    have grammar := decomposes_without_last typed sized split (Decidable.not_not.mp empty)
    refine ⟨_, assemble m.envelopeChunk init, getSerialized_ok sized, ?_⟩
    rw [valid.version]
    exact parseMessage_complete (.inl (by omega)) grammar

theorem build_envelope {e : MessageChunk} {m : Message}
    (made : Message.ofEnvelope e = .ok m) : m = ⟨1, e, {}, []⟩ := by
  obtain ⟨_, _, same⟩ := bind_ok_iff.mp made
  cases same
  rfl

theorem build_data {e d : MessageChunk} {m : Message} (made : Message.ofData e d = .ok m) :
    m = ⟨1, e, d, []⟩ ∧ d.descriptor ≠ 0 := by
  obtain ⟨_, _, rest⟩ := bind_ok_iff.mp made
  obtain ⟨_, valid, same⟩ := bind_ok_iff.mp rest
  cases same
  exact ⟨rfl, (validateChunk_ok valid).2⟩

theorem build_debug {e d g : MessageChunk} {m : Message} (made : Message.ofDebug e d g = .ok m) :
    m = ⟨1, e, d, [g]⟩ ∧ d.descriptor ≠ 0 := by
  obtain ⟨_, _, rest⟩ := bind_ok_iff.mp made
  obtain ⟨_, valid, rest'⟩ := bind_ok_iff.mp rest
  obtain ⟨_, _, same⟩ := bind_ok_iff.mp rest'
  cases same
  exact ⟨rfl, (validateChunk_ok valid).2⟩

theorem build_valid_iff {c : Construction} {m : Message} (made : c.build = .ok m) :
    Valid m ↔ c.InPlace := by
  cases c with
  | envelope e =>
    obtain rfl := build_envelope made
    constructor
    · exact fun valid => valid.envelope
    · exact fun place => ⟨place, by simp [Message.hasData], by simp⟩
  | data e d =>
    obtain ⟨rfl, present⟩ := build_data made
    have hasData : Message.hasData ⟨1, e, d, []⟩ = true := by simpa [Message.hasData] using present
    constructor
    · exact fun valid => ⟨valid.envelope, valid.data hasData⟩
    · rintro ⟨place, data⟩
      exact ⟨place, fun _ => data, by simp⟩
  | debug e d g =>
    obtain ⟨rfl, present⟩ := build_debug made
    have hasData : Message.hasData ⟨1, e, d, [g]⟩ = true := by simpa [Message.hasData] using present
    constructor
    · exact fun valid => ⟨valid.envelope, valid.data hasData, valid.debug g (by simp)⟩
    · rintro ⟨place, data, debug⟩
      exact ⟨place, fun _ => data, by simpa using debug⟩

theorem run_valid_iff {op : Operation} {m : Message} (valid : Valid m)
    (accepted : validateChunk op.chunk = .ok ()) : Valid (op.run m).2 ↔ op.InPlace := by
  rw [run_valid accepted]
  have present := (validateChunk_ok accepted).2
  cases op with
  | setDataChunk chunk =>
    have hasData : Message.hasData { m with dataChunk := chunk } = true := by
      simpa [Message.hasData, Operation.chunk] using present
    constructor
    · exact fun later => later.data hasData
    · exact fun place => ⟨valid.envelope, fun _ => place, valid.debug⟩
  | addDebugChunk chunk =>
    constructor
    · exact fun later => later.debug chunk (by simp [Operation.assign])
    · intro place
      refine ⟨valid.envelope, valid.data, fun d mem => ?_⟩
      rcases List.mem_append.mp mem with before | added
      · exact valid.debug d before
      · rw [List.mem_singleton.mp added]
        exact place

def Small (m : Message) : Prop := ∀ c ∈ allChunks m, c.content.length < 2 ^ 32 - 6

theorem build_small {c : Construction} {m : Message} (made : c.build = .ok m)
    (small : ∀ chunk ∈ c.chunks, chunk.content.length < 2 ^ 32 - 6) : Small m := by
  cases c with
  | envelope e =>
    obtain rfl := build_envelope made
    simpa [Small, allChunks, optionalChunks, Message.hasData, Construction.chunks] using small
  | data e d =>
    obtain ⟨rfl, present⟩ := build_data made
    simpa [Small, allChunks, optionalChunks, Message.hasData, present, Construction.chunks]
      using small
  | debug e d g =>
    obtain ⟨rfl, present⟩ := build_debug made
    simpa [Small, allChunks, optionalChunks, Message.hasData, present, Construction.chunks]
      using small

theorem run_small {op : Operation} {m : Message} (small : Small m)
    (chunk : op.chunk.content.length < 2 ^ 32 - 6) : Small (op.run m).2 := by
  cases accepted : validateChunk op.chunk with
  | error fault => rwa [run_invalid accepted]
  | ok _ =>
    have present := (validateChunk_ok accepted).2
    rw [run_valid accepted]
    simp only [Small, allChunks, optionalChunks, List.mem_cons, List.mem_append] at small ⊢
    cases op with
    | setDataChunk d =>
      have hasData : Message.hasData { m with dataChunk := d } = true := by
        simpa [Message.hasData, Operation.chunk] using present
      rintro c (rfl | data | debug)
      · exact small _ (.inl rfl)
      · obtain rfl : c = d := by simpa [Operation.assign, hasData] using data
        exact chunk
      · exact small c (.inr (.inr debug))
    | addDebugChunk d =>
      rintro c (rfl | data | debug)
      · exact small _ (.inl rfl)
      · exact small c (.inr (.inl data))
      · rcases List.mem_append.mp debug with before | added
        · exact small c (.inr (.inr before))
        · rw [List.mem_singleton.mp added]
          exact chunk

theorem valid_accepted {m : Message} (built : Built m) (small : Small m) (valid : Valid m) :
    Accepted m :=
  wellTyped_accepted built ⟨valid.envelope, valid.data, valid.debug, small⟩

theorem obtained_head (m : Message) (ops : List Operation) : m ∈ obtained m ops := by
  cases ops <;> simp [obtained]

theorem calls_valid_iff (ops : List Operation) (m : Message) (built : Built m) (small : Small m)
    (chunks : ∀ op ∈ ops, op.chunk.content.length < 2 ^ 32 - 6) (valid : Valid m) :
    (∀ m' ∈ obtained m ops, Valid m' ∧ Accepted m') ↔
      ∀ op ∈ ops, validateChunk op.chunk = .ok () → op.InPlace := by
  induction ops generalizing m with
  | nil => simpa [obtained] using ⟨valid, valid_accepted built small valid⟩
  | cons op ops ih =>
    have rest : Valid (op.run m).2 → ((∀ m' ∈ obtained (op.run m).2 ops, Valid m' ∧ Accepted m') ↔
        ∀ other ∈ ops, validateChunk other.chunk = .ok () → other.InPlace) :=
      ih _ (run_built built) (run_small small (chunks op (by simp)))
        (fun other mem => chunks other (by simp [mem]))
    have first : Valid (op.run m).2 ↔ (validateChunk op.chunk = .ok () → op.InPlace) := by
      cases accepted : validateChunk op.chunk with
      | error fault => simpa [run_invalid accepted] using valid
      | ok _ => simpa using run_valid_iff valid accepted
    simp only [obtained, List.forall_mem_cons, ← first]
    constructor
    · rintro ⟨_, later⟩
      have next := (later _ (obtained_head _ _)).1
      exact ⟨next, (rest next).mp later⟩
    · rintro ⟨next, others⟩
      exact ⟨⟨valid, valid_accepted built small valid⟩, (rest next).mpr others⟩

/-- A call that throws leaves its message as it was, and every message obtained is valid
    if and only if the chunks that were accepted are of the types of their places. -/
theorem messages_valid_iff {c : Construction} {ops : List Operation}
    (small : ∀ chunk ∈ c.chunks ++ ops.map Operation.chunk, chunk.content.length < 2 ^ 32 - 6) :
    (∀ op ∈ ops, ∀ m fault, (op.run m).1 = .error fault → (op.run m).2 = m) ∧
      ((∀ m, c.build = .ok m → ∀ m' ∈ obtained m ops, Valid m' ∧ Accepted m') ↔
        ∀ m, c.build = .ok m →
          c.InPlace ∧ ∀ op ∈ ops, validateChunk op.chunk = .ok () → op.InPlace) := by
  constructor
  · intro op _ m fault failed
    cases accepted : validateChunk op.chunk with
    | error other => rw [run_invalid accepted]
    | ok _ => simp [run_valid accepted] at failed
  · refine forall_congr' fun m => forall_congr' fun made => ?_
    have calls : Valid m → _ := calls_valid_iff ops m (build_built made)
      (build_small made fun chunk mem => small chunk (by simp [mem]))
      (fun op mem => small op.chunk (List.mem_append_right _ (List.mem_map_of_mem mem)))
    rw [← build_valid_iff made]
    constructor
    · intro all
      have valid := (all m (obtained_head m ops)).1
      exact ⟨valid, (calls valid).mp all⟩
    · rintro ⟨valid, placed⟩
      exact (calls valid).mpr placed

theorem hello_message_valid :
    ∃ m, (Construction.envelope helloEnvelope).build = .ok m ∧
      Valid ((Operation.setDataChunk helloData).run m).2 ∧
      Accepted ((Operation.setDataChunk helloData).run m).2 := by
  obtain ⟨m, made⟩ : ∃ m, (Construction.envelope helloEnvelope).build = .ok m := ⟨_, rfl⟩
  have all := (@messages_valid_iff (.envelope helloEnvelope) [.setDataChunk helloData]
    (by decide)).2.mpr fun _ _ => ⟨by decide, by decide⟩
  exact ⟨m, made, all m made _ (by simp [obtained])⟩

/-- A data chunk is taken for the envelope. -/
theorem data_chunk_as_envelope :
    ∃ m bytes, (Construction.envelope helloData).build = .ok m ∧ m.getSerialized = .ok bytes ∧
      parseMessage 64 bytes =
        .error (.messageSerializationError "invalid msg: no envelope descriptor") :=
  ⟨⟨1, helloData, {}, []⟩, [1, 2, 0, 0, 0, 2, 0x68, 0x69], by decide⟩

end PcpMessageOperations
