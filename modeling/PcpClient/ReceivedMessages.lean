import PcpClient.MessageDispatch
import PcpClient.WireParser

/-!
What processMessage() hands to the callbacks of the connector for a message whose
envelope is accepted, and which messages it rejects before.
-/
namespace PcpReceived
open PcpOctets PcpJson PcpSchema PcpProtocol PcpSerialization PcpMessageV1 PcpWireGrammar
open PcpWireParser PcpParsedChunks PcpDispatch

/-- The data that a callback sees for a message with JSON data. -/
def Setup.readableData (cfg : Setup) (m : Message) (schema : Schema) : Json :=
  if m.hasData then
    match cfg.parser m.dataChunk.content with
    | some data => if schema.accepts data then data else .empty
    | none => .empty
  else .empty

structure ChunksOf (cfg : Setup) (m : Message) (schema : Schema) (envelope : Json)
    (chunks : ParsedChunks) : Prop where
  envelope : chunks.envelope = envelope
  hasData : chunks.hasData = m.hasData
  dataType : chunks.dataType = .json
  data : chunks.data = Setup.readableData cfg m schema

theorem registry_hops (r : Registry) (parser : JsonParser) (chunk : MessageChunk) :
    HopsReadable parser r.validator chunk := by
  intro content _ valid
  obtain ⟨schema, found, accepted⟩ := validate_ok_iff.mp valid
  have registered := r.schemas V1.debugSchema (by simp [protocolSchemas])
  rw [show V1.debugSchema.name = V1.debugSchemaName from rfl, found] at registered
  obtain rfl := Option.some.inj registered
  exact build_array accepted (by simp)

theorem envelope_reads {envelope : Json} (accepted : V1.envelopeSchema.accepts envelope = true) :
    (∃ id, envelope.getString "id" = .ok id) ∧
      (∃ messageType, envelope.getString "message_type" = .ok messageType) ∧
      ∃ sender, envelope.getString "sender" = .ok sender :=
  ⟨build_string accepted (by simp), build_string accepted (by simp),
    build_string accepted (by simp)⟩

theorem registry_envelope (r : Registry) (envelope : Json) :
    r.validator.validate envelope envelopeSchemaName = .ok () ↔
      V1.envelopeSchema.accepts envelope = true := by
  have registered := r.schemas V1.envelopeSchema (by simp [protocolSchemas])
  rw [show V1.envelopeSchema.name = envelopeSchemaName from rfl] at registered
  rw [validate_ok_iff, registered]
  simp

theorem parseData_eq {cfg : Setup} {messageType : String} {schema : Schema}
    (found : cfg.registry.validator.lookup messageType = some schema) (chunk : MessageChunk) :
    (∃ data, cfg.parser chunk.content = some data ∧ schema.accepts data = true ∧
        parseData cfg.parser cfg.registry.validator messageType chunk = .ok data) ∨
      (∀ data, cfg.parser chunk.content = some data → schema.accepts data = false) ∧
        ∃ e, parseData cfg.parser cfg.registry.validator messageType chunk = .error e ∧
          caughtV1 e = true := by
  cases outcome : parseData cfg.parser cfg.registry.validator messageType chunk with
  | error e =>
    refine .inr ⟨fun data parsed => ?_, e, rfl, parseData_caught outcome⟩
    by_contra accepted
    simp [parseData, JsonParser.container, parsed, Validator.validate, found,
      show schema.accepts data = true by simpa using accepted, bind, Except.bind, pure,
      Except.pure] at outcome
  | ok value =>
    unfold parseData JsonParser.container at outcome
    cases parsed : cfg.parser chunk.content with
    | none => rw [parsed] at outcome; cases outcome
    | some data =>
      rw [parsed] at outcome
      simp only [bind, Except.bind] at outcome
      cases valid : cfg.registry.validator.validate data messageType with
      | error e => rw [valid] at outcome; cases outcome
      | ok _ =>
        rw [valid] at outcome
        obtain rfl := Except.ok.inj outcome
        obtain ⟨other, lookup, accepted⟩ := validate_ok_iff.mp valid
        obtain rfl := Option.some.inj (lookup.symm.trans found)
        exact .inl ⟨data, rfl, accepted, rfl⟩

theorem json_chunks {cfg : Setup} {m : Message} {envelope : Json} {schema : Schema}
    (parsed : cfg.parser m.envelopeChunk.content = some envelope)
    (accepted : V1.envelopeSchema.accepts envelope = true)
    (type : envelope.getString "message_type" = .ok schema.name)
    (found : cfg.registry.validator.lookup schema.name = some schema)
    (json : schema.contentType = .json) :
    ∃ chunks, v1GetParsedChunks cfg.parser m cfg.registry.validator = .ok chunks ∧
      ChunksOf cfg m schema envelope chunks := by
  obtain ⟨⟨id, idRead⟩, _, _⟩ := envelope_reads accepted
  have valid := (registry_envelope cfg.registry envelope).mpr accepted
  obtain ⟨content, folded, _⟩ := debug_readable m.debugChunks {} fun chunk _ =>
    registry_hops cfg.registry cfg.parser chunk
  simp only [v1GetParsedChunks, JsonParser.container, parsed, valid, idRead, type, bind,
    Except.bind, folded]
  cases data : m.hasData with
  | false => exact ⟨_, rfl, rfl, by simp [data], rfl, by simp [Setup.readableData, data]⟩
  | true =>
    simp only [if_true, Validator.getSchemaContentType, found, json]
    rcases parseData_eq found m.dataChunk with
      ⟨value, read, matched, outcome⟩ | ⟨bad, e, outcome, caught⟩
    · rw [outcome]
      exact ⟨_, rfl, rfl, by simp [data], rfl, by simp [Setup.readableData, data, read, matched]⟩
    · rw [outcome]
      simp only [caught, if_true]
      refine ⟨_, rfl, rfl, by simp [data], rfl, ?_⟩
      simp only [Setup.readableData, data, if_true]
      cases read : cfg.parser m.dataChunk.content with
      | none => rfl
      | some value => simp [bad value read]

theorem protocol_schema (r : Registry) {p : Schema × Callback} (listed : p ∈ protocolCallbacks) :
    r.validator.lookup p.1.name = some p.1 ∧ p.1.contentType = .json := by
  refine ⟨r.schemas p.1 (List.mem_append_right _ (List.mem_map_of_mem listed)), ?_⟩
  simp only [protocolCallbacks, List.mem_cons, List.not_mem_nil, or_false] at listed
  rcases listed with rfl | rfl | rfl <;> rfl

/-- A message of a type of the protocol reaches the callback of the connector with its
    data if that is readable, else with an empty container. -/
theorem protocol_received {cfg : Setup} {msgTxt : Bytes} {m : Message} {envelope : Json}
    {p : Schema × Callback} (listed : p ∈ protocolCallbacks)
    (parse : parseMessage 64 msgTxt = .ok m)
    (parsed : cfg.parser m.envelopeChunk.content = some envelope)
    (accepted : V1.envelopeSchema.accepts envelope = true)
    (type : envelope.getString "message_type" = .ok p.1.name) :
    ∃ chunks, cfg.processMessage msgTxt = .callback p.2 chunks ∧
      ChunksOf cfg m p.1 envelope chunks := by
  obtain ⟨found, json⟩ := protocol_schema cfg.registry listed
  obtain ⟨chunks, returned, content⟩ := json_chunks parsed accepted type found json
  obtain ⟨⟨id, idRead⟩, _, sender, senderRead⟩ := envelope_reads accepted
  refine ⟨chunks, ?_, content⟩
  unfold Setup.processMessage
  rw [parse]
  simp only [returned, Setup.selectCallback, content.envelope, type, idRead, senderRead,
    cfg.registry.protocol p listed, bind, Except.bind, pure, Except.pure]

theorem chunks_envelope {parser : JsonParser} {validator : Validator} {m : Message}
    {envelope : Json} {chunks : ParsedChunks}
    (parsed : parser m.envelopeChunk.content = some envelope)
    (returned : v1GetParsedChunks parser m validator = .ok chunks) :
    chunks.envelope = envelope := by
  simp only [v1GetParsedChunks, JsonParser.container, parsed, bind, Except.bind] at returned
  repeat' split at returned
  all_goals cases returned <;> rfl

theorem envelope_received (cfg : Setup) {msgTxt : Bytes} {m : Message} {envelope : Json}
    {messageType : String} (parse : parseMessage 64 msgTxt = .ok m)
    (parsed : cfg.parser m.envelopeChunk.content = some envelope)
    (accepted : V1.envelopeSchema.accepts envelope = true)
    (type : envelope.getString "message_type" = .ok messageType) :
    (m.hasData = true ∧ cfg.registry.validator.includesSchema messageType = false ∧
      ∃ error, cfg.processMessage msgTxt = .rejected error) ∨
    (∃ chunks, chunks.envelope = envelope ∧ cfg.processMessage msgTxt =
      match cfg.registry.callbacks.lookup messageType with
      | some c => .callback c chunks
      | none => .ignored) := by
  obtain ⟨⟨id, idRead⟩, _, sender, senderRead⟩ := envelope_reads accepted
  have valid := (registry_envelope cfg.registry envelope).mpr accepted
  have hops : ∀ c ∈ m.debugChunks, HopsReadable cfg.parser cfg.registry.validator c :=
    fun chunk _ => registry_hops cfg.registry cfg.parser chunk
  by_cases good : Reportable cfg.parser cfg.registry.validator m envelope
  · obtain ⟨chunks, returned, _⟩ := v1_reportable parsed valid idRead type good
    have same := chunks_envelope parsed returned
    refine .inr ⟨chunks, same, ?_⟩
    unfold Setup.processMessage
    rw [parse]
    simp only [returned, Setup.selectCallback, same, type, idRead, senderRead, bind, Except.bind]
    cases cfg.registry.callbacks.lookup messageType <;> rfl
  · have unknown : m.hasData = true ∧
        cfg.registry.validator.includesSchema messageType = false := by
      by_contra other
      refine good ⟨fun data name read => ?_, hops⟩
      obtain rfl : messageType = name := Except.ok.inj (type.symm.trans read)
      simpa [data] using other
    obtain ⟨content, folded, _⟩ := debug_readable m.debugChunks {} hops
    have absent : cfg.registry.validator.lookup messageType = none := by
      simpa [Validator.includesSchema] using unknown.2
    refine .inl ⟨unknown.1, unknown.2, ?_⟩
    unfold Setup.processMessage
    rw [parse]
    simp [v1GetParsedChunks, JsonParser.container, parsed, valid, idRead, type, bind, Except.bind,
      folded, unknown.1, Validator.getSchemaContentType, absent, notRegistered]

def Undeserializable (msgTxt : Bytes) : Prop := ∀ m, parseMessage 64 msgTxt ≠ .ok m

def BadEnvelope (cfg : Setup) (msgTxt : Bytes) : Prop :=
  ∃ m, parseMessage 64 msgTxt = .ok m ∧
    ∀ envelope, cfg.parser m.envelopeChunk.content = some envelope →
      V1.envelopeSchema.accepts envelope = false

theorem undeserializable_rejected {cfg : Setup} {msgTxt : Bytes}
    (bad : Undeserializable msgTxt) : ∃ error, cfg.processMessage msgTxt = .rejected error := by
  unfold Setup.processMessage
  cases parse : parseMessage 64 msgTxt with
  | ok m => exact absurd parse (bad m)
  | error fault =>
    rcases parseMessage_error (.inl (by omega)) parse with ⟨_, _, text, rfl⟩ | ⟨_, text, rfl⟩
    · exact ⟨_, rfl⟩
    · exact ⟨_, rfl⟩

theorem badEnvelope_rejected {cfg : Setup} {msgTxt : Bytes} (bad : BadEnvelope cfg msgTxt) :
    ∃ error, cfg.processMessage msgTxt = .rejected error := by
  obtain ⟨m, parse, rejects⟩ := bad
  unfold Setup.processMessage
  rw [parse]
  cases parsed : cfg.parser m.envelopeChunk.content with
  | none => simp [v1GetParsedChunks, JsonParser.container, parsed, bind, Except.bind]
  | some envelope =>
    have registered := cfg.registry.schemas V1.envelopeSchema (by simp [protocolSchemas])
    rw [show V1.envelopeSchema.name = envelopeSchemaName from rfl] at registered
    simp [v1GetParsedChunks, JsonParser.container, parsed, Validator.validate, registered,
      rejects envelope parsed, bind, Except.bind]

def dataMessage (envelope data : Bytes) : Bytes :=
  1 :: (octets (.ofContent 1 envelope) ++ octets (.ofContent 2 data))

theorem ofContent_sized {desc : UInt8} {content : Bytes} (small : content.length < 2 ^ 32) :
    Sized (.ofContent desc content) := by
  rw [Sized, MessageChunk.ofContent, UInt32.toNat_ofNat', Nat.mod_eq_of_lt small]

theorem dataMessage_parsed {envelope data : Bytes} (envelopeSmall : envelope.length < 2 ^ 32 - 6)
    (dataSmall : data.length < 2 ^ 32) (nonempty : data ≠ []) :
    parseMessage 64 (dataMessage envelope data) =
      .ok ⟨1, .ofContent 1 envelope, .ofContent 2 data, []⟩ := by
  have isEnvelope : (MessageChunk.ofContent 1 envelope).descBit = ChunkDescriptor.envelope := by
    simp only [MessageChunk.descBit, MessageChunk.ofContent]
    decide
  have dataKind : isData (.ofContent 2 data) = true := by
    simp only [isData, MessageChunk.descBit, MessageChunk.ofContent]
    decide
  have notDebug : isDebug (.ofContent 2 data) = false := by
    simp only [isDebug, MessageChunk.descBit, MessageChunk.ofContent]
    decide
  have some : 0 < data.length := List.length_pos_iff.mpr nonempty
  refine (parseMessage_ok_iff _ (.inl (by omega)) _).mpr
    ⟨.ofContent 1 envelope, [.ofContent 2 data], [], ?_, ?_⟩
  · refine ⟨⟨octets (.ofContent 2 data), rfl, ?_, by simp [dataKind], ofContent_sized dataSmall, [],
      by simp, rfl, by simp⟩, isEnvelope, ofContent_sized (by omega), ?_, by simp [dataKind]⟩
    · simp only [octets_length, MessageChunk.ofContent, chunkMetadataSize]
      omega
    · simp only [MessageChunk.ofContent]
      omega
  · simp [assemble, dataKind, notDebug]

/-! Associate Session responses received by a connector without callbacks of its user. -/

def responseEnvelopeText : Bytes :=
  asciiBytes "\x7b\"id\":\"2\",\"message_type\":" ++
    asciiBytes "\"http://puppetlabs.com/associate_response\"," ++
    asciiBytes "\"expires\":\"2030-01-01T00:00:00Z\"," ++
    asciiBytes "\"targets\":[\"pcp://client/agent\"]," ++
    asciiBytes "\"sender\":\"pcp:///server\"\x7d"

def responseEnvelope : Json :=
  .obj [("id", .str "2"), ("message_type", .str V1.associateRespType),
    ("expires", .str "2030-01-01T00:00:00Z"), ("targets", .arr [.str "pcp://client/agent"]),
    ("sender", .str "pcp:///server")]

def responseParser (dataText : Bytes) (data : Option Json) : JsonParser := fun text =>
  if text = dataText then data
  else if text = responseEnvelopeText then some responseEnvelope else none

theorem responseEnvelope_parsed {dataText : Bytes} {data : Option Json}
    (other : dataText.length < responseEnvelopeText.length) :
    responseParser dataText data responseEnvelopeText = some responseEnvelope := by
  have distinct : responseEnvelopeText ≠ dataText := fun same => by
    rw [same] at other
    omega
  simp [responseParser, distinct]

theorem responseEnvelope_accepted : V1.envelopeSchema.accepts responseEnvelope = true := by decide

theorem responseEnvelopeText_length : responseEnvelopeText.length = 159 := by
  simp [responseEnvelopeText, asciiBytes]

theorem response_received {dataText : Bytes} {data : Option Json}
    (nonempty : dataText ≠ []) (short : dataText.length < 159) :
    ∃ chunks, (plainSetup (responseParser dataText data)).processMessage
        (dataMessage responseEnvelopeText dataText) = .callback .associateResponse chunks ∧
      ChunksOf (plainSetup (responseParser dataText data))
        ⟨1, .ofContent 1 responseEnvelopeText, .ofContent 2 dataText, []⟩
        V1.associateResponseSchema responseEnvelope chunks := by
  have length := responseEnvelopeText_length
  have parse : parseMessage 64 (dataMessage responseEnvelopeText dataText) = _ :=
    dataMessage_parsed (by omega) (by omega) nonempty
  have parsed : responseParser dataText data responseEnvelopeText = some responseEnvelope :=
    responseEnvelope_parsed (by omega)
  exact protocol_received (List.mem_cons_self ..) parse
    (by simpa only [plainSetup, MessageChunk.ofContent] using parsed) responseEnvelope_accepted rfl

def responseData (id : String) (success : Bool) : Json :=
  .obj [("id", .str id), ("success", .bool success)]

theorem responseData_accepted (id : String) (success : Bool) :
    V1.associateResponseSchema.accepts (responseData id success) = true := by
  simp [V1.associateResponseSchema, build_accepts_iff, responseData, TypeConstraint.accepts,
    Json.includes, Json.member?, mem_values, Json.members, List.lookup_cons]

theorem response_read {dataText : Bytes} (nonempty : dataText ≠ []) (short : dataText.length < 159)
    (id : String) (success : Bool) :
    ∃ chunks, (plainSetup (responseParser dataText (some (responseData id success)))).processMessage
        (dataMessage responseEnvelopeText dataText) = .callback .associateResponse chunks ∧
      readAssociateResponse chunks = .ok ⟨id, success⟩ := by
  obtain ⟨chunks, received, content⟩ := response_received nonempty short
  refine ⟨chunks, received, ?_⟩
  have data : chunks.data = responseData id success := by
    rw [content.data]
    simp [Setup.readableData, Message.hasData, MessageChunk.ofContent, plainSetup, responseParser,
      responseData_accepted]
  unfold readAssociateResponse
  rw [content.envelope, data]
  rfl

theorem response_unreadable {dataText : Bytes} (nonempty : dataText ≠ [])
    (short : dataText.length < 159) :
    ∃ chunks, (plainSetup (responseParser dataText none)).processMessage
        (dataMessage responseEnvelopeText dataText) = .callback .associateResponse chunks ∧
      readAssociateResponse chunks = .error (.dataKeyError "success") := by
  obtain ⟨chunks, received, content⟩ := response_received nonempty short
  refine ⟨chunks, received, ?_⟩
  have data : chunks.data = .empty := by
    rw [content.data]
    simp [Setup.readableData, Message.hasData, MessageChunk.ofContent, plainSetup, responseParser]
  unfold readAssociateResponse
  rw [content.envelope, data]
  rfl

end PcpReceived
