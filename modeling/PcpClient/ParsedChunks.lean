import PcpClient.MessageV1
import PcpClient.ProtocolSchemas

/-!
getParsedChunks() of the two message classes: which chunks or entries are parsed and
validated where, and which failures leave the function.
-/
namespace PcpParsedChunks
open PcpOctets PcpJson PcpSchema PcpProtocol PcpMessageV1

structure ParsedChunks where
  envelope : Json
  hasData : Bool := false
  invalidData : Bool := false
  dataType : ContentType := .json
  data : Json := .empty
  binaryData : Bytes := []
  debug : List Json
  numInvalidDebug : UInt32

structure DebugContent where
  parsed : List Json := []
  numInvalidDebug : UInt32 := 0

def parseDebug (parser : JsonParser) (validator : Validator) (chunk : MessageChunk) :
    Except Raised Json := do
  let parsedDebug ← parser.container chunk.content
  validator.validate parsedDebug V1.debugSchemaName
  let hops ← parsedDebug.getArray "hops"
  hops.forM fun hop => validator.validate hop V1.debugItemSchemaName
  return parsedDebug

/-- The exceptions that the handlers of v1::Message::getParsedChunks() catch. -/
def caughtV1 (e : Raised) : Bool := e == .dataParseError || e.isValidatorError

def addDebug (parser : JsonParser) (validator : Validator) (content : DebugContent)
    (chunk : MessageChunk) : Except Raised DebugContent :=
  match parseDebug parser validator chunk with
  | .ok parsedDebug => .ok { content with parsed := content.parsed ++ [parsedDebug] }
  | .error e =>
    if caughtV1 e then .ok { content with numInvalidDebug := content.numInvalidDebug + 1 }
    else .error e

def parseData (parser : JsonParser) (validator : Validator) (messageType : String)
    (chunk : MessageChunk) : Except Raised Json := do
  let dataContentJson ← parser.container chunk.content
  validator.validate dataContentJson messageType
  return dataContentJson

def v1GetParsedChunks (parser : JsonParser) (m : Message) (validator : Validator) :
    Except Raised ParsedChunks := do
  let envelope ← parser.container m.envelopeChunk.content
  validator.validate envelope envelopeSchemaName
  let _ ← envelope.getString "id"
  let debug ← m.debugChunks.foldlM (addDebug parser validator) {}
  if m.hasData then
    let messageType ← envelope.getString "message_type"
    match ← validator.getSchemaContentType messageType with
    | .json =>
      match parseData parser validator messageType m.dataChunk with
      | .ok data =>
        return { envelope, hasData := true, data, debug := debug.parsed,
                 numInvalidDebug := debug.numInvalidDebug }
      | .error e =>
        if caughtV1 e then
          return { envelope, hasData := true, invalidData := true, debug := debug.parsed,
                   numInvalidDebug := debug.numInvalidDebug }
        else .error e
    | .binary =>
      return { envelope, hasData := true, dataType := .binary, binaryData := m.dataChunk.content,
               debug := debug.parsed, numInvalidDebug := debug.numInvalidDebug }
  else
    return { envelope, debug := debug.parsed, numInvalidDebug := debug.numInvalidDebug }

structure MessageV2 where
  envelope : Json

def MessageV2.ofText (parser : JsonParser) (transportMsg : Bytes) : Except Raised MessageV2 := do
  return ⟨← parser.container transportMsg⟩

/-- The exceptions that the handlers of validate_data() catch. -/
def caughtV2 (e : Raised) : Bool := e == .dataTypeError || e.isValidatorError

def validateData (envelope : Json) (validator : Validator) : Except Raised Bool := do
  let messageType ← envelope.getString "message_type"
  let data ← envelope.entry "data"
  match validator.validate data messageType with
  | .ok () => return true
  | .error e =>
    if caughtV2 e then
      let _ ← envelope.getString "id"
      return false
    else .error e

def v2GetParsedChunks (m : MessageV2) (validator : Validator) : Except Raised ParsedChunks := do
  validator.validate m.envelope envelopeSchemaName
  if m.envelope.includes "data" then
    if ← validateData m.envelope validator then
      return { envelope := m.envelope, hasData := true, data := ← m.envelope.entry "data",
               debug := [], numInvalidDebug := 0 }
    else
      return { envelope := m.envelope, hasData := true, invalidData := true, debug := [],
               numInvalidDebug := 0 }
  else
    return { envelope := m.envelope, debug := [], numInvalidDebug := 0 }

/-! What leaves the functions. -/

/-- The content of a debug chunk, when it matches the schema registered for debug data,
    has an entry for the hops that can be read as a list. -/
def HopsReadable (parser : JsonParser) (validator : Validator) (chunk : MessageChunk) : Prop :=
  ∀ content, parser chunk.content = some content →
    validator.validate content V1.debugSchemaName = .ok () →
      ∃ hops, content.getArray "hops" = .ok hops

def badDebug (parser : JsonParser) (validator : Validator) (chunk : MessageChunk) : Bool :=
  !(parseDebug parser validator chunk).isOk

def badData (parser : JsonParser) (validator : Validator) (messageType : String)
    (chunk : MessageChunk) : Bool :=
  !(parseData parser validator messageType chunk).isOk

theorem validator_error_caught {e : Raised} (validatorError : e.isValidatorError = true) :
    caughtV1 e = true ∧ caughtV2 e = true := by
  simp [caughtV1, caughtV2, validatorError]

theorem getArray_error {j : Json} {key : String} {e : Raised}
    (failed : j.getArray key = .error e) : caughtV1 e = false := by
  unfold Json.getArray Json.entry at failed
  cases j with
  | obj members =>
    simp only [bind, Except.bind] at failed
    cases found : members.lookup key with
    | none => rw [found] at failed; cases failed; rfl
    | some value => rw [found] at failed; cases value <;> cases failed <;> rfl
  | _ => cases failed; rfl

theorem forM_validate_error {validator : Validator} {name : String} (hops : List Json) {e : Raised}
    (failed : hops.forM (fun hop => validator.validate hop name) = .error e) :
    e.isValidatorError = true := by
  induction hops with
  | nil => cases failed
  | cons hop rest ih =>
    change (validator.validate hop name >>= fun _ => rest.forM _) = _ at failed
    cases checked : validator.validate hop name with
    | error other =>
      rw [checked] at failed
      cases failed
      exact validate_error checked
    | ok _ =>
      rw [checked] at failed
      exact ih failed

theorem parseDebug_caught {parser : JsonParser} {validator : Validator} {chunk : MessageChunk}
    {e : Raised} (readable : HopsReadable parser validator chunk)
    (failed : parseDebug parser validator chunk = .error e) : caughtV1 e = true := by
  unfold parseDebug JsonParser.container at failed
  cases parsed : parser chunk.content with
  | none =>
    rw [parsed] at failed
    cases failed
    rfl
  | some content =>
    rw [parsed] at failed
    simp only [bind, Except.bind] at failed
    cases valid : validator.validate content V1.debugSchemaName with
    | error other =>
      rw [valid] at failed
      cases failed
      exact (validator_error_caught (validate_error valid)).1
    | ok _ =>
      obtain ⟨hops, read⟩ := readable content parsed valid
      rw [valid, read] at failed
      simp only at failed
      cases checked : hops.forM fun hop => validator.validate hop V1.debugItemSchemaName with
      | error other =>
        rw [checked] at failed
        cases failed
        exact (validator_error_caught (forM_validate_error hops checked)).1
      | ok _ =>
        rw [checked] at failed
        cases failed

theorem parseDebug_uncaught {parser : JsonParser} {validator : Validator} {chunk : MessageChunk}
    (unreadable : ¬HopsReadable parser validator chunk) :
    ∃ e, parseDebug parser validator chunk = .error e ∧ caughtV1 e = false := by
  simp only [HopsReadable, not_forall] at unreadable
  obtain ⟨content, parsed, valid, noHops⟩ := unreadable
  cases read : content.getArray "hops" with
  | ok hops => exact absurd ⟨hops, read⟩ noHops
  | error e =>
    refine ⟨e, ?_, getArray_error read⟩
    simp [parseDebug, JsonParser.container, parsed, valid, read, bind, Except.bind]

theorem addDebug_readable {parser : JsonParser} {validator : Validator} {chunk : MessageChunk}
    (content : DebugContent) (readable : HopsReadable parser validator chunk) :
    ∃ content', addDebug parser validator content chunk = .ok content' ∧
      content'.numInvalidDebug =
        content.numInvalidDebug + if badDebug parser validator chunk then 1 else 0 := by
  unfold addDebug badDebug
  cases outcome : parseDebug parser validator chunk with
  | ok parsedDebug => exact ⟨_, rfl, by simp [Except.isOk, Except.toBool]⟩
  | error e =>
    simp only [parseDebug_caught readable outcome, if_true]
    exact ⟨_, rfl, by simp [Except.isOk, Except.toBool]⟩

theorem addDebug_unreadable {parser : JsonParser} {validator : Validator} {chunk : MessageChunk}
    (content : DebugContent) (unreadable : ¬HopsReadable parser validator chunk) :
    ∃ e, addDebug parser validator content chunk = .error e := by
  obtain ⟨e, outcome, uncaught⟩ := parseDebug_uncaught unreadable
  exact ⟨e, by simp [addDebug, outcome, uncaught]⟩

theorem debug_readable {parser : JsonParser} {validator : Validator} (chunks : List MessageChunk)
    (content : DebugContent) (readable : ∀ c ∈ chunks, HopsReadable parser validator c) :
    ∃ content', chunks.foldlM (addDebug parser validator) content = .ok content' ∧
      content'.numInvalidDebug = content.numInvalidDebug +
        UInt32.ofNat (chunks.countP (badDebug parser validator)) := by
  induction chunks generalizing content with
  | nil => exact ⟨content, rfl, by simp⟩
  | cons c chunks ih =>
    obtain ⟨first, added, count⟩ := addDebug_readable content (readable c (by simp))
    obtain ⟨all, folded, total⟩ := ih first fun d mem => readable d (by simp [mem])
    refine ⟨all, ?_, ?_⟩
    · rw [List.foldlM_cons, added]
      exact folded
    · rw [total, count, List.countP_cons]
      split <;> simp [UInt32.ofNat_add, UInt32.add_comm, UInt32.add_assoc]

theorem debug_unreadable {parser : JsonParser} {validator : Validator} (chunks : List MessageChunk)
    (content : DebugContent) (unreadable : ¬∀ c ∈ chunks, HopsReadable parser validator c) :
    ∃ e, chunks.foldlM (addDebug parser validator) content = .error e := by
  induction chunks generalizing content with
  | nil => simp at unreadable
  | cons c chunks ih =>
    rw [List.foldlM_cons]
    by_cases first : HopsReadable parser validator c
    · obtain ⟨content', added, _⟩ := addDebug_readable content first
      rw [added]
      exact ih content' fun rest => unreadable (by simpa [first] using rest)
    · obtain ⟨e, failed⟩ := addDebug_unreadable content first
      exact ⟨e, by rw [failed]; rfl⟩

theorem parseData_caught {parser : JsonParser} {validator : Validator} {messageType : String}
    {chunk : MessageChunk} {e : Raised}
    (failed : parseData parser validator messageType chunk = .error e) : caughtV1 e = true := by
  unfold parseData JsonParser.container at failed
  cases parsed : parser chunk.content with
  | none =>
    rw [parsed] at failed
    cases failed
    rfl
  | some content =>
    rw [parsed] at failed
    simp only [bind, Except.bind] at failed
    cases valid : validator.validate content messageType with
    | error other =>
      rw [valid] at failed
      cases failed
      exact (validator_error_caught (validate_error valid)).1
    | ok _ =>
      rw [valid] at failed
      cases failed

structure EnvelopeAccepted (validator : Validator) (schema : Schema) (envelope : Json) : Prop where
  registered : validator.lookup envelopeSchemaName = some schema
  accepted : schema.accepts envelope = true

theorem envelope_valid {validator : Validator} {schema : Schema} {envelope : Json}
    (valid : EnvelopeAccepted validator schema envelope) :
    validator.validate envelope envelopeSchemaName = .ok () :=
  validate_ok_iff.mpr ⟨schema, valid.registered, valid.accepted⟩

structure Reportable (parser : JsonParser) (validator : Validator) (m : Message) (envelope : Json) :
    Prop where
  type : m.hasData = true → ∀ messageType, envelope.getString "message_type" = .ok messageType →
    validator.includesSchema messageType = true
  debug : ∀ c ∈ m.debugChunks, HopsReadable parser validator c

/-- The bad debug chunks are counted and bad JSON data is flagged. -/
structure ReportedV1 (parser : JsonParser) (validator : Validator) (m : Message)
    (messageType : String) (chunks : ParsedChunks) : Prop where
  debug : chunks.numInvalidDebug = UInt32.ofNat (m.debugChunks.countP (badDebug parser validator))
  data : chunks.invalidData = true ↔ m.hasData = true ∧
    validator.getSchemaContentType messageType = .ok .json ∧
      badData parser validator messageType m.dataChunk = true

theorem v1_unreportable {parser : JsonParser} {validator : Validator} {m : Message}
    {envelope : Json} {messageType id : String}
    (parsed : parser m.envelopeChunk.content = some envelope)
    (valid : validator.validate envelope envelopeSchemaName = .ok ())
    (idRead : envelope.getString "id" = .ok id)
    (typeRead : envelope.getString "message_type" = .ok messageType)
    (bad : ¬Reportable parser validator m envelope) :
    ∃ e, v1GetParsedChunks parser m validator = .error e := by
  simp only [v1GetParsedChunks, JsonParser.container, parsed, valid, idRead, typeRead, bind,
    Except.bind]
  by_cases readable : ∀ c ∈ m.debugChunks, HopsReadable parser validator c
  · obtain ⟨content, folded, _⟩ := debug_readable m.debugChunks {} readable
    have unregistered : m.hasData = true ∧ validator.includesSchema messageType = false := by
      by_contra other
      refine bad ⟨fun data type read => ?_, readable⟩
      obtain rfl : messageType = type := Except.ok.inj (typeRead.symm.trans read)
      simpa [data] using other
    have notFound : validator.lookup messageType = none := by
      simpa [Validator.includesSchema] using unregistered.2
    simp [folded, unregistered.1, Validator.getSchemaContentType, notFound]
  · obtain ⟨e, failed⟩ := debug_unreadable m.debugChunks {} readable
    exact ⟨e, by simp [failed]⟩

theorem v1_reportable {parser : JsonParser} {validator : Validator} {m : Message}
    {envelope : Json} {messageType id : String}
    (parsed : parser m.envelopeChunk.content = some envelope)
    (valid : validator.validate envelope envelopeSchemaName = .ok ())
    (idRead : envelope.getString "id" = .ok id)
    (typeRead : envelope.getString "message_type" = .ok messageType)
    (good : Reportable parser validator m envelope) :
    ∃ chunks, v1GetParsedChunks parser m validator = .ok chunks ∧
      ReportedV1 parser validator m messageType chunks := by
  obtain ⟨content, folded, count⟩ := debug_readable m.debugChunks {} good.debug
  simp only [v1GetParsedChunks, JsonParser.container, parsed, valid, idRead, typeRead, bind,
    Except.bind, folded]
  have total : content.numInvalidDebug =
      UInt32.ofNat (m.debugChunks.countP (badDebug parser validator)) := by simpa using count
  cases data : m.hasData with
  | false => exact ⟨_, rfl, total, by simp [data]⟩
  | true =>
    obtain ⟨schema, found⟩ := Option.isSome_iff_exists.mp (good.type data messageType typeRead)
    cases kind : schema.contentType with
    | binary =>
      simp only [if_true, Validator.getSchemaContentType, found, kind]
      exact ⟨_, rfl, total, by simp [Validator.getSchemaContentType, found, kind]⟩
    | json =>
      simp only [if_true, Validator.getSchemaContentType, found, kind]
      cases outcome : parseData parser validator messageType m.dataChunk with
      | ok value =>
        exact ⟨_, rfl, total, by simp [badData, outcome, Except.isOk, Except.toBool]⟩
      | error e =>
        simp only [parseData_caught outcome, if_true]
        exact ⟨_, rfl, total, by
          simp [badData, outcome, Except.isOk, Except.toBool, data,
            Validator.getSchemaContentType, found, kind]⟩

theorem v2_returns {validator : Validator} {envelope : Json} {messageType id : String}
    (valid : validator.validate envelope envelopeSchemaName = .ok ())
    (idRead : envelope.getString "id" = .ok id)
    (typeRead : envelope.getString "message_type" = .ok messageType) :
    ∃ chunks, v2GetParsedChunks ⟨envelope⟩ validator = .ok chunks ∧
      (chunks.invalidData = true ↔ ∃ data e, envelope.member? "data" = some data ∧
        validator.validate data messageType = .error e) := by
  simp only [v2GetParsedChunks, valid, bind, Except.bind]
  cases included : envelope.includes "data" with
  | false =>
    have absent : envelope.member? "data" = none := by simpa [Json.includes] using included
    exact ⟨_, rfl, by simp [absent]⟩
  | true =>
    obtain ⟨data, found⟩ := includes_iff.mp included
    have read := entry_of_member found
    cases outcome : validator.validate data messageType with
    | ok _ =>
      simp only [if_true, validateData, typeRead, read, outcome, bind, Except.bind, pure,
        Except.pure]
      exact ⟨_, rfl, by simp [found, outcome]⟩
    | error e =>
      have caught := (validator_error_caught (validate_error outcome)).2
      simp only [if_true, validateData, typeRead, read, outcome, bind, Except.bind, pure,
        Except.pure, caught, idRead]
      exact ⟨_, rfl, by simp [found, outcome]⟩

/-- With an envelope that parses and matches its schema, the function of the first version
    returns if and only if the data's type is registered and the hops of matching debug are
    a list; that of the second version always returns; and both report bad data. -/
theorem parsed_chunks_returned_iff (parser : JsonParser) (validator : Validator)
    (envelope : Json) :
    (∀ m, parser m.envelopeChunk.content = some envelope →
      EnvelopeAccepted validator V1.envelopeSchema envelope →
        ∃ messageType, envelope.getString "message_type" = .ok messageType ∧
          ((∃ chunks, v1GetParsedChunks parser m validator = .ok chunks ∧
            ReportedV1 parser validator m messageType chunks) ↔
              Reportable parser validator m envelope)) ∧
    (EnvelopeAccepted validator V2.envelopeSchema envelope →
      ∃ messageType, envelope.getString "message_type" = .ok messageType ∧
        ∃ chunks, v2GetParsedChunks ⟨envelope⟩ validator = .ok chunks ∧
          (chunks.invalidData = true ↔ ∃ data e, envelope.member? "data" = some data ∧
            validator.validate data messageType = .error e)) := by
  constructor
  · intro m parsed accepted
    have valid := envelope_valid accepted
    obtain ⟨id, idRead⟩ : ∃ id, envelope.getString "id" = .ok id :=
      build_string accepted.accepted (by simp)
    obtain ⟨messageType, typeRead⟩ : ∃ type, envelope.getString "message_type" = .ok type :=
      build_string accepted.accepted (by simp)
    refine ⟨messageType, typeRead, ?_, v1_reportable parsed valid idRead typeRead⟩
    rintro ⟨chunks, returned, _⟩
    by_contra bad
    obtain ⟨e, failed⟩ := v1_unreportable parsed valid idRead typeRead bad
    rw [returned] at failed
    cases failed
  · intro accepted
    have valid := envelope_valid accepted
    obtain ⟨id, idRead⟩ : ∃ id, envelope.getString "id" = .ok id :=
      build_string accepted.accepted (by simp)
    obtain ⟨messageType, typeRead⟩ : ∃ type, envelope.getString "message_type" = .ok type :=
      build_string accepted.accepted (by simp)
    exact ⟨messageType, typeRead, v2_returns valid idRead typeRead⟩

/-! A message of type ping, and validators with the schemas of the protocol only. -/

def pingText : Bytes := asciiBytes
  ("\x7b\"id\":\"1\",\"message_type\":\"ping\",\"expires\":\"2030-01-01T00:00:00Z\"," ++
    "\"targets\":[\"pcp:///server\"],\"sender\":\"pcp://client/agent\"\x7d")

def pingEnvelope : Json :=
  .obj [("id", .str "1"), ("message_type", .str "ping"), ("expires", .str "2030-01-01T00:00:00Z"),
    ("targets", .arr [.str "pcp:///server"]), ("sender", .str "pcp://client/agent")]

def pingParser : JsonParser := fun text => if text = pingText then some pingEnvelope else none

def protocolValidator (envelopeSchema : Schema) : Validator := ⟨[envelopeSchema], by simp⟩

theorem pingEnvelope_accepted :
    EnvelopeAccepted (protocolValidator V1.envelopeSchema) V1.envelopeSchema pingEnvelope :=
  ⟨by rfl, by decide⟩

theorem ping_without_data_returned :
    ∃ chunks, v1GetParsedChunks pingParser ⟨1, .ofContent 1 pingText, {}, []⟩
      (protocolValidator V1.envelopeSchema) = .ok chunks := by
  have parsed : pingParser (MessageChunk.ofContent 1 pingText).content = some pingEnvelope := by
    simp [pingParser, MessageChunk.ofContent]
  obtain ⟨messageType, _, returns⟩ := (parsed_chunks_returned_iff pingParser
    (protocolValidator V1.envelopeSchema) pingEnvelope).1 ⟨1, .ofContent 1 pingText, {}, []⟩ parsed
      pingEnvelope_accepted
  have good : Reportable pingParser (protocolValidator V1.envelopeSchema)
      ⟨1, .ofContent 1 pingText, {}, []⟩ pingEnvelope :=
    ⟨fun data => absurd data (by decide), by simp⟩
  obtain ⟨chunks, returned, _⟩ := returns.mpr good
  exact ⟨chunks, returned⟩

/-- The same message with a data chunk: its type has no schema. -/
theorem ping_with_data_throws :
    EnvelopeAccepted (protocolValidator V1.envelopeSchema) V1.envelopeSchema pingEnvelope ∧
      v1GetParsedChunks pingParser ⟨1, .ofContent 1 pingText, .ofContent 2 [0x31], []⟩
        (protocolValidator V1.envelopeSchema) =
          .error (.schemaNotFoundError "'ping' is not a registered schema") := by
  refine ⟨pingEnvelope_accepted, ?_⟩
  have parsed : pingParser (MessageChunk.ofContent 1 pingText).content = some pingEnvelope := by
    simp [pingParser, MessageChunk.ofContent]
  simp only [v1GetParsedChunks, JsonParser.container, parsed]
  rfl

end PcpParsedChunks
