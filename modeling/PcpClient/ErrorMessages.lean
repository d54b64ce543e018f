import PcpClient.CallbackDispatch
import PcpClient.WireRoundTrip

/-!
PCP errors on the wire: what sendError() of the two connectors hands to the connection, and
what a connector of the same version makes of it.
-/
namespace PcpErrorMessages
open PcpOctets PcpJson PcpSchema PcpProtocol PcpSerialization PcpMessageV1 PcpWireGrammar
open PcpWireRoundTrip PcpParsedChunks PcpDispatch PcpReceived PcpRegistry PcpHandler PcpDispatchV2
open PcpCallbackDispatch

def setEntry (key : String) (value : Json) : List (String × Json) → List (String × Json)
  | [] => [(key, value)]
  | (name, old) :: rest =>
    if name = key then (name, value) :: rest else (name, old) :: setEntry key value rest

/-- What the builders use: toString() of a container, the URI of the client, the UUID drawn
    for the message and the text of the time after a number of seconds. -/
structure Sender where
  print : Json → Bytes
  uri : String
  msgId : String
  getISO8601Time : Nat → String

/-! v1::Connector. -/

def Sender.envelopeContent (s : Sender) (targets : List String) (messageType : String)
    (timeout : Nat) (destinationReport : Bool) : Json :=
  let members := setEntry "id" (.str s.msgId) []
  let members := setEntry "message_type" (.str messageType) members
  let members := setEntry "targets" (.arr (targets.map .str)) members
  let members := setEntry "expires" (.str (s.getISO8601Time timeout)) members
  let members := setEntry "sender" (.str s.uri) members
  .obj (if destinationReport then setEntry "destination_report" (.bool true) members else members)

def Sender.createEnvelope (s : Sender) (targets : List String) (messageType : String)
    (timeout : Nat) (destinationReport : Bool) : MessageChunk :=
  .ofContent ChunkDescriptor.envelope
    (s.print (s.envelopeContent targets messageType timeout destinationReport))

/-- Up to the call of send() of the connection. -/
def Sender.sendMessage (s : Sender) (targets : List String) (messageType : String)
    (timeout : Nat) (destinationReport : Bool) (dataTxt : Bytes) (debug : List Json) :
    Except Fault Bytes := do
  let msg ← Message.ofData (s.createEnvelope targets messageType timeout destinationReport)
    (.ofContent ChunkDescriptor.data dataTxt)
  let msg ← debug.foldlM (fun msg content =>
    msg.addDebugChunk (.ofContent ChunkDescriptor.debug (s.print content))) msg
  msg.getSerialized

def errorData (id description : String) : Json :=
  .obj (setEntry "description" (.str description) (setEntry "id" (.str id) []))

def Sender.sendError (s : Sender) (targets : List String) (timeout : Nat)
    (id description : String) : Except Fault Bytes :=
  s.sendMessage targets errorMsgType timeout false (s.print (errorData id description)) []

def Sender.errorEnvelope (s : Sender) (targets : List String) (timeout : Nat) : Json :=
  s.envelopeContent targets errorMsgType timeout false

/-! v2::Connector. -/

def Sender.envelopeContentV2 (s : Sender) (target messageType : String) (data : Json)
    (inReplyTo : String) : Json :=
  let members := setEntry "id" (.str s.msgId) []
  let members := setEntry "message_type" (.str messageType) members
  let members := setEntry "target" (.str target) members
  let members := setEntry "sender" (.str s.uri) members
  let members := setEntry "data" data members
  .obj (if inReplyTo.isEmpty then members else setEntry "in_reply_to" (.str inReplyTo) members)

def Sender.sendV2 (s : Sender) (target messageType : String) (data : Json) (inReplyTo : String) :
    Bytes :=
  s.print (s.envelopeContentV2 target messageType data inReplyTo)

def asJsonContainer (val : String) : Except Raised Json :=
  (Json.obj (setEntry "" (.str val) [])).entry ""

def Sender.sendErrorV2 (s : Sender) (target inReplyTo description : String) :
    Except Raised Bytes := do
  let errorData ← asJsonContainer description
  return s.sendV2 target errorMsgType errorData inReplyTo

theorem ofContent_valid (desc : UInt8) (content : Bytes)
    (known : (ChunkDescriptor.names.lookup (desc &&& ChunkDescriptor.typeMask)).isNone = false) :
    validateChunk (.ofContent desc content) = .ok () := by
  simp [validateChunk, MessageChunk.descBit, MessageChunk.ofContent, known]

theorem dataMessage_serialized {envelope data : Bytes} (envelopeSmall : envelope.length < 2 ^ 32)
    (dataSmall : data.length < 2 ^ 32) :
    (Message.mk 1 (.ofContent 1 envelope) (.ofContent 2 data) []).getSerialized =
      .ok (dataMessage envelope data) := by
  have chunks : allChunks ⟨1, .ofContent 1 envelope, .ofContent 2 data, []⟩ =
      [.ofContent 1 envelope, .ofContent 2 data] := by
    simp [allChunks, optionalChunks, Message.hasData, MessageChunk.ofContent]
  rw [getSerialized_ok, chunks]
  · simp [dataMessage]
  · rw [chunks]
    intro c mem
    simp only [List.mem_cons, List.not_mem_nil, or_false] at mem
    rcases mem with rfl | rfl
    · exact ofContent_sized envelopeSmall
    · exact ofContent_sized dataSmall

theorem sendError_bytes {s : Sender} {targets : List String} {timeout : Nat}
    {id description : String}
    (envelopeSmall : (s.print (s.errorEnvelope targets timeout)).length < 2 ^ 32)
    (dataSmall : (s.print (errorData id description)).length < 2 ^ 32) :
    s.sendError targets timeout id description =
      .ok (dataMessage (s.print (s.errorEnvelope targets timeout))
        (s.print (errorData id description))) := by
  have envelope := ofContent_valid ChunkDescriptor.envelope
    (s.print (s.errorEnvelope targets timeout)) (by decide)
  have data := ofContent_valid ChunkDescriptor.data
    (s.print (errorData id description)) (by decide)
  simp only [Sender.errorEnvelope] at envelope
  simp only [Sender.sendError, Sender.sendMessage, Sender.createEnvelope, Message.ofData, envelope,
    data, bind, Except.bind, pure, Except.pure, List.foldlM_nil]
  exact dataMessage_serialized envelopeSmall dataSmall

theorem errorEnvelope_accepted (s : Sender) (targets : List String) (timeout : Nat) :
    V1.envelopeSchema.accepts (s.errorEnvelope targets timeout) = true := by
  simp [V1.envelopeSchema, build_accepts_iff, Sender.errorEnvelope, Sender.envelopeContent,
    setEntry, TypeConstraint.accepts, Json.includes, Json.member?, mem_values, Json.members,
    List.lookup_cons]

theorem errorData_accepted (id description : String) :
    V1.errorMessageSchema.accepts (errorData id description) = true := by
  simp [V1.errorMessageSchema, build_accepts_iff, errorData, setEntry, TypeConstraint.accepts,
    Json.includes, Json.member?, mem_values, Json.members, List.lookup_cons]

theorem errorEnvelopeV2_accepted (s : Sender) (target inReplyTo description : String) :
    V2.envelopeSchema.accepts
      (s.envelopeContentV2 target errorMsgType (.str description) inReplyTo) = true := by
  by_cases unset : inReplyTo.isEmpty <;>
    simp [V2.envelopeSchema, build_accepts_iff, Sender.envelopeContentV2, unset, setEntry,
      TypeConstraint.accepts, Json.includes, Json.member?, mem_values, Json.members,
      List.lookup_cons]

theorem selected_chunks {cfg : Setup} {parsed chunks : ParsedChunks} {c : Callback}
    (selected : cfg.selectCallback parsed = .ok (.callback c chunks)) : parsed = chunks := by
  simp only [Setup.selectCallback, bind, Except.bind, pure, Except.pure] at selected
  repeat' split at selected
  all_goals cases selected <;> rfl

theorem received_returned {cfg : Setup} {msgTxt : Bytes} {c : Callback} {chunks : ParsedChunks}
    (received : cfg.processMessage msgTxt = .callback c chunks) :
    ∃ m, parseMessage 64 msgTxt = .ok m ∧
      v1GetParsedChunks cfg.parser m cfg.registry.validator = .ok chunks := by
  unfold Setup.processMessage at received
  split at received
  · split at received <;> cases received
  · rename_i m parse
    refine ⟨m, parse, ?_⟩
    split at received
    any_goals cases received
    rename_i parsed returned
    cases selected : cfg.selectCallback parsed with
    | error e => simp [selected] at received
    | ok other =>
      simp only [selected] at received
      subst received
      rw [returned, selected_chunks selected]

theorem invalid_empty {parser : JsonParser} {validator : Validator} {m : Message}
    {chunks : ParsedChunks} (returned : v1GetParsedChunks parser m validator = .ok chunks)
    (invalid : chunks.invalidData = true) : chunks.data = .empty := by
  simp only [v1GetParsedChunks, bind, Except.bind] at returned
  repeat' split at returned
  all_goals cases returned <;> first | rfl | cases invalid

/-- A v1 connector deserializes the bytes, finds them valid and runs its error callback once,
    on data with this id and this description. -/
structure ErrorReceived (cfg : Setup) (msgTxt : Bytes) (id description : String) : Prop where
  deserialized : ∃ m, parseMessage 64 msgTxt = .ok m
  dispatched : callbacksRun (cfg.processMessage msgTxt) = [.errorMessage]
  returns : ∀ session, handleMessage cfg session msgTxt = .returned
  content : ∀ chunks, cfg.processMessage msgTxt = .callback .errorMessage chunks →
    V1.envelopeSchema.accepts chunks.envelope = true ∧ chunks.hasData = true ∧
      chunks.invalidData = false ∧ V1.errorMessageSchema.accepts chunks.data = true ∧
      chunks.data.getString "id" = .ok id ∧
      chunks.data.getString "description" = .ok description ∧
      readErrorMessage chunks = .ok ⟨id, description⟩

structure ErrorReceivedV2 (cfg : SetupV2) (msgTxt : Bytes) (inReplyTo description : String) :
    Prop where
  dispatched : callbacksRunV2 (cfg.processMessage msgTxt) = [.errorMessage]
  returns : cfg.handleMessage msgTxt = .returned
  content : ∀ chunks, cfg.processMessage msgTxt = .callback .errorMessage chunks →
    V2.envelopeSchema.accepts chunks.envelope = true ∧ chunks.hasData = true ∧
      chunks.invalidData = false ∧ V2.errorMessageSchema.accepts chunks.data = true ∧
      chunks.data = .str description ∧
      chunks.envelope.member? "in_reply_to" =
        (if inReplyTo = "" then none else some (.str inReplyTo)) ∧
      readErrorMessageV2 cfg chunks = .ok ⟨inReplyTo, description⟩

theorem errorData_reads (id description : String) :
    (errorData id description).getString "id" = .ok id ∧
      (errorData id description).getString "description" = .ok description ∧
      (errorData id description).includes "id" = true := by
  refine ⟨?_, ?_, ?_⟩
  · exact getString_of_member (by simp [errorData, setEntry, Json.member?])
  · exact getString_of_member (by simp [errorData, setEntry, Json.member?, List.lookup_cons])
  · simp [errorData, setEntry, Json.includes, Json.member?]

theorem error_received {cfg : Setup} {envelope : Json} {envelopeTxt dataTxt : Bytes}
    {id description : String} (envelopeSmall : envelopeTxt.length < 2 ^ 32 - 6)
    (dataSmall : dataTxt.length < 2 ^ 32) (nonempty : dataTxt ≠ [])
    (envelopeParsed : cfg.parser envelopeTxt = some envelope)
    (dataParsed : cfg.parser dataTxt = some (errorData id description))
    (accepted : V1.envelopeSchema.accepts envelope = true)
    (type : envelope.getString "message_type" = .ok errorMsgType) :
    ErrorReceived cfg (dataMessage envelopeTxt dataTxt) id description := by
  have parse := dataMessage_parsed envelopeSmall dataSmall nonempty
  have valid := errorData_accepted id description
  obtain ⟨idRead, descriptionRead, included⟩ := errorData_reads id description
  have listed : (V1.errorMessageSchema, Callback.errorMessage) ∈ protocolCallbacks := by
    simp [protocolCallbacks]
  obtain ⟨chunks, received, content⟩ := protocol_received listed parse envelopeParsed accepted type
  have harmless := protocol_harmless listed parse envelopeParsed accepted type
    (by simp [Message.hasData, MessageChunk.ofContent]) dataParsed valid
  have data : chunks.data = errorData id description := by
    have read : cfg.parser (MessageChunk.ofContent 2 dataTxt).content = _ := dataParsed
    rw [content.data]
    simp only [Setup.readableData, read, valid, if_true]
    simp [Message.hasData, MessageChunk.ofContent]
  refine ⟨⟨_, parse⟩, by rw [received]; rfl, harmless.returns, fun other called => ?_⟩
  obtain ⟨_, rfl⟩ := Received.callback.inj (received.symm.trans called)
  obtain ⟨⟨messageId, messageIdRead⟩, _, sender, senderRead⟩ := envelope_reads accepted
  have kept : chunks.invalidData = false := by
    by_contra invalid
    obtain ⟨m, _, returned⟩ := received_returned received
    have empty := invalid_empty returned (by simpa using invalid)
    rw [data] at empty
    cases empty
  have hasData : chunks.hasData = true := by
    rw [content.hasData]
    simp [Message.hasData, MessageChunk.ofContent]
  rw [data, content.envelope]
  refine ⟨accepted, hasData, kept, valid, idRead, descriptionRead, ?_⟩
  simp [readErrorMessage, content.envelope, data, messageIdRead, senderRead, idRead,
    descriptionRead, included, bind, Except.bind, pure, Except.pure]

theorem asJsonContainer_ok (val : String) : asJsonContainer val = .ok (.str val) := by
  simp [asJsonContainer, setEntry, Json.entry]

theorem envelopeV2_entries (s : Sender) (target inReplyTo description : String) :
    let envelope := s.envelopeContentV2 target errorMsgType (.str description) inReplyTo
    envelope.getString "message_type" = .ok errorMsgType ∧
      envelope.member? "data" = some (.str description) ∧
      envelope.member? "in_reply_to" =
        if inReplyTo = "" then none else some (.str inReplyTo) := by
  intro envelope
  refine ⟨?_, ?_, ?_⟩
  · refine getString_of_member ?_
    by_cases unset : inReplyTo.isEmpty <;>
      simp [envelope, Sender.envelopeContentV2, unset, setEntry, Json.member?, List.lookup_cons]
  · by_cases unset : inReplyTo.isEmpty <;>
      simp [envelope, Sender.envelopeContentV2, unset, setEntry, Json.member?, List.lookup_cons]
  · by_cases unset : inReplyTo = "" <;>
      simp [envelope, Sender.envelopeContentV2, unset, setEntry, Json.member?, List.lookup_cons]

theorem valid_chunks_v2 (cfg : SetupV2) {envelope data : Json} {messageType : String}
    (accepted : V2.envelopeSchema.accepts envelope = true)
    (type : envelope.getString "message_type" = .ok messageType)
    (found : envelope.member? "data" = some data)
    (valid : cfg.registry.validator.validate data messageType = .ok ()) :
    v2GetParsedChunks ⟨envelope⟩ cfg.registry.validator =
      .ok { envelope, hasData := true, data, debug := [], numInvalidDebug := 0 } := by
  have matched := validate_ok_iff.mpr ⟨V2.envelopeSchema, registry_envelope_v2 cfg, accepted⟩
  have included : envelope.includes "data" = true := by rw [Json.includes, found]; rfl
  simp only [v2GetParsedChunks, matched, included, if_true, validateData, type,
    entry_of_member found, valid, bind, Except.bind, pure, Except.pure]

theorem error_received_v2 {cfg : SetupV2} {envelope : Json} {text : Bytes}
    {inReplyTo description : String} (parsed : cfg.parser text = some envelope)
    (accepted : V2.envelopeSchema.accepts envelope = true)
    (type : envelope.getString "message_type" = .ok errorMsgType)
    (data : envelope.member? "data" = some (.str description))
    (reply : envelope.member? "in_reply_to" =
      if inReplyTo = "" then none else some (.str inReplyTo)) :
    ErrorReceivedV2 cfg text inReplyTo description := by
  have matched : V2.errorMessageSchema.accepts (.str description) = true := rfl
  have valid := validate_ok_iff.mpr ⟨V2.errorMessageSchema, registry_error_v2 cfg, matched⟩
  have returned := valid_chunks_v2 cfg accepted type data valid
  have received := returned_received parsed accepted type returned rfl
  rw [registry_error_callback] at received
  refine ⟨by rw [received]; rfl, accepted_returned parsed accepted, fun other called => ?_⟩
  obtain ⟨_, rfl⟩ := ReceivedV2.callback.inj (received.symm.trans called)
  refine ⟨accepted, rfl, rfl, matched, rfl, reply, ?_⟩
  obtain ⟨⟨id, idRead⟩, _⟩ := envelope_reads_v2 accepted
  obtain ⟨sender, senderRead⟩ := readSender_ok accepted
  have described : readDescription cfg
      { envelope, hasData := true, data := .str description, debug := [], numInvalidDebug := 0 } =
        .ok description := by
    simp [readDescription, asString]
  by_cases unset : inReplyTo = ""
  · rw [if_pos unset] at reply
    simp [readErrorMessageV2, idRead, senderRead, described, Json.includes, reply, unset, bind,
      Except.bind, pure, Except.pure]
  · rw [if_neg unset] at reply
    have replyRead := getString_of_member reply
    simp [readErrorMessageV2, idRead, senderRead, described, Json.includes, reply, replyRead, bind,
      Except.bind, pure, Except.pure]

/-- An error that a connector sends is received by a connector of the same version, whatever
    the arguments, when the parser reads back what was printed. -/
theorem errors_received (s : Sender) (calls : List (Schema × Nat)) :
    (∀ (cfg : Setup) (targets : List String) (timeout : Nat) (id description : String),
      cfg.parser (s.print (s.errorEnvelope targets timeout)) =
        some (s.errorEnvelope targets timeout) →
      cfg.parser (s.print (errorData id description)) = some (errorData id description) →
      cfg.parser [] = none →
      (s.print (s.errorEnvelope targets timeout)).length +
        (s.print (errorData id description)).length < 2 ^ 32 - 6 →
      ∃ bytes, s.sendError targets timeout id description = .ok bytes ∧
        ErrorReceived (Setup.registering cfg calls) bytes id description) ∧
    (∀ (cfg : SetupV2) (target inReplyTo description : String),
      cfg.parser (s.print (s.envelopeContentV2 target errorMsgType (.str description) inReplyTo)) =
        some (s.envelopeContentV2 target errorMsgType (.str description) inReplyTo) →
      ∃ text, s.sendErrorV2 target inReplyTo description = .ok text ∧
        ErrorReceivedV2 { cfg with calls } text inReplyTo description) := by
  constructor
  · intro cfg targets timeout id description envelopeParsed dataParsed noText small
    have nonempty : s.print (errorData id description) ≠ [] := by
      intro empty
      rw [empty, noText] at dataParsed
      cases dataParsed
    refine ⟨_, sendError_bytes (by omega) (by omega), ?_⟩
    refine error_received (by omega) (by omega) nonempty envelopeParsed dataParsed
      (errorEnvelope_accepted s targets timeout) (getString_of_member ?_)
    simp [Sender.errorEnvelope, Sender.envelopeContent, setEntry, Json.member?, List.lookup_cons]
  · intro cfg target inReplyTo description parsed
    obtain ⟨type, data, reply⟩ := envelopeV2_entries s target inReplyTo description
    refine ⟨s.sendV2 target errorMsgType (.str description) inReplyTo, ?_, ?_⟩
    · rw [Sender.sendErrorV2, asJsonContainer_ok]
      rfl
    · exact error_received_v2 parsed (errorEnvelopeV2_accepted s target inReplyTo description) type
        data reply

/-! An error about message 2 in both versions, with the texts printed for it. -/

def errorEnvelopeText : Bytes :=
  asciiBytes "\x7b\"id\":\"1\",\"message_type\":\"http://puppetlabs.com/error_message\"," ++
    asciiBytes "\"targets\":[\"pcp:///server\"],\"expires\":\"2030-01-01T00:00:00Z\"," ++
    asciiBytes "\"sender\":\"pcp://client/agent\"\x7d"

def errorDataText : Bytes := asciiBytes "\x7b\"id\":\"2\",\"description\":\"bad\"\x7d"

def errorTextV2 : Bytes :=
  asciiBytes "\x7b\"id\":\"1\",\"message_type\":\"http://puppetlabs.com/error_message\"," ++
    asciiBytes "\"target\":\"pcp:///server\",\"sender\":\"pcp://client/agent\"," ++
    asciiBytes "\"data\":\"bad\",\"in_reply_to\":\"2\"\x7d"

def errorSender : Sender where
  print := fun j =>
    if j.includes "targets" then errorEnvelopeText
    else if j.includes "target" then errorTextV2 else errorDataText
  uri := "pcp://client/agent"
  msgId := "1"
  getISO8601Time := fun _ => "2030-01-01T00:00:00Z"

def errorParser : JsonParser := fun text =>
  if text = errorEnvelopeText then some (errorSender.errorEnvelope ["pcp:///server"] 10)
  else if text = errorDataText then some (errorData "2" "bad")
  else if text = errorTextV2 then
    some (errorSender.envelopeContentV2 "pcp:///server" errorMsgType (.str "bad") "2")
  else none

theorem error_lengths :
    errorEnvelopeText.length = 154 ∧ errorDataText.length = 30 ∧ errorTextV2.length = 149 := by
  simp [errorEnvelopeText, errorDataText, errorTextV2, asciiBytes]

theorem error_2_received :
    (∃ bytes, errorSender.sendError ["pcp:///server"] 10 "2" "bad" = .ok bytes ∧
      ErrorReceived (Setup.registering (plainSetup errorParser) []) bytes "2" "bad") ∧
    ∃ text, errorSender.sendErrorV2 "pcp:///server" "2" "bad" = .ok text ∧
      ErrorReceivedV2 ⟨[], errorParser, fun _ => "", true⟩ text "2" "bad" := by
  obtain ⟨envelopeLength, dataLength, textLength⟩ := error_lengths
  have others : errorDataText ≠ errorEnvelopeText ∧ errorTextV2 ≠ errorEnvelopeText ∧
      errorTextV2 ≠ errorDataText := by
    refine ⟨fun same => ?_, fun same => ?_, fun same => ?_⟩
    · rw [same] at dataLength
      omega
    · rw [same] at textLength
      omega
    · rw [same] at textLength
      omega
  have empty : ∀ text : Bytes, 0 < text.length → [] ≠ text := fun _ positive same => by
    rw [← same] at positive
    cases positive
  have envelopePrinted :
      errorSender.print (errorSender.errorEnvelope ["pcp:///server"] 10) = errorEnvelopeText := rfl
  have dataPrinted : errorSender.print (errorData "2" "bad") = errorDataText := rfl
  have textPrinted : errorSender.print (errorSender.envelopeContentV2 "pcp:///server" errorMsgType
      (.str "bad") "2") = errorTextV2 := rfl
  constructor
  · refine (errors_received errorSender []).1 (plainSetup errorParser) _ _ _ _ ?_ ?_ ?_ ?_
    · rw [envelopePrinted]
      simp [plainSetup, errorParser]
    · rw [dataPrinted]
      simp [plainSetup, errorParser, others]
    · have e := empty errorEnvelopeText (by omega)
      have d := empty errorDataText (by omega)
      have v := empty errorTextV2 (by omega)
      simp [plainSetup, errorParser, e, d, v]
    · rw [envelopePrinted, dataPrinted]
      omega
  · refine (errors_received errorSender []).2 ⟨[], errorParser, fun _ => "", true⟩ _ _ _ ?_
    rw [textPrinted]
    simp [errorParser, others]

end PcpErrorMessages
