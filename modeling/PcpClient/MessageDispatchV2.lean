import PcpClient.HandlerOutcome

/-!
v2::Connector: what processMessage() makes of a received text, and how it ends with the
callback that the connector registers for error messages.
-/
namespace PcpDispatchV2
open PcpOctets PcpJson PcpSchema PcpProtocol PcpParsedChunks PcpDispatch PcpRegistry PcpHandler

/-- What the handlers read: the registrations of the user, the JSON parser with the text of
    its exceptions, and whether assertions are compiled in. -/
structure SetupV2 where
  calls : List (Schema × Nat)
  parser : JsonParser
  parseErrorText : Bytes → String
  assertions : Bool

/-- The calls of registerMessageCallback(), that of the constructor first. -/
def SetupV2.entries (cfg : SetupV2) : List (Schema × Callback) :=
  (V2.errorMessageSchema, .errorMessage) :: userEntries cfg.calls

def SetupV2.registry (cfg : SetupV2) : CallbackMap := v2Base.registerAll cfg.entries

/-- What processMessage() has found: an error to log, a callback to run, nothing to do, or
    an exception that leaves it. -/
inductive ReceivedV2 where
  | rejected (error : String)
  | callback (c : Callback) (chunks : ParsedChunks)
  | ignored
  | raised (e : Raised)

def SetupV2.caughtText (cfg : SetupV2) (msgTxt : Bytes) : Raised → Option String
  | .dataParseError =>
    some ("Invalid envelope - invalid JSON content: " ++ cfg.parseErrorText msgTxt)
  | .validationError text => some ("Invalid envelope - bad content: " ++ text)
  | .schemaNotFoundError text => some ("Unknown schema: " ++ text)
  | _ => none

def myBrokerUri : String := "pcp:///server"

def readSender (envelope : Json) : Except Raised String :=
  if envelope.includes "sender" then envelope.getString "sender" else .ok myBrokerUri

def SetupV2.selectCallback (cfg : SetupV2) (m : MessageV2) : Except Raised ReceivedV2 := do
  let chunks ← v2GetParsedChunks m cfg.registry.validator
  let messageType ← chunks.envelope.getString "message_type"
  let _ ← chunks.envelope.getString "id"
  let _ ← readSender chunks.envelope
  match cfg.registry.callbacks.lookup messageType with
  | some c => return .callback c chunks
  | none => return .ignored

def SetupV2.processMessage (cfg : SetupV2) (msgTxt : Bytes) : ReceivedV2 :=
  match MessageV2.ofText cfg.parser msgTxt with
  | .error e =>
    match cfg.caughtText msgTxt e with
    | some error => .rejected error
    | none => .raised e
  | .ok m =>
    match cfg.selectCallback m with
    | .ok received => received
    | .error e => .raised e

def asString : Json → Except Raised String
  | .str s => .ok s
  | .null => .ok ""
  | _ => .error .dataTypeError

def readDescription (cfg : SetupV2) (chunks : ParsedChunks) : Except Raised String :=
  if chunks.hasData && !chunks.invalidData then
    if cfg.assertions && chunks.dataType != .json then .error .assertionFailure
    else asString chunks.data
  else .ok ""

def readErrorMessageV2 (cfg : SetupV2) (chunks : ParsedChunks) : Except Raised Citation := do
  let _ ← chunks.envelope.getString "id"
  let _ ← readSender chunks.envelope
  let description ← readDescription cfg chunks
  let causeId ← if chunks.envelope.includes "in_reply_to" then
      chunks.envelope.getString "in_reply_to"
    else pure ""
  return { causeId, error := description }

def SetupV2.handleMessage (cfg : SetupV2) (msgTxt : Bytes) : HandlerEnd :=
  match cfg.processMessage msgTxt with
  | .rejected _ | .ignored => .returned
  | .callback .errorMessage chunks =>
    match readErrorMessageV2 cfg chunks with
    | .error .assertionFailure => .aborted
    | outcome => handlerEnd outcome
  | .callback _ _ => .returned
  | .raised e => .raised e

def IllFormed (parser : JsonParser) (msgTxt : Bytes) : Prop :=
  ∀ envelope, parser msgTxt = some envelope → V2.envelopeSchema.accepts envelope = false

/-- The function returns, and an ill-formed text is logged and dropped. -/
structure Handled (cfg : SetupV2) (msgTxt : Bytes) : Prop where
  returns : cfg.handleMessage msgTxt = .returned
  dropped : IllFormed cfg.parser msgTxt → ∃ error, cfg.processMessage msgTxt = .rejected error

theorem registry_envelope_v2 (cfg : SetupV2) :
    cfg.registry.validator.lookup envelopeSchemaName = some V2.envelopeSchema :=
  (known_iff v2Base cfg.entries V2.envelopeSchema).mpr (.inl rfl)

theorem errorMessage_registered (cfg : SetupV2) :
    Registered v2Base cfg.entries (V2.errorMessageSchema, .errorMessage) :=
  ⟨[], userEntries cfg.calls, rfl, rfl⟩

theorem registry_error_v2 (cfg : SetupV2) :
    cfg.registry.validator.lookup errorMsgType = some V2.errorMessageSchema :=
  registered_known v2Base (errorMessage_registered cfg)

theorem registry_error_callback (cfg : SetupV2) :
    cfg.registry.callbacks.lookup errorMsgType = some .errorMessage :=
  (callback_iff v2Base rfl cfg.entries errorMsgType .errorMessage).mpr
    ⟨V2.errorMessageSchema, rfl, errorMessage_registered cfg⟩

theorem error_callback_type {cfg : SetupV2} {messageType : String}
    (selected : cfg.registry.callbacks.lookup messageType = some .errorMessage) :
    messageType = errorMsgType := by
  obtain ⟨schema, named, registered⟩ :=
    (callback_iff v2Base rfl cfg.entries messageType .errorMessage).mp selected
  rcases List.mem_cons.mp (registered_mem registered) with first | user
  · obtain ⟨rfl, _⟩ := Prod.mk.inj first
    exact named.symm
  · obtain ⟨call, _, same⟩ := List.mem_map.mp user
    cases congrArg Prod.snd same

theorem envelope_reads_v2 {envelope : Json} (accepted : V2.envelopeSchema.accepts envelope = true) :
    (∃ id, envelope.getString "id" = .ok id) ∧
      (∃ messageType, envelope.getString "message_type" = .ok messageType) :=
  ⟨build_string accepted (by simp), build_string accepted (by simp)⟩

theorem optional_string {envelope : Json} {field : String}
    (accepted : V2.envelopeSchema.accepts envelope = true)
    (listed : field = "sender" ∨ field = "in_reply_to")
    (included : envelope.includes field = true) : ∃ s, envelope.getString field = .ok s := by
  obtain ⟨member, found⟩ := includes_iff.mp included
  have typed : TypeConstraint.string.accepts member = true := by
    rcases listed with rfl | rfl
    · exact @build_typed _ "sender" _ .string false _ _ accepted (by simp) found
    · exact @build_typed _ "in_reply_to" _ .string false _ _ accepted (by simp) found
  cases member with
  | str s => exact ⟨s, getString_of_member found⟩
  | _ => cases typed

theorem readSender_ok {envelope : Json} (accepted : V2.envelopeSchema.accepts envelope = true) :
    ∃ sender, readSender envelope = .ok sender := by
  unfold readSender
  split
  · rename_i included
    exact optional_string accepted (.inl rfl) included
  · exact ⟨myBrokerUri, rfl⟩

structure ChunksOfV2 (cfg : SetupV2) (received : Json) (chunks : ParsedChunks) : Prop where
  envelope : chunks.envelope = received
  dataType : chunks.dataType = .json
  data : chunks.hasData = true → chunks.invalidData = false →
    received.member? "data" = some chunks.data ∧ ∀ messageType,
      received.getString "message_type" = .ok messageType →
        cfg.registry.validator.validate chunks.data messageType = .ok ()

theorem chunks_v2 (cfg : SetupV2) {envelope : Json}
    (accepted : V2.envelopeSchema.accepts envelope = true) :
    ∃ chunks, v2GetParsedChunks ⟨envelope⟩ cfg.registry.validator = .ok chunks ∧
      ChunksOfV2 cfg envelope chunks := by
  obtain ⟨⟨id, idRead⟩, messageType, typeRead⟩ := envelope_reads_v2 accepted
  have valid := validate_ok_iff.mpr ⟨V2.envelopeSchema, registry_envelope_v2 cfg, accepted⟩
  simp only [v2GetParsedChunks, valid, bind, Except.bind]
  cases included : envelope.includes "data" with
  | false => exact ⟨_, rfl, rfl, rfl, by simp⟩
  | true =>
    obtain ⟨data, found⟩ := includes_iff.mp included
    have read := entry_of_member found
    cases outcome : cfg.registry.validator.validate data messageType with
    | ok _ =>
      simp only [if_true, validateData, typeRead, read, outcome, bind, Except.bind, pure,
        Except.pure]
      refine ⟨_, rfl, rfl, rfl, fun _ _ => ⟨found, fun name named => ?_⟩⟩
      obtain rfl := Except.ok.inj (typeRead.symm.trans named)
      exact outcome
    | error e =>
      have caught := (validator_error_caught (validate_error outcome)).2
      simp only [if_true, validateData, typeRead, read, outcome, bind, Except.bind, pure,
        Except.pure, caught, idRead]
      exact ⟨_, rfl, rfl, rfl, by simp⟩

theorem returned_received {cfg : SetupV2} {msgTxt : Bytes} {envelope : Json} {messageType : String}
    {chunks : ParsedChunks} (parsed : cfg.parser msgTxt = some envelope)
    (accepted : V2.envelopeSchema.accepts envelope = true)
    (type : envelope.getString "message_type" = .ok messageType)
    (returned : v2GetParsedChunks ⟨envelope⟩ cfg.registry.validator = .ok chunks)
    (same : chunks.envelope = envelope) :
    cfg.processMessage msgTxt = match cfg.registry.callbacks.lookup messageType with
      | some c => .callback c chunks
      | none => .ignored := by
  obtain ⟨⟨id, idRead⟩, _⟩ := envelope_reads_v2 accepted
  obtain ⟨sender, senderRead⟩ := readSender_ok accepted
  simp only [SetupV2.processMessage, MessageV2.ofText, JsonParser.container, parsed,
    SetupV2.selectCallback, returned, same, type, idRead, senderRead, bind, Except.bind, pure,
    Except.pure]
  cases cfg.registry.callbacks.lookup messageType <;> rfl

theorem accepted_received (cfg : SetupV2) {msgTxt : Bytes} {envelope : Json} {messageType : String}
    (parsed : cfg.parser msgTxt = some envelope)
    (accepted : V2.envelopeSchema.accepts envelope = true)
    (type : envelope.getString "message_type" = .ok messageType) :
    ∃ chunks, ChunksOfV2 cfg envelope chunks ∧ cfg.processMessage msgTxt =
      match cfg.registry.callbacks.lookup messageType with
      | some c => .callback c chunks
      | none => .ignored := by
  obtain ⟨chunks, returned, content⟩ := chunks_v2 cfg accepted
  exact ⟨chunks, content, returned_received parsed accepted type returned content.envelope⟩

theorem unparsed_rejected {cfg : SetupV2} {msgTxt : Bytes} (unparsed : cfg.parser msgTxt = none) :
    ∃ error, cfg.processMessage msgTxt = .rejected error := by
  simp [SetupV2.processMessage, MessageV2.ofText, JsonParser.container, unparsed,
    SetupV2.caughtText, bind, Except.bind]

theorem unaccepted_raised {cfg : SetupV2} {msgTxt : Bytes} {envelope : Json}
    (parsed : cfg.parser msgTxt = some envelope)
    (rejects : V2.envelopeSchema.accepts envelope = false) :
    cfg.processMessage msgTxt =
      .raised (.validationError ("does not match schema: '" ++ envelopeSchemaName ++ "'")) := by
  simp [SetupV2.processMessage, MessageV2.ofText, JsonParser.container, parsed,
    SetupV2.selectCallback, v2GetParsedChunks, Validator.validate, registry_envelope_v2, rejects,
    bind, Except.bind, pure, Except.pure]

theorem error_message_read {cfg : SetupV2} {envelope : Json} {chunks : ParsedChunks}
    (accepted : V2.envelopeSchema.accepts envelope = true)
    (type : envelope.getString "message_type" = .ok errorMsgType)
    (content : ChunksOfV2 cfg envelope chunks) :
    ∃ citation, readErrorMessageV2 cfg chunks = .ok citation := by
  obtain ⟨⟨id, idRead⟩, _⟩ := envelope_reads_v2 accepted
  obtain ⟨sender, senderRead⟩ := readSender_ok accepted
  obtain ⟨text, description⟩ : ∃ text, readDescription cfg chunks = .ok text := by
    unfold readDescription
    split
    · rename_i present
      simp only [Bool.and_eq_true, Bool.not_eq_true'] at present
      obtain ⟨_, valid⟩ := content.data present.1 present.2
      obtain ⟨schema, found, matched⟩ := validate_ok_iff.mp (valid errorMsgType type)
      obtain rfl := Option.some.inj (found.symm.trans (registry_error_v2 cfg))
      have string := ((accepts_unparsed_iff rfl chunks.data).mp matched).1
      rw [if_neg (by simp [content.dataType])]
      cases data : chunks.data with
      | str s => exact ⟨s, rfl⟩
      | _ =>
        rw [data] at string
        cases string
    · exact ⟨"", rfl⟩
  simp only [readErrorMessageV2, content.envelope, idRead, senderRead, description, bind,
    Except.bind]
  split
  · rename_i included
    obtain ⟨cause, causeRead⟩ := optional_string accepted (.inr rfl) included
    exact ⟨_, by rw [causeRead]; rfl⟩
  · exact ⟨_, rfl⟩

theorem accepted_returned {cfg : SetupV2} {msgTxt : Bytes} {envelope : Json}
    (parsed : cfg.parser msgTxt = some envelope)
    (accepted : V2.envelopeSchema.accepts envelope = true) :
    cfg.handleMessage msgTxt = .returned := by
  obtain ⟨_, messageType, type⟩ := envelope_reads_v2 accepted
  obtain ⟨chunks, content, received⟩ := accepted_received cfg parsed accepted type
  unfold SetupV2.handleMessage
  rw [received]
  cases selected : cfg.registry.callbacks.lookup messageType with
  | none => rfl
  | some c =>
    cases c with
    | errorMessage =>
      rw [error_callback_type selected] at type
      obtain ⟨citation, read⟩ := error_message_read accepted type content
      simp only [read]
      rfl
    | _ => rfl

/-- The function returns, and drops ill-formed texts, if and only if the text is not JSON
    that fails the schema of envelopes; the exception for such a text leaves it. -/
theorem handled_iff (cfg : SetupV2) (msgTxt : Bytes) :
    (Handled cfg msgTxt ↔ ∀ envelope, cfg.parser msgTxt = some envelope →
      V2.envelopeSchema.accepts envelope = true) ∧
    ∀ envelope, cfg.parser msgTxt = some envelope → V2.envelopeSchema.accepts envelope = false →
      ∃ text, cfg.handleMessage msgTxt = .raised (.validationError text) := by
  have raises : ∀ envelope, cfg.parser msgTxt = some envelope →
      V2.envelopeSchema.accepts envelope = false →
        ∃ text, cfg.handleMessage msgTxt = .raised (.validationError text) := by
    intro envelope parsed rejects
    exact ⟨_, by rw [SetupV2.handleMessage, unaccepted_raised parsed rejects]⟩
  refine ⟨⟨?_, ?_⟩, raises⟩
  · intro handled envelope parsed
    by_contra rejects
    obtain ⟨text, raised⟩ := raises envelope parsed (by simpa using rejects)
    rw [handled.returns] at raised
    cases raised
  · intro good
    cases parsed : cfg.parser msgTxt with
    | none =>
      obtain ⟨error, rejected⟩ := unparsed_rejected parsed
      exact ⟨by simp [SetupV2.handleMessage, rejected], fun _ => ⟨error, rejected⟩⟩
    | some envelope =>
      have accepted := good envelope parsed
      refine ⟨accepted_returned parsed accepted, fun bad => ?_⟩
      rw [bad envelope parsed] at accepted
      cases accepted

def emptyObjectText : Bytes := asciiBytes "\x7b\x7d"

def emptyObjectSetup : SetupV2 where
  calls := []
  parser := fun text => if text = emptyObjectText then some .empty else none
  parseErrorText := fun _ => ""
  assertions := true

theorem empty_object_raises :
    emptyObjectSetup.handleMessage emptyObjectText =
        .raised (.validationError "does not match schema: 'envelope_schema'") ∧
      ¬Handled emptyObjectSetup emptyObjectText := by
  have raised : emptyObjectSetup.handleMessage emptyObjectText =
      .raised (.validationError "does not match schema: 'envelope_schema'") := by
    have parsed : emptyObjectSetup.parser emptyObjectText = some .empty := by
      simp [emptyObjectSetup]
    rw [SetupV2.handleMessage, unaccepted_raised parsed (by decide)]
    rfl
  refine ⟨raised, fun handled => ?_⟩
  rw [handled.returns] at raised
  cases raised

end PcpDispatchV2
