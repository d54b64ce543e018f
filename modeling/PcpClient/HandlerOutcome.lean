import PcpClient.CallbackRegistry
import PcpClient.ReceivedMessages
import PcpClient.ConnectorMachine

/-!
How processMessage() of v1::Connector ends for any message received: the callbacks of the
connector run in it, and those of its user are taken to return.
-/
namespace PcpHandler
open PcpOctets PcpJson PcpSchema PcpProtocol PcpMessageV1 PcpParsedChunks PcpDispatch PcpReceived
open PcpSerialization PcpWireGrammar PcpWireParser PcpRegistry PcpConnector

inductive HandlerEnd where
  | returned
  | raised (e : Raised)
  | aborted
  deriving DecidableEq, Repr

def handlerEnd {α : Type} : Except Raised α → HandlerEnd
  | .ok _ => .returned
  | .error e => .raised e

def associateResponseCallback (cfg : Setup) (session : SessionAssociation)
    (chunks : ParsedChunks) : HandlerEnd :=
  if cfg.assertsHold chunks then
    match readAssociateResponse chunks with
    | .error e => .raised e
    | .ok r =>
      if !session.inProgress then .returned
      else if r.requestId != session.requestId then .returned
      else if r.success then .returned
      else handlerEnd (failureReason chunks.data)
  else .aborted

/-- Up to the test of in_progress, after which nothing raises. -/
def errorMessageCallback (cfg : Setup) (chunks : ParsedChunks) : HandlerEnd :=
  if cfg.assertsHold chunks then handlerEnd (readErrorMessage chunks) else .aborted

def TTLMessageCallback (cfg : Setup) (chunks : ParsedChunks) : HandlerEnd :=
  if cfg.assertsHold chunks then handlerEnd (readTTLMessage chunks) else .aborted

def handleMessage (cfg : Setup) (session : SessionAssociation) (msgTxt : Bytes) : HandlerEnd :=
  match cfg.processMessage msgTxt with
  | .rejected _ | .ignored | .callback (.registered _) _ => .returned
  | .callback .associateResponse chunks => associateResponseCallback cfg session chunks
  | .callback .errorMessage chunks => errorMessageCallback cfg chunks
  | .callback .ttlMessage chunks => TTLMessageCallback cfg chunks
  | .raised e => .raised e
  | .aborted => .aborted

structure EntryRead where
  container : Json
  key : String
  type : TypeConstraint

def EntryRead.Holds (r : EntryRead) : Prop :=
  ∃ member, r.container.member? r.key = some member ∧ r.type.accepts member = true

def optionalRead (data : Json) (key : String) : List EntryRead :=
  if data.includes key then [⟨data, key, .string⟩] else []

def callbackReads (chunks : ParsedChunks) : Callback → List EntryRead
  | .associateResponse =>
    [⟨chunks.envelope, "id", .string⟩, ⟨chunks.envelope, "sender", .string⟩,
      ⟨chunks.data, "success", .bool⟩, ⟨chunks.data, "id", .string⟩] ++
      optionalRead chunks.data "reason"
  | .errorMessage =>
    [⟨chunks.envelope, "id", .string⟩, ⟨chunks.envelope, "sender", .string⟩,
      ⟨chunks.data, "description", .string⟩] ++ optionalRead chunks.data "id"
  | .ttlMessage =>
    [⟨chunks.envelope, "id", .string⟩, ⟨chunks.data, "id", .string⟩,
      ⟨chunks.envelope, "sender", .string⟩]
  | .registered _ => []

/-- In every state of the session the function returns, the assertions of the callback that
    runs hold, and every entry it reads is there with its type. -/
structure Harmless (cfg : Setup) (msgTxt : Bytes) : Prop where
  returns : ∀ session, handleMessage cfg session msgTxt = .returned
  asserted : ∀ p ∈ protocolCallbacks, ∀ chunks, cfg.processMessage msgTxt = .callback p.2 chunks →
    chunks.hasData = true ∧ chunks.dataType = .json
  entries : ∀ c chunks, cfg.processMessage msgTxt = .callback c chunks →
    ∀ r ∈ callbackReads chunks c, r.Holds

/-- A message of a type of the protocol, with an accepted envelope, whose data is missing,
    is not JSON or does not match the schema of its type. -/
def BadData (parser : JsonParser) (msgTxt : Bytes) : Prop :=
  ∃ m envelope, ∃ p ∈ protocolCallbacks, parseMessage 64 msgTxt = .ok m ∧
    parser m.envelopeChunk.content = some envelope ∧
    V1.envelopeSchema.accepts envelope = true ∧
    envelope.getString "message_type" = .ok p.1.name ∧
    (m.hasData = true → ∀ data, parser m.dataChunk.content = some data →
      p.1.accepts data = false)

theorem getString_holds {j : Json} {key : String} (holds : EntryRead.Holds ⟨j, key, .string⟩) :
    ∃ s, j.getString key = .ok s := by
  obtain ⟨member, found, typed⟩ := holds
  cases member with
  | str s => exact ⟨s, getString_of_member found⟩
  | _ => cases typed

theorem getBool_holds {j : Json} {key : String} (holds : EntryRead.Holds ⟨j, key, .bool⟩) :
    ∃ b, j.getBool key = .ok b := by
  obtain ⟨member, found, typed⟩ := holds
  cases member with
  | bool b => exact ⟨b, getBool_of_member found⟩
  | _ => cases typed

theorem associateResponse_returned {cfg : Setup} {chunks : ParsedChunks}
    (session : SessionAssociation) (asserted : cfg.assertsHold chunks = true)
    (entries : ∀ r ∈ callbackReads chunks .associateResponse, r.Holds) :
    associateResponseCallback cfg session chunks = .returned := by
  obtain ⟨id, idRead⟩ := getString_holds (entries ⟨chunks.envelope, "id", .string⟩
    (by simp [callbackReads]))
  obtain ⟨sender, senderRead⟩ := getString_holds (entries ⟨chunks.envelope, "sender", .string⟩
    (by simp [callbackReads]))
  obtain ⟨success, successRead⟩ := getBool_holds (entries ⟨chunks.data, "success", .bool⟩
    (by simp [callbackReads]))
  obtain ⟨requestId, requestRead⟩ := getString_holds (entries ⟨chunks.data, "id", .string⟩
    (by simp [callbackReads]))
  have read : readAssociateResponse chunks = .ok ⟨requestId, success⟩ := by
    simp [readAssociateResponse, idRead, senderRead, successRead, requestRead, bind, Except.bind,
      pure, Except.pure]
  have reason : handlerEnd (failureReason chunks.data) = .returned := by
    unfold failureReason
    cases included : chunks.data.includes "reason" with
    | false => rfl
    | true =>
      obtain ⟨text, textRead⟩ := getString_holds (entries ⟨chunks.data, "reason", .string⟩
        (by simp [callbackReads, optionalRead, included]))
      rw [if_pos rfl, textRead]
      rfl
  simp only [associateResponseCallback, asserted, if_true, read, reason]
  simp

theorem errorMessage_returned {cfg : Setup} {chunks : ParsedChunks}
    (asserted : cfg.assertsHold chunks = true)
    (entries : ∀ r ∈ callbackReads chunks .errorMessage, r.Holds) :
    errorMessageCallback cfg chunks = .returned := by
  obtain ⟨id, idRead⟩ := getString_holds (entries ⟨chunks.envelope, "id", .string⟩
    (by simp [callbackReads]))
  obtain ⟨sender, senderRead⟩ := getString_holds (entries ⟨chunks.envelope, "sender", .string⟩
    (by simp [callbackReads]))
  obtain ⟨text, textRead⟩ := getString_holds (entries ⟨chunks.data, "description", .string⟩
    (by simp [callbackReads]))
  simp only [errorMessageCallback, asserted, if_true, readErrorMessage, idRead, senderRead,
    textRead, bind, Except.bind]
  cases included : chunks.data.includes "id" with
  | false => rfl
  | true =>
    obtain ⟨cause, causeRead⟩ := getString_holds (entries ⟨chunks.data, "id", .string⟩
      (by simp [callbackReads, optionalRead, included]))
    simp only [if_true, causeRead]
    rfl

theorem ttlMessage_returned {cfg : Setup} {chunks : ParsedChunks}
    (asserted : cfg.assertsHold chunks = true)
    (entries : ∀ r ∈ callbackReads chunks .ttlMessage, r.Holds) :
    TTLMessageCallback cfg chunks = .returned := by
  obtain ⟨id, idRead⟩ := getString_holds (entries ⟨chunks.envelope, "id", .string⟩
    (by simp [callbackReads]))
  obtain ⟨cause, causeRead⟩ := getString_holds (entries ⟨chunks.data, "id", .string⟩
    (by simp [callbackReads]))
  obtain ⟨sender, senderRead⟩ := getString_holds (entries ⟨chunks.envelope, "sender", .string⟩
    (by simp [callbackReads]))
  simp only [TTLMessageCallback, asserted, if_true, readTTLMessage, idRead, senderRead, causeRead,
    bind, Except.bind]
  rfl

theorem callback_returned {cfg : Setup} {msgTxt : Bytes} {c : Callback} {chunks : ParsedChunks}
    (session : SessionAssociation) (received : cfg.processMessage msgTxt = .callback c chunks)
    (asserted : cfg.assertsHold chunks = true) (entries : ∀ r ∈ callbackReads chunks c, r.Holds) :
    handleMessage cfg session msgTxt = .returned := by
  unfold handleMessage
  rw [received]
  cases c with
  | associateResponse => exact associateResponse_returned session asserted entries
  | errorMessage => exact errorMessage_returned asserted entries
  | ttlMessage => exact ttlMessage_returned asserted entries
  | registered i => rfl

theorem accepted_holds {name field : String} {fields : List (String × TypeConstraint × Bool)}
    {type : TypeConstraint} {value : Json}
    (accepted : (Schema.build name fields).accepts value = true)
    (listed : (field, type, true) ∈ fields) : EntryRead.Holds ⟨value, field, type⟩ :=
  build_required accepted listed

theorem optional_holds {name field : String} {fields : List (String × TypeConstraint × Bool)}
    {value : Json} (accepted : (Schema.build name fields).accepts value = true)
    (listed : (field, .string, false) ∈ fields) :
    ∀ r ∈ optionalRead value field, r.Holds := by
  intro r mem
  unfold optionalRead at mem
  split at mem
  · rename_i included
    obtain rfl := List.mem_singleton.mp mem
    obtain ⟨member, found⟩ := includes_iff.mp included
    exact ⟨member, found, build_typed accepted listed found⟩
  · cases mem

theorem accepted_entries {p : Schema × Callback} (listed : p ∈ protocolCallbacks)
    {chunks : ParsedChunks} (envelope : V1.envelopeSchema.accepts chunks.envelope = true)
    (data : p.1.accepts chunks.data = true) : ∀ r ∈ callbackReads chunks p.2, r.Holds := by
  have id : EntryRead.Holds ⟨chunks.envelope, "id", .string⟩ :=
    accepted_holds envelope (by simp)
  have sender : EntryRead.Holds ⟨chunks.envelope, "sender", .string⟩ :=
    accepted_holds envelope (by simp)
  simp only [protocolCallbacks, List.mem_cons, List.not_mem_nil, or_false] at listed
  rcases listed with rfl | rfl | rfl
  · simp only [callbackReads, List.forall_mem_append, List.forall_mem_cons]
    exact ⟨⟨id, sender, accepted_holds data (by simp), accepted_holds data (by simp), by simp⟩,
      optional_holds data (by simp)⟩
  · simp only [callbackReads, List.forall_mem_append, List.forall_mem_cons]
    exact ⟨⟨id, sender, accepted_holds data (by simp), by simp⟩, optional_holds data (by simp)⟩
  · simp only [callbackReads, List.forall_mem_cons]
    exact ⟨id, accepted_holds data (by simp), sender, by simp⟩

theorem selected_callback {cfg : Setup} {calls : List (Schema × Nat)} {messageType : String}
    {c : Callback}
    (selected : (Setup.registering cfg calls).registry.callbacks.lookup messageType = some c) :
    (∃ p ∈ protocolCallbacks, p.1.name = messageType ∧ p.2 = c) ∨ ∃ i, c = .registered i := by
  have found : (v1Base.registerAll (protocolCallbacks ++ userEntries calls)).callbacks.lookup
      messageType = some c := by
    rw [← registering_toMap cfg calls]
    exact selected
  obtain ⟨schema, named, registered⟩ := (callback_iff v1Base rfl _ messageType c).mp found
  rcases List.mem_append.mp (registered_mem registered) with protocol | user
  · exact .inl ⟨(schema, c), protocol, named, rfl⟩
  · obtain ⟨call, _, same⟩ := List.mem_map.mp user
    exact .inr ⟨call.2, (congrArg Prod.snd same).symm⟩

theorem harmless_of_silent {cfg : Setup} {msgTxt : Bytes}
    (silent : ∀ c chunks, cfg.processMessage msgTxt ≠ .callback c chunks)
    (returns : ∀ session, handleMessage cfg session msgTxt = .returned) : Harmless cfg msgTxt :=
  ⟨returns, fun p _ chunks received => absurd received (silent p.2 chunks),
    fun c chunks received => absurd received (silent c chunks)⟩

theorem rejected_harmless {cfg : Setup} {msgTxt : Bytes} {error : String}
    (rejected : cfg.processMessage msgTxt = .rejected error) : Harmless cfg msgTxt :=
  harmless_of_silent (by simp [rejected]) (by simp [handleMessage, rejected])

theorem ignored_harmless {cfg : Setup} {msgTxt : Bytes}
    (ignored : cfg.processMessage msgTxt = .ignored) : Harmless cfg msgTxt :=
  harmless_of_silent (by simp [ignored]) (by simp [handleMessage, ignored])

theorem user_harmless {cfg : Setup} {msgTxt : Bytes} {i : Nat} {chunks : ParsedChunks}
    (received : cfg.processMessage msgTxt = .callback (.registered i) chunks) :
    Harmless cfg msgTxt where
  returns session := by simp [handleMessage, received]
  asserted := by
    intro p listed other called
    rw [received] at called
    simp only [protocolCallbacks, List.mem_cons, List.not_mem_nil, or_false] at listed
    rcases listed with rfl | rfl | rfl <;> cases called
  entries := by
    intro c other called r mem
    rw [received] at called
    cases called
    cases mem

theorem protocol_harmless {cfg : Setup} {msgTxt : Bytes} {m : Message} {envelope data : Json}
    {p : Schema × Callback} (listed : p ∈ protocolCallbacks)
    (parse : parseMessage 64 msgTxt = .ok m)
    (parsed : cfg.parser m.envelopeChunk.content = some envelope)
    (accepted : V1.envelopeSchema.accepts envelope = true)
    (type : envelope.getString "message_type" = .ok p.1.name) (hasData : m.hasData = true)
    (read : cfg.parser m.dataChunk.content = some data) (valid : p.1.accepts data = true) :
    Harmless cfg msgTxt := by
  obtain ⟨chunks, received, content⟩ := protocol_received listed parse parsed accepted type
  have present : chunks.hasData = true := by rw [content.hasData, hasData]
  have same : chunks.data = data := by
    simp [content.data, Setup.readableData, hasData, read, valid]
  have entries : ∀ r ∈ callbackReads chunks p.2, r.Holds :=
    accepted_entries listed (by rw [content.envelope, accepted]) (by rw [same, valid])
  refine ⟨fun session => ?_, ?_, ?_⟩
  · have asserted : cfg.assertsHold chunks = true := by
      simp [Setup.assertsHold, present, content.dataType]
    exact callback_returned session received asserted entries
  · intro q _ other called
    obtain ⟨_, rfl⟩ := Received.callback.inj (received.symm.trans called)
    exact ⟨present, content.dataType⟩
  · intro c other called
    rw [received] at called
    cases called
    exact entries

theorem handlerEnd_not_aborted {α : Type} (outcome : Except Raised α) :
    handlerEnd outcome ≠ .aborted := by
  cases outcome <;> simp [handlerEnd]

theorem response_aborted_iff (cfg : Setup) (session : SessionAssociation) (chunks : ParsedChunks) :
    associateResponseCallback cfg session chunks = .aborted ↔ cfg.assertsHold chunks = false := by
  unfold associateResponseCallback
  cases cfg.assertsHold chunks with
  | false => simp
  | true =>
    simp only [if_true, reduceCtorEq, iff_false]
    repeat' split
    all_goals first | exact handlerEnd_not_aborted _ | simp

theorem response_raised {cfg : Setup} {s : Connector} {chunks : ParsedChunks} {e : Raised}
    (raised : associateResponseCallback cfg s.session chunks = .raised e) :
    s.respond cfg chunks = { s with loop := .idle } := by
  unfold associateResponseCallback at raised
  unfold Connector.respond
  cases read : readAssociateResponse chunks with
  | error other => rfl
  | ok r =>
    rw [read] at raised
    cases asserted : cfg.assertsHold chunks <;> cases progress : s.session.inProgress <;>
      simp [asserted, progress] at raised
    by_cases same : r.requestId = s.session.requestId
    · cases success : r.success <;> simp [same, success] at raised
      cases reason : failureReason chunks.data with
      | error other => simp [same, success]
      | ok text => simp [reason, handlerEnd] at raised
    · simp [same] at raised

/-- The steps of the connector follow the handler: the process ends where an assertion
    fails, and a response whose callback raises is dropped. -/
theorem handler_steps (cfg : Setup) (s : Connector) (msgTxt : Bytes) :
    (onMessage cfg msgTxt = .aborted ↔ handleMessage cfg s.session msgTxt = .aborted) ∧
      ∀ chunks e, onMessage cfg msgTxt = .response chunks →
        handleMessage cfg s.session msgTxt = .raised e →
          s.respond cfg chunks = { s with loop := .idle } := by
  unfold onMessage handleMessage
  cases cfg.processMessage msgTxt with
  | rejected error => simp
  | ignored => simp
  | raised e => simp
  | aborted => simp
  | callback c chunks =>
    cases c with
    | registered i => simp
    | errorMessage =>
      cases asserted : cfg.assertsHold chunks <;> cases read : readErrorMessage chunks <;>
        cases cfg.errorCallback <;>
        simp [errorMessageCallback, asserted, read, handlerEnd, citationPc]
    | ttlMessage =>
      cases asserted : cfg.assertsHold chunks <;> cases read : readTTLMessage chunks <;>
        cases cfg.ttlExpiredCallback <;>
        simp [TTLMessageCallback, asserted, read, handlerEnd, citationPc]
    | associateResponse =>
      dsimp only
      rw [response_aborted_iff]
      cases asserted : cfg.assertsHold chunks with
      | false => simp
      | true =>
        simp only [if_true, reduceCtorEq, true_and]
        intro other e same raised
        obtain rfl := LoopPc.response.inj same
        exact response_raised raised

theorem empty_not_returned {p : Schema × Callback} (listed : p ∈ protocolCallbacks) {cfg : Setup}
    {msgTxt : Bytes} {chunks : ParsedChunks} (session : SessionAssociation)
    (received : cfg.processMessage msgTxt = .callback p.2 chunks)
    (accepted : V1.envelopeSchema.accepts chunks.envelope = true) (empty : chunks.data = .empty) :
    handleMessage cfg session msgTxt ≠ .returned := by
  obtain ⟨⟨id, idRead⟩, _, sender, senderRead⟩ := envelope_reads accepted
  have noString : ∀ key, Json.empty.getString key = .error (.dataKeyError key) := fun _ => rfl
  have noBool : ∀ key, Json.empty.getBool key = .error (.dataKeyError key) := fun _ => rfl
  unfold handleMessage
  rw [received]
  simp only [protocolCallbacks, List.mem_cons, List.not_mem_nil, or_false] at listed
  rcases listed with rfl | rfl | rfl
  · have read : readAssociateResponse chunks = .error (.dataKeyError "success") := by
      simp [readAssociateResponse, idRead, senderRead, empty, noBool, bind, Except.bind]
    simp only [associateResponseCallback, read]
    split <;> simp
  · have read : readErrorMessage chunks = .error (.dataKeyError "description") := by
      simp [readErrorMessage, idRead, senderRead, empty, noString, bind, Except.bind]
    simp only [errorMessageCallback, read]
    split <;> simp [handlerEnd]
  · have read : readTTLMessage chunks = .error (.dataKeyError "id") := by
      simp [readTTLMessage, idRead, empty, noString, bind, Except.bind]
    simp only [TTLMessageCallback, read]
    split <;> simp [handlerEnd]

theorem badData_not_returned (cfg : Setup) {msgTxt : Bytes} (bad : BadData cfg.parser msgTxt)
    (session : SessionAssociation) : handleMessage cfg session msgTxt ≠ .returned := by
  obtain ⟨m, envelope, p, listed, parse, parsed, accepted, type, noData⟩ := bad
  obtain ⟨chunks, received, content⟩ := protocol_received listed parse parsed accepted type
  have empty : chunks.data = .empty := by
    rw [content.data, Setup.readableData]
    split
    · rename_i hasData
      cases read : cfg.parser m.dataChunk.content with
      | none => rfl
      | some data => simp [noData hasData data read]
    · rfl
  exact empty_not_returned listed session received (by rw [content.envelope, accepted]) empty

/-- In every state of the connector the function returns, with the assertions and the reads
    of its callbacks, if and only if the message is not one of the protocol with bad data;
    with such a message it never returns. -/
theorem harmless_iff (cfg : Setup) (calls : List (Schema × Nat)) (msgTxt : Bytes) :
    (Harmless (Setup.registering cfg calls) msgTxt ↔ ¬BadData cfg.parser msgTxt) ∧
      (BadData cfg.parser msgTxt →
        ∀ session, handleMessage (Setup.registering cfg calls) session msgTxt ≠ .returned) := by
  have never : BadData cfg.parser msgTxt →
      ∀ session, handleMessage (Setup.registering cfg calls) session msgTxt ≠ .returned :=
    fun bad session => badData_not_returned (Setup.registering cfg calls) bad session
  refine ⟨⟨fun harmless bad => never bad {} (harmless.returns {}), fun good => ?_⟩, never⟩
  by_cases undeserialized : Undeserializable msgTxt
  · obtain ⟨error, rejected⟩ := undeserializable_rejected undeserialized
    exact rejected_harmless rejected
  · obtain ⟨m, parse⟩ : ∃ m, parseMessage 64 msgTxt = .ok m := by
      simpa [Undeserializable] using undeserialized
    by_cases unaccepted : BadEnvelope (Setup.registering cfg calls) msgTxt
    · obtain ⟨error, rejected⟩ := badEnvelope_rejected unaccepted
      exact rejected_harmless rejected
    · obtain ⟨envelope, parsed, accepted⟩ : ∃ envelope,
          cfg.parser m.envelopeChunk.content = some envelope ∧
            V1.envelopeSchema.accepts envelope = true := by
        by_contra none
        refine unaccepted ⟨m, parse, fun envelope parsed => ?_⟩
        by_contra accepted
        exact none ⟨envelope, parsed, by simpa using accepted⟩
      obtain ⟨_, ⟨messageType, type⟩, _⟩ := envelope_reads accepted
      rcases envelope_received (Setup.registering cfg calls) parse parsed accepted type with
        ⟨_, _, error, rejected⟩ | ⟨chunks, _, received⟩
      · exact rejected_harmless rejected
      · cases selected :
            (Setup.registering cfg calls).registry.callbacks.lookup messageType with
        | none => exact ignored_harmless (by rw [received, selected])
        | some c =>
          rcases selected_callback selected with ⟨p, listed, named, _⟩ | ⟨i, rfl⟩
          · rw [← named] at type
            obtain ⟨hasData, data, read, valid⟩ : m.hasData = true ∧ ∃ data,
                cfg.parser m.dataChunk.content = some data ∧ p.1.accepts data = true := by
              by_contra none
              refine good ⟨m, envelope, p, listed, parse, parsed, accepted, type, ?_⟩
              intro hasData data read
              by_contra valid
              exact none ⟨hasData, data, read, by simpa using valid⟩
            exact protocol_harmless listed parse parsed accepted type hasData read valid
          · rw [selected] at received
            exact user_harmless received

/-! An Associate Session response without a data chunk. -/

def envelopeMessage (envelope : Bytes) : Bytes := 1 :: octets (.ofContent 1 envelope)

theorem envelopeMessage_parsed (envelope : Bytes) (small : envelope.length < 2 ^ 32 - 6) :
    parseMessage 64 (envelopeMessage envelope) = .ok ⟨1, .ofContent 1 envelope, {}, []⟩ := by
  have isEnvelope : (MessageChunk.ofContent 1 envelope).descBit = ChunkDescriptor.envelope := by
    simp only [MessageChunk.descBit, MessageChunk.ofContent]
    decide
  refine (parseMessage_ok_iff _ (.inl (by omega)) _).mpr ⟨.ofContent 1 envelope, [], [], ?_, rfl⟩
  refine ⟨⟨[], by simp [envelopeMessage], rfl, by simp⟩, isEnvelope, ofContent_sized (by omega),
    ?_, by simp⟩
  simp only [MessageChunk.ofContent]
  omega

def responseSetup (assertions : Bool) : Setup :=
  Setup.registering { plainSetup (responseParser [] none) with assertions } []

theorem envelope_only_received (assertions : Bool) :
    ∃ chunks, (responseSetup assertions).processMessage (envelopeMessage responseEnvelopeText) =
        .callback .associateResponse chunks ∧
      chunks.envelope = responseEnvelope ∧ chunks.hasData = false ∧ chunks.data = .empty := by
  have length := responseEnvelopeText_length
  have parse := envelopeMessage_parsed responseEnvelopeText (by omega)
  have read : responseParser [] none responseEnvelopeText = some responseEnvelope :=
    responseEnvelope_parsed (by rw [length]; simp)
  have parsed : (responseSetup assertions).parser
      (MessageChunk.ofContent 1 responseEnvelopeText).content = some responseEnvelope := by
    simpa only [Setup.registering, responseSetup, plainSetup, MessageChunk.ofContent] using read
  obtain ⟨chunks, received, content⟩ := protocol_received
    (p := (V1.associateResponseSchema, .associateResponse)) (List.mem_cons_self ..) parse parsed
    responseEnvelope_accepted rfl
  exact ⟨chunks, received, content.envelope, content.hasData, content.data⟩

theorem response_without_data :
    handleMessage (responseSetup true) {} (envelopeMessage responseEnvelopeText) = .aborted ∧
      handleMessage (responseSetup false) {} (envelopeMessage responseEnvelopeText) =
        .raised (.dataKeyError "success") := by
  constructor
  · obtain ⟨chunks, received, _, noData, _⟩ := envelope_only_received true
    have fails : (responseSetup true).assertsHold chunks = false := by
      rw [Setup.assertsHold, noData]
      rfl
    simp [handleMessage, received, associateResponseCallback, fails]
  · obtain ⟨chunks, received, envelope, _, empty⟩ := envelope_only_received false
    have skipped : (responseSetup false).assertsHold chunks = true := rfl
    have unread : readAssociateResponse chunks = .error (.dataKeyError "success") := by
      rw [readAssociateResponse, envelope, empty]
      rfl
    simp [handleMessage, received, associateResponseCallback, skipped, unread]

end PcpHandler
