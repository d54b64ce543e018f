import PcpClient.ErrorMessages
import PcpClient.ParsedContent
import PcpClient.WireFraming

/-!
Messages from one connector to another: what the send() functions hand to the connection, and
what the callback that the receiver has registered for the type of the message is called with.
-/
namespace PcpDelivery
open PcpOctets PcpJson PcpSchema PcpProtocol PcpSerialization PcpMessageV1 PcpWireGrammar
open PcpWireRoundTrip PcpWireFraming PcpParsedChunks PcpParsedContent PcpDispatch PcpReceived
open PcpRegistry PcpDispatchV2 PcpErrorMessages

/-! v1::Connector. -/

/-- The arguments of sendMessage(): data_txt is the text of data_json or data_binary. -/
structure Request where
  targets : List String
  messageType : String
  timeout : Nat
  destinationReport : Bool
  dataTxt : Bytes
  debug : List Json

def send (s : Sender) (r : Request) : Except Fault Bytes :=
  s.sendMessage r.targets r.messageType r.timeout r.destinationReport r.dataTxt r.debug

def envelopeOf (s : Sender) (r : Request) : Json :=
  s.envelopeContent r.targets r.messageType r.timeout r.destinationReport

def debugChunk (s : Sender) (content : Json) : MessageChunk :=
  .ofContent ChunkDescriptor.debug (s.print content)

def messageOf (s : Sender) (r : Request) : Message where
  version := 1
  envelopeChunk := .ofContent ChunkDescriptor.envelope (s.print (envelopeOf s r))
  dataChunk := .ofContent ChunkDescriptor.data r.dataTxt
  debugChunks := r.debug.map (debugChunk s)

theorem addDebug_fold (s : Sender) (debug : List Json) (m : Message) :
    debug.foldlM (fun (msg : Message) content => msg.addDebugChunk (debugChunk s content)) m =
      .ok { m with debugChunks := m.debugChunks ++ debug.map (debugChunk s) } := by
  induction debug generalizing m with
  | nil => simp [pure, Except.pure]
  | cons content debug ih =>
    have valid : validateChunk (debugChunk s content) = .ok () := ofContent_valid _ _ (by decide)
    rw [List.foldlM_cons, Message.addDebugChunk, valid]
    simp only [bind, Except.bind, pure, Except.pure]
    rw [ih]
    simp

theorem send_eq (s : Sender) (r : Request) : send s r = (messageOf s r).getSerialized := by
  have envelope := ofContent_valid ChunkDescriptor.envelope (s.print (envelopeOf s r))
    (by decide)
  have data := ofContent_valid ChunkDescriptor.data r.dataTxt (by decide)
  have folded := addDebug_fold s r.debug
  simp only [envelopeOf] at envelope
  simp only [debugChunk] at folded
  simp only [send, Sender.sendMessage, Sender.createEnvelope, Message.ofData, envelope, data,
    folded, bind, Except.bind, pure, Except.pure]
  rfl

/-- What is printed for a message fits the fields for the sizes of its chunks. -/
structure Fits (s : Sender) (r : Request) : Prop where
  envelope : (s.print (envelopeOf s r)).length < 2 ^ 32 - 6
  data : r.dataTxt.length < 2 ^ 32
  debug : ∀ content ∈ r.debug, (s.print content).length < 2 ^ 32

theorem message_chunks (s : Sender) (r : Request) : allChunks (messageOf s r) =
    (messageOf s r).envelopeChunk :: (messageOf s r).dataChunk :: r.debug.map (debugChunk s) := by
  simp [allChunks, optionalChunks, Message.hasData, messageOf, MessageChunk.ofContent,
    ChunkDescriptor.data]

theorem message_wellFormed {s : Sender} {r : Request} (fits : Fits s r) :
    WellFormed (messageOf s r) where
  version := rfl
  envelope := by
    simp only [messageOf, MessageChunk.descBit, MessageChunk.ofContent]
    decide
  small := by
    have small := fits.envelope
    simp only [messageOf, MessageChunk.ofContent]
    omega
  sized := by
    intro c mem
    have small := fits.envelope
    rw [message_chunks, List.mem_cons, List.mem_cons, List.mem_map] at mem
    rcases mem with rfl | rfl | ⟨content, listed, rfl⟩
    · exact ofContent_sized (by omega)
    · exact ofContent_sized fits.data
    · exact ofContent_sized (fits.debug content listed)
  kinds _ := by
    simp only [messageOf, isData, MessageChunk.descBit, MessageChunk.ofContent]
    decide
  debug := by
    intro d mem
    obtain ⟨content, _, rfl⟩ := List.mem_map.mp mem
    simp only [isDebug, MessageChunk.descBit, debugChunk, MessageChunk.ofContent]
    decide
  noData absent := by cases absent

/-- Data that is empty is lost if no debug content follows it. -/
def arriving (s : Sender) (r : Request) : Message :=
  if r.dataTxt = [] ∧ r.debug = [] then { messageOf s r with dataChunk := {} }
  else messageOf s r

theorem dropEmptyLast_message {s : Sender} {r : Request}
    (nonempty : ∀ content ∈ r.debug, s.print content ≠ []) :
    dropEmptyLast (messageOf s r) = arriving s r := by
  unfold dropEmptyLast arriving
  rcases List.eq_nil_or_concat r.debug with none | ⟨rest, content, some⟩
  · simp [messageOf, none, MessageChunk.ofContent]
  · have kept : (debugChunk s content).content ≠ [] := nonempty content (by simp [some])
    simp [messageOf, some, kept]

theorem send_arrives {s : Sender} {r : Request} (fits : Fits s r)
    (nonempty : ∀ content ∈ r.debug, s.print content ≠ []) :
    ∃ bytes, send s r = .ok bytes ∧ parseMessage 64 bytes = .ok (arriving s r) := by
  have handed := relay_eq (message_wellFormed fits)
  rw [dropEmptyLast_message nonempty, relay, ← send_eq] at handed
  exact bind_ok_iff.mp handed

/-! What the receiver makes of it. -/

/-- The debug content that the receiver keeps: what matches, with all its hops. -/
def keptDebug (content : Json) : Bool :=
  V1.debugSchema.accepts content && (hops content).all V1.debugItemSchema.accepts

structure Delivered (parser : JsonParser) (schema : Schema) (s : Sender) (r : Request)
    (chunks : ParsedChunks) : Prop where
  envelope : chunks.envelope = envelopeOf s r
  hasData : chunks.hasData = true ↔ r.dataTxt ≠ [] ∨ r.debug ≠ []
  binary : chunks.hasData = true → schema.contentType = .binary →
    chunks.dataType = .binary ∧ chunks.invalidData = false ∧ chunks.binaryData = r.dataTxt
  json : chunks.hasData = true → schema.contentType = .json → chunks.dataType = .json ∧
    (chunks.invalidData = false ↔
      ∃ data, parser r.dataTxt = some data ∧ schema.accepts data = true) ∧
    (chunks.invalidData = false → parser r.dataTxt = some chunks.data)
  debug : chunks.debug = r.debug.filter keptDebug
  numInvalidDebug : chunks.numInvalidDebug =
    UInt32.ofNat (r.debug.countP fun content => !keptDebug content)

theorem matches_accepts {validator : Validator} {schema : Schema} {schemaName : String}
    (found : validator.lookup schemaName = some schema) (content : Json) :
    Matches validator schemaName content = schema.accepts content := by
  rw [Bool.eq_iff_iff, matches_iff, validate_ok_iff]
  constructor
  · rintro ⟨other, looked, accepted⟩
    obtain rfl := Option.some.inj (found.symm.trans looked)
    exact accepted
  · intro accepted
    exact ⟨schema, found, accepted⟩

theorem registering_lookup (cfg : Setup) {calls : List (Schema × Nat)} {schema : Schema}
    {c : Callback}
    (registered : Registered v1Base (protocolCallbacks ++ userEntries calls) (schema, c)) :
    (Setup.registering cfg calls).registry.validator.lookup schema.name = some schema ∧
      (Setup.registering cfg calls).registry.callbacks.lookup schema.name = some c := by
  have same := registering_toMap cfg calls
  have schemas := registered_known v1Base registered
  have callbacks := (callback_iff v1Base rfl _ schema.name c).mpr ⟨schema, rfl, registered⟩
  rw [← same] at schemas callbacks
  exact ⟨schemas, callbacks⟩

theorem validDebug_printed {s : Sender} {parser : JsonParser} (registry : Registry)
    {content : Json} (printed : parser (s.print content) = some content) :
    validDebug parser registry.validator (debugChunk s content) =
      if keptDebug content then some content else none := by
  have debug := matches_accepts (registry.schemas V1.debugSchema (by simp [protocolSchemas]))
  have item := matches_accepts (registry.schemas V1.debugItemSchema (by simp [protocolSchemas]))
  have all : (hops content).all (Matches registry.validator V1.debugItemSchemaName) =
      (hops content).all V1.debugItemSchema.accepts := by
    congr 1
    exact funext item
  have read : parser (debugChunk s content).content = some content := printed
  rw [validDebug, read, Option.filter_some, all]
  rw [show Matches registry.validator V1.debugSchemaName content = _ from debug content, keptDebug]

theorem debug_delivered {s : Sender} {parser : JsonParser} (registry : Registry)
    {debug : List Json} (printed : ∀ content ∈ debug, parser (s.print content) = some content) :
    (debug.map (debugChunk s)).filterMap (validDebug parser registry.validator) =
        debug.filter keptDebug ∧
      (debug.map (debugChunk s)).countP
          (fun chunk => (validDebug parser registry.validator chunk).isNone) =
        debug.countP fun content => !keptDebug content := by
  induction debug with
  | nil => exact ⟨rfl, rfl⟩
  | cons content debug ih =>
    obtain ⟨kept, counted⟩ := ih fun other mem => printed other (List.mem_cons_of_mem _ mem)
    have first := validDebug_printed registry (printed content (by simp))
    constructor
    · rw [List.map_cons, List.filterMap_cons, first, List.filter_cons, kept]
      cases keptDebug content <;> rfl
    · rw [List.map_cons, List.countP_cons, first, List.countP_cons, counted]
      cases keptDebug content <;> rfl

theorem envelope_accepted (s : Sender) (r : Request) :
    V1.envelopeSchema.accepts (envelopeOf s r) = true := by
  cases report : r.destinationReport <;>
    simp [V1.envelopeSchema, build_accepts_iff, envelopeOf, Sender.envelopeContent, report,
      setEntry, TypeConstraint.accepts, Json.includes, Json.member?, mem_values, Json.members,
      List.lookup_cons]

theorem envelope_type (s : Sender) (r : Request) :
    (envelopeOf s r).getString "message_type" = .ok r.messageType := by
  refine getString_of_member ?_
  cases report : r.destinationReport <;>
    simp [envelopeOf, Sender.envelopeContent, report, setEntry, Json.member?, List.lookup_cons]

theorem arriving_fields (s : Sender) (r : Request) :
    (arriving s r).envelopeChunk = (messageOf s r).envelopeChunk ∧
      (arriving s r).debugChunks = r.debug.map (debugChunk s) ∧
      ((arriving s r).hasData = true ↔ r.dataTxt ≠ [] ∨ r.debug ≠ []) ∧
      ((arriving s r).hasData = true → (arriving s r).dataChunk.content = r.dataTxt) := by
  unfold arriving
  split
  · rename_i empty
    refine ⟨rfl, rfl, ⟨fun present => ?_, fun some => ?_⟩, fun present => ?_⟩
    · cases present
    · exact absurd empty (not_and_or.mpr some)
    · cases present
  · rename_i some
    exact ⟨rfl, rfl, ⟨fun _ => not_and_or.mp some, fun _ => rfl⟩, fun _ => rfl⟩

theorem delivered_returned {s : Sender} {r : Request} {parser : JsonParser} {registry : Registry}
    {schema : Schema} {chunks : ParsedChunks} (type : schema.name = r.messageType)
    (found : registry.validator.lookup schema.name = some schema)
    (envelopePrinted : parser (s.print (envelopeOf s r)) = some (envelopeOf s r))
    (debugPrinted : ∀ content ∈ r.debug, parser (s.print content) = some content)
    (returned : v1GetParsedChunks parser (arriving s r) registry.validator = .ok chunks) :
    Delivered parser schema s r chunks := by
  obtain ⟨accounts, counted⟩ := v1_returned returned
  obtain ⟨envelopeKept, debugKept, hasData, content⟩ := arriving_fields s r
  obtain ⟨debug, bad⟩ := debug_delivered registry debugPrinted
  have envelope : chunks.envelope = envelopeOf s r := by
    have parsed := accounts.envelope
    rw [envelopeKept] at parsed
    exact Option.some.inj (parsed.symm.trans envelopePrinted)
  have reported : chunks.hasData = true →
      DataReported parser registry.validator (arriving s r) schema.name chunks
        schema.contentType := by
    intro present
    obtain ⟨messageType, contentType, typeRead, known, reported⟩ :=
      accounts.data (accounts.hasData.symm.trans present)
    rw [envelope, envelope_type, ← type] at typeRead
    obtain rfl := Except.ok.inj typeRead
    rw [Validator.getSchemaContentType, found] at known
    obtain rfl := Except.ok.inj known
    exact reported
  refine ⟨envelope, by rw [accounts.hasData, hasData], fun present kind => ?_,
    fun present kind => ?_, ?_, ?_⟩
  · obtain ⟨dataType, valid, data⟩ := kind ▸ reported present
    rw [content (accounts.hasData.symm.trans present)] at data
    exact ⟨dataType, valid, data⟩
  · obtain ⟨dataType, invalid, data⟩ := kind ▸ reported present
    rw [content (accounts.hasData.symm.trans present)] at invalid data
    simp only [matches_accepts found] at invalid
    refine ⟨dataType, ?_, data⟩
    rw [← Bool.not_eq_true, invalid, not_not]
  · rw [accounts.debug, debugKept, debug]
  · rw [counted, invalidDebug, debugKept, bad]

/-- Whatever is sent, the receiver calls the callback that it has registered for the type of the
    message, and nothing else, with the envelope, the data and the debug content that were sent. -/
theorem message_delivered (s : Sender) (cfg : Setup) (calls : List (Schema × Nat))
    {schema : Schema} {c : Callback}
    (registered : Registered v1Base (protocolCallbacks ++ userEntries calls) (schema, c))
    (r : Request) (type : schema.name = r.messageType) (fits : Fits s r)
    (noText : cfg.parser [] = none)
    (envelopePrinted : cfg.parser (s.print (envelopeOf s r)) = some (envelopeOf s r))
    (debugPrinted : ∀ content ∈ r.debug, cfg.parser (s.print content) = some content) :
    ∃ bytes chunks, send s r = .ok bytes ∧
      (Setup.registering cfg calls).processMessage bytes = .callback c chunks ∧
        Delivered cfg.parser schema s r chunks := by
  have nonempty : ∀ content ∈ r.debug, s.print content ≠ [] := by
    intro content mem empty
    have read := debugPrinted content mem
    rw [empty, noText] at read
    cases read
  obtain ⟨bytes, sent, parse⟩ := send_arrives fits nonempty
  obtain ⟨found, selected⟩ := registering_lookup cfg registered
  have parsed : (Setup.registering cfg calls).parser (arriving s r).envelopeChunk.content =
      some (envelopeOf s r) := by
    rw [(arriving_fields s r).1]
    exact envelopePrinted
  have typed := envelope_type s r
  rw [← type] at typed
  rcases envelope_received _ parse parsed (envelope_accepted s r) typed with
    ⟨_, unknown, _⟩ | ⟨chunks, _, received⟩
  · rw [Validator.includesSchema, found] at unknown
    cases unknown
  · rw [selected] at received
    obtain ⟨m, parse', returned⟩ := received_returned received
    obtain rfl := Except.ok.inj (parse.symm.trans parse')
    exact ⟨bytes, chunks, sent, received,
      delivered_returned type found envelopePrinted debugPrinted returned⟩

def blobRequest : Request where
  targets := ["pcp:///server"]
  messageType := "blob"
  timeout := 10
  destinationReport := true
  dataTxt := [1, 2, 3]
  debug := [.obj [("hops", .arr [])]]

def blobEnvelopeText : Bytes :=
  asciiBytes "\x7b\"id\":\"1\",\"message_type\":\"blob\",\"targets\":[\"pcp:///server\"]," ++
    asciiBytes "\"expires\":\"2030-01-01T00:00:00Z\",\"sender\":\"pcp://client/agent\"," ++
    asciiBytes "\"destination_report\":true\x7d"

def blobDebugText : Bytes := asciiBytes "\x7b\"hops\":[]\x7d"

def blobSender : Sender where
  print := fun j => if j.includes "targets" then blobEnvelopeText else blobDebugText
  uri := "pcp://client/agent"
  msgId := "1"
  getISO8601Time := fun _ => "2030-01-01T00:00:00Z"

def blobParser : JsonParser := fun text =>
  if text = blobEnvelopeText then some (envelopeOf blobSender blobRequest)
  else if text = blobDebugText then some (.obj [("hops", .arr [])])
  else none

def blobSchema : Schema := { name := "blob", contentType := .binary }

theorem blob_lengths : blobEnvelopeText.length = 149 ∧ blobDebugText.length = 11 := by
  simp [blobEnvelopeText, blobDebugText, asciiBytes]

theorem blob_delivered : ∃ bytes chunks, send blobSender blobRequest = .ok bytes ∧
    (Setup.registering (plainSetup blobParser) [(blobSchema, 0)]).processMessage bytes =
      .callback (.registered 0) chunks ∧ chunks.binaryData = [1, 2, 3] := by
  obtain ⟨envelopeLength, debugLength⟩ := blob_lengths
  have other : blobDebugText ≠ blobEnvelopeText := fun same => by
    rw [same] at debugLength
    omega
  have envelopePrinted : blobSender.print (envelopeOf blobSender blobRequest) = blobEnvelopeText :=
    rfl
  have debugPrinted : blobSender.print (.obj [("hops", .arr [])]) = blobDebugText := rfl
  have registered : Registered v1Base (protocolCallbacks ++ userEntries [(blobSchema, 0)])
      (blobSchema, .registered 0) :=
    ⟨protocolCallbacks, [], rfl, (call_ok_iff _ _).mpr (by decide)⟩
  have empty : ([] : Bytes) ≠ blobEnvelopeText ∧ ([] : Bytes) ≠ blobDebugText := by
    constructor <;> intro same
    · simp [← same] at envelopeLength
    · simp [← same] at debugLength
  obtain ⟨bytes, chunks, sent, received, delivered⟩ :=
    message_delivered blobSender (plainSetup blobParser) [(blobSchema, 0)] registered blobRequest
      rfl ⟨by rw [envelopePrinted]; omega, by decide, fun content mem => by
        rw [List.mem_singleton.mp mem, debugPrinted]; omega⟩
      (by simp [plainSetup, blobParser, empty])
      (by simp [plainSetup, blobParser, envelopePrinted])
      (fun content mem => by
        rw [List.mem_singleton.mp mem, debugPrinted]; simp [plainSetup, blobParser, other])
  have present := delivered.hasData.mpr (.inr (by simp [blobRequest]))
  exact ⟨bytes, chunks, sent, received, (delivered.binary present rfl).2.2⟩

/-! v2::Connector. -/

section v2
variable (s : Sender) (target messageType : String) (data : Json) (inReplyTo : String)

end v2

end PcpDelivery
