import PcpClient.ParsedChunks

/-!
The registered schemas and callbacks of v1::Connector, and what processMessage() makes
of a received message before any callback runs.
-/
namespace PcpDispatch
open PcpOctets PcpJson PcpSchema PcpProtocol PcpMessageV1 PcpSerialization PcpParsedChunks

/-- The message callbacks: those of the connector and those registered by its user. -/
inductive Callback where
  | associateResponse | errorMessage | ttlMessage
  | registered (index : Nat)
  deriving DecidableEq, Repr

def protocolCallbacks : List (Schema × Callback) :=
  [(V1.associateResponseSchema, .associateResponse), (V1.errorMessageSchema, .errorMessage),
    (V1.ttlExpiredSchema, .ttlMessage)]

def protocolSchemas : List Schema :=
  [V1.envelopeSchema, V1.debugSchema, V1.debugItemSchema] ++ protocolCallbacks.map Prod.fst

structure Registry where
  validator : Validator
  callbacks : List (String × Callback)
  schemas : ∀ s ∈ protocolSchemas, validator.lookup s.name = some s
  protocol : ∀ p ∈ protocolCallbacks, callbacks.lookup p.1.name = some p.2
  known : ∀ name callback, callbacks.lookup name = some callback →
    validator.includesSchema name = true

theorem lookup_snoc_old {v : Validator} {name : String} {s : Schema} (schema : Schema)
    (found : v.lookup name = some s)
    (distinct : ((v.schemaMap ++ [schema]).map Schema.name).Nodup) :
    (Validator.mk (v.schemaMap ++ [schema]) distinct).lookup name = some s := by
  simp only [Validator.lookup, List.find?_append] at found ⊢
  simp [found]

theorem callbacks_snoc_old {callbacks : List (String × Callback)} {name : String}
    {callback : Callback} (entry : String × Callback)
    (found : callbacks.lookup name = some callback) :
    (callbacks ++ [entry]).lookup name = some callback := by
  rw [List.lookup_append, found]
  rfl

def Registry.create : Registry where
  validator := ⟨protocolSchemas, by decide⟩
  callbacks := protocolCallbacks.map fun p => (p.1.name, p.2)
  schemas := by
    intro s mem
    simp only [protocolSchemas, protocolCallbacks, List.map_cons, List.map_nil, List.cons_append,
      List.nil_append, List.mem_cons, List.not_mem_nil, or_false] at mem
    rcases mem with rfl | rfl | rfl | rfl | rfl | rfl <;> rfl
  protocol := by
    intro p mem
    simp only [protocolCallbacks, List.mem_cons, List.not_mem_nil, or_false] at mem
    rcases mem with rfl | rfl | rfl <;> rfl
  known := by
    intro name callback found
    obtain ⟨before, after, split, _⟩ := List.lookup_eq_some_iff.mp found
    obtain ⟨p, listed, same⟩ := List.mem_map.mp (show (name, callback) ∈
      protocolCallbacks.map fun p => (p.1.name, p.2) by rw [split]; simp)
    refine List.find?_isSome.mpr ⟨p.1, ?_, by simpa using congrArg Prod.fst same⟩
    exact List.mem_append_right _ (List.mem_map_of_mem listed)

def Registry.registerMessageCallback (r : Registry) (schema : Schema) (callback : Callback) :
    Except Raised Registry :=
  if included : r.validator.includesSchema schema.name = true then
    .error (.schemaRedefinitionError ("schema '" ++ schema.name ++ "' already defined"))
  else .ok {
    validator := ⟨r.validator.schemaMap ++ [schema], distinct_snoc included⟩
    callbacks := r.callbacks ++ [(schema.name, callback)]
    schemas := fun s mem => lookup_snoc_old schema (r.schemas s mem) _
    protocol := fun p mem => callbacks_snoc_old _ (r.protocol p mem)
    known := by
      intro name other found
      rw [List.lookup_append] at found
      cases earlier : r.callbacks.lookup name with
      | some first =>
        obtain ⟨s, old⟩ := Option.isSome_iff_exists.mp (r.known name first earlier)
        exact Option.isSome_iff_exists.mpr ⟨s, lookup_snoc_old schema old _⟩
      | none =>
        rw [earlier] at found
        simp only [Option.none_or, List.lookup_cons, List.lookup_nil] at found
        split at found
        · rename_i same
          rw [eq_of_beq same]
          simp [Validator.includesSchema, Validator.lookup, List.find?_append]
        · cases found }

/-- What the handlers read and never write: the registry, the JSON parser with the text
    of its exceptions, whether assertions are compiled in, and which of the optional
    callbacks are set. -/
structure Setup where
  registry : Registry
  parser : JsonParser
  parseErrorText : Bytes → String
  assertions : Bool
  associateResponseCallback : Bool
  errorCallback : Bool
  ttlExpiredCallback : Bool

/-- What processMessage() has found: an error to report, a callback to run, nothing to
    do, an exception that leaves it, or a failed assertion. -/
inductive Received where
  | rejected (error : String)
  | callback (c : Callback) (chunks : ParsedChunks)
  | ignored
  | raised (e : Raised)
  | aborted

def messageError : Fault → Option String
  | .messageSerializationError text | .unsupportedVersionError text
  | .invalidChunkError text => some text
  | _ => none

def Setup.selectCallback (cfg : Setup) (chunks : ParsedChunks) : Except Raised Received := do
  let messageType ← chunks.envelope.getString "message_type"
  let _ ← chunks.envelope.getString "id"
  let _ ← chunks.envelope.getString "sender"
  match cfg.registry.callbacks.lookup messageType with
  | some c => return .callback c chunks
  | none => return .ignored

/-- processMessage(), up to the report of an error or the call of a callback. -/
def Setup.processMessage (cfg : Setup) (msgTxt : Bytes) : Received :=
  match parseMessage 64 msgTxt with
  | .error fault =>
    match messageError fault with
    | some text => .rejected ("Failed to deserialize message: " ++ text)
    | none => .aborted
  | .ok msg =>
    match v1GetParsedChunks cfg.parser msg cfg.registry.validator with
    | .error (.validationError text) => .rejected ("Invalid envelope - bad content: " ++ text)
    | .error .dataParseError =>
      .rejected ("Invalid envelope - invalid JSON content: " ++
        cfg.parseErrorText msg.envelopeChunk.content)
    | .error (.schemaNotFoundError text) => .rejected ("Unknown schema: " ++ text)
    | .error .assertionFailure => .aborted
    | .error e => .raised e
    | .ok chunks =>
      match cfg.selectCallback chunks with
      | .ok received => received
      | .error e => .raised e

def Setup.assertsHold (cfg : Setup) (chunks : ParsedChunks) : Bool :=
  !cfg.assertions || (chunks.hasData && decide (chunks.dataType = .json))

structure AssociateResponse where
  requestId : String
  success : Bool
  deriving DecidableEq, Repr

def readAssociateResponse (chunks : ParsedChunks) : Except Raised AssociateResponse := do
  let _ ← chunks.envelope.getString "id"
  let _ ← chunks.envelope.getString "sender"
  let success ← chunks.data.getBool "success"
  let requestId ← chunks.data.getString "id"
  return { requestId, success }

def failureReason (data : Json) : Except Raised String :=
  if data.includes "reason" then data.getString "reason" else .ok ""

/-- The id of the message that an error or ttl_expired message is about, and the error
    recorded if that is the Associate Session request. -/
structure Citation where
  causeId : String
  error : String
  deriving DecidableEq, Repr

def readErrorMessage (chunks : ParsedChunks) : Except Raised Citation := do
  let _ ← chunks.envelope.getString "id"
  let _ ← chunks.envelope.getString "sender"
  let description ← chunks.data.getString "description"
  let causeId ← if chunks.data.includes "id" then chunks.data.getString "id" else pure ""
  return { causeId, error := description }

def readTTLMessage (chunks : ParsedChunks) : Except Raised Citation := do
  let _ ← chunks.envelope.getString "id"
  let causeId ← chunks.data.getString "id"
  let _ ← chunks.envelope.getString "sender"
  return { causeId, error := "Associate request's TTL expired" }

def plainSetup (parser : JsonParser) : Setup where
  registry := .create
  parser := parser
  parseErrorText := fun _ => ""
  assertions := false
  associateResponseCallback := false
  errorCallback := false
  ttlExpiredCallback := false

end PcpDispatch
