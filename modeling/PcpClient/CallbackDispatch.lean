import PcpClient.MessageDispatchV2

/-!
Which registered callback processMessage() runs, in both connectors and after any calls of
registerMessageCallback().
-/
namespace PcpCallbackDispatch
open PcpOctets PcpJson PcpSchema PcpProtocol PcpMessageV1 PcpDispatch PcpReceived PcpRegistry
open PcpDispatchV2

def callbacksRun : Received → List Callback
  | .callback c _ => [c]
  | _ => []

def callbacksRunV2 : ReceivedV2 → List Callback
  | .callback c _ => [c]
  | _ => []

def TypedV1 (parser : JsonParser) (msgTxt : Bytes) (name : String) : Prop :=
  ∃ m envelope, parseMessage 64 msgTxt = .ok m ∧ parser m.envelopeChunk.content = some envelope ∧
    V1.envelopeSchema.accepts envelope = true ∧ envelope.getString "message_type" = .ok name

def TypedV2 (parser : JsonParser) (msgTxt : Bytes) (name : String) : Prop :=
  ∃ envelope, parser msgTxt = some envelope ∧ V2.envelopeSchema.accepts envelope = true ∧
    envelope.getString "message_type" = .ok name

/-- At most one callback has run, once: the one whose registration for the type of the
    message succeeded, of which there is no other. -/
structure Dispatched (base : CallbackMap) (calls : List (Schema × Callback))
    (typed : String → Prop) (ran : List Callback) : Prop where
  once : ran.length ≤ 1
  exact : ∀ c, c ∈ ran ↔ ∃ schema, typed schema.name ∧ Registered base calls (schema, c)
  unique : ∀ first second, Registered base calls first → Registered base calls second →
    first.1.name = second.1.name → first = second

theorem dispatched_of_none {base : CallbackMap} (unset : base.callbacks = [])
    {calls : List (Schema × Callback)} {typed : String → Prop} (none : ∀ name, ¬typed name) :
    Dispatched base calls typed [] where
  once := by simp
  exact := by
    intro c
    simp only [List.not_mem_nil, false_iff]
    rintro ⟨schema, type, _⟩
    exact none schema.name type
  unique := fun _ _ => registered_unique base unset

theorem dispatched_of_type {base : CallbackMap} (unset : base.callbacks = [])
    {calls : List (Schema × Callback)} {typed : String → Prop} {name : String}
    (type : ∀ other, typed other ↔ other = name) :
    Dispatched base calls typed ((base.registerAll calls).callbacks.lookup name).toList where
  once := by cases (base.registerAll calls).callbacks.lookup name <;> simp
  exact := by
    intro c
    rw [Option.mem_toList, callback_iff base unset]
    constructor
    · rintro ⟨schema, named, registered⟩
      exact ⟨schema, (type schema.name).mpr named, registered⟩
    · rintro ⟨schema, typed, registered⟩
      exact ⟨schema, (type schema.name).mp typed, registered⟩
  unique := fun _ _ => registered_unique base unset

theorem dispatched_v1 (cfg : Setup) (calls : List (Schema × Nat)) (msgTxt : Bytes) :
    Dispatched v1Base (protocolCallbacks ++ userEntries calls) (TypedV1 cfg.parser msgTxt)
      (callbacksRun ((Setup.registering cfg calls).processMessage msgTxt)) := by
  by_cases typed : ∃ name, TypedV1 cfg.parser msgTxt name
  · obtain ⟨messageType, m, envelope, parse, parsed, accepted, type⟩ := typed
    have same : ∀ other, TypedV1 cfg.parser msgTxt other ↔ other = messageType := by
      intro other
      constructor
      · rintro ⟨_, _, parse', parsed', _, type'⟩
        obtain rfl := Except.ok.inj (parse.symm.trans parse')
        obtain rfl := Option.some.inj (parsed.symm.trans parsed')
        exact Except.ok.inj (type'.symm.trans type)
      · rintro rfl
        exact ⟨m, envelope, parse, parsed, accepted, type⟩
    have ran : callbacksRun ((Setup.registering cfg calls).processMessage msgTxt) =
        ((v1Base.registerAll (protocolCallbacks ++ userEntries calls)).callbacks.lookup
          messageType).toList := by
      rw [← registering_toMap cfg calls]
      rcases envelope_received (Setup.registering cfg calls) parse parsed accepted type with
        ⟨_, unknown, error, rejected⟩ | ⟨chunks, _, received⟩
      · cases selected : (Registry.toMap (Setup.registering cfg calls).registry).callbacks.lookup
            messageType with
        | none => rw [rejected]; rfl
        | some c =>
          have known := (Setup.registering cfg calls).registry.known messageType c selected
          rw [unknown] at known
          cases known
      · rw [received, Registry.toMap]
        cases (Setup.registering cfg calls).registry.callbacks.lookup messageType <;> rfl
    rw [ran]
    exact dispatched_of_type rfl same
  · have silent : callbacksRun ((Setup.registering cfg calls).processMessage msgTxt) = [] := by
      by_cases undeserialized : Undeserializable msgTxt
      · obtain ⟨error, rejected⟩ := undeserializable_rejected undeserialized
        rw [rejected]
        rfl
      · obtain ⟨m, parse⟩ : ∃ m, parseMessage 64 msgTxt = .ok m := by
          simpa [Undeserializable] using undeserialized
        have unaccepted : BadEnvelope (Setup.registering cfg calls) msgTxt := by
          refine ⟨m, parse, fun envelope parsed => ?_⟩
          by_contra accepted
          have accepted : V1.envelopeSchema.accepts envelope = true := by simpa using accepted
          obtain ⟨_, ⟨messageType, type⟩, _⟩ := envelope_reads accepted
          exact typed ⟨messageType, m, envelope, parse, parsed, accepted, type⟩
        obtain ⟨error, rejected⟩ := badEnvelope_rejected unaccepted
        rw [rejected]
        rfl
    rw [silent]
    exact dispatched_of_none rfl fun name type => typed ⟨name, type⟩

theorem dispatched_v2 (cfg : SetupV2) (msgTxt : Bytes) :
    Dispatched v2Base cfg.entries (TypedV2 cfg.parser msgTxt)
      (callbacksRunV2 (cfg.processMessage msgTxt)) := by
  by_cases typed : ∃ name, TypedV2 cfg.parser msgTxt name
  · obtain ⟨messageType, envelope, parsed, accepted, type⟩ := typed
    have same : ∀ other, TypedV2 cfg.parser msgTxt other ↔ other = messageType := by
      intro other
      constructor
      · rintro ⟨_, parsed', _, type'⟩
        obtain rfl := Option.some.inj (parsed.symm.trans parsed')
        exact Except.ok.inj (type'.symm.trans type)
      · rintro rfl
        exact ⟨envelope, parsed, accepted, type⟩
    have ran : callbacksRunV2 (cfg.processMessage msgTxt) =
        ((v2Base.registerAll cfg.entries).callbacks.lookup messageType).toList := by
      obtain ⟨chunks, _, received⟩ := accepted_received cfg parsed accepted type
      rw [received, SetupV2.registry]
      cases (v2Base.registerAll cfg.entries).callbacks.lookup messageType <;> rfl
    rw [ran]
    exact dispatched_of_type rfl same
  · have silent : callbacksRunV2 (cfg.processMessage msgTxt) = [] := by
      cases parsed : cfg.parser msgTxt with
      | none =>
        obtain ⟨error, rejected⟩ := unparsed_rejected parsed
        rw [rejected]
        rfl
      | some envelope =>
        cases accepted : V2.envelopeSchema.accepts envelope with
        | false => rw [unaccepted_raised parsed accepted]; rfl
        | true =>
          obtain ⟨_, messageType, type⟩ := envelope_reads_v2 accepted
          exact absurd ⟨messageType, envelope, parsed, accepted, type⟩ typed
    rw [silent]
    exact dispatched_of_none rfl fun name type => typed ⟨name, type⟩

/-- Both connectors run the callback of the successful registration for the type of a
    message with an accepted envelope, once, and nothing for any other message; a
    registration that fails changes neither map. -/
theorem dispatch_exact (calls : List (Schema × Nat)) (msgTxt : Bytes) :
    (∀ cfg : Setup, Dispatched v1Base (protocolCallbacks ++ userEntries calls)
      (TypedV1 cfg.parser msgTxt)
      (callbacksRun ((Setup.registering cfg calls).processMessage msgTxt))) ∧
    (∀ cfg : SetupV2, Dispatched v2Base
      ((V2.errorMessageSchema, .errorMessage) :: userEntries calls) (TypedV2 cfg.parser msgTxt)
      (callbacksRunV2 (SetupV2.processMessage { cfg with calls } msgTxt))) ∧
    ∀ (m : CallbackMap) (entry : Schema × Callback) (e : Raised),
      (m.call entry).1 = .error e → (m.call entry).2 = m :=
  ⟨fun cfg => dispatched_v1 cfg calls msgTxt, fun cfg => dispatched_v2 { cfg with calls } msgTxt,
    fun _ _ _ => call_failed⟩

end PcpCallbackDispatch
