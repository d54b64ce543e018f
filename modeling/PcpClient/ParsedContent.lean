import PcpClient.ParsedChunks

/-!
What getParsedChunks() of the first version returns: each chunk of the message is parsed and
matched on its own, and the result accounts for all of them.
-/
namespace PcpParsedContent
open PcpOctets PcpJson PcpSchema PcpProtocol PcpSerialization PcpMessageV1 PcpParsedChunks

def Matches (validator : Validator) (schemaName : String) (content : Json) : Bool :=
  (validator.validate content schemaName).isOk

def hops (content : Json) : List Json :=
  match content.getArray "hops" with
  | .ok items => items
  | .error _ => []

def validDebug (parser : JsonParser) (validator : Validator) (chunk : MessageChunk) :
    Option Json :=
  (parser chunk.content).filter fun content =>
    Matches validator V1.debugSchemaName content &&
      (hops content).all (Matches validator V1.debugItemSchemaName)

def invalidDebug (parser : JsonParser) (validator : Validator) (m : Message) : Nat :=
  m.debugChunks.countP fun chunk => (validDebug parser validator chunk).isNone

/-- The data of a message whose type is registered, as its content type says. -/
def DataReported (parser : JsonParser) (validator : Validator) (m : Message)
    (messageType : String) (r : ParsedChunks) : ContentType → Prop
  | .binary => r.dataType = .binary ∧ r.invalidData = false ∧ r.binaryData = m.dataChunk.content
  | .json => r.dataType = .json ∧
    (r.invalidData = true ↔ ¬∃ content, parser m.dataChunk.content = some content ∧
      Matches validator messageType content = true) ∧
    (r.invalidData = false → parser m.dataChunk.content = some r.data)

/-- The result accounts for the chunks of the message, but for the counter of bad ones. -/
structure Accounts (parser : JsonParser) (validator : Validator) (m : Message)
    (r : ParsedChunks) : Prop where
  envelope : parser m.envelopeChunk.content = some r.envelope
  debug : r.debug = m.debugChunks.filterMap (validDebug parser validator)
  hasData : r.hasData = m.hasData
  noData : m.hasData = false → r.invalidData = false
  data : m.hasData = true → ∃ messageType contentType,
    r.envelope.getString "message_type" = .ok messageType ∧
      validator.getSchemaContentType messageType = .ok contentType ∧
        DataReported parser validator m messageType r contentType

theorem matches_iff {validator : Validator} {schemaName : String} {content : Json} :
    Matches validator schemaName content = true ↔
      validator.validate content schemaName = .ok () := by
  unfold Matches
  cases validator.validate content schemaName <;> simp [Except.isOk, Except.toBool]

theorem forM_validate_ok_iff (validator : Validator) (name : String) (items : List Json) :
    items.forM (fun hop => validator.validate hop name) = .ok () ↔
      items.all (Matches validator name) = true := by
  induction items with
  | nil => simp [List.forM, pure, Except.pure]
  | cons hop rest ih =>
    change (validator.validate hop name >>= fun _ => rest.forM _) = _ ↔ _
    rw [List.all_cons, Bool.and_eq_true, ← ih, matches_iff]
    cases validator.validate hop name with
    | ok _ => simp [bind, Except.bind]
    | error e => simp [bind, Except.bind]

theorem parseDebug_eq {parser : JsonParser} {validator : Validator} {chunk : MessageChunk}
    (readable : HopsReadable parser validator chunk) :
    (parseDebug parser validator chunk).toOption = validDebug parser validator chunk := by
  unfold parseDebug validDebug JsonParser.container
  cases parsed : parser chunk.content with
  | none => rfl
  | some content =>
    simp only [bind, Except.bind, Option.filter_some]
    cases valid : validator.validate content V1.debugSchemaName with
    | error e => simp [Matches, valid, Except.isOk, Except.toBool, Except.toOption]
    | ok _ =>
      obtain ⟨items, read⟩ := readable content parsed valid
      have all := forM_validate_ok_iff validator V1.debugItemSchemaName items
      simp only [read, hops, matches_iff.mpr valid, Bool.true_and]
      cases checked : items.forM fun hop => validator.validate hop V1.debugItemSchemaName with
      | ok _ => simp [all.mp checked, pure, Except.pure, Except.toOption]
      | error e =>
        have bad : items.all (Matches validator V1.debugItemSchemaName) = false := by
          rw [checked] at all
          simpa using all
        simp [bad, Except.toOption]

theorem addDebug_eq {parser : JsonParser} {validator : Validator} {chunk : MessageChunk}
    (content : DebugContent) (readable : HopsReadable parser validator chunk) :
    addDebug parser validator content chunk = .ok (match validDebug parser validator chunk with
      | some parsed => { content with parsed := content.parsed ++ [parsed] }
      | none => { content with numInvalidDebug := content.numInvalidDebug + 1 }) := by
  rw [← parseDebug_eq readable]
  unfold addDebug
  cases outcome : parseDebug parser validator chunk with
  | ok parsed => rfl
  | error e => simp [parseDebug_caught readable outcome, Except.toOption]

theorem debug_fold {parser : JsonParser} {validator : Validator} (chunks : List MessageChunk)
    (content : DebugContent) (readable : ∀ c ∈ chunks, HopsReadable parser validator c) :
    chunks.foldlM (addDebug parser validator) content = .ok {
      parsed := content.parsed ++ chunks.filterMap (validDebug parser validator)
      numInvalidDebug := content.numInvalidDebug +
        UInt32.ofNat (chunks.countP fun c => (validDebug parser validator c).isNone) } := by
  induction chunks generalizing content with
  | nil => simp [pure, Except.pure]
  | cons c chunks ih =>
    rw [List.foldlM_cons, addDebug_eq content (readable c (by simp))]
    simp only [bind, Except.bind]
    rw [ih _ fun d mem => readable d (by simp [mem])]
    cases entry : validDebug parser validator c with
    | some parsed => simp [entry]
    | none => simp [entry, UInt32.ofNat_add, UInt32.add_comm, UInt32.add_assoc]

theorem accounted_iff {parser : JsonParser} {validator : Validator} {m : Message} :
    (m.debugChunks.filterMap (validDebug parser validator)).length +
        (UInt32.ofNat (invalidDebug parser validator m)).toNat = m.debugChunks.length ↔
      invalidDebug parser validator m < 2 ^ 32 := by
  have total := List.length_eq_countP_add_countP
    (fun c => (validDebug parser validator c).isSome) (l := m.debugChunks)
  simp only [Bool.not_eq_true, Option.isSome_eq_false_iff, Bool.decide_eq_true] at total
  rw [List.length_filterMap_eq_countP, UInt32.toNat_ofNat', invalidDebug]
  omega

theorem container_ok_iff {parser : JsonParser} {text : Bytes} {content : Json} :
    parser.container text = .ok content ↔ parser text = some content := by
  unfold JsonParser.container
  cases parser text <;> simp

theorem parseData_ok_iff {parser : JsonParser} {validator : Validator} {messageType : String}
    {chunk : MessageChunk} {content : Json} :
    parseData parser validator messageType chunk = .ok content ↔
      parser chunk.content = some content ∧ Matches validator messageType content = true := by
  simp only [parseData, bind_ok_iff, container_ok_iff, matches_iff]
  constructor
  · rintro ⟨read, parsed, _, valid, same⟩
    obtain rfl := Except.ok.inj same
    exact ⟨parsed, valid⟩
  · rintro ⟨parsed, valid⟩
    exact ⟨content, parsed, (), valid, rfl⟩

theorem v1_returned {parser : JsonParser} {validator : Validator} {m : Message} {r : ParsedChunks}
    (returned : v1GetParsedChunks parser m validator = .ok r) :
    Accounts parser validator m r ∧
      r.numInvalidDebug = UInt32.ofNat (invalidDebug parser validator m) := by
  simp only [v1GetParsedChunks, bind_ok_iff, container_ok_iff] at returned
  obtain ⟨envelope, parsed, _, _, _, _, content, folded, returned⟩ := returned
  have readable : ∀ c ∈ m.debugChunks, HopsReadable parser validator c := by
    by_contra unreadable
    obtain ⟨e, failed⟩ := debug_unreadable m.debugChunks {} unreadable
    rw [folded] at failed
    cases failed
  obtain rfl := Except.ok.inj (folded.symm.trans (debug_fold m.debugChunks {} readable))
  simp only [List.nil_append, UInt32.zero_add] at returned
  cases stored : m.hasData with
  | false =>
    simp only [stored] at returned
    obtain rfl := Except.ok.inj returned
    exact ⟨⟨parsed, rfl, stored.symm, fun _ => rfl, by simp [stored]⟩, rfl⟩
  | true =>
    simp only [stored, if_true, bind_ok_iff] at returned
    obtain ⟨messageType, typeRead, contentType, registered, returned⟩ := returned
    cases contentType with
    | binary =>
      obtain rfl := Except.ok.inj returned
      exact ⟨⟨parsed, rfl, stored.symm, by simp [stored], fun _ =>
        ⟨messageType, .binary, typeRead, registered, rfl, rfl, rfl⟩⟩, rfl⟩
    | json =>
      have matched : ∀ content, parseData parser validator messageType m.dataChunk = .ok content ↔
          parser m.dataChunk.content = some content ∧
            Matches validator messageType content = true := fun _ => parseData_ok_iff
      cases outcome : parseData parser validator messageType m.dataChunk with
      | ok data =>
        rw [outcome] at returned
        obtain rfl := Except.ok.inj returned
        obtain ⟨read, valid⟩ := (matched data).mp outcome
        have reported : ¬¬∃ content, parser m.dataChunk.content = some content ∧
            Matches validator messageType content = true := not_not_intro ⟨data, read, valid⟩
        exact ⟨⟨parsed, rfl, stored.symm, by simp [stored], fun _ =>
          ⟨messageType, .json, typeRead, registered, rfl, by simpa using reported,
            fun _ => read⟩⟩, rfl⟩
      | error e =>
        rw [outcome] at returned matched
        simp only [parseData_caught outcome, if_true] at returned
        obtain rfl := Except.ok.inj returned
        have reported : ¬∃ content, parser m.dataChunk.content = some content ∧
            Matches validator messageType content = true := by
          rintro ⟨content, found⟩
          cases (matched content).mpr found
        exact ⟨⟨parsed, rfl, stored.symm, by simp [stored], fun _ =>
          ⟨messageType, .json, typeRead, registered, rfl, by simpa using reported,
            fun valid => by cases valid⟩⟩, rfl⟩

theorem length_iff {parser : JsonParser} {validator : Validator} {m : Message} {r : ParsedChunks}
    (returned : v1GetParsedChunks parser m validator = .ok r) :
    r.debug.length + r.numInvalidDebug.toNat = m.debugChunks.length ↔
      invalidDebug parser validator m < 2 ^ 32 := by
  obtain ⟨accounts, counted⟩ := v1_returned returned
  rw [accounts.debug, counted, accounted_iff]

/-- A result accounts for every chunk of its message if and only if fewer than 2^32 of the
    debug chunks are bad: that is as far as num_invalid_debug counts. -/
theorem parsed_content_iff (parser : JsonParser) (validator : Validator) (m : Message)
    (r : ParsedChunks) (returned : v1GetParsedChunks parser m validator = .ok r) :
    (Accounts parser validator m r ∧
        r.debug.length + r.numInvalidDebug.toNat = m.debugChunks.length) ↔
      invalidDebug parser validator m < 2 ^ 32 := by
  rw [length_iff returned]
  exact and_iff_right (v1_returned returned).1

def pingWithDebug (bad : Nat) : Message :=
  ⟨1, .ofContent 1 pingText, {}, List.replicate bad (.ofContent 3 [0x7b])⟩

theorem brace_unparsed : pingParser [0x7b] = none := by
  have other : [0x7b] ≠ pingText := fun same => by
    have length := congrArg List.length same
    simp [pingText, asciiBytes] at length
  simp [pingParser, other]

theorem ping_returned (bad : Nat) :
    invalidDebug pingParser (protocolValidator V1.envelopeSchema) (pingWithDebug bad) = bad ∧
      ∃ r, v1GetParsedChunks pingParser (pingWithDebug bad)
        (protocolValidator V1.envelopeSchema) = .ok r := by
  have parsed : pingParser (pingWithDebug bad).envelopeChunk.content = some pingEnvelope := by
    simp [pingParser, pingWithDebug, MessageChunk.ofContent]
  have unparsed : ∀ c ∈ (pingWithDebug bad).debugChunks, pingParser c.content = none :=
    fun c mem => by rw [(List.mem_replicate.mp mem).2]; exact brace_unparsed
  constructor
  · have every : (pingWithDebug bad).debugChunks.countP (fun c =>
        (validDebug pingParser (protocolValidator V1.envelopeSchema) c).isNone) =
          (pingWithDebug bad).debugChunks.length :=
      List.countP_eq_length.mpr fun c mem => by simp [validDebug, unparsed c mem]
    exact every.trans List.length_replicate
  · have readable : ∀ c ∈ (pingWithDebug bad).debugChunks,
        HopsReadable pingParser (protocolValidator V1.envelopeSchema) c := by
      intro c mem content read
      rw [unparsed c mem] at read
      cases read
    have idRead : pingEnvelope.getString "id" = .ok "1" := rfl
    have typeRead : pingEnvelope.getString "message_type" = .ok "ping" := rfl
    obtain ⟨r, returned, _⟩ := v1_reportable parsed (envelope_valid pingEnvelope_accepted) idRead
      typeRead ⟨fun data => absurd data (by simp [pingWithDebug, Message.hasData]), readable⟩
    exact ⟨r, returned⟩

theorem one_bad_debug_counted :
    ∃ r, v1GetParsedChunks pingParser (pingWithDebug 1) (protocolValidator V1.envelopeSchema) =
        .ok r ∧ r.debug.length + r.numInvalidDebug.toNat = 1 := by
  obtain ⟨bad, r, returned⟩ := ping_returned 1
  exact ⟨r, returned, ((parsed_content_iff pingParser (protocolValidator V1.envelopeSchema)
    (pingWithDebug 1) r returned).mpr (by rw [bad]; decide)).2⟩

/-- As many bad debug chunks as an unsigned int has values: its counter reads 0. -/
theorem bad_debug_wraps :
    ∃ r, v1GetParsedChunks pingParser (pingWithDebug (2 ^ 32))
        (protocolValidator V1.envelopeSchema) = .ok r ∧
      r.debug.length + r.numInvalidDebug.toNat ≠ (pingWithDebug (2 ^ 32)).debugChunks.length := by
  obtain ⟨bad, r, returned⟩ := ping_returned (2 ^ 32)
  refine ⟨r, returned, fun same => ?_⟩
  have small := (length_iff returned).mp same
  rw [bad] at small
  exact Nat.lt_irrefl _ small

end PcpParsedContent
