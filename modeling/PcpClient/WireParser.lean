import PcpClient.WireGrammar

/-!
parseMessage() against the grammar: a message is accepted if and only if it has a
decomposition, which is unique, and every failure is one of the two errors of the
constructor, for a size_t of 32 or of more bits.
-/
namespace PcpWireParser
open PcpOctets PcpSerialization PcpMessageV1 PcpWireGrammar

theorem splits_unique {chunks chunks' : List MessageChunk} {s tail tail' : Bytes}
    (splits : Splits s chunks tail) (splits' : Splits s chunks' tail') :
    chunks = chunks' ∧ tail = tail' := by
  induction chunks generalizing s chunks' with
  | nil =>
    obtain ⟨rfl, short⟩ := splits
    obtain ⟨rfl, rfl⟩ := splits_short short splits'
    exact ⟨rfl, rfl⟩
  | cons c chunks ih =>
    obtain ⟨long, _, sized, rest, rfl, splits⟩ := splits
    cases chunks' with
    | nil =>
      obtain ⟨whole, short⟩ := splits'
      rw [whole] at long
      omega
    | cons d chunks' =>
      obtain ⟨_, _, sized', rest', same, splits'⟩ := splits'
      obtain ⟨rfl, rfl⟩ := octets_injective sized sized' same
      obtain ⟨rfl, rfl⟩ := ih splits splits'
      exact ⟨rfl, rfl⟩

theorem decomposition_unique {s tail tail' : Bytes} {envelope envelope' : MessageChunk}
    {chunks chunks' : List MessageChunk} (one : Decomposes s envelope chunks tail)
    (other : Decomposes s envelope' chunks' tail') :
    envelope = envelope' ∧ chunks = chunks' ∧ tail = tail' := by
  obtain ⟨rest, rfl, splits⟩ := one.body
  obtain ⟨rest', same, splits'⟩ := other.body
  obtain ⟨rfl, rfl⟩ := octets_injective one.sized other.sized (List.cons.inj same).2
  obtain ⟨rfl, rfl⟩ := splits_unique splits splits'
  exact ⟨rfl, rfl, rfl⟩

theorem splits_optional {chunks : List MessageChunk} {s tail : Bytes}
    (splits : Splits s chunks tail) :
    chunks.filter (!isData ·) = chunks.filter isDebug := by
  induction chunks generalizing s with
  | nil => rfl
  | cons c chunks ih =>
    obtain ⟨_, kind, _, rest, _, more⟩ := splits
    have same : (!isData c) = isDebug c := by
      cases data : isData c with
      | true =>
        simp only [isData, beq_iff_eq] at data
        simp [isDebug, data, ChunkDescriptor.data, ChunkDescriptor.debug]
      | false => simpa [data] using kind.symm
    simp only [List.filter_cons, same, ih more]

theorem sizeAdd_small {width a b n : Nat} (roomy : Roomy width n) (small : a + b < 2 ^ 32) :
    sizeAdd width a b = .ok (a + b) := by
  have wide : 32 ≤ width := by
    rcases roomy with wide | ⟨exact32, _⟩ <;> omega
  have bound : a + b < 2 ^ width := Nat.lt_of_lt_of_le small (Nat.pow_le_pow_right (by omega) wide)
  simp [sizeAdd, bound]

theorem parseMessage_short {width : Nat} {s : Bytes} (short : s.length < minEnvelopeSize) :
    parseMessage width s =
      .error (.messageSerializationError "invalid msg: envelope too small") := by
  unfold parseMessage
  rw [if_pos short]

theorem parseMessage_version {width : Nat} {s : Bytes} {version : UInt8} {rest : Bytes}
    (long : minEnvelopeSize ≤ s.length) (split : s = version :: rest) (other : version ≠ 1) :
    parseMessage width s = .error (.unsupportedVersionError
      ("unsupported message version: " ++ toString version.toNat)) := by
  have refused : validateVersion version = .error (.unsupportedVersionError
      ("unsupported message version: " ++ toString version.toNat)) := by
    simp [validateVersion, supportedVersions, other]
  unfold parseMessage
  rw [if_neg (by omega), split, deserializeUInt8_cons]
  simp only [ok_bind, refused, error_bind]

theorem parseMessage_eq {width : Nat} {s body : Bytes} {desc : UInt8} {size : UInt32}
    (split : s = 1 :: desc :: (networkBytes 4 size.toNat ++ body)) (roomy : Roomy width s.length) :
    parseMessage width s =
      if desc &&& ChunkDescriptor.typeMask ≠ ChunkDescriptor.envelope then
        .error (.messageSerializationError "invalid msg: no envelope descriptor")
      else if 2 ^ 32 - 7 < size.toNat then
        .error (.messageSerializationError "invalid msg: size too large")
      else if body.length < size.toNat then
        .error (.messageSerializationError "invalid msg: no envelope")
      else (ParseState.parseChunks width s.length
          ⟨body.drop size.toNat, (body.drop size.toNat).length, {}, []⟩).map fun p =>
        ⟨1, ⟨desc, size, body.take size.toNat⟩, p.dataChunk, p.debugChunks⟩ := by
  have total : s.length = 6 + body.length := by
    rw [split]
    simp
    omega
  have header : sizeAdd width versionFieldSize chunkMetadataSize = .ok 6 :=
    sizeAdd_small roomy (by decide)
  have maxSize : sizeSub uintMax 6 = .ok (2 ^ 32 - 7) := sizeSub_ok (by decide)
  have valid : validateVersion 1 = .ok () := rfl
  have long : ¬s.length < minEnvelopeSize := by
    simp only [minEnvelopeSize]
    omega
  unfold parseMessage
  rw [if_neg long, total, split, deserializeUInt8_cons]
  simp only [ok_bind, valid, deserializeUInt8_cons, deserializeUInt32_network]
  split
  · rfl
  · simp only [header, maxSize, ok_bind]
    split
    · rfl
    · rename_i small
      have parsed : sizeAdd width 6 size.toNat = .ok (6 + size.toNat) :=
        sizeAdd_small roomy (by omega)
      simp only [parsed, ok_bind]
      split
      · rw [if_pos (by omega)]
      · rename_i enough
        have fits : size.toNat ≤ body.length := by omega
        have read : deserializeString size.toNat body =
            .ok (body.take size.toNat, body.drop size.toNat) := by
          simp [deserializeString, readBytes, fits]
        have left : 6 + body.length - (6 + size.toNat) = (body.drop size.toNat).length := by
          rw [List.length_drop]
          omega
        rw [if_neg (by omega), read, ok_bind, sizeSub_ok (by omega), ok_bind, left]
        cases ParseState.parseChunks width (6 + body.length)
          ⟨body.drop size.toNat, (body.drop size.toNat).length, {}, []⟩ <;> rfl

theorem parseMessage_sound {width : Nat} {body : Bytes} {desc : UInt8} {size : UInt32}
    {m : Message}
    (roomy : Roomy width (1 :: desc :: (networkBytes 4 size.toNat ++ body) : Bytes).length)
    (parsed : parseMessage width (1 :: desc :: (networkBytes 4 size.toNat ++ body)) = .ok m) :
    ∃ envelope chunks tail,
      Decomposes (1 :: desc :: (networkBytes 4 size.toNat ++ body)) envelope chunks tail ∧
        m = assemble envelope chunks := by
  have room : Roomy width (body.drop size.toNat).length := roomy_mono roomy (by simp; omega)
  rw [parseMessage_eq rfl roomy] at parsed
  split at parsed
  · cases parsed
  rename_i kind
  split at parsed
  · cases parsed
  rename_i bound
  split at parsed
  · cases parsed
  rename_i enough
  obtain ⟨p, loop, same⟩ := map_ok_iff.mp parsed
  obtain ⟨chunks, tail, q, splits, stored, rfl⟩ :=
    (parseChunks_ok_iff _ _ _ rfl (by simp; omega) room).mp loop
  obtain ⟨oneData, rfl⟩ := (storeAll_ok_iff _ _ _).mp stored
  refine ⟨⟨desc, size, body.take size.toNat⟩, chunks, tail,
    ⟨⟨body.drop size.toNat, by rw [octets_of_content], splits⟩, ?_, ?_, ?_, ?_⟩, ?_⟩
  · exact Decidable.not_not.mp kind
  · simp only [Sized, List.length_take]
    omega
  · simp only [List.length_take]
    omega
  · simpa [ParseState.hasData] using oneData
  · rw [same]
    simp [ParseState.seek, assemble, splits_optional splits]

theorem parseMessage_complete {width : Nat} {s : Bytes} {envelope : MessageChunk}
    {chunks : List MessageChunk} {tail : Bytes} (roomy : Roomy width s.length)
    (grammar : Decomposes s envelope chunks tail) :
    parseMessage width s = .ok (assemble envelope chunks) := by
  obtain ⟨desc, size, content⟩ := envelope
  obtain ⟨rest, body, splits⟩ := grammar.body
  have sized : size.toNat = content.length := grammar.sized
  have bound : content.length ≤ 2 ^ 32 - 7 := grammar.bound
  have kind : desc &&& ChunkDescriptor.typeMask = ChunkDescriptor.envelope := grammar.kind
  have split : s = 1 :: desc :: (networkBytes 4 size.toNat ++ (content ++ rest)) := by
    rw [body, octets_append]
  rw [parseMessage_eq split roomy, if_neg (by simp [kind]), if_neg (by omega),
    if_neg (by simp [sized])]
  have length : s.length = 6 + content.length + rest.length := by
    rw [split]
    simp
    omega
  simp only [sized, List.take_left, List.drop_left]
  refine map_ok_iff.mpr ⟨_, (parseChunks_ok_iff _ _ _ rfl (by simp; omega)
    (roomy_mono roomy (by simp; omega))).mpr
    ⟨chunks, tail, _, splits, (storeAll_ok_iff _ _ _).mpr ⟨?_, rfl⟩, rfl⟩, ?_⟩
  · simpa [ParseState.hasData] using grammar.oneData
  · simp [ParseState.seek, assemble, splits_optional splits]

theorem parseMessage_ok_iff {width : Nat} (s : Bytes) (roomy : Roomy width s.length)
    (m : Message) :
    parseMessage width s = .ok m ↔
      ∃ envelope chunks tail, Decomposes s envelope chunks tail ∧ m = assemble envelope chunks := by
  constructor
  · intro parsed
    by_cases short : s.length < minEnvelopeSize
    · rw [parseMessage_short short] at parsed
      cases parsed
    simp only [minEnvelopeSize] at short
    obtain ⟨version, s', rfl⟩ : ∃ version s', s = version :: s' :=
      List.exists_cons_of_length_pos (by omega)
    obtain ⟨desc, size, body, rfl⟩ := header_split (s := s') (by
      simp only [List.length_cons, chunkMetadataSize] at short ⊢
      omega)
    by_cases supported : version = 1
    · subst supported
      exact parseMessage_sound roomy parsed
    · rw [parseMessage_version (by simp only [minEnvelopeSize]; omega) rfl supported] at parsed
      cases parsed
  · rintro ⟨envelope, chunks, tail, grammar, rfl⟩
    exact parseMessage_complete roomy grammar

theorem parseMessage_error {width : Nat} {s : Bytes} {fault : Fault}
    (roomy : Roomy width s.length) (failed : parseMessage width s = .error fault) :
    (minEnvelopeSize ≤ s.length ∧ s.head? ≠ some 1 ∧
        ∃ text, fault = .unsupportedVersionError text) ∨
      (¬(minEnvelopeSize ≤ s.length ∧ s.head? ≠ some 1) ∧
        ∃ text, fault = .messageSerializationError text) := by
  by_cases short : s.length < minEnvelopeSize
  · rw [parseMessage_short short] at failed
    exact .inr ⟨by omega, _, (Except.error.inj failed).symm⟩
  have long := short
  simp only [minEnvelopeSize] at short
  obtain ⟨version, s', rfl⟩ : ∃ version s', s = version :: s' :=
    List.exists_cons_of_length_pos (by omega)
  by_cases supported : version = 1
  · subst supported
    refine .inr ⟨by simp, ?_⟩
    obtain ⟨desc, size, body, rfl⟩ := header_split (s := s') (by
      simp only [List.length_cons, chunkMetadataSize] at short ⊢
      omega)
    rw [parseMessage_eq rfl roomy] at failed
    split at failed
    · exact ⟨_, (Except.error.inj failed).symm⟩
    · split at failed
      · exact ⟨_, (Except.error.inj failed).symm⟩
      · split at failed
        · exact ⟨_, (Except.error.inj failed).symm⟩
        · cases loop : ParseState.parseChunks width _
            ⟨body.drop size.toNat, (body.drop size.toNat).length, {}, []⟩ with
          | error other =>
            rw [loop] at failed
            obtain rfl : other = fault := Except.error.inj failed
            exact parseChunks_error _ _ rfl (by simp; omega) (roomy_mono roomy (by
              simp
              omega)) loop
          | ok p =>
            rw [loop] at failed
            cases failed
  · refine .inl ⟨by omega, by simpa using supported, ?_⟩
    rw [parseMessage_version (by omega) rfl supported] at failed
    exact ⟨_, (Except.error.inj failed).symm⟩

/-- The parser accepts exactly the decompositions of the grammar, of which a message has
    one at most, and tells an unsupported version from every other failure. -/
theorem parser_accepts_grammar (s : Bytes) :
    (∀ m, parseMessage 64 s = .ok m ↔
      ∃ envelope chunks tail, Decomposes s envelope chunks tail ∧ m = assemble envelope chunks) ∧
    (∀ envelope chunks tail envelope' chunks' tail', Decomposes s envelope chunks tail →
      Decomposes s envelope' chunks' tail' →
        envelope = envelope' ∧ chunks = chunks' ∧ tail = tail') ∧
    ∀ fault, parseMessage 64 s = .error fault →
      (minEnvelopeSize ≤ s.length ∧ s.head? ≠ some 1 ∧
        ∃ text, fault = .unsupportedVersionError text) ∨
      (¬(minEnvelopeSize ≤ s.length ∧ s.head? ≠ some 1) ∧
        ∃ text, fault = .messageSerializationError text) := by
  have roomy : Roomy 64 s.length := .inl (by omega)
  exact ⟨parseMessage_ok_iff s roomy,
    fun _ _ _ _ _ _ one other => decomposition_unique one other,
    fun _ failed => parseMessage_error roomy failed⟩

example : parseMessage 64 [1, 1, 0, 0, 0, 2, 123, 125, 0x12, 0, 0, 0, 1, 7, 0] =
    .ok (assemble ⟨1, 2, [123, 125]⟩ [⟨0x12, 1, [7]⟩]) := by decide

end PcpWireParser
