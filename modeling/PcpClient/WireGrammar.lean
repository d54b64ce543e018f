import PcpClient.MessageV1

/-!
The grammar of the v1 wire format, and the loop of parseMessage() against its optional
chunks. A message is a version byte, an envelope chunk, optional chunks as long as more
than five bytes are left, and the bytes that are left then.
-/
namespace PcpWireGrammar
open PcpOctets PcpSerialization PcpMessageV1

def octets (c : MessageChunk) : Bytes :=
  c.descriptor :: (networkBytes 4 c.size.toNat ++ c.content)

def Sized (c : MessageChunk) : Prop := c.size.toNat = c.content.length

def isData (c : MessageChunk) : Bool := c.descBit == ChunkDescriptor.data

def isDebug (c : MessageChunk) : Bool := c.descBit == ChunkDescriptor.debug

def Splits : Bytes → List MessageChunk → Bytes → Prop
  | s, [], tail => s = tail ∧ tail.length ≤ chunkMetadataSize
  | s, c :: chunks, tail =>
    chunkMetadataSize < s.length ∧ (isData c || isDebug c) ∧ Sized c ∧
      ∃ rest, s = octets c ++ rest ∧ Splits rest chunks tail

structure Decomposes (s : Bytes) (envelope : MessageChunk) (chunks : List MessageChunk)
    (tail : Bytes) : Prop where
  body : ∃ rest, s = 1 :: (octets envelope ++ rest) ∧ Splits rest chunks tail
  kind : envelope.descBit = ChunkDescriptor.envelope
  sized : Sized envelope
  bound : envelope.content.length ≤ 2 ^ 32 - 7
  oneData : (chunks.filter isData).length ≤ 1

def assemble (envelope : MessageChunk) (chunks : List MessageChunk) : Message where
  version := 1
  envelopeChunk := envelope
  dataChunk := (chunks.find? isData).getD {}
  debugChunks := chunks.filter isDebug

def ParseState.seek (p : ParseState) (itr : Bytes) : ParseState :=
  { p with nextItr := itr, stillToParse := itr.length }

/-- size_t holds the sizes of the message. -/
def Roomy (width n : Nat) : Prop := 32 < width ∨ width = 32 ∧ n < 2 ^ 32

theorem octets_length (c : MessageChunk) : (octets c).length = 5 + c.content.length := by
  simp [octets]
  omega

theorem header_injective {desc desc' : UInt8} {size size' : UInt32} {body body' : Bytes}
    (same : desc :: (networkBytes 4 size.toNat ++ body) =
      desc' :: (networkBytes 4 size'.toNat ++ body')) :
    desc = desc' ∧ size = size' ∧ body = body' := by
  obtain ⟨descriptors, tails⟩ := List.cons.inj same
  obtain ⟨sizes, bodies⟩ := List.append_inj tails (by simp)
  exact ⟨descriptors, UInt32.toNat_inj.mp
    (networkBytes_injective size.toNat_lt size'.toNat_lt sizes), bodies⟩

theorem octets_append (c : MessageChunk) (rest : Bytes) :
    octets c ++ rest = c.descriptor :: (networkBytes 4 c.size.toNat ++ (c.content ++ rest)) := by
  simp [octets]

theorem octets_injective {c d : MessageChunk} {rest rest' : Bytes} (sized : Sized c)
    (sized' : Sized d) (same : octets c ++ rest = octets d ++ rest') : c = d ∧ rest = rest' := by
  obtain ⟨desc, size, content⟩ := c
  obtain ⟨desc', size', content'⟩ := d
  rw [octets_append, octets_append] at same
  obtain ⟨rfl, rfl, bodies⟩ := header_injective same
  obtain ⟨rfl, rfl⟩ := List.append_inj bodies (sized.symm.trans sized')
  exact ⟨rfl, rfl⟩

theorem octets_of_content (desc : UInt8) (size : UInt32) (body : Bytes) :
    desc :: (networkBytes 4 size.toNat ++ body) =
      octets ⟨desc, size, body.take size.toNat⟩ ++ body.drop size.toNat := by
  simp [octets, List.take_append_drop]

theorem header_split {s : Bytes} (room : chunkMetadataSize ≤ s.length) :
    ∃ (desc : UInt8) (size : UInt32) (body : Bytes),
      s = desc :: (networkBytes 4 size.toNat ++ body) := by
  match s, room with
  | desc :: a :: b :: c :: d :: body, _ =>
    refine ⟨desc, UInt32.ofNat (networkValue [a, b, c, d]), body, ?_⟩
    rw [networkBytes_uint32 [a, b, c, d] rfl]
    rfl

theorem sizeAdd_ok {width a b n : Nat} (roomy : Roomy width n) (fits : a + b ≤ n)
    (small : a + b < 2 ^ 33) : sizeAdd width a b = .ok (a + b) := by
  have bound : a + b < 2 ^ width := by
    rcases roomy with wide | ⟨rfl, bounded⟩
    · exact Nat.lt_of_lt_of_le small (Nat.pow_le_pow_right (by omega) wide)
    · omega
  simp [sizeAdd, bound]

theorem sizeSub_ok {a b : Nat} (enough : b ≤ a) : sizeSub a b = .ok (a - b) := by
  simp [sizeSub, enough]

theorem hasData_of_isData {p : ParseState} {c : MessageChunk} (data : isData c = true) :
    ({ p with dataChunk := c } : ParseState).hasData = true := by
  simp only [isData, MessageChunk.descBit, beq_iff_eq] at data
  simp only [ParseState.hasData, bne_iff_ne, ne_eq]
  intro zero
  rw [zero] at data
  cases data

theorem store_ok_iff {p q : ParseState} {c : MessageChunk} :
    p.store c = .ok q ↔ (isData c = true → p.hasData = false) ∧
      q = { p with
        dataChunk := if isData c then c else p.dataChunk
        debugChunks := if isData c then p.debugChunks else p.debugChunks ++ [c] } := by
  unfold ParseState.store
  by_cases data : c.descBit = ChunkDescriptor.data
  · have same : isData c = true := by simp [isData, data]
    cases stored : p.hasData with
    | false =>
      simp only [data, same, if_true, Bool.false_eq_true, if_false, Except.ok.injEq, implies_true,
        true_and]
      exact eq_comm
    | true => simp [data, same]
  · have other : isData c = false := by simp [isData, data]
    simp only [data, other, if_false, Except.ok.injEq, Bool.false_eq_true, false_implies,
      true_and]
    exact eq_comm

theorem store_error {p : ParseState} {c : MessageChunk} {fault : Fault}
    (failed : p.store c = .error fault) :
    fault = .messageSerializationError "invalid msg: multiple data chunks" := by
  unfold ParseState.store at failed
  split at failed
  · split at failed
    · cases failed
      rfl
    · cases failed
  · cases failed

theorem store_seek (p : ParseState) (c : MessageChunk) (itr : Bytes) :
    (ParseState.seek p itr).store c = (p.store c).map fun q => ParseState.seek q itr := by
  unfold ParseState.store
  split
  · cases stored : p.hasData
    · simp [ParseState.seek, ParseState.hasData, Except.map] at stored ⊢
      simp [stored]
    · simp [ParseState.seek, ParseState.hasData, Except.map] at stored ⊢
      simp [stored]
  · rfl

def storeAll (p : ParseState) (chunks : List MessageChunk) : Except Fault ParseState :=
  chunks.foldlM ParseState.store p

theorem storeAll_seek (chunks : List MessageChunk) (p : ParseState) (itr : Bytes) :
    storeAll (ParseState.seek p itr) chunks =
      (storeAll p chunks).map fun q => ParseState.seek q itr := by
  induction chunks generalizing p with
  | nil => rfl
  | cons c chunks ih =>
    simp only [storeAll, List.foldlM_cons] at ih ⊢
    rw [store_seek]
    cases p.store c with
    | error fault => rfl
    | ok q => exact ih q

theorem storeAll_ok_iff (chunks : List MessageChunk) (p q : ParseState) :
    storeAll p chunks = .ok q ↔
      (chunks.filter isData).length + (if p.hasData then 1 else 0) ≤ 1 ∧
      q = { p with
        dataChunk := (chunks.find? isData).getD p.dataChunk
        debugChunks := p.debugChunks ++ chunks.filter (!isData ·) } := by
  induction chunks generalizing p with
  | nil =>
    have room : (if p.hasData then 1 else 0) ≤ 1 := by split <;> omega
    simp only [storeAll, List.foldlM_nil, pure, Except.pure, Except.ok.injEq, List.filter_nil,
      List.length_nil, Nat.zero_add, room, true_and, List.find?_nil, Option.getD_none,
      List.append_nil]
    exact eq_comm
  | cons c chunks ih =>
    simp only [storeAll, List.foldlM_cons, bind_ok_iff, store_ok_iff] at ih ⊢
    cases data : isData c with
    | false =>
      simp only [Bool.false_eq_true, false_implies, true_and, if_false, exists_eq_left, ih]
      simp [data, ParseState.hasData]
    | true =>
      simp only [true_implies, if_true, and_assoc, exists_and_left,
        exists_eq_left, ih, hasData_of_isData data]
      cases stored : p.hasData with
      | true => simp [data]
      | false =>
        have alone : (chunks.filter isData).length + 1 ≤ 1 ↔ chunks.filter isData = [] := by
          simp
        have notFound : chunks.filter isData = [] → chunks.find? isData = none := by
          simp
        simp only [List.filter_cons, data, if_true, List.length_cons, Bool.false_eq_true,
          if_false, alone, Nat.add_zero, List.find?_cons_of_pos, Option.getD_some, true_and]
        refine and_congr_right fun empty => ?_
        rw [notFound empty]
        rfl

/-! A pass of the loop. -/

theorem parseChunk_eq {width : Nat} {p : ParseState} {desc : UInt8} {size : UInt32} {body : Bytes}
    (itr : p.nextItr = desc :: (networkBytes 4 size.toNat ++ body))
    (still : p.stillToParse = p.nextItr.length) (room : chunkMetadataSize < p.nextItr.length)
    (roomy : Roomy width p.nextItr.length) :
    p.parseChunk width =
      if desc &&& ChunkDescriptor.typeMask ≠ ChunkDescriptor.data ∧
          desc &&& ChunkDescriptor.typeMask ≠ ChunkDescriptor.debug then
        .error (.messageSerializationError "invalid msg: invalid chunk descriptor")
      else if body.length < size.toNat then
        .error (.messageSerializationError "invalid msg: missing chunk content")
      else (p.store ⟨desc, size, body.take size.toNat⟩).map fun q =>
        ParseState.seek q (body.drop size.toNat) := by
  have total : p.nextItr.length = 5 + body.length := by
    rw [itr]
    simp
    omega
  have some : 1 ≤ body.length := by
    simp only [chunkMetadataSize] at room
    omega
  have missing : sizeSub p.stillToParse chunkMetadataSize = .ok body.length := by
    rw [sizeSub_ok (by simp only [chunkMetadataSize]; omega), still, total]
    simp [chunkMetadataSize]
  unfold ParseState.parseChunk
  rw [itr, deserializeUInt8_cons]
  simp only [ok_bind]
  split
  · rfl
  · rw [deserializeUInt32_network]
    simp only [missing, ok_bind]
    split
    · rw [if_pos (by omega)]
    · rename_i enough
      have fits : size.toNat ≤ body.length := by omega
      have read : deserializeString size.toNat body =
          .ok (body.take size.toNat, body.drop size.toNat) := by
        simp [deserializeString, readBytes, fits]
      simp only [read, ok_bind]
      cases stored : p.store ⟨desc, size, body.take size.toNat⟩ with
      | error fault => rfl
      | ok q =>
        have small := size.toNat_lt
        have kept : q.stillToParse = p.stillToParse := by rw [(store_ok_iff.mp stored).2]
        have parsed : sizeAdd width chunkMetadataSize size.toNat = .ok (5 + size.toNat) :=
          sizeAdd_ok roomy (by simp only [chunkMetadataSize]; omega)
            (by simp only [chunkMetadataSize]; omega)
        simp only [parsed, ok_bind]
        rw [sizeSub_ok (by omega)]
        simp [pure, Except.pure, Except.map, ParseState.seek]
        omega

theorem optional_iff {desc : UInt8} {size : UInt32} {content : Bytes} :
    (isData ⟨desc, size, content⟩ || isDebug ⟨desc, size, content⟩) = true ↔
      ¬(desc &&& ChunkDescriptor.typeMask ≠ ChunkDescriptor.data ∧
        desc &&& ChunkDescriptor.typeMask ≠ ChunkDescriptor.debug) := by
  simp only [isData, isDebug, MessageChunk.descBit, Bool.or_eq_true, beq_iff_eq, ne_eq]
  tauto

theorem parseChunk_ok_iff {width : Nat} {p q : ParseState}
    (still : p.stillToParse = p.nextItr.length) (room : chunkMetadataSize < p.nextItr.length)
    (roomy : Roomy width p.nextItr.length) :
    p.parseChunk width = .ok q ↔ ∃ c rest q', (isData c || isDebug c) ∧ Sized c ∧
      p.nextItr = octets c ++ rest ∧ p.store c = .ok q' ∧ q = ParseState.seek q' rest := by
  obtain ⟨desc, size, body, itr⟩ := header_split (Nat.le_of_lt room)
  rw [parseChunk_eq itr still room roomy]
  constructor
  · intro parsed
    split at parsed
    · cases parsed
    · rename_i kind
      split at parsed
      · cases parsed
      · rename_i enough
        obtain ⟨q', stored, same⟩ := map_ok_iff.mp parsed
        refine ⟨⟨desc, size, body.take size.toNat⟩, body.drop size.toNat, q', optional_iff.mpr kind,
          ?_, by rw [itr, octets_of_content], stored, same⟩
        simp only [Sized, List.length_take]
        omega
  · rintro ⟨⟨desc', size', content⟩, rest, q', kind, sized, split', stored, same⟩
    rw [itr, octets_append] at split'
    obtain ⟨rfl, rfl, rfl⟩ := header_injective split'
    have sized' : size.toNat = content.length := sized
    rw [if_neg (optional_iff.mp kind), if_neg (by simp [sized']), sized', List.take_left,
      List.drop_left, stored, same]
    rfl

theorem parseChunk_error {width : Nat} {p : ParseState} {fault : Fault}
    (still : p.stillToParse = p.nextItr.length) (room : chunkMetadataSize < p.nextItr.length)
    (roomy : Roomy width p.nextItr.length) (failed : p.parseChunk width = .error fault) :
    ∃ text, fault = .messageSerializationError text := by
  obtain ⟨desc, size, body, itr⟩ := header_split (Nat.le_of_lt room)
  rw [parseChunk_eq itr still room roomy] at failed
  split at failed
  · exact ⟨_, (Except.error.inj failed).symm⟩
  · split at failed
    · exact ⟨_, (Except.error.inj failed).symm⟩
    · cases stored : p.store ⟨desc, size, body.take size.toNat⟩ with
      | error other =>
        rw [stored] at failed
        exact ⟨_, (Except.error.inj failed).symm.trans (store_error stored)⟩
      | ok q =>
        rw [stored] at failed
        cases failed

/-! The loop. -/

theorem seek_self {p : ParseState} (still : p.stillToParse = p.nextItr.length) :
    ParseState.seek p p.nextItr = p := by
  cases p
  simp_all [ParseState.seek]

theorem splits_short {s tail : Bytes} {chunks : List MessageChunk}
    (short : s.length ≤ chunkMetadataSize) (splits : Splits s chunks tail) :
    chunks = [] ∧ tail = s := by
  cases chunks with
  | nil => exact ⟨rfl, splits.1.symm⟩
  | cons c chunks =>
    have long := splits.1
    omega

theorem roomy_mono {width n m : Nat} (roomy : Roomy width n) (less : m ≤ n) : Roomy width m := by
  rcases roomy with wide | ⟨exact32, bounded⟩
  · exact .inl wide
  · exact .inr ⟨exact32, by omega⟩

theorem parseChunks_short {width : Nat} (fuel : Nat) {p : ParseState}
    (short : ¬chunkMetadataSize < p.stillToParse) :
    ParseState.parseChunks width fuel p = .ok p := by
  unfold ParseState.parseChunks
  rw [if_neg short]

theorem parseChunks_long {width fuel : Nat} {p : ParseState}
    (long : chunkMetadataSize < p.stillToParse) :
    ParseState.parseChunks width (fuel + 1) p =
      p.parseChunk width >>= ParseState.parseChunks width fuel := by
  rw [ParseState.parseChunks, if_pos long]

theorem storeAll_cons (p : ParseState) (c : MessageChunk) (chunks : List MessageChunk) :
    storeAll p (c :: chunks) = p.store c >>= fun q => storeAll q chunks := rfl

theorem short_ok_iff {p q : ParseState} (still : p.stillToParse = p.nextItr.length)
    (short : p.nextItr.length ≤ chunkMetadataSize) :
    p = q ↔ ∃ chunks tail q', Splits p.nextItr chunks tail ∧ storeAll p chunks = .ok q' ∧
      q = ParseState.seek q' tail := by
  constructor
  · rintro rfl
    exact ⟨[], p.nextItr, p, ⟨rfl, short⟩, rfl, (seek_self still).symm⟩
  · rintro ⟨chunks, tail, q', splits, stored, same⟩
    obtain ⟨rfl, rfl⟩ := splits_short short splits
    cases stored
    rw [same, seek_self still]

theorem parseChunks_ok_iff {width : Nat} (fuel : Nat) (p q : ParseState)
    (still : p.stillToParse = p.nextItr.length) (enough : p.nextItr.length ≤ fuel)
    (roomy : Roomy width p.nextItr.length) :
    ParseState.parseChunks width fuel p = .ok q ↔
      ∃ chunks tail q', Splits p.nextItr chunks tail ∧ storeAll p chunks = .ok q' ∧
        q = ParseState.seek q' tail := by
  induction fuel generalizing p with
  | zero =>
    have short : p.nextItr.length ≤ chunkMetadataSize := by omega
    rw [parseChunks_short 0 (by omega), Except.ok.injEq]
    exact short_ok_iff still short
  | succ fuel ih =>
    by_cases long : chunkMetadataSize < p.nextItr.length
    · rw [parseChunks_long (by omega)]
      simp only [bind_ok_iff, parseChunk_ok_iff still long roomy]
      have after : ∀ c rest, p.nextItr = octets c ++ rest → rest.length < p.nextItr.length := by
        intro c rest split
        rw [split, List.length_append, octets_length]
        omega
      have step : ∀ c rest q', p.nextItr = octets c ++ rest →
          (ParseState.parseChunks width fuel (ParseState.seek q' rest) = .ok q ↔
            ∃ chunks tail r, Splits rest chunks tail ∧
              storeAll (ParseState.seek q' rest) chunks = .ok r ∧ q = ParseState.seek r tail) := by
        intro c rest q' split
        have less := after c rest split
        exact ih (ParseState.seek q' rest) rfl (by simp only [ParseState.seek]; omega)
          (roomy_mono roomy (Nat.le_of_lt less))
      constructor
      · rintro ⟨m, ⟨c, rest, q', kind, sized, split, stored, rfl⟩, parsed⟩
        obtain ⟨chunks, tail, r, splits, storedAll, same⟩ := (step c rest q' split).mp parsed
        rw [storeAll_seek] at storedAll
        obtain ⟨r', final, rfl⟩ := map_ok_iff.mp storedAll
        refine ⟨c :: chunks, tail, r', ⟨long, kind, sized, rest, split, splits⟩, ?_, same⟩
        rw [storeAll_cons, stored]
        exact final
      · rintro ⟨chunks, tail, r, splits, storedAll, same⟩
        cases chunks with
        | nil =>
          obtain ⟨whole, short⟩ := splits
          rw [whole] at long
          omega
        | cons c chunks =>
          obtain ⟨_, kind, sized, rest, split, splits⟩ := splits
          rw [storeAll_cons] at storedAll
          obtain ⟨q', stored, final⟩ := bind_ok_iff.mp storedAll
          refine ⟨ParseState.seek q' rest, ⟨c, rest, q', kind, sized, split, stored, rfl⟩, ?_⟩
          refine (step c rest q' split).mpr ⟨chunks, tail, ParseState.seek r rest, splits, ?_, same⟩
          rw [storeAll_seek, final]
          rfl
    · rw [parseChunks_short _ (by omega), Except.ok.injEq]
      exact short_ok_iff still (by omega)

theorem bind_error {α β : Type} {first : Except Fault α} {next : α → Except Fault β}
    {fault : Fault} (failed : (first >>= next) = .error fault) :
    first = .error fault ∨ ∃ a, first = .ok a ∧ next a = .error fault := by
  cases first with
  | error other => exact .inl (by simpa using failed)
  | ok a => exact .inr ⟨a, rfl, failed⟩

theorem parseChunks_error {width : Nat} (fuel : Nat) (p : ParseState) {fault : Fault}
    (still : p.stillToParse = p.nextItr.length) (enough : p.nextItr.length ≤ fuel)
    (roomy : Roomy width p.nextItr.length)
    (failed : ParseState.parseChunks width fuel p = .error fault) :
    ∃ text, fault = .messageSerializationError text := by
  induction fuel generalizing p with
  | zero =>
    rw [parseChunks_short 0 (by omega)] at failed
    cases failed
  | succ fuel ih =>
    by_cases long : chunkMetadataSize < p.nextItr.length
    · rw [parseChunks_long (by omega)] at failed
      rcases bind_error failed with now | ⟨m, parsed, later⟩
      · exact parseChunk_error still long roomy now
      · obtain ⟨c, rest, q', _, _, split, _, rfl⟩ :=
          (parseChunk_ok_iff still long roomy).mp parsed
        have less : rest.length < p.nextItr.length := by
          rw [split, List.length_append, octets_length]
          omega
        exact ih (ParseState.seek q' rest) rfl (by simp only [ParseState.seek]; omega)
          (roomy_mono roomy (Nat.le_of_lt less)) later
    · rw [parseChunks_short _ (by omega)] at failed
      cases failed

end PcpWireGrammar
