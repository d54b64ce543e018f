import PcpClient.WireRoundTrip

/-!
What becomes of a v1 message on its way: a frame that is cut short, one that is followed by
another, and a message that is parsed and serialized again by each that hands it on.
-/
namespace PcpWireFraming
open PcpOctets PcpSerialization PcpMessageV1 PcpWireGrammar PcpWireParser PcpWireRoundTrip

def span (chunks : List MessageChunk) : Nat := (chunks.flatMap octets).length

@[simp] theorem span_nil : span [] = 0 := rfl

@[simp] theorem span_cons (c : MessageChunk) (chunks : List MessageChunk) :
    span (c :: chunks) = (octets c).length + span chunks := by
  simp [span]

theorem octets_take_iff {c d : MessageChunk} {rest left : Bytes} {k : Nat} (sized : Sized c)
    (sized' : Sized d) :
    (octets c ++ rest).take k = octets d ++ left ↔
      d = c ∧ (octets c).length ≤ k ∧ left = rest.take (k - (octets c).length) := by
  constructor
  · intro same
    have whole := List.take_append_drop k (octets c ++ rest)
    rw [same, List.append_assoc] at whole
    obtain ⟨rfl, _⟩ := octets_injective sized' sized whole
    have room : (octets d).length ≤ k := by
      have short := List.length_take_le k (octets d ++ rest)
      rw [same, List.length_append] at short
      omega
    rw [List.take_append, List.take_of_length_le room] at same
    exact ⟨rfl, room, (List.append_cancel_left same).symm⟩
  · rintro ⟨rfl, room, rfl⟩
    rw [List.take_append, List.take_of_length_le room]

/-! A cut. -/

/-- The chunks that are read from the first k bytes: no fewer of them leave five bytes or
    less. -/
structure Kept (chunks kept : List MessageChunk) (k : Nat) : Prop where
  isPrefix : kept <+: chunks
  inside : span kept ≤ k
  short : k ≤ span kept + chunkMetadataSize
  first : ∀ fewer, fewer <+: kept → fewer ≠ kept → span fewer + chunkMetadataSize < k

theorem kept_nil {chunks : List MessageChunk} {k : Nat} (short : k ≤ chunkMetadataSize) :
    Kept chunks [] k where
  isPrefix := List.nil_prefix
  inside := Nat.zero_le k
  short := by simpa using short
  first fewer isPrefix other := absurd (List.prefix_nil.mp isPrefix) other

theorem kept_of_short {chunks kept : List MessageChunk} {k : Nat} (keeps : Kept chunks kept k)
    (short : k ≤ chunkMetadataSize) : kept = [] := by
  by_contra some
  have long := keeps.first [] List.nil_prefix (Ne.symm some)
  rw [span_nil] at long
  omega

theorem kept_cons_iff {c : MessageChunk} {chunks kept : List MessageChunk} {k : Nat}
    (long : chunkMetadataSize < k) :
    Kept (c :: chunks) (c :: kept) k ↔
      (octets c).length ≤ k ∧ Kept chunks kept (k - (octets c).length) := by
  constructor
  · rintro ⟨isPrefix, inside, short, first⟩
    rw [span_cons] at inside short
    refine ⟨by omega, (List.cons_prefix_cons.mp isPrefix).2, by omega, by omega, ?_⟩
    intro fewer less other
    have later := first (c :: fewer) (List.cons_prefix_cons.mpr ⟨rfl, less⟩) (by simpa using other)
    rw [span_cons] at later
    omega
  · rintro ⟨room, isPrefix, inside, short, first⟩
    refine ⟨List.cons_prefix_cons.mpr ⟨rfl, isPrefix⟩, by rw [span_cons]; omega,
      by rw [span_cons]; omega, ?_⟩
    intro fewer less other
    cases fewer with
    | nil => rwa [span_nil, Nat.zero_add]
    | cons d fewer =>
      obtain ⟨rfl, within⟩ := List.cons_prefix_cons.mp less
      have later := first fewer within (by simpa using other)
      rw [span_cons]
      omega

theorem splits_take_iff (chunks : List MessageChunk) :
    ∀ {s tail : Bytes} {k : Nat} (kept : List MessageChunk), Splits s chunks tail →
      k ≤ s.length → ((∃ left, Splits (s.take k) kept left) ↔ Kept chunks kept k) := by
  have shortCase : ∀ {s : Bytes} {chunks : List MessageChunk} {k : Nat}
      (kept : List MessageChunk), k ≤ chunkMetadataSize → k ≤ s.length →
      ((∃ left, Splits (s.take k) kept left) ↔ Kept chunks kept k) := by
    intro s chunks k kept short bound
    have length : (s.take k).length = k := List.length_take_of_le bound
    constructor
    · rintro ⟨left, splits⟩
      obtain ⟨rfl, _⟩ := splits_short (by omega) splits
      exact kept_nil short
    · intro keeps
      obtain rfl := kept_of_short keeps short
      exact ⟨s.take k, rfl, by omega⟩
  induction chunks with
  | nil =>
    intro s tail k kept splits bound
    obtain ⟨rfl, short⟩ := splits
    exact shortCase kept (by omega) bound
  | cons c chunks ih =>
    intro s tail k kept splits bound
    by_cases short : k ≤ chunkMetadataSize
    · exact shortCase kept short bound
    · obtain ⟨_, kind, sized, rest, rfl, more⟩ := splits
      have length : ((octets c ++ rest).take k).length = k := List.length_take_of_le bound
      constructor
      · rintro ⟨left, cut⟩
        cases kept with
        | nil =>
          obtain ⟨same, less⟩ := cut
          rw [← same] at less
          omega
        | cons d kept =>
          obtain ⟨_, _, sized', rest', same, later⟩ := cut
          obtain ⟨rfl, room, rfl⟩ := (octets_take_iff sized sized').mp same
          rw [List.length_append] at bound
          exact (kept_cons_iff (by omega)).mpr
            ⟨room, (ih kept more (by omega)).mp ⟨left, later⟩⟩
      · intro keeps
        cases kept with
        | nil =>
          have := keeps.short
          rw [span_nil] at this
          omega
        | cons d kept =>
          obtain ⟨rfl, _⟩ := List.cons_prefix_cons.mp keeps.isPrefix
          obtain ⟨room, keeps⟩ := (kept_cons_iff (by omega)).mp keeps
          rw [List.length_append] at bound
          obtain ⟨left, later⟩ := (ih kept more (by omega)).mpr keeps
          exact ⟨left, by omega, kind, sized, _, (octets_take_iff sized sized).mpr ⟨rfl, room, rfl⟩,
            later⟩

theorem kept_oneData {chunks kept : List MessageChunk} {k : Nat} (keeps : Kept chunks kept k)
    (oneData : (chunks.filter isData).length ≤ 1) : (kept.filter isData).length ≤ 1 :=
  (keeps.isPrefix.filter isData).length_le.trans oneData

/-- A frame that is cut short is accepted if and only if the cut comes at most five bytes after
    a chunk, and it is read as the message of the chunks up to the first such one. -/
theorem truncated_iff {s tail : Bytes} {envelope : MessageChunk} {chunks : List MessageChunk}
    (grammar : Decomposes s envelope chunks tail) {k : Nat} (bound : k ≤ s.length) (m : Message) :
    parseMessage 64 (s.take k) = .ok m ↔
      ∃ kept, 1 + (octets envelope).length ≤ k ∧
        Kept chunks kept (k - (1 + (octets envelope).length)) ∧ m = assemble envelope kept := by
  obtain ⟨⟨rest, rfl, splits⟩, kind, sized, small, oneData⟩ := grammar
  rw [parseMessage_ok_iff _ (.inl (by omega))]
  rw [List.length_cons, List.length_append] at bound
  have cut : k = 0 ∨ ((1 : UInt8) :: (octets envelope ++ rest)).take k =
      1 :: (octets envelope ++ rest).take (k - 1) := by
    cases k with
    | zero => exact .inl rfl
    | succ k => exact .inr rfl
  constructor
  · rintro ⟨other, kept, left, ⟨⟨rest', same, later⟩, _, sized', _, _⟩, rfl⟩
    rcases cut with rfl | cut
    · cases same
    · rw [cut] at same
      obtain ⟨rfl, room, rfl⟩ := (octets_take_iff sized sized').mp (List.cons.inj same).2
      have header := octets_length other
      rw [Nat.sub_sub] at later
      exact ⟨kept, by omega, (splits_take_iff chunks kept splits (by omega)).mp ⟨left, later⟩, rfl⟩
  · rintro ⟨kept, room, keeps, rfl⟩
    obtain ⟨left, later⟩ := (splits_take_iff chunks kept splits (by omega)).mpr keeps
    rcases cut with rfl | cut
    · omega
    · refine ⟨envelope, kept, left, ⟨⟨_, ?_, later⟩, kind, sized, small,
        kept_oneData keeps oneData⟩, rfl⟩
      rw [cut]
      refine congrArg _ ((octets_take_iff sized sized).mpr ⟨rfl, by omega, ?_⟩)
      rw [Nat.sub_sub]

/-! Two messages in one frame. -/

theorem version_not_optional {c : MessageChunk} (version : c.descriptor = 1) :
    (isData c || isDebug c) = false := by
  simp only [isData, isDebug, MessageChunk.descBit, version]
  decide

/-- After the chunks of a message the first byte of another is no descriptor. -/
theorem not_splits_followed (chunks : List MessageChunk) {frame : Bytes}
    (long : chunkMetadataSize < frame.length) (version : frame.head? = some 1)
    (sized : ∀ c ∈ chunks, Sized c) :
    ∀ chunks' tail, ¬Splits (chunks.flatMap octets ++ frame) chunks' tail := by
  have room : chunkMetadataSize < (chunks.flatMap octets ++ frame).length := by
    rw [List.length_append]
    omega
  induction chunks with
  | nil =>
    intro chunks' tail splits
    cases chunks' with
    | nil =>
      obtain ⟨rfl, short⟩ := splits
      exact absurd room (by simpa using short)
    | cons c rest =>
      obtain ⟨_, kind, _, left, same, _⟩ := splits
      have first : some c.descriptor = some 1 := by
        rw [← version, ← List.nil_append frame]
        exact (congrArg List.head? same).symm
      rw [version_not_optional (Option.some.inj first)] at kind
      cases kind
  | cons d chunks ih =>
    intro chunks' tail splits
    cases chunks' with
    | nil =>
      obtain ⟨rfl, short⟩ := splits
      omega
    | cons c rest =>
      obtain ⟨_, _, sized', left, same, later⟩ := splits
      rw [List.flatMap_cons, List.append_assoc] at same
      obtain ⟨rfl, rfl⟩ := octets_injective (sized d (by simp)) sized' same
      refine ih (fun e mem => sized e (by simp [mem])) ?_ rest tail later
      rw [List.length_append]
      omega

theorem accepted_head {s : Bytes} {m : Message} (accepted : parseMessage 64 s = .ok m) :
    chunkMetadataSize < s.length ∧ s.head? = some 1 := by
  obtain ⟨envelope, chunks, tail, ⟨⟨rest, rfl, _⟩, _⟩, _⟩ :=
    (parseMessage_ok_iff s (.inl (by omega)) m).mp accepted
  refine ⟨?_, rfl⟩
  rw [List.length_cons, List.length_append, octets_length, chunkMetadataSize]
  omega

/-- A frame of a message and another frame is rejected. -/
theorem concatenation_rejected {m other : Message} {frame : Bytes} (built : Built m)
    (typed : WellTyped m) (accepted : parseMessage 64 frame = .ok other) :
    ∃ bytes, m.getSerialized = .ok bytes ∧
      ∃ text, parseMessage 64 (bytes ++ frame) = .error (.messageSerializationError text) := by
  have valid := built_validated built
  have sized : ∀ c ∈ allChunks m, Sized c := fun c mem =>
    sized_of_small (valid.sizes c mem) (by have small := typed.small c mem; omega)
  refine ⟨_, getSerialized_ok sized, ?_⟩
  obtain ⟨long, version⟩ := accepted_head accepted
  rw [valid.version]
  cases parsed : parseMessage 64 (1 :: (allChunks m).flatMap octets ++ frame) with
  | ok both =>
    obtain ⟨envelope, chunks, tail, ⟨⟨rest, same, splits⟩, _, sized', _⟩, _⟩ :=
      (parseMessage_ok_iff _ (.inl (by omega)) both).mp parsed
    rw [allChunks, List.flatMap_cons, List.cons_append, List.append_assoc] at same
    obtain ⟨rfl, rfl⟩ := octets_injective (sized _ (by simp [allChunks])) sized'
      (List.cons.inj same).2
    exact absurd splits (not_splits_followed (optionalChunks m) long version
      (fun c mem => sized c (by simp [allChunks, mem])) chunks tail)
  | error fault =>
    rcases parseMessage_error (.inl (by omega)) parsed with ⟨_, other, _⟩ | ⟨_, text, rfl⟩
    · exact absurd rfl other
    · exact ⟨text, rfl⟩

/-! A message that is handed on. -/

/-- What holds of a built message and of a parsed one. -/
structure WellFormed (m : Message) : Prop where
  version : m.version = 1
  envelope : m.envelopeChunk.descBit = ChunkDescriptor.envelope
  small : m.envelopeChunk.content.length ≤ 2 ^ 32 - 7
  sized : ∀ c ∈ allChunks m, Sized c
  kinds : m.hasData = true → isData m.dataChunk = true
  debug : ∀ d ∈ m.debugChunks, isDebug d = true
  noData : m.hasData = false → m.dataChunk = {}

theorem wellFormed_built {m : Message} (built : Built m) (typed : WellTyped m) :
    WellFormed m where
  version := (built_validated built).version
  envelope := typed.envelope
  small := by
    have small := typed.small m.envelopeChunk (by simp [allChunks])
    omega
  sized c mem := by
    have small := typed.small c mem
    exact sized_of_small ((built_validated built).sizes c mem) (by omega)
  kinds := typed.data
  debug := typed.debug
  noData := (built_validated built).noData

theorem splits_sized {chunks : List MessageChunk} : ∀ {s tail : Bytes}, Splits s chunks tail →
    ∀ c ∈ chunks, Sized c := by
  induction chunks with
  | nil => exact fun _ c mem => nomatch mem
  | cons d chunks ih =>
    intro s tail splits c mem
    obtain ⟨_, _, sized, rest, _, more⟩ := splits
    rcases List.mem_cons.mp mem with rfl | later
    · exact sized
    · exact ih more c later

theorem wellFormed_parsed {s : Bytes} {m : Message} (accepted : parseMessage 64 s = .ok m) :
    WellFormed m := by
  obtain ⟨envelope, chunks, tail, ⟨⟨rest, _, splits⟩, kind, sized, small, _⟩, rfl⟩ :=
    (parseMessage_ok_iff s (.inl (by omega)) m).mp accepted
  have every := splits_sized splits
  have data : (assemble envelope chunks).hasData = true →
      ∃ d ∈ chunks, isData d = true ∧ (assemble envelope chunks).dataChunk = d := by
    intro present
    cases found : chunks.find? isData with
    | none => simp [assemble, Message.hasData, found] at present
    | some d =>
      exact ⟨d, List.mem_of_find?_eq_some found, List.find?_some found, by simp [assemble, found]⟩
  refine ⟨rfl, kind, small, ?_, ?_, fun d mem => (List.mem_filter.mp mem).2, ?_⟩
  · intro c mem
    rcases List.mem_cons.mp mem with rfl | optional
    · exact sized
    · rcases List.mem_append.mp optional with isTheData | debug
      · split at isTheData
        · obtain ⟨d, member, _, same⟩ := data ‹_›
          rw [List.mem_singleton.mp isTheData, same]
          exact every d member
        · cases isTheData
      · exact every c (List.mem_filter.mp debug).1
  · intro present
    obtain ⟨d, _, isTheData, same⟩ := data present
    rwa [same]
  · intro absent
    cases found : chunks.find? isData with
    | none => simp [assemble, found]
    | some d =>
      have stored := hasData_of_isData (p := ⟨[], 0, {}, []⟩) (List.find?_some found)
      simp only [assemble, Message.hasData, found, Option.getD_some] at absent
      rw [ParseState.hasData, absent] at stored
      cases stored

def dropEmptyLast (m : Message) : Message :=
  match m.debugChunks.getLast? with
  | some c => if c.content = [] then { m with debugChunks := m.debugChunks.dropLast } else m
  | none => if m.dataChunk.content = [] then { m with dataChunk := {} } else m

def dropEmpty (chunks : List MessageChunk) : List MessageChunk :=
  match chunks.getLast? with
  | some c => if c.content = [] then chunks.dropLast else chunks
  | none => chunks

theorem dropEmpty_concat (rest : List MessageChunk) (c : MessageChunk) :
    dropEmpty (rest ++ [c]) = if c.content = [] then rest else rest ++ [c] := by
  simp [dropEmpty]

def relay (m : Message) : Except Fault Message := m.getSerialized >>= parseMessage 64

theorem optional_dropEmptyLast {m : Message} (formed : WellFormed m) :
    optionalChunks (dropEmptyLast m) = dropEmpty (optionalChunks m) := by
  unfold dropEmptyLast dropEmpty
  rcases List.eq_nil_or_concat m.debugChunks with none | ⟨rest, c, some⟩
  · cases present : m.hasData with
    | true =>
      simp only [none, List.getLast?_nil, optionalChunks, present, if_true, List.append_nil,
        List.getLast?_singleton]
      split
      · simp [Message.hasData]
      · simp [none]
    | false =>
      have empty := formed.noData present
      simp [none, optionalChunks, empty, Message.hasData]
  · rw [List.concat_eq_append] at some
    simp only [some, List.getLast?_concat, optionalChunks, ← List.append_assoc]
    split <;> simp [Message.hasData, some]

theorem wellFormed_dropEmptyLast {m : Message} (formed : WellFormed m) :
    WellFormed (dropEmptyLast m) := by
  obtain ⟨version, envelope, small, sized, kinds, debug, noData⟩ := formed
  unfold dropEmptyLast
  split
  · split
    · have fewer : ∀ d ∈ m.debugChunks.dropLast, d ∈ m.debugChunks := fun d mem =>
        List.dropLast_subset m.debugChunks mem
      refine ⟨version, envelope, small, fun c mem => sized c ?_, kinds,
        fun d mem => debug d (fewer d mem), noData⟩
      simp only [allChunks, optionalChunks, List.mem_cons, List.mem_append] at mem ⊢
      exact mem.imp_right fun optional => optional.imp_right (fewer c)
    · exact ⟨version, envelope, small, sized, kinds, debug, noData⟩
  · split
    · refine ⟨version, envelope, small, fun c mem => sized c ?_, fun present => ?_, debug,
        fun _ => rfl⟩
      · have noData : c ∉ ([] : List MessageChunk) := List.not_mem_nil
        simp only [allChunks, optionalChunks, List.mem_cons, List.mem_append] at mem ⊢
        exact mem.imp_right fun optional => .inr (optional.resolve_left noData)
      · cases present
    · exact ⟨version, envelope, small, sized, kinds, debug, noData⟩

section wellFormed
variable {m : Message}

theorem optional_of_wellFormed (formed : WellFormed m) :
    ∀ c ∈ optionalChunks m, isData c || isDebug c := by
  intro c mem
  rcases List.mem_append.mp mem with data | debug
  · split at data
    · rw [List.mem_singleton.mp data, formed.kinds ‹_›, Bool.true_or]
    · cases data
  · rw [formed.debug c debug, Bool.or_true]

theorem assemble_wellFormed (formed : WellFormed m) :
    assemble m.envelopeChunk (optionalChunks m) = m := by
  obtain ⟨noDebugData, onlyDebug⟩ := debug_filters formed.debug
  have notFound : m.debugChunks.find? isData = none := by simpa using noDebugData
  cases present : m.hasData with
  | false =>
    have same : assemble m.envelopeChunk m.debugChunks = { m with dataChunk := {} } := by
      simp [assemble, notFound, onlyDebug, ← formed.version]
    rw [optionalChunks, present, if_neg Bool.false_ne_true, List.nil_append, same,
      ← formed.noData present]
  | true =>
    have isTheData := formed.kinds present
    simp [assemble, optionalChunks, present, isTheData, data_not_debug isTheData, onlyDebug,
      ← formed.version]

theorem oneData_of_wellFormed (formed : WellFormed m) :
    ((optionalChunks m).filter isData).length ≤ 1 := by
  rw [optionalChunks, List.filter_append, (debug_filters formed.debug).1, List.append_nil]
  exact (List.length_filter_le _ _).trans (by split <;> simp)

theorem splits_dropEmpty (chunks : List MessageChunk) (sized : ∀ c ∈ chunks, Sized c)
    (kinds : ∀ c ∈ chunks, isData c || isDebug c) :
    ∃ tail, Splits (chunks.flatMap octets) (dropEmpty chunks) tail := by
  rcases List.eq_nil_or_concat chunks with rfl | ⟨rest, c, rfl⟩
  · exact ⟨[], rfl, Nat.zero_le _⟩
  · rw [List.concat_eq_append] at sized kinds ⊢
    rw [dropEmpty_concat]
    by_cases empty : c.content = []
    · rw [if_pos empty, List.flatMap_append, List.flatMap_singleton]
      refine ⟨octets c, splits_flatMap rest (octets c) (fun d mem => sized d (by simp [mem]))
        (fun d mem => kinds d (by simp [mem])) ?_ (fun _ _ => .inr (by simp [octets]))⟩
      simp [octets_length, empty, chunkMetadataSize]
    · rw [if_neg empty]
      have splits := splits_flatMap (rest ++ [c]) [] sized kinds (Nat.zero_le _) fun d last => by
        rw [List.getLast?_concat, Option.some.injEq] at last
        exact .inl (last ▸ empty)
      rw [List.append_nil] at splits
      exact ⟨[], splits⟩

theorem relay_eq (formed : WellFormed m) : relay m = .ok (dropEmptyLast m) := by
  have optional : ∀ c ∈ optionalChunks m, Sized c := fun c mem =>
    formed.sized c (List.mem_cons_of_mem _ mem)
  obtain ⟨tail, splits⟩ := splits_dropEmpty (optionalChunks m) optional
    (optional_of_wellFormed formed)
  have later := wellFormed_dropEmptyLast formed
  have same := optional_dropEmptyLast formed
  have envelope : (dropEmptyLast m).envelopeChunk = m.envelopeChunk := by
    unfold dropEmptyLast
    repeat' split
    all_goals rfl
  rw [relay, getSerialized_ok formed.sized, ok_bind, parseMessage_ok_iff _ (.inl (by omega))]
  refine ⟨m.envelopeChunk, dropEmpty (optionalChunks m), tail, ⟨⟨_, ?_, splits⟩, formed.envelope,
    formed.sized _ List.mem_cons_self, formed.small, ?_⟩, ?_⟩
  · rw [formed.version, allChunks, List.flatMap_cons]
  · rw [← same]
    exact oneData_of_wellFormed later
  · rw [← same, ← envelope, assemble_wellFormed later]

end wellFormed

def relays : Nat → Message → Except Fault Message
  | 0, m => .ok m
  | n + 1, m => relay m >>= relays n

def trailing (chunks : List MessageChunk) : Nat :=
  (chunks.reverse.takeWhile fun c => c.content.isEmpty).length

theorem trailing_concat (rest : List MessageChunk) (c : MessageChunk) :
    trailing (rest ++ [c]) = if c.content = [] then trailing rest + 1 else 0 := by
  unfold trailing
  rw [List.reverse_concat, List.takeWhile_cons]
  cases c.content <;> simp

theorem dropEmpty_take (chunks : List MessageChunk) :
    dropEmpty chunks = chunks.take (chunks.length - min 1 (trailing chunks)) ∧
      trailing (dropEmpty chunks) = trailing chunks - 1 := by
  rcases List.eq_nil_or_concat chunks with rfl | ⟨rest, c, rfl⟩
  · exact ⟨rfl, rfl⟩
  · rw [List.concat_eq_append, dropEmpty_concat, trailing_concat, List.length_append]
    by_cases empty : c.content = []
    · simp [empty]
    · have all : (rest ++ [c]).take (rest.length + 1) = rest ++ [c] :=
        List.take_of_length_le (by simp)
      simp [empty, trailing_concat, all]

theorem envelope_dropEmptyLast (m : Message) :
    (dropEmptyLast m).envelopeChunk = m.envelopeChunk := by
  unfold dropEmptyLast
  repeat' split
  all_goals rfl

theorem relays_eq (n : Nat) : ∀ {m : Message}, WellFormed m →
    ∃ later, relays n m = .ok later ∧ WellFormed later ∧
      later.envelopeChunk = m.envelopeChunk ∧
      optionalChunks later = (optionalChunks m).take
        ((optionalChunks m).length - min n (trailing (optionalChunks m))) ∧
      trailing (optionalChunks later) = trailing (optionalChunks m) - n := by
  induction n with
  | zero => exact fun {m} formed => ⟨m, rfl, formed, rfl, by simp, rfl⟩
  | succ n ih =>
    intro m formed
    obtain ⟨later, handed, formed', envelope, optional, left⟩ :=
      ih (wellFormed_dropEmptyLast formed)
    obtain ⟨first, fewer⟩ := dropEmpty_take (optionalChunks m)
    rw [optional_dropEmptyLast formed, fewer] at optional left
    refine ⟨later, ?_, formed', envelope.trans (envelope_dropEmptyLast m), ?_, by omega⟩
    · rw [relays, relay_eq formed]
      exact handed
    · rw [optional, first, List.take_take, List.length_take]
      congr 1
      omega

theorem relay_stable {m : Message} (formed : WellFormed m)
    (none : trailing (optionalChunks m) = 0) : relay m = .ok m := by
  have same := (dropEmpty_take (optionalChunks m)).1
  rw [none, Nat.min_zero, Nat.sub_zero, List.take_length, ← optional_dropEmptyLast formed] at same
  rw [relay_eq formed, ← assemble_wellFormed (wellFormed_dropEmptyLast formed), same,
    envelope_dropEmptyLast, assemble_wellFormed formed]

/-- Parsed and serialized again n times, a message that was built with its chunks in place, or
    received, loses one of the empty chunks at its end each time, as long as there are any, and
    nothing else. -/
theorem handed_on {m : Message}
    (origin : Built m ∧ WellTyped m ∨ ∃ s, parseMessage 64 s = .ok m) (n : Nat) :
    ∃ later, relays n m = .ok later ∧ later.envelopeChunk = m.envelopeChunk ∧
      optionalChunks later = (optionalChunks m).take
        ((optionalChunks m).length - min n (trailing (optionalChunks m))) ∧
      (trailing (optionalChunks m) ≤ n → relay later = .ok later) := by
  have formed : WellFormed m := by
    rcases origin with ⟨built, typed⟩ | ⟨s, accepted⟩
    · exact wellFormed_built built typed
    · exact wellFormed_parsed accepted
  obtain ⟨later, handed, formed', envelope, optional, left⟩ := relays_eq n formed
  exact ⟨later, handed, envelope, optional, fun enough => relay_stable formed' (by omega)⟩

/-! A received frame of an envelope, an empty data chunk and an empty debug chunk. -/

def emptyChunks : Bytes := [1, 1, 0, 0, 0, 2, 0x7b, 0x7d, 2, 0, 0, 0, 0, 3, 0, 0, 0, 0, 9]

def emptyChunksMessage : Message :=
  ⟨1, ⟨1, 2, [0x7b, 0x7d]⟩, ⟨2, 0, []⟩, [⟨3, 0, []⟩]⟩

theorem empty_chunks_handed_on : parseMessage 64 emptyChunks = .ok emptyChunksMessage ∧
    ∃ later, relays 2 emptyChunksMessage = .ok later ∧ optionalChunks later = [] := by
  have received : parseMessage 64 emptyChunks = .ok emptyChunksMessage := by decide
  obtain ⟨later, handed, _, optional, _⟩ := handed_on (.inr ⟨emptyChunks, received⟩) 2
  exact ⟨received, later, handed, optional⟩

theorem empty_chunks_truncated :
    parseMessage 64 (emptyChunks.take 13) = .ok ⟨1, ⟨1, 2, [0x7b, 0x7d]⟩, {}, []⟩ := by
  have grammar : Decomposes emptyChunks ⟨1, 2, [0x7b, 0x7d]⟩ [⟨2, 0, []⟩, ⟨3, 0, []⟩] [9] := by
    have debug : Splits [3, 0, 0, 0, 0, 9] [⟨3, 0, []⟩] [9] :=
      ⟨by decide, by decide, rfl, [9], rfl, rfl, by decide⟩
    have body : Splits [2, 0, 0, 0, 0, 3, 0, 0, 0, 0, 9] [⟨2, 0, []⟩, ⟨3, 0, []⟩] [9] :=
      ⟨by decide, by decide, rfl, _, rfl, debug⟩
    exact ⟨⟨_, rfl, body⟩, rfl, rfl, by decide, by decide⟩
  refine (truncated_iff grammar (k := 13) (by decide) _).mpr ⟨[], by decide, ?_, by decide⟩
  exact kept_nil (by decide)

theorem hello_concatenation_rejected :
    ∃ bytes, Message.getSerialized ⟨1, helloEnvelope, helloData, []⟩ = .ok bytes ∧
      ∃ text, parseMessage 64 (bytes ++ emptyChunks) =
        .error (.messageSerializationError text) := by
  have built : Built ⟨1, helloEnvelope, helloData, []⟩ :=
    .ofData (show Message.ofData helloEnvelope helloData = _ by decide)
  have received : parseMessage 64 emptyChunks = .ok emptyChunksMessage := by decide
  exact concatenation_rejected built ⟨rfl, by decide, by simp, by decide⟩ received

end PcpWireFraming
