import PcpClient.WireParser

/-!
parseMessage() on sizes of any value: no read leaves the buffer, no size_t arithmetic wraps,
no assertion fails and the loop ends, with a size_t of 32 or of 64 bits.
-/
namespace PcpParserSafety
open PcpOctets PcpSerialization PcpMessageV1 PcpWireGrammar PcpWireParser

/-- An error that the parser throws by its own decision. -/
def Reported (fault : Fault) : Prop :=
  ∃ text, fault = .messageSerializationError text ∨ fault = .unsupportedVersionError text

/-- The invariant of the loop: the iterator is in the buffer, and still_to_parse counts the
    bytes from it to the end. -/
structure InBuffer (s : Bytes) (p : ParseState) : Prop where
  inside : p.nextItr <:+ s
  still : p.stillToParse = p.nextItr.length

def PassSafe (s : Bytes) (p : ParseState) : Except Fault ParseState → Prop
  | .ok q => InBuffer s q ∧ q.stillToParse + chunkMetadataSize ≤ p.stillToParse
  | .error fault => Reported fault

theorem roomy_of_word {width n : Nat} (word : width = 32 ∨ width = 64) (fits : n < 2 ^ width) :
    Roomy width n := by
  rcases word with rfl | rfl
  · exact .inr ⟨rfl, fits⟩
  · exact .inl (by omega)

theorem pass_safe {width : Nat} {s : Bytes} {p : ParseState} (roomy : Roomy width s.length)
    (held : InBuffer s p) (more : chunkMetadataSize < p.stillToParse) :
    PassSafe s p (p.parseChunk width) := by
  have room : chunkMetadataSize < p.nextItr.length := held.still ▸ more
  have small : Roomy width p.nextItr.length := roomy_mono roomy held.inside.length_le
  cases parsed : p.parseChunk width with
  | error fault =>
    obtain ⟨text, reported⟩ := parseChunk_error held.still room small parsed
    exact ⟨text, .inl reported⟩
  | ok q =>
    obtain ⟨c, rest, q', _, _, split, _, rfl⟩ := (parseChunk_ok_iff held.still room small).mp parsed
    refine ⟨⟨?_, rfl⟩, ?_⟩
    · exact (split ▸ List.suffix_append (octets c) rest).trans held.inside
    · rw [held.still, split, List.length_append, octets_length]
      simp only [ParseState.seek, chunkMetadataSize]
      omega

theorem parseMessage_reports {width : Nat} {s : Bytes} {fault : Fault}
    (roomy : Roomy width s.length) (failed : parseMessage width s = .error fault) :
    Reported fault := by
  rcases parseMessage_error roomy failed with ⟨_, _, text, same⟩ | ⟨_, text, same⟩
  · exact ⟨text, .inr same⟩
  · exact ⟨text, .inl same⟩

/-- Whatever its sizes say, a message that fits in memory is parsed or reported, and each pass
    of the loop keeps the iterator and still_to_parse together and makes the latter smaller. -/
theorem hostile_sizes_safe (width : Nat) (word : width = 32 ∨ width = 64) (s : Bytes)
    (fits : s.length < 2 ^ width) :
    (∀ fault, parseMessage width s = .error fault → Reported fault) ∧
      ∀ p, InBuffer s p → chunkMetadataSize < p.stillToParse →
        PassSafe s p (p.parseChunk width) := by
  have roomy := roomy_of_word word fits
  exact ⟨fun _ failed => parseMessage_reports roomy failed,
    fun _ held more => pass_safe roomy held more⟩

theorem huge_chunk_reported :
    parseMessage 32 [1, 1, 0, 0, 0, 2, 123, 125, 2, 255, 255, 255, 255, 7] =
        .error (.messageSerializationError "invalid msg: missing chunk content") ∧
      Reported (.messageSerializationError "invalid msg: missing chunk content") := by
  have failed : parseMessage 32 [1, 1, 0, 0, 0, 2, 123, 125, 2, 255, 255, 255, 255, 7] =
      .error (.messageSerializationError "invalid msg: missing chunk content") := by decide
  exact ⟨failed, (hostile_sizes_safe 32 (.inl rfl) _ (by decide)).1 _ failed⟩

end PcpParserSafety
