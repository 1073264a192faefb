import QomicexConnector.Library.ByteStream

namespace QomicexConnector
namespace Library

/-!
# Streams of self-delimiting messages

A receiver decodes one message after another until the decoder fails.  Here the
decoder is any function that takes a message from the front of a source and leaves
a smaller one.  `SelfDelimiting` is what such a decoder has to offer for an
encoding: a whole frame at the front is decoded to its message and exactly the frame
is consumed, and a frame that breaks off, or an empty source, is noticed as an end
of the stream.  From this alone a stream that is cut anywhere yields the messages
whose frames lie before the cut, and then the error.
-/

section Receivers

variable {Source Message ε : Type*} {decode : Source → Except ε (Message × Source)}
  {size : Source → Nat}

/-- Decode messages until the decoder fails: the messages, and the error. -/
def decodeUntilError (decode : Source → Except ε (Message × Source)) (size : Source → Nat)
    (shrinks : ∀ source message rest, decode source = .ok (message, rest) →
      size rest < size source)
    (source : Source) : List Message × ε :=
  match _decoded : decode source with
  | .error error => ([], error)
  | .ok (message, rest) =>
      let later := decodeUntilError decode size shrinks rest
      (message :: later.1, later.2)
termination_by size source
decreasing_by exact shrinks _ _ _ _decoded

variable {shrinks : ∀ source message rest, decode source = .ok (message, rest) →
  size rest < size source}

theorem decodeUntilError_of_error {source : Source} {error : ε}
    (failed : decode source = .error error) :
    decodeUntilError decode size shrinks source = ([], error) := by
  rw [decodeUntilError]
  split
  · next other result =>
      rw [failed] at result
      cases result
      rfl
  · next result =>
      rw [failed] at result
      cases result

theorem decodeUntilError_of_ok {source rest : Source} {message : Message}
    (decoded : decode source = .ok (message, rest)) :
    decodeUntilError decode size shrinks source =
      (message :: (decodeUntilError decode size shrinks rest).1,
        (decodeUntilError decode size shrinks rest).2) := by
  rw [decodeUntilError]
  split
  · next result =>
      rw [decoded] at result
      cases result
  · next result =>
      rw [decoded] at result
      cases result
      rfl

/-- The decoder takes the frames of admissible messages apart, and notices where one
breaks off.  `missing` is what the source would have had to deliver besides. -/
structure SelfDelimiting (view : Source → List UInt8)
    (decode : Source → Except ε (Message × Source)) (encode : Message → List UInt8)
    (admissible : Message → Prop) (ended : ε → Prop) : Prop where
  whole : ∀ message, admissible message → ∀ source after, view source = encode message ++ after →
    ∃ rest, view rest = after ∧ decode source = .ok (message, rest)
  broken : ∀ message, admissible message → ∀ source missing, missing ≠ [] →
    view source ++ missing = encode message → ∃ error, decode source = .error error ∧ ended error
  silent : ∀ source, view source = [] → ∃ error, decode source = .error error ∧ ended error

/-- Where the frame of the message at `index` ends in the stream. -/
def frameEnd (encode : Message → List UInt8) (messages : List Message) (index : Nat) : Nat :=
  ((messages.take (index + 1)).flatMap encode).length

theorem frameEnd_zero (encode : Message → List UInt8) (message : Message)
    (later : List Message) : frameEnd encode (message :: later) 0 = (encode message).length := by
  rw [frameEnd, List.take_succ_cons, List.take_zero, List.flatMap_singleton]

theorem frameEnd_succ (encode : Message → List UInt8) (message : Message)
    (later : List Message) (index : Nat) :
    frameEnd encode (message :: later) (index + 1) =
      (encode message).length + frameEnd encode later index := by
  rw [frameEnd, List.take_succ_cons, List.flatMap_cons, List.length_append, frameEnd]

/-- A stream of frames that is cut after `cut` bytes yields the messages whose frames
end by then, in order, and after them the end of the stream. -/
theorem SelfDelimiting.decodes_cut {view : Source → List UInt8} {encode : Message → List UInt8}
    {admissible : Message → Prop} {ended : ε → Prop}
    (delimits : SelfDelimiting view decode encode admissible ended) {messages : List Message}
    (all : ∀ message ∈ messages, admissible message) {source : Source} {cut : Nat}
    (shown : view source = (messages.flatMap encode).take cut) :
    ∃ count error, decodeUntilError decode size shrinks source = (messages.take count, error) ∧
      ended error ∧
      ∀ index < messages.length, index < count ↔ frameEnd encode messages index ≤ cut := by
  induction messages generalizing source cut with
  | nil =>
      rw [List.flatMap_nil, List.take_nil] at shown
      rcases delimits.silent source shown with ⟨error, failed, atEnd⟩
      refine ⟨0, error, decodeUntilError_of_error failed, atEnd, ?_⟩
      intro index inside
      exact absurd inside (Nat.not_lt_zero index)
  | cons message later inductionHypothesis =>
      have first := all message List.mem_cons_self
      have others : ∀ other ∈ later, admissible other :=
        fun other listed => all other (List.mem_cons_of_mem message listed)
      rw [List.flatMap_cons, List.take_append] at shown
      by_cases fits : (encode message).length ≤ cut
      · rw [List.take_of_length_le fits] at shown
        rcases delimits.whole message first source _ shown with ⟨rest, shows, decoded⟩
        rcases inductionHypothesis others shows with ⟨count, error, result, atEnd, within⟩
        refine ⟨count + 1, error, ?_, atEnd, ?_⟩
        · rw [decodeUntilError_of_ok decoded, result, List.take_succ_cons]
        · intro index inside
          cases index with
          | zero =>
              rw [frameEnd_zero]
              exact ⟨fun _ => fits, fun _ => Nat.succ_pos count⟩
          | succ index =>
              rw [frameEnd_succ, Nat.succ_lt_succ_iff, within index (Nat.lt_of_succ_lt_succ inside)]
              omega
      · have short : cut < (encode message).length := Nat.lt_of_not_le fits
        rw [Nat.sub_eq_zero_of_le (Nat.le_of_lt short), List.take_zero, List.append_nil] at shown
        have missing : (encode message).drop cut ≠ [] := by
          intro nothing
          rw [List.drop_eq_nil_iff] at nothing
          exact fits nothing
        rcases delimits.broken message first source _ missing
          (by rw [shown, List.take_append_drop]) with ⟨error, failed, atEnd⟩
        refine ⟨0, error, decodeUntilError_of_error failed, atEnd, ?_⟩
        intro index inside
        refine ⟨fun impossible => absurd impossible (Nat.not_lt_zero index), fun within => ?_⟩
        cases index with
        | zero =>
            rw [frameEnd_zero] at within
            exact absurd within fits
        | succ index =>
            rw [frameEnd_succ] at within
            omega

/-- The ends of a stream may be told by a weaker sign. -/
theorem SelfDelimiting.mono {view : Source → List UInt8} {encode : Message → List UInt8}
    {admissible : Message → Prop} {ended noticed : ε → Prop}
    (delimits : SelfDelimiting view decode encode admissible ended)
    (sign : ∀ error, ended error → noticed error) :
    SelfDelimiting view decode encode admissible noticed where
  whole := delimits.whole
  broken message allowed source missing nonempty part := by
    rcases delimits.broken message allowed source missing nonempty part with ⟨error, failed, atEnd⟩
    exact ⟨error, failed, sign error atEnd⟩
  silent source empty := by
    rcases delimits.silent source empty with ⟨error, failed, atEnd⟩
    exact ⟨error, failed, sign error atEnd⟩

/-- Nothing is decoded from a source that shows nothing. -/
theorem SelfDelimiting.nothing {view : Source → List UInt8} {encode : Message → List UInt8}
    {admissible : Message → Prop} {ended : ε → Prop}
    (delimits : SelfDelimiting view decode encode admissible ended) {source : Source}
    (empty : view source = []) {message : Message} {rest : Source} :
    decode source ≠ .ok (message, rest) := by
  intro decoded
  rcases delimits.silent source empty with ⟨error, failed, _⟩
  rw [decoded] at failed
  cases failed

/-- What is decoded from a part of a frame is the message of the whole frame. -/
theorem SelfDelimiting.decoded_part {view : Source → List UInt8} {encode : Message → List UInt8}
    {admissible : Message → Prop} {ended : ε → Prop}
    (delimits : SelfDelimiting view decode encode admissible ended) {sent message : Message}
    (allowed : admissible sent) {source rest : Source} {missing : List UInt8}
    (part : view source ++ missing = encode sent) (decoded : decode source = .ok (message, rest)) :
    message = sent ∧ missing = [] ∧ view rest = [] := by
  by_cases whole : missing = []
  · have shown : view source = encode sent ++ [] := by
      rw [List.append_nil, ← part, whole, List.append_nil]
    rcases delimits.whole sent allowed source [] shown with ⟨left, shows, result⟩
    rw [decoded, Except.ok.injEq, Prod.mk.injEq] at result
    rcases result with ⟨rfl, rfl⟩
    exact ⟨rfl, whole, shows⟩
  · rcases delimits.broken sent allowed source missing whole part with ⟨error, failed, _⟩
    rw [decoded] at failed
    cases failed

/-- A part of a frame is waited for, if the decoder does not take it for the whole. -/
theorem SelfDelimiting.failed_part {view : Source → List UInt8} {encode : Message → List UInt8}
    {admissible : Message → Prop} {ended : ε → Prop}
    (delimits : SelfDelimiting view decode encode admissible ended) {sent : Message}
    (allowed : admissible sent) {source : Source} {missing : List UInt8}
    (part : view source ++ missing = encode sent) {error : ε}
    (failed : decode source = .error error) : ended error := by
  by_cases whole : missing = []
  · have shown : view source = encode sent ++ [] := by
      rw [List.append_nil, ← part, whole, List.append_nil]
    rcases delimits.whole sent allowed source [] shown with ⟨left, _, result⟩
    rw [failed] at result
    cases result
  · rcases delimits.broken sent allowed source missing whole part with ⟨other, result, atEnd⟩
    rw [failed] at result
    cases result
    exact atEnd

end Receivers

end Library
end QomicexConnector
