/-
# Decoders on a growing buffer

A decoder looks at the front of a buffer and either takes a frame off it, with
the events the frame means, or waits for more. A receiver drains its buffer each
time a chunk arrives. When every message has a code that the decoder takes as a
whole and waits for while it is incomplete, the messages sent come out as sent,
one after the other, however their codes were cut into chunks, and nothing is
left over.
-/

import Mathlib.Data.List.Basic

namespace ClusterChat

/-- Take a frame off the front of a buffer, or wait. Something is always taken. -/
structure Decoder (α ε : Type*) where
  take : List α → Option (List ε × List α)
  shrinks : ∀ {buffer events rest}, take buffer = some (events, rest) →
    rest.length < buffer.length

namespace Decoder

variable {α ε : Type*} (decoder : Decoder α ε)

/-- Take frames until the decoder waits. -/
def drain (buffer : List α) : List ε × List α :=
  match _taken : decoder.take buffer with
  | none => ([], buffer)
  | some (events, rest) => (events ++ (drain rest).1, (drain rest).2)
termination_by buffer.length
decreasing_by all_goals exact decoder.shrinks _taken

/-- Append a chunk and drain. -/
def feed (state : List ε × List α) (chunk : List α) : List ε × List α :=
  (state.1 ++ (decoder.drain (state.2 ++ chunk)).1, (decoder.drain (state.2 ++ chunk)).2)

variable {decoder}

theorem take_nil : decoder.take [] = none := by
  cases taken : decoder.take [] with
  | none => rfl
  | some result => exact absurd (decoder.shrinks taken) (Nat.not_lt_zero _)

theorem drain_wait {buffer : List α} (waits : decoder.take buffer = none) :
    decoder.drain buffer = ([], buffer) := by
  rw [drain]
  split
  · rfl
  · rename_i taken
    rw [waits] at taken
    cases taken

theorem drain_take {buffer rest : List α} {events : List ε}
    (takes : decoder.take buffer = some (events, rest)) :
    decoder.drain buffer = (events ++ (decoder.drain rest).1, (decoder.drain rest).2) := by
  rw [drain]
  split
  · rename_i taken
    rw [takes] at taken
    cases taken
  · rename_i taken
    rw [takes] at taken
    cases taken
    rfl

/-- A drained buffer waits. -/
theorem take_drain (buffer : List α) : decoder.take (decoder.drain buffer).2 = none := by
  induction buffer using drain.induct decoder with
  | case1 buffer waits => rwa [drain_wait waits]
  | case2 buffer events rest taken ih =>
    rw [drain_take taken]
    exact ih

variable (decoder) in
/-- Codes that the decoder takes whole and waits for while they are incomplete. -/
structure Code (μ : Type*) where
  encode : μ → List α
  events : μ → List ε
  take_encode : ∀ message rest, decoder.take (encode message ++ rest) = some (events message, rest)
  take_partial : ∀ {message part}, part <+: encode message → part ≠ encode message →
    decoder.take part = none

namespace Code

variable {μ : Type*} (code : Code decoder μ)

/-- Messages, one after the other on the wire. -/
def stream (messages : List μ) : List α := (messages.map code.encode).flatten

/-- What a list of messages means. -/
def meaning (messages : List μ) : List ε := (messages.map code.events).flatten

@[simp] theorem stream_nil : code.stream [] = [] := rfl

@[simp] theorem stream_cons (message : μ) (messages : List μ) :
    code.stream (message :: messages) = code.encode message ++ code.stream messages := by
  simp [stream]

@[simp] theorem meaning_nil : code.meaning [] = [] := rfl

@[simp] theorem meaning_cons (message : μ) (messages : List μ) :
    code.meaning (message :: messages) = code.events message ++ code.meaning messages := by
  simp [meaning]

@[simp] theorem meaning_append (first second : List μ) :
    code.meaning (first ++ second) = code.meaning first ++ code.meaning second := by
  simp [meaning]

/-- A buffer that waits at the start of a stream is an incomplete part of it;
with nothing more to come, the stream is empty. -/
theorem eq_nil_of_waits {messages : List μ} (waits : decoder.take (code.stream messages) = none) :
    messages = [] := by
  cases messages with
  | nil => rfl
  | cons message messages =>
    rw [stream_cons, code.take_encode] at waits
    cases waits

/-- Draining the front of a stream takes its complete messages. -/
theorem drain_prefix {messages : List μ} {buffer later : List α}
    (split : buffer ++ later = code.stream messages) :
    ∃ done todo, messages = done ++ todo ∧ (decoder.drain buffer).1 = code.meaning done ∧
      (decoder.drain buffer).2 ++ later = code.stream todo := by
  induction messages generalizing buffer with
  | nil =>
    obtain ⟨rfl, rfl⟩ := List.append_eq_nil_iff.mp split
    exact ⟨[], [], rfl, by rw [drain_wait take_nil]; rfl, by rw [drain_wait take_nil]; rfl⟩
  | cons message messages ih =>
    rw [stream_cons] at split
    by_cases whole : code.encode message <+: buffer
    · obtain ⟨rest, rfl⟩ := whole
      rw [List.append_assoc, List.append_cancel_left_eq] at split
      obtain ⟨done, todo, parts, means, left⟩ := ih split
      refine ⟨message :: done, todo, by rw [parts, List.cons_append], ?_, ?_⟩
      · rw [drain_take (code.take_encode message rest), meaning_cons, means]
      · rw [drain_take (code.take_encode message rest), left]
    · have part : buffer <+: code.encode message :=
        (List.prefix_or_prefix_of_prefix ⟨later, split⟩
          (List.prefix_append (code.encode message) _)).resolve_right whole
      have short : buffer ≠ code.encode message := fun same => whole (same ▸ List.prefix_rfl)
      rw [drain_wait (code.take_partial part short)]
      exact ⟨[], message :: messages, rfl, rfl, by rw [split, stream_cons]⟩

/-- From a waiting buffer, the chunks of the rest of a stream give the rest of
its meaning. -/
theorem feed_foldl {chunks : List (List α)} {state : List ε × List α} {messages : List μ}
    (waits : decoder.take state.2 = none)
    (split : state.2 ++ chunks.flatten = code.stream messages) :
    chunks.foldl decoder.feed state = (state.1 ++ code.meaning messages, []) := by
  induction chunks generalizing state messages with
  | nil =>
    rw [List.flatten_nil, List.append_nil] at split
    rw [split] at waits
    obtain rfl := code.eq_nil_of_waits waits
    rw [List.foldl_nil, meaning_nil, List.append_nil]
    exact Prod.ext rfl split
  | cons chunk chunks ih =>
    rw [List.flatten_cons, ← List.append_assoc] at split
    obtain ⟨done, todo, rfl, means, left⟩ := code.drain_prefix split
    have later : chunks.foldl decoder.feed (decoder.feed state chunk) = _ := ih (take_drain _) left
    rw [List.foldl_cons, later, feed, means, meaning_append, List.append_assoc]

theorem drain_stream (messages : List μ) (rest : List α) :
    decoder.drain (code.stream messages ++ rest) =
      (code.meaning messages ++ (decoder.drain rest).1, (decoder.drain rest).2) := by
  induction messages with
  | nil => rfl
  | cons message messages ih =>
    rw [stream_cons, List.append_assoc, drain_take (code.take_encode message _), ih, meaning_cons,
      List.append_assoc]

/-- **What follows the messages** is received as if they had not been there: its own
chunks are a cutting of it. -/
theorem feed_foldl_append {chunks : List (List α)} {state : List ε × List α} {messages : List μ}
    {tail : List α} (waits : decoder.take state.2 = none)
    (split : state.2 ++ chunks.flatten = code.stream messages ++ tail) :
    ∃ later : List (List α), later.flatten = tail ∧
      chunks.foldl decoder.feed state =
        later.foldl decoder.feed (state.1 ++ code.meaning messages, []) := by
  induction chunks generalizing state messages with
  | nil =>
    rw [List.flatten_nil, List.append_nil] at split
    cases messages with
    | nil =>
      have same : state.2 = tail := split
      refine ⟨[tail], List.flatten_singleton, ?_⟩
      rw [List.foldl_cons, List.foldl_nil, List.foldl_nil, feed, meaning_nil, List.append_nil,
        List.nil_append, ← same, drain_wait waits, List.append_nil]
    | cons message messages =>
      rw [split, stream_cons, List.append_assoc, code.take_encode] at waits
      cases waits
  | cons chunk chunks ih =>
    rw [List.flatten_cons, ← List.append_assoc] at split
    rw [List.foldl_cons]
    rcases List.append_eq_append_iff.mp split with
      ⟨front, inside, later⟩ | ⟨front, inside, later⟩
    · -- the chunk ends within the messages
      obtain ⟨done, todo, rfl, means, left⟩ := code.drain_prefix inside.symm
      have split' : (decoder.feed state chunk).2 ++ chunks.flatten = code.stream todo ++ tail := by
        rw [feed, later, ← List.append_assoc, left]
      have waits' : decoder.take (decoder.feed state chunk).2 = none := take_drain _
      obtain ⟨later, whole, fed⟩ := ih waits' split'
      refine ⟨later, whole, fed.trans ?_⟩
      rw [feed, means, meaning_append, List.append_assoc]
    · -- it reaches into what follows
      refine ⟨front :: chunks, later.symm, ?_⟩
      rw [List.foldl_cons, feed, inside, drain_stream, feed, List.nil_append, List.append_assoc]

/-- **Segmentation does not matter.** However a stream of messages is cut into
chunks, the receiver sees what the messages mean, and its buffer ends empty. -/
theorem feed_stream {chunks : List (List α)} {messages : List μ}
    (split : chunks.flatten = code.stream messages) :
    chunks.foldl decoder.feed ([], []) = (code.meaning messages, []) :=
  code.feed_foldl take_nil split

end Code

/-! ### The frames of a decoder

What a decoder takes in one go, whatever follows, and waits for while it is
incomplete, is a frame of it. All frames together are a code. -/

variable (decoder) in
/-- Bytes that the decoder takes as these events. -/
structure IsFrame (frame : List α) (events : List ε) : Prop where
  take_append : ∀ rest, decoder.take (frame ++ rest) = some (events, rest)
  take_partial : ∀ {part}, part <+: frame → part ≠ frame → decoder.take part = none

variable (decoder) in
/-- The frames of a decoder as messages. -/
def frames : Code decoder {frame : List α × List ε // decoder.IsFrame frame.1 frame.2} where
  encode frame := frame.val.1
  events frame := frame.val.2
  take_encode frame := frame.property.take_append
  take_partial {frame _} := frame.property.take_partial

variable (decoder) in
/-- The decoder that takes nothing where it is told to stop. -/
def upTo (stops : List α → Bool) : Decoder α ε where
  take buffer := if stops buffer then none else decoder.take buffer
  shrinks {buffer events rest} taken := by
    by_cases stopped : stops buffer = true
    · rw [if_pos stopped] at taken
      cases taken
    · rw [if_neg stopped] at taken
      exact decoder.shrinks taken

theorem upTo_take {stops : List α → Bool} {buffer : List α} (passed : ¬stops buffer = true) :
    (decoder.upTo stops).take buffer = decoder.take buffer := if_neg passed

section UpTo

variable {stops : List α → Bool}
  (framed : ∀ {buffer events rest}, ¬stops buffer = true →
    decoder.take buffer = some (events, rest) →
    ∃ frame, buffer = frame ++ rest ∧ decoder.IsFrame frame events)

include framed

/-- Up to where it stops a stream is made of frames. -/
theorem drain_upTo (buffer : List α) :
    ∃ messages, buffer = decoder.frames.stream messages ++ ((decoder.upTo stops).drain buffer).2 ∧
      ((decoder.upTo stops).drain buffer).1 = decoder.frames.meaning messages := by
  induction buffer using drain.induct (decoder.upTo stops) with
  | case1 buffer waits =>
    refine ⟨[], ?_, ?_⟩
    · rw [drain_wait waits, Code.stream_nil, List.nil_append]
    · rw [drain_wait waits, Code.meaning_nil]
  | case2 buffer events rest taken ih =>
    obtain ⟨messages, parts, means⟩ := ih
    have passed : ¬stops buffer = true := by
      intro stopped
      have waits : (decoder.upTo stops).take buffer = none := if_pos stopped
      cases waits.symm.trans taken
    obtain ⟨frame, whole, isFrame⟩ := framed passed ((upTo_take passed).symm.trans taken)
    refine ⟨⟨(frame, events), isFrame⟩ :: messages, ?_, ?_⟩
    · rw [drain_take taken, Code.stream_cons, List.append_assoc, ← parts]
      exact whole
    · rw [drain_take taken, Code.meaning_cons, ← means]
      rfl

/-- **Up to where it stops, segmentation does not matter**: the events are the same for
every cutting, and what follows is received as a cutting of it. -/
theorem feed_upTo (chunks : List (List α)) :
    ∃ later : List (List α),
      later.flatten = ((decoder.upTo stops).drain chunks.flatten).2 ∧
        chunks.foldl decoder.feed ([], []) =
          later.foldl decoder.feed (((decoder.upTo stops).drain chunks.flatten).1, []) := by
  obtain ⟨messages, parts, means⟩ := drain_upTo framed chunks.flatten
  let start : List ε × List α := ([], [])
  have waits : decoder.take start.2 = none := take_nil
  obtain ⟨later, whole, fed⟩ := decoder.frames.feed_foldl_append waits parts
  refine ⟨later, whole, fed.trans ?_⟩
  rw [means, List.nil_append]

/-- What waits for more, and is not stopped at, has waited from its first element on. -/
theorem take_part_of_waits
    (grows : ∀ {part buffer : List α}, part <+: buffer → stops part = true → stops buffer = true)
    {buffer : List α} (passed : ¬stops buffer = true) (waits : decoder.take buffer = none)
    {part : List α} (incomplete : part <+: buffer) : decoder.take part = none := by
  cases taken : decoder.take part with
  | none => rfl
  | some result =>
    obtain ⟨events, rest⟩ := result
    obtain ⟨frame, rfl, isFrame⟩ :=
      framed (fun stopped => passed (grows incomplete stopped)) taken
    obtain ⟨later, rfl⟩ := incomplete
    rw [List.append_assoc, isFrame.take_append] at waits
    cases waits

end UpTo

/-- A buffer whose parts all wait only grows. -/
theorem feed_waits {chunks : List (List α)} {state : List ε × List α} {buffer : List α}
    (waits : ∀ {part}, part <+: buffer → decoder.take part = none)
    (whole : state.2 ++ chunks.flatten = buffer) :
    chunks.foldl decoder.feed state = (state.1, buffer) := by
  induction chunks generalizing state with
  | nil =>
    rw [List.flatten_nil, List.append_nil] at whole
    exact Prod.ext rfl whole
  | cons chunk chunks ih =>
    rw [List.flatten_cons, ← List.append_assoc] at whole
    have waiting : decoder.feed state chunk = (state.1, state.2 ++ chunk) := by
      rw [feed, drain_wait (waits ⟨_, whole⟩), List.append_nil]
    rw [List.foldl_cons, waiting]
    exact ih whole

/-- **Where it never stops, segmentation does not matter at all.** -/
theorem feed_of_passed {stops : List α → Bool}
    (framed : ∀ {buffer events rest}, ¬stops buffer = true →
      decoder.take buffer = some (events, rest) →
      ∃ frame, buffer = frame ++ rest ∧ decoder.IsFrame frame events)
    (grows : ∀ {part buffer : List α}, part <+: buffer → stops part = true → stops buffer = true)
    (chunks : List (List α))
    (passed : ¬stops ((decoder.upTo stops).drain chunks.flatten).2 = true) :
    chunks.foldl decoder.feed ([], []) = (decoder.upTo stops).drain chunks.flatten := by
  obtain ⟨later, whole, fed⟩ := feed_upTo framed chunks
  have waits : decoder.take ((decoder.upTo stops).drain chunks.flatten).2 = none :=
    (upTo_take passed).symm.trans (take_drain chunks.flatten)
  rw [fed]
  exact feed_waits (take_part_of_waits framed grows passed waits) whole

variable (decoder) in
/-- What has been received only grows. -/
theorem feed_foldl_earlier (chunks : List (List α)) (state : List ε × List α) :
    state.1 <+: (chunks.foldl decoder.feed state).1 := by
  induction chunks generalizing state with
  | nil => exact List.prefix_rfl
  | cons chunk chunks ih => exact (List.prefix_append _ _).trans (ih (decoder.feed state chunk))

end Decoder

end ClusterChat
