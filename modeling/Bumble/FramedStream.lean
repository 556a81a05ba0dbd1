import Mathlib

/-!
# Framed streams

A byte stream carries frames one after the other, and a receiver that looks at
what it has so far either sees a whole frame at the front, waits for more, or
refuses the stream.  `FrameReader` states what such a look-ahead must satisfy for
the frames to be a property of the stream alone: more data never changes a
decision already taken, and a frame is decided by its own octets.
-/

namespace Bumble

/-! ## 1. Looking ahead -/

/-- What a receiver sees at the front of a stream. -/
inductive Look (ε : Type) where
  | incomplete
  | refused (error : ε)
  | packet (size : Nat)
  deriving DecidableEq, Repr

/-- A look-ahead whose decisions do not depend on what follows. -/
structure FrameReader (α ε : Type) where
  look : List α → Look ε
  nil : look [] = .incomplete
  size : ∀ {seen : List α} {size : Nat}, look seen = .packet size →
    0 < size ∧ size ≤ seen.length
  refused_more : ∀ {seen : List α} {error : ε} (more : List α), look seen = .refused error →
    look (seen ++ more) = .refused error
  packet_iff : ∀ {seen : List α} {size : Nat} (more : List α), size ≤ seen.length →
    (look (seen ++ more) = .packet size ↔ look seen = .packet size)

namespace FrameReader

variable {α ε : Type} (reader : FrameReader α ε)

/-- The frames at the front of a stream and what is left behind them. -/
def splitLoop : Nat → List α → List (List α) × List α
  | 0, stream => ([], stream)
  | fuel + 1, stream =>
    match reader.look stream with
    | .packet size =>
      let later := splitLoop fuel (stream.drop size)
      (stream.take size :: later.1, later.2)
    | _ => ([], stream)

def frames (stream : List α) : List (List α) := (reader.splitLoop stream.length stream).1

/-- What is left of a stream behind its complete frames. -/
def remainder (stream : List α) : List α := (reader.splitLoop stream.length stream).2

variable {reader}

theorem splitLoop_of_le (fuel : Nat) : ∀ (stream : List α) (more : Nat),
    stream.length ≤ fuel → stream.length ≤ more →
      reader.splitLoop fuel stream = reader.splitLoop more stream := by
  induction fuel with
  | zero =>
    intro stream more hfuel _
    have hnil : stream = [] := List.eq_nil_of_length_eq_zero (Nat.le_zero.mp hfuel)
    subst hnil
    cases more with
    | zero => rfl
    | succ more => simp only [splitLoop, reader.nil]
  | succ fuel ih =>
    intro stream more hfuel hmore
    cases more with
    | zero =>
      have hnil : stream = [] := List.eq_nil_of_length_eq_zero (Nat.le_zero.mp hmore)
      subst hnil
      simp only [splitLoop, reader.nil]
    | succ more =>
      cases hlook : reader.look stream with
      | incomplete => simp only [splitLoop, hlook]
      | refused error => simp only [splitLoop, hlook]
      | packet size =>
        have hsize := reader.size hlook
        have hlater := ih (stream.drop size) more
          (by rw [List.length_drop]; omega) (by rw [List.length_drop]; omega)
        simp only [splitLoop, hlook, hlater]

theorem splitLoop_packet {stream : List α} {size : Nat}
    (hlook : reader.look stream = .packet size) :
    reader.splitLoop stream.length stream =
      (stream.take size :: reader.frames (stream.drop size),
        reader.remainder (stream.drop size)) := by
  have hsize := reader.size hlook
  obtain ⟨fuel, hfuel⟩ : ∃ fuel, stream.length = fuel + 1 := ⟨stream.length - 1, by omega⟩
  rw [hfuel]
  simp only [splitLoop, hlook, frames, remainder]
  rw [splitLoop_of_le fuel (stream.drop size) (stream.drop size).length
    (by rw [List.length_drop]; omega) le_rfl]

theorem frames_packet {stream : List α} {size : Nat} (hlook : reader.look stream = .packet size) :
    reader.frames stream = stream.take size :: reader.frames (stream.drop size) := by
  rw [frames, splitLoop_packet hlook]

theorem remainder_packet {stream : List α} {size : Nat}
    (hlook : reader.look stream = .packet size) :
    reader.remainder stream = reader.remainder (stream.drop size) := by
  rw [remainder, splitLoop_packet hlook]

theorem splitLoop_stop {stream : List α} (hlook : ∀ size, reader.look stream ≠ .packet size)
    (fuel : Nat) : reader.splitLoop fuel stream = ([], stream) := by
  cases fuel with
  | zero => rfl
  | succ fuel =>
    cases hseen : reader.look stream with
    | incomplete => simp only [splitLoop, hseen]
    | refused error => simp only [splitLoop, hseen]
    | packet size => exact absurd hseen (hlook size)

theorem frames_stop {stream : List α} (hlook : ∀ size, reader.look stream ≠ .packet size) :
    reader.frames stream = [] := by
  rw [frames, splitLoop_stop hlook]

theorem remainder_stop {stream : List α} (hlook : ∀ size, reader.look stream ≠ .packet size) :
    reader.remainder stream = stream := by
  rw [remainder, splitLoop_stop hlook]

theorem ne_packet_of_incomplete {stream : List α} (hlook : reader.look stream = .incomplete)
    (size : Nat) : reader.look stream ≠ .packet size := by
  rw [hlook]
  intro hsame
  exact nomatch hsame

theorem ne_packet_of_refused {stream : List α} {error : ε}
    (hlook : reader.look stream = .refused error) (size : Nat) :
    reader.look stream ≠ .packet size := by
  rw [hlook]
  intro hsame
  exact nomatch hsame

/-! ## 2. Streams, frame by frame -/

theorem stream_induction {P : List α → Prop}
    (packet : ∀ {stream : List α} {size : Nat}, reader.look stream = .packet size →
      P (stream.drop size) → P stream)
    (stop : ∀ {stream : List α}, (∀ size, reader.look stream ≠ .packet size) → P stream)
    (stream : List α) : P stream := by
  induction hlength : stream.length using Nat.strongRecOn generalizing stream with
  | _ length ih =>
    by_cases hwhole : ∃ size, reader.look stream = .packet size
    · obtain ⟨size, hlook⟩ := hwhole
      have hsize := reader.size hlook
      apply packet hlook
      exact ih (stream.drop size).length (by rw [List.length_drop]; omega) _ rfl
    · apply stop
      intro size hlook
      exact hwhole ⟨size, hlook⟩

theorem drop_append_of_packet {stream : List α} {size : Nat}
    (hlook : reader.look stream = .packet size) (more : List α) :
    (stream ++ more).drop size = stream.drop size ++ more :=
  List.drop_append_of_le_length (reader.size hlook).2

theorem take_append_of_packet {stream : List α} {size : Nat}
    (hlook : reader.look stream = .packet size) (more : List α) :
    (stream ++ more).take size = stream.take size :=
  List.take_append_of_le_length (reader.size hlook).2

theorem packet_more {stream : List α} {size : Nat} (hlook : reader.look stream = .packet size)
    (more : List α) : reader.look (stream ++ more) = .packet size :=
  (reader.packet_iff more (reader.size hlook).2).mpr hlook

theorem look_remainder (stream : List α) (size : Nat) :
    reader.look (reader.remainder stream) ≠ .packet size := by
  induction stream using reader.stream_induction with
  | packet hlook ih =>
    rw [remainder_packet hlook]
    exact ih
  | stop hlook =>
    rw [remainder_stop hlook]
    exact hlook size

/-- **Frames do not depend on where the stream is cut.**  The frames of a longer
stream are those of its beginning, then those of what was left with the rest. -/
theorem frames_append (reader : FrameReader α ε) (more : List α) (stream : List α) :
    reader.frames (stream ++ more) =
      reader.frames stream ++ reader.frames (reader.remainder stream ++ more) := by
  induction stream using reader.stream_induction with
  | packet hlook ih =>
    rw [frames_packet (packet_more hlook more), drop_append_of_packet hlook,
      take_append_of_packet hlook, ih, frames_packet hlook, remainder_packet hlook,
      List.cons_append]
  | stop hlook => rw [frames_stop hlook, remainder_stop hlook, List.nil_append]

theorem remainder_append (reader : FrameReader α ε) (more : List α) (stream : List α) :
    reader.remainder (stream ++ more) = reader.remainder (reader.remainder stream ++ more) := by
  induction stream using reader.stream_induction with
  | packet hlook ih =>
    rw [remainder_packet (packet_more hlook more), drop_append_of_packet hlook, ih,
      remainder_packet hlook]
  | stop hlook => rw [remainder_stop hlook]

theorem refused_append {stream : List α} {error : ε}
    (hrefused : reader.look (reader.remainder stream) = .refused error) (more : List α) :
    reader.frames (stream ++ more) = reader.frames stream ∧
      reader.look (reader.remainder (stream ++ more)) = .refused error := by
  have hmore := reader.refused_more more hrefused
  constructor
  · rw [frames_append, frames_stop (ne_packet_of_refused hmore), List.append_nil]
  · rw [remainder_append, remainder_stop (ne_packet_of_refused hmore)]
    exact hmore

theorem size_of_last {stream : List α} {item : α} {size : Nat}
    (hwaiting : reader.look stream = .incomplete)
    (hlook : reader.look (stream ++ [item]) = .packet size) : size = (stream ++ [item]).length := by
  have hsize := (reader.size hlook).2
  by_contra hshort
  rw [List.length_append, List.length_singleton] at hsize hshort
  have hseen := (reader.packet_iff [item] (by omega)).mp hlook
  exact ne_packet_of_incomplete hwaiting size hseen

end FrameReader

end Bumble
