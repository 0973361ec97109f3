import Mathlib

set_option autoImplicit false

-- A stream of frames, each of a body and a trailer behind it, and positions in it.
namespace Frames

variable {Byte : Type}

structure Frame (Byte : Type) where
  body : List Byte
  trailer : List Byte

def Frame.bytes (frame : Frame Byte) : List Byte := frame.body ++ frame.trailer

def streamBytes (frames : List (Frame Byte)) : List Byte := frames.flatMap Frame.bytes

def inTrailer : List (Frame Byte) → Nat → Nat
  | [], _ => 0
  | frame :: rest, position =>
      if position ≤ frame.body.length then 0
      else if position < frame.bytes.length then position - frame.body.length
      else inTrailer rest (position - frame.bytes.length)

def trailerAt : List (Frame Byte) → Nat → List Byte
  | [], _ => []
  | frame :: rest, position =>
      if position < frame.bytes.length then frame.trailer else trailerAt rest (position - frame.bytes.length)

theorem frame_length (frame : Frame Byte) : frame.bytes.length = frame.body.length + frame.trailer.length :=
  List.length_append

theorem stream_cons (frame : Frame Byte) (rest : List (Frame Byte)) :
    streamBytes (frame :: rest) = frame.bytes ++ streamBytes rest := List.flatMap_cons

theorem stream_append (before rest : List (Frame Byte)) :
    streamBytes (before ++ rest) = streamBytes before ++ streamBytes rest := List.flatMap_append

theorem in_trailer_start (frames : List (Frame Byte)) : inTrailer frames 0 = 0 := by
  cases frames with
  | nil => rfl
  | cons frame rest => exact if_pos (Nat.zero_le _)

theorem in_trailer_next (frame : Frame Byte) (rest : List (Frame Byte)) (position : Nat) :
    inTrailer (frame :: rest) (frame.bytes.length + position) = inTrailer rest position := by
  have length := frame_length frame
  by_cases body : frame.bytes.length + position ≤ frame.body.length
  · have start : position = 0 := by omega
    rw [inTrailer, if_pos body, start, in_trailer_start]
  · have beyond : ¬ frame.bytes.length + position < frame.bytes.length := by omega
    rw [inTrailer, if_neg body, if_neg beyond, Nat.add_sub_cancel_left]

theorem in_trailer_skip (before rest : List (Frame Byte)) (position : Nat) :
    inTrailer (before ++ rest) ((streamBytes before).length + position) = inTrailer rest position := by
  induction before with
  | nil => rw [List.nil_append, streamBytes, List.flatMap_nil, List.length_nil, Nat.zero_add]
  | cons frame later ih =>
      rw [List.cons_append, stream_cons, List.length_append, Nat.add_assoc, in_trailer_next, ih]

theorem in_trailer_inside (frame : Frame Byte) (rest : List (Frame Byte)) (position : Nat)
    (inside : position < frame.bytes.length) :
    inTrailer (frame :: rest) position = position - frame.body.length := by
  by_cases body : position ≤ frame.body.length
  · rw [inTrailer, if_pos body, Nat.sub_eq_zero_of_le body]
  · rw [inTrailer, if_neg body, if_pos inside]

theorem in_trailer_grows (frames : List (Frame Byte)) (position count : Nat) :
    inTrailer frames (position + count) ≤ inTrailer frames position + count := by
  induction frames generalizing position count with
  | nil => exact Nat.zero_le _
  | cons frame rest ih =>
      by_cases here : position + count < frame.bytes.length
      · rw [in_trailer_inside _ _ _ here, in_trailer_inside _ _ _ (by omega)]
        omega
      · by_cases before : position < frame.bytes.length
        · have later := ih 0 (position + count - frame.bytes.length)
          rw [Nat.zero_add, in_trailer_start, Nat.zero_add] at later
          rw [← Nat.add_sub_of_le (Nat.le_of_not_lt here), in_trailer_next]
          omega
        · obtain ⟨offset, rfl⟩ := Nat.exists_eq_add_of_le (Nat.le_of_not_lt before)
          rw [Nat.add_assoc, in_trailer_next, in_trailer_next]
          exact ih offset count

theorem in_trailer_before (frames : List (Frame Byte)) (position : Nat) : inTrailer frames position ≤ position := by
  have grown := in_trailer_grows frames 0 position
  rwa [in_trailer_start, Nat.zero_add] at grown

theorem trailer_at_skip (before rest : List (Frame Byte)) (position : Nat) :
    trailerAt (before ++ rest) ((streamBytes before).length + position) = trailerAt rest position := by
  induction before with
  | nil => rw [List.nil_append, streamBytes, List.flatMap_nil, List.length_nil, Nat.zero_add]
  | cons frame later ih =>
      have beyond : ¬ frame.bytes.length + ((streamBytes later).length + position) < frame.bytes.length := by omega
      rw [List.cons_append, stream_cons, List.length_append, Nat.add_assoc, trailerAt, if_neg beyond,
        Nat.add_sub_cancel_left, ih]

theorem trailer_read (frames : List (Frame Byte)) (position index : Nat) (inside : index < inTrailer frames position) :
    (streamBytes frames)[position - inTrailer frames position + index]? = (trailerAt frames position)[index]? := by
  induction frames generalizing position with
  | nil => exact absurd inside (Nat.not_lt_zero index)
  | cons frame rest ih =>
      have length := frame_length frame
      by_cases here : position < frame.bytes.length
      · rw [in_trailer_inside frame rest position here] at inside ⊢
        have place : position - (position - frame.body.length) + index = frame.body.length + index := by omega
        rw [trailerAt, if_pos here, place, stream_cons, Frame.bytes, List.append_assoc,
          List.getElem?_append_right (Nat.le_add_right _ _), Nat.add_sub_cancel_left, List.getElem?_append_left (by omega)]
      · obtain ⟨offset, rfl⟩ := Nat.exists_eq_add_of_le (Nat.le_of_not_lt here)
        rw [in_trailer_next] at inside ⊢
        have before := in_trailer_before rest offset
        have place : frame.bytes.length + offset - inTrailer rest offset + index =
            frame.bytes.length + (offset - inTrailer rest offset + index) := by omega
        rw [trailerAt, if_neg here, Nat.add_sub_cancel_left, place, stream_cons,
          List.getElem?_append_right (Nat.le_add_right _ _), Nat.add_sub_cancel_left, ih offset inside]

theorem locate (frames : List (Frame Byte)) (position : Nat) (inside : position < (streamBytes frames).length) :
    ∃ before frame rest offset, frames = before ++ frame :: rest ∧
      position = (streamBytes before).length + offset ∧ offset < frame.bytes.length := by
  induction frames generalizing position with
  | nil => exact absurd inside (Nat.not_lt_zero _)
  | cons frame rest ih =>
      by_cases first : position < frame.bytes.length
      · exact ⟨[], frame, rest, position, rfl, (Nat.zero_add position).symm, first⟩
      · rw [stream_cons, List.length_append] at inside
        obtain ⟨before, found, later, offset, split, place, within⟩ := ih (position - frame.bytes.length) (by omega)
        refine ⟨frame :: before, found, later, offset, congrArg (List.cons frame) split, ?_, within⟩
        rw [stream_cons, List.length_append]
        omega

end Frames
