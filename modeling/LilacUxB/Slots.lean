import Mathlib

set_option autoImplicit false

-- Streams cut into slots of a fixed size: every word becomes the same number of beats.
namespace Slots

def frame {Word Beat : Type} (size : Nat) (emit : Word → Nat → Beat) (word : Word) : List Beat :=
  (List.range size).map (emit word)

def stream {Word Beat : Type} (size : Nat) (emit : Word → Nat → Beat) (words : List Word) : List Beat :=
  words.flatMap (frame size emit)

theorem frame_length {Word Beat : Type} (size : Nat) (emit : Word → Nat → Beat) (word : Word) :
    (frame size emit word).length = size := by
  simp [frame]

theorem stream_cons {Word Beat : Type} (size : Nat) (emit : Word → Nat → Beat) (word : Word) (words : List Word) :
    stream size emit (word :: words) = frame size emit word ++ stream size emit words := by
  simp [stream]

theorem frame_constant {Word : Type} (size : Nat) :
    frame size (fun (word : Word) _ => word) = List.replicate size := by
  funext word
  simp [frame, List.map_const']

theorem stream_at {Word Beat : Type} (size : Nat) (positive : 0 < size) (emit : Word → Nat → Beat)
    (words : List Word) (index : Nat) :
    (stream size emit words)[index]? = (words[index / size]?).map (fun word => emit word (index % size)) := by
  induction words generalizing index with
  | nil => rfl
  | cons word rest ih =>
      rw [stream_cons]
      by_cases inside : index < size
      · rw [List.getElem?_append_left (by simpa only [frame_length] using inside)]
        simp [frame, inside, Nat.div_eq_of_lt inside, Nat.mod_eq_of_lt inside]
      · have beyond : size ≤ index := Nat.le_of_not_lt inside
        rw [List.getElem?_append_right (by simpa only [frame_length] using beyond), frame_length, ih,
          Nat.div_eq_sub_div positive beyond, Nat.mod_eq_sub_mod beyond, List.getElem?_cons_succ]

theorem prefix_of_beats {Word Beat : Type} (size : Nat) (positive : 0 < size) (emit : Word → Nat → Beat)
    (words : List Word) (beats : List Beat)
    (agree : ∀ index beat, beats[index]? = some beat →
      ∃ word, words[index / size]? = some word ∧ beat = emit word (index % size)) :
    beats <+: stream size emit words := by
  rw [List.prefix_iff_getElem?]
  intro index within
  obtain ⟨word, found, beat⟩ := agree index _ (List.getElem?_eq_getElem within)
  rw [stream_at size positive, found, beat]
  rfl

-- A beat of its slot's word; with `Late`, the last beat of a slot may already
-- be the one of the following word.
def FromSlot {Word Beat : Type} (size : Nat) (emit : Word → Nat → Beat) (Late : Word → Word → Prop)
    (words : List Word) (index : Nat) (beat : Beat) : Prop :=
  ∃ word, words[index / size]? = some word ∧
    (beat = emit word (index % size) ∨
      (index % size + 1 = size ∧ ∃ next, words[index / size + 1]? = some next ∧ Late word next ∧
        beat = emit next (index % size)))

def AllFromSlots {Word Beat : Type} (size : Nat) (emit : Word → Nat → Beat) (Late : Word → Word → Prop)
    (words : List Word) (beats : List Beat) : Prop :=
  ∀ index beat, beats[index]? = some beat → FromSlot size emit Late words index beat

theorem append_keeps_get {Word : Type} (words more : List Word) (index : Nat) (word : Word)
    (found : words[index]? = some word) : (words ++ more)[index]? = some word := by
  obtain ⟨within, _⟩ := List.getElem?_eq_some_iff.mp found
  rw [List.getElem?_append_left within]
  exact found

theorem from_slot_append {Word Beat : Type} (size : Nat) (emit : Word → Nat → Beat) (Late : Word → Word → Prop)
    (words more : List Word) (index : Nat) (beat : Beat) (origin : FromSlot size emit Late words index beat) :
    FromSlot size emit Late (words ++ more) index beat := by
  obtain ⟨word, found, same | ⟨last, next, foundNext, late, beatEq⟩⟩ := origin
  · exact ⟨word, append_keeps_get words more _ word found, Or.inl same⟩
  · exact ⟨word, append_keeps_get words more _ word found,
      Or.inr ⟨last, next, append_keeps_get words more _ next foundNext, late, beatEq⟩⟩

theorem all_from_slots_words {Word Beat : Type} (size : Nat) (emit : Word → Nat → Beat) (Late : Word → Word → Prop)
    (words more : List Word) (beats : List Beat) (origin : AllFromSlots size emit Late words beats) :
    AllFromSlots size emit Late (words ++ more) beats :=
  fun index beat found => from_slot_append size emit Late words more index beat (origin index beat found)

theorem all_from_slots_beat {Word Beat : Type} (size : Nat) (emit : Word → Nat → Beat) (Late : Word → Word → Prop)
    (words : List Word) (beats : List Beat) (fresh : Beat) (origin : AllFromSlots size emit Late words beats)
    (freshOrigin : FromSlot size emit Late words beats.length fresh) :
    AllFromSlots size emit Late words (beats ++ [fresh]) := by
  intro index beat found
  by_cases old : index < beats.length
  · rw [List.getElem?_append_left old] at found
    exact origin index beat found
  · rw [List.getElem?_append_right (Nat.le_of_not_lt old), List.getElem?_singleton] at found
    by_cases here : index - beats.length = 0
    · rw [if_pos here] at found
      have place : index = beats.length := by omega
      rw [place, ← Option.some.inj found]
      exact freshOrigin
    · rw [if_neg here] at found
      cases found

-- A late beat is harmless when both words show the same last beat.
theorem prefix_of_slots {Word Beat : Type} (size : Nat) (positive : 0 < size) (emit : Word → Nat → Beat)
    (Late : Word → Word → Prop) (words : List Word) (beats : List Beat)
    (harmless : ∀ word next, Late word next → emit word (size - 1) = emit next (size - 1))
    (origin : AllFromSlots size emit Late words beats) : beats <+: stream size emit words := by
  apply prefix_of_beats size positive
  intro index beat found
  obtain ⟨word, slot, same | ⟨last, next, _, late, beatEq⟩⟩ := origin index beat found
  · exact ⟨word, slot, same⟩
  · have place : index % size = size - 1 := by omega
    exact ⟨word, slot, by rw [beatEq, place, harmless word next late]⟩

end Slots
