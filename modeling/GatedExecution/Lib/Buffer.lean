import Mathlib

/-!
# Fixed-size buffers, fields at offsets, and programs that fill them

A wire codec reads and writes fields at explicit offsets of one buffer.  This
module gives the two views of such a buffer: {lit}`HoldsAt` says which field
sits at an offset, and {lit}`splice` overwrites one range.  A writer is a
{lit}`BufferM` program: it may fail, and the bytes it has already written stay
in the buffer when it does.

Main results:

- Theorem {lit}`holdsAt_append`: two adjacent fields are one field.
- Theorem {lit}`eq_iff_length_and_holdsAt`: a buffer is its only field at
  offset zero.
- Theorem {lit}`getElem?_splice`: what a splice holds at every index.
- Theorems {lit}`holdsAt_splice_of_apart` and {lit}`splice_comm`: ranges apart from each
  other do not disturb each other.
- Theorem {lit}`EmitsAt.bind`: programs that fill adjacent ranges compose to a
  program that fills the joined range.
-/

namespace Buffer

/-! ## Fields of a buffer -/

section Fields

variable {α : Type*}

/-- The field {lit}`field` occupies the buffer from {lit}`offset` on. -/
def HoldsAt (buffer : List α) (offset : Nat) (field : List α) : Prop :=
  (buffer.drop offset).take field.length = field

/-- Overwrite the range that starts at {lit}`offset` with a field. -/
def splice (buffer : List α) (offset : Nat) (field : List α) : List α :=
  buffer.take offset ++ field ++ buffer.drop (offset + field.length)

/-- A nonempty field lies inside the buffer that holds it. -/
theorem HoldsAt.length_le {buffer field : List α} {offset : Nat}
    (h : HoldsAt buffer offset field) (hne : field ≠ []) :
    offset + field.length ≤ buffer.length := by
  have hlen := congrArg List.length h
  have hpos : 0 < field.length := List.length_pos_iff.mpr hne
  rw [List.length_take, List.length_drop] at hlen
  omega

@[simp] theorem holdsAt_nil (buffer : List α) (offset : Nat) :
    HoldsAt buffer offset [] := by
  simp [HoldsAt]

/-- Two adjacent fields are one longer field. -/
theorem holdsAt_append {buffer first second : List α} {offset : Nat} :
    HoldsAt buffer offset (first ++ second) ↔
      HoldsAt buffer offset first ∧ HoldsAt buffer (offset + first.length) second := by
  simp only [HoldsAt, List.length_append, List.take_add, List.drop_drop]
  constructor
  · intro h
    by_cases hfit : first.length ≤ (buffer.drop offset).length
    · exact List.append_inj h (by rw [List.length_take, min_eq_left hfit])
    · -- a range that runs off the buffer is too short for both fields
      have hlen := congrArg List.length h
      simp only [List.length_append, List.length_take, List.length_drop] at hlen hfit
      omega
  · rintro ⟨hfirst, hsecond⟩
    rw [hfirst, hsecond]

/-- A field of full length at offset zero is the whole buffer. -/
theorem eq_iff_length_and_holdsAt {buffer field : List α} :
    buffer = field ↔ buffer.length = field.length ∧ HoldsAt buffer 0 field := by
  constructor
  · rintro rfl
    simp [HoldsAt]
  · rintro ⟨hlen, hholds⟩
    rw [HoldsAt, List.drop_zero, ← hlen, List.take_length] at hholds
    exact hholds

/-- A field that ends the buffer is what remains from its offset on. -/
theorem holdsAt_drop {buffer : List α} {offset : Nat} :
    HoldsAt buffer offset (buffer.drop offset) := by
  simp [HoldsAt]

/-- Splicing a field that fits keeps the buffer's length. -/
theorem splice_length {buffer field : List α} {offset : Nat}
    (hfit : offset + field.length ≤ buffer.length) :
    (splice buffer offset field).length = buffer.length := by
  simp only [splice, List.length_append, List.length_take, List.length_drop]
  omega

/-- Two adjacent splices are one splice of the joined field. -/
theorem splice_splice {buffer first second : List α} {offset : Nat}
    (hfit : offset + first.length + second.length ≤ buffer.length) :
    splice (splice buffer offset first) (offset + first.length) second =
      splice buffer offset (first ++ second) := by
  have hprefixLen : (buffer.take offset ++ first).length = offset + first.length := by
    rw [List.length_append, List.length_take]
    omega
  have htake : (splice buffer offset first).take (offset + first.length) =
      buffer.take offset ++ first := by
    rw [splice, ← hprefixLen, List.take_left]
  have hdrop : (splice buffer offset first).drop (offset + first.length + second.length) =
      buffer.drop (offset + (first ++ second).length) := by
    rw [splice, ← List.drop_drop, ← hprefixLen, List.drop_left, List.drop_drop, hprefixLen,
      List.length_append]
    congr 1
    omega
  rw [splice, htake, hdrop, splice]
  simp

/-- Splicing a field as long as the buffer replaces the whole buffer. -/
theorem splice_zero {buffer field : List α} (hlen : field.length = buffer.length) :
    splice buffer 0 field = field := by
  simp [splice, hlen]

/-- A splice by index: the field inside its range, the old buffer outside. -/
theorem getElem?_splice {buffer field : List α} {offset : Nat}
    (hfit : offset + field.length ≤ buffer.length) (index : Nat) :
    (splice buffer offset field)[index]? =
      if offset ≤ index ∧ index < offset + field.length then field[index - offset]?
      else buffer[index]? := by
  have hbefore : (buffer.take offset).length = offset := by
    rw [List.length_take]
    omega
  rw [splice, List.append_assoc]
  by_cases hlow : index < offset
  · rw [if_neg (by omega), List.getElem?_append_left (by omega), List.getElem?_take_of_lt hlow]
  · rw [List.getElem?_append_right (by omega), hbefore]
    by_cases hhigh : index < offset + field.length
    · rw [if_pos (by omega), List.getElem?_append_left (by omega)]
    · rw [if_neg (by omega), List.getElem?_append_right (by omega), List.getElem?_drop]
      congr 1
      omega

/-- A field by index. -/
theorem holdsAt_iff_getElem? {buffer field : List α} {offset : Nat} :
    HoldsAt buffer offset field ↔
      ∀ index < field.length, buffer[offset + index]? = field[index]? := by
  constructor
  · intro hholds index hindex
    rw [HoldsAt] at hholds
    rw [← List.getElem?_drop, ← List.getElem?_take_of_lt hindex, hholds]
  · intro hsame
    apply List.ext_getElem?
    intro index
    by_cases hindex : index < field.length
    · rw [List.getElem?_take_of_lt hindex, List.getElem?_drop, hsame index hindex]
    · rw [List.getElem?_eq_none (by rw [List.length_take]; omega),
        List.getElem?_eq_none (by omega)]

/-- A splice leaves its field behind. -/
theorem holdsAt_splice {buffer field : List α} {offset : Nat}
    (hfit : offset + field.length ≤ buffer.length) :
    HoldsAt (splice buffer offset field) offset field := by
  rw [holdsAt_iff_getElem?]
  intro index hindex
  rw [getElem?_splice hfit, if_pos (by omega), Nat.add_sub_cancel_left]

/-- Ranges without a common index. -/
def Apart (offset length offset' length' : Nat) : Prop :=
  offset + length ≤ offset' ∨ offset' + length' ≤ offset

/-- Fields apart from the range of a splice stay. -/
theorem holdsAt_splice_of_apart {buffer field field' : List α} {offset offset' : Nat}
    (hfit : offset + field.length ≤ buffer.length)
    (hapart : Apart offset field.length offset' field'.length) :
    HoldsAt (splice buffer offset field) offset' field' ↔ HoldsAt buffer offset' field' := by
  rw [holdsAt_iff_getElem?, holdsAt_iff_getElem?]
  refine forall₂_congr ?_
  intro index hindex
  rw [getElem?_splice hfit, if_neg]
  rcases hapart with hbelow | habove <;> omega

/-- Splices apart from each other commute. -/
theorem splice_comm {buffer field field' : List α} {offset offset' : Nat}
    (hfit : offset + field.length ≤ buffer.length)
    (hfit' : offset' + field'.length ≤ buffer.length)
    (hapart : Apart offset field.length offset' field'.length) :
    splice (splice buffer offset field) offset' field' =
      splice (splice buffer offset' field') offset field := by
  have hfitSecond : offset' + field'.length ≤ (splice buffer offset field).length := by
    rwa [splice_length hfit]
  have hfitFirst : offset + field.length ≤ (splice buffer offset' field').length := by
    rwa [splice_length hfit']
  apply List.ext_getElem?
  intro index
  rw [getElem?_splice hfitSecond, getElem?_splice hfitFirst, getElem?_splice hfit,
    getElem?_splice hfit']
  by_cases hfirst : offset ≤ index ∧ index < offset + field.length
  · rw [if_pos hfirst, if_pos hfirst, if_neg]
    rcases hapart with hbelow | habove <;> omega
  · rw [if_neg hfirst, if_neg hfirst]

/-- Splicing in what is there changes nothing. -/
theorem splice_eq_self {buffer field : List α} {offset : Nat}
    (hfit : offset + field.length ≤ buffer.length) (hholds : HoldsAt buffer offset field) :
    splice buffer offset field = buffer := by
  rw [holdsAt_iff_getElem?] at hholds
  apply List.ext_getElem?
  intro index
  rw [getElem?_splice hfit]
  split
  · rename_i hin
    rw [← hholds (index - offset) (by omega), Nat.add_sub_cancel' hin.1]
  · rfl

/-- One element is a field. -/
theorem set_eq_splice {buffer : List α} {index : Nat} (hindex : index < buffer.length)
    (item : α) : buffer.set index item = splice buffer index [item] := by
  rw [List.set_eq_take_append_cons_drop, if_pos hindex, splice, List.append_assoc]
  rfl

end Fields

/-! ## Programs over one buffer -/

section Programs

variable {ε α β γ : Type}

/-- A program that edits one buffer and may fail without undoing its edits. -/
abbrev BufferM (ε α : Type) := ExceptT ε (StateM (List α))

/-- Outcome of a program together with the buffer it leaves. -/
def runOn (program : BufferM ε α β) (buffer : List α) : Except ε β × List α :=
  (ExceptT.run program).run buffer

@[simp] theorem runOn_pure (value : β) (buffer : List α) :
    runOn (pure value : BufferM ε α β) buffer = (.ok value, buffer) := rfl

@[simp] theorem runOn_get (buffer : List α) :
    runOn (get : BufferM ε α (List α)) buffer = (.ok buffer, buffer) := rfl

@[simp] theorem runOn_set (next buffer : List α) :
    runOn (set next : BufferM ε α PUnit) buffer = (.ok ⟨⟩, next) := rfl

/-- Sequencing stops at the first failure and keeps the buffer as it is then. -/
theorem runOn_bind (program : BufferM ε α β) (next : β → BufferM ε α γ)
    (buffer : List α) :
    runOn (program >>= next) buffer =
      match runOn program buffer with
      | (.ok value, buffer') => runOn (next value) buffer'
      | (.error error, buffer') => (.error error, buffer') := by
  simp only [runOn, ExceptT.run_bind, StateT.run_bind]
  rcases (ExceptT.run program).run buffer with ⟨outcome, buffer'⟩
  cases outcome <;> rfl

theorem runOn_bind_ok {program : BufferM ε α β} {next : β → BufferM ε α γ}
    {buffer buffer' : List α} {value : β}
    (h : runOn program buffer = (.ok value, buffer')) :
    runOn (program >>= next) buffer = runOn (next value) buffer' := by
  rw [runOn_bind, h]

/-- On every buffer large enough, the program succeeds and overwrites exactly
the range of {lit}`field` at {lit}`offset`. -/
def EmitsAt (program : BufferM ε α Unit) (offset : Nat) (field : List α) : Prop :=
  ∀ buffer : List α, offset + field.length ≤ buffer.length →
    runOn program buffer = (.ok (), splice buffer offset field)

/-- Programs that fill adjacent ranges fill the joined range. -/
theorem EmitsAt.bind {first second : BufferM ε α Unit} {offset size : Nat}
    {field field' : List α} (hfirst : EmitsAt first offset field)
    (hsize : field.length = size) (hsecond : EmitsAt second (offset + size) field') :
    EmitsAt (first >>= fun _ => second) offset (field ++ field') := by
  intro buffer hfit
  subst hsize
  rw [List.length_append] at hfit
  rw [runOn_bind_ok (hfirst buffer (by omega)), hsecond, splice_splice (by omega)]
  rw [splice_length (by omega)]
  omega

/-- A program that fills the whole buffer leaves exactly its field. -/
theorem EmitsAt.run_full {program : BufferM ε α Unit} {field buffer : List α}
    (h : EmitsAt program 0 field) (hlen : buffer.length = field.length) :
    runOn program buffer = (.ok (), field) := by
  rw [h buffer (by omega), splice_zero hlen.symm]

end Programs

end Buffer
