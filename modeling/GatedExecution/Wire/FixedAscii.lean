import GatedExecution.Wire.ByteIo

/-!
# Fixed-width ASCII fields

The fixed-width alpha fields of {lit}`wire/fixed_ascii.hpp`: exactly {lit}`N`
characters, left-justified and padded with spaces.  A character is its byte.
The width is part of the type, so a field of another length cannot be built.
The last section makes fields from texts and compares them with texts.

Main results:

- Theorem {lit}`readFixedAscii_eq_ok_iff`: a read succeeds exactly on printable
  characters at the offset.
- Theorem {lit}`writeFixedAscii_emitsAt`: a printable field fills its own range.
-/

namespace Fgep.Wire

open BigEndian Buffer

/-- A fixed-width character array. -/
abbrev FixedAscii (N : Nat) := List.Vector UInt8 N

/-- Byte of an ASCII character. -/
def asciiByte (character : Char) : UInt8 :=
  UInt8.ofNat character.toNat

/-- Printable ASCII, the space included. -/
def isPrintableAsciiOrSpace (value : UInt8) : Bool :=
  0x20 ≤ value && value ≤ 0x7E

def isValidFixedAscii {N : Nat} (value : FixedAscii N) : Bool :=
  value.toList.all isPrintableAsciiOrSpace

def readFixedAscii (N : Nat) (bytes : Bytes) (offset : Nat) : Result (FixedAscii N) :=
  if hrange : hasRange bytes offset N = true then
    let value : FixedAscii N := ⟨(bytes.drop offset).take N, by
      rw [hasRange_iff] at hrange
      rw [List.length_take, List.length_drop]
      omega⟩
    if isValidFixedAscii value then .ok value else .error .parseError
  else .error .parseError

def writeFixedAscii {N : Nat} (offset : Nat) (value : FixedAscii N) : EncodeM Unit := do
  let bytes ← get
  ensure (hasRange bytes offset N) .parseError
  ensure (isValidFixedAscii value) .invalidArgument
  set (splice bytes offset value.toList)

/-- A printable field in its range is read. -/
theorem readFixedAscii_of_holdsAt {N : Nat} {bytes : Bytes} {offset : Nat}
    {value : FixedAscii N} (hfit : offset + N ≤ bytes.length)
    (hholds : HoldsAt bytes offset value.toList) (hvalid : isValidFixedAscii value = true) :
    readFixedAscii N bytes offset = .ok value := by
  have hvalue : (⟨(bytes.drop offset).take N, by
      rw [List.length_take, List.length_drop]
      omega⟩ : FixedAscii N) = value := by
    apply List.Vector.toList_injective
    rw [HoldsAt, List.Vector.toList_length] at hholds
    exact hholds
  rw [readFixedAscii, dif_pos (hasRange_iff.mpr hfit)]
  simp only [hvalue, hvalid, if_true]

/-- A read succeeds exactly when the field sits at the offset and is printable.
A field of width zero would still need its offset inside the span. -/
theorem readFixedAscii_eq_ok_iff {N : Nat} [NeZero N] {bytes : Bytes} {offset : Nat}
    {value : FixedAscii N} :
    readFixedAscii N bytes offset = .ok value ↔
      HoldsAt bytes offset value.toList ∧ isValidFixedAscii value = true := by
  constructor
  · intro hread
    unfold readFixedAscii at hread
    split at hread
    · dsimp only at hread
      split at hread
      · rename_i hvalid
        cases hread
        refine ⟨?_, hvalid⟩
        simp [HoldsAt, List.Vector.toList]
      · cases hread
    · cases hread
  · intro h
    rcases h with ⟨hholds, hvalid⟩
    have hne : value.toList ≠ [] := by
      rw [← List.length_pos_iff, List.Vector.toList_length]
      exact Nat.pos_of_neZero N
    have hfit := hholds.length_le hne
    rw [List.Vector.toList_length] at hfit
    exact readFixedAscii_of_holdsAt hfit hholds hvalid

/-- Writing a printable field fills exactly its own range. -/
theorem writeFixedAscii_emitsAt {N : Nat} {value : FixedAscii N}
    (hvalid : isValidFixedAscii value = true) (offset : Nat) :
    EmitsAt (writeFixedAscii offset value) offset value.toList := by
  intro bytes hfit
  rw [List.Vector.toList_length] at hfit
  rw [writeFixedAscii, runOn_bind_ok (runOn_get bytes)]
  rw [runOn_bind_ok (by rw [runOn_ensure, hasRange_iff.mpr hfit]; rfl)]
  rw [runOn_bind_ok (by rw [runOn_ensure, hvalid]; rfl)]
  rw [runOn_set]

theorem runEncode_writeFixedAscii {N : Nat} (offset : Nat) (value : FixedAscii N)
    (bytes : Bytes) :
    runEncode (writeFixedAscii offset value) bytes =
      if hasRange bytes offset N then
        if isValidFixedAscii value then (.ok, splice bytes offset value.toList)
        else (.invalidArgument, bytes)
      else (.parseError, bytes) := by
  rw [runEncode, writeFixedAscii, runOn_bind_ok (runOn_get bytes), runOn_ensure_bind]
  cases hasRange bytes offset N with
  | false => rfl
  | true =>
      rw [if_pos rfl, if_pos rfl, runOn_ensure_bind]
      cases isValidFixedAscii value <;> rfl

/-! ## Texts -/

/-- The padding of a field. -/
def space : UInt8 :=
  asciiByte ' '

/-- {lit}`value[index] = character`. -/
def setCharacter {N : Nat} (value : FixedAscii N) (index : Nat) (character : UInt8) :
    FixedAscii N :=
  ⟨value.toList.set index character, by rw [List.length_set, List.Vector.toList_length]⟩

@[simp]
theorem toList_setCharacter {N : Nat} (value : FixedAscii N) (index : Nat) (character : UInt8) :
    (setCharacter value index character).toList = value.toList.set index character :=
  rfl

/-- The second loop of {lit}`make_fixed_ascii`, from {lit}`index` on. -/
def fillFrom {N : Nat} (value : FixedAscii N) (index : Nat) : Bytes → Result (FixedAscii N)
  | [] => .ok value
  | character :: rest =>
      if !isPrintableAsciiOrSpace character then .error .invalidArgument
      else fillFrom (setCharacter value index character) (index + 1) rest

def makeFixedAscii (N : Nat) (text : Bytes) : Result (FixedAscii N) :=
  if text.length > N then .error .invalidArgument
  else fillFrom (List.Vector.replicate N space) 0 text

/-- The loop of {lit}`trimmed_length`, counted down from a length. -/
def trimFrom {N : Nat} (value : FixedAscii N) : Nat → Nat
  | 0 => 0
  | length + 1 => if value.toList[length]? = some space then trimFrom value length else length + 1

def trimmedLength {N : Nat} (value : FixedAscii N) : Nat :=
  trimFrom value N

def fixedAsciiEquals {N : Nat} (value : FixedAscii N) (text : Bytes) : Bool :=
  if text.length ≠ trimmedLength value then false
  else (List.range text.length).all (fun index => value.toList[index]? == text[index]?)

/-! ## Single characters and character-coded enumerations -/

def readChar (bytes : Bytes) (offset : Nat) : Result UInt8 :=
  readU8 bytes offset

def writeChar (offset : Nat) (value : UInt8) : EncodeM Unit :=
  writeU8 offset value

@[simp] theorem readChar_eq_ok_iff {bytes : Bytes} {offset : Nat} {v : UInt8} :
    readChar bytes offset = .ok v ↔ HoldsAt bytes offset (u8Bytes v) :=
  readU8_eq_ok_iff

theorem writeChar_emitsAt (offset : Nat) (v : UInt8) :
    EmitsAt (writeChar offset v) offset (u8Bytes v) :=
  writeU8_emitsAt offset v

/-- Shared body of the {lit}`*_from_char` switches: one entry per case label,
{lit}`parse_error` by default. -/
def fromChar {α : Type} (table : List (UInt8 × α)) (value : UInt8) : Result α :=
  match table.lookup value with
  | some a => .ok a
  | none => .error .parseError

/-- A switch whose cases agree with the enumerators inverts {lit}`to_char`. -/
theorem fromChar_eq_ok_iff {α : Type} {table : List (UInt8 × α)} {toChar : α → UInt8}
    (hcomplete : ∀ a, table.lookup (toChar a) = some a)
    (hsound : ∀ entry ∈ table, toChar entry.2 = entry.1) {value : UInt8} {a : α} :
    fromChar table value = .ok a ↔ value = toChar a := by
  unfold fromChar
  constructor
  · intro h
    cases hlookup : table.lookup value with
    | none => simp [hlookup] at h
    | some found =>
        simp only [hlookup, Except.ok.injEq] at h
        subst h
        rcases List.lookup_eq_some_iff.mp hlookup with ⟨before, after, htable, -⟩
        have hmem : (value, found) ∈ table := by
          rw [htable]
          simp
        exact (hsound _ hmem).symm
  · intro h
    rw [h, hcomplete a]

end Fgep.Wire
