import GatedExecution.Wire.FixedAscii

/-!
# Byte I/O in machine arithmetic

The readers and writers of {lit}`wire/byte_io.hpp` and {lit}`wire/fixed_ascii.hpp` once more,
now as the machine computes them: offsets and sizes are 64-bit numbers that wrap, a value is
shifted and masked in a word of its own type, and every byte is one access at
{lit}`offset + index`.  An access outside the span, which the source leaves undefined, ends
the call with {lit}`none`.

No call ends so, and every call agrees with its model over natural numbers.

Main results:

- Theorem {lit}`hasRange_eq`: the range check is right at every offset.
- Theorems {lit}`loadFrom_eq` and {lit}`storeFrom_eq`: accesses inside the span.
- Theorems {lit}`readBig_eq` and {lit}`writeBig_eq`: what the five widths share.
- Theorems {lit}`readFixedAscii_eq` and {lit}`writeFixedAscii_eq`: the same for characters.
-/

namespace Fgep.Wire

open BigEndian Buffer

/-- A span of bytes whose size is a {lit}`std::size_t`. -/
@[ext]
structure Span where
  bytes : Bytes
  length_lt : bytes.length < 2 ^ 64

namespace Span

def size (span : Span) : UInt64 :=
  UInt64.ofNat span.bytes.length

def hasRange (span : Span) (offset length : UInt64) : Bool :=
  offset ≤ span.size && length ≤ span.size - offset

/-! ## Accesses -/

/-- {lit}`bytes[index]`. -/
def load (span : Span) (index : UInt64) : Option UInt8 :=
  span.bytes[index.toNat]?

/-- {lit}`bytes[index] = byte`. -/
def store (span : Span) (index : UInt64) (byte : UInt8) : Option Span :=
  if index.toNat < span.bytes.length then
    some ⟨span.bytes.set index.toNat byte, by rw [List.length_set]; exact span.length_lt⟩
  else none

/-- Load {lit}`bytes[offset + index]` and the bytes after it. -/
def loadFrom (span : Span) (offset : UInt64) (index : Nat) :
    (count : Nat) → Option (List.Vector UInt8 count)
  | 0 => some .nil
  | count + 1 => do
      let byte ← span.load (offset + UInt64.ofNat index)
      let rest ← span.loadFrom offset (index + 1) count
      return byte ::ᵥ rest

/-- Store a byte to {lit}`bytes[offset + index]` and the others after it. -/
def storeFrom (span : Span) (offset : UInt64) (index : Nat) : Bytes → Option Span
  | [] => some span
  | byte :: rest => do
      let stored ← span.store (offset + UInt64.ofNat index) byte
      stored.storeFrom offset (index + 1) rest

/-- A span with a field in place of what was at the offset. -/
def overwrite (span : Span) (offset : UInt64) (field : Bytes)
    (hfit : offset.toNat + field.length ≤ span.bytes.length) : Span :=
  ⟨splice span.bytes offset.toNat field, by rw [splice_length hfit]; exact span.length_lt⟩

section Accesses

variable {span : Span} {offset : UInt64}

theorem toNat_size (span : Span) : span.size.toNat = span.bytes.length :=
  UInt64.toNat_ofNat_of_lt' span.length_lt

/-- The subtraction follows its comparison and no sum is formed, so nothing wraps. -/
theorem hasRange_eq (span : Span) (offset length : UInt64) :
    span.hasRange offset length = Wire.hasRange span.bytes offset.toNat length.toNat := by
  rw [hasRange, Wire.hasRange, Bool.eq_iff_iff, Bool.and_eq_true, Bool.and_eq_true,
    decide_eq_true_eq, decide_eq_true_eq, decide_eq_true_eq, decide_eq_true_eq,
    UInt64.le_iff_toNat_le, UInt64.le_iff_toNat_le, toNat_size]
  refine and_congr_right ?_
  intro hoffset
  have hle : offset ≤ span.size := by
    rw [UInt64.le_iff_toNat_le, toNat_size]
    exact hoffset
  rw [UInt64.toNat_sub_of_le _ _ hle, toNat_size]

/-- An index inside the span does not wrap. -/
theorem toNat_offset_add {index : Nat} (hin : offset.toNat + index < span.bytes.length) :
    (offset + UInt64.ofNat index).toNat = offset.toNat + index := by
  have hsize := span.length_lt
  rw [UInt64.toNat_add, UInt64.toNat_ofNat_of_lt' (show index < UInt64.size by
    rw [UInt64.size]; omega)]
  exact Nat.mod_eq_of_lt (by omega)

theorem loadFrom_eq {index count : Nat}
    (hfit : offset.toNat + index + count ≤ span.bytes.length) :
    (span.loadFrom offset index count).map List.Vector.toList =
      some ((span.bytes.drop (offset.toNat + index)).take count) := by
  induction count generalizing index with
  | zero => rw [loadFrom, List.take_zero]; rfl
  | succ count ih =>
      have hin : offset.toNat + index < span.bytes.length := by omega
      have hload : span.load (offset + UInt64.ofNat index) =
          some span.bytes[offset.toNat + index] := by
        rw [load, toNat_offset_add hin]
        exact List.getElem?_eq_getElem hin
      rcases Option.map_eq_some_iff.mp (@ih (index + 1) (by omega)) with ⟨rest, hrest, htail⟩
      rw [loadFrom, hload, hrest, List.drop_eq_getElem_cons hin, List.take_succ_cons,
        Nat.add_assoc, ← htail]
      rfl

theorem storeFrom_eq {index : Nat} {field : Bytes}
    (hfit : offset.toNat + index + field.length ≤ span.bytes.length) :
    (span.storeFrom offset index field).map bytes =
      some (splice span.bytes (offset.toNat + index) field) := by
  induction field generalizing span index with
  | nil => simp [storeFrom, splice]
  | cons byte rest ih =>
      rw [List.length_cons] at hfit
      have hin : offset.toNat + index < span.bytes.length := by omega
      have hstore : span.store (offset + UInt64.ofNat index) byte =
          some ⟨splice span.bytes (offset.toNat + index) [byte], by
            rw [splice_length hin]; exact span.length_lt⟩ := by
        have hindex := toNat_offset_add hin
        rw [store, if_pos (by rwa [hindex])]
        congr 2
        rw [hindex, set_eq_splice hin]
      rw [storeFrom, hstore]
      refine (ih ?_).trans ?_
      · dsimp only
        rw [splice_length hin]
        omega
      · have hjoin := @splice_splice _ span.bytes [byte] rest (offset.toNat + index)
          (by rw [List.length_singleton]; omega)
        exact congrArg some hjoin

/-- The stores of a whole field. -/
theorem storeFrom_zero_eq {field : Bytes}
    (hfit : offset.toNat + field.length ≤ span.bytes.length) :
    span.storeFrom offset 0 field = some (span.overwrite offset field hfit) := by
  have hstored := @storeFrom_eq span offset 0 field hfit
  rcases Option.map_eq_some_iff.mp hstored with ⟨stored, hsome, hbytes⟩
  rw [hsome]
  exact congrArg some (Span.ext hbytes)

end Accesses

/-! ## Integers -/

/-- Shared body of the big-endian readers, in words of {lit}`bits` bits. -/
def readBig (bits width : Nat) (span : Span) (offset : UInt64) : Option (Result (BitVec bits)) :=
  if !span.hasRange offset (UInt64.ofNat width) then some (.error .parseError)
  else (span.loadFrom offset 0 width).map (fun bytes => .ok (shiftOr bits bytes.toList))

def readU8 (span : Span) (offset : UInt64) : Option (Result UInt8) :=
  (readBig 8 1 span offset).map (Except.map UInt8.ofBitVec)

def readU16Be (span : Span) (offset : UInt64) : Option (Result UInt16) :=
  (readBig 16 2 span offset).map (Except.map UInt16.ofBitVec)

def readU32Be (span : Span) (offset : UInt64) : Option (Result UInt32) :=
  (readBig 32 4 span offset).map (Except.map UInt32.ofBitVec)

def readU48Be (span : Span) (offset : UInt64) : Option (Result UInt64) :=
  (readBig 64 6 span offset).map (Except.map UInt64.ofBitVec)

def readU64Be (span : Span) (offset : UInt64) : Option (Result UInt64) :=
  (readBig 64 8 span offset).map (Except.map UInt64.ofBitVec)

/-- Shared body of the big-endian writers: the code and the span it leaves. -/
def writeBig {bits : Nat} (width : Nat) (span : Span) (offset : UInt64) (value : BitVec bits) :
    Option (ErrorCode × Span) :=
  if !span.hasRange offset (UInt64.ofNat width) then some (.parseError, span)
  else (span.storeFrom offset 0 (shiftedBytes value width)).map (fun stored => (.ok, stored))

def writeU8 (span : Span) (offset : UInt64) (value : UInt8) : Option (ErrorCode × Span) :=
  span.writeBig 1 offset value.toBitVec

def writeU16Be (span : Span) (offset : UInt64) (value : UInt16) : Option (ErrorCode × Span) :=
  span.writeBig 2 offset value.toBitVec

def writeU32Be (span : Span) (offset : UInt64) (value : UInt32) : Option (ErrorCode × Span) :=
  span.writeBig 4 offset value.toBitVec

/-- The only width that looks at its value, after the range check. -/
def writeU48Be (span : Span) (offset : UInt64) (value : UInt64) : Option (ErrorCode × Span) :=
  if !span.hasRange offset 6 then some (.parseError, span)
  else if value > 0x0000FFFFFFFFFFFF then some (.invalidArgument, span)
  else
    (span.storeFrom offset 0 (shiftedBytes value.toBitVec 6)).map (fun stored => (.ok, stored))

def writeU64Be (span : Span) (offset : UInt64) (value : UInt64) : Option (ErrorCode × Span) :=
  span.writeBig 8 offset value.toBitVec

/-! ## Characters -/

def readFixedAscii (N : Nat) (span : Span) (offset : UInt64) : Option (Result (FixedAscii N)) :=
  if !span.hasRange offset (UInt64.ofNat N) then some (.error .parseError)
  else (span.loadFrom offset 0 N).map (fun value =>
    if isValidFixedAscii value then .ok value else .error .parseError)

def writeFixedAscii {N : Nat} (span : Span) (offset : UInt64) (value : FixedAscii N) :
    Option (ErrorCode × Span) :=
  if !span.hasRange offset (UInt64.ofNat N) then some (.parseError, span)
  else if !isValidFixedAscii value then some (.invalidArgument, span)
  else (span.storeFrom offset 0 value.toList).map (fun stored => (.ok, stored))

/-! ## Agreement with the model over natural numbers -/

/-- What the caller of a writer sees: the code and the bytes of the span. -/
def seen (outcome : Option (ErrorCode × Span)) : Option (ErrorCode × Bytes) :=
  outcome.map (fun result => (result.1, result.2.bytes))

theorem eq_of_seen {outcome : Option (ErrorCode × Span)} {code : ErrorCode} {after : Span}
    (hseen : seen outcome = some (code, after.bytes)) : outcome = some (code, after) := by
  rcases Option.map_eq_some_iff.mp hseen with ⟨⟨found, stored⟩, hsome, hpair⟩
  have hcode : found = code := congrArg Prod.fst hpair
  have hbytes : stored.bytes = after.bytes := congrArg Prod.snd hpair
  rw [hsome, hcode, Span.ext hbytes]

section Agreement

variable (span : Span) (offset : UInt64)

theorem hasRange_ofNat {length : Nat} (hlength : length < 2 ^ 64) :
    span.hasRange offset (UInt64.ofNat length) = Wire.hasRange span.bytes offset.toNat length := by
  rw [hasRange_eq, UInt64.toNat_ofNat_of_lt' hlength]

theorem seen_storeFrom {field : Bytes}
    (hrange : Wire.hasRange span.bytes offset.toNat field.length = true) :
    seen ((span.storeFrom offset 0 field).map (fun stored => (.ok, stored))) =
      some (.ok, splice span.bytes offset.toNat field) := by
  rw [storeFrom_zero_eq (hasRange_iff.mp hrange)]
  rfl

theorem readBig_eq {bits width : Nat} (hbits : 8 * width ≤ bits) (hwidth : width < 2 ^ 64) :
    span.readBig bits width offset =
      some ((readBe width span.bytes offset.toNat).map (BitVec.ofNat bits)) := by
  rw [readBig, span.hasRange_ofNat offset hwidth, readBe]
  cases hrange : Wire.hasRange span.bytes offset.toNat width with
  | false => rfl
  | true =>
      have hfit := hasRange_iff.mp hrange
      rcases Option.map_eq_some_iff.mp (@loadFrom_eq span offset 0 width hfit) with
        ⟨loaded, hloaded, hbytes⟩
      have hvalue : (shiftOr bits loaded.toList).toNat = beNat loaded.toList :=
        toNat_shiftOr loaded.toList (by rwa [List.Vector.toList_length])
      have hword : shiftOr bits loaded.toList = BitVec.ofNat bits (beNat loaded.toList) := by
        rw [← hvalue, BitVec.ofNat_toNat, BitVec.setWidth_eq]
      rw [hloaded]
      change some (Except.ok (shiftOr bits loaded.toList)) = _
      rw [hword, hbytes]
      rfl

theorem map_readBig_eq {τ : Type} {bits width : Nat} (hbits : 8 * width ≤ bits)
    (hwidth : width < 2 ^ 64) (ofBitVec : BitVec bits → τ) :
    (span.readBig bits width offset).map (Except.map ofBitVec) =
      some ((readBe width span.bytes offset.toNat).map
        (fun value => ofBitVec (BitVec.ofNat bits value))) := by
  rw [span.readBig_eq offset hbits hwidth]
  cases readBe width span.bytes offset.toNat <;> rfl

theorem readU8_eq : span.readU8 offset = some (Wire.readU8 span.bytes offset.toNat) :=
  span.map_readBig_eq offset (by decide) (by decide) UInt8.ofBitVec

theorem readU16Be_eq : span.readU16Be offset = some (Wire.readU16Be span.bytes offset.toNat) :=
  span.map_readBig_eq offset (by decide) (by decide) UInt16.ofBitVec

theorem readU32Be_eq : span.readU32Be offset = some (Wire.readU32Be span.bytes offset.toNat) :=
  span.map_readBig_eq offset (by decide) (by decide) UInt32.ofBitVec

theorem readU48Be_eq : span.readU48Be offset = some (Wire.readU48Be span.bytes offset.toNat) :=
  span.map_readBig_eq offset (by decide) (by decide) UInt64.ofBitVec

theorem readU64Be_eq : span.readU64Be offset = some (Wire.readU64Be span.bytes offset.toNat) :=
  span.map_readBig_eq offset (by decide) (by decide) UInt64.ofBitVec

theorem writeBig_eq {bits width : Nat} (hbits : 8 ≤ bits) (hwidth : width < 2 ^ 64)
    (value : BitVec bits) :
    seen (span.writeBig width offset value) =
      some (runEncode (writeBe width offset.toNat value.toNat) span.bytes) := by
  rw [writeBig, span.hasRange_ofNat offset hwidth, runEncode_writeBe, shiftedBytes_eq hbits]
  cases hrange : Wire.hasRange span.bytes offset.toNat width with
  | false => rfl
  | true => exact seen_storeFrom span offset (by rwa [beBytes_length])

theorem writeU8_eq (value : UInt8) :
    seen (span.writeU8 offset value) =
      some (runEncode (Wire.writeU8 offset.toNat value) span.bytes) :=
  span.writeBig_eq offset (by decide) (by decide) value.toBitVec

theorem writeU16Be_eq (value : UInt16) :
    seen (span.writeU16Be offset value) =
      some (runEncode (Wire.writeU16Be offset.toNat value) span.bytes) :=
  span.writeBig_eq offset (by decide) (by decide) value.toBitVec

theorem writeU32Be_eq (value : UInt32) :
    seen (span.writeU32Be offset value) =
      some (runEncode (Wire.writeU32Be offset.toNat value) span.bytes) :=
  span.writeBig_eq offset (by decide) (by decide) value.toBitVec

theorem writeU48Be_eq (value : UInt64) :
    seen (span.writeU48Be offset value) =
      some (runEncode (Wire.writeU48Be offset.toNat value) span.bytes) := by
  have hcheck : span.hasRange offset 6 = Wire.hasRange span.bytes offset.toNat 6 :=
    span.hasRange_eq offset 6
  rw [writeU48Be, hcheck, runEncode_writeU48Be, shiftedBytes_eq (by decide)]
  cases hrange : Wire.hasRange span.bytes offset.toNat 6 with
  | false => rfl
  | true =>
      by_cases hvalue : value ≤ 0x0000FFFFFFFFFFFF
      · rw [if_pos hvalue, if_neg (UInt64.not_lt.mpr hvalue)]
        exact seen_storeFrom span offset (by rwa [beBytes_length])
      · rw [if_neg hvalue, if_pos (UInt64.not_le.mp hvalue)]
        rfl

theorem writeU64Be_eq (value : UInt64) :
    seen (span.writeU64Be offset value) =
      some (runEncode (Wire.writeU64Be offset.toNat value) span.bytes) :=
  span.writeBig_eq offset (by decide) (by decide) value.toBitVec

theorem readFixedAscii_eq {N : Nat} (hwidth : N < 2 ^ 64) :
    span.readFixedAscii N offset = some (Wire.readFixedAscii N span.bytes offset.toNat) := by
  rw [readFixedAscii, span.hasRange_ofNat offset hwidth, Wire.readFixedAscii]
  by_cases hrange : Wire.hasRange span.bytes offset.toNat N = true
  · rcases Option.map_eq_some_iff.mp (@loadFrom_eq span offset 0 N (hasRange_iff.mp hrange)) with
      ⟨loaded, hloaded, hbytes⟩
    rw [dif_pos hrange, hloaded, hrange]
    have hvalue : loaded = ⟨(span.bytes.drop offset.toNat).take N, hbytes ▸ loaded.2⟩ :=
      List.Vector.toList_injective hbytes
    rw [hvalue]
    rfl
  · rw [dif_neg hrange, if_pos (by simpa using hrange)]

theorem writeFixedAscii_eq {N : Nat} (hwidth : N < 2 ^ 64) (value : FixedAscii N) :
    seen (span.writeFixedAscii offset value) =
      some (runEncode (Wire.writeFixedAscii offset.toNat value) span.bytes) := by
  rw [writeFixedAscii, span.hasRange_ofNat offset hwidth, runEncode_writeFixedAscii]
  cases hrange : Wire.hasRange span.bytes offset.toNat N with
  | false => rfl
  | true =>
      cases isValidFixedAscii value with
      | false => rfl
      | true => exact seen_storeFrom span offset (by rwa [List.Vector.toList_length])

end Agreement

end Span

end Fgep.Wire
