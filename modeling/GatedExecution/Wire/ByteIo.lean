import GatedExecution.Core.Errors
import GatedExecution.Lib.BigEndian
import GatedExecution.Lib.Buffer

/-!
# Big-endian byte I/O

The readers and writers of {lit}`wire/byte_io.hpp`.  A span is a list of bytes
and an offset or a size is a natural number: {lit}`hasRange` subtracts only
after it has compared, so the {lit}`size_t` arithmetic of the source cannot
wrap.  The five widths share one reader and one writer; {lit}`writeU48Be` has a
range check of its own.

Main results:

- Theorem {lit}`readBe_eq_ok_iff`: a read succeeds with {lit}`v` exactly when
  the bytes of {lit}`v` sit at the offset.
- Theorem {lit}`writeBe_emitsAt`: a write fills exactly its own range.
- Theorem {lit}`runEncode_writeBe`: what a write does to every span.
-/

namespace Fgep.Wire

open BigEndian Buffer

/-- A span of bytes. -/
abbrev Bytes := List UInt8

/-- A writer over one caller-supplied span. -/
abbrev EncodeM := BufferM ErrorCode UInt8

/-- Whether {lit}`length` bytes can be taken from {lit}`offset` on. -/
def hasRange (bytes : Bytes) (offset length : Nat) : Bool :=
  offset ≤ bytes.length && length ≤ bytes.length - offset

theorem hasRange_iff {bytes : Bytes} {offset length : Nat} :
    hasRange bytes offset length = true ↔ offset + length ≤ bytes.length := by
  simp only [hasRange, Bool.and_eq_true, decide_eq_true_eq]
  omega

/-- Error code and final buffer of a writer, as its C++ caller sees them. -/
def runEncode (program : EncodeM Unit) (bytes : Bytes) : ErrorCode × Bytes :=
  match runOn program bytes with
  | (.ok _, bytes') => (.ok, bytes')
  | (.error error, bytes') => (error, bytes')

theorem runOn_ensure (condition : Bool) (error : ErrorCode) (bytes : Bytes) :
    runOn (ensure condition error : EncodeM Unit) bytes =
      (if condition then .ok () else .error error, bytes) := by
  cases condition <;> rfl

/-- A failed check ends the program before anything after it runs. -/
theorem runOn_ensure_bind (condition : Bool) (error : ErrorCode) {β : Type}
    (next : Unit → EncodeM β) (bytes : Bytes) :
    runOn (ensure condition error >>= next) bytes =
      if condition then runOn (next ()) bytes else (.error error, bytes) := by
  rw [runOn_bind, runOn_ensure]
  cases condition <;> rfl

/-- What an encoder that checks everything before its first write does to a
span: {lit}`parse_error` on a wrong length, {lit}`invalid_argument` on an
invalid value, and otherwise the whole wire form. -/
def allOrNothing (length : Nat) (valid : Bool) (wire bytes : Bytes) :
    Except ErrorCode Unit × Bytes :=
  if bytes.length ≠ length then (.error .parseError, bytes)
  else if valid then (.ok (), wire)
  else (.error .invalidArgument, bytes)

/-- An encoder whose outcome is all or nothing succeeds with {lit}`result`
exactly when the value is valid and {lit}`result` is its wire form. -/
theorem runEncode_eq_ok_iff_of_allOrNothing {program : EncodeM Unit} {length : Nat}
    {valid : Bool} {wire bytes result : Bytes}
    (hrun : runOn program bytes = allOrNothing length valid wire bytes)
    (hlength : bytes.length = length) :
    runEncode program bytes = (.ok, result) ↔ valid = true ∧ result = wire := by
  rw [runEncode, hrun, allOrNothing, if_neg (not_not_intro hlength)]
  cases valid with
  | false => simp
  | true => simp [eq_comm]

/-! ## Readers -/

/-- Shared body of the big-endian readers. -/
def readBe (width : Nat) (bytes : Bytes) (offset : Nat) : Result Nat := do
  ensure (hasRange bytes offset width) .parseError
  return beNat ((bytes.drop offset).take width)

def readU8 (bytes : Bytes) (offset : Nat) : Result UInt8 :=
  (readBe 1 bytes offset).map UInt8.ofNat

def readU16Be (bytes : Bytes) (offset : Nat) : Result UInt16 :=
  (readBe 2 bytes offset).map UInt16.ofNat

def readU32Be (bytes : Bytes) (offset : Nat) : Result UInt32 :=
  (readBe 4 bytes offset).map UInt32.ofNat

/-- ITCH timestamps are six-byte values, returned in a 64-bit integer. -/
def readU48Be (bytes : Bytes) (offset : Nat) : Result UInt64 :=
  (readBe 6 bytes offset).map UInt64.ofNat

def readU64Be (bytes : Bytes) (offset : Nat) : Result UInt64 :=
  (readBe 8 bytes offset).map UInt64.ofNat

/-! ## Writers -/

/-- Shared body of the big-endian writers. -/
def writeBe (width offset value : Nat) : EncodeM Unit := do
  let bytes ← get
  ensure (hasRange bytes offset width) .parseError
  set (splice bytes offset (beBytes width value))

def writeU8 (offset : Nat) (value : UInt8) : EncodeM Unit :=
  writeBe 1 offset value.toNat

def writeU16Be (offset : Nat) (value : UInt16) : EncodeM Unit :=
  writeBe 2 offset value.toNat

def writeU32Be (offset : Nat) (value : UInt32) : EncodeM Unit :=
  writeBe 4 offset value.toNat

/-- Unlike the other widths, six bytes can be too few for the argument. -/
def writeU48Be (offset : Nat) (value : UInt64) : EncodeM Unit := do
  let bytes ← get
  ensure (hasRange bytes offset 6) .parseError
  ensure (value ≤ 0x0000FFFFFFFFFFFF) .invalidArgument
  set (splice bytes offset (beBytes 6 value.toNat))

def writeU64Be (offset : Nat) (value : UInt64) : EncodeM Unit :=
  writeBe 8 offset value.toNat

/-! ## Specifications -/

/-- A read succeeds with {lit}`value` exactly when its bytes sit at the offset. -/
theorem readBe_eq_ok_iff {width offset value : Nat} {bytes : Bytes} (hwidth : 0 < width) :
    readBe width bytes offset = .ok value ↔
      value < 256 ^ width ∧ HoldsAt bytes offset (beBytes width value) := by
  have hslice : hasRange bytes offset width = true →
      ((bytes.drop offset).take width).length = width := by
    rw [hasRange_iff, List.length_take, List.length_drop]
    omega
  simp only [readBe, Result.bind_eq_ok_iff, Result.ensure_eq_ok_iff, Result.pure_eq_ok_iff,
    exists_const, HoldsAt, beBytes_length]
  constructor
  · rintro ⟨hrange, rfl⟩
    have hlt := beNat_lt ((bytes.drop offset).take width)
    rw [hslice hrange] at hlt
    exact ⟨hlt, (beNat_eq_iff (hslice hrange) hlt).mp rfl⟩
  · rintro ⟨hlt, hholds⟩
    have hfit : HoldsAt bytes offset (beBytes width value) := by
      rw [HoldsAt, beBytes_length, hholds]
    have hne : beBytes width value ≠ [] := by
      intro hnil
      have := beBytes_length width value
      rw [hnil, List.length_nil] at this
      omega
    have hrange := hfit.length_le hne
    rw [beBytes_length] at hrange
    have hrange' := hasRange_iff.mpr hrange
    exact ⟨hrange', (beNat_eq_iff (hslice hrange') hlt).mpr hholds⟩

/-- Reading through a bounded integer type whose conversions are inverse below
{lit}`256 ^ width`. -/
theorem map_readBe_eq_ok_iff {τ : Type} {ofNat : Nat → τ} {toNat : τ → Nat} {width : Nat}
    (hwidth : 0 < width) (hleft : ∀ v, ofNat (toNat v) = v)
    (hright : ∀ n, n < 256 ^ width → toNat (ofNat n) = n)
    {bytes : Bytes} {offset : Nat} {v : τ} :
    (readBe width bytes offset).map ofNat = .ok v ↔
      toNat v < 256 ^ width ∧ HoldsAt bytes offset (beBytes width (toNat v)) := by
  simp only [Result.map_eq_ok_iff, readBe_eq_ok_iff hwidth]
  constructor
  · rintro ⟨n, ⟨hlt, hholds⟩, rfl⟩
    rw [hright n hlt]
    exact ⟨hlt, hholds⟩
  · rintro ⟨hlt, hholds⟩
    exact ⟨toNat v, ⟨hlt, hholds⟩, hleft v⟩

/-- The wire form of each unsigned integer width. -/
def u8Bytes (value : UInt8) : Bytes := beBytes 1 value.toNat
def u16Bytes (value : UInt16) : Bytes := beBytes 2 value.toNat
def u32Bytes (value : UInt32) : Bytes := beBytes 4 value.toNat
def u48Bytes (value : UInt64) : Bytes := beBytes 6 value.toNat
def u64Bytes (value : UInt64) : Bytes := beBytes 8 value.toNat

@[simp] theorem u8Bytes_length (value : UInt8) : (u8Bytes value).length = 1 :=
  beBytes_length _ _

@[simp] theorem u16Bytes_length (value : UInt16) : (u16Bytes value).length = 2 :=
  beBytes_length _ _

@[simp] theorem u32Bytes_length (value : UInt32) : (u32Bytes value).length = 4 :=
  beBytes_length _ _

@[simp] theorem u48Bytes_length (value : UInt64) : (u48Bytes value).length = 6 :=
  beBytes_length _ _

@[simp] theorem u64Bytes_length (value : UInt64) : (u64Bytes value).length = 8 :=
  beBytes_length _ _

@[simp] theorem readU8_eq_ok_iff {bytes : Bytes} {offset : Nat} {v : UInt8} :
    readU8 bytes offset = .ok v ↔ HoldsAt bytes offset (u8Bytes v) := by
  rw [readU8, map_readBe_eq_ok_iff (by decide) (fun v => UInt8.ofNat_toNat)
    (fun n hn => UInt8.toNat_ofNat_of_lt hn)]
  exact and_iff_right v.toNat_lt

@[simp] theorem readU16Be_eq_ok_iff {bytes : Bytes} {offset : Nat} {v : UInt16} :
    readU16Be bytes offset = .ok v ↔ HoldsAt bytes offset (u16Bytes v) := by
  rw [readU16Be, map_readBe_eq_ok_iff (by decide) (fun v => UInt16.ofNat_toNat)
    (fun n hn => UInt16.toNat_ofNat_of_lt hn)]
  exact and_iff_right v.toNat_lt

@[simp] theorem readU32Be_eq_ok_iff {bytes : Bytes} {offset : Nat} {v : UInt32} :
    readU32Be bytes offset = .ok v ↔ HoldsAt bytes offset (u32Bytes v) := by
  rw [readU32Be, map_readBe_eq_ok_iff (by decide) (fun v => UInt32.ofNat_toNat)
    (fun n hn => UInt32.toNat_ofNat_of_lt hn)]
  exact and_iff_right v.toNat_lt

@[simp] theorem readU48Be_eq_ok_iff {bytes : Bytes} {offset : Nat} {v : UInt64} :
    readU48Be bytes offset = .ok v ↔
      v ≤ 0x0000FFFFFFFFFFFF ∧ HoldsAt bytes offset (u48Bytes v) := by
  rw [readU48Be, map_readBe_eq_ok_iff (by decide) (fun v => UInt64.ofNat_toNat)
    (fun n hn => UInt64.toNat_ofNat_of_lt (hn.trans (by decide)))]
  have hbound : v.toNat < 256 ^ 6 ↔ v ≤ 0x0000FFFFFFFFFFFF := by
    rw [UInt64.le_iff_toNat_le]
    exact Nat.lt_succ_iff
  rw [hbound, u48Bytes]

@[simp] theorem readU64Be_eq_ok_iff {bytes : Bytes} {offset : Nat} {v : UInt64} :
    readU64Be bytes offset = .ok v ↔ HoldsAt bytes offset (u64Bytes v) := by
  rw [readU64Be, map_readBe_eq_ok_iff (by decide) (fun v => UInt64.ofNat_toNat)
    (fun n hn => UInt64.toNat_ofNat_of_lt hn)]
  exact and_iff_right v.toNat_lt

/-- A writer given enough room fills exactly its own range. -/
theorem writeBe_emitsAt (width offset value : Nat) :
    EmitsAt (writeBe width offset value) offset (beBytes width value) := by
  intro bytes hfit
  rw [beBytes_length] at hfit
  rw [writeBe, runOn_bind_ok (runOn_get bytes)]
  rw [runOn_bind_ok (by rw [runOn_ensure, hasRange_iff.mpr hfit]; rfl)]
  rw [runOn_set]

/-- Without room a writer fails and touches nothing. -/
theorem runEncode_writeBe (width offset value : Nat) (bytes : Bytes) :
    runEncode (writeBe width offset value) bytes =
      if hasRange bytes offset width then (.ok, splice bytes offset (beBytes width value))
      else (.parseError, bytes) := by
  rw [runEncode, writeBe, runOn_bind_ok (runOn_get bytes), runOn_ensure_bind]
  cases hasRange bytes offset width <;> rfl

theorem runEncode_writeU48Be (offset : Nat) (value : UInt64) (bytes : Bytes) :
    runEncode (writeU48Be offset value) bytes =
      if hasRange bytes offset 6 then
        if value ≤ 0x0000FFFFFFFFFFFF then (.ok, splice bytes offset (u48Bytes value))
        else (.invalidArgument, bytes)
      else (.parseError, bytes) := by
  rw [runEncode, writeU48Be, runOn_bind_ok (runOn_get bytes), runOn_ensure_bind]
  cases hasRange bytes offset 6 with
  | false => rfl
  | true =>
      rw [if_pos rfl, if_pos rfl, runOn_ensure_bind]
      by_cases hvalue : value ≤ 0x0000FFFFFFFFFFFF
      · rw [if_pos hvalue, if_pos (decide_eq_true hvalue)]
        rfl
      · rw [if_neg hvalue, if_neg (by simpa using hvalue)]

theorem writeU8_emitsAt (offset : Nat) (v : UInt8) :
    EmitsAt (writeU8 offset v) offset (u8Bytes v) :=
  writeBe_emitsAt 1 offset v.toNat

theorem writeU16Be_emitsAt (offset : Nat) (v : UInt16) :
    EmitsAt (writeU16Be offset v) offset (u16Bytes v) :=
  writeBe_emitsAt 2 offset v.toNat

theorem writeU32Be_emitsAt (offset : Nat) (v : UInt32) :
    EmitsAt (writeU32Be offset v) offset (u32Bytes v) :=
  writeBe_emitsAt 4 offset v.toNat

theorem writeU48Be_emitsAt {v : UInt64} (hv : v ≤ 0x0000FFFFFFFFFFFF) (offset : Nat) :
    EmitsAt (writeU48Be offset v) offset (u48Bytes v) := by
  intro bytes hfit
  rw [u48Bytes_length] at hfit
  rw [writeU48Be, runOn_bind_ok (runOn_get bytes)]
  rw [runOn_bind_ok (by rw [runOn_ensure, hasRange_iff.mpr hfit]; rfl)]
  rw [runOn_bind_ok (by rw [runOn_ensure, decide_eq_true hv]; rfl)]
  rw [runOn_set, u48Bytes]

theorem writeU64Be_emitsAt (offset : Nat) (v : UInt64) :
    EmitsAt (writeU64Be offset v) offset (u64Bytes v) :=
  writeBe_emitsAt 8 offset v.toNat

end Fgep.Wire
