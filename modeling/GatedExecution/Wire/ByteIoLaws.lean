import GatedExecution.Wire.SpanIo

/-!
# Laws of byte I/O

What readers and writers of every width do to each other at every offset: they invert each
other, keep to their own range, and fail exactly when that range does not lie in the span.

Main results:

- Theorem {lit}`read_eq_ok_iff`: what a read finds.
- Theorem {lit}`write_cases`: a write fails on every span of the same size, or fills its range
  in each.
- Theorem {lit}`byte_io_laws`: the laws.
-/

namespace Fgep.Wire

open BigEndian Buffer

/-! ## The five widths -/

inductive Width where
  | u8
  | u16
  | u32
  | u48
  | u64
deriving DecidableEq

namespace Width

def bytes : Width → Nat
  | .u8 => 1
  | .u16 => 2
  | .u32 => 4
  | .u48 => 6
  | .u64 => 8

/-- The type of the values; six bytes are kept in eight. -/
abbrev Value : Width → Type
  | .u8 => UInt8
  | .u16 => UInt16
  | .u32 => UInt32
  | .u48 => UInt64
  | .u64 => UInt64

def number : (width : Width) → width.Value → Nat
  | .u8, value => UInt8.toNat value
  | .u16, value => UInt16.toNat value
  | .u32, value => UInt32.toNat value
  | .u48, value => UInt64.toNat value
  | .u64, value => UInt64.toNat value

def valueOf : (width : Width) → Nat → width.Value
  | .u8, value => UInt8.ofNat value
  | .u16, value => UInt16.ofNat value
  | .u32, value => UInt32.ofNat value
  | .u48, value => UInt64.ofNat value
  | .u64, value => UInt64.ofNat value

def read : (width : Width) → Span → UInt64 → Option (Result width.Value)
  | .u8, span, offset => span.readU8 offset
  | .u16, span, offset => span.readU16Be offset
  | .u32, span, offset => span.readU32Be offset
  | .u48, span, offset => span.readU48Be offset
  | .u64, span, offset => span.readU64Be offset

def write : (width : Width) → Span → UInt64 → width.Value → Option (ErrorCode × Span)
  | .u8, span, offset, value => span.writeU8 offset value
  | .u16, span, offset, value => span.writeU16Be offset value
  | .u32, span, offset, value => span.writeU32Be offset value
  | .u48, span, offset, value => span.writeU48Be offset value
  | .u64, span, offset, value => span.writeU64Be offset value

/-- The range lies in the span; the sum does not wrap. -/
def InRange (width : Width) (span : Span) (offset : UInt64) : Prop :=
  offset.toNat + width.bytes ≤ span.bytes.length

def Fits (width : Width) (value : width.Value) : Prop :=
  width.number value < 256 ^ width.bytes

instance (width : Width) (span : Span) (offset : UInt64) :
    Decidable (width.InRange span offset) :=
  inferInstanceAs (Decidable (_ ≤ _))

instance (width : Width) (value : width.Value) : Decidable (width.Fits value) :=
  inferInstanceAs (Decidable (_ < _))

def wire (width : Width) (value : width.Value) : Bytes :=
  beBytes width.bytes (width.number value)

@[simp]
theorem wire_length (width : Width) (value : width.Value) :
    (width.wire value).length = width.bytes :=
  beBytes_length _ _

theorem bytes_pos (width : Width) : 0 < width.bytes := by
  cases width <;> decide

theorem valueOf_number (width : Width) (value : width.Value) :
    width.valueOf (width.number value) = value := by
  cases width with
  | u8 => exact UInt8.ofNat_toNat
  | u16 => exact UInt16.ofNat_toNat
  | u32 => exact UInt32.ofNat_toNat
  | u48 => exact UInt64.ofNat_toNat
  | u64 => exact UInt64.ofNat_toNat

theorem number_valueOf {width : Width} {value : Nat} (hvalue : value < 256 ^ width.bytes) :
    width.number (width.valueOf value) = value := by
  cases width with
  | u8 => exact UInt8.toNat_ofNat_of_lt hvalue
  | u16 => exact UInt16.toNat_ofNat_of_lt hvalue
  | u32 => exact UInt32.toNat_ofNat_of_lt hvalue
  | u48 => exact UInt64.toNat_ofNat_of_lt (hvalue.trans (by decide))
  | u64 => exact UInt64.toNat_ofNat_of_lt hvalue

theorem fits_u48_iff (value : UInt64) :
    Fits .u48 value ↔ value ≤ 0x0000FFFFFFFFFFFF := by
  rw [UInt64.le_iff_toNat_le]
  exact Nat.lt_succ_iff

/-- All other widths fill their type. -/
theorem fits_of_ne_u48 {width : Width} (hwidth : width ≠ .u48) (value : width.Value) :
    width.Fits value := by
  cases width with
  | u8 => exact UInt8.toNat_lt value
  | u16 => exact UInt16.toNat_lt value
  | u32 => exact UInt32.toNat_lt value
  | u48 => exact absurd rfl hwidth
  | u64 => exact UInt64.toNat_lt value

/-! ## Reading -/

section Read

variable {width : Width} {span : Span} {offset : UInt64}

theorem read_eq (width : Width) (span : Span) (offset : UInt64) :
    width.read span offset =
      some ((readBe width.bytes span.bytes offset.toNat).map width.valueOf) := by
  cases width with
  | u8 => exact span.readU8_eq offset
  | u16 => exact span.readU16Be_eq offset
  | u32 => exact span.readU32Be_eq offset
  | u48 => exact span.readU48Be_eq offset
  | u64 => exact span.readU64Be_eq offset

theorem read_eq_ok_iff {value : width.Value} :
    width.read span offset = some (.ok value) ↔
      width.Fits value ∧ HoldsAt span.bytes offset.toNat (width.wire value) := by
  rw [read_eq, Option.some.injEq]
  exact map_readBe_eq_ok_iff width.bytes_pos width.valueOf_number (fun _ => number_valueOf)

theorem hasRange_eq_decide (width : Width) (span : Span) (offset : UInt64) :
    hasRange span.bytes offset.toNat width.bytes = decide (width.InRange span offset) :=
  Bool.eq_iff_iff.mpr (hasRange_iff.trans decide_eq_true_iff.symm)

theorem read_of_inRange (hrange : width.InRange span offset) :
    ∃ value, width.read span offset = some (.ok value) := by
  rw [read_eq, readBe, hasRange_eq_decide, decide_eq_true hrange]
  exact ⟨_, rfl⟩

theorem read_of_not_inRange (hrange : ¬width.InRange span offset) :
    width.read span offset = some (.error .parseError) := by
  rw [read_eq, readBe, hasRange_eq_decide, decide_eq_false hrange]
  rfl

theorem inRange_of_read {value : width.Value} (hread : width.read span offset = some (.ok value)) :
    width.InRange span offset := by
  by_contra hrange
  rw [read_of_not_inRange hrange] at hread
  cases hread

end Read

/-! ## Writing -/

section Write

variable {width : Width} {span : Span} {offset : UInt64} {value : width.Value}

theorem seen_write (width : Width) (span : Span) (offset : UInt64) (value : width.Value) :
    Span.seen (width.write span offset value) =
      some (if width.InRange span offset then
          if width.Fits value then (.ok, splice span.bytes offset.toNat (width.wire value))
          else (.invalidArgument, span.bytes)
        else (.parseError, span.bytes)) := by
  have hplain : width.Fits value →
      some (runEncode (writeBe width.bytes offset.toNat (width.number value)) span.bytes) =
        some (if width.InRange span offset then
          if width.Fits value then (.ok, splice span.bytes offset.toNat (width.wire value))
          else (.invalidArgument, span.bytes)
        else (.parseError, span.bytes)) := by
    intro hfits
    rw [runEncode_writeBe, hasRange_eq_decide, if_pos hfits]
    simp only [decide_eq_true_eq]
    rfl
  cases width with
  | u8 => exact (span.writeU8_eq offset value).trans (hplain (fits_of_ne_u48 (by decide) value))
  | u16 =>
      exact (span.writeU16Be_eq offset value).trans (hplain (fits_of_ne_u48 (by decide) value))
  | u32 =>
      exact (span.writeU32Be_eq offset value).trans (hplain (fits_of_ne_u48 (by decide) value))
  | u48 =>
      have hrange : hasRange span.bytes offset.toNat 6 = decide (InRange .u48 span offset) :=
        hasRange_eq_decide .u48 span offset
      refine (span.writeU48Be_eq offset value).trans ?_
      rw [runEncode_writeU48Be, hrange]
      simp only [decide_eq_true_eq, fits_u48_iff]
      rfl
  | u64 =>
      exact (span.writeU64Be_eq offset value).trans (hplain (fits_of_ne_u48 (by decide) value))

theorem write_of_not_inRange (hrange : ¬width.InRange span offset) :
    width.write span offset value = some (.parseError, span) := by
  have hseen := width.seen_write span offset value
  rw [if_neg hrange] at hseen
  exact Span.eq_of_seen hseen

theorem write_of_not_fits (hrange : width.InRange span offset) (hfits : ¬width.Fits value) :
    width.write span offset value = some (.invalidArgument, span) := by
  have hseen := width.seen_write span offset value
  rw [if_pos hrange, if_neg hfits] at hseen
  exact Span.eq_of_seen hseen

theorem InRange.fit (hrange : width.InRange span offset) (value : width.Value) :
    offset.toNat + (width.wire value).length ≤ span.bytes.length := by
  rw [wire_length]
  exact hrange

theorem write_of_inRange (hrange : width.InRange span offset) (hfits : width.Fits value) :
    width.write span offset value =
      some (.ok, span.overwrite offset (width.wire value) (hrange.fit value)) := by
  have hseen := width.seen_write span offset value
  rw [if_pos hrange, if_pos hfits] at hseen
  exact Span.eq_of_seen hseen

/-- Only the size of the span decides what becomes of a write. -/
theorem write_cases (width : Width) (offset : UInt64) (value : width.Value) (length : Nat) :
    (∃ error, error ≠ .ok ∧ ∀ span : Span, span.bytes.length = length →
      width.write span offset value = some (error, span)) ∨
    width.Fits value ∧ offset.toNat + width.bytes ≤ length := by
  by_cases hrange : offset.toNat + width.bytes ≤ length
  · by_cases hfits : width.Fits value
    · exact Or.inr ⟨hfits, hrange⟩
    · refine Or.inl ⟨.invalidArgument, by decide, ?_⟩
      rintro span rfl
      exact write_of_not_fits hrange hfits
  · refine Or.inl ⟨.parseError, by decide, ?_⟩
    rintro span rfl
    exact write_of_not_inRange hrange

/-- A write leaves the span alone or puts the wire form of the value into it. -/
theorem write_eq_some {code : ErrorCode} {after : Span}
    (hwrite : width.write span offset value = some (code, after)) :
    (code ≠ .ok ∧ after = span) ∨ ∃ hrange : width.InRange span offset,
      after = span.overwrite offset (width.wire value) (hrange.fit value) := by
  rcases width.write_cases offset value span.bytes.length with
    ⟨error, herror, hfails⟩ | ⟨hfits, hrange⟩
  · rw [hfails span rfl] at hwrite
    cases hwrite
    exact Or.inl ⟨herror, rfl⟩
  · rw [write_of_inRange hrange hfits] at hwrite
    cases hwrite
    exact Or.inr ⟨hrange, rfl⟩

end Write

/-! ## One width -/

section Laws

variable {width : Width} {span : Span} {offset : UInt64} {value : width.Value}

theorem write_then_read (hrange : width.InRange span offset) (hfits : width.Fits value) :
    ∃ after, width.write span offset value = some (.ok, after) ∧
      width.read after offset = some (.ok value) := by
  refine ⟨_, write_of_inRange hrange hfits, ?_⟩
  rw [read_eq_ok_iff]
  exact ⟨hfits, holdsAt_splice (hrange.fit value)⟩

theorem read_then_write (hread : width.read span offset = some (.ok value)) :
    width.write span offset value = some (.ok, span) := by
  have hrange := inRange_of_read hread
  rcases read_eq_ok_iff.mp hread with ⟨hfits, hholds⟩
  rw [write_of_inRange hrange hfits]
  exact congrArg (fun after => some (ErrorCode.ok, after))
    (Span.ext (splice_eq_self (hrange.fit value) hholds))

theorem write_frame {after : Span} (hwrite : width.write span offset value = some (.ok, after)) :
    after.bytes.length = span.bytes.length ∧
      ∀ index, index < offset.toNat ∨ offset.toNat + width.bytes ≤ index →
        after.bytes[index]? = span.bytes[index]? := by
  rcases write_eq_some hwrite with ⟨herror, -⟩ | ⟨hrange, rfl⟩
  · exact absurd rfl herror
  · refine ⟨splice_length (hrange.fit value), ?_⟩
    intro index houtside
    have hnot : ¬(offset.toNat ≤ index ∧ index < offset.toNat + (width.wire value).length) := by
      rw [wire_length]
      omega
    exact (getElem?_splice (hrange.fit value) index).trans (if_neg hnot)

end Laws

/-! ## Two ranges apart -/

section Apart

variable {width width' : Width} {span : Span} {offset offset' : UInt64} {value : width.Value}
  {value' : width'.Value}

theorem apart_wire (hapart : Apart offset.toNat width.bytes offset'.toNat width'.bytes)
    (value : width.Value) (value' : width'.Value) :
    Apart offset.toNat (width.wire value).length offset'.toNat (width'.wire value').length := by
  rw [wire_length, wire_length]
  exact hapart

/-- A write, successful or not, is not seen by a read apart from it. -/
theorem read_after_write_apart
    (hapart : Apart offset.toNat width.bytes offset'.toNat width'.bytes) {code : ErrorCode}
    {after : Span} (hwrite : width.write span offset value = some (code, after)) :
    width'.read after offset' = width'.read span offset' := by
  rcases write_eq_some hwrite with ⟨-, rfl⟩ | ⟨hrange, rfl⟩
  · rfl
  · have hfit := hrange.fit value
    by_cases hrange' : width'.InRange span offset'
    · rcases read_of_inRange hrange' with ⟨found, hfound⟩
      rw [hfound, read_eq_ok_iff]
      rcases read_eq_ok_iff.mp hfound with ⟨hfits', hholds⟩
      exact ⟨hfits', (holdsAt_splice_of_apart hfit (apart_wire hapart value found)).mpr hholds⟩
    · rw [read_of_not_inRange hrange', read_of_not_inRange]
      intro hin
      exact hrange' (Nat.le_trans hin (Nat.le_of_eq (splice_length hfit)))

/-- Two writes leave the same span in either order, each with the same code. -/
theorem writes_commute (hapart : Apart offset.toNat width.bytes offset'.toNat width'.bytes)
    (value : width.Value) (value' : width'.Value) :
    ∃ code code' first second final,
      width.write span offset value = some (code, first) ∧
      width'.write first offset' value' = some (code', final) ∧
      width'.write span offset' value' = some (code', second) ∧
      width.write second offset value = some (code, final) := by
  rcases width.write_cases offset value span.bytes.length with
    ⟨error, -, hfails⟩ | ⟨hfits, hrange⟩
  · rcases width'.write_cases offset' value' span.bytes.length with
      ⟨error', -, hfails'⟩ | ⟨hfits', hrange'⟩
    · exact ⟨error, error', span, span, span, hfails span rfl, hfails' span rfl,
        hfails' span rfl, hfails span rfl⟩
    · have hwrite' := write_of_inRange hrange' hfits'
      exact ⟨error, .ok, span, _, _, hfails span rfl, hwrite', hwrite',
        hfails _ (splice_length (InRange.fit hrange' value'))⟩
  · have hfit : offset.toNat + (width.wire value).length ≤ span.bytes.length :=
      InRange.fit hrange value
    have hwrite := write_of_inRange hrange hfits
    have hlength := splice_length hfit
    rcases width'.write_cases offset' value' span.bytes.length with
      ⟨error', -, hfails'⟩ | ⟨hfits', hrange'⟩
    · exact ⟨.ok, error', _, span, _, hwrite, hfails' _ hlength, hfails' span rfl, hwrite⟩
    · have hfit' : offset'.toNat + (width'.wire value').length ≤ span.bytes.length :=
        InRange.fit hrange' value'
      have hafter : width'.InRange (span.overwrite offset (width.wire value) hfit) offset' :=
        Nat.le_trans hrange' (Nat.le_of_eq hlength.symm)
      have hafter' : width.InRange (span.overwrite offset' (width'.wire value') hfit') offset :=
        Nat.le_trans hrange (Nat.le_of_eq (splice_length hfit').symm)
      refine ⟨.ok, .ok, _, _, _, hwrite, write_of_inRange hafter hfits',
        write_of_inRange hrange' hfits', ?_⟩
      rw [write_of_inRange hafter' hfits]
      exact congrArg (fun final => some (ErrorCode.ok, final))
        (Span.ext (splice_comm hfit hfit' (apart_wire hapart value value')).symm)

end Apart

/-! ## The laws -/

/-- Every width, at every 64-bit offset of every span. -/
theorem byte_io_laws (width width' : Width) (span : Span) (offset offset' : UInt64)
    (value : width.Value) (value' : width'.Value) :
    (width.InRange span offset → width.Fits value →
      ∃ after, width.write span offset value = some (.ok, after) ∧
        width.read after offset = some (.ok value)) ∧
    (∀ found, width.read span offset = some (.ok found) →
      width.write span offset found = some (.ok, span)) ∧
    (∀ after, width.write span offset value = some (.ok, after) →
      after.bytes.length = span.bytes.length ∧
        ∀ index, index < offset.toNat ∨ offset.toNat + width.bytes ≤ index →
          after.bytes[index]? = span.bytes[index]?) ∧
    (Apart offset.toNat width.bytes offset'.toNat width'.bytes →
      ∃ code code' first second final,
        width.write span offset value = some (code, first) ∧
        width'.write first offset' value' = some (code', final) ∧
        width'.write span offset' value' = some (code', second) ∧
        width.write second offset value = some (code, final) ∧
        width'.read first offset' = width'.read span offset' ∧
        width.read second offset = width.read span offset) ∧
    ((∃ found, width.read span offset = some (.ok found)) ↔ width.InRange span offset) ∧
    (width.Fits value →
      ((∃ after, width.write span offset value = some (.ok, after)) ↔
        width.InRange span offset)) ∧
    (¬width.InRange span offset →
      width.read span offset = some (.error .parseError) ∧
        width.write span offset value = some (.parseError, span)) ∧
    (∀ large : UInt64, 2 ^ 48 ≤ large.toNat →
      ∃ error, error ≠ .ok ∧ span.writeU48Be offset large = some (error, span)) := by
  refine ⟨write_then_read, fun found => read_then_write, fun after => write_frame, ?_, ?_, ?_,
    fun hrange => ⟨read_of_not_inRange hrange, write_of_not_inRange hrange⟩, ?_⟩
  · intro hapart
    rcases writes_commute hapart value value' with
      ⟨code, code', first, second, final, hfirst, hfinal, hsecond, hfinal'⟩
    exact ⟨code, code', first, second, final, hfirst, hfinal, hsecond, hfinal',
      read_after_write_apart hapart hfirst, read_after_write_apart hapart.symm hsecond⟩
  · exact ⟨fun ⟨_, hfound⟩ => inRange_of_read hfound, read_of_inRange⟩
  · intro hfits
    refine ⟨?_, fun hrange => ⟨_, write_of_inRange hrange hfits⟩⟩
    rintro ⟨after, hwrite⟩
    rcases write_eq_some hwrite with ⟨herror, -⟩ | ⟨hrange, -⟩
    · exact absurd rfl herror
    · exact hrange
  · intro large hlarge
    have hfits : ¬Fits .u48 large := Nat.not_lt.mpr hlarge
    rcases write_cases .u48 offset large span.bytes.length with
      ⟨error, herror, hfails⟩ | ⟨hfits', -⟩
    · exact ⟨error, herror, hfails span rfl⟩
    · exact absurd hfits' hfits

/-- At an offset of {lit}`2^64 - 1` the end of the range would wrap to 7. -/
example :
    let span : Span := ⟨[1, 2, 3, 4, 5, 6, 7, 8], by decide⟩
    span.readU64Be 0xFFFFFFFFFFFFFFFF = some (.error .parseError) ∧
      span.readU16Be 2 = some (.ok 0x0304) := by
  decide

end Width

end Fgep.Wire
