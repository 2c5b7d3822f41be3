import Mathlib

/-!
# Big-endian byte strings

Fixed-width unsigned integers as byte strings, most significant byte first.
The reader folds shift-or over the bytes; the writer masks one shifted byte at
a time.  Nothing here knows a wire format: the width is a parameter.

Main results:

- Theorem {lit}`beNat_beBytes`: reading the written bytes of {lit}`v` returns
  {lit}`v % 256 ^ w`.
- Theorem {lit}`beBytes_beNat`: writing the value read from a byte string
  restores the string.
- Theorem {lit}`beNat_eq_iff`: a byte string of width {lit}`w` has value
  {lit}`v` exactly when it is the written form of {lit}`v`.
- Theorems {lit}`toNat_shiftOr` and {lit}`shiftedBytes_eq`: the same values and bytes,
  computed in a machine word.
-/

namespace BigEndian

/-- Continue a big-endian read from an accumulated value. -/
def beNatFrom (acc : Nat) (bytes : List UInt8) : Nat :=
  bytes.foldl (fun value byte => (value <<< 8) ||| byte.toNat) acc

/-- Value of a big-endian byte string. -/
def beNat (bytes : List UInt8) : Nat :=
  beNatFrom 0 bytes

/-- The {lit}`w` big-endian bytes of a value; higher bits are dropped. -/
def beBytes : Nat → Nat → List UInt8
  | 0, _ => []
  | w + 1, value => UInt8.ofNat ((value >>> (8 * w)) &&& 0xFF) :: beBytes w value

@[simp] theorem beBytes_length (w value : Nat) : (beBytes w value).length = w := by
  induction w with
  | zero => rfl
  | succ w ih => simp [beBytes, ih]

/-- One shift-or step is multiplication by 256 followed by an addition. -/
theorem shiftLeft_or_byte (acc : Nat) (byte : UInt8) :
    (acc <<< 8) ||| byte.toNat = acc * 256 + byte.toNat := by
  have hlt : byte.toNat < 2 ^ 8 := byte.toNat_lt
  rw [← Nat.shiftLeft_add_eq_or_of_lt hlt, Nat.shiftLeft_eq]

@[simp] theorem beNatFrom_nil (acc : Nat) : beNatFrom acc [] = acc := rfl

theorem beNatFrom_cons (acc : Nat) (byte : UInt8) (bytes : List UInt8) :
    beNatFrom acc (byte :: bytes) = beNatFrom (acc * 256 + byte.toNat) bytes := by
  simp only [beNatFrom, List.foldl_cons, shiftLeft_or_byte]

/-- The accumulator of a read is weighted by the bytes still to come. -/
theorem beNatFrom_eq (acc : Nat) (bytes : List UInt8) :
    beNatFrom acc bytes = acc * 256 ^ bytes.length + beNat bytes := by
  induction bytes generalizing acc with
  | nil => simp [beNat]
  | cons byte bytes ih =>
      rw [beNat, beNatFrom_cons, beNatFrom_cons, ih, ih (0 * 256 + byte.toNat)]
      simp only [List.length_cons, pow_succ]
      ring

theorem beNat_cons (byte : UInt8) (bytes : List UInt8) :
    beNat (byte :: bytes) = byte.toNat * 256 ^ bytes.length + beNat bytes := by
  rw [beNat, beNatFrom_cons, beNatFrom_eq]
  simp

/-- A byte string of width {lit}`w` reads below {lit}`256 ^ w`. -/
theorem beNat_lt (bytes : List UInt8) : beNat bytes < 256 ^ bytes.length := by
  induction bytes with
  | nil => simp [beNat]
  | cons byte bytes ih =>
      rw [beNat_cons, List.length_cons, pow_succ]
      have hbyte : byte.toNat < 256 := byte.toNat_lt
      have hmul : byte.toNat * 256 ^ bytes.length ≤ 255 * 256 ^ bytes.length :=
        Nat.mul_le_mul_right _ (by omega)
      omega

/-- The masked shifted byte is one base-256 digit. -/
theorem toNat_byteAt (value w : Nat) :
    (UInt8.ofNat ((value >>> (8 * w)) &&& 0xFF)).toNat = value / 256 ^ w % 256 := by
  have hmask : (value >>> (8 * w)) &&& 0xFF = value / 256 ^ w % 256 := by
    rw [show (0xFF : Nat) = 2 ^ 8 - 1 from rfl, Nat.and_two_pow_sub_one_eq_mod,
      Nat.shiftRight_eq_div_pow, pow_mul]
    norm_num
  rw [UInt8.toNat_ofNat', hmask]
  exact Nat.mod_eq_of_lt (Nat.mod_lt _ (by norm_num))

/-- Reading what was written keeps exactly the low {lit}`w` bytes. -/
theorem beNat_beBytes (w value : Nat) :
    beNat (beBytes w value) = value % 256 ^ w := by
  induction w with
  | zero => simp [beBytes, beNat, Nat.mod_one]
  | succ w ih =>
      rw [beBytes, beNat_cons, toNat_byteAt, beBytes_length, ih, Nat.mod_pow_succ]
      ring

/-- A value that fits its width survives the write and the read. -/
theorem beNat_beBytes_of_lt {w value : Nat} (h : value < 256 ^ w) :
    beNat (beBytes w value) = value := by
  rw [beNat_beBytes, Nat.mod_eq_of_lt h]

/-- Only the low {lit}`w` bytes of a value reach the wire. -/
theorem beBytes_add_mul (w high low : Nat) :
    beBytes w (high * 256 ^ w + low) = beBytes w low := by
  induction w generalizing high with
  | zero => rfl
  | succ w ih =>
      have hsplit : high * 256 ^ (w + 1) + low = (high * 256) * 256 ^ w + low := by
        rw [pow_succ]
        ring
      simp only [beBytes]
      congr 1
      · apply UInt8.toNat_inj.mp
        have hpos : 0 < 256 ^ w := by positivity
        rw [toNat_byteAt, toNat_byteAt, hsplit, Nat.mul_comm (high * 256),
          Nat.mul_add_div hpos, Nat.mul_comm high, Nat.mul_add_mod]
      · rw [hsplit]
        exact ih (high * 256)

/-- Writing the value just read restores the byte string. -/
theorem beBytes_beNat (bytes : List UInt8) :
    beBytes bytes.length (beNat bytes) = bytes := by
  induction bytes with
  | nil => rfl
  | cons byte bytes ih =>
      have hlt := beNat_lt bytes
      have hpos : 0 < 256 ^ bytes.length := by positivity
      rw [beNat_cons, List.length_cons, beBytes]
      congr 1
      · apply UInt8.toNat_inj.mp
        rw [toNat_byteAt, Nat.mul_comm, Nat.mul_add_div hpos, Nat.div_eq_of_lt hlt,
          Nat.add_zero]
        exact Nat.mod_eq_of_lt byte.toNat_lt
      · rw [beBytes_add_mul, ih]

/-- A byte string of the right width has value {lit}`v` exactly when it is the
written form of {lit}`v`. -/
theorem beNat_eq_iff {w value : Nat} {bytes : List UInt8}
    (hlen : bytes.length = w) (hvalue : value < 256 ^ w) :
    beNat bytes = value ↔ bytes = beBytes w value := by
  constructor
  · intro h
    rw [← h, ← hlen, beBytes_beNat]
  · intro h
    rw [h, beNat_beBytes_of_lt hvalue]

/-! ## Words of a fixed number of bits -/

/-- The bytes of a value in a word of {lit}`bits` bits, each shifted to its place. -/
def shiftOr (bits : Nat) : List UInt8 → BitVec bits
  | [] => 0
  | byte :: rest => (byte.toBitVec.setWidth bits <<< (8 * rest.length)) ||| shiftOr bits rest

/-- The low {lit}`w` bytes of a word, each shifted down and masked. -/
def shiftedBytes {bits : Nat} (value : BitVec bits) : Nat → List UInt8
  | 0 => []
  | w + 1 => UInt8.ofBitVec (((value >>> (8 * w)) &&& 0xFF).setWidth 8) :: shiftedBytes value w

/-- No byte is shifted out of a word that is wide enough. -/
theorem toNat_shiftOr {bits : Nat} (bytes : List UInt8) (hfits : 8 * bytes.length ≤ bits) :
    (shiftOr bits bytes).toNat = beNat bytes := by
  induction bytes with
  | nil => rfl
  | cons byte rest ih =>
      rw [List.length_cons] at hfits
      have hrest := beNat_lt rest
      have hbyte : byte.toNat < 2 ^ 8 := byte.toNat_lt
      have hpow : 2 ^ (8 * rest.length) = 256 ^ rest.length := by
        rw [pow_mul]
        norm_num
      have hsmall : byte.toNat * 2 ^ (8 * rest.length) < 2 ^ bits := by
        calc byte.toNat * 2 ^ (8 * rest.length) < 2 ^ 8 * 2 ^ (8 * rest.length) :=
              Nat.mul_lt_mul_of_pos_right hbyte (by positivity)
          _ = 2 ^ (8 + 8 * rest.length) := (pow_add _ _ _).symm
          _ ≤ 2 ^ bits := Nat.pow_le_pow_right (by decide) (by omega)
      have hwide : byte.toNat < 2 ^ bits :=
        Nat.lt_of_lt_of_le hbyte (Nat.pow_le_pow_right (by decide) (by omega))
      have hshift : (byte.toBitVec.setWidth bits <<< (8 * rest.length)).toNat =
          byte.toNat <<< (8 * rest.length) := by
        rw [BitVec.toNat_shiftLeft, BitVec.toNat_setWidth, UInt8.toNat_toBitVec,
          Nat.mod_eq_of_lt hwide, Nat.shiftLeft_eq, Nat.mod_eq_of_lt hsmall]
      rw [shiftOr, BitVec.toNat_or, hshift, ih (by omega),
        ← Nat.shiftLeft_add_eq_or_of_lt (hpow ▸ hrest), Nat.shiftLeft_eq, hpow, beNat_cons]

theorem shiftedBytes_eq {bits : Nat} (hbits : 8 ≤ bits) (value : BitVec bits) (w : Nat) :
    shiftedBytes value w = beBytes w value.toNat := by
  have hmask : (0xFF : BitVec bits).toNat = 0xFF :=
    Nat.mod_eq_of_lt (Nat.lt_of_lt_of_le (by decide) (Nat.pow_le_pow_right (by decide) hbits))
  induction w with
  | zero => rfl
  | succ w ih =>
      have hbyte : UInt8.ofBitVec (((value >>> (8 * w)) &&& 0xFF).setWidth 8) =
          UInt8.ofNat ((value.toNat >>> (8 * w)) &&& 0xFF) := by
        apply UInt8.toNat_inj.mp
        rw [UInt8.toNat_ofBitVec, BitVec.toNat_setWidth, BitVec.toNat_and,
          BitVec.toNat_ushiftRight, hmask, UInt8.toNat_ofNat']
      rw [shiftedBytes, beBytes, ih, hbyte]

end BigEndian
