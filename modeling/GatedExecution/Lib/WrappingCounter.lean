import Mathlib

/-!
# Wrapping counters

A 64-bit counter that stands for an unbounded count.  Differences and equality of
two counters are those of the counts while these are less than {lit}`2^64` apart,
and a power-of-two table indexed by the low bits of a counter gives nearby counts
different places.

Main results:

- Theorem {lit}`toNat_ofNat_sub_ofNat`: differences.
- Theorem {lit}`ofNat_eq_ofNat_iff`: equality.
- Theorem {lit}`toNat_ofNat_and_mask`: low bits as a remainder.
- Theorem {lit}`mod_ne_mod_of_lt`: nearby counts have different places.
-/

namespace WrappingCounter

theorem ofNat_add_one (count : Nat) : UInt64.ofNat count + 1 = UInt64.ofNat (count + 1) := by
  rw [UInt64.ofNat_add]
  rfl

/-- A counter below its largest value counts one more. -/
theorem toNat_add_one {count : UInt64} (hfits : count.toNat + 1 < 2 ^ 64) :
    (count + 1).toNat = count.toNat + 1 := by
  rw [UInt64.toNat_add, UInt64.toNat_one]
  exact Nat.mod_eq_of_lt hfits

theorem toNat_ofNat_sub_ofNat_mod {later earlier : Nat} (hle : earlier ≤ later) :
    (UInt64.ofNat later - UInt64.ofNat earlier).toNat = (later - earlier) % 2 ^ 64 := by
  rw [← UInt64.ofNat_sub hle]
  exact UInt64.toNat_ofNat'

theorem toNat_ofNat_sub_ofNat {later earlier : Nat} (hle : earlier ≤ later)
    (hclose : later - earlier < 2 ^ 64) :
    (UInt64.ofNat later - UInt64.ofNat earlier).toNat = later - earlier :=
  (toNat_ofNat_sub_ofNat_mod hle).trans (Nat.mod_eq_of_lt hclose)

theorem ofNat_eq_ofNat_iff {later earlier : Nat} (hle : earlier ≤ later)
    (hclose : later - earlier < 2 ^ 64) :
    UInt64.ofNat earlier = UInt64.ofNat later ↔ earlier = later := by
  constructor
  · intro heq
    have hdistance := toNat_ofNat_sub_ofNat hle hclose
    rw [heq, UInt64.sub_self, UInt64.toNat_zero] at hdistance
    omega
  · exact congrArg UInt64.ofNat

/-- A 64-bit number with a single bit set is a power of two. -/
theorem exists_two_pow_of_and_pred {size : UInt64} (hpos : 0 < size.toNat)
    (hbits : size &&& (size - 1) = 0) : ∃ exponent, exponent ≤ 63 ∧ size.toNat = 2 ^ exponent := by
  have hpred : (size - 1).toNat = size.toNat - 1 :=
    UInt64.toNat_sub_of_le _ _ (UInt64.le_iff_toNat_le.mpr hpos)
  have hand : size.toNat &&& size.toNat - 1 = 0 := by
    rw [← hpred, ← UInt64.toNat_and, hbits]
    rfl
  rcases (Nat.and_sub_one_eq_zero_iff_isPowerOfTwo (Nat.ne_of_gt hpos)).mp hand with
    ⟨exponent, hexponent⟩
  refine ⟨exponent, ?_, hexponent⟩
  have hlt := UInt64.toNat_lt size
  rw [hexponent] at hlt
  exact Nat.le_of_lt_succ ((Nat.pow_lt_pow_iff_right (by decide)).mp hlt)

/-- The low bits of a counter are the remainder of its count. -/
theorem toNat_ofNat_and_mask {mask : UInt64} {exponent : Nat} (hexponent : exponent ≤ 63)
    (hmask : mask.toNat = 2 ^ exponent - 1) (count : Nat) :
    (UInt64.ofNat count &&& mask).toNat = count % 2 ^ exponent := by
  rw [UInt64.toNat_and, hmask, Nat.and_two_pow_sub_one_eq_mod, UInt64.toNat_ofNat']
  exact Nat.mod_mod_of_dvd count (Nat.pow_dvd_pow 2 (Nat.le_trans hexponent (by decide)))

theorem mod_ne_mod_of_lt {first second size : Nat} (hlt : first < second)
    (hclose : second < first + size) : first % size ≠ second % size := by
  intro heq
  have hdvd : size ∣ second - first :=
    Nat.dvd_of_mod_eq_zero (Nat.sub_mod_eq_zero_of_mod_eq heq.symm)
  have hzero := Nat.eq_zero_of_dvd_of_lt hdvd (by omega)
  omega

end WrappingCounter
