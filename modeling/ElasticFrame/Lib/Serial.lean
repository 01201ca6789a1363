import Mathlib.Data.Int.ModEq
import Mathlib.Tactic.Ring

/-!
# Serial Numbers: Widening a Wrapped Counter

A sender numbers its messages with a `w`-bit counter that wraps; a receiver wants the number
back in `v ≥ w` bits. It keeps the last wide number and adds the signed `w`-bit difference of
the new and the old wrapped number.

- `Serial.widen_eq`: while two consecutive numbers are less than half the wrapped range apart,
  the wide counter follows the true one (modulo `2 ^ v`)
- `Serial.setWidth_ofInt`: a number that fits in `w` bits is where the wide counter starts
- `Serial.setWidth_widen`: whatever the numbers are, the wide counter stays congruent to the
  wrapped one
- `Serial.ofInt_eq_iff`: wrapped numbers are equal when the true ones are congruent
-/

namespace ElasticFrame.Lib.Serial

/-- One step of the widened counter: `wide` moves by the signed difference of `new` and `old`. -/
def widen {v w : ℕ} (wide : BitVec v) (old new : BitVec w) : BitVec v :=
  wide + (new - old).signExtend v

/-- A difference of less than half the range survives the truncation to `w` bits. -/
theorem signExtend_ofInt {v w : ℕ} {d : ℤ} (hlo : -(2 ^ w : ℤ) ≤ 2 * d) (hhi : 2 * d < 2 ^ w) :
    (BitVec.ofInt w d).signExtend v = BitVec.ofInt v d := by
  have hbmod : d.bmod (2 ^ w) = d :=
    Int.bmod_eq_of_le_mul_two (by push_cast; omega) (by push_cast; omega)
  rw [BitVec.signExtend, BitVec.toInt_ofInt, hbmod]

/-- A counter that has not wrapped yet is its own wide counter. -/
theorem setWidth_ofInt {v w : ℕ} {k : ℤ} (hlo : 0 ≤ k) (hhi : k < 2 ^ w) :
    (BitVec.ofInt w k).setWidth v = BitVec.ofInt v k := by
  obtain ⟨n, rfl⟩ := Int.eq_ofNat_of_zero_le hlo
  have hn : n < 2 ^ w := by exact_mod_cast hhi
  apply BitVec.toNat_inj.mp
  rw [BitVec.toNat_setWidth, BitVec.ofInt_natCast, BitVec.ofInt_natCast, BitVec.toNat_ofNat,
    BitVec.toNat_ofNat, Nat.mod_eq_of_lt hn]

/-- **Widening follows the true counter** while consecutive values are close. -/
theorem widen_eq {v w : ℕ} {c k : ℤ} (hlo : -(2 ^ w : ℤ) ≤ 2 * (k - c))
    (hhi : 2 * (k - c) < 2 ^ w) :
    widen (BitVec.ofInt v c) (BitVec.ofInt w c) (BitVec.ofInt w k) = BitVec.ofInt v k := by
  have hsub : BitVec.ofInt w k - BitVec.ofInt w c = BitVec.ofInt w (k - c) := by
    rw [BitVec.sub_eq_add_neg, ← BitVec.ofInt_neg, ← BitVec.ofInt_add, Int.sub_eq_add_neg]
  rw [widen, hsub, signExtend_ofInt hlo hhi, ← BitVec.ofInt_add]
  congr 1
  ring

/-- **Widening keeps the congruence**, whatever the inputs. -/
theorem setWidth_widen {v w : ℕ} (hvw : w ≤ v) (wide : BitVec v) (old new : BitVec w)
    (hcong : wide.setWidth w = old) : (widen wide old new).setWidth w = new := by
  -- the sign extension keeps the low `w` bits of the difference
  have hsign : ((new - old).signExtend v).setWidth w = new - old := by
    ext i hi
    simp [BitVec.getElem_signExtend, Nat.lt_of_lt_of_le hi hvw, hi]
  rw [widen, BitVec.setWidth_add _ _ hvw, hcong, hsign, BitVec.add_comm, BitVec.sub_add_cancel]

/-- Wrapped numbers are equal when the true ones are congruent. -/
theorem ofInt_eq_iff {v : ℕ} {a b : ℤ} :
    BitVec.ofInt v a = BitVec.ofInt v b ↔ (2 ^ v : ℤ) ∣ b - a := by
  rw [← Int.modEq_iff_dvd, ← BitVec.toNat_inj, BitVec.toNat_ofInt, BitVec.toNat_ofInt]
  have hpos : (0 : ℤ) < 2 ^ v := Int.pow_pos (by decide)
  have ha := Int.emod_nonneg a hpos.ne'
  have hb := Int.emod_nonneg b hpos.ne'
  unfold Int.ModEq
  push_cast
  omega

end ElasticFrame.Lib.Serial
