import Mathlib.Algebra.Group.Nat.Defs
import Mathlib.Data.List.Basic

/-!
# Little-Endian Fields of a Byte List

Fixed-width numbers as lists of bytes, lowest byte first, and the reading of such a number out
of a longer list. A record laid out without gaps is a concatenation of fields, and
`field_encode_skip` and `field_encode` read each one back.
-/

namespace ElasticFrame.Lib.LittleEndian

/-- The `k` low bytes of `n`, lowest first. -/
def encode : ℕ → ℕ → List UInt8
  | 0, _ => []
  | k + 1, n => UInt8.ofNat n :: encode k (n / 256)

/-- The number that the bytes denote, lowest first. -/
def decode : List UInt8 → ℕ
  | [] => 0
  | b :: bs => b.toNat + 256 * decode bs

/-- The number in the `k` bytes of `bytes` from offset `off` on. -/
def field (bytes : List UInt8) (off k : ℕ) : ℕ :=
  decode ((bytes.drop off).take k)

@[simp] theorem encode_length (k n : ℕ) : (encode k n).length = k := by
  induction k generalizing n with
  | zero => rfl
  | succ k ih => simp [encode, ih]

theorem decode_encode (k n : ℕ) : decode (encode k n) = n % 256 ^ k := by
  induction k generalizing n with
  | zero => simp [encode, decode, Nat.mod_one]
  | succ k ih =>
    have hbyte : (UInt8.ofNat n).toNat = n % 256 := UInt8.toNat_ofNat'
    rw [encode, decode, ih, hbyte, Nat.pow_succ', Nat.mod_mul]

/-- Bytes denote a number of their width. -/
theorem decode_lt (bytes : List UInt8) : decode bytes < 256 ^ bytes.length := by
  induction bytes with
  | nil => exact Nat.one_pos
  | cons b bytes ih =>
    have hbyte := b.toNat_lt
    rw [decode, List.length_cons, Nat.pow_succ']
    omega

/-- The number that bytes denote is encoded as these bytes. -/
theorem encode_decode (bytes : List UInt8) : encode bytes.length (decode bytes) = bytes := by
  induction bytes with
  | nil => rfl
  | cons b bytes ih =>
    have hbyte := b.toNat_lt
    have hlow : UInt8.ofNat (b.toNat + 256 * decode bytes) = b := by
      apply UInt8.toNat_inj.mp
      rw [UInt8.toNat_ofNat']
      omega
    have hhigh : (b.toNat + 256 * decode bytes) / 256 = decode bytes := by omega
    rw [decode, List.length_cons, encode, hlow, hhigh, ih]

/-! ## Reading the fields of a record -/

/-- A byte in front of the record is skipped. -/
theorem field_cons (b : UInt8) (bytes : List UInt8) (off k : ℕ) :
    field (b :: bytes) (off + 1) k = field bytes off k := rfl

/-- A whole field in front of the wanted one is skipped. -/
theorem field_encode_skip {j off : ℕ} (n : ℕ) (post : List UInt8) (k : ℕ) (hoff : j ≤ off) :
    field (encode j n ++ post) off k = field post (off - j) k := by
  have hdrop : (encode j n ++ post).drop off = post.drop (off - j) := by
    rw [List.drop_append, List.drop_eq_nil_of_le (by simpa using hoff), encode_length,
      List.nil_append]
  rw [field, hdrop, field]

/-- The field at the front is read back. -/
theorem field_encode (k n : ℕ) (post : List UInt8) :
    field (encode k n ++ post) 0 k = n % 256 ^ k := by
  have htake : (encode k n ++ post).take k = encode k n := List.take_left' (encode_length k n)
  rw [field, List.drop_zero, htake, decode_encode]

/-- The bytes of a field one by one, with zeros behind the end. -/
theorem field_succ (bytes : List UInt8) (off k : ℕ) :
    field bytes off (k + 1) = (bytes.getD off 0).toNat + 256 * field bytes (off + 1) k := by
  unfold field
  rcases Nat.lt_or_ge off bytes.length with hinside | hpast
  · rw [List.drop_eq_getElem_cons hinside, List.take_succ_cons, decode,
      List.getD_eq_getElem?_getD, List.getElem?_eq_getElem hinside, Option.getD_some]
  · rw [List.drop_eq_nil_of_le hpast, List.drop_eq_nil_of_le (Nat.le_succ_of_le hpast),
      List.getD_eq_getElem?_getD, List.getElem?_eq_none hpast]
    simp [decode]

/-- A field depends only on the bytes that it covers. -/
theorem field_congr {a b : List UInt8} {off k : ℕ}
    (h : ∀ i, off ≤ i → i < off + k → a.getD i 0 = b.getD i 0) : field a off k = field b off k := by
  induction k generalizing off with
  | zero => rfl
  | succ k ih =>
    have hfirst := h off (Nat.le_refl _) (by omega)
    have hrest : field a (off + 1) k = field b (off + 1) k :=
      ih fun i hlo hhi => h i (by omega) (by omega)
    rw [field_succ, field_succ, hfirst, hrest]

/-- A field denotes a number of its width. -/
theorem field_lt (bytes : List UInt8) (off k : ℕ) : field bytes off k < 256 ^ k :=
  Nat.lt_of_lt_of_le (decode_lt _) (Nat.pow_le_pow_right (by decide) (List.length_take_le _ _))

/-! ## Writing the fields of a record back -/

/-- **A field is written back** behind what stands in front of it. -/
theorem take_append_field {bytes : List UInt8} {off k : ℕ} (hlen : off + k ≤ bytes.length) :
    bytes.take off ++ encode k (field bytes off k) = bytes.take (off + k) := by
  have hlength : ((bytes.drop off).take k).length = k := by
    rw [List.length_take, List.length_drop]
    omega
  have hback := encode_decode ((bytes.drop off).take k)
  rw [hlength] at hback
  rw [field, hback, List.take_add]

end ElasticFrame.Lib.LittleEndian
