import Mathlib.Data.List.Basic

/-!
# Flat Memory

A byte at every address, as a pointer sees it. `write` puts bytes at an address, `read` takes
some out, and neither knows of the blocks that an allocator made.

- `read_write_append`: a header written in front of data is read back together with the data
- `Holds`: a list of bytes stands at an address
- `SameOutside`: what a program may have changed, as a range of addresses
-/

namespace ElasticFrame.Lib

/-- A byte at every address. -/
abbrev Memory := ℕ → UInt8

namespace Memory

/-- The bytes are written from the address `pos` on. -/
def write (m : Memory) (pos : ℕ) (bytes : List UInt8) : Memory :=
  fun x => if pos ≤ x then (bytes[x - pos]?).getD (m x) else m x

/-- The `n` bytes from the address `pos` on. -/
def read (m : Memory) (pos n : ℕ) : List UInt8 := (List.range n).map fun i => m (pos + i)

/-- The bytes stand at the address `pos`. -/
def Holds (m : Memory) (pos : ℕ) (bytes : List UInt8) : Prop := m.read pos bytes.length = bytes

/-- Nothing differs outside the addresses from `lo` up to `hi`. -/
def SameOutside (lo hi : ℕ) (m m' : Memory) : Prop := ∀ x, x < lo ∨ hi ≤ x → m' x = m x

variable (m : Memory) (pos : ℕ) (bytes : List UInt8)

/-! ## §1 Reading and writing -/

@[simp] theorem read_length (n : ℕ) : (m.read pos n).length = n := by simp [read]

theorem read_append (n k : ℕ) : m.read pos (n + k) = m.read pos n ++ m.read (pos + n) k := by
  simp [read, List.range_add, Nat.add_assoc]

/-- Two memories that agree on a range read alike there. -/
theorem read_congr {m m' : Memory} {pos n : ℕ}
    (h : ∀ x, pos ≤ x → x < pos + n → m' x = m x) : m'.read pos n = m.read pos n := by
  apply List.map_congr_left
  intro i hi
  have hi := List.mem_range.mp hi
  exact h (pos + i) (by omega) (by omega)

theorem write_of_lt {x : ℕ} (hx : x < pos) : m.write pos bytes x = m x :=
  if_neg (Nat.not_le.mpr hx)

theorem write_of_ge {x : ℕ} (hx : pos + bytes.length ≤ x) : m.write pos bytes x = m x := by
  rw [write, if_pos (by omega), List.getElem?_eq_none (by omega), Option.getD_none]

/-- What was written is read back. -/
theorem holds_write : (m.write pos bytes).Holds pos bytes := by
  apply List.ext_getElem (by simp)
  intro i hi hi'
  simp [read, write, hi']

/-- **A header written in front of data is read together with the data.** -/
theorem read_write_append (n : ℕ) :
    (m.write pos bytes).read pos (bytes.length + n) = bytes ++ m.read (pos + bytes.length) n := by
  rw [read_append, m.holds_write pos bytes]
  congr 1
  exact read_congr fun x hx _ => m.write_of_ge pos bytes hx

/-! ## §2 Bytes that stand somewhere -/

namespace Holds

variable {m pos bytes}

/-- A part of the bytes is read from its own place. -/
theorem read_slice (h : m.Holds pos bytes) {off n : ℕ} (hfits : off + n ≤ bytes.length) :
    m.read (pos + off) n = (bytes.drop off).take n := by
  have hsplit : m.read pos bytes.length =
      m.read pos off ++ (m.read (pos + off) n ++ m.read (pos + off + n)
        (bytes.length - (off + n))) := by
    rw [← read_append, ← read_append]
    congr 1
    omega
  have hbytes : bytes = m.read pos off ++ (m.read (pos + off) n ++ m.read (pos + off + n)
      (bytes.length - (off + n))) := h.symm.trans hsplit
  rw [hbytes, List.drop_left' (m.read_length pos off), List.take_left' (m.read_length _ n)]

/-- The bytes behind the first `off` stand behind them. -/
theorem drop (h : m.Holds pos bytes) {off : ℕ} (hoff : off ≤ bytes.length) :
    m.Holds (pos + off) (bytes.drop off) := by
  have hslice : m.read (pos + off) (bytes.length - off) =
      (bytes.drop off).take (bytes.length - off) := h.read_slice (by omega)
  unfold Holds
  rw [List.length_drop, hslice, List.take_of_length_le (Nat.le_of_eq List.length_drop)]

/-- Bytes stand behind each other. -/
theorem append_iff {more : List UInt8} :
    m.Holds pos (bytes ++ more) ↔ m.Holds pos bytes ∧ m.Holds (pos + bytes.length) more := by
  unfold Holds
  rw [List.length_append, read_append]
  constructor
  · intro h
    exact List.append_inj h (m.read_length pos _)
  · rintro ⟨hbytes, hmore⟩
    rw [hbytes, hmore]

/-- A write in front of the bytes leaves them. -/
theorem write_before (h : m.Holds pos bytes) {lo : ℕ} {other : List UInt8}
    (hlo : lo + other.length ≤ pos) : (m.write lo other).Holds pos bytes :=
  (read_congr fun _ hx _ => m.write_of_ge lo other (Nat.le_trans hlo hx)).trans h

/-- A write behind the bytes leaves them. -/
theorem write_behind (h : m.Holds pos bytes) {hi : ℕ} {other : List UInt8}
    (hhi : pos + bytes.length ≤ hi) : (m.write hi other).Holds pos bytes :=
  (read_congr fun _ _ hx => m.write_of_lt hi other (Nat.lt_of_lt_of_le hx hhi)).trans h

end Holds

/-! ## §3 Ranges that may have changed -/

namespace SameOutside

variable {lo hi : ℕ} {m₁ m₂ m₃ : Memory}

theorem refl : SameOutside lo hi m₁ m₁ := fun _ _ => rfl

theorem trans (h₁ : SameOutside lo hi m₁ m₂) (h₂ : SameOutside lo hi m₂ m₃) :
    SameOutside lo hi m₁ m₃ := fun x hx => (h₂ x hx).trans (h₁ x hx)

/-- A write inside the range. -/
theorem write {pos : ℕ} {bytes : List UInt8} (hlo : lo ≤ pos) (hhi : pos + bytes.length ≤ hi) :
    SameOutside lo hi m₁ (m₁.write pos bytes) := by
  rintro x (hx | hx)
  · exact m₁.write_of_lt pos bytes (by omega)
  · exact m₁.write_of_ge pos bytes (by omega)

end SameOutside

end Memory

end ElasticFrame.Lib
