import Mathlib.Data.List.Basic

/-!
# Memory Blocks with Uninitialised Cells

A block of memory as an allocator hands it out: a size, and cells that hold no known byte until
something is copied there. A copy writes a list of bytes at an offset; the block does not stop
a copy at its end (`Block.InBounds` says when it does not run past it).
-/

namespace ElasticFrame.Lib

/-- An allocated block: its size in bytes and, for every offset from its start, the byte that was
    written there (`none`: never written). -/
structure Block where
  size : ℕ
  cell : ℕ → Option UInt8

namespace Block

/-- A block fresh from the allocator. -/
def alloc (size : ℕ) : Block := { size, cell := fun _ => none }

/-- Copy `bytes` to offset `pos`. -/
def copy (b : Block) (pos : ℕ) (bytes : List UInt8) : Block :=
  { b with cell := fun x => if pos ≤ x ∧ x < pos + bytes.length then bytes[x - pos]? else b.cell x }

/-- A copy of `len` bytes to `pos` touches only cells of a block of `size` bytes. -/
def InBounds (pos len size : ℕ) : Prop := len = 0 ∨ pos + len ≤ size

instance (pos len size : ℕ) : Decidable (InBounds pos len size) :=
  inferInstanceAs (Decidable (_ ∨ _))

/-- The cells from `lo` up to `hi` have all been written. -/
def Written (b : Block) (lo hi : ℕ) : Prop := ∀ x, lo ≤ x → x < hi → (b.cell x).isSome

/-- The cells from `lo` up to `hi` hold the bytes of `image` at their own offsets. -/
def Shows (b : Block) (image : List UInt8) (lo hi : ℕ) : Prop :=
  ∀ x, lo ≤ x → x < hi → b.cell x = image[x]?

/-- The first `n` cells, read in order. -/
def read (b : Block) (n : ℕ) : List (Option UInt8) := (List.range n).map b.cell

@[simp] theorem copy_size (b : Block) (pos : ℕ) (bytes : List UInt8) :
    (b.copy pos bytes).size = b.size := rfl

theorem copy_cell (b : Block) (pos : ℕ) (bytes : List UInt8) (x : ℕ) :
    (b.copy pos bytes).cell x =
      if pos ≤ x ∧ x < pos + bytes.length then bytes[x - pos]? else b.cell x := rfl

/-- A copy writes its own range. -/
theorem written_copy (b : Block) (pos : ℕ) (bytes : List UInt8) :
    (b.copy pos bytes).Written pos (pos + bytes.length) := by
  intro x hlo hhi
  rw [copy_cell, if_pos ⟨hlo, hhi⟩, List.getElem?_eq_getElem (by omega)]
  rfl

/-- A copy unwrites nothing. -/
theorem Written.copy {b : Block} {lo hi : ℕ} (h : b.Written lo hi) (pos : ℕ)
    (bytes : List UInt8) : (b.copy pos bytes).Written lo hi := by
  intro x hlo hhi
  by_cases hin : pos ≤ x ∧ x < pos + bytes.length
  · exact written_copy b pos bytes x hin.1 hin.2
  · rw [copy_cell, if_neg hin]
    exact h x hlo hhi

theorem Written.mono {b : Block} {lo hi lo' hi' : ℕ} (h : b.Written lo hi) (hlo : lo ≤ lo')
    (hhi : hi' ≤ hi) : b.Written lo' hi' :=
  fun x h1 h2 => h x (by omega) (by omega)

theorem Written.append {b : Block} {lo mid hi : ℕ} (h₁ : b.Written lo mid)
    (h₂ : b.Written mid hi) : b.Written lo hi := by
  intro x hlo hhi
  by_cases hx : x < mid
  · exact h₁ x hlo hx
  · exact h₂ x (by omega) hhi

/-- A copy of a slice of the image shows the image there. -/
theorem shows_copy (b : Block) {image bytes : List UInt8} {pos : ℕ}
    (hslice : ∀ x, x < bytes.length → bytes[x]? = image[pos + x]?) :
    (b.copy pos bytes).Shows image pos (pos + bytes.length) := by
  intro x hlo hhi
  rw [copy_cell, if_pos ⟨hlo, hhi⟩, hslice _ (by omega)]
  congr 1
  omega

/-- Copies of slices of one image never disturb each other, wherever they overlap. -/
theorem Shows.copy {b : Block} {image bytes : List UInt8} {lo hi pos : ℕ}
    (h : b.Shows image lo hi) (hslice : ∀ x, x < bytes.length → bytes[x]? = image[pos + x]?) :
    (b.copy pos bytes).Shows image lo hi := by
  intro x hlo hhi
  by_cases hin : pos ≤ x ∧ x < pos + bytes.length
  · exact shows_copy b hslice x hin.1 hin.2
  · rw [copy_cell, if_neg hin]
    exact h x hlo hhi

theorem Shows.append {b : Block} {image : List UInt8} {lo mid hi : ℕ}
    (h₁ : b.Shows image lo mid) (h₂ : b.Shows image mid hi) : b.Shows image lo hi := by
  intro x hlo hhi
  by_cases hx : x < mid
  · exact h₁ x hlo hx
  · exact h₂ x (by omega) hhi

/-- A block that shows the whole image reads back as the image. -/
theorem Shows.read {b : Block} {image : List UInt8} (h : b.Shows image 0 image.length) :
    b.read image.length = image.map some := by
  apply List.ext_getElem?
  intro x
  by_cases hx : x < image.length
  · simp [Block.read, hx, h x (Nat.zero_le _) hx]
  · simp [Block.read, hx]

end Block

end ElasticFrame.Lib
