import ElasticFrame.Lib.Machine

/-!
# Leases

Some steps of a machine grant a key, others end one. A key is held after a run when a step of it
granted the key and no later one ended it. This is a matter of the inputs and the outputs alone.

- `Machine.heldAfter_concat`: what one more step does to the keys that are held
- `Machine.holds_iff_heldAfter`: a table in the state that takes in what is granted and gives up
  what is ended holds exactly these keys, in every run
-/

namespace ElasticFrame.Lib.Machine

variable {σ ι ο κ : Type*} (M : Machine σ ι ο) (grants : ι → ο → Option κ) (ends : ι → Option κ)

/-- The key is held after the run: it was granted, and not ended since. -/
def HeldAfter (s : σ) (w : List ι) (k : κ) : Prop :=
  ∃ pre i post, w = pre ++ i :: post ∧ grants i (M.step (M.run s pre) i).2 = some k ∧
    ∀ j ∈ post, ends j ≠ some k

theorem not_heldAfter_nil (s : σ) (k : κ) : ¬ M.HeldAfter grants ends s [] k := by
  rintro ⟨pre, i, post, hsplit, -⟩
  exact absurd hsplit (by simp)

/-- **One more step**: a key is held when the step grants it, or when it was held and the step does
    not end it. -/
theorem heldAfter_concat {s : σ} {w : List ι} {i : ι} {k : κ} :
    M.HeldAfter grants ends s (w ++ [i]) k ↔
      grants i (M.step (M.run s w) i).2 = some k ∨
        (M.HeldAfter grants ends s w k ∧ ends i ≠ some k) := by
  constructor
  · rintro ⟨pre, j, post, hsplit, hgrants, hkept⟩
    rcases split_concat hsplit with ⟨rfl, rfl, rfl⟩ | ⟨post, rfl, rfl⟩
    · exact Or.inl hgrants
    · exact Or.inr ⟨⟨pre, j, post, rfl, hgrants, fun j' hj' =>
        hkept j' (List.mem_append_left _ hj')⟩, hkept i (by simp)⟩
  · rintro (hgrants | ⟨⟨pre, j, post, rfl, hgrants, hkept⟩, hends⟩)
    · exact ⟨w, i, [], rfl, hgrants, fun j hj => absurd hj List.not_mem_nil⟩
    · refine ⟨pre, j, post ++ [i], by simp, hgrants, fun j' hj' => ?_⟩
      rcases List.mem_append.mp hj' with hj' | hj'
      · exact hkept j' hj'
      · exact List.mem_singleton.mp hj' ▸ hends

/-- A key that is held was granted. -/
theorem HeldAfter.granted {s : σ} {w : List ι} {k : κ} (h : M.HeldAfter grants ends s w k) :
    ∃ x i, M.Takes s w x i ∧ grants i (M.step x i).2 = some k := by
  obtain ⟨pre, i, post, hsplit, hgrants, -⟩ := h
  exact ⟨_, i, ⟨pre, post, hsplit, rfl⟩, hgrants⟩

/-- **Table rule**: a predicate on the state that follows the grants and the ends of every step is
    true of exactly the keys that are held. -/
theorem holds_iff_heldAfter {s : σ} {holds : σ → κ → Prop} (hinit : ∀ k, ¬ holds s k)
    (hstep : ∀ x i k, holds (M.step x i).1 k ↔
      grants i (M.step x i).2 = some k ∨ (holds x k ∧ ends i ≠ some k))
    (w : List ι) (k : κ) : holds (M.run s w) k ↔ M.HeldAfter grants ends s w k := by
  induction w using List.reverseRecOn generalizing k with
  | nil => exact iff_of_false (hinit k) (M.not_heldAfter_nil grants ends s k)
  | append_singleton w i ih => rw [run_concat, hstep, heldAfter_concat, ih]

end ElasticFrame.Lib.Machine
