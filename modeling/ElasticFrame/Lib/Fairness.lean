import ElasticFrame.Lib.Machine
import Mathlib.Order.Monotone.Basic

/-!
# Fair Schedules

Machines whose inputs belong to threads, and infinite schedules that give every thread its turn
again and again. A step of a thread that cannot go on leaves the state as it is.

`Machine.Progress` is what has to be shown of single steps: until the goal is reached no step makes
a measure larger, and there is a thread that helps: its next step, whatever it reads, makes the
measure smaller, and until then it stays helpful. Then every fair schedule reaches the
goal (`Progress.reaches`). Which thread helps may differ from state to state. Goals that are reached
one after the other are put together with `after_add` and `Fair.shift`.
-/

namespace ElasticFrame.Lib

namespace Machine

variable {σ ι ο θ : Type*} (M : Machine σ ι ο)

/-- The state after `n` steps of an infinite schedule. -/
def after (s : σ) (schedule : ℕ → ι) (n : ℕ) : σ := M.run s ((List.range n).map schedule)

@[simp] theorem after_zero (s : σ) (schedule : ℕ → ι) : M.after s schedule 0 = s := rfl

theorem after_succ (s : σ) (schedule : ℕ → ι) (n : ℕ) :
    M.after s schedule (n + 1) = (M.step (M.after s schedule n) (schedule n)).1 := by
  rw [after, List.range_succ, List.map_append, List.map_singleton, run_concat]
  rfl

/-- More steps of a schedule are steps of what is left of it. -/
theorem after_add (s : σ) (schedule : ℕ → ι) (n m : ℕ) :
    M.after s schedule (n + m) = M.after (M.after s schedule n) (fun k => schedule (n + k)) m := by
  induction m with
  | zero => rfl
  | succ m ih => rw [← Nat.add_assoc, after_succ, after_succ, ih]

/-- Every thread has its turn after every point in time. -/
def Fair (thread : ι → θ) (schedule : ℕ → ι) : Prop :=
  ∀ t n, ∃ m, n ≤ m ∧ thread (schedule m) = t

/-- What is left of a fair schedule is fair. -/
theorem Fair.shift {thread : ι → θ} {schedule : ℕ → ι} (h : Fair thread schedule) (n : ℕ) :
    Fair thread fun k => schedule (n + k) := by
  intro t k
  obtain ⟨m, hm, hturn⟩ := h t (n + k)
  obtain ⟨j, rfl⟩ := Nat.exists_eq_add_of_le hm
  refine ⟨k + j, Nat.le_add_right k j, ?_⟩
  rw [← hturn, Nat.add_assoc]

/-- What single steps have to satisfy, in the states with `I` and for the inputs with `C`. -/
structure Progress (thread : ι → θ) (C : ι → Prop) (I Done : σ → Prop) (helps : σ → θ → Prop)
    (measure : σ → ℕ) : Prop where
  keeps : ∀ x i, C i → I x → ¬ Done x → I (M.step x i).1
  someone : ∀ x, I x → ¬ Done x → ∃ t, helps x t
  goesOn : ∀ x i, C i → I x → ¬ Done x → Done (M.step x i).1 ∨
    measure (M.step x i).1 < measure x ∨
    measure (M.step x i).1 ≤ measure x ∧ ∀ t, helps x t → thread i ≠ t ∧ helps (M.step x i).1 t

namespace Progress

variable {M} {thread : ι → θ} {C : ι → Prop} {I Done : σ → Prop} {helps : σ → θ → Prop}
  {measure : σ → ℕ} {schedule : ℕ → ι} {s : σ}

/-- While the goal is not reached the measure gets smaller some time. -/
private theorem smaller (h : M.Progress thread C I Done helps measure)
    (hC : ∀ n, C (schedule n)) (hfair : Fair thread schedule)
    (hopen : ∀ n, I (M.after s schedule n) ∧ ¬ Done (M.after s schedule n)) (n : ℕ) :
    ∃ m, measure (M.after s schedule m) < measure (M.after s schedule n) := by
  by_contra hnever
  have hnever : ∀ m, measure (M.after s schedule n) ≤ measure (M.after s schedule m) := by
    simpa using hnever
  obtain ⟨t, ht⟩ := h.someone _ (hopen n).1 (hopen n).2
  have hnext := fun m => (h.goesOn _ _ (hC m) (hopen m).1 (hopen m).2).resolve_left (by
    have hlater := (hopen (m + 1)).2
    rwa [after_succ] at hlater)
  -- the thread that helps stays helpful, and never has its turn
  have hstays : ∀ m, n ≤ m → helps (M.after s schedule m) t ∧
      measure (M.after s schedule m) ≤ measure (M.after s schedule n) := by
    intro m hm
    induction m, hm using Nat.le_induction with
    | base => exact ⟨ht, le_rfl⟩
    | succ m _ ih =>
      have hle := hnever (m + 1)
      rw [after_succ] at hle ⊢
      rcases hnext m with hless | ⟨hkeeps, hhelps⟩
      · exact absurd (hless.trans_le ih.2) (Nat.not_lt.mpr hle)
      · exact ⟨(hhelps t ih.1).2, hkeeps.trans ih.2⟩
  obtain ⟨m, hm, hturn⟩ := hfair t n
  obtain ⟨hhelpful, hle⟩ := hstays m hm
  rcases hnext m with hless | ⟨-, hhelps⟩
  · have hlower := hnever (m + 1)
    rw [after_succ] at hlower
    omega
  · exact (hhelps t hhelpful).1 hturn

/-- **Every fair schedule reaches the goal**, in a state with the invariant. -/
theorem reaches (h : M.Progress thread C I Done helps measure) (hinit : I s)
    (hC : ∀ n, C (schedule n)) (hfair : Fair thread schedule) :
    ∃ n, I (M.after s schedule n) ∧ Done (M.after s schedule n) := by
  by_contra hnever
  have hnever : ∀ n, I (M.after s schedule n) → ¬ Done (M.after s schedule n) := by
    simpa using hnever
  have hopen : ∀ n, I (M.after s schedule n) ∧ ¬ Done (M.after s schedule n) := by
    intro n
    induction n with
    | zero => exact ⟨hinit, hnever 0 hinit⟩
    | succ n ih =>
      have hkept : I (M.after s schedule (n + 1)) := by
        rw [after_succ]
        exact h.keeps _ _ (hC n) ih.1 ih.2
      exact ⟨hkept, hnever _ hkept⟩
  -- the measure would fall below every bound
  have hfalls : ∀ b n, measure (M.after s schedule n) ≤ b → False := by
    intro b
    induction b with
    | zero =>
      intro n hn
      obtain ⟨m, hm⟩ := h.smaller hC hfair hopen n
      omega
    | succ b ih =>
      intro n hn
      obtain ⟨m, hm⟩ := h.smaller hC hfair hopen n
      exact ih m (by omega)
  exact hfalls _ 0 le_rfl

end Progress

end Machine

end ElasticFrame.Lib
