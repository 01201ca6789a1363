import ElasticFrame.Lib.Machine

/-!
# Simulations

A fine machine is simulated by a coarse one when every step of the fine one is answered by some
inputs of the coarse one, none of them for a step that the coarse one does not see. The answers to
a run are a run of the coarse machine, and they only grow while the fine run goes on: what was
answered is never taken back.

A relation between the answers so far and the fine state is kept by every step
(`Simulation.step`), so it holds at the end of every run (`Simulation.run`). The relation may
speak of anything that the answers determine: the coarse state, its outputs, its steps.
-/

namespace ElasticFrame.Lib

namespace Machine

variable {σ ι ο κ : Type*} (M : Machine σ ι ο)

/-- The inputs of a run, each with its output. -/
def transcript (s : σ) (w : List ι) : List (ι × ο) := w.zip (M.outputs s w)

theorem transcript_concat (s : σ) (w : List ι) (i : ι) :
    M.transcript s (w ++ [i]) = M.transcript s w ++ [(i, (M.step (M.run s w) i).2)] := by
  rw [transcript, outputs_concat, List.zip_append (M.outputs_length s w).symm]
  rfl

/-- The answers to a run. -/
def answers (answer : σ → ι → List κ) : σ → List ι → List κ
  | _, [] => []
  | s, i :: w => answer s i ++ answers answer (M.step s i).1 w

variable (answer : σ → ι → List κ)

theorem answers_append (s : σ) (w js : List ι) :
    M.answers answer s (w ++ js) =
      M.answers answer s w ++ M.answers answer (M.run s w) js := by
  induction w generalizing s with
  | nil => rfl
  | cons i w ih => simp [answers, ih]

theorem answers_concat (s : σ) (w : List ι) (i : ι) :
    M.answers answer s (w ++ [i]) = M.answers answer s w ++ answer (M.run s w) i := by
  simp [answers_append, answers]

/-- What was answered stays answered. -/
theorem answers_prefix (s : σ) (w js : List ι) :
    M.answers answer s w <+: M.answers answer s (w ++ js) := by
  rw [answers_append]
  exact List.prefix_append _ _

/-- The relation holds at the start, and a step and its answer keep it. -/
structure Simulation (s : σ) (R : List κ → σ → Prop) : Prop where
  start : R [] s
  step : ∀ answered x i, R answered x → R (answered ++ answer x i) (M.step x i).1

variable {M answer}

/-- **Simulation rule**: the relation holds between the answers to a run and its last state. -/
theorem Simulation.run {s : σ} {R : List κ → σ → Prop} (h : M.Simulation answer s R)
    (w : List ι) : R (M.answers answer s w) (M.run s w) := by
  induction w using List.reverseRecOn with
  | nil => exact h.start
  | append_singleton w i ih =>
    rw [answers_concat, run_concat]
    exact h.step _ _ i ih

end Machine

end ElasticFrame.Lib
