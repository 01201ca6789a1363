import Mathlib.Data.List.Induction

/-!
# Machines with Outputs and Their Runs

A deterministic machine reads one input a step, moves to the next state and reports an
output. This file has the run of a machine over a list of inputs, the steps that a run takes,
and the rules that turn a fact about one step into a fact about every run.

Two shapes of invariant occur in practice, and both have a rule:

- `Machine.run_history`: an invariant about the inputs read so far *and* the state
- `Machine.run_invariant`: an invariant about the state alone

Both rules take a condition on the steps, so that a result of the form "in every run whose
steps all meet the condition" needs no second induction.
-/

namespace ElasticFrame.Lib

/-- A machine: the step reads an input and gives the next state and an output. -/
structure Machine (σ ι ο : Type*) where
  step : σ → ι → σ × ο

namespace Machine

variable {σ ι ο : Type*} (M : Machine σ ι ο)

/-! ## §1 Runs -/

/-- The state after reading the inputs in order. -/
def run (s : σ) (w : List ι) : σ :=
  w.foldl (fun x i => (M.step x i).1) s

/-- The outputs of a run, in order. -/
def outputs : σ → List ι → List ο
  | _, [] => []
  | s, i :: w => (M.step s i).2 :: outputs (M.step s i).1 w

/-- The run of `w` from `s` steps on input `i` in state `x`. -/
def Takes (s : σ) (w : List ι) (x : σ) (i : ι) : Prop :=
  ∃ pre post, w = pre ++ i :: post ∧ x = M.run s pre

@[simp] theorem run_nil (s : σ) : M.run s [] = s := rfl

@[simp] theorem run_cons (s : σ) (i : ι) (w : List ι) :
    M.run s (i :: w) = M.run (M.step s i).1 w := rfl

theorem run_append (s : σ) (w js : List ι) :
    M.run s (w ++ js) = M.run (M.run s w) js := by
  simp [run, List.foldl_append]

theorem run_concat (s : σ) (w : List ι) (i : ι) :
    M.run s (w ++ [i]) = (M.step (M.run s w) i).1 := by
  simp [run_append]

theorem outputs_append (s : σ) (w js : List ι) :
    M.outputs s (w ++ js) = M.outputs s w ++ M.outputs (M.run s w) js := by
  induction w generalizing s with
  | nil => rfl
  | cons i w ih => simp [outputs, ih]

theorem outputs_concat (s : σ) (w : List ι) (i : ι) :
    M.outputs s (w ++ [i]) = M.outputs s w ++ [(M.step (M.run s w) i).2] := by
  simp [outputs_append, outputs]

theorem outputs_length (s : σ) (w : List ι) : (M.outputs s w).length = w.length := by
  induction w generalizing s with
  | nil => rfl
  | cons i w ih => simp [outputs, ih]

/-! ## §2 The steps of a run -/

/-- An element of a list with one more at its end is that one, or an element of the list. -/
theorem split_concat {w pre post : List ι} {i j : ι} (h : w ++ [j] = pre ++ i :: post) :
    (w = pre ∧ j = i ∧ post = []) ∨ ∃ post', post = post' ++ [j] ∧ w = pre ++ i :: post' := by
  -- it is the last one exactly when nothing follows it
  rcases List.eq_nil_or_concat post with rfl | ⟨post, k, rfl⟩
  · obtain ⟨hw, hji⟩ := List.append_inj' h rfl
    exact Or.inl ⟨hw, List.singleton_inj.mp hji, rfl⟩
  · rw [List.concat_eq_append] at h ⊢
    have hcat : w ++ [j] = (pre ++ i :: post) ++ [k] := by simpa using h
    obtain ⟨hw, hjk⟩ := List.append_inj' hcat rfl
    obtain rfl := List.singleton_inj.mp hjk
    exact Or.inr ⟨post, rfl, hw⟩

theorem takes_concat_iff {s x : σ} {w : List ι} {i j : ι} :
    M.Takes s (w ++ [j]) x i ↔ M.Takes s w x i ∨ (x = M.run s w ∧ i = j) := by
  constructor
  · rintro ⟨pre, post, hsplit, rfl⟩
    rcases split_concat hsplit with ⟨rfl, rfl, -⟩ | ⟨post', -, rfl⟩
    · exact Or.inr ⟨rfl, rfl⟩
    · exact Or.inl ⟨pre, post', rfl, rfl⟩
  · rintro (⟨pre, post, rfl, rfl⟩ | ⟨rfl, rfl⟩)
    · exact ⟨pre, post ++ [j], by simp, rfl⟩
    · exact ⟨w, [], by simp, rfl⟩

theorem not_takes_nil {s x : σ} {i : ι} : ¬ M.Takes s [] x i := by
  rintro ⟨pre, post, hsplit, -⟩
  exact absurd hsplit (by simp)

theorem takes_cons_iff {s x : σ} {w : List ι} {i j : ι} :
    M.Takes s (j :: w) x i ↔ (x = s ∧ i = j) ∨ M.Takes (M.step s j).1 w x i := by
  constructor
  · rintro ⟨pre, post, hsplit, rfl⟩
    cases pre with
    | nil =>
      obtain ⟨rfl, rfl⟩ := List.cons.inj hsplit
      exact Or.inl ⟨rfl, rfl⟩
    | cons k pre =>
      obtain ⟨rfl, rfl⟩ := List.cons.inj hsplit
      exact Or.inr ⟨pre, post, rfl, rfl⟩
  · rintro (⟨rfl, rfl⟩ | ⟨pre, post, rfl, rfl⟩)
    · exact ⟨[], w, rfl, rfl⟩
    · exact ⟨j :: pre, post, rfl, rfl⟩

theorem takes_last (s : σ) (w : List ι) (i : ι) :
    M.Takes s (w ++ [i]) (M.run s w) i :=
  ⟨w, [], by simp, rfl⟩

theorem Takes.concat {s x : σ} {w : List ι} {i : ι} (h : M.Takes s w x i) (j : ι) :
    M.Takes s (w ++ [j]) x i :=
  (M.takes_concat_iff).mpr (Or.inl h)

theorem mem_outputs_iff {s : σ} {w : List ι} {o : ο} :
    o ∈ M.outputs s w ↔ ∃ x i, M.Takes s w x i ∧ o = (M.step x i).2 := by
  induction w using List.reverseRecOn with
  | nil => simp [outputs, Takes]
  | append_singleton w j ih =>
    simp only [outputs_concat, List.mem_append, List.mem_singleton, ih, takes_concat_iff]
    constructor
    · rintro (⟨x, i, ht, rfl⟩ | rfl)
      · exact ⟨x, i, Or.inl ht, rfl⟩
      · exact ⟨_, _, Or.inr ⟨rfl, rfl⟩, rfl⟩
    · rintro ⟨x, i, ht | ⟨rfl, rfl⟩, rfl⟩
      · exact Or.inl ⟨x, i, ht, rfl⟩
      · exact Or.inr rfl

/-! ## §3 From one step to every run -/

/-- **History rule**: an invariant of the inputs read so far and the state, kept by every step
    that meets `C`, holds at the end of every run whose steps all meet `C`. -/
theorem run_history {s : σ} {I : List ι → σ → Prop} {C : List ι → ι → Prop}
    (hinit : I [] s)
    (hstep : ∀ pre i, C pre i → I pre (M.run s pre) → I (pre ++ [i]) (M.step (M.run s pre) i).1)
    {w : List ι} (hC : ∀ pre i post, w = pre ++ i :: post → C pre i) :
    I w (M.run s w) := by
  induction w using List.reverseRecOn with
  | nil => exact hinit
  | append_singleton w j ih =>
    rw [run_concat]
    refine hstep w j (hC w j [] rfl) (ih fun pre i post hsplit => ?_)
    exact hC pre i (post ++ [j]) (by simp [hsplit])

/-- **State rule**: an invariant of the state, kept by every step that meets `C`. -/
theorem run_invariant {s : σ} {I : σ → Prop} {C : σ → ι → Prop} (hinit : I s)
    (hstep : ∀ x i, C x i → I x → I (M.step x i).1)
    {w : List ι} (hC : ∀ x i, M.Takes s w x i → C x i) : I (M.run s w) :=
  M.run_history (I := fun _ => I) (C := fun pre i => C (M.run s pre) i) hinit
    (fun _ _ hc hI => hstep _ _ hc hI) (fun pre _ post h => hC _ _ ⟨pre, post, h, rfl⟩)

/-- The steps taken by a prefix of a run are steps of the run. -/
theorem Takes.of_append {s x : σ} {w js : List ι} {i : ι} (h : M.Takes s w x i) :
    M.Takes s (w ++ js) x i := by
  obtain ⟨pre, post, rfl, rfl⟩ := h
  exact ⟨pre, post ++ js, by simp, rfl⟩

end Machine

end ElasticFrame.Lib
