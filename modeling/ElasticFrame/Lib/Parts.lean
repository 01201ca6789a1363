import ElasticFrame.Lib.Simulation

/-!
# Parts of a machine

A machine often holds another one: some of its inputs are inputs of the part, and all the others
leave the part alone. Seen from the part, a run of the whole is then a run of the part on the
inputs that are its own, and nothing else that the whole reads makes a difference
(`run_part`).

How the whole holds a state of the part is a relation, so that the whole may hold it inside of an
entry, or of an option, or not hold it at all. The outputs are compared in a type of their own,
because what the whole reports of a step of the part need not be all that the part reports.
-/

namespace ElasticFrame.Lib

namespace Machine

variable {σ ι ο ρ κ π θ : Type*} (M : Machine σ ι ο) (N : Machine ρ κ π)

/-- How a part lies in the whole. -/
structure Embedding (σ ι ο ρ κ π θ : Type*) where
  /-- The whole holds this state of the part. -/
  Holds : σ → ρ → Prop
  /-- What an input is to the part. -/
  takes : ι → Option κ
  /-- What an output of the whole says of the part. -/
  shows : ο → θ
  /-- The same of an output of the part. -/
  reports : π → θ

variable (E : Embedding σ ι ο ρ κ π θ)

/-- One step of the whole is a step of the part, or leaves it alone. -/
def StepsPart (x : σ) (i : ι) : Prop :=
  ∀ r, E.Holds x r →
    match E.takes i with
    | none => E.Holds (M.step x i).1 r
    | some k =>
        E.Holds (M.step x i).1 (N.step r k).1 ∧ E.shows (M.step x i).2 = E.reports (N.step r k).2

/-- What a run of the whole says of the part. -/
def shown (s : σ) (w : List ι) : List θ :=
  (M.transcript s w).filterMap fun io => (E.takes io.1).map fun _ => E.shows io.2

theorem shown_concat (s : σ) (w : List ι) (i : ι) :
    M.shown E s (w ++ [i]) =
      M.shown E s w ++ ((E.takes i).map fun _ => E.shows (M.step (M.run s w) i).2).toList := by
  rw [shown, transcript_concat, List.filterMap_append]
  cases h : E.takes i <;> simp [shown, h]

variable {M N E}

/-- **Part rule**: a run of the whole is a run of the part on the inputs that are its own. -/
theorem run_part {s : σ} {r : ρ} {w : List ι} (hholds : E.Holds s r)
    (hstep : ∀ x i, M.Takes s w x i → M.StepsPart N E x i) :
    E.Holds (M.run s w) (N.run r (w.filterMap E.takes)) ∧
      M.shown E s w = (N.outputs r (w.filterMap E.takes)).map E.reports := by
  induction w using List.reverseRecOn with
  | nil => exact ⟨hholds, rfl⟩
  | append_singleton w i ih =>
    obtain ⟨hrun, hshown⟩ := ih fun x j ht => hstep x j (ht.concat M i)
    have hlast := hstep _ i (M.takes_last s w i) _ hrun
    rw [shown_concat, run_concat, List.filterMap_append, hshown]
    cases htakes : E.takes i with
    | none =>
      -- the input is not one of the part
      rw [htakes] at hlast
      simpa [htakes] using hlast
    | some k =>
      rw [htakes] at hlast
      simp only [List.filterMap_cons, htakes, List.filterMap_nil, run_concat, outputs_concat,
        List.map_append, List.map_cons, List.map_nil, Option.map_some, Option.toList_some]
      exact ⟨hlast.1, by rw [hlast.2]⟩

end Machine

end ElasticFrame.Lib
