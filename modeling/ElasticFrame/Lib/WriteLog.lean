import Mathlib.Logic.Function.Basic

/-!
# A Table and the Log of Its Writes

A table starts with one value in every cell and is written a cell at a time. What it holds is a
matter of the log alone: in each cell the value of the last write to it.

- `WriteLog.table_concat`: one more write is an update of the table
-/

namespace ElasticFrame.Lib.WriteLog

variable {κ ω β : Type*} [DecidableEq κ] (key : ω → κ) (val : ω → β) (initial : β)

/-- What a cell holds after the writes of `log`: the value of the last write to it. -/
def table (log : List ω) (k : κ) : β :=
  ((log.filter fun w => key w = k).getLast?.map val).getD initial

@[simp] theorem table_nil : table key val initial [] = fun _ => initial := rfl

/-- **One more write** updates its cell. -/
theorem table_concat (log : List ω) (w : ω) :
    table key val initial (log ++ [w]) =
      Function.update (table key val initial log) (key w) (val w) := by
  funext k
  by_cases hk : k = key w
  · subst hk
    simp [table, List.filter_append]
  · rw [Function.update_of_ne hk]
    simp [table, List.filter_append, Ne.symm hk]

end ElasticFrame.Lib.WriteLog
