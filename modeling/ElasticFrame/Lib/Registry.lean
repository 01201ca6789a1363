import Mathlib.Data.Finset.Card
import Mathlib.Data.Fintype.Card
import Mathlib.Data.List.Nodup

/-!
# Registries

Things of a type `ι` that bear a name of a type `κ`, or none, and an index that finds them by
name. The index is right when each of the two partial functions undoes the other
(`Registered`). Entering and leaving keep it right, one thing at a time or many at once, and
change the number of named things by what was entered or left.

The two partial functions are arbitrary: a registry is not a data structure but a relation
between two of them.
-/

namespace ElasticFrame.Lib

variable {κ ι : Type*}

/-- `find k` is `i` exactly when `i` bears the name `k`. -/
def Registered (find : κ → Option ι) (name : ι → Option κ) : Prop :=
  ∀ k i, find k = some i ↔ name i = some k

/-- The number of things that bear a name. -/
def named [Fintype ι] (name : ι → Option κ) : ℕ :=
  (Finset.univ.filter fun i => (name i).isSome).card

namespace Registered

variable {find : κ → Option ι} {name : ι → Option κ}

/-! ## §1 The index stays right -/

/-- No two things bear one name. -/
theorem name_injective (h : Registered find name) {i j : ι} {k : κ} (hi : name i = some k)
    (hj : name j = some k) : i = j :=
  Option.some.inj (((h k i).mpr hi).symm.trans ((h k j).mpr hj))

/-- A free name finds nothing. -/
theorem find_eq_none (h : Registered find name) {k : κ} (hfree : ∀ i, name i ≠ some k) :
    find k = none := by
  cases hk : find k with
  | none => rfl
  | some i => exact absurd ((h k i).mp hk) (hfree i)

variable [DecidableEq κ] [DecidableEq ι]

theorem enter (h : Registered find name) {k : κ} {i : ι} (hk : find k = none)
    (hi : name i = none) :
    Registered (Function.update find k (some i)) (Function.update name i (some k)) := by
  intro k' i'
  by_cases hkk : k' = k
  · subst hkk
    by_cases hii : i' = i
    · subst hii
      simp
    · -- no other thing bore the name that is entered
      have hother : name i' ≠ some k' := fun hn => by simp [(h k' i').mpr hn] at hk
      simp [hii, hother, Ne.symm hii]
  · by_cases hii : i' = i
    · subst hii
      have hother : find k' ≠ some i' := fun hf => by simp [(h k' i').mp hf] at hi
      simp [hkk, hother, Ne.symm hkk]
    · simp [hkk, hii, h k' i']

theorem leave (h : Registered find name) {k : κ} {i : ι} (hki : find k = some i) :
    Registered (Function.update find k none) (Function.update name i none) := by
  have hname := (h k i).mp hki
  intro k' i'
  by_cases hkk : k' = k
  · subst hkk
    by_cases hii : i' = i
    · subst hii
      simp
    · have hother : name i' ≠ some k' := fun hn => hii (h.name_injective hn hname)
      simp [hii, hother]
  · by_cases hii : i' = i
    · subst hii
      -- the thing that leaves bears no second name
      have hother : find k' ≠ some i' := fun hf =>
        hkk (Option.some.inj (((h k' i').mp hf).symm.trans hname))
      simp [hkk, hother]
    · simp [hkk, hii, h k' i']

/-- Many things leave at once. -/
theorem leaveAll (h : Registered find name) (gone : List (κ × ι))
    (hgone : ∀ e ∈ gone, find e.1 = some e.2) :
    Registered (fun k => if k ∈ gone.map Prod.fst then none else find k)
      (fun i => if i ∈ gone.map Prod.snd then none else name i) := by
  intro k i
  -- a thing leaves exactly when its name does
  have hsame : find k = some i → (k ∈ gone.map Prod.fst ↔ i ∈ gone.map Prod.snd) := by
    intro hki
    constructor
    · intro hk
      obtain ⟨e, he, rfl⟩ := List.mem_map.mp hk
      have hei : e.2 = i := Option.some.inj ((hgone e he).symm.trans hki)
      exact hei ▸ List.mem_map_of_mem he
    · intro hi
      obtain ⟨e, he, rfl⟩ := List.mem_map.mp hi
      have hek : e.1 = k :=
        Option.some.inj (((h _ _).mp (hgone e he)).symm.trans ((h _ _).mp hki))
      exact hek ▸ List.mem_map_of_mem he
  show (if k ∈ gone.map Prod.fst then none else find k) = some i ↔
    (if i ∈ gone.map Prod.snd then none else name i) = some k
  by_cases hki : find k = some i
  · rw [hki, (h k i).mp hki]
    simp only [hsame hki]
    split <;> simp
  · have hik : name i ≠ some k := fun hn => hki ((h k i).mpr hn)
    constructor
    · intro hfind
      exact absurd hfind (by split <;> simp [hki])
    · intro hname
      exact absurd hname (by split <;> simp [hik])

end Registered

/-! ## §2 Counting -/

section Counting

variable [Fintype ι] [DecidableEq ι] {name : ι → Option κ}

theorem named_enter {i : ι} (hi : name i = none) (k : κ) :
    named (Function.update name i (some k)) = named name + 1 := by
  have hset : (Finset.univ.filter fun j => (Function.update name i (some k) j).isSome) =
      insert i (Finset.univ.filter fun j => (name j).isSome) := by
    ext j
    by_cases hj : j = i
    · subst hj
      simp
    · simp [hj]
  rw [named, hset, Finset.card_insert_of_notMem (by simp [hi]), named]

theorem named_leave {i : ι} {k : κ} (hi : name i = some k) :
    named (Function.update name i none) + 1 = named name := by
  have hset : (Finset.univ.filter fun j => (Function.update name i none j).isSome) =
      (Finset.univ.filter fun j => (name j).isSome).erase i := by
    ext j
    by_cases hj : j = i
    · subst hj
      simp
    · simp [hj]
  rw [named, hset, Finset.card_erase_add_one (by simp [hi]), named]

/-- Things that leave at once are counted one by one when they are all different. -/
theorem named_leaveAll {gone : List ι} (hnodup : gone.Nodup)
    (hnamed : ∀ i ∈ gone, (name i).isSome) :
    named (fun i => if i ∈ gone then none else name i) + gone.length = named name := by
  have hset : (Finset.univ.filter fun j => (if j ∈ gone then none else name j).isSome) =
      (Finset.univ.filter fun j => (name j).isSome) \ gone.toFinset := by
    ext j
    by_cases hj : j ∈ gone
    · simp [hj]
    · simp [hj]
  have hsub : gone.toFinset ⊆ Finset.univ.filter fun j => (name j).isSome := by
    intro j hj
    exact Finset.mem_filter.mpr ⟨Finset.mem_univ j, hnamed j (List.mem_toFinset.mp hj)⟩
  rw [named, hset, ← List.toFinset_card_of_nodup hnodup, named]
  exact Finset.card_sdiff_add_card_eq_card hsub

end Counting

end ElasticFrame.Lib
