import ElasticFrame.Receiver.Delivery
import Mathlib.Data.List.Nodup

/-!
# What a Delivery Pass Does

Both engines walk the map, change buckets on the way and delete afterwards. This file says what
comes out of it without a walk: which entries are selected (`Receiver.scan`), what is handed out
for them (`Receiver.collect`) and what the receiver is afterwards (`Receiver.release`).

The closed form needs that no bucket is entered in the map under two orders
(`Receiver.SlotsDistinct`). The store invariant gives that for every reachable receiver.

- `runToCompletionMethod_eq`: `runToCompletionMethod` is the scan
- `receiverWorkerPass_eq`: a pass of `receiverWorker` is the scan too, or waits for its first run
-/

namespace ElasticFrame

/-! ## §1 The scan -/

namespace Receiver

/-- No bucket is entered in the map under two orders. -/
def SlotsDistinct (r : Receiver) : Prop := (r.mBucketMap.toList.map Prod.snd).Nodup

/-- Out of head-of-line mode: the bucket is complete or its deadline has passed. -/
def due (r : Receiver) (lTimeNow : ℤ) (i : Slot) : Bool :=
  (r.mBucketList i).mTimeout ≤ lTimeNow ∨ (r.mBucketList i).complete

/-- In head-of-line mode: the entries up to the first one that blocks, and the head after them. -/
def headScan (r : Receiver) (lTimeNow : ℤ) : List (UInt64 × Slot) → UInt64 →
    List (UInt64 × Slot) × UInt64
  | [], head => ([], head)
  | e :: rest, head =>
      let b := r.mBucketList e.2
      if b.mDeliveryOrder = head ∧ b.complete then
        let (es, head') := r.headScan lTimeNow rest (head + 1)
        (e :: es, head')
      else if b.mTimeout + r.holTimeout ≤ lTimeNow then
        let (es, head') := r.headScan lTimeNow rest (b.mDeliveryOrder + 1)
        (e :: es, head')
      else
        ([], head)

theorem headScan_expected (r : Receiver) (lTimeNow : ℤ) {e : UInt64 × Slot} {head : UInt64}
    (rest : List (UInt64 × Slot))
    (hexpected : (r.mBucketList e.2).mDeliveryOrder = head ∧ (r.mBucketList e.2).complete) :
    r.headScan lTimeNow (e :: rest) head =
      (e :: (r.headScan lTimeNow rest (head + 1)).1, (r.headScan lTimeNow rest (head + 1)).2) := by
  rw [headScan]
  exact if_pos hexpected

theorem headScan_jump (r : Receiver) (lTimeNow : ℤ) {e : UInt64 × Slot} {head : UInt64}
    (rest : List (UInt64 × Slot))
    (hexpected : ¬ ((r.mBucketList e.2).mDeliveryOrder = head ∧ (r.mBucketList e.2).complete))
    (htimeout : (r.mBucketList e.2).mTimeout + r.holTimeout ≤ lTimeNow) :
    r.headScan lTimeNow (e :: rest) head =
      (e :: (r.headScan lTimeNow rest ((r.mBucketList e.2).mDeliveryOrder + 1)).1,
        (r.headScan lTimeNow rest ((r.mBucketList e.2).mDeliveryOrder + 1)).2) := by
  rw [headScan]
  exact (if_neg hexpected).trans (if_pos htimeout)

theorem headScan_blocked (r : Receiver) (lTimeNow : ℤ) {e : UInt64 × Slot} {head : UInt64}
    (rest : List (UInt64 × Slot))
    (hexpected : ¬ ((r.mBucketList e.2).mDeliveryOrder = head ∧ (r.mBucketList e.2).complete))
    (htimeout : ¬ (r.mBucketList e.2).mTimeout + r.holTimeout ≤ lTimeNow) :
    r.headScan lTimeNow (e :: rest) head = ([], head) := by
  rw [headScan]
  exact (if_neg hexpected).trans (if_neg htimeout)

/-- What a pass selects, and the head-of-line variables after it. -/
structure Scan where
  selected : List (UInt64 × Slot)
  mDeliveryHOLFirstRun : Bool
  mNextExpectedFrameNumber : UInt64

/-- The selection of a pass. The first pass in head-of-line mode that finds an entry sets the head
    to the lowest order. -/
def scan (r : Receiver) (lTimeNow : ℤ) : Scan :=
  if r.mHeadOfLineBlockingTimeoutms ≠ 0 ∧ r.mBucketMap.toList ≠ [] then
    let head := if r.mDeliveryHOLFirstRun then r.beginOrder else r.mNextExpectedFrameNumber
    let (es, head') := r.headScan lTimeNow r.mBucketMap.toList head
    ⟨es, false, head'⟩
  else
    ⟨r.mBucketMap.toList.filter fun e => r.due lTimeNow e.2, r.mDeliveryHOLFirstRun,
      r.mNextExpectedFrameNumber⟩

/-- What is handed out for the selected entries. -/
def collect (r : Receiver) (es : List (UInt64 × Slot)) : List Handed :=
  es.filterMap fun e =>
    (r.mBucketList e.2).mBucketData.map fun d =>
      { slot := e.2, frame := (r.mBucketList e.2).assemble d }

/-- The receiver without the selected entries. -/
def release (r : Receiver) (es : List (UInt64 × Slot)) : Receiver :=
  { r with
    mBucketMap := es.foldl (fun m e => m.erase e.1) r.mBucketMap
    mBucketList := fun i =>
      if i ∈ es.map Prod.snd then { r.mBucketList i with mActive := false, mBucketData := none }
      else r.mBucketList i }

/-- The result of a pass that makes this selection. -/
def conclude (r : Receiver) (s : Scan) : Delivered where
  receiver :=
    { r.release s.selected with
      mDeliveryHOLFirstRun := s.mDeliveryHOLFirstRun
      mNextExpectedFrameNumber := s.mNextExpectedFrameNumber }
  handed := r.collect s.selected

/-- The worker waits for its first run: in head-of-line mode, before the head is set, with one
    entry at most and no deadline passed. -/
def awaitsFirstRun (r : Receiver) (lTimeNow : ℤ) : Prop :=
  r.mHeadOfLineBlockingTimeoutms ≠ 0 ∧ r.mDeliveryHOLFirstRun = true ∧
    ¬ (r.mBucketMap.size > 1 ∨
      r.mBucketMap.toList.any fun e => decide ((r.mBucketList e.2).mTimeout ≤ lTimeNow))

instance (r : Receiver) (lTimeNow : ℤ) : Decidable (r.awaitsFirstRun lTimeNow) :=
  inferInstanceAs (Decidable (_ ∧ _))

/-! ## §2 One walk for both engines -/

/-- What a visit leaves of the bucket's superframe: the callback gets the assembled superframe
    lent, the queue gets it for good. -/
def lent (b : Bucket) : Bucket := { b with mBucketData := b.mBucketData.map b.assemble }

def moved (b : Bucket) : Bucket := { b with mBucketData := none }

/-- One visit of a walk, with `g` for what it leaves in the bucket. -/
def visit (g : Bucket → Bucket) (w : Walk) (e : UInt64 × Slot) : Walk :=
  { w with
    mBucketList := Function.update w.mBucketList e.2 (g (w.mBucketList e.2))
    handed := w.handed ++ ((w.mBucketList e.2).mBucketData.map fun d =>
      { slot := e.2, frame := (w.mBucketList e.2).assemble d }).toList
    lDeleteList := w.lDeleteList ++ [e.1] }

/-- The visits of a whole selection. -/
def visits (g : Bucket → Bucket) (w : Walk) (es : List (UInt64 × Slot)) : Walk :=
  es.foldl (visit g) w

theorem callBack_eq (w : Walk) (order : UInt64) (i : Slot) :
    w.callBack order i = visit lent w (order, i) := by
  simp [Walk.callBack, visit, lent, Function.comp_def]

theorem pushBack_eq (w : Walk) (order : UInt64) (i : Slot) :
    w.pushBack order i = visit moved w (order, i) := by
  simp [Walk.pushBack, visit, moved]

/-- The walk once the head is set, with `g` for what a visit leaves in the bucket. -/
def walkOn (r : Receiver) (lTimeNow : ℤ) (g : Bucket → Bucket) :
    List (UInt64 × Slot) → Walk → Walk
  | [], w => w
  | e :: rest, w =>
      let b := w.mBucketList e.2
      if r.mHeadOfLineBlockingTimeoutms ≠ 0 then
        if b.mDeliveryOrder = w.mNextExpectedFrameNumber ∧ b.complete then
          let w := visit g w e
          r.walkOn lTimeNow g rest
            { w with mNextExpectedFrameNumber := w.mNextExpectedFrameNumber + 1 }
        else if b.mTimeout + r.holTimeout ≤ lTimeNow then
          r.walkOn lTimeNow g rest
            { visit g w e with mNextExpectedFrameNumber := b.mDeliveryOrder + 1 }
        else
          w
      else if b.mTimeout ≤ lTimeNow ∨ b.complete then
        r.walkOn lTimeNow g rest (visit g w e)
      else
        r.walkOn lTimeNow g rest w

/-- The head is set, or there is none. -/
def HeadSet (r : Receiver) (w : Walk) : Prop :=
  r.mHeadOfLineBlockingTimeoutms = 0 ∨ w.mDeliveryHOLFirstRun = false

theorem runToCompletionLoop_eq_walkOn (r : Receiver) (lTimeNow : ℤ) (es : List (UInt64 × Slot))
    (w : Walk) (hset : r.HeadSet w) :
    r.runToCompletionLoop lTimeNow es w = r.walkOn lTimeNow lent es w := by
  induction es generalizing w with
  | nil => rfl
  | cons e rest ih =>
    have hfirst : ∀ h : r.mHeadOfLineBlockingTimeoutms ≠ 0, w.mDeliveryHOLFirstRun = false :=
      fun h => hset.resolve_left h
    -- the test for the first run fails at every entry
    unfold runToCompletionLoop walkOn
    by_cases hhol : r.mHeadOfLineBlockingTimeoutms ≠ 0
    · simp only [if_pos hhol, hfirst hhol, Bool.false_eq_true, if_false, callBack_eq]
      split
      · exact ih _ (Or.inr (hfirst hhol))
      · split
        · exact ih _ (Or.inr (hfirst hhol))
        · rfl
    · simp only [if_neg hhol, callBack_eq]
      split
      · exact ih _ (Or.inl (not_not.mp hhol))
      · exact ih _ (Or.inl (not_not.mp hhol))

theorem receiverWorkerLoop_eq_walkOn (r : Receiver) (lTimeNow : ℤ) (es : List (UInt64 × Slot))
    (w : Walk) (hset : r.HeadSet w) :
    r.receiverWorkerLoop lTimeNow es w = r.walkOn lTimeNow moved es w := by
  induction es generalizing w with
  | nil => rfl
  | cons e rest ih =>
    have hfirst : ∀ h : r.mHeadOfLineBlockingTimeoutms ≠ 0, w.mDeliveryHOLFirstRun = false :=
      fun h => hset.resolve_left h
    unfold receiverWorkerLoop walkOn
    by_cases hhol : r.mHeadOfLineBlockingTimeoutms ≠ 0
    · simp only [if_pos hhol, hfirst hhol, Bool.false_eq_true, false_and, if_false, pushBack_eq]
      split
      · exact ih _ (Or.inr (hfirst hhol))
      · split
        · exact ih _ (Or.inr (hfirst hhol))
        · rfl
    · simp only [if_neg hhol, pushBack_eq]
      split
      · exact ih _ (Or.inl (not_not.mp hhol))
      · exact ih _ (Or.inl (not_not.mp hhol))

/-! ## §3 The walk in closed form -/

/-- The buckets of the entries still ahead are as they were at the start of the walk. -/
def Ahead (r : Receiver) (w : Walk) (es : List (UInt64 × Slot)) : Prop :=
  ∀ e ∈ es, w.mBucketList e.2 = r.mBucketList e.2

private theorem Ahead.visit {r : Receiver} {w : Walk} {e : UInt64 × Slot}
    {rest : List (UInt64 × Slot)} (h : r.Ahead w (e :: rest)) (he : e.2 ∉ rest.map Prod.snd)
    (g : Bucket → Bucket) : r.Ahead (Receiver.visit g w e) rest := by
  intro e' he'
  have hne : e'.2 ≠ e.2 := fun heq => he (heq ▸ List.mem_map_of_mem he')
  simp [Receiver.visit, hne, h e' (List.mem_cons_of_mem _ he')]

/-- The head is no part of a visit. -/
private theorem visits_head (g : Bucket → Bucket) (w : Walk) (head : UInt64)
    (es : List (UInt64 × Slot)) :
    visits g { w with mNextExpectedFrameNumber := head } es =
      { visits g w es with mNextExpectedFrameNumber := head } := by
  induction es generalizing w with
  | nil => rfl
  | cons e rest ih => exact ih (visit g w e)

/-- The visits of a selection whose buckets are all different. -/
theorem visits_eq (r : Receiver) (g : Bucket → Bucket) (w : Walk) (es : List (UInt64 × Slot))
    (hdistinct : (es.map Prod.snd).Nodup) (hahead : r.Ahead w es) :
    visits g w es =
      { w with
        mBucketList := fun i =>
          if i ∈ es.map Prod.snd then g (w.mBucketList i) else w.mBucketList i
        handed := w.handed ++ r.collect es
        lDeleteList := w.lDeleteList ++ es.map Prod.fst } := by
  induction es generalizing w with
  | nil => simp [visits, collect]
  | cons e rest ih =>
    rw [List.map_cons, List.nodup_cons] at hdistinct
    -- no later visit comes back to this bucket
    have hrest := ih (visit g w e) hdistinct.2 (hahead.visit hdistinct.1 g)
    have hhere : w.mBucketList e.2 = r.mBucketList e.2 := hahead e List.mem_cons_self
    rw [visits, List.foldl_cons, ← visits, hrest]
    have hlist : (fun i => if i ∈ rest.map Prod.snd then g ((visit g w e).mBucketList i)
        else (visit g w e).mBucketList i) =
        fun i => if i ∈ (e :: rest).map Prod.snd then g (w.mBucketList i)
          else w.mBucketList i := by
      funext i
      by_cases hi : i = e.2
      · subst hi
        simp [visit, hdistinct.1]
      · simp [visit, hi, -List.mem_map]
    rw [hlist]
    simp only [visit, hhere, collect, List.map_cons, List.append_assoc, List.cons_append,
      List.nil_append]
    congr 1
    cases hdata : (r.mBucketList e.2).mBucketData <;> simp [hdata]

/-- **Both walks select what the scan says.** -/
theorem walkOn_eq (r : Receiver) (lTimeNow : ℤ) (g : Bucket → Bucket)
    (es : List (UInt64 × Slot)) (w : Walk) (hdistinct : (es.map Prod.snd).Nodup)
    (hahead : r.Ahead w es) :
    r.walkOn lTimeNow g es w =
      if r.mHeadOfLineBlockingTimeoutms ≠ 0 then
        { visits g w (r.headScan lTimeNow es w.mNextExpectedFrameNumber).1 with
          mNextExpectedFrameNumber :=
            (r.headScan lTimeNow es w.mNextExpectedFrameNumber).2 }
      else visits g w (es.filter fun e => r.due lTimeNow e.2) := by
  induction es generalizing w with
  | nil => simp [walkOn, headScan, visits]
  | cons e rest ih =>
    rw [List.map_cons, List.nodup_cons] at hdistinct
    have hhere : w.mBucketList e.2 = r.mBucketList e.2 := hahead e List.mem_cons_self
    have hvisited := hahead.visit hdistinct.1 g
    unfold walkOn
    simp only [hhere]
    by_cases hhol : r.mHeadOfLineBlockingTimeoutms ≠ 0
    · simp only [if_pos hhol] at ih ⊢
      by_cases hexpected : (r.mBucketList e.2).mDeliveryOrder = w.mNextExpectedFrameNumber ∧
          (r.mBucketList e.2).complete
      · -- the expected superframe: the head moves by one
        have hih := ih { visit g w e with
          mNextExpectedFrameNumber := w.mNextExpectedFrameNumber + 1 } hdistinct.2 hvisited
        rw [if_pos hexpected, r.headScan_expected lTimeNow rest hexpected]
        exact hih.trans (by rw [visits_head]; rfl)
      · by_cases htimeout : (r.mBucketList e.2).mTimeout + r.holTimeout ≤ lTimeNow
        · -- the deadline has passed: the head jumps behind the superframe
          have hih := ih { visit g w e with
            mNextExpectedFrameNumber := (r.mBucketList e.2).mDeliveryOrder + 1 } hdistinct.2
            hvisited
          rw [if_neg hexpected, if_pos htimeout,
            r.headScan_jump lTimeNow rest hexpected htimeout]
          exact hih.trans (by rw [visits_head]; rfl)
        · -- neither: the walk ends here
          rw [if_neg hexpected, if_neg htimeout,
            r.headScan_blocked lTimeNow rest hexpected htimeout]
          rfl
    · -- without a head every entry is tested for itself
      simp only [if_neg hhol] at ih ⊢
      by_cases hdue : (r.mBucketList e.2).mTimeout ≤ lTimeNow ∨ (r.mBucketList e.2).complete
      · rw [if_pos hdue, List.filter_cons_of_pos (by simpa [due] using hdue),
          ih _ hdistinct.2 hvisited]
        rfl
      · rw [if_neg hdue, List.filter_cons_of_neg (by simpa [due] using hdue)]
        exact ih w hdistinct.2 fun e' he' => hahead e' (List.mem_cons_of_mem _ he')

/-! ## §4 The deletion -/

/-- Deleting the keys of entries of the map. -/
theorem deleteList_eq (r : Receiver) (es : List (UInt64 × Slot))
    (hentries : ∀ e ∈ es, r.mBucketMap[e.1]? = some e.2) (hkeys : (es.map Prod.fst).Nodup) :
    r.deleteList (es.map Prod.fst) = r.release es := by
  induction es generalizing r with
  | nil => simp [deleteList, release]
  | cons e rest ih =>
    rw [List.map_cons, List.nodup_cons] at hkeys
    have hhere := hentries e List.mem_cons_self
    -- the other entries are still in the map after the first deletion
    have hrest : ∀ e' ∈ rest, (r.mBucketMap.erase e.1)[e'.1]? = some e'.2 := by
      intro e' he'
      have hne : e.1 ≠ e'.1 := fun heq => hkeys.1 (heq ▸ List.mem_map_of_mem he')
      rw [Std.ExtTreeMap.getElem?_erase, if_neg (by simpa using hne)]
      exact hentries e' (List.mem_cons_of_mem _ he')
    rw [List.map_cons, deleteList, hhere]
    simp only []
    rw [ih _ hrest hkeys.2]
    simp only [release, setBucket, List.foldl_cons]
    congr 1
    funext i
    by_cases hi : i = e.2
    · subst hi
      simp
    · simp [hi, -List.mem_map]

/-! ## §5 The engines in closed form -/

/-- An entry of the list is an entry of the map. -/
theorem mem_toList_iff (m : BucketMap) (e : UInt64 × Slot) : e ∈ m.toList ↔ m[e.1]? = some e.2 := by
  rw [Std.ExtTreeMap.mem_toList_iff_getElem?_eq_some]

/-- The orders in the list are all different. -/
theorem keys_nodup (m : BucketMap) : (m.toList.map Prod.fst).Nodup := by
  rw [List.Nodup, List.pairwise_map]
  exact (Std.ExtTreeMap.distinct_keys_toList (t := m)).imp fun h heq => h (by simp [heq])

theorem headScan_sublist (r : Receiver) (lTimeNow : ℤ) (es : List (UInt64 × Slot))
    (head : UInt64) : (r.headScan lTimeNow es head).1.Sublist es := by
  induction es generalizing head with
  | nil => exact List.Sublist.refl _
  | cons e rest ih =>
    by_cases hexpected : (r.mBucketList e.2).mDeliveryOrder = head ∧ (r.mBucketList e.2).complete
    · rw [r.headScan_expected lTimeNow rest hexpected]
      exact (ih _).cons_cons e
    · by_cases htimeout : (r.mBucketList e.2).mTimeout + r.holTimeout ≤ lTimeNow
      · rw [r.headScan_jump lTimeNow rest hexpected htimeout]
        exact (ih _).cons_cons e
      · rw [r.headScan_blocked lTimeNow rest hexpected htimeout]
        exact List.nil_sublist _

/-- A pass selects entries of the map, in the order of the map. -/
theorem scan_sublist (r : Receiver) (lTimeNow : ℤ) :
    (r.scan lTimeNow).selected.Sublist r.mBucketMap.toList := by
  unfold scan
  split
  · exact r.headScan_sublist lTimeNow _ _
  · exact List.filter_sublist

/-- Visits followed by the deletion, whatever a visit leaves in the superframe. -/
private theorem visits_conclude (r : Receiver) (hdistinct : r.SlotsDistinct) (g : Bucket → Bucket)
    (hg : ∀ b, { g b with mActive := false, mBucketData := none } =
      { b with mActive := false, mBucketData := none })
    (es : List (UInt64 × Slot)) (hsub : es.Sublist r.mBucketMap.toList) (w : Walk)
    (hlist : w.mBucketList = r.mBucketList) (hfresh : w.handed = [] ∧ w.lDeleteList = []) :
    (⟨(r.endWalk (visits g w es)).deleteList (visits g w es).lDeleteList,
        (visits g w es).handed⟩ : Delivered) =
      r.conclude ⟨es, w.mDeliveryHOLFirstRun, w.mNextExpectedFrameNumber⟩ := by
  have hslots : (es.map Prod.snd).Nodup := hdistinct.sublist (hsub.map _)
  have hkeys : (es.map Prod.fst).Nodup := (keys_nodup r.mBucketMap).sublist (hsub.map _)
  have hentries : ∀ e ∈ es, r.mBucketMap[e.1]? = some e.2 := fun e he =>
    (mem_toList_iff _ e).mp (hsub.subset he)
  -- the deletion drops what the visit left in the bucket
  rw [visits_eq r g w es hslots fun e _ => by rw [hlist]]
  simp only [hfresh.1, hfresh.2, List.nil_append, hlist]
  rw [deleteList_eq (r.endWalk _) es hentries hkeys]
  simp only [conclude, release, endWalk]
  congr 2
  funext i
  by_cases hi : i ∈ es.map Prod.snd
  · simp only [if_pos hi]
    exact hg _
  · simp only [if_neg hi]

/-- A walk whose head is set, followed by the deletion. -/
private theorem walkOn_conclude (r : Receiver) (hdistinct : r.SlotsDistinct) (lTimeNow : ℤ)
    (g : Bucket → Bucket)
    (hg : ∀ b, { g b with mActive := false, mBucketData := none } =
      { b with mActive := false, mBucketData := none })
    (w : Walk) (hlist : w.mBucketList = r.mBucketList)
    (hfresh : w.handed = [] ∧ w.lDeleteList = []) :
    let w' := r.walkOn lTimeNow g r.mBucketMap.toList w
    (⟨(r.endWalk w').deleteList w'.lDeleteList, w'.handed⟩ : Delivered) =
      r.conclude
        (if r.mHeadOfLineBlockingTimeoutms ≠ 0 then
          ⟨(r.headScan lTimeNow r.mBucketMap.toList w.mNextExpectedFrameNumber).1,
            w.mDeliveryHOLFirstRun,
            (r.headScan lTimeNow r.mBucketMap.toList w.mNextExpectedFrameNumber).2⟩
        else ⟨r.mBucketMap.toList.filter fun e => r.due lTimeNow e.2, w.mDeliveryHOLFirstRun,
          w.mNextExpectedFrameNumber⟩) := by
  intro w'
  have hw' : w' = r.walkOn lTimeNow g r.mBucketMap.toList w := rfl
  rw [r.walkOn_eq lTimeNow g _ w hdistinct fun e _ => by rw [hlist]] at hw'
  by_cases hhol : r.mHeadOfLineBlockingTimeoutms ≠ 0
  · rw [if_pos hhol, ← visits_head] at hw'
    rw [if_pos hhol, hw']
    exact r.visits_conclude hdistinct g hg _ (r.headScan_sublist lTimeNow _ _) _ hlist hfresh
  · rw [if_neg hhol] at hw'
    rw [if_neg hhol, hw']
    exact r.visits_conclude hdistinct g hg _ List.filter_sublist _ hlist hfresh

/-- The walk with the head set as the first entry of a first run sets it. -/
def setHead (r : Receiver) (w : Walk) : Walk :=
  { w with
    mDeliveryHOLFirstRun := false
    mNextExpectedFrameNumber :=
      if w.mDeliveryHOLFirstRun then r.beginOrder else w.mNextExpectedFrameNumber }

/-- **`runToCompletionMethod` is the scan.** -/
theorem runToCompletionMethod_eq (r : Receiver) (hdistinct : r.SlotsDistinct) (lTimeNow : ℤ) :
    r.runToCompletionMethod lTimeNow = r.conclude (r.scan lTimeNow) := by
  have hg : ∀ b : Bucket, { lent b with mActive := false, mBucketData := none } =
      { b with mActive := false, mBucketData := none } := fun _ => rfl
  unfold runToCompletionMethod
  by_cases hhol : r.mHeadOfLineBlockingTimeoutms ≠ 0 ∧ r.mBucketMap.toList ≠ []
  · -- the first entry sets the head, then the walk goes on
    have hloop : r.runToCompletionLoop lTimeNow r.mBucketMap.toList r.startWalk =
        r.walkOn lTimeNow lent r.mBucketMap.toList (r.setHead r.startWalk) := by
      rw [← r.runToCompletionLoop_eq_walkOn lTimeNow _ _ (Or.inr rfl)]
      obtain ⟨e, rest, hlist⟩ := List.exists_cons_of_ne_nil hhol.2
      rw [hlist]
      cases hfirst : r.mDeliveryHOLFirstRun <;>
        simp [runToCompletionLoop, hhol.1, setHead, startWalk, hfirst]
    rw [hloop]
    refine (r.walkOn_conclude hdistinct lTimeNow lent hg _ rfl ⟨rfl, rfl⟩).trans ?_
    rw [if_pos hhol.1, scan, if_pos hhol]
    rfl
  · rw [scan, if_neg hhol]
    by_cases hempty : r.mBucketMap.toList = []
    · simp [hempty, runToCompletionLoop, startWalk, endWalk, deleteList, conclude, release, collect]
    · have hoff : r.mHeadOfLineBlockingTimeoutms = 0 := by
        by_contra hon
        exact hhol ⟨hon, hempty⟩
      rw [r.runToCompletionLoop_eq_walkOn lTimeNow _ _ (Or.inl hoff)]
      refine (r.walkOn_conclude hdistinct lTimeNow lent hg _ rfl ⟨rfl, rfl⟩).trans ?_
      rw [if_neg (not_not.mpr hoff)]
      rfl

/-- A selection of nothing changes nothing. -/
theorem conclude_nil (r : Receiver) :
    r.conclude ⟨[], r.mDeliveryHOLFirstRun, r.mNextExpectedFrameNumber⟩ =
      { receiver := r, handed := [] } := by
  simp [conclude, release, collect]

theorem toList_eq_nil_iff (r : Receiver) : r.mBucketMap.toList = [] ↔ r.mBucketMap.size = 0 := by
  rw [← List.length_eq_zero_iff, Std.ExtTreeMap.length_toList]

theorem scan_of_empty {r : Receiver} (lTimeNow : ℤ) (hempty : r.mBucketMap.toList = []) :
    r.scan lTimeNow = ⟨[], r.mDeliveryHOLFirstRun, r.mNextExpectedFrameNumber⟩ := by
  rw [scan, if_neg (fun h => h.2 hempty), hempty]
  rfl

/-- The first entry of a first run sets the head, when the worker does not wait. -/
private theorem receiverWorkerLoop_start (r : Receiver) (lTimeNow : ℤ) (e : UInt64 × Slot)
    (rest : List (UInt64 × Slot)) (hhol : r.mHeadOfLineBlockingTimeoutms ≠ 0)
    (hgo : ¬ r.awaitsFirstRun lTimeNow) :
    r.receiverWorkerLoop lTimeNow (e :: rest) r.startWalk =
      r.receiverWorkerLoop lTimeNow (e :: rest) (r.setHead r.startWalk) := by
  cases hfirst : r.mDeliveryHOLFirstRun with
  | false =>
    have hset : r.setHead r.startWalk = r.startWalk := by simp [setHead, startWalk, hfirst]
    rw [hset]
  | true =>
    have hbegin : r.setHead r.startWalk =
        { r.startWalk with
          mDeliveryHOLFirstRun := false, mNextExpectedFrameNumber := r.beginOrder } := by
      simp [setHead, startWalk, hfirst]
    have hwalk : r.startWalk.mDeliveryHOLFirstRun = true := hfirst
    rw [hbegin]
    unfold receiverWorkerLoop
    rw [if_pos hhol, if_pos hhol]
    simp only [hwalk, if_true, Bool.false_eq_true, false_and, if_false]
    exact if_neg fun h => hgo ⟨hhol, hfirst, h.2⟩

/-- **A pass of `receiverWorker` is the scan**, unless it waits for its first run. -/
theorem receiverWorkerPass_eq (r : Receiver) (hdistinct : r.SlotsDistinct) (lTimeNow : ℤ) :
    r.receiverWorkerPass lTimeNow =
      if r.awaitsFirstRun lTimeNow then { receiver := r, handed := [] }
      else r.conclude (r.scan lTimeNow) := by
  have hg : ∀ b : Bucket, { moved b with mActive := false, mBucketData := none } =
      { b with mActive := false, mBucketData := none } := fun _ => rfl
  unfold receiverWorkerPass
  by_cases hsize : r.mBucketMap.size = 0
  · -- nothing to process
    have hempty := r.toList_eq_nil_iff.mpr hsize
    rw [if_pos hsize, scan_of_empty lTimeNow hempty, conclude_nil, ite_self]
  · have hsome : r.mBucketMap.toList ≠ [] := fun h => hsize (r.toList_eq_nil_iff.mp h)
    obtain ⟨e, rest, hlist⟩ := List.exists_cons_of_ne_nil hsome
    rw [if_neg hsize]
    by_cases hawaits : r.awaitsFirstRun lTimeNow
    · -- the loop breaks at its first entry
      have hloop : r.receiverWorkerLoop lTimeNow r.mBucketMap.toList r.startWalk = r.startWalk := by
        obtain ⟨hhol, hfirst, hquiet⟩ := hawaits
        conv_lhs => rw [hlist]
        unfold receiverWorkerLoop
        rw [if_pos hhol]
        exact if_pos ⟨hfirst, hquiet⟩
      rw [if_pos hawaits, hloop]
      rfl
    · rw [if_neg hawaits]
      by_cases hhol : r.mHeadOfLineBlockingTimeoutms ≠ 0
      · have hloop : r.receiverWorkerLoop lTimeNow r.mBucketMap.toList r.startWalk =
            r.walkOn lTimeNow moved r.mBucketMap.toList (r.setHead r.startWalk) := by
          rw [← r.receiverWorkerLoop_eq_walkOn lTimeNow _ _ (Or.inr rfl), hlist]
          exact r.receiverWorkerLoop_start lTimeNow e rest hhol hawaits
        rw [hloop]
        refine (r.walkOn_conclude hdistinct lTimeNow moved hg _ rfl ⟨rfl, rfl⟩).trans ?_
        rw [if_pos hhol, scan, if_pos ⟨hhol, hsome⟩]
        rfl
      · rw [r.receiverWorkerLoop_eq_walkOn lTimeNow _ _ (Or.inl (not_not.mp hhol))]
        refine (r.walkOn_conclude hdistinct lTimeNow moved hg _ rfl ⟨rfl, rfl⟩).trans ?_
        rw [if_neg hhol, scan, if_neg (fun h => hhol h.1)]
        rfl

/-! ## §6 What a selected bucket is -/

private theorem headScan_due (r : Receiver) (lTimeNow : ℤ) (es : List (UInt64 × Slot))
    (head : UInt64) {e : UInt64 × Slot} (he : e ∈ (r.headScan lTimeNow es head).1) :
    (r.mBucketList e.2).complete = true ∨
      (r.mBucketList e.2).mTimeout + r.holTimeout ≤ lTimeNow := by
  induction es generalizing head with
  | nil => exact absurd he List.not_mem_nil
  | cons x rest ih =>
    by_cases hexpected : (r.mBucketList x.2).mDeliveryOrder = head ∧ (r.mBucketList x.2).complete
    · rw [r.headScan_expected lTimeNow rest hexpected] at he
      rcases List.mem_cons.mp he with rfl | he
      · exact Or.inl hexpected.2
      · exact ih _ he
    · by_cases htimeout : (r.mBucketList x.2).mTimeout + r.holTimeout ≤ lTimeNow
      · rw [r.headScan_jump lTimeNow rest hexpected htimeout] at he
        rcases List.mem_cons.mp he with rfl | he
        · exact Or.inr htimeout
        · exact ih _ he
      · rw [r.headScan_blocked lTimeNow rest hexpected htimeout] at he
        exact absurd he List.not_mem_nil

/-- **A selected bucket is complete, or its deadline has passed.** -/
theorem scan_due {r : Receiver} {lTimeNow : ℤ} {e : UInt64 × Slot}
    (he : e ∈ (r.scan lTimeNow).selected) :
    (r.mBucketList e.2).complete = true ∨
      (r.mBucketList e.2).mTimeout + r.holTimeout ≤ lTimeNow := by
  unfold scan at he
  split at he
  case isTrue => exact r.headScan_due lTimeNow _ _ he
  case isFalse hoff =>
    obtain ⟨hmem, hdue⟩ := List.mem_filter.mp he
    -- the map has an entry, so the head-of-line timeout is off
    have hne : r.mBucketMap.toList ≠ [] := List.ne_nil_of_mem hmem
    have hzero : r.mHeadOfLineBlockingTimeoutms = 0 := by
      by_contra hon
      exact hoff ⟨hon, hne⟩
    have hnone : r.holTimeout = 0 := by simp [holTimeout, hzero]
    rw [hnone, Int.add_zero]
    exact (by simpa [due] using hdue : _ ∨ _).symm

/-! ## §7 How the head moves -/

/-- The entries of the map are in ascending order. -/
theorem toList_sorted (m : BucketMap) :
    m.toList.Pairwise fun e e' => e.1.toNat < e'.1.toNat := by
  apply (Std.ExtTreeMap.ordered_keys_toList (t := m)).imp
  intro e e' hlt
  exact UInt64.lt_iff_toNat_lt.mp (Std.compare_eq_lt.mp hlt)

/-- The successor of an order that is not the last one. -/
theorem toNat_add_one {k : UInt64} (hmax : k ≠ UINT64_MAX) : (k + 1).toNat = k.toNat + 1 := by
  have hlt := k.toNat_lt
  have hne : k.toNat ≠ 2 ^ 64 - 1 := fun h => hmax (UInt64.toNat_inj.mp h)
  rw [UInt64.toNat_add]
  exact Nat.mod_eq_of_lt (by show k.toNat + 1 < 2 ^ 64; omega)

/-- **The head passes what it selects and stays in front of the rest**, when it starts in front of
    all entries. -/
theorem headScan_spec (r : Receiver) (lTimeNow : ℤ) {es : List (UInt64 × Slot)} {head : UInt64}
    (hsorted : es.Pairwise fun e e' => e.1.toNat < e'.1.toNat)
    (horder : ∀ e ∈ es, (r.mBucketList e.2).mDeliveryOrder = e.1)
    (hmax : ∀ e ∈ es, e.1 ≠ UINT64_MAX) (hhead : ∀ e ∈ es, head.toNat ≤ e.1.toNat) :
    ∃ rest, es = (r.headScan lTimeNow es head).1 ++ rest ∧
      head.toNat ≤ (r.headScan lTimeNow es head).2.toNat ∧
      (∀ e ∈ (r.headScan lTimeNow es head).1,
        e.1.toNat < (r.headScan lTimeNow es head).2.toNat) ∧
      ∀ e ∈ rest, (r.headScan lTimeNow es head).2.toNat ≤ e.1.toNat := by
  induction es generalizing head with
  | nil => exact ⟨[], rfl, Nat.le_refl _, by simp [headScan], by simp⟩
  | cons e es ih =>
    obtain ⟨hbehind, hsorted⟩ := List.pairwise_cons.mp hsorted
    have hhere := horder e List.mem_cons_self
    have hnext := toNat_add_one (hmax e List.mem_cons_self)
    have hle := hhead e List.mem_cons_self
    -- selected as expected or as timed out, the scan goes on behind this entry
    obtain ⟨rest, hsplit, hforward, hpassed, hahead⟩ := @ih (e.1 + 1) hsorted
      (fun e' he' => horder e' (List.mem_cons_of_mem _ he'))
      (fun e' he' => hmax e' (List.mem_cons_of_mem _ he'))
      (fun e' he' => by rw [hnext]; exact hbehind e' he')
    have hgoes : ∃ rest, e :: es = e :: (r.headScan lTimeNow es (e.1 + 1)).1 ++ rest ∧
        head.toNat ≤ (r.headScan lTimeNow es (e.1 + 1)).2.toNat ∧
        (∀ e' ∈ e :: (r.headScan lTimeNow es (e.1 + 1)).1,
          e'.1.toNat < (r.headScan lTimeNow es (e.1 + 1)).2.toNat) ∧
        ∀ e' ∈ rest, (r.headScan lTimeNow es (e.1 + 1)).2.toNat ≤ e'.1.toNat := by
      refine ⟨rest, by rw [List.cons_append, ← hsplit], by omega, ?_, hahead⟩
      intro e' he'
      rcases List.mem_cons.mp he' with rfl | he'
      · omega
      · exact hpassed e' he'
    by_cases hexpected : (r.mBucketList e.2).mDeliveryOrder = head ∧ (r.mBucketList e.2).complete
    · have hsame : head = e.1 := hexpected.1.symm.trans hhere
      rw [r.headScan_expected lTimeNow es hexpected]
      rw [hsame] at hgoes ⊢
      exact hgoes
    · by_cases htimeout : (r.mBucketList e.2).mTimeout + r.holTimeout ≤ lTimeNow
      · rw [r.headScan_jump lTimeNow es hexpected htimeout, hhere]
        exact hgoes
      · rw [r.headScan_blocked lTimeNow es hexpected htimeout]
        exact ⟨e :: es, rfl, Nat.le_refl _, by simp, hhead⟩

/-- The head of a pass before the scan: set by the lowest order in a first run. -/
def passHead (r : Receiver) : UInt64 :=
  if r.mDeliveryHOLFirstRun then r.beginOrder else r.mNextExpectedFrameNumber

/-- A pass in head-of-line mode that finds an entry. -/
theorem scan_of_head {r : Receiver} (lTimeNow : ℤ) (hhol : r.mHeadOfLineBlockingTimeoutms ≠ 0)
    (hsome : r.mBucketMap.toList ≠ []) :
    r.scan lTimeNow =
      ⟨(r.headScan lTimeNow r.mBucketMap.toList r.passHead).1, false,
        (r.headScan lTimeNow r.mBucketMap.toList r.passHead).2⟩ := by
  rw [scan, if_pos ⟨hhol, hsome⟩]
  rfl

/-- A pass in head-of-line mode, once the head is set or there is an entry to set it. -/
theorem scan_of_started {r : Receiver} (lTimeNow : ℤ) (hhol : r.mHeadOfLineBlockingTimeoutms ≠ 0)
    (hstarted : r.mBucketMap.toList = [] → r.mDeliveryHOLFirstRun = false) :
    r.scan lTimeNow =
      ⟨(r.headScan lTimeNow r.mBucketMap.toList r.passHead).1, false,
        (r.headScan lTimeNow r.mBucketMap.toList r.passHead).2⟩ := by
  by_cases hempty : r.mBucketMap.toList = []
  · have hfirst := hstarted hempty
    have hhead : r.passHead = r.mNextExpectedFrameNumber := by
      rw [passHead, if_neg (by simp [hfirst])]
    rw [scan_of_empty lTimeNow hempty, hempty, hfirst, hhead]
    rfl
  · exact scan_of_head lTimeNow hhol hempty

/-- The lowest order is in front of all entries. -/
theorem beginOrder_le {r : Receiver}
    (horder : ∀ e ∈ r.mBucketMap.toList, (r.mBucketList e.2).mDeliveryOrder = e.1)
    {e : UInt64 × Slot} (he : e ∈ r.mBucketMap.toList) : r.beginOrder.toNat ≤ e.1.toNat := by
  have hsorted := toList_sorted r.mBucketMap
  unfold beginOrder
  cases hlist : r.mBucketMap.toList with
  | nil => exact absurd (hlist ▸ he) List.not_mem_nil
  | cons b rest =>
    rw [hlist] at he hsorted horder
    have hfirst := horder b List.mem_cons_self
    show (r.mBucketList b.2).mDeliveryOrder.toNat ≤ e.1.toNat
    rw [hfirst]
    rcases List.mem_cons.mp he with rfl | he
    · exact Nat.le_refl _
    · exact ((List.pairwise_cons.mp hsorted).1 e he).le

/-- **A pass in head-of-line mode moves the head forward**: past what it selects, and not past the
    rest. -/
theorem scan_forward {r : Receiver} (lTimeNow : ℤ) (hhol : r.mHeadOfLineBlockingTimeoutms ≠ 0)
    (horder : ∀ e ∈ r.mBucketMap.toList, (r.mBucketList e.2).mDeliveryOrder = e.1)
    (hmax : ∀ e ∈ r.mBucketMap.toList, e.1 ≠ UINT64_MAX)
    (hhead : ∀ e ∈ r.mBucketMap.toList, r.mNextExpectedFrameNumber.toNat ≤ e.1.toNat) :
    r.mNextExpectedFrameNumber.toNat ≤ (r.scan lTimeNow).mNextExpectedFrameNumber.toNat ∧
      (∀ e ∈ (r.scan lTimeNow).selected,
        e.1.toNat < (r.scan lTimeNow).mNextExpectedFrameNumber.toNat) ∧
      (∀ e ∈ r.mBucketMap.toList, e ∉ (r.scan lTimeNow).selected →
        (r.scan lTimeNow).mNextExpectedFrameNumber.toNat ≤ e.1.toNat) ∧
      ((r.scan lTimeNow).mDeliveryHOLFirstRun = true → r.mDeliveryHOLFirstRun = true ∧
        (r.scan lTimeNow).selected = [] ∧
        (r.scan lTimeNow).mNextExpectedFrameNumber = r.mNextExpectedFrameNumber) := by
  by_cases hempty : r.mBucketMap.toList = []
  · rw [scan_of_empty lTimeNow hempty]
    exact ⟨Nat.le_refl _, by simp, fun e he _ => hhead e he, fun hfirst => ⟨hfirst, rfl, rfl⟩⟩
  · have hbegin : ∀ e ∈ r.mBucketMap.toList, r.passHead.toNat ≤ e.1.toNat := by
      intro e he
      unfold passHead
      split
      · exact beginOrder_le horder he
      · exact hhead e he
    -- a first run sets the head to an entry, and no entry is behind the old head
    have hset : r.mNextExpectedFrameNumber.toNat ≤ r.passHead.toNat := by
      unfold passHead
      split
      · obtain ⟨b, rest, hlist⟩ := List.exists_cons_of_ne_nil hempty
        have hmem : b ∈ r.mBucketMap.toList := hlist ▸ List.mem_cons_self
        have hlow := hhead b hmem
        rw [← horder b hmem] at hlow
        rw [beginOrder, hlist]
        exact hlow
      · exact Nat.le_refl _
    obtain ⟨rest, hsplit, hforward, hpassed, hahead⟩ :=
      r.headScan_spec lTimeNow (toList_sorted r.mBucketMap) horder hmax hbegin
    rw [scan_of_head lTimeNow hhol hempty]
    refine ⟨Nat.le_trans hset hforward, hpassed, fun e he hleft => ?_, by simp⟩
    rw [hsplit] at he
    exact hahead e ((List.mem_append.mp he).resolve_left hleft)

end Receiver

end ElasticFrame
