/-
# Batches while the server runs

A batch is suspended while one of its items is under way, so that requests, other batches
and the SIGTERM handler run between its items.  The gauge `active_batch_jobs`, for which the
shutdown waits, is raised and lowered by the batches themselves.  This file shows that it
is the number of the running batches, that a batch reads the flag often enough to begin no
item once it is set, and that its answer is what `describe_batch` computes when it runs
alone.
-/
import Mathlib.Data.List.GetD
import ImageDescriptor.App.Shutdown

namespace ImageDescriptor.App.Server

open Lib

variable {Response α : Type} {cfg : ShutdownSettings} {errors : Exc → List (String × String)}
  {s s' : Server Response α} {e : ServerEvent Response α}

/-! ### The gauge -/

/-- The running batches are counted by the gauge. -/
structure CountsBatches (s : Server Response α) : Prop where
  finite : {id | s.batchRuns id = true}.Finite
  gauge : s.activeBatchJobs = {id | s.batchRuns id = true}.ncard

/-- Every running batch is one of a request that is in flight. -/
def InRequests (s : Server Response α) : Prop :=
  ∀ id, s.batchRuns id = true → s.app.Passed id batchPath

/-- The condition that no request leaves `call_next` before its batch.  One that is answered
does not; one that is cancelled may, since the application below the middleware is cancelled in
a task of its own. -/
def AwaitsBatch (s : Server Response α) : ServerEvent Response α → Prop
  | .app (.ends id _) | .app (.cancel id) => s.batchRuns id = false
  | .batch id _ => s.app.Passed id batchPath
  | _ => True

lemma batchRuns_setBatch (s : Server Response α) (id i : ℕ) (b : BatchPhase α) :
    (s.setBatch id b).batchRuns i = if i = id then b.isRunning else s.batchRuns i := by
  by_cases hi : i = id
  · subst hi
    simp [batchRuns, setBatch]
  · simp [batchRuns, setBatch, hi]

lemma batchRuns_of_running {id : ℕ} {items rest : List α} {results : List BatchItemResult}
    {item : α} (h : s.batches id = some (.running items results item rest)) :
    s.batchRuns id = true := by
  rw [batchRuns, h]
  rfl

lemma not_batchRuns_of_new {id : ℕ} (h : s.batches id = none) : s.batchRuns id = false := by
  rw [batchRuns, h]
  rfl

lemma countsBatches_started : CountsBatches (started : Server Response α) := by
  have hnone : {id | (started : Server Response α).batchRuns id = true} = ∅ := by
    ext i
    exact iff_of_false Bool.false_ne_true (Set.notMem_empty i)
  refine ⟨?_, ?_⟩
  · rw [hnone]
    exact Set.finite_empty
  · rw [hnone, Set.ncard_empty]
    rfl

/-- What touches neither the batches nor the gauge keeps the count. -/
lemma CountsBatches.congr (hs : CountsBatches s) (hbatches : s'.batches = s.batches)
    (hgauge : s'.activeBatchJobs = s.activeBatchJobs) : CountsBatches s' := by
  have hruns : ∀ id, s'.batchRuns id = s.batchRuns id := fun id => by
    simp only [batchRuns, hbatches]
  refine ⟨?_, ?_⟩
  · simp only [hruns]
    exact hs.finite
  · simp only [hruns, hgauge]
    exact hs.gauge

/-- A batch for which the gauge was raised stays counted until it ends. -/
lemma countsBatches_setBatch {id : ℕ} {b : BatchPhase α}
    (hfinite : {i | s.batchRuns i = true}.Finite)
    (hgauge : s.activeBatchJobs = (insert id {i | s.batchRuns i = true}).ncard) :
    CountsBatches (s.setBatch id b) := by
  cases hb : b.isRunning with
  | true =>
    have hset : {i | (s.setBatch id b).batchRuns i = true} =
        insert id {i | s.batchRuns i = true} := by
      ext i
      by_cases hi : i = id <;> simp [batchRuns_setBatch, hi, hb]
    refine ⟨?_, ?_⟩
    · rw [hset]
      exact hfinite.insert id
    · rw [hset, ← hgauge]
      simp [setBatch, hb]
  | false =>
    have hset : {i | (s.setBatch id b).batchRuns i = true} =
        insert id {i | s.batchRuns i = true} \ {id} := by
      ext i
      by_cases hi : i = id <;> simp [batchRuns_setBatch, hi, hb]
    have hmem : id ∈ insert id {i | s.batchRuns i = true} := .inl rfl
    have hpos : 0 < (insert id {i | s.batchRuns i = true}).ncard :=
      (Set.ncard_pos (hfinite.insert id)).mpr ⟨id, hmem⟩
    have hnow : (s.setBatch id b).activeBatchJobs = s.activeBatchJobs - 1 := by
      simp [setBatch, hb]
    refine ⟨?_, ?_⟩
    · rw [hset]
      exact (hfinite.insert id).sdiff
    · rw [hset, Set.ncard_sdiff_singleton_of_mem hmem]
      omega

/-- A batch that begins raises the gauge. -/
lemma countsBatches_begin (hs : CountsBatches s) {id : ℕ} {items : List α}
    (hnew : s.batches id = none) : CountsBatches (s.beginBatch id items) := by
  have hmem : id ∉ {i | s.batchRuns i = true} := by
    rw [Set.mem_ofPred_eq, not_batchRuns_of_new hnew]
    exact Bool.false_ne_true
  have hcard : (insert id {i | s.batchRuns i = true}).ncard =
      {i | s.batchRuns i = true}.ncard + 1 := Set.ncard_insert_of_notMem hmem hs.finite
  have hgauge : s.activeBatchJobs + 1 = ((insert id {i | s.batchRuns i = true}).ncard : ℤ) := by
    rw [hcard, hs.gauge, Nat.cast_succ]
  let raised : Server Response α := { s with activeBatchJobs := s.activeBatchJobs + 1 }
  show CountsBatches (raised.setBatch id (.resume s.app.shuttingDown items [] items))
  exact countsBatches_setBatch hs.finite hgauge

lemma countsBatches_goesOn (hs : CountsBatches s) {id : ℕ} {b : BatchPhase α}
    (hruns : s.batchRuns id = true) : CountsBatches (s.setBatch id b) := by
  refine countsBatches_setBatch hs.finite ?_
  have hmem : id ∈ {i | s.batchRuns i = true} := hruns
  rw [Set.insert_eq_of_mem hmem]
  exact hs.gauge

lemma countsBatches_step (h : Moves cfg errors s e s') (hs : CountsBatches s) :
    CountsBatches s' := by
  cases h with
  | @app e' app happ =>
    obtain ⟨-, hbatches, hgauge, -⟩ := logSigterm_spec cfg
      { s with app, phase := wake app.drainEvent s.phase } e'
    exact hs.congr hbatches hgauge
  | batch hbegins hnew => exact countsBatches_begin hs hnew
  | itemEnds hruns => exact countsBatches_goesOn hs (batchRuns_of_running hruns)
  | drain | sleepEnds =>
    obtain ⟨-, hbatches, hgauge, -⟩ := poll_spec cfg s _
    exact hs.congr hbatches hgauge
  | elapse | close | waiterStarts | waiterReturns | drained | timedOut | cleanupEnds
  | cacheCloses | clientCloses => exact hs.congr rfl rfl

lemma reached_countsBatches {es : List (ServerEvent Response α)}
    (hrun : Run (step cfg errors) (fun _ _ => True) started es s) :
    s.app.Consistent ∧ CountsBatches s :=
  hrun.invariant (I := fun s => s.app.Consistent ∧ CountsBatches s)
    (fun _ _ _ hs _ h => ⟨consistent_of_moves (moves_of_step h) hs.1,
      countsBatches_step (moves_of_step h) hs.2⟩)
    ⟨InFlight.consistent_started, countsBatches_started⟩

/-! ### The requests of the batches -/

/-- What touches no batch leaves every batch in its request. -/
lemma InRequests.congr (hs : InRequests s) (hbatches : s'.batches = s.batches)
    (hpassed : ∀ id, s.batchRuns id = true → s.app.Passed id batchPath →
      s'.app.Passed id batchPath) : InRequests s' := by
  intro id hid
  have hruns : s.batchRuns id = true := by
    rw [← hid]
    simp only [batchRuns, hbatches]
  exact hpassed id hruns (hs id hruns)

lemma inRequests_setBatch {id : ℕ} {b : BatchPhase α} (hs : InRequests s)
    (hpassed : s.app.Passed id batchPath) : InRequests (s.setBatch id b) := by
  intro i hi
  rw [batchRuns_setBatch] at hi
  split at hi
  · rename_i heq
    rw [heq]
    exact hpassed
  · exact hs i hi

lemma inRequests_step (h : Moves cfg errors s e s') (hC : AwaitsBatch s e) (hs : InRequests s) :
    InRequests s' := by
  cases h with
  | @app e' app happ =>
    obtain ⟨happ', hbatches, -⟩ := logSigterm_spec cfg
      { s with app, phase := wake app.drainEvent s.phase } e'
    refine hs.congr hbatches fun id hruns hpassed => ?_
    rw [happ']
    refine InFlight.passed_of_step happ hpassed ?_ ?_
    · rintro r rfl
      exact Bool.false_ne_true (hC.symm.trans hruns)
    · rintro rfl
      exact Bool.false_ne_true (hC.symm.trans hruns)
  | @batch id items hbegins hnew =>
    let raised : Server Response α := { s with activeBatchJobs := s.activeBatchJobs + 1 }
    have hraised : InRequests raised := hs
    exact inRequests_setBatch hraised hC
  | itemEnds hruns => exact inRequests_setBatch hs (hs _ (batchRuns_of_running hruns))
  | drain | sleepEnds =>
    obtain ⟨happ, hbatches, -⟩ := poll_spec cfg s _
    exact hs.congr hbatches fun id _ hpassed => happ ▸ hpassed
  | elapse | close | waiterStarts | waiterReturns | drained | timedOut | cleanupEnds
  | cacheCloses | clientCloses => exact hs.congr rfl fun _ _ hpassed => hpassed

/-- In a run in which every request awaits its batch, the batches are in their requests. -/
lemma inRequests_of_run {es : List (ServerEvent Response α)}
    (hrun : Run (step cfg errors) AwaitsBatch started es s) : InRequests s :=
  hrun.invariant (fun _ _ _ hs hC h => inRequests_step (moves_of_step h) hC hs)
    fun _ hid => absurd hid Bool.false_ne_true

/-- **The gauge counts the running batches.**  After the startup, in every interleaving of
requests, batches, cancellations, the signal and the shutdown, the gauge is the number of the
batches that are running; and where no request has left before its batch, each of them is in a
request that is counted as in flight. -/
theorem countsBatches_of_run {es : List (ServerEvent Response α)}
    (hrun : Run (step cfg errors) (fun _ _ => True) started es s) :
    CountsBatches s ∧ 0 ≤ s.activeBatchJobs ∧
      (Run (step cfg errors) AwaitsBatch started es s →
        InRequests s ∧ s.activeBatchJobs ≤ s.app.inFlight) := by
  obtain ⟨hconsistent, hs⟩ := reached_countsBatches hrun
  refine ⟨hs, ?_, fun hawaits => ?_⟩
  · rw [hs.gauge]
    exact Int.natCast_nonneg _
  · have hin : InRequests s := inRequests_of_run hawaits
    refine ⟨hin, ?_⟩
    have hsub : {id | s.batchRuns id = true} ⊆ {id | s.app.Counted id} :=
      fun id hid => ⟨batchPath, .inl (hin id hid)⟩
    rw [hs.gauge, hconsistent.counter]
    exact_mod_cast Set.ncard_le_ncard hsub hconsistent.finite

instance (app : InFlight Response) (id : ℕ) (path : String) : Decidable (app.Passed id path) :=
  match h : app.requests id with
  | some (path', .passed) => decidable_of_iff (path' = path) (by simp [InFlight.Passed, h])
  | some (_, .entering) | some (_, .leaving _) | some (_, .refused _) | some (_, .ended _)
  | none => isFalse (by simp [InFlight.Passed, h])

instance (s : Server Response α) (e : ServerEvent Response α) : Decidable (AwaitsBatch s e) := by
  unfold AwaitsBatch
  split <;> infer_instance

/-- Two batches begin, and the request of one of them is cancelled after its batch. -/
def twoBatches : List (ServerEvent ℕ ℕ) :=
  [.app (.request 0 batchPath), .app (.request 1 batchPath), .batch 0 [10, 11], .batch 1 [12],
    .itemEnds 1 .cancelled, .app (.cancel 1)]

/-- The request of a batch is cancelled while its batch is running. -/
def leftBatch : List (ServerEvent ℕ ℕ) :=
  [.app (.request 0 batchPath), .batch 0 [10], .app (.cancel 0)]

theorem countsBatches_of_twoBatches :
    ∃ s, Run (step .defaults fun _ => []) AwaitsBatch started twoBatches s ∧
      s.activeBatchJobs = 1 ∧ CountsBatches s ∧ 0 ≤ s.activeBatchJobs ∧ InRequests s ∧
      s.activeBatchJobs ≤ s.app.inFlight := by
  obtain ⟨s, hrun, hs⟩ : ∃ s, Run (step .defaults fun _ => []) AwaitsBatch started twoBatches s ∧
      decide (s.activeBatchJobs = 1) = true :=
    Run.of_observed (by decide +kernel)
  obtain ⟨hcounts, hnonneg, hin⟩ := countsBatches_of_run (hrun.mono fun _ _ _ => trivial)
  exact ⟨s, hrun, of_decide_eq_true hs, hcounts, hnonneg, hin hrun⟩

/-- A cancelled request may leave its batch behind. -/
example : ∃ s, Run (step .defaults fun _ => []) (fun _ _ => True) started leftBatch s ∧
    (decide (s.activeBatchJobs = 1) && decide (s.app.inFlight = 0)) = true :=
  Run.of_observed (by decide +kernel)

/-! ### No item begins once the flag is set -/

/-- An item of a batch ends. -/
def endsItem : ServerEvent Response α → Bool
  | .itemEnds .. => true
  | _ => false

lemma resume_shuttingDown (items rest : List α) (results : List BatchItemResult) :
    (BatchPhase.resume true items results rest).isRunning = false := by
  cases rest <;> rfl

lemma afterItem_shuttingDown (items rest : List α) (results : List BatchItemResult)
    (r : Ending BatchItemResult) :
    (BatchPhase.afterItem true items results rest r).isRunning = false := by
  cases r with
  | value r => exact resume_shuttingDown items rest (results ++ [r])
  | raised | cancelled => rfl

/-- While the flag is set, an item that ends is the last of its batch, and a batch that begins
is over at once. -/
lemma gauge_of_shuttingDown (h : Moves cfg errors s e s') (hasked : s.app.shuttingDown = true) :
    (if endsItem e then 1 else 0) + s'.activeBatchJobs = s.activeBatchJobs := by
  cases h with
  | @app e' app happ =>
    rw [(logSigterm_spec cfg _ e').2.2.1]
    exact zero_add _
  | batch hbegins hnew =>
    simp [endsItem, beginBatch, setBatch, hasked, resume_shuttingDown]
  | itemEnds hruns => simp [endsItem, setBatch, hasked, afterItem_shuttingDown]
  | drain | sleepEnds =>
    rw [(poll_spec cfg s _).2.2.1]
    exact zero_add _
  | elapse | close | waiterStarts | waiterReturns | drained | timedOut | cleanupEnds
  | cacheCloses | clientCloses => exact zero_add _

/-- **After the signal every running batch ends with the item that is under way.**  In every
run from a state in which the flag is set, as many items end as batches have stopped
running, so that no batch begins another item. -/
theorem items_after_sigterm {es₁ es₂ : List (ServerEvent Response α)}
    (hrun₁ : Run (step cfg errors) (fun _ _ => True) started es₁ s)
    (hasked : s.app.shuttingDown = true)
    (hrun₂ : Run (step cfg errors) (fun _ _ => True) s es₂ s') :
    (es₂.countP endsItem : ℤ) + s'.activeBatchJobs = s.activeBatchJobs := by
  have hconsistent : s.app.Consistent := hrun₁.invariant
    (I := fun s => s.app.Consistent)
    (fun _ _ _ hs _ h => consistent_of_moves (moves_of_step h) hs) InFlight.consistent_started
  have haccount := hrun₂.account []
    (I := fun t past => t.app.Consistent ∧ t.app.shuttingDown = true ∧
      (past.countP endsItem : ℤ) + t.activeBatchJobs = s.activeBatchJobs)
    (fun t e t' past ht _ h => by
      have hmoves := moves_of_step h
      have hgauge := gauge_of_shuttingDown hmoves ht.2.1
      refine ⟨consistent_of_moves hmoves ht.1, shuttingDown_of_moves hmoves ht.1 ht.2.1, ?_⟩
      rw [List.countP_append, List.countP_singleton, Nat.cast_add, Nat.cast_ite]
      simp only [Nat.cast_one, Nat.cast_zero]
      have hpast := ht.2.2
      omega)
    ⟨hconsistent, hasked, by simp⟩
  exact haccount.2.2

/-- The process is told to stop while one batch is running. -/
def runningBatch : List (ServerEvent ℕ ℕ) :=
  [.app (.request 0 batchPath), .app (.request 1 batchPath), .batch 0 [10, 11], .app .sigterm]

/-- Another batch begins afterwards, and the item under way ends. -/
def lateBatch : List (ServerEvent ℕ ℕ) := [.batch 1 [12], .itemEnds 0 (.value {})]

theorem items_after_sigterm_of_lateBatch :
    ∃ s s', Run (step .defaults fun _ => []) (fun _ _ => True) started runningBatch s ∧
      Run (step .defaults fun _ => []) (fun _ _ => True) s lateBatch s' ∧
      (lateBatch.countP endsItem : ℤ) + s'.activeBatchJobs = s.activeBatchJobs := by
  obtain ⟨s, hrun, hs⟩ : ∃ s, Run (step .defaults fun _ => []) (fun _ _ => True) started runningBatch s ∧
      (s.app.shuttingDown &&
        (exec (step .defaults fun _ => []) (fun _ _ => True) s lateBatch).isSome) =
        true :=
    Run.of_observed (by decide +kernel)
  rw [Bool.and_eq_true] at hs
  obtain ⟨s', hs'⟩ := Option.isSome_iff_exists.mp hs.2
  exact ⟨s, s', hrun, .of_exec hs', items_after_sigterm hrun hs.1 (.of_exec hs')⟩

/-! ### The answer of a batch -/

/-- How the items of the batch of a request ended, in their order. -/
def endingsOf (id : ℕ) (past : List (ServerEvent Response α)) : List (Ending DescribeResponse) :=
  past.filterMap fun
    | .itemEnds i r => if i = id then some r else none
    | _ => none

/-- `describe_batch` alone, on items with given endings; the server shuts down after them. -/
def describedAlone (errors : Exc → List (String × String)) (items : List α)
    (endings : List (Ending DescribeResponse)) : Ending BatchDescribeResponse :=
  (describeBatch errors (fun j => decide (endings.length ≤ j))
    (fun j _ => endings.getD j .cancelled) items 0).2

/-- What a batch owes to the endings of its items so far. -/
def Follows (errors : Exc → List (String × String)) (shuttingDown : Bool)
    (endings : List (Ending DescribeResponse)) : BatchPhase α → Prop
  | .running items results item rest =>
    results.length = endings.length ∧ items.drop endings.length = item :: rest ∧
      ∀ j x, results[j]? = some x →
        processOne errors j (endings.getD j .cancelled) = .value x
  | .ended items ending =>
    ending = describedAlone errors items endings ∧
      ((∃ response, ending = .value response) → endings.length < items.length →
        shuttingDown = true)

/-- The items of a batch. -/
def itemsOf : BatchPhase α → List α
  | .running items .. => items
  | .ended items _ => items

lemma map_cons_append {β : Type} (x : β) (xs : List β) (r : Ending (List β)) :
    (r.map (xs ++ ·)).map (x :: ·) = r.map (x :: xs ++ ·) := by
  cases r <;> rfl

/-- The loop on items of which the first have been processed. -/
lemma processItems_of_processed {shutdown : ℕ → Bool} {tried : ℕ → α → Ending DescribeResponse}
    {i : ℕ} {items : List α} {results : List BatchItemResult}
    (hle : results.length ≤ items.length)
    (hone : ∀ j x item, results[j]? = some x →
      processOne errors (i + j) (tried (i + j) item) = .value x)
    (hrunning : ∀ j < results.length, shutdown (i + j) = false) :
    processItems errors shutdown tried i items =
      (processItems errors shutdown tried (i + results.length)
        (items.drop results.length)).map (results ++ ·) := by
  induction results generalizing i items with
  | nil =>
    simp only [List.length_nil, Nat.add_zero, List.drop_zero, List.nil_append]
    cases processItems errors shutdown tried i items <;> rfl
  | cons x xs ih =>
    cases items with
    | nil => cases hle
    | cons item rest =>
      have hshift : ∀ j, i + (j + 1) = i + 1 + j := fun j => by omega
      have hfirst : processOne errors i (tried i item) = .value x := hone 0 x item rfl
      have hgo : shutdown i = false := hrunning 0 (Nat.succ_pos _)
      have hle' : xs.length ≤ rest.length := Nat.le_of_succ_le_succ hle
      have hrest := ih (i := i + 1) hle'
        (fun j y item' hj => hshift j ▸ hone (j + 1) y item' hj)
        (fun j hj => hshift j ▸ hrunning (j + 1) (Nat.succ_lt_succ hj))
      rw [processItems, hgo, hfirst, List.length_cons, List.drop_succ_cons, hshift xs.length,
        ← map_cons_append, ← hrest]
      rfl

lemma describedAlone_eq (items : List α) (endings : List (Ending DescribeResponse)) :
    describedAlone errors items endings =
      (processItems errors (fun j => decide (endings.length ≤ j))
        (fun j _ => endings.getD j .cancelled) 0 items).map (batchResponse items.length) := rfl

/-- The loop after the processed items, one of which has just ended the batch or not. -/
lemma describedAlone_of_processed {items rest : List α} {results : List BatchItemResult}
    (endings : List (Ending DescribeResponse)) (hle : results.length ≤ endings.length)
    (hdrop : items.drop results.length = rest) (hitems : results.length ≤ items.length)
    (hone : ∀ j x, results[j]? = some x →
      processOne errors j (endings.getD j .cancelled) = .value x) :
    describedAlone errors items endings =
      ((processItems errors (fun j => decide (endings.length ≤ j))
        (fun j _ => endings.getD j .cancelled) results.length rest).map (results ++ ·)).map
          (batchResponse items.length) := by
  rw [describedAlone_eq, processItems_of_processed hitems, Nat.zero_add, hdrop]
  · intro j x _ hj
    rw [Nat.zero_add]
    exact hone j x hj
  · intro j hj
    rw [Nat.zero_add, decide_eq_false_iff_not]
    omega

/-- The loop goes on after some results as `describe_batch` does. -/
lemma follows_resume {shuttingDown : Bool} {items rest : List α} {results : List BatchItemResult}
    {endings : List (Ending DescribeResponse)} (hlen : results.length = endings.length)
    (hdrop : items.drop results.length = rest) (hitems : results.length ≤ items.length)
    (hone : ∀ j x, results[j]? = some x →
      processOne errors j (endings.getD j .cancelled) = .value x) :
    Follows errors shuttingDown endings (.resume shuttingDown items results rest) := by
  have halone := describedAlone_of_processed endings hlen.le hdrop hitems hone
  cases rest with
  | nil =>
    have hall : items.length ≤ results.length := List.drop_eq_nil_iff.mp hdrop
    refine ⟨?_, fun _ hlt => absurd hlt (by omega)⟩
    rw [halone]
    simp [processItems, Ending.map]
  | cons item rest =>
    cases shuttingDown with
    | true =>
      refine ⟨?_, fun _ _ => rfl⟩
      rw [halone, processItems, if_pos (decide_eq_true hlen.ge)]
      rfl
    | false => exact ⟨hlen, hlen ▸ hdrop, hone⟩

/-- The item under way ends. -/
lemma follows_afterItem {shuttingDown : Bool} {items rest : List α}
    {results : List BatchItemResult} {item : α} {endings : List (Ending DescribeResponse)}
    {r : Ending DescribeResponse}
    (h : Follows errors shuttingDown endings (.running items results item rest)) :
    Follows errors shuttingDown (endings ++ [r])
      (.afterItem shuttingDown items results rest (processOne errors results.length r)) := by
  obtain ⟨hlen, hdrop, hone⟩ := h
  have hitems : results.length < items.length := by
    have hlt : endings.length < items.length := by
      by_contra hge
      rw [List.drop_eq_nil_of_le (by omega)] at hdrop
      cases hdrop
    omega
  have hold : ∀ j x, results[j]? = some x →
      processOne errors j ((endings ++ [r]).getD j .cancelled) = .value x := by
    intro j x hj
    have hj' : j < results.length := (List.getElem?_eq_some_iff.mp hj).1
    rw [List.getD_append _ _ _ _ (by omega)]
    exact hone j x hj
  have hnew : (endings ++ [r]).getD results.length .cancelled = r := by
    rw [hlen, List.getD_append_right _ _ _ _ le_rfl, Nat.sub_self]
    rfl
  have hmore : (endings ++ [r]).length = results.length + 1 := by
    rw [List.length_append, hlen, List.length_singleton]
  have halone := describedAlone_of_processed (endings ++ [r]) (by omega)
    (hlen ▸ hdrop) hitems.le hold
  have hgo : decide ((endings ++ [r]).length ≤ results.length) = false :=
    decide_eq_false (by omega)
  cases hr : processOne errors results.length r with
  | value x =>
    refine follows_resume ?_ ?_ ?_ ?_
    · rw [List.length_append, List.length_singleton, hmore]
    · rw [List.length_append, List.length_singleton, ← List.drop_drop, hlen, hdrop]
      rfl
    · rw [List.length_append, List.length_singleton]
      exact hitems
    · intro j y hj
      rcases Nat.lt_trichotomy j results.length with hlt | rfl | hgt
      · rw [List.getElem?_append_left hlt] at hj
        exact hold j y hj
      · rw [List.getElem?_append_right le_rfl, Nat.sub_self] at hj
        cases hj
        rw [hnew, hr]
      · rw [List.getElem?_eq_none (by rw [List.length_append, List.length_singleton]; omega)] at hj
        cases hj
  | raised e =>
    refine ⟨?_, fun hvalue => by cases hvalue.choose_spec⟩
    rw [halone, processItems, hgo, hnew, hr]
    rfl
  | cancelled =>
    refine ⟨?_, fun hvalue => by cases hvalue.choose_spec⟩
    rw [halone, processItems, hgo, hnew, hr]
    rfl

lemma Follows.mono {down down' : Bool} {endings : List (Ending DescribeResponse)}
    {b : BatchPhase α} (hdown : down = true → down' = true) (h : Follows errors down endings b) :
    Follows errors down' endings b := by
  cases b with
  | running items results item rest => exact h
  | ended items ending => exact ⟨h.1, fun hvalue hlt => hdown (h.2 hvalue hlt)⟩

/-- Every batch is where the endings of its items have led it. -/
structure BatchesFollow (errors : Exc → List (String × String)) (s : Server Response α)
    (past : List (ServerEvent Response α)) : Prop where
  consistent : s.app.Consistent
  unbegun : ∀ id, s.batches id = none → endingsOf id past = []
  begun : ∀ id b, s.batches id = some b → .batch id (itemsOf b) ∈ past
  follows : ∀ id b, s.batches id = some b →
    Follows errors s.app.shuttingDown (endingsOf id past) b

lemma endingsOf_append (id : ℕ) (past : List (ServerEvent Response α))
    (e : ServerEvent Response α) : endingsOf id (past ++ [e]) =
      endingsOf id past ++ endingsOf id [e] := by
  rw [endingsOf, List.filterMap_append]
  rfl

/-- An event that is no ending of an item of this batch. -/
lemma endingsOf_other {id : ℕ} {past : List (ServerEvent Response α)}
    {e : ServerEvent Response α} (he : ∀ r, e ≠ .itemEnds id r) :
    endingsOf id (past ++ [e]) = endingsOf id past := by
  rw [endingsOf_append]
  cases e with
  | itemEnds i r =>
    have hi : i ≠ id := fun h => he r (by rw [h])
    simp [endingsOf, hi]
  | app | batch | elapse | shutdown | sleepEnds | waiterRuns | waitForEnds | cleanupEnds
  | cacheCloses | clientCloses => simp [endingsOf]

lemma itemsOf_resume (down : Bool) (items rest : List α) (results : List BatchItemResult) :
    itemsOf (.resume down items results rest) = items := by
  cases rest with
  | nil => rfl
  | cons item rest => cases down <;> rfl

lemma itemsOf_afterItem (down : Bool) (items rest : List α) (results : List BatchItemResult)
    (r : Ending BatchItemResult) : itemsOf (.afterItem down items results rest r) = items := by
  cases r with
  | value r => exact itemsOf_resume down items rest (results ++ [r])
  | raised | cancelled => rfl

/-- What leaves the batches alone. -/
lemma BatchesFollow.congr {past : List (ServerEvent Response α)} (hs : BatchesFollow errors s past)
    (h : Moves cfg errors s e s') (hbatches : s'.batches = s.batches)
    (he : ∀ id r, e ≠ .itemEnds id r) : BatchesFollow errors s' (past ++ [e]) := by
  refine ⟨consistent_of_moves h hs.consistent, fun id hid => ?_, fun id b hb => ?_,
    fun id b hb => ?_⟩
  · rw [endingsOf_other (he id)]
    exact hs.unbegun id (hbatches ▸ hid)
  · exact List.mem_append_left _ (hs.begun id b (hbatches ▸ hb))
  · rw [endingsOf_other (he id)]
    exact (hs.follows id b (hbatches ▸ hb)).mono (shuttingDown_of_moves h hs.consistent)

lemma batchesFollow_step {past : List (ServerEvent Response α)} (hs : BatchesFollow errors s past)
    (h : Moves cfg errors s e s') : BatchesFollow errors s' (past ++ [e]) := by
  have hmoves := h
  cases h with
  | @app e' app happ =>
    exact hs.congr hmoves (logSigterm_spec cfg _ e').2.1 (by simp)
  | @batch id items hbegins hnew =>
    have hnone : endingsOf id past = [] := hs.unbegun id hnew
    refine ⟨hs.consistent, fun i hi => ?_, fun i b hb => ?_, fun i b hb => ?_⟩
    · rw [endingsOf_other (by simp)]
      by_cases hid : i = id
      · rw [hid, hnone]
      · refine hs.unbegun i ?_
        simpa [beginBatch, setBatch, Function.update_of_ne hid] using hi
    · rcases update_some_cases hb with ⟨rfl, rfl⟩ | ⟨-, hold⟩
      · rw [itemsOf_resume]
        exact List.mem_append_right _ (List.mem_singleton.mpr rfl)
      · exact List.mem_append_left _ (hs.begun i b hold)
    · rw [endingsOf_other (by simp)]
      rcases update_some_cases hb with ⟨rfl, rfl⟩ | ⟨-, hold⟩
      · rw [hnone]
        exact follows_resume rfl rfl (Nat.zero_le _) (by simp)
      · exact hs.follows i b hold
  | @itemEnds id r items rest results item hruns =>
    refine ⟨hs.consistent, fun i hi => ?_, fun i b hb => ?_, fun i b hb => ?_⟩
    · have hid : i ≠ id := by
        rintro rfl
        simp [setBatch] at hi
      rw [endingsOf_other (by simpa using fun h => absurd h.symm hid)]
      refine hs.unbegun i ?_
      simpa [setBatch, Function.update_of_ne hid] using hi
    · rcases update_some_cases hb with ⟨rfl, rfl⟩ | ⟨-, hold⟩
      · rw [itemsOf_afterItem]
        exact List.mem_append_left _ (hs.begun i _ hruns)
      · exact List.mem_append_left _ (hs.begun i b hold)
    · rcases update_some_cases hb with ⟨rfl, rfl⟩ | ⟨hid, hold⟩
      · have hlast : endingsOf i [(.itemEnds i r : ServerEvent Response α)] = [r] := by
          simp [endingsOf]
        rw [endingsOf_append, hlast]
        exact follows_afterItem (hs.follows i _ hruns)
      · rw [endingsOf_other (by simpa using fun h => absurd h.symm hid)]
        exact hs.follows i b hold
  | drain | sleepEnds => exact hs.congr hmoves (poll_spec cfg s _).2.1 (by simp)
  | elapse | close | waiterStarts | waiterReturns | drained | timedOut | cleanupEnds
  | cacheCloses | clientCloses => exact hs.congr hmoves rfl (by simp)

/-- **A batch answers as it would alone.**  Whatever runs between its items, a batch that has
ended has ended as `describe_batch` does on the items that it began with when it has the
server to itself and these items end in this way; and where it has answered without trying
all of its items, the process was told to stop. -/
theorem ended_eq_describedAlone {es : List (ServerEvent Response α)} {id : ℕ} {items : List α}
    {ending : Ending BatchDescribeResponse}
    (hrun : Run (step cfg errors) (fun _ _ => True) started es s)
    (hended : s.batches id = some (.ended items ending)) :
    .batch id items ∈ es ∧ ending = describedAlone errors items (endingsOf id es) ∧
      ((∃ response, ending = .value response) → (endingsOf id es).length < items.length →
        s.app.shuttingDown = true) := by
  have hs : BatchesFollow errors s ([] ++ es) := hrun.account []
    (fun _ _ _ _ hs _ h => batchesFollow_step hs (moves_of_step h))
    ⟨InFlight.consistent_started, fun _ _ => rfl, (fun _ _ hb => by cases hb),
      (fun _ _ hb => by cases hb)⟩
  exact ⟨hs.begun id _ hended, hs.follows id _ hended⟩

/-- One of two items is described before the process is told to stop. -/
def stoppedBatch : List (ServerEvent ℕ ℕ) :=
  [.app (.request 0 batchPath), .batch 0 [10, 11], .app (.request 1 "/api/v1/describe"),
    .app .sigterm, .itemEnds 0 (.value {})]

/-- A batch that has ended, by its items. -/
def endedItems : Option (BatchPhase ℕ) → Option (List ℕ)
  | some (.ended items _) => some items
  | _ => none

theorem ended_eq_describedAlone_of_stoppedBatch :
    ∃ s ending, Run (step .defaults fun _ => []) (fun _ _ => True) started stoppedBatch s ∧
      .batch 0 [10, 11] ∈ stoppedBatch ∧
      ending = describedAlone (fun _ => []) [10, 11] (endingsOf 0 stoppedBatch) ∧
      ((∃ response, ending = .value response) → (endingsOf 0 stoppedBatch).length < 2 →
        s.app.shuttingDown = true) := by
  obtain ⟨s, hrun, hs⟩ : ∃ s, Run (step .defaults fun _ => []) (fun _ _ => True) started stoppedBatch s ∧
      decide (endedItems (s.batches 0) = some [10, 11]) = true :=
    Run.of_observed (by decide +kernel)
  have hitems : endedItems (s.batches 0) = some [10, 11] := of_decide_eq_true hs
  rcases hbatch : s.batches 0 with _ | ⟨items, results, item, rest⟩ | ⟨items, ending⟩
  · rw [hbatch] at hitems
    cases hitems
  · rw [hbatch] at hitems
    cases hitems
  · rw [hbatch] at hitems
    cases hitems
    exact ⟨s, ending, hrun, ended_eq_describedAlone hrun hbatch⟩

end ImageDescriptor.App.Server
