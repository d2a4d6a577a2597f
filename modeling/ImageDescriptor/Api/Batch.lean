/-
# Batches

`describe_batch` processes its items one after the other, catches the exceptions of an item
in `_process_one`, and skips the rest of the items once the server is shutting down.  The
numbers of succeeded, failed and interrupted items are counted afterwards from the results:
an item counts as interrupted when its error text mentions the word.  How the body of the
`try` statement ends for an item is left open here; `Api/BatchItems.lean` says how it can.
-/
import Mathlib.Data.List.Infix
import ImageDescriptor.Api.Schemas

namespace ImageDescriptor

structure BatchItemError where
  errorType : String
  message : String
  /-- the field and the message of each error of a validation -/
  details : Option (List (String × String)) := none

structure BatchItemResult where
  index : ℕ
  result : Option DescribeResponse := none
  error : Option String := none
  errorDetail : Option BatchItemError := none

structure BatchDescribeResponse where
  results : List BatchItemResult
  total : ℕ
  succeeded : ℕ
  failed : ℤ
  interrupted : ℕ

/-- The clauses of `_process_one`, with `errors` for the method of a `ValidationError`. -/
def itemError (errors : Exc → List (String × String)) (e : Exc) : Option BatchItemError :=
  if e.isinstance .validationError then some ⟨"validation", e.message, some (errors e)⟩
  else if e.isinstance .timeoutError then some ⟨"timeout", "Request timed out", none⟩
  else if e.isinstance .descriptorError || e.isinstance .connectionError ||
      e.isinstance .osError then some ⟨"service", e.message, none⟩
  else none

/-- `_process_one`, from the ending of the body of its `try` statement. -/
def processOne (errors : Exc → List (String × String)) (index : ℕ) :
    Ending DescribeResponse → Ending BatchItemResult
  | .value result => .value { index, result := some result }
  | .raised e =>
    match itemError errors e with
    | some detail =>
      .value { index, error := some detail.message, errorDetail := some detail }
    | none => .raised e
  | .cancelled => .cancelled

/-- The result of an item that is skipped. -/
def skipped (index : ℕ) : BatchItemResult where
  index := index
  error := some "interrupted: server shutting down"

section Batch

variable {α : Type} (errors : Exc → List (String × String)) (shutdown : ℕ → Bool)
  (tried : ℕ → α → Ending DescribeResponse)

/-- The loop over the items from number `i` on.  `shutdown i` is what `is_shutting_down()`
returns before item `i`. -/
def processItems (i : ℕ) : List α → Ending (List BatchItemResult)
  | [] => .value []
  | item :: rest =>
    if shutdown i then .value ((List.range' i (rest.length + 1)).map skipped)
    else
      match processOne errors i (tried i item) with
      | .value r => (processItems (i + 1) rest).map (r :: ·)
      | .raised e => .raised e
      | .cancelled => .cancelled

/-- `"interrupted" in text`. -/
def mentionsInterruption (text : String) : Bool :=
  decide ("interrupted".toList <:+: text.toList)

/-- `r.error and "interrupted" in r.error`. -/
def BatchItemResult.countsAsInterrupted (r : BatchItemResult) : Bool :=
  match r.error with
  | some text => decide (text ≠ "") && mentionsInterruption text
  | none => false

/-- The response that is built from the results. -/
def batchResponse (total : ℕ) (results : List BatchItemResult) : BatchDescribeResponse :=
  let succeeded := results.countP fun r => r.result.isSome
  let interrupted := results.countP BatchItemResult.countsAsInterrupted
  { results, total, succeeded, failed := total - succeeded - interrupted, interrupted }

/-- `try: ... finally: ...` on a value that both parts change. -/
def tryFinally {σ β : Type} (body : σ → σ × Ending β) (final : σ → σ) (s : σ) : σ × Ending β :=
  let r := body s
  (final r.1, r.2)

/-- `describe_batch`, with the gauge `active_batch_jobs`. -/
def describeBatch (items : List α) (gauge : ℤ) : ℤ × Ending BatchDescribeResponse :=
  let run := tryFinally (fun gauge => (gauge, processItems errors shutdown tried 0 items))
    (fun gauge => gauge - 1) (gauge + 1)
  (run.1, run.2.map (batchResponse items.length))

/-! ### What the loop leaves -/

variable {errors shutdown tried} {i : ℕ} {items : List α} {rs : List BatchItemResult}

/-- Of an item that was processed, either the result is there or the error. -/
lemma processOne_value {tr : Ending DescribeResponse} {r : BatchItemResult}
    (h : processOne errors i tr = .value r) :
    r.index = i ∧ ((∃ x, tr = .value x ∧ r.result = some x ∧ r.error = none) ∨
      ∃ e detail, tr = .raised e ∧ itemError errors e = some detail ∧ r.result = none ∧
        r.error = some detail.message) := by
  rcases tr with x | e | _
  · obtain rfl : _ = r := by simpa [processOne] using h
    exact ⟨rfl, .inl ⟨x, rfl, rfl, rfl⟩⟩
  · rcases hdetail : itemError errors e with _ | detail
    · simp [processOne, hdetail] at h
    · obtain rfl : _ = r := by simpa [processOne, hdetail] using h
      exact ⟨rfl, .inr ⟨e, detail, rfl, hdetail, rfl, rfl⟩⟩
  · simp [processOne] at h

/-- The first results of a batch come from its first items, each processed while the server
was not shutting down. -/
structure Processed (errors : Exc → List (String × String)) (shutdown : ℕ → Bool)
    (tried : ℕ → α → Ending DescribeResponse) (i : ℕ) (items : List α)
    (processed : List BatchItemResult) : Prop where
  le : processed.length ≤ items.length
  running : ∀ m < processed.length, shutdown (i + m) = false
  result : ∀ m r, processed[m]? = some r → ∃ item, items[m]? = some item ∧
    processOne errors (i + m) (tried (i + m) item) = .value r
  stopped : processed.length < items.length → shutdown (i + processed.length) = true

lemma Processed.cons {item : α} {r : BatchItemResult} {processed : List BatchItemResult}
    (h : Processed errors shutdown tried (i + 1) items processed) (hrunning : shutdown i = false)
    (hr : processOne errors i (tried i item) = .value r) :
    Processed errors shutdown tried i (item :: items) (r :: processed) := by
  have hshift : ∀ m, i + 1 + m = i + (m + 1) := fun m => by omega
  refine ⟨Nat.succ_le_succ h.le, ?_, ?_, ?_⟩
  · intro m hm
    cases m with
    | zero => exact hrunning
    | succ m =>
      rw [← hshift]
      exact h.running m (Nat.lt_of_succ_lt_succ hm)
  · intro m x hx
    cases m with
    | zero =>
      obtain rfl : r = x := by simpa using hx
      exact ⟨item, rfl, hr⟩
    | succ m =>
      rw [← hshift]
      exact h.result m x (by simpa using hx)
  · intro hlt
    have hstop := h.stopped (Nat.lt_of_succ_lt_succ hlt)
    rwa [hshift] at hstop

/-- **The loop leaves the results of the processed items and skips the others.** -/
lemma processItems_value (h : processItems errors shutdown tried i items = .value rs) :
    ∃ processed, Processed errors shutdown tried i items processed ∧
      rs = processed ++
        (List.range' (i + processed.length) (items.length - processed.length)).map skipped := by
  induction items generalizing i rs with
  | nil =>
    obtain rfl : [] = rs := by simpa [processItems] using h
    exact ⟨[], ⟨le_rfl, by simp, by simp, by simp⟩, rfl⟩
  | cons item rest ih =>
    by_cases hshut : shutdown i = true
    · obtain rfl : _ = rs := by simpa [processItems, hshut] using h
      exact ⟨[], ⟨Nat.zero_le _, by simp, by simp, fun _ => hshut⟩, rfl⟩
    · have hrunning : shutdown i = false := by simpa using hshut
      rcases hr : processOne errors i (tried i item) with r | e | _
      · rcases hrest : processItems errors shutdown tried (i + 1) rest with rs' | e | _
        · obtain rfl : r :: rs' = rs := by
            simpa [processItems, hrunning, hr, hrest, Ending.map] using h
          obtain ⟨processed, hprocessed, rfl⟩ := ih hrest
          refine ⟨r :: processed, hprocessed.cons hrunning hr, ?_⟩
          have hstart : i + (processed.length + 1) = i + 1 + processed.length := by omega
          simp [hstart]
        · simp [processItems, hrunning, hr, hrest, Ending.map] at h
        · simp [processItems, hrunning, hr, hrest, Ending.map] at h
      · simp [processItems, hrunning, hr] at h
      · simp [processItems, hrunning, hr] at h

/-- Shutdown begins once, so that the processed items are the same in every account. -/
lemma Processed.length_unique {processed processed' : List BatchItemResult}
    (h : Processed errors shutdown tried i items processed)
    (h' : Processed errors shutdown tried i items processed') :
    processed.length = processed'.length := by
  have hle : ∀ {xs ys : List BatchItemResult}, Processed errors shutdown tried i items xs →
      Processed errors shutdown tried i items ys → ys.length ≤ xs.length := by
    intro xs ys hx hy
    by_contra hlt
    have hmore : xs.length < ys.length := by omega
    have hstop : shutdown (i + xs.length) = true := hx.stopped (hmore.trans_le hy.le)
    rw [hy.running xs.length hmore] at hstop
    cases hstop
  have h₁ : processed'.length ≤ processed.length := hle h h'
  have h₂ : processed.length ≤ processed'.length := hle h' h
  omega

/-! ### The counts -/

/-- What the response of a batch owes: the results of the processed items in their order,
then the skipped items, numbered from 0, and the numbers of each kind. -/
structure Accounts (errors : Exc → List (String × String)) (shutdown : ℕ → Bool)
    (tried : ℕ → α → Ending DescribeResponse) (items : List α) (response : BatchDescribeResponse)
    (processed : List BatchItemResult) : Prop where
  first : Processed errors shutdown tried 0 items processed
  results : response.results = processed ++
    (List.range' processed.length (items.length - processed.length)).map skipped
  indices : response.results.map BatchItemResult.index = List.range items.length
  succeeded : response.succeeded = processed.countP fun r => r.result.isSome
  failed : response.failed = processed.countP fun r => r.error.isSome
  interrupted : response.interrupted = items.length - processed.length
  total : response.total = items.length
  sum : (response.succeeded : ℤ) + response.failed + response.interrupted = response.total

/-- The condition on the endings of the items: the text of no error that an item processed
before shutdown ends with mentions an interruption. -/
def TextsSpareInterruption (errors : Exc → List (String × String)) (shutdown : ℕ → Bool)
    (tried : ℕ → α → Ending DescribeResponse) (items : List α) : Prop :=
  ∀ m item e detail, items[m]? = some item → (∀ j ≤ m, shutdown j = false) →
    tried m item = .raised e → itemError errors e = some detail →
    mentionsInterruption detail.message = false

lemma Processed.either {processed : List BatchItemResult}
    (h : Processed errors shutdown tried i items processed) {r : BatchItemResult}
    (hr : r ∈ processed) : r.error.isSome = !r.result.isSome := by
  obtain ⟨m, hm⟩ := List.mem_iff_getElem?.mp hr
  obtain ⟨item, -, hone⟩ := h.result m r hm
  rcases (processOne_value hone).2 with ⟨x, -, hresult, herror⟩ | ⟨e, d, -, -, hresult, herror⟩
  · simp [hresult, herror]
  · simp [hresult, herror]

/-- A processed item has a result or an error. -/
lemma Processed.countP_add {processed : List BatchItemResult}
    (h : Processed errors shutdown tried i items processed) :
    (processed.countP fun r => r.result.isSome) + (processed.countP fun r => r.error.isSome) =
      processed.length := by
  have herror : (processed.countP fun r => r.error.isSome) =
      processed.countP fun r => !r.result.isSome :=
    List.countP_congr fun r hr => by rw [h.either hr]
  have hsplit : processed.length = (processed.countP fun r => r.result.isSome) +
      processed.countP fun r => decide ¬ r.result.isSome = true :=
    List.length_eq_countP_add_countP fun r : BatchItemResult => r.result.isSome
  have hnot : (processed.countP fun r => decide ¬ r.result.isSome = true) =
      processed.countP fun r => !r.result.isSome :=
    List.countP_congr fun r _ => by simp
  omega

lemma Processed.indices {processed : List BatchItemResult}
    (h : Processed errors shutdown tried i items processed) :
    processed.map BatchItemResult.index = List.range' i processed.length := by
  refine List.ext_getElem? fun m => ?_
  rcases hm : processed[m]? with _ | r
  · have hlen : processed.length ≤ m := List.getElem?_eq_none_iff.mp hm
    simp [hlen]
  · obtain ⟨item, -, hone⟩ := h.result m r hm
    have hindex : r.index = i + m := (processOne_value hone).1
    have hlt : m < processed.length := (List.getElem?_eq_some_iff.mp hm).1
    rw [List.getElem?_map, hm, Option.map_some, hindex, List.getElem?_range' hlt, Nat.one_mul]

lemma countP_skipped (p : BatchItemResult → Bool) (b : Bool) (hp : ∀ j, p (skipped j) = b)
    (start len : ℕ) : ((List.range' start len).map skipped).countP p = if b then len else 0 := by
  rw [List.countP_map]
  have hconst : (p ∘ skipped) = fun _ => b := funext hp
  rw [hconst]
  cases b <;> simp

lemma batchResponse_interrupted (processed : List BatchItemResult) (total k left : ℕ) :
    (batchResponse total (processed ++ (List.range' k left).map skipped)).interrupted =
      processed.countP BatchItemResult.countsAsInterrupted + left := by
  have hskipped := countP_skipped BatchItemResult.countsAsInterrupted true
    (fun j => by simp only [BatchItemResult.countsAsInterrupted, skipped]; decide) k left
  simp only [batchResponse, List.countP_append, hskipped, if_true]

lemma batchResponse_succeeded (processed : List BatchItemResult) (total k left : ℕ) :
    (batchResponse total (processed ++ (List.range' k left).map skipped)).succeeded =
      processed.countP fun r => r.result.isSome := by
  have hskipped := countP_skipped (fun r => r.result.isSome) false (fun j => rfl) k left
  simp only [batchResponse, List.countP_append, hskipped]
  simp

/-- Among the processed items, those are counted as interrupted whose error text mentions an
interruption. -/
lemma Processed.countsAsInterrupted_iff {processed : List BatchItemResult}
    (h : Processed errors shutdown tried 0 items processed) :
    processed.countP BatchItemResult.countsAsInterrupted = 0 ↔
      TextsSpareInterruption errors shutdown tried items := by
  rw [List.countP_eq_zero]
  constructor
  · intro hnone m item e detail hitem hrunning he hdetail
    -- the item was processed before the shutdown
    have hlt : m < processed.length := by
      by_contra hge
      have hlen : m < items.length := (List.getElem?_eq_some_iff.mp hitem).1
      have hstop := h.stopped (by omega)
      rw [hrunning (0 + processed.length) (by omega)] at hstop
      cases hstop
    obtain ⟨r, hr⟩ : ∃ r, processed[m]? = some r := ⟨_, List.getElem?_eq_getElem hlt⟩
    obtain ⟨item', hitem', hone⟩ := h.result m r hr
    obtain rfl : item = item' := Option.some.inj (hitem.symm.trans hitem')
    rw [Nat.zero_add, he] at hone
    obtain rfl : _ = r := by simpa [processOne, hdetail] using hone
    have hfalse := hnone _ (List.mem_of_getElem? hr)
    simp only [BatchItemResult.countsAsInterrupted, Bool.and_eq_true, decide_eq_true_eq,
      not_and, Bool.not_eq_true] at hfalse
    by_cases hempty : detail.message = ""
    · rw [hempty]
      decide
    · exact hfalse hempty
  · intro hspare r hr
    obtain ⟨m, hm⟩ := List.mem_iff_getElem?.mp hr
    obtain ⟨item, hitem, hone⟩ := h.result m r hm
    rcases (processOne_value hone).2 with ⟨x, -, -, herror⟩ | ⟨e, d, htried, hd, -, herror⟩
    · simp [BatchItemResult.countsAsInterrupted, herror]
    · rw [Nat.zero_add] at htried
      have hlt : m < processed.length := (List.getElem?_eq_some_iff.mp hm).1
      have hrunning : ∀ j ≤ m, shutdown j = false := by
        intro j hj
        have hj' := h.running j (hj.trans_lt hlt)
        rwa [Nat.zero_add] at hj'
      have htext : mentionsInterruption d.message = false :=
        hspare m item e d hitem hrunning htried hd
      simp [BatchItemResult.countsAsInterrupted, herror, htext]

/-- The numbers of the results are those of the items. -/
lemma Processed.indices_append {processed : List BatchItemResult}
    (h : Processed errors shutdown tried 0 items processed) :
    (processed ++ (List.range' processed.length (items.length - processed.length)).map
      skipped).map BatchItemResult.index = List.range items.length := by
  have hskipped : ((List.range' processed.length (items.length - processed.length)).map
      skipped).map BatchItemResult.index =
      List.range' processed.length (items.length - processed.length) := by
    rw [List.map_map]
    exact List.map_id _
  have hjoin : List.range' 0 processed.length ++
      List.range' (0 + processed.length) (items.length - processed.length) =
      List.range' 0 (processed.length + (items.length - processed.length)) :=
    List.range'_append_1
  rw [Nat.zero_add, Nat.add_sub_cancel' h.le] at hjoin
  rw [List.map_append, h.indices, hskipped, hjoin, List.range_eq_range']

/-- The counts of a batch are right when no processed item counts as interrupted. -/
lemma Processed.accounts {processed : List BatchItemResult}
    (h : Processed errors shutdown tried 0 items processed)
    (hresults : rs = processed ++
      (List.range' processed.length (items.length - processed.length)).map skipped)
    (hzero : processed.countP BatchItemResult.countsAsInterrupted = 0) :
    Accounts errors shutdown tried items (batchResponse items.length rs) processed := by
  have hsucceeded := batchResponse_succeeded processed items.length
    processed.length (items.length - processed.length)
  have hinterrupted := batchResponse_interrupted processed items.length
    processed.length (items.length - processed.length)
  rw [← hresults] at hsucceeded hinterrupted
  rw [hzero, Nat.zero_add] at hinterrupted
  have hsplit := h.countP_add
  have hle := h.le
  have hfailed : (batchResponse items.length rs).failed =
      processed.countP fun r => r.error.isSome := by
    show (items.length : ℤ) - (batchResponse items.length rs).succeeded -
      (batchResponse items.length rs).interrupted = _
    rw [hsucceeded, hinterrupted]
    omega
  refine ⟨h, hresults, ?_, hsucceeded, hfailed, hinterrupted, rfl, ?_⟩
  · show rs.map BatchItemResult.index = _
    rw [hresults, h.indices_append]
  · show _ = (items.length : ℤ)
    rw [hfailed, hsucceeded, hinterrupted]
    omega

/-- **A batch accounts for its items exactly when no error text mentions an interruption.**
Whenever `describe_batch` returns, whatever the items and their endings are and whenever
shutdown begins, the results are those of a prefix of processed items and of the skipped
rest; the counts are right if and only if no processed item has ended with an error whose
text contains the word. -/
theorem accounts_iff {gauge : ℤ} {response : BatchDescribeResponse}
    (h : (describeBatch errors shutdown tried items gauge).2 = .value response) :
    (∃ processed, Accounts errors shutdown tried items response processed) ↔
      TextsSpareInterruption errors shutdown tried items := by
  obtain ⟨rs, hrs, rfl⟩ : ∃ rs, processItems errors shutdown tried 0 items = .value rs ∧
      batchResponse items.length rs = response := by
    simp only [describeBatch, tryFinally] at h
    rcases hrs : processItems errors shutdown tried 0 items with rs | e | _
    · exact ⟨rs, rfl, by simpa [hrs, Ending.map] using h⟩
    · simp [hrs, Ending.map] at h
    · simp [hrs, Ending.map] at h
  obtain ⟨processed, hprocessed, hresults⟩ := processItems_value hrs
  rw [Nat.zero_add] at hresults
  rw [← hprocessed.countsAsInterrupted_iff]
  constructor
  · rintro ⟨processed', haccounts⟩
    have hlen : processed'.length = processed.length := haccounts.first.length_unique hprocessed
    have hcount := haccounts.interrupted
    rw [hresults, batchResponse_interrupted, hlen] at hcount
    omega
  · intro hzero
    exact ⟨processed, hprocessed.accounts hresults hzero⟩

end Batch

/-- The first item succeeds, the second fails, and then shutdown begins. -/
def mixedBatch (i : ℕ) (_ : Unit) : Ending DescribeResponse :=
  if i = 0 then .value { description := some "A harbour." }
  else .raised ⟨.connectionError, "real failure"⟩

theorem accounts_of_mixedBatch :
    ∃ response, (describeBatch (fun _ => []) (fun i => decide (2 ≤ i)) mixedBatch
        [(), (), (), ()] 0).2 = .value response ∧
      ∃ processed, Accounts (fun _ => []) (fun i => decide (2 ≤ i)) mixedBatch [(), (), (), ()]
        response processed := by
  obtain ⟨response, hresponse⟩ : ∃ response, (describeBatch (fun _ => []) (fun i => decide (2 ≤ i))
      mixedBatch [(), (), (), ()] 0).2 = .value response := ⟨_, rfl⟩
  refine ⟨response, hresponse, (accounts_iff hresponse).mpr ?_⟩
  intro m item e detail hitem hrunning he hdetail
  have hm : m < 2 := by simpa using hrunning m le_rfl
  obtain rfl : m = 1 := by
    by_contra hne
    obtain rfl : m = 0 := by omega
    simp [mixedBatch] at he
  obtain rfl : ⟨.connectionError, "real failure"⟩ = e := by simpa [mixedBatch] using he
  have herror : itemError (fun _ => []) ⟨.connectionError, "real failure"⟩ =
      some ⟨"service", "real failure", none⟩ := rfl
  obtain rfl : _ = detail := Option.some.inj (herror.symm.trans hdetail)
  decide +kernel

lemma mentionsInterruption_append (s : String) {t : String} (h : mentionsInterruption t = true) :
    mentionsInterruption (s ++ t) = true := by
  have hmention : "interrupted".toList <:+: t.toList := of_decide_eq_true h
  have hsuffix : t.toList <:+: (s ++ t).toList := by
    rw [String.toList_append]
    exact (List.suffix_append _ _).isInfix
  exact decide_eq_true (hmention.trans hsuffix)

/-- The error of a thumbnail that is too large quotes the thumbnail. -/
def largeThumbnail : Exc := ⟨.validationError, "1 validation error for DescribeRequest\nthumbnail\n" ++
  "  Value error, Thumbnail too large (max 5MB, got 5242881 bytes) [type=value_error, " ++
  "input_value='interruptedAAAAAAAAAAAAAA...AAAAAAAAAAAAAAAAAAAAAAA', input_type=str]"⟩

theorem quoted_thumbnail_counts_as_interrupted :
    ∃ response, (describeBatch (fun _ => []) (fun _ => false)
        (fun _ (_ : Unit) => .raised largeThumbnail) [()] 0).2 = .value response ∧
      ¬ ∃ processed, Accounts (fun _ => []) (fun _ => false)
        (fun _ (_ : Unit) => .raised largeThumbnail) [()] response processed := by
  refine ⟨_, rfl, ?_⟩
  rintro ⟨processed, haccounts⟩
  have hlen : processed.length = 1 := by
    have hle : processed.length ≤ 1 := haccounts.first.le
    by_contra hne
    have hlt : processed.length < 1 := by omega
    exact Bool.false_ne_true (haccounts.first.stopped hlt)
  have hmentions : mentionsInterruption largeThumbnail.message = true :=
    mentionsInterruption_append _ (by decide +kernel)
  have hnonempty : largeThumbnail.message ≠ "" := by
    intro hempty
    rw [hempty] at hmentions
    cases hmentions
  have hinterrupted := haccounts.interrupted
  rw [hlen] at hinterrupted
  simp [batchResponse, BatchItemResult.countsAsInterrupted, hmentions, hnonempty] at hinterrupted

end ImageDescriptor
