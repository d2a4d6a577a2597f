/-
# The items of a batch

How the body of the `try` statement of `_process_one` can end: the item is validated again,
described and saved.  The coroutines of the services may raise whatever they want; what
leaves `compose_description` and `_describe_and_save` is a `ValidationError` of the response
model or a `ConnectionError` of the database module, and `_process_one` has a clause for both,
of which the first also catches the `ValidationError` of an item.
-/
import ImageDescriptor.Api.Batch
import ImageDescriptor.Api.Routes
import ImageDescriptor.Api.Validation
import ImageDescriptor.Services.BreakerAccounting
import ImageDescriptor.Services.CompletionOrder

namespace ImageDescriptor

open Db Composer

/-- An item of the body of a batch request, which the validation of the body has accepted. -/
structure BatchDescribeItem (conv : Conversions) extends DescribeRequest where
  accepted : ∃ raw, BatchDescribeItem.modelValidate conv raw = .ok (.ofRequest toDescribeRequest)

/-- What the processing of one item meets: the calls of its composition, the world of its save,
and whether the handler is cancelled meanwhile. -/
structure ItemWorld (Client : Type) where
  calls : Calls
  db : World Client
  cancelled : Bool

variable {Client : Type} {conv : Conversions} (rt : Runtime) (cfg : Settings)
  (text : List FieldError → String)

/-- `DescribeRequest.model_validate(raw_item.model_dump())`, where `text` makes the message of a
`ValidationError` of its errors.  What is accepted is the item again. -/
def BatchDescribeItem.validateAgain (item : BatchDescribeItem conv) : Except Exc DescribeRequest :=
  match DescribeRequest.modelValidate conv
    (ItemData.ofRequest item.toDescribeRequest).modelDump with
  | .ok _ => .ok item.toDescribeRequest
  | .failed e es => .error ⟨.validationError, text (e :: es)⟩

/-- The body of the `try` statement of `_process_one`. -/
def tryItem (w : ItemWorld Client) (item : BatchDescribeItem conv) : Ending DescribeResponse :=
  if w.cancelled then .cancelled
  else
    match item.validateAgain text with
    | .error e => .raised e
    | .ok item =>
      match composeDescription rt cfg w.calls item with
      | .error e => .raised e
      | .ok result => describeAndSave cfg item result w.db

variable {rt cfg text}

/-- Every item that the validation of the body accepts is one. -/
lemma exists_item_of_accepted {raw : RawValue} {d : ItemData}
    (h : BatchDescribeItem.modelValidate conv raw = .ok d) :
    ∃ item : BatchDescribeItem conv, d = .ofRequest item.toDescribeRequest := by
  obtain ⟨request, rfl, -⟩ := exists_request_of_accepted conv h
  exact ⟨⟨request, raw, h⟩, rfl⟩

/-- The second validation finds nothing but the size of the thumbnail. -/
lemma validateAgain_eq (item : BatchDescribeItem conv) : item.validateAgain text =
    if DescribeRequest.TooLarge item.thumbnail then
      .error ⟨.validationError, text [⟨["thumbnail"], .valueError
        (DescribeRequest.tooLargeMessage item.thumbnail)⟩]⟩
    else .ok item.toDescribeRequest := by
  obtain ⟨raw, hraw⟩ := item.accepted
  have hthumbnail : (ItemData.ofRequest item.toDescribeRequest).thumbnail = item.thumbnail := rfl
  have hagain := modelValidate_modelDump hraw
  rw [hthumbnail] at hagain
  unfold BatchDescribeItem.validateAgain
  by_cases hsize : DescribeRequest.TooLarge item.thumbnail
  · rw [if_pos hsize] at hagain ⊢
    rw [hagain]
  · rw [if_neg hsize] at hagain ⊢
    rw [hagain]

/-- A save ends, and what it raises is a `ConnectionError`. -/
lemma saveDescription_cases (cfg : Settings) (row : Row) (w : World Client) :
    (∃ saved, saveDescription cfg row w = .value saved) ∨
      ∃ e, saveDescription cfg row w = .raised e ∧ e.isinstance .connectionError = true := by
  rcases hfail : w.failure cfg with _ | e
  · obtain ⟨a, ha⟩ := World.execute_of_success hfail
    left
    rw [saveDescription, call_of_success _ hfail ha]
    exact ⟨_, rfl⟩
  · rw [saveDescription_of_failure row hfail]
    by_cases hc : e.isinstance .connectionError = true
    · exact .inr ⟨e, by simp [hc], hc⟩
    · exact .inl ⟨false, by simp [hc]⟩

lemma describeAndSave_cases (cfg : Settings) (item : DescribeRequest) (result : DescribeResponse)
    (w : World Client) :
    (∃ response, describeAndSave cfg item result w = .value response) ∨
      ∃ e, describeAndSave cfg item result w = .raised e ∧
        e.isinstance .connectionError = true := by
  unfold describeAndSave
  split
  · dsimp only
    rcases saveDescription_cases cfg _ w with ⟨saved, h⟩ | ⟨e, h, hc⟩
    · rw [h]
      exact .inl ⟨_, rfl⟩
    · rw [h]
      exact .inr ⟨e, rfl, hc⟩
  · exact .inl ⟨result, rfl⟩

/-- How an item can end: only the cancellation and two classes of exceptions get out. -/
lemma tryItem_cases (w : ItemWorld Client) (item : BatchDescribeItem conv) :
    (w.cancelled = true ∧ tryItem rt cfg text w item = .cancelled) ∨
      (∃ response, tryItem rt cfg text w item = .value response) ∨
      ∃ e, tryItem rt cfg text w item = .raised e ∧
        (e.isinstance .validationError = true ∨ e.isinstance .connectionError = true) := by
  by_cases hcancelled : w.cancelled = true
  · exact .inl ⟨hcancelled, by simp [tryItem, hcancelled]⟩
  · right
    rw [tryItem, if_neg hcancelled, validateAgain_eq]
    by_cases hsize : DescribeRequest.TooLarge item.thumbnail
    · rw [if_pos hsize]
      exact .inr ⟨_, rfl, .inl rfl⟩
    · rw [if_neg hsize]
      dsimp only
      rcases hcompose : composeDescription rt cfg w.calls item.toDescribeRequest with e | result
      · exact .inr ⟨e, rfl, .inl (composeDescription_error hcompose)⟩
      · rcases describeAndSave_cases cfg item.toDescribeRequest result w.db with
          hvalue | ⟨e, he, hc⟩
        · exact .inl hvalue
        · exact .inr ⟨e, he, .inr hc⟩

/-- `_process_one` has a clause for either class. -/
lemma itemError_of_caught (errors : Exc → List (String × String)) {e : Exc}
    (h : e.isinstance .validationError = true ∨ e.isinstance .connectionError = true) :
    ∃ detail, itemError errors e = some detail := by
  unfold itemError
  rcases h with hv | hc
  · exact ⟨⟨"validation", e.message, some (errors e)⟩, by rw [if_pos hv]⟩
  · split
    · exact ⟨_, rfl⟩
    · split
      · exact ⟨_, rfl⟩
      · exact ⟨⟨"service", e.message, none⟩, by simp [hc]⟩

/-- `_process_one` returns, unless it is cancelled. -/
lemma processOne_tryItem (errors : Exc → List (String × String)) (i : ℕ) (w : ItemWorld Client)
    (item : BatchDescribeItem conv) :
    (w.cancelled = true ∧ processOne errors i (tryItem rt cfg text w item) = .cancelled) ∨
      ∃ r, processOne errors i (tryItem rt cfg text w item) = .value r := by
  rcases @tryItem_cases _ _ rt cfg text w item with ⟨hcancelled, h⟩ | ⟨x, h⟩ | ⟨e, h, hcls⟩
  · exact .inl ⟨hcancelled, by rw [h]; rfl⟩
  · exact .inr ⟨_, by rw [h]; rfl⟩
  · obtain ⟨detail, hdetail⟩ := itemError_of_caught errors hcls
    exact .inr ⟨_, by rw [h]; simp only [processOne, hdetail]; rfl⟩

/-- The loop ends when each of its items does. -/
lemma processItems_cases {errors : Exc → List (String × String)} (shutdown : ℕ → Bool)
    {α : Type} {tried : ℕ → α → Ending DescribeResponse} {cancelled : ℕ → α → Prop}
    (hone : ∀ i item, (cancelled i item ∧ processOne errors i (tried i item) = .cancelled) ∨
      ∃ r, processOne errors i (tried i item) = .value r) (i : ℕ) (items : List α) :
    (∃ m item, items[m]? = some item ∧ cancelled (i + m) item ∧
        processItems errors shutdown tried i items = .cancelled) ∨
      ∃ rs, processItems errors shutdown tried i items = .value rs := by
  induction items generalizing i with
  | nil => exact .inr ⟨[], rfl⟩
  | cons item rest ih =>
    by_cases hshut : shutdown i = true
    · exact .inr ⟨(List.range' i (rest.length + 1)).map skipped, by simp [processItems, hshut]⟩
    · rcases hone i item with ⟨hcancelled, h⟩ | ⟨r, h⟩
      · exact .inl ⟨0, item, rfl, hcancelled, by simp [processItems, hshut, h]⟩
      · rcases ih (i + 1) with ⟨m, item', hitem, hcancelled, hrest⟩ | ⟨rs, hrest⟩
        · refine .inl ⟨m + 1, item', by simpa using hitem, ?_, ?_⟩
          · have hshift : i + (m + 1) = i + 1 + m := by omega
            rwa [hshift]
          · simp [processItems, hshut, h, hrest, Ending.map]
        · exact .inr ⟨r :: rs, by simp [processItems, hshut, h, hrest, Ending.map]⟩

/-- **A batch returns whatever its items do.**  Whatever exceptions the calls of the
services, of the cache and of the database raise for any of the items, `describe_batch` ends
with the gauge as it was before; and it returns one result for each item, processed unless
shutdown has begun before it, or it was cancelled while it processed an item. -/
theorem describeBatch_returns (rt : Runtime) (cfg : Settings) (text : List FieldError → String)
    (errors : Exc → List (String × String)) (shutdown : ℕ → Bool)
    (worlds : ℕ → BatchDescribeItem conv → ItemWorld Client) (items : List (BatchDescribeItem conv))
    (gauge : ℤ) :
    let tried := fun i item => tryItem rt cfg text (worlds i item) item
    let batch := describeBatch errors shutdown tried items gauge
    batch.1 = gauge ∧
      ((∃ m item, items[m]? = some item ∧ (worlds m item).cancelled = true ∧
          batch.2 = .cancelled) ∨
        ∃ response processed, batch.2 = .value response ∧
          Processed errors shutdown tried 0 items processed ∧
          response.results = processed ++ (List.range' processed.length
            (items.length - processed.length)).map skipped ∧
          response.results.length = items.length) := by
  intro tried batch
  have hgauge : batch.1 = gauge := by
    show gauge + 1 - 1 = gauge
    omega
  have hone : ∀ i item, ((worlds i item).cancelled = true ∧
      processOne errors i (tried i item) = .cancelled) ∨
        ∃ r, processOne errors i (tried i item) = .value r :=
    fun i item => processOne_tryItem errors i (worlds i item) item
  have hbatch : batch.2 = (processItems errors shutdown tried 0 items).map
      (batchResponse items.length) := rfl
  refine ⟨hgauge, ?_⟩
  rcases processItems_cases shutdown hone 0 items with
    ⟨m, item, hitem, hcancelled, hloop⟩ | ⟨rs, hloop⟩
  · rw [Nat.zero_add] at hcancelled
    exact .inl ⟨m, item, hitem, hcancelled, by rw [hbatch, hloop]; rfl⟩
  · right
    obtain ⟨processed, hprocessed, hrs⟩ := processItems_value hloop
    rw [Nat.zero_add] at hrs
    have hle := hprocessed.le
    have hlength : rs.length = items.length := by
      rw [hrs, List.length_append, List.length_map, List.length_range']
      omega
    exact ⟨batchResponse items.length rs, processed, by rw [hbatch, hloop]; rfl, hprocessed, hrs,
      hlength⟩

/-- An item for the image that `storedRequest` describes. -/
def storedItem : BatchDescribeItem ⟨fun _ => none, fun _ => true⟩ where
  toDescribeRequest := storedRequest
  accepted := ⟨.dict [("thumbnail", .str "https://example.com/image1.jpg"),
    ("coordinates", .ofFloats [.finite 127, .finite 37]), ("cog_image_id", .str "img-1")],
    by decide +kernel⟩

/-- All services fail, and so does the database. -/
def failingWorld : ItemWorld ℕ where
  calls := inOrder (fun _ => false) fun _ => Process.serverError
  db := refusedWorld
  cancelled := false

theorem describeBatch_returns_of_failingWorld :
    ∃ response, (describeBatch (fun _ => []) (fun _ => false)
        (fun _ => tryItem Process.plainRuntime .default (fun _ => "") failingWorld)
        [storedItem, storedItem] 0).2 = .value response ∧ response.results.length = 2 := by
  obtain ⟨-, ⟨m, item, -, hcancelled, -⟩ | ⟨response, processed, hvalue, -, -, hlength⟩⟩ :=
    describeBatch_returns Process.plainRuntime .default (fun _ => "") (fun _ => [])
      (fun _ => false) (fun _ _ => failingWorld) [storedItem, storedItem] 0
  · cases hcancelled
  · exact ⟨response, hvalue, hlength⟩

end ImageDescriptor
