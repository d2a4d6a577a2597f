/-
# Walking through the pages of the list

`list_descriptions` asks for one page at a time, sorted by `created_at`.  The database sorts
for every query anew, and two rows with the same `created_at` may come in another order each
time.  So a walk through all pages returns every matching row once, whatever the orders
are, exactly when rows with the same `created_at` stand on the same page.
-/
import Mathlib.Data.List.Nodup
import ImageDescriptor.Lib.Pages
import ImageDescriptor.Db.Calls

namespace ImageDescriptor.Db

open Lib

variable {Client κ : Type}

/-! ### The query -/

/-- A comparison of a column with a text. -/
inductive Comparison
  | gte
  | lte
  deriving DecidableEq

/-- A filter of a query. -/
structure Filter where
  comparison : Comparison
  column : String
  value : String
  deriving DecidableEq

/-- A query of the client library, as `table`, `select` and the methods behind them build it. -/
structure Select where
  table : String
  columns : String
  count : Option String
  filters : List Filter
  ordering : Option (String × Bool)
  bounds : Option (ℤ × ℤ)
  deriving DecidableEq

/-- `client.table(table).select(columns, count=count)`. -/
def select (table columns : String) (count : Option String) : Select where
  table := table
  columns := columns
  count := count
  filters := []
  ordering := none
  bounds := none

def Select.gte (query : Select) (column value : String) : Select :=
  { query with filters := query.filters ++ [⟨.gte, column, value⟩] }

def Select.lte (query : Select) (column value : String) : Select :=
  { query with filters := query.filters ++ [⟨.lte, column, value⟩] }

def Select.order (query : Select) (column : String) (desc : Bool) : Select :=
  { query with ordering := some (column, desc) }

def Select.range (query : Select) (first last : ℤ) : Select :=
  { query with bounds := some (first, last) }

/-- What `if text:` lets through: no text and an empty one are left out. -/
def truthy (text : Option String) : Option String := text.filter fun s => !s.isEmpty

/-- The query that `list_descriptions` builds. -/
def listQuery (offset limit : ℕ) (createdAfter createdBefore : Option String) : Select :=
  let query := select "image_descriptions" "*" (some "exact")
  let query := match truthy createdAfter with
    | some text => query.gte "created_at" text
    | none => query
  let query := match truthy createdBefore with
    | some text => query.lte "created_at" text
    | none => query
  (query.order "created_at" true).range offset (offset + limit - 1)

example : listQuery 20 10 (some "2025-01-15T00:00:00") (some "") =
    ⟨"image_descriptions", "*", some "exact", [⟨.gte, "created_at", "2025-01-15T00:00:00"⟩],
      some ("created_at", true), some (20, 29)⟩ := by decide +kernel

/-! ### The function -/

/-- What `list_descriptions` returns: `items` and `total`. -/
structure Page where
  items : List Row
  total : ℕ

def Reply.toPage : Reply Client → Page
  | .page items total => ⟨items, total⟩
  | _ => ⟨[], 0⟩

/-- What a call meets whose query depends on its arguments: the rest of a world, and a
database that answers every query. -/
structure Served (Client : Type) where
  world : World Client
  database : Select → Except Exc Answer

/-- The world of a call that sends the query. -/
def Served.sending (w : Served Client) (query : Select) : World Client :=
  { w.world with execute := w.database query }

/-- `list_descriptions` of the database module. -/
def listDescriptions (cfg : Settings) (offset limit : ℕ) (createdAfter createdBefore : Option String)
    (w : Served Client) : Ending Page :=
  (call cfg (.listDescriptions offset limit createdAfter createdBefore)
    (w.sending (listQuery offset limit createdAfter createdBefore))).map Reply.toPage

/-! ### The answers of the database -/

/-- The table `image_descriptions`.  The upserts of `save_description` leave no two rows
with the same `cog_image_id`. -/
structure Content where
  rows : List Row
  unique : (rows.map fun row => row.lookup "cog_image_id").Nodup

/-- How the database reads a column of a row, and a text that is compared with the column. -/
structure Reading (κ : Type) where
  column : String → Row → κ
  literal : String → String → κ

variable [LinearOrder κ]

/-- The row passes the filter. -/
def Reading.passes (d : Reading κ) (row : Row) (f : Filter) : Bool :=
  match f.comparison with
  | .gte => decide (d.literal f.column f.value ≤ d.column f.column row)
  | .lte => decide (d.column f.column row ≤ d.literal f.column f.value)

/-- The rows that pass all filters of a query. -/
def selected (d : Reading κ) (rows : List Row) (query : Select) : List Row :=
  rows.filter fun row => query.filters.all (d.passes row)

/-- The rows `xs` stand in `l` in an order that the query asks for.  Rows that are equal in the
column of the order may stand either way. -/
def Arranges (d : Reading κ) (ordering : Option (String × Bool)) (xs l : List Row) : Prop :=
  match ordering with
  | some (column, true) => Sorts (d.column column) xs l
  | some (column, false) => Sorts (fun row => OrderDual.toDual (d.column column row)) xs l
  | none => l.Perm xs

/-- `.range(first, last)`, both ends included. -/
def selectRange (first last : ℤ) (l : List Row) : List Row :=
  (l.drop first.toNat).take (last + 1 - first).toNat

/-- The rows within the bounds of a query. -/
def bounded (query : Select) (l : List Row) : List Row :=
  match query.bounds with
  | some (first, last) => selectRange first last l
  | none => l

/-- What the database answers to a query for all columns of the table: the rows that pass its
filters, in some order that it asks for, within its bounds, and their number when it asks for
the exact one. -/
structure AnswersSelect (d : Reading κ) (t : Content) (query : Select) (a : Answer) : Prop where
  data : ∃ l, Arranges d query.ordering (selected d t.rows query) l ∧ a.data = bounded query l
  count : query.count = some "exact" → a.count = some (selected d t.rows query).length

/-- A call gets a client, and the database answers every query for the table from `t`. -/
def Served.AnswersFrom (cfg : Settings) (d : Reading κ) (t : Content) (w : Served Client) : Prop :=
  ∀ query : Select, query.table = "image_descriptions" → query.columns = "*" →
    (w.sending query).failure cfg = none ∧
      ∃ a, w.database query = .ok a ∧ AnswersSelect d t query a

/-! ### The walk -/

/-- A row that a client asks for: its time of creation is not before `created_after` and not
after `created_before`, where these are given and not empty. -/
def keeps (d : Reading κ) (createdAfter createdBefore : Option String) (row : Row) : Bool :=
  (match createdAfter with
    | some text =>
      text.isEmpty || decide (d.literal "created_at" text ≤ d.column "created_at" row)
    | none => true) &&
  (match createdBefore with
    | some text =>
      text.isEmpty || decide (d.column "created_at" row ≤ d.literal "created_at" text)
    | none => true)

/-- The rows that a client asks for. -/
def matching (d : Reading κ) (t : Content) (createdAfter createdBefore : Option String) :
    List Row :=
  t.rows.filter (keeps d createdAfter createdBefore)

/-- The walk of a client from page number `k` on, which stops when `total` is reached. -/
inductive Walk (cfg : Settings) (limit : ℕ) (createdAfter createdBefore : Option String)
    (worlds : ℕ → Served Client) : ℕ → List Page → Prop
  | last {k : ℕ} {p : Page}
      (hpage : listDescriptions cfg (k * limit) limit createdAfter createdBefore (worlds k) =
        .value p)
      (htotal : p.total ≤ k * limit + limit) :
      Walk cfg limit createdAfter createdBefore worlds k [p]
  | next {k : ℕ} {p : Page} {ps : List Page}
      (hpage : listDescriptions cfg (k * limit) limit createdAfter createdBefore (worlds k) =
        .value p)
      (htotal : k * limit + limit < p.total)
      (hrest : Walk cfg limit createdAfter createdBefore worlds (k + 1) ps) :
      Walk cfg limit createdAfter createdBefore worlds k (p :: ps)

/-- The table is unchanged during the walk: its first page and every page that begins before
the last row meet a database that answers from it. -/
def Unchanged (cfg : Settings) (d : Reading κ) (t : Content) (limit : ℕ)
    (createdAfter createdBefore : Option String) (worlds : ℕ → Served Client) : Prop :=
  ∀ k, k = 0 ∨ k * limit < (matching d t createdAfter createdBefore).length →
    (worlds k).AnswersFrom cfg d t

/-- The walk ends and has returned every matching row once, on pages of at most `limit` rows
with the same total. -/
def WalkComplete (cfg : Settings) (d : Reading κ) (t : Content) (limit : ℕ)
    (createdAfter createdBefore : Option String) (worlds : ℕ → Served Client) : Prop :=
  ∃ pages, Walk cfg limit createdAfter createdBefore worlds 0 pages ∧
    (pages.flatMap Page.items).Perm (matching d t createdAfter createdBefore) ∧
    ∀ p ∈ pages, p.items.length ≤ limit ∧
      p.total = (matching d t createdAfter createdBefore).length

/-- The matching rows, the newest first. -/
def newestFirst (d : Reading κ) (t : Content) (createdAfter createdBefore : Option String) :
    List Row :=
  (matching d t createdAfter createdBefore).mergeSort fun x y =>
    decide (d.column "created_at" y ≤ d.column "created_at" x)

variable {cfg : Settings} {d : Reading κ} {t : Content} {limit : ℕ}
  {createdAfter createdBefore : Option String} {worlds : ℕ → Served Client}

lemma matching_nodup : (matching d t createdAfter createdBefore).Nodup :=
  (List.Nodup.of_map _ t.unique).filter _

lemma pairwise_mergeSort_key {ι : Type} [LinearOrder ι] (key : Row → ι) (xs : List Row) :
    (xs.mergeSort fun x y => decide (key y ≤ key x)).Pairwise fun x y => key y ≤ key x := by
  have hsorted : (xs.mergeSort fun x y => decide (key y ≤ key x)).Pairwise fun x y =>
      decide (key y ≤ key x) = true := by
    refine List.pairwise_mergeSort ?_ ?_ _
    · intro x y z hxy hyz
      simp only [decide_eq_true_eq] at hxy hyz ⊢
      exact hyz.trans hxy
    · intro x y
      simp only [Bool.or_eq_true, decide_eq_true_eq]
      exact le_total _ _
  exact hsorted.imp fun h => of_decide_eq_true h

lemma newestFirst_sorts :
    Sorts (d.column "created_at") (matching d t createdAfter createdBefore)
      (newestFirst d t createdAfter createdBefore) :=
  ⟨List.mergeSort_perm _ _, pairwise_mergeSort_key _ _⟩

/-- The inclusive range of `range` is a page. -/
lemma selectRange_eq_page (hlimit : 0 < limit) (k : ℕ) (l : List Row) :
    selectRange (k * limit : ℕ) ((k * limit : ℕ) + limit - 1) l = page limit k l := by
  have hlength : ((k * limit : ℕ) + limit - 1 + 1 - (k * limit : ℕ) : ℤ).toNat = limit := by omega
  rw [selectRange, hlength, page, Int.toNat_natCast]

/-! ### What the query of `list_descriptions` asks for -/

lemma listQuery_ordering (offset limit : ℕ) (createdAfter createdBefore : Option String) :
    (listQuery offset limit createdAfter createdBefore).ordering = some ("created_at", true) := rfl

lemma bounded_listQuery (hlimit : 0 < limit) (k : ℕ) (createdAfter createdBefore : Option String)
    (l : List Row) :
    bounded (listQuery (k * limit) limit createdAfter createdBefore) l = page limit k l :=
  selectRange_eq_page hlimit k l

lemma listQuery_table (offset limit : ℕ) (createdAfter createdBefore : Option String) :
    (listQuery offset limit createdAfter createdBefore).table = "image_descriptions" ∧
      (listQuery offset limit createdAfter createdBefore).columns = "*" ∧
      (listQuery offset limit createdAfter createdBefore).count = some "exact" := by
  rcases h : truthy createdAfter with _ | after <;> rcases h' : truthy createdBefore with _ | before
  all_goals
    simp only [listQuery, h, h']
    exact ⟨rfl, rfl, rfl⟩

lemma filters_listQuery (offset limit : ℕ) (createdAfter createdBefore : Option String) :
    (listQuery offset limit createdAfter createdBefore).filters =
      ((truthy createdAfter).map (Filter.mk .gte "created_at")).toList ++
        ((truthy createdBefore).map (Filter.mk .lte "created_at")).toList := by
  rcases h : truthy createdAfter with _ | after <;> rcases h' : truthy createdBefore with _ | before
  all_goals
    simp only [listQuery, h, h']
    rfl

/-- The filters of the query let through the rows that a client asks for. -/
lemma selected_listQuery (rows : List Row) (offset limit : ℕ) :
    selected d rows (listQuery offset limit createdAfter createdBefore) =
      rows.filter (keeps d createdAfter createdBefore) := by
  refine List.filter_congr fun row _ => ?_
  rw [filters_listQuery, List.all_append, keeps.eq_def]
  congr 1
  · rcases createdAfter with _ | text
    · rfl
    · cases htext : text.isEmpty <;> simp [truthy, Option.filter, htext, Reading.passes]
  · rcases createdBefore with _ | text
    · rfl
    · cases htext : text.isEmpty <;> simp [truthy, Option.filter, htext, Reading.passes]

/-- The rows that the query selects are those that a client asks for. -/
lemma selected_eq_matching (offset limit : ℕ) :
    selected d t.rows (listQuery offset limit createdAfter createdBefore) =
      matching d t createdAfter createdBefore :=
  selected_listQuery t.rows offset limit

lemma listDescriptions_of_answer {offset : ℕ} {w : Served Client} {a : Answer}
    (hanswered : (w.sending (listQuery offset limit createdAfter createdBefore)).failure cfg = none)
    (ha : w.database (listQuery offset limit createdAfter createdBefore) = .ok a) :
    listDescriptions cfg offset limit createdAfter createdBefore w =
      .value ⟨a.data, a.count.getD 0⟩ := by
  rw [listDescriptions, call_of_success _ hanswered ha]
  rfl

/-! ### The pages of a walk -/

/-- The number of pages of a walk: there is always a first one. -/
def pageCount (limit total : ℕ) : ℕ := (total - 1) / limit + 1

lemma le_pageCount_mul (hlimit : 0 < limit) (total : ℕ) : total ≤ pageCount limit total * limit := by
  have hlt : total - 1 < pageCount limit total * limit :=
    (Nat.div_lt_iff_lt_mul hlimit).mp (Nat.lt_succ_self _)
  omega

lemma lt_of_succ_lt_pageCount (hlimit : 0 < limit) {total k : ℕ} (hk : k + 1 < pageCount limit total) :
    k * limit + limit < total := by
  have hle : (k + 1) * limit ≤ total - 1 :=
    (Nat.le_div_iff_mul_le hlimit).mp (Nat.le_of_lt_succ hk)
  rw [Nat.succ_mul] at hle
  omega

/-- A walk returns one list of pages at most. -/
lemma Walk.unique {k : ℕ} {pages pages' : List Page}
    (h : Walk cfg limit createdAfter createdBefore worlds k pages)
    (h' : Walk cfg limit createdAfter createdBefore worlds k pages') : pages = pages' := by
  induction h generalizing pages' with
  | last hpage htotal =>
    cases h' with
    | last hpage' _ =>
      rw [hpage, Ending.value.injEq] at hpage'
      rw [hpage']
    | next hpage' htotal' _ =>
      rw [hpage, Ending.value.injEq] at hpage'
      rw [hpage'] at htotal
      exact absurd htotal' (Nat.not_lt.mpr htotal)
  | next hpage htotal _ ih =>
    cases h' with
    | last hpage' htotal' =>
      rw [hpage, Ending.value.injEq] at hpage'
      rw [hpage'] at htotal
      exact absurd htotal (Nat.not_lt.mpr htotal')
    | next hpage' _ hrest' =>
      rw [hpage, Ending.value.injEq] at hpage'
      rw [hpage', ih hrest']

/-- The pages that are cut out of the orders `orders`. -/
def pagesOf (limit total : ℕ) (orders : ℕ → List Row) (k : ℕ) : Page := ⟨page limit k (orders k), total⟩

/-- A walk over an unchanged table reads its pages one after the other. -/
lemma walk_of_pages (hlimit : 0 < limit) {total : ℕ} {orders : ℕ → List Row}
    (hpages : ∀ k < pageCount limit total,
      listDescriptions cfg (k * limit) limit createdAfter createdBefore (worlds k) =
        .value (pagesOf limit total orders k)) (more : ℕ) {k : ℕ}
    (hk : k + more + 1 = pageCount limit total) :
    Walk cfg limit createdAfter createdBefore worlds k
      ((List.range' k (more + 1)).map (pagesOf limit total orders)) := by
  induction more generalizing k with
  | zero =>
    refine Walk.last (hpages k (by omega)) ?_
    have hle := le_pageCount_mul hlimit total
    rwa [← hk, Nat.add_zero, Nat.succ_mul] at hle
  | succ more ih =>
    have hlt : k + 1 < pageCount limit total := by omega
    refine Walk.next (hpages k (by omega)) ?_ (ih (by omega))
    exact lt_of_succ_lt_pageCount hlimit hlt

/-- The whole walk. -/
lemma walk_all (hlimit : 0 < limit) {total : ℕ} {orders : ℕ → List Row}
    (hpages : ∀ k < pageCount limit total,
      listDescriptions cfg (k * limit) limit createdAfter createdBefore (worlds k) =
        .value (pagesOf limit total orders k)) :
    Walk cfg limit createdAfter createdBefore worlds 0
      ((List.range' 0 (pageCount limit total)).map (pagesOf limit total orders)) :=
  walk_of_pages hlimit hpages ((total - 1) / limit) (by rw [pageCount, Nat.zero_add])

lemma flatMap_pagesOf (limit total : ℕ) (orders : ℕ → List Row) :
    ((List.range' 0 (pageCount limit total)).map (pagesOf limit total orders)).flatMap Page.items =
      firstPages limit (pageCount limit total) orders := by
  rw [List.flatMap_map, ← List.range_eq_range', firstPages]
  rfl

/-- Answers from an unchanged table are pages of sorted orders. -/
lemma Unchanged.orders (hlimit : 0 < limit)
    (h : Unchanged cfg d t limit createdAfter createdBefore worlds) :
    ∃ orders : ℕ → List Row,
      (∀ k, Sorts (d.column "created_at") (matching d t createdAfter createdBefore) (orders k)) ∧
      ∀ k < pageCount limit (matching d t createdAfter createdBefore).length,
        listDescriptions cfg (k * limit) limit createdAfter createdBefore (worlds k) =
          .value (pagesOf limit (matching d t createdAfter createdBefore).length orders k) := by
  have hpage : ∀ k, ∃ l,
      Sorts (d.column "created_at") (matching d t createdAfter createdBefore) l ∧
      (k < pageCount limit (matching d t createdAfter createdBefore).length →
        listDescriptions cfg (k * limit) limit createdAfter createdBefore (worlds k) =
          .value ⟨page limit k l, (matching d t createdAfter createdBefore).length⟩) := by
    intro k
    by_cases hk : k < pageCount limit (matching d t createdAfter createdBefore).length
    · have hasked : k = 0 ∨ k * limit < (matching d t createdAfter createdBefore).length := by
        rcases k with _ | k
        · exact .inl rfl
        · have hlt := lt_of_succ_lt_pageCount hlimit hk
          exact .inr (by rwa [Nat.succ_mul])
      obtain ⟨htable, hcolumns, hexact⟩ :=
        listQuery_table (k * limit) limit createdAfter createdBefore
      obtain ⟨hanswered, a, ha, ⟨l, hl, hdata⟩, hcount⟩ := h k hasked _ htable hcolumns
      rw [selected_eq_matching] at hl hcount
      refine ⟨l, hl, fun _ => ?_⟩
      rw [listDescriptions_of_answer hanswered ha, hdata, hcount hexact, bounded_listQuery hlimit]
      rfl
    · exact ⟨_, newestFirst_sorts, fun hlt => absurd hlt hk⟩
  choose orders hsorts hpages using hpage
  exact ⟨orders, hsorts, hpages⟩

/-! ### A database with a stable sort -/

/-- Rows in an order that a query asks for, rows that are equal under it as they stood. -/
def arrange (d : Reading κ) (ordering : Option (String × Bool)) (xs : List Row) : List Row :=
  match ordering with
  | some (column, true) => xs.mergeSort fun x y => decide (d.column column y ≤ d.column column x)
  | some (column, false) => xs.mergeSort fun x y => decide (d.column column x ≤ d.column column y)
  | none => xs

/-- What a database answers that reads the rows in the order `heap`. -/
def serve (d : Reading κ) (heap : List Row) (query : Select) : Answer where
  data := bounded query (arrange d query.ordering (selected d heap query))
  count := if query.count = some "exact" then some (selected d heap query).length else none

lemma arranges_arrange (ordering : Option (String × Bool)) {xs ys : List Row} (h : xs.Perm ys) :
    Arranges d ordering ys (arrange d ordering xs) := by
  have hsorts : ∀ {ι : Type} [LinearOrder ι] (key : Row → ι),
      Sorts key ys (xs.mergeSort fun x y => decide (key y ≤ key x)) := by
    intro ι _ key
    exact ⟨(List.mergeSort_perm _ _).trans h, pairwise_mergeSort_key key xs⟩
  rcases ordering with _ | ⟨column, _ | _⟩
  · exact h
  · exact hsorts fun row => OrderDual.toDual (d.column column row)
  · exact hsorts (d.column column)

lemma serve_answers {heap : List Row} (h : heap.Perm t.rows) (query : Select) :
    AnswersSelect d t query (serve d heap query) := by
  have hperm : (selected d heap query).Perm (selected d t.rows query) := h.filter _
  constructor
  · exact ⟨_, arranges_arrange _ hperm, rfl⟩
  · intro hexact
    rw [serve, if_pos hexact, hperm.length_eq]

/-- Calls that reach databases with the orders `heaps`. -/
def heapWorlds (c : Client) (d : Reading κ) (heaps : ℕ → List Row) (k : ℕ) : Served Client where
  world := World.answering c ⟨[], none⟩
  database query := .ok (serve d (heaps k) query)

lemma unchanged_of_heaps (c : Client) {heaps : ℕ → List Row} (h : ∀ k, (heaps k).Perm t.rows) :
    Unchanged cfg d t limit createdAfter createdBefore (heapWorlds c d heaps) :=
  fun k _ query _ _ => ⟨rfl, _, rfl, serve_answers (h k) query⟩

/-- The rows in an order that begins with those that a client asks for. -/
def heapOf (d : Reading κ) (t : Content) (createdAfter createdBefore : Option String)
    (l : List Row) : List Row :=
  l ++ t.rows.filter fun row => !keeps d createdAfter createdBefore row

lemma heapOf_perm {l : List Row} (h : l.Perm (matching d t createdAfter createdBefore)) :
    (heapOf d t createdAfter createdBefore l).Perm t.rows :=
  (h.append_right _).trans (List.filter_append_perm _ _)

/-- From such an order the database answers with the pages of a list that is sorted. -/
lemma serve_heapOf (hlimit : 0 < limit) {l : List Row}
    (h : Sorts (d.column "created_at") (matching d t createdAfter createdBefore) l) (k : ℕ) :
    serve d (heapOf d t createdAfter createdBefore l)
        (listQuery (k * limit) limit createdAfter createdBefore) =
      ⟨page limit k l, some (matching d t createdAfter createdBefore).length⟩ := by
  have hselected : selected d (heapOf d t createdAfter createdBefore l)
      (listQuery (k * limit) limit createdAfter createdBefore) = l := by
    have hkept : ∀ row ∈ l, keeps d createdAfter createdBefore row = true := by
      intro row hrow
      exact (List.mem_filter.mp (h.perm.mem_iff.mp hrow)).2
    rw [selected_listQuery, heapOf, List.filter_append, List.filter_eq_self.mpr hkept,
      List.filter_filter]
    simp
  have hsorted : arrange d (some ("created_at", true)) l = l :=
    List.mergeSort_of_pairwise (h.sorted.imp fun hle => decide_eq_true hle)
  obtain ⟨-, -, hexact⟩ := listQuery_table (k * limit) limit createdAfter createdBefore
  rw [serve, hselected, listQuery_ordering, hsorted, bounded_listQuery hlimit, if_pos hexact,
    h.perm.length_eq]

/-- With such orders the walk reads the pages of the lists. -/
lemma walk_heapOf (c : Client) (hlimit : 0 < limit) {orders : ℕ → List Row}
    (h : ∀ k, Sorts (d.column "created_at") (matching d t createdAfter createdBefore) (orders k)) :
    Walk cfg limit createdAfter createdBefore
      (heapWorlds c d fun k => heapOf d t createdAfter createdBefore (orders k)) 0
      ((List.range' 0 (pageCount limit (matching d t createdAfter createdBefore).length)).map
        (pagesOf limit (matching d t createdAfter createdBefore).length orders)) := by
  refine walk_all hlimit fun k _ => ?_
  have hanswer : (heapWorlds c d (fun k => heapOf d t createdAfter createdBefore (orders k))
      k).database (listQuery (k * limit) limit createdAfter createdBefore) =
        .ok ⟨page limit k (orders k), some (matching d t createdAfter createdBefore).length⟩ :=
    congrArg Except.ok (serve_heapOf hlimit (h k) k)
  exact listDescriptions_of_answer rfl hanswer

/-- **A walk through the list is complete, whatever orders the database chooses, exactly when
matching rows with the same `created_at` stand on the same page.** -/
theorem walkComplete_iff [Inhabited Client] (cfg : Settings) (d : Reading κ) (t : Content)
    (createdAfter createdBefore : Option String) {limit : ℕ} (hlimit : 0 < limit) :
    (∀ worlds : ℕ → Served Client, Unchanged cfg d t limit createdAfter createdBefore worlds →
      WalkComplete cfg d t limit createdAfter createdBefore worlds) ↔
    TiesShareAPage (d.column "created_at") limit (newestFirst d t createdAfter createdBefore) := by
  have hnodup : (matching d t createdAfter createdBefore).Nodup := matching_nodup
  rw [← newestFirst_sorts.forall_firstPages_perm_iff hnodup hlimit (le_pageCount_mul hlimit _)]
  constructor
  · intro hall orders horders
    have hunchanged : Unchanged cfg d t limit createdAfter createdBefore (heapWorlds
        (default : Client) d fun k => heapOf d t createdAfter createdBefore (orders k)) :=
      unchanged_of_heaps default fun k => heapOf_perm (horders k).perm
    obtain ⟨pages, hwalk, hperm, -⟩ := hall _ hunchanged
    rw [hwalk.unique (walk_heapOf default hlimit horders), flatMap_pagesOf] at hperm
    exact hperm
  · intro hall worlds hworlds
    obtain ⟨orders, horders, hpages⟩ := hworlds.orders hlimit
    refine ⟨_, walk_all hlimit hpages, ?_, fun p hp => ?_⟩
    · rw [flatMap_pagesOf]
      exact hall orders horders
    · obtain ⟨k, -, rfl⟩ := List.mem_map.mp hp
      exact ⟨List.length_take_le _ _, rfl⟩

lemma tiesShareAPage_of_nodup (h : ((matching d t createdAfter createdBefore).map (d.column "created_at")).Nodup)
    (limit : ℕ) : TiesShareAPage (d.column "created_at") limit (newestFirst d t createdAfter createdBefore) := by
  refine TiesShareAPage.of_nodup ?_ limit
  exact (newestFirst_sorts.perm.map (d.column "created_at")).nodup_iff.mpr h

/-- A row as it is stored. -/
def stored (cogImageId createdAt : String) : Row :=
  [("cog_image_id", .str cogImageId), ("created_at", .str createdAt)]

/-- The digits of a time, read as a number. -/
def digits (text : String) : ℕ :=
  text.toList.foldl (fun n c => if c.isDigit then 10 * n + (c.toNat - 48) else n) 0

/-- Times of one form and one zone are compared by their digits. -/
def byDigits : Reading ℕ where
  column name row := match row.lookup name with
    | some (.str text) => digits text
    | _ => 0
  literal _ := digits

/-- Two images of which the second was stored an hour after the first one. -/
def storedApart : Content where
  rows := [stored "img-1" "2025-01-15T09:00:00+00:00", stored "img-2" "2025-01-15T10:00:00+00:00"]
  unique := by simp [stored]

/-- Two images that were stored at the same time. -/
def storedTogether : Content where
  rows := [stored "img-1" "2025-01-15T09:00:00+00:00", stored "img-2" "2025-01-15T09:00:00+00:00"]
  unique := by simp [stored]

theorem walkComplete_when_stored_apart :
    WalkComplete Settings.default byDigits storedApart 1 none none
      (heapWorlds 0 byDigits fun _ => storedApart.rows) := by
  refine (walkComplete_iff Settings.default byDigits storedApart none none Nat.one_pos).mpr
    (tiesShareAPage_of_nodup (by decide +kernel) 1) _ ?_
  exact unchanged_of_heaps 0 fun _ => List.Perm.refl _

/-- The two rows come in another order for the second page than for the first one. -/
def changingOrders (k : ℕ) : List Row :=
  if k = 0 then storedTogether.rows else storedTogether.rows.reverse

lemma changingOrders_sorts (k : ℕ) :
    Sorts (byDigits.column "created_at") (matching byDigits storedTogether none none)
      (changingOrders k) := by
  have hsorted : storedTogether.rows.Pairwise fun x y =>
      byDigits.column "created_at" y ≤ byDigits.column "created_at" x := by decide +kernel
  have hreverse : storedTogether.rows.reverse.Pairwise fun x y =>
      byDigits.column "created_at" y ≤ byDigits.column "created_at" x := by decide +kernel
  have hall : matching byDigits storedTogether none none = storedTogether.rows := by
    simp [matching, keeps, storedTogether]
  rw [hall]
  rcases k with _ | k
  · exact ⟨List.Perm.refl _, hsorted⟩
  · exact ⟨List.reverse_perm _, hreverse⟩

/-- With a page for each row, the first row is then returned twice and the second one never. -/
theorem row_left_out_of_walk :
    ¬ ∀ worlds : ℕ → Served ℕ,
      Unchanged Settings.default byDigits storedTogether 1 none none worlds →
        WalkComplete Settings.default byDigits storedTogether 1 none none worlds := by
  intro hall
  have hunchanged : Unchanged Settings.default byDigits storedTogether 1 none none
      (heapWorlds 0 byDigits fun k => heapOf byDigits storedTogether none none (changingOrders k)) :=
    unchanged_of_heaps 0 fun k => heapOf_perm (changingOrders_sorts k).perm
  obtain ⟨pages, hwalk, hperm, -⟩ := hall _ hunchanged
  rw [hwalk.unique (walk_heapOf 0 Nat.one_pos changingOrders_sorts)] at hperm
  have hmatches : stored "img-2" "2025-01-15T09:00:00+00:00" ∈
      matching byDigits storedTogether none none := by
    simp [matching, keeps, storedTogether]
  have hreturned := hperm.mem_iff.mpr hmatches
  simp [pageCount, pagesOf, page, changingOrders, matching, keeps, storedTogether, stored,
    List.range'] at hreturned

end ImageDescriptor.Db
