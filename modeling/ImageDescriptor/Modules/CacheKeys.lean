/-
# The keys of the five modules

Five modules share one cache, and each puts its keys together from its name, colons and
texts that it does not escape.  The keys of two modules differ in their first letter.  Within
a module, the text of a rounded coordinate has no colon; and a search name may contain colons,
but the month behind it does not, since the validator lets nothing through that has one among
its first seven characters.  So a key stands for one question to the upstream, and an entry is
read only by those who would ask it.
-/
import ImageDescriptor.Api.Validation
import ImageDescriptor.Modules.CacheCoherence

namespace ImageDescriptor

open Lib

/-- A look into the cache: by one of the four modules, or by the describer. -/
inductive Lookup
  | module (call : ModuleCall)
  | describe (cogImageId : Option String)

/-- What is asked: the place or the land cover of a cell, an item, the description of an image,
or what is known of a name in a month.  The cells are numbered by their rounded coordinates. -/
inductive Query
  | place (lon lat : ℤ)
  | landCover (lon lat : ℤ)
  | item (stacId : String)
  | image (cogImageId : String)
  | search (name month : String)
deriving DecidableEq

namespace Lookup

/-- The key under which the cache is read; without an id there is no read. -/
def key : Lookup → Option String
  | module call => call.cacheKey
  | describe cogImageId =>
    if nonEmpty cogImageId then some (Describer.cacheKey (cogImageId.getD "")) else none

def query : Lookup → Query
  | module (.geocode lon lat) =>
    .place (roundHalfEven (lon * 10 ^ 3)) (roundHalfEven (lat * 10 ^ 3))
  | module (.getLandCover lon lat) =>
    .landCover (roundHalfEven (lon * 10 ^ 2)) (roundHalfEven (lat * 10 ^ 2))
  | module (.getMissionMetadata stacId) => .item (stacId.getD "")
  | module (.researchContext placeName capturedAt region city) =>
    .search (ContextModule.searchName placeName region city) (ContextModule.month capturedAt)
  | describe cogImageId => .image (cogImageId.getD "")

/-- The request behind the look has been validated. -/
def Validated (conv : Conversions) : Lookup → Prop
  | module (.geocode lon lat) | module (.getLandCover lon lat) =>
    -180 ≤ lon ∧ lon ≤ 180 ∧ -90 ≤ lat ∧ lat ≤ 90
  | module (.researchContext _ capturedAt _ _) =>
    ∀ v, capturedAt = some v → checkCapturedAt conv v = .ok v
  | _ => True

end Lookup

/-! ### The month has no colon -/

lemma afterDigits_eq_some {n : ℕ} {s r : List Char} (h : afterDigits n s = some r) :
    ∃ ds, s = ds ++ r ∧ ds.length = n ∧ ∀ c ∈ ds, isDecimalDigit c = true := by
  unfold afterDigits at h
  split at h
  · rename_i hdigits
    cases h
    exact ⟨s.take n, (List.take_append_drop n s).symm, hdigits.1, List.all_eq_true.mp hdigits.2⟩
  · cases h

lemma afterChar_eq_some {c : Char} {s r : List Char} (h : afterChar c s = some r) : s = c :: r := by
  cases s with
  | nil => cases h
  | cons x s =>
    simp only [afterChar] at h
    split at h
    · rename_i hx
      cases h
      rw [hx]
    · cases h

/-- A text that matches the pattern begins with a year, a hyphen and a month. -/
lemma take_of_matchesIso8601 {v : String} (h : matchesIso8601 v = true) :
    7 ≤ v.toList.length ∧ ':' ∉ v.toList.take 7 := by
  unfold matchesIso8601 at h
  rcases hdate : afterDate v.toList with _ | rest
  · rw [hdate] at h
    cases h
  · simp only [afterDate, bind, Option.bind_eq_some_iff] at hdate
    obtain ⟨s₁, hyear, s₂, hhyphen, s₃, hmonth, -⟩ := hdate
    obtain ⟨year, hv, hyearLength, hyearDigits⟩ := afterDigits_eq_some hyear
    obtain ⟨month, hs₂, hmonthLength, hmonthDigits⟩ := afterDigits_eq_some hmonth
    rw [afterChar_eq_some hhyphen, hs₂] at hv
    have hcolon : isDecimalDigit ':' = false := by decide +kernel
    have hsplit : v.toList = (year ++ '-' :: month) ++ s₃ := by
      rw [hv, List.append_assoc, List.cons_append]
    have hlength : (year ++ '-' :: month).length = 7 := by
      rw [List.length_append, List.length_cons, hyearLength, hmonthLength]
    constructor
    · rw [hsplit, List.length_append, hlength]
      omega
    · rw [hsplit, ← hlength, List.take_left]
      intro hmem
      rcases List.mem_append.mp hmem with hmem | hmem
      · rw [hyearDigits _ hmem] at hcolon
        cases hcolon
      · rcases List.mem_cons.mp hmem with hmem | hmem
        · exact absurd hmem (by decide)
        · rw [hmonthDigits _ hmem] at hcolon
          cases hcolon

lemma colon_notMem_month {conv : Conversions} {capturedAt : Option String}
    (h : ∀ v, capturedAt = some v → checkCapturedAt conv v = .ok v) :
    ':' ∉ (ContextModule.month capturedAt).toList := by
  rcases capturedAt with _ | v
  · decide
  · have hmatches : matchesIso8601 v = true := by
      by_contra hno
      have hok := h v rfl
      rw [checkCapturedAt, if_pos (by simpa using hno)] at hok
      cases hok
    obtain ⟨hlength, hcolon⟩ := take_of_matchesIso8601 hmatches
    have hne : v ≠ "" := by
      rintro rfl
      exact absurd hlength (by decide)
    simp only [ContextModule.month, hne, if_false, hlength, if_true, String.toList_ofList]
    exact hcolon

/-! ### Equal keys -/

/-- The first letter of a key. -/
def Lookup.initial : Lookup → Char
  | module call => call.initial
  | describe _ => 'd'

lemma Lookup.head_key {l : Lookup} {key : String} (h : l.key = some key) :
    key.toList.head? = some l.initial := by
  cases l with
  | module call => exact ModuleCall.head_cacheKey h
  | describe cogImageId =>
    simp only [Lookup.key] at h
    split at h
    · obtain rfl := Option.some.inj h
      simp [Describer.cacheKey, Lookup.initial]
    · cases h

/-- Two rounded coordinates behind the name of a module. -/
lemma cell_inj {name : String} {lon lat lon' lat' : ℚ} {decimals : ℕ} (hpos : 0 < decimals)
    (h : name ++ reprRounded lon decimals ++ ":" ++ reprRounded lat decimals =
      name ++ reprRounded lon' decimals ++ ":" ++ reprRounded lat' decimals) :
    roundHalfEven (lon * 10 ^ decimals) = roundHalfEven (lon' * 10 ^ decimals) ∧
      roundHalfEven (lat * 10 ^ decimals) = roundHalfEven (lat' * 10 ^ decimals) := by
  have hcolon : ∀ x : ℚ, ':' ∉ (reprRounded x decimals).toList := fun x =>
    notMem_reprRounded (by decide) (by decide) (by decide) x decimals
  have htext := congrArg String.toList h
  simp only [String.toList_append, List.append_assoc] at htext
  obtain ⟨hlon, hlat⟩ :=
    cut_at_first (hcolon lon) (hcolon lon') (List.append_cancel_left htext)
  exact ⟨reprRounded_inj hpos (String.toList_inj.mp hlon),
    reprRounded_inj hpos (String.toList_inj.mp hlat)⟩

/-- A name and a month without a colon. -/
lemma search_inj {name name' month month' : String} (hmonth : ':' ∉ month.toList)
    (hmonth' : ':' ∉ month'.toList)
    (h : ContextModule.cacheKey name month = ContextModule.cacheKey name' month') :
    name = name' ∧ month = month' := by
  have htext := congrArg String.toList h
  simp only [ContextModule.cacheKey, String.toList_append, List.append_assoc] at htext
  obtain ⟨hname, hmonths⟩ := cut_at_last hmonth hmonth' (List.append_cancel_left htext)
  exact ⟨String.toList_inj.mp hname, String.toList_inj.mp hmonths⟩

lemma append_left_inj {a b b' : String} (h : a ++ b = a ++ b') : b = b' := by
  have htext := congrArg String.toList h
  simp only [String.toList_append] at htext
  exact String.toList_inj.mp (List.append_cancel_left htext)

/-- Two calls of one module with one key. -/
lemma ModuleCall.query_eq {conv : Conversions} {call call' : ModuleCall} {key : String}
    (hl : (Lookup.module call).Validated conv) (hl' : (Lookup.module call').Validated conv)
    (h : call.cacheKey = some key) (h' : call'.cacheKey = some key)
    (hinitial : call.initial = call'.initial) :
    (Lookup.module call).query = (Lookup.module call').query := by
  have hkeys : call.cacheKey = call'.cacheKey := h.trans h'.symm
  cases call with
  | geocode lon lat =>
    cases call' with
    | geocode lon' lat' =>
      obtain ⟨hlon, hlat⟩ := cell_inj (by decide) (Option.some.inj hkeys)
      exact congrArg₂ Query.place hlon hlat
    | _ => cases hinitial
  | getLandCover lon lat =>
    cases call' with
    | getLandCover lon' lat' =>
      obtain ⟨hlon, hlat⟩ := cell_inj (by decide) (Option.some.inj hkeys)
      exact congrArg₂ Query.landCover hlon hlat
    | _ => cases hinitial
  | getMissionMetadata stacId =>
    cases call' with
    | getMissionMetadata stacId' =>
      simp only [cacheKey] at h hkeys
      split at h
      · rename_i hid
        rw [if_pos hid] at hkeys
        split at hkeys
        · exact congrArg Query.item (append_left_inj (Option.some.inj hkeys))
        · cases hkeys
      · cases h
    | _ => cases hinitial
  | researchContext placeName capturedAt region city =>
    cases call' with
    | researchContext placeName' capturedAt' region' city' =>
      obtain ⟨hname, hmonth⟩ := search_inj (colon_notMem_month hl) (colon_notMem_month hl')
        (Option.some.inj hkeys)
      exact congrArg₂ Query.search hname hmonth
    | _ => cases hinitial

lemma describe_query_eq {id id' : Option String} {key : String}
    (h : (Lookup.describe id).key = some key) (h' : (Lookup.describe id').key = some key) :
    (Lookup.describe id).query = (Lookup.describe id').query := by
  simp only [Lookup.key] at h h'
  split at h
  · split at h'
    · exact congrArg Query.image (append_left_inj (Option.some.inj (h.trans h'.symm)))
    · cases h'
  · cases h

/-- **A key stands for one question.** -/
lemma query_eq_of_key_eq {conv : Conversions} {l l' : Lookup} {key : String}
    (hl : l.Validated conv) (hl' : l'.Validated conv) (h : l.key = some key)
    (h' : l'.key = some key) : l.query = l'.query := by
  have hinitial : l.initial = l'.initial := by
    have hhead := Lookup.head_key h
    rw [Lookup.head_key h', Option.some.injEq] at hhead
    exact hhead.symm
  cases l with
  | module call =>
    cases l' with
    | module call' => exact ModuleCall.query_eq hl hl' h h' hinitial
    | describe id' => cases call <;> cases hinitial
  | describe id =>
    cases l' with
    | module call' => cases call' <;> cases hinitial
    | describe id' => exact describe_query_eq h h'

/-! ### Who has written an entry -/

/-- The process, and for every key the look of the call that has written its row last. -/
structure WrittenCache where
  calls : CachedCalls
  writer : String → Option Lookup

/-- The look of a call that is under way. -/
def CallPhase.lookup : CallPhase → Option Lookup
  | .reading call _ | .fetching call | .writing call .. => some (.module call)
  | .describing cogImageId _ => some (.describe (some cogImageId))
  | .cancelled was => was.lookup
  | _ => none

namespace WrittenCache

variable (lax : LaxMode) (cfg : Settings) (conv : Conversions)

def initial : WrittenCache := ⟨.initial, fun _ => none⟩

/-- The call whose row an event writes, and the key of the row: its INSERT is carried out,
whatever becomes of its commit, and also when the call has been cancelled. -/
def writes (s : CachedCalls) (e : CacheEvent) : Option (Lookup × String) :=
  match e.action with
  | .resume task none =>
    match s.calls task with
    | some q =>
      match q.inStore with
      | some (.inserting key _) => q.lookup.map fun l => (l, key)
      | _ => none
    | none => none
  | _ => none

/-- The record with a row that is written. -/
def record (writer : String → Option Lookup) : Option (Lookup × String) → String → Option Lookup
  | some (l, key) => Function.update writer key (some l)
  | none => writer

def step (s : WrittenCache) (e : CacheEvent) : Option WrittenCache :=
  (s.calls.step lax cfg e).map fun calls => ⟨calls, record s.writer (writes s.calls e)⟩

/-- The requests behind the calls of an event are validated, and the describer only looks for
an id that it was given. -/
def ValidatedEvent (e : CacheEvent) : Prop :=
  match e.action with
  | .begin _ call => (Lookup.module call).Validated conv
  | .describerGet _ cogImageId | .describerSet _ cogImageId _ => cogImageId ≠ ""
  | _ => True

/-- What a look finds was written by a call that has asked the same. -/
def ReadsOwn (s : WrittenCache) : Prop :=
  ∀ (l : Lookup) (key : String) (t : ℚ) (faults : CacheStore.GetFaults) (v : Json),
    l.Validated conv → l.key = some key → (s.calls.store.get t key faults).2 = .ok v →
      v ≠ .null → ∃ w, s.writer key = some w ∧ w.query = l.query

/-- Every row was written by a call with its key. -/
def Signed (table : Table String CacheRow) (writer : String → Option Lookup) : Prop :=
  ∀ key row, table.lookup key = some row →
    ∃ w : Lookup, writer key = some w ∧ w.Validated conv ∧ w.key = some key

/-- The request behind a call is validated. -/
def ValidatedPhase : CallPhase → Prop
  | .reading call _ | .fetching call | .writing call .. => (Lookup.module call).Validated conv
  | .describing cogImageId _ => cogImageId ≠ ""
  | .cancelled was => ValidatedPhase was
  | _ => True

/-- The invariant of the process. -/
structure Recorded (lax : LaxMode) (conv : Conversions) (s : WrittenCache) : Prop where
  signed : Signed conv s.calls.store.table s.writer
  sound : CachedCalls.AllSound lax s.calls
  validated : ∀ task q, s.calls.calls task = some q → ValidatedPhase conv q

variable {lax cfg conv} {s s' : WrittenCache} {e : CacheEvent}

/-- A call that touches the row of a key is the look of a validated request with that key. -/
lemma lookup_of_validated {q : CallPhase} {p : StorePhase} {key : String}
    (hq : ValidatedPhase conv q) (hp : q.inStore = some p) (hkey : q.key = some key) :
    ∃ l, q.lookup = some l ∧ l.Validated conv ∧ l.key = some key := by
  induction q with
  | reading call | writing call => exact ⟨.module call, rfl, hq, hkey⟩
  | describing cogImageId =>
    have hid : cogImageId ≠ "" := hq
    refine ⟨.describe (some cogImageId), rfl, trivial, ?_⟩
    rw [← hkey]
    simp [Lookup.key, CallPhase.key, nonEmpty, hid]
  | cancelled was ih => exact ih hq hp hkey
  | fetching | ended | gone => cases hp

lemma validatedPhase_next {q : CallPhase} {p p' : StorePhase} (hq : ValidatedPhase conv q)
    (hp : q.inStore = some p) : ValidatedPhase conv (CachedCalls.next lax q p') := by
  cases q with
  | reading call =>
    rcases p' with _ | _ | _ | _ | v | _ | _ | _ | _
    case returned =>
      rcases CachedCalls.afterGet_cases lax call v with ⟨result, hv⟩ | hv
      · simp [CachedCalls.next, hv, ValidatedPhase]
      · rw [CachedCalls.next, hv]
        exact hq
    all_goals exact hq
  | writing call =>
    rcases p' with _ | _ | _ | _ | (x | v) | _ | _ | _ | _
    case returned.error | stored => trivial
    all_goals exact hq
  | describing => exact hq
  | cancelled => trivial
  | fetching | ended | gone => cases hp

/-- The call that writes a row. -/
lemma writes_eq {q : CallPhase} {l : Lookup} {row : CacheRow} {key : String} {t : ℚ} {task : ℕ}
    (hcall : s.calls.calls task = some q) (hp : q.inStore = some (.inserting key row))
    (hl : q.lookup = some l) : writes s.calls ⟨t, .resume task none⟩ = some (l, key) := by
  simp only [writes, hcall, hp, hl, Option.map_some]

/-- No other statement writes one. -/
lemma writes_eq_none {q : CallPhase} {p : StorePhase} {t : ℚ} {task : ℕ} {fault : Option Exc}
    (hcall : s.calls.calls task = some q) (hp : q.inStore = some p)
    (hother : ∀ key row, fault = none → p ≠ .inserting key row) :
    writes s.calls ⟨t, .resume task fault⟩ = none := by
  rcases fault with _ | x
  · simp only [writes, hcall, hp]
    split
    · rename_i key row heq
      exact absurd (Option.some.inj heq) (hother key row rfl)
    · rfl
  · rfl

/-- A row that is written is signed by the call that writes it. -/
lemma Signed.insert {table : Table String CacheRow} {writer : String → Option Lookup} {l : Lookup}
    {key : String} {row : CacheRow} (h : Signed conv table writer) (hl : l.Validated conv)
    (hkey : l.key = some key) :
    Signed conv (table.insert key row) (record writer (some (l, key))) := by
  intro k row' hrow
  by_cases hk : k = key
  · subst hk
    exact ⟨l, Function.update_self .., hl, hkey⟩
  · rw [AList.lookup_insert_ne hk] at hrow
    obtain ⟨w, hw, hvalid, hwkey⟩ := h k row' hrow
    exact ⟨w, by rw [record, Function.update_of_ne hk, hw], hvalid, hwkey⟩

lemma signed_step (hs : Recorded lax conv s) (h : step lax cfg s e = some s') :
    Signed conv s'.calls.store.table s'.writer := by
  obtain ⟨calls, hcalls, rfl⟩ := Option.map_eq_some_iff.mp h
  obtain ⟨t, action⟩ := e
  cases (CachedCalls.moves_of_step hcalls).2 with
  | begin | describerGet | describerSet | fetched | cancel => exact hs.signed
  | cleanup => exact fun k row hrow => hs.signed k row (CacheStore.lookup_cleanup_subset hrow)
  | @resume task fault q p r hcall hp hmay hr =>
    show Signed conv r.1.table (record s.writer (writes s.calls ⟨t, .resume task fault⟩))
    by_cases hins : ∃ key row, fault = none ∧ p = .inserting key row
    · obtain ⟨key, row, rfl, rfl⟩ := hins
      obtain ⟨l, hl, hvalid, hkey⟩ := lookup_of_validated (hs.validated task q hcall) hp
        (CachedCalls.key_of_sound (hs.sound task q hcall) hp rfl)
      rw [writes_eq hcall hp hl]
      cases hr
      exact hs.signed.insert hvalid hkey
    · -- no row is written
      rw [writes_eq_none hcall hp fun key row hnone heq => hins ⟨key, row, hnone, heq⟩]
      intro k row hrow
      refine hs.signed k row ?_
      rcases StorePhase.table_of_resume hr with hsame | ⟨-, key, -, hdeleted⟩ |
        ⟨hnone, key, row', heq, -⟩
      · rwa [hsame] at hrow
      · rw [hdeleted] at hrow
        exact Table.lookup_of_lookup_erase hrow
      · exact absurd ⟨key, row', hnone, heq⟩ hins

lemma validated_step (hs : Recorded lax conv s) (he : ValidatedEvent conv e)
    (h : step lax cfg s e = some s') :
    ∀ task q, s'.calls.calls task = some q → ValidatedPhase conv q := by
  obtain ⟨calls, hcalls, rfl⟩ := Option.map_eq_some_iff.mp h
  obtain ⟨t, action⟩ := e
  intro task q hq
  rcases CachedCalls.turns_of_step hcalls task with ⟨-, hsame⟩ | ⟨q', hturns, hq'⟩
  · exact hs.validated task q (hsame ▸ hq)
  · obtain rfl := Option.some.inj (hq.symm.trans hq')
    cases hturns with
    | begin hnew =>
      unfold CachedCalls.begin
      split
      · trivial
      · exact he
    | describerGet | describerSet => exact he
    | resume hcall hp hmay hr => exact validatedPhase_next (hs.validated task _ hcall) hp
    | @fetched call fetched hcall =>
      have hvalid : ValidatedPhase conv (.fetching call) := hs.validated task _ hcall
      simp only [CachedCalls.afterFetched]
      split
      · trivial
      · exact hvalid
    | @cancel q hcall =>
      have hvalid : ValidatedPhase conv q := hs.validated task _ hcall
      exact hvalid

lemma recorded_step (hs : Recorded lax conv s) (he : ValidatedEvent conv e)
    (h : step lax cfg s e = some s') : Recorded lax conv s' where
  signed := signed_step hs h
  sound := by
    obtain ⟨calls, hcalls, rfl⟩ := Option.map_eq_some_iff.mp h
    exact CachedCalls.allSound_step hs.sound hcalls
  validated := validated_step hs he h

lemma recorded_initial : Recorded lax conv initial where
  signed key row hrow := by cases hrow
  sound := CachedCalls.allSound_opened .init
  validated task q hcall := by cases hcall

lemma readsOwn_of_recorded (hs : Recorded lax conv s) : ReadsOwn conv s := by
  intro l key t faults v hl hkey hget hv
  obtain ⟨row, hrow, -, -⟩ := CacheStore.get_ok hget hv
  obtain ⟨w, hw, hvalid, hwkey⟩ := hs.signed key row hrow
  exact ⟨w, hw, query_eq_of_key_eq hvalid hl hwkey hkey⟩

/-- **No two questions share a key**, and in every run in which the requests behind the calls
are validated, no look into the cache finds an entry of another module or for another
question. -/
theorem keys_separate (lax : LaxMode) (cfg : Settings) (conv : Conversions) :
    (∀ (l l' : Lookup) (key : String), l.Validated conv → l'.Validated conv →
        l.key = some key → l'.key = some key → l.query = l'.query) ∧
      ∀ (es : List CacheEvent) (s : WrittenCache),
        Run (step lax cfg) (fun _ e => ValidatedEvent conv e) initial es s → ReadsOwn conv s := by
  refine ⟨fun l l' key hl hl' h h' => query_eq_of_key_eq hl hl' h h', fun es s hrun => ?_⟩
  have hs : Recorded lax conv s :=
    hrun.invariant (fun _ _ _ hs he h => recorded_step hs he h) recorded_initial
  exact readsOwn_of_recorded hs

/-- Conversions that accept every date. -/
def lenient : Conversions := ⟨fun _ => none, fun _ => true⟩

/-- The context of a place whose name has a colon, at a time in a month. -/
def inJune (rest : String) : Lookup :=
  .module (.researchContext "37.57, 126.98" (some ("2025-06-" ++ rest)) "Seoul: Jongno" none)

/-- Two times of a month share a key, and the question behind it. -/
theorem keys_separate_in_june :
    (inJune "15").key = some "context:Seoul: Jongno:2025-06" ∧
      (inJune "15").query = (inJune "20T10:00:00Z").query := by
  have hkey : (inJune "15").key = some "context:Seoul: Jongno:2025-06" := by decide +kernel
  have hkey' : (inJune "20T10:00:00Z").key = some "context:Seoul: Jongno:2025-06" := by
    decide +kernel
  have hvalid : (inJune "15").Validated lenient := by
    intro v hv
    obtain rfl := Option.some.inj hv
    decide +kernel
  have hvalid' : (inJune "20T10:00:00Z").Validated lenient := by
    intro v hv
    obtain rfl := Option.some.inj hv
    decide +kernel
  exact ⟨hkey, (keys_separate ⟨fun _ => none, fun _ => none⟩ Settings.default lenient).1
    _ _ _ hvalid hvalid' hkey hkey'⟩

end WrittenCache

end ImageDescriptor
