/-
# Readings of the status

`GET /circuits` reads the status of every breaker, and needs no authentication.  To a caller
of the breaker a reading should not be observable.  But `get_status` asks the breaker as a
call does: when the cooldown has passed, the reading itself performs the reset that is meant
for a trial call, and forgets the failures that would re-open the breaker at once when a
call that is still under way fails.
-/
import ImageDescriptor.Utils.BreakerHistory

namespace ImageDescriptor.CircuitBreaker

open Lib

/-- A reading of the status: the clock, the name of the breaker, and the clock again. -/
structure StatusRead where
  time : ℚ
  name : String
  later : ℚ

def StatusRead.use (r : StatusRead) : Use := ⟨r.time, .getStatus r.name r.later⟩

/-- What the traffic sees of an operation: the answer of `is_open`, and where
`record_failure` and `record_success` leave `_open_until` and the gauge. -/
inductive Observation
  | answer (refused : Bool)
  | outcome (openUntil : ℚ) (gauge : ℕ)
  | status
deriving DecidableEq

def observe (cb : CircuitBreaker) (u : Use) : Observation :=
  match u.op with
  | .isOpen => .answer (cb.isOpen u.time).2
  | .getStatus .. => .status
  | .recordFailure | .recordSuccess => .outcome (cb.after u).openUntil (cb.after u).gauge

/-- What the traffic sees of a list of operations. -/
def seen : CircuitBreaker → List Use → List Observation := trace after observe

/-- The operations that come after an open breaker has been reset by a reading, instead of
by one of them, see the difference: before any of them resets the breaker itself, there is a
failure that would have re-opened it, or an `is_open` whose clock is behind that of the
reading. -/
def Disturbed (cb : CircuitBreaker) : List Use → Prop
  | [] => False
  | u :: us =>
    match u.op with
    | .isOpen => u.time < cb.openUntil
    | .getStatus .. => u.time < cb.openUntil ∧ Disturbed cb us
    | .recordFailure => 1 < cb.failureThreshold
    | .recordSuccess => False

/-! ### What readings do to a breaker -/

variable {cb : CircuitBreaker} {us : List Use} {threshold : ℕ} {cooldown : ℚ}

/-- An open breaker counts enough failures. -/
def CountsWhenOpen (cb : CircuitBreaker) : Prop :=
  cb.openUntil ≠ 0 → cb.failureThreshold ≤ cb.failureCount

lemma isOpen_halfOpened (now : ℚ) : cb.halfOpened.isOpen now = (cb.halfOpened, false) := by
  have hb : ¬ cb.halfOpened.Blocks now := fun h => h.1 rfl
  have hh : ¬ cb.halfOpened.HalfOpens now := fun h => h.1 rfl
  exact isOpen_of_closed hb hh

lemma countsWhenOpen_isOpen (hcb : cb.CountsWhenOpen) (now : ℚ) :
    (cb.isOpen now).1.CountsWhenOpen := by
  by_cases hh : cb.HalfOpens now
  · rw [isOpen_of_halfOpens hh]
    intro hset
    exact absurd rfl hset
  · rwa [isOpen_fst_of_not_halfOpens hh]

lemma countsWhenOpen_after (hcb : cb.CountsWhenOpen) (u : Use) : (cb.after u).CountsWhenOpen := by
  obtain ⟨now, op⟩ := u
  cases op with
  | isOpen => exact countsWhenOpen_isOpen hcb now
  | getStatus => exact countsWhenOpen_isOpen hcb now
  | recordFailure =>
    intro hset
    show (cb.recordFailure now).failureThreshold ≤ (cb.recordFailure now).failureCount
    rw [recordFailure_failureThreshold, recordFailure_failureCount]
    by_cases hreached : cb.failureThreshold ≤ cb.failureCount + 1
    · exact hreached
    · have hsame : (cb.recordFailure now).openUntil = cb.openUntil := by
        rw [recordFailure_of_below hreached]
      have hcount := hcb (hsame ▸ hset)
      omega
  | recordSuccess =>
    intro hset
    exact absurd rfl hset

lemma countsWhenOpen_foldl (hcb : cb.CountsWhenOpen) (us : List Use) :
    (us.foldl after cb).CountsWhenOpen := by
  induction us generalizing cb with
  | nil => exact hcb
  | cons u us ih => exact ih (countsWhenOpen_after hcb u)

/-- Readings reset a breaker when one of them comes after its cooldown, and do nothing
otherwise. -/
lemma foldl_reads (reads : List StatusRead) (cb : CircuitBreaker) :
    (reads.map StatusRead.use).foldl after cb =
      if ∃ r ∈ reads, cb.HalfOpens r.time then cb.halfOpened else cb := by
  induction reads generalizing cb with
  | nil => simp
  | cons r reads ih =>
    by_cases hh : cb.HalfOpens r.time
    · have hclosed : ¬ ∃ r ∈ reads, cb.halfOpened.HalfOpens r.time := by
        rintro ⟨r', -, hset, -⟩
        exact hset rfl
      have hr : cb.after r.use = cb.halfOpened := by
        simp [after, StatusRead.use, isOpen_of_halfOpens hh, halfOpened]
      rw [List.map_cons, List.foldl_cons, hr, ih, if_neg hclosed, if_pos ⟨r, by simp, hh⟩]
    · have hr : cb.after r.use = cb := isOpen_fst_of_not_halfOpens hh
      rw [List.map_cons, List.foldl_cons, hr, ih]
      simp [hh]

/-! ### Breakers that the traffic cannot tell apart -/

/-- The breakers are the same, or differ in their counters only, both of which have reached
the threshold. -/
def SameToTraffic (cb cb' : CircuitBreaker) : Prop :=
  cb = cb' ∨
    (cb.failureThreshold ≤ cb.failureCount ∧ cb.failureThreshold ≤ cb'.failureCount ∧
      cb' = { cb with failureCount := cb'.failureCount })

/-- One operation on two breakers that differ in counters above the threshold. -/
lemma after_of_counts {m n : ℕ} (hm : cb.failureThreshold ≤ m) (hn : cb.failureThreshold ≤ n)
    (u : Use) :
    observe { cb with failureCount := m } u = observe { cb with failureCount := n } u ∧
      SameToTraffic (after { cb with failureCount := m } u)
        (after { cb with failureCount := n } u) := by
  obtain ⟨now, op⟩ := u
  have hasked : (isOpen { cb with failureCount := m } now).2 =
        (isOpen { cb with failureCount := n } now).2 ∧
      SameToTraffic (isOpen { cb with failureCount := m } now).1
        (isOpen { cb with failureCount := n } now).1 := by
    by_cases hb : cb.Blocks now
    · have hb' : ∀ k, Blocks { cb with failureCount := k } now := fun _ => hb
      rw [isOpen_of_blocks (hb' m), isOpen_of_blocks (hb' n)]
      exact ⟨rfl, .inr ⟨hm, hn, rfl⟩⟩
    · by_cases hh : cb.HalfOpens now
      · have hh' : ∀ k, HalfOpens { cb with failureCount := k } now := fun _ => hh
        rw [isOpen_of_halfOpens (hh' m), isOpen_of_halfOpens (hh' n)]
        exact ⟨rfl, .inl rfl⟩
      · have hb' : ∀ k, ¬ Blocks { cb with failureCount := k } now := fun _ => hb
        have hh' : ∀ k, ¬ HalfOpens { cb with failureCount := k } now := fun _ => hh
        rw [isOpen_of_closed (hb' m) (hh' m), isOpen_of_closed (hb' n) (hh' n)]
        exact ⟨rfl, .inr ⟨hm, hn, rfl⟩⟩
  cases op with
  | isOpen => exact ⟨by simp only [observe, hasked.1], hasked.2⟩
  | getStatus => exact ⟨rfl, hasked.2⟩
  | recordFailure =>
    have hm' : cb.failureThreshold ≤ m + 1 := by omega
    have hn' : cb.failureThreshold ≤ n + 1 := by omega
    refine ⟨by simp [observe, after, recordFailure, hm', hn'], .inr ?_⟩
    simp [after, recordFailure, hm', hn']
  | recordSuccess => exact ⟨rfl, .inl rfl⟩

lemma seen_eq_of_same {cb' : CircuitBreaker} (h : SameToTraffic cb cb') (us : List Use) :
    seen cb us = seen cb' us := by
  refine trace_eq_of_related (R := SameToTraffic) ?_ ?_ h us
  · rintro cb cb' u (rfl | ⟨hm, hn, heq⟩)
    · rfl
    · rw [heq]
      exact (after_of_counts hm hn u).1
  · rintro cb cb' u (rfl | ⟨hm, hn, heq⟩)
    · exact .inl rfl
    · rw [heq]
      exact (after_of_counts hm hn u).2

/-! ### A reset by a reading and a reset by the traffic -/

/-- The operations that follow see no difference. -/
lemma seen_halfOpened (hcb : cb.CountsWhenOpen) (hset : cb.openUntil ≠ 0) (us : List Use)
    (h : ¬ cb.Disturbed us) : seen cb.halfOpened us = seen cb us := by
  induction us with
  | nil => rfl
  | cons u us ih =>
    obtain ⟨now, op⟩ := u
    have hreset : cb.openUntil ≤ now → (cb.isOpen now) = (cb.halfOpened, false) :=
      fun hle => isOpen_of_halfOpens ⟨hset, hle⟩
    cases op with
    | isOpen =>
      have hle : cb.openUntil ≤ now := by simpa [Disturbed] using h
      simp [seen, trace, observe, after, isOpen_halfOpened, hreset hle]
    | getStatus name later =>
      rcases lt_or_ge now cb.openUntil with hlt | hle
      · -- the status is read while the breaker is open: the breaker stays as it is
        have hrest : ¬ cb.Disturbed us := fun hd => h ⟨hlt, hd⟩
        have hstays : cb.isOpen now = (cb, true) := isOpen_of_blocks ⟨hset, hlt⟩
        have ih' : trace after observe cb.halfOpened us = trace after observe cb us := ih hrest
        simp [seen, trace, observe, after, isOpen_halfOpened, hstays, ih']
      · simp [seen, trace, observe, after, isOpen_halfOpened, hreset hle]
    | recordFailure =>
      have hone : cb.failureThreshold ≤ 1 := by simpa [Disturbed] using h
      have hcount : cb.failureThreshold ≤ cb.failureCount + 1 :=
        Nat.le_succ_of_le (hcb hset)
      have hleft : cb.halfOpened.recordFailure now =
          { cb with failureCount := 1, openUntil := now + cb.cooldownSec, gauge := 1 } :=
        recordFailure_of_reached hone
      have hright : cb.recordFailure now =
          { cb with
            failureCount := cb.failureCount + 1
            openUntil := now + cb.cooldownSec
            gauge := 1 } :=
        recordFailure_of_reached hcount
      have htail : seen (cb.halfOpened.recordFailure now) us = seen (cb.recordFailure now) us := by
        rw [hleft, hright]
        exact seen_eq_of_same (.inr ⟨hone, hcount, rfl⟩) us
      have hhead : observe cb.halfOpened ⟨now, .recordFailure⟩ =
          observe cb ⟨now, .recordFailure⟩ := by
        simp [observe, after, hleft, hright]
      exact congrArg₂ List.cons hhead htail
    | recordSuccess => rfl

/-- The operations that follow see a difference. -/
lemma seen_halfOpened_ne (hcb : cb.CountsWhenOpen) (hset : cb.openUntil ≠ 0) (us : List Use)
    (h : cb.Disturbed us) : seen cb.halfOpened us ≠ seen cb us := by
  induction us with
  | nil => exact absurd h (by simp [Disturbed])
  | cons u us ih =>
    obtain ⟨now, op⟩ := u
    intro hsame
    obtain ⟨hhead, htail⟩ := List.cons.inj hsame
    cases op with
    | isOpen =>
      have hlt : now < cb.openUntil := by simpa [Disturbed] using h
      simp [observe, isOpen_halfOpened, isOpen_of_blocks ⟨hset, hlt⟩] at hhead
    | getStatus name later =>
      obtain ⟨hlt, hrest⟩ : now < cb.openUntil ∧ cb.Disturbed us := by simpa [Disturbed] using h
      have hstays : cb.after ⟨now, .getStatus name later⟩ = cb := by
        simp [after, isOpen_of_blocks ⟨hset, hlt⟩]
      have hreset : cb.halfOpened.after ⟨now, .getStatus name later⟩ = cb.halfOpened := by
        simp [after, isOpen_halfOpened]
      rw [hstays, hreset] at htail
      exact ih hrest htail
    | recordFailure =>
      have hmany : ¬ cb.failureThreshold ≤ 1 := by
        have hlt : 1 < cb.failureThreshold := h
        omega
      have hcount : cb.failureThreshold ≤ cb.failureCount + 1 :=
        Nat.le_succ_of_le (hcb hset)
      simp [observe, after, halfOpened, recordFailure, hmany, hcount] at hhead
    | recordSuccess => exact absurd h (by simp [Disturbed])

/-- **Readings of the status at a point of a history are unobservable exactly when none of
them resets an open breaker, or the operations that follow do not see the difference.**  The
threshold, the cooldown, the history, the readings and their clocks are arbitrary. -/
theorem unobservable_iff (threshold : ℕ) (cooldown : ℚ) (before : List Use)
    (reads : List StatusRead) (later : List Use) :
    seen ((before ++ reads.map StatusRead.use).foldl after (made threshold cooldown)) later =
        seen (before.foldl after (made threshold cooldown)) later ↔
      ¬ ((∃ r ∈ reads, (before.foldl after (made threshold cooldown)).HalfOpens r.time) ∧
        (before.foldl after (made threshold cooldown)).Disturbed later) := by
  have hcb : (before.foldl after (made threshold cooldown)).CountsWhenOpen :=
    countsWhenOpen_foldl (fun hset => absurd rfl hset) before
  rw [List.foldl_append, foldl_reads]
  generalize before.foldl after (made threshold cooldown) = cb at hcb
  by_cases hreset : ∃ r ∈ reads, cb.HalfOpens r.time
  · have hset : cb.openUntil ≠ 0 := by
      obtain ⟨r, -, hr⟩ := hreset
      exact hr.1
    rw [if_pos hreset]
    constructor
    · rintro hsame ⟨-, hd⟩
      exact seen_halfOpened_ne hcb hset later hd hsame
    · intro h
      exact seen_halfOpened hcb hset later fun hd => h ⟨hreset, hd⟩
  · rw [if_neg hreset]
    exact iff_of_true rfl fun h => hreset h.1

/-- Five calls fail. -/
def fiveFailures : List Use := List.replicate 5 ⟨1, .recordFailure⟩

/-- A call that is still under way fails after the cooldown, and another one asks. -/
def lateFailure : List Use := [⟨33, .recordFailure⟩, ⟨34, .isOpen⟩]

/-- With a reading of the status at time 32 the call at time 34 is let through, without it
the call is refused. -/
theorem status_read_lets_call_through :
    seen (fiveFailures.foldl after (made 5 30)) lateFailure = [.outcome 63 1, .answer true] ∧
      seen ((fiveFailures ++ [StatusRead.mk 32 "geocoder" 32].map StatusRead.use).foldl after
        (made 5 30)) lateFailure = [.outcome 0 2, .answer false] := by
  decide +kernel

end ImageDescriptor.CircuitBreaker
