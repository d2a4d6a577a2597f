/-
# Rate limits and the headers of a refusal

Two pieces of code tell a client how long it has to wait.  `_rate_limit_handler` answers a
request that is over its limit with 429 and writes `Retry-After`;
`rate_limit_headers_middleware` then writes `X-RateLimit-Reset` on the same response, from the
statistics of the window.  The handler looks for the time on the exception, which carries
none, and writes a minute whatever the window is.
-/
import Mathlib.Algebra.Order.Floor.Ring
import Mathlib.Tactic.Linarith
import ImageDescriptor.Python.Text
import ImageDescriptor.Utils.Errors

namespace ImageDescriptor.App

/-- The granularity of a limit. -/
inductive Period
  | second
  | minute
  | hour
  | day
deriving DecidableEq

namespace Period

def all : List Period := [second, minute, hour, day]

def name : Period → String
  | second => "second"
  | minute => "minute"
  | hour => "hour"
  | day => "day"

/-- The length of a window in seconds. -/
def seconds : Period → ℕ
  | second => 1
  | minute => 60
  | hour => 3600
  | day => 86400

end Period

/-- `RateLimitItem`: how many requests a window admits. -/
structure RateLimit where
  amount : ℕ
  period : Period
deriving DecidableEq

/-- What `^\d+/(second|minute|hour|day)$` matches: the digits and the word.  The end of the
pattern also matches in front of a line feed that ends the text. -/
def matchRateLimit (text : String) : Option (List Char × Period) :=
  let digits := text.toList.takeWhile isDecimalDigit
  let rest := text.toList.dropWhile isDecimalDigit
  if digits = [] then none
  else (Period.all.find? fun p =>
    decide (rest = '/' :: p.name.toList) || decide (rest = '/' :: p.name.toList ++ ['\n'])).map
      (digits, ·)

/-- `_valid_rate_limit`. -/
def validRateLimit (fieldName v : String) : Except String String :=
  match matchRateLimit v with
  | some _ => .ok v
  | none =>
    .error (fieldName ++ " must match '<number>/<second|minute|hour|day>', got '" ++ v ++ "'")

/-- The limit that the rate limiter reads from a setting.  It reads no digits but those of
ASCII, and without a limit it refuses nothing. -/
def RateLimit.ofSetting (v : String) : Option RateLimit :=
  match matchRateLimit v with
  | some (digits, period) =>
    if digits.all Char.isDigit then some ⟨Nat.ofDigitChars 10 digits 0, period⟩ else none
  | none => none

/-- The attribute `retry_after` of an exception. -/
inductive RetryAfterRaw
  | datetime (t : ℚ)
  | number (x : ℚ)

/-- The exception that the handler is registered for, with the attributes that it looks
for. -/
structure RateLimitExceeded where
  retryAfter : Option RetryAfterRaw
  limit : Option RateLimit
  detail : Option String

/-- The exception that the rate limiter raises: it carries the limit and a text, and no
`retry_after`. -/
def RateLimitExceeded.ofLimit (limit : RateLimit) (detail : String) : RateLimitExceeded :=
  ⟨none, some limit, some detail⟩

/-- The headers about the limit; each number is written with `str`. -/
structure LimitHeaders where
  retryAfter : Option ℤ := none
  limit : Option ℕ := none
  remaining : Option ℕ := none
  reset : Option ℤ := none
deriving DecidableEq

structure LimitedResponse where
  statusCode : ℕ
  body : ProblemDetail
  headers : LimitHeaders
deriving DecidableEq

/-- The seconds that the handler writes, at a moment. -/
def retryAfterSeconds (now : ℚ) (exc : RateLimitExceeded) : ℤ :=
  match exc.retryAfter.getD (.number 60) with
  | .datetime t => max 1 (truncate (t - now))
  | .number x => truncate x

/-- `_rate_limit_handler`. -/
def rateLimitHandler (correlationId : Option String) (now : ℚ) (exc : RateLimitExceeded) :
    LimitedResponse where
  statusCode := 429
  body :=
    { type := "https://problems.cognito-descriptor.io/rate-limit-exceeded"
      title := "Rate Limit Exceeded"
      status := 429
      detail := exc.detail.getD "요청 횟수 제한을 초과했습니다"
      instanceId := correlationId }
  headers :=
    match exc.limit with
    | some limit =>
      { retryAfter := some (retryAfterSeconds now exc), limit := some limit.amount,
        remaining := some 0, reset := some (retryAfterSeconds now exc) }
    | none => { retryAfter := some (retryAfterSeconds now exc) }

/-- `get_window_stats`: when the window is reset, and how many requests it still admits. -/
structure WindowStats where
  resetTime : ℚ
  remaining : ℕ

/-- The exceptions that the middleware swallows. -/
def swallows (e : Exc) : Bool :=
  e.isinstance .valueError || e.isinstance .keyError || e.isinstance .attributeError ||
    e.isinstance .runtimeError

/-- The seconds that the middleware writes: `max(0, int(reset_at - time.time()) + 1)`. -/
def resetIn (now : ℚ) (stats : WindowStats) : ℤ := max 0 (truncate (stats.resetTime - now) + 1)

/-- `rate_limit_headers_middleware`, on the response of the application and on
`request.state.view_rate_limit`. -/
def rateLimitHeadersMiddleware (response : LimitedResponse) (viewRateLimit : Option RateLimit)
    (stats : Except Exc WindowStats) (now : ℚ) : Except Exc LimitedResponse :=
  match viewRateLimit with
  | none => .ok response
  | some limit =>
    match stats with
    | .ok st =>
      .ok { response with headers :=
        { response.headers with
          limit := some limit.amount
          remaining := some st.remaining
          reset := some (resetIn now st) } }
    | .error e => if swallows e then .ok response else .error e

/-- A request that is over the limit of a setting which `Settings` has accepted, and the
answer to it with 429. -/
structure Refusal where
  setting : String
  limit : RateLimit
  limit_eq : RateLimit.ofSetting setting = some limit
  detail : String
  correlationId : Option String
  /-- When the window that refuses the request has begun. -/
  windowStart : ℚ
  refusedAt : ℚ
  in_window : windowStart ≤ refusedAt ∧ refusedAt < windowStart + limit.period.seconds
  /-- When the middleware asks for the statistics, and what it is told. -/
  readAt : ℚ
  stats : Except Exc WindowStats
  /-- The answer is sent: the middleware does not raise. -/
  swallowed : ∀ e, stats = .error e → swallows e = true

namespace Refusal

/-- The seconds that are left of the window that has refused the request. -/
def left (r : Refusal) : ℚ := r.windowStart + r.limit.period.seconds - r.refusedAt

/-- The response of the application. -/
def handled (r : Refusal) : LimitedResponse :=
  rateLimitHandler r.correlationId r.refusedAt (.ofLimit r.limit r.detail)

/-- The response that the client gets. -/
def answer (r : Refusal) : Except Exc LimitedResponse :=
  rateLimitHeadersMiddleware r.handled (some r.limit) r.stats r.readAt

/-- A client that waits `Retry-After` is past the window, and the two headers agree within a
second. -/
def WaitIsEnough (r : Refusal) : Prop :=
  ∃ response retryAfter reset, r.answer = .ok response ∧
    response.headers.retryAfter = some retryAfter ∧ response.headers.reset = some reset ∧
    r.left ≤ retryAfter ∧ |retryAfter - reset| ≤ 1

end Refusal

/-! ### The settings -/

lemma validRateLimit_of_ofSetting {v : String} {limit : RateLimit}
    (h : RateLimit.ofSetting v = some limit) (fieldName : String) :
    validRateLimit fieldName v = .ok v := by
  unfold RateLimit.ofSetting at h
  unfold validRateLimit
  split at h
  · rename_i hmatch
    rw [hmatch]
  · cases h

lemma isDecimalDigit_of_isDigit {c : Char} (h : c.isDigit = true) : isDecimalDigit c = true := by
  have hrange : 0x30 ≤ c.toNat ∧ c.toNat < 0x30 + 10 := by
    have hzero : '0'.toNat = 0x30 := rfl
    have hnine : '9'.toNat = 0x39 := rfl
    have h' := Char.isDigit_iff_toNat.mp h
    omega
  rw [isDecimalDigit, List.any_eq_true]
  exact ⟨0x30, by simp [digitZeros], by simp [hrange]⟩

/-- Any number of requests in any of the periods can be set. -/
lemma ofSetting_text (limit : RateLimit) :
    RateLimit.ofSetting (toString limit.amount ++ "/" ++ limit.period.name) = some limit := by
  obtain ⟨amount, period⟩ := limit
  have hdigits : ∀ c ∈ Nat.toDigits 10 amount, c.isDigit = true := fun c hc =>
    Nat.isDigit_of_mem_toDigits (by decide) (by decide) hc
  have hdecimal : ∀ c ∈ Nat.toDigits 10 amount, isDecimalDigit c = true := fun c hc =>
    isDecimalDigit_of_isDigit (hdigits c hc)
  have hslash : isDecimalDigit '/' = false := by decide +kernel
  have htext : (toString amount ++ "/" ++ period.name).toList =
      Nat.toDigits 10 amount ++ '/' :: period.name.toList := by
    simp
  have hmatch : matchRateLimit (toString amount ++ "/" ++ period.name) =
      some (Nat.toDigits 10 amount, period) := by
    unfold matchRateLimit
    rw [htext, List.takeWhile_append_of_pos hdecimal, List.dropWhile_append_of_pos hdecimal,
      List.takeWhile_cons_of_neg (by simp [hslash]), List.dropWhile_cons_of_neg (by simp [hslash]),
      List.append_nil, if_neg Nat.toDigits_ne_nil]
    cases period <;> rfl
  have hall : (Nat.toDigits 10 amount).all Char.isDigit = true := List.all_eq_true.mpr hdigits
  rw [RateLimit.ofSetting, hmatch]
  simp only [hall, if_true, Nat.ofDigitChars_ten_toDigits]

/-! ### The two headers -/

lemma abs_sub_resetIn_le_one_iff (now : ℚ) (st : WindowStats) :
    |60 - resetIn now st| ≤ 1 ↔ 58 ≤ st.resetTime - now ∧ st.resetTime - now < 61 := by
  unfold resetIn truncate
  rw [abs_le]
  split
  · rename_i hnonneg
    have hfloor : 0 ≤ ⌊st.resetTime - now⌋ := Int.floor_nonneg.mpr hnonneg
    have hlow : 58 ≤ ⌊st.resetTime - now⌋ ↔ (58 : ℚ) ≤ st.resetTime - now := by
      rw [Int.le_floor]
      norm_num
    have hhigh : ⌊st.resetTime - now⌋ < 61 ↔ st.resetTime - now < 61 := by
      rw [Int.floor_lt]
      norm_num
    rw [← hlow, ← hhigh]
    omega
  · rename_i hneg
    rw [not_le] at hneg
    -- the window has been reset already
    have hceil : ⌈st.resetTime - now⌉ ≤ 0 := Int.ceil_le.mpr (by simpa using hneg.le)
    constructor
    · intro h
      omega
    · rintro ⟨hlow, -⟩
      linarith

/-- A refused client is told to wait for a minute. -/
lemma retryAfterSeconds_ofLimit (now : ℚ) (limit : RateLimit) (detail : String) :
    retryAfterSeconds now (.ofLimit limit detail) = 60 := by
  show truncate 60 = 60
  decide +kernel

namespace Refusal

/-- What the client is told, when the statistics could be read and when not. -/
lemma answer_headers (r : Refusal) :
    ∃ response, r.answer = .ok response ∧ response.headers.retryAfter = some 60 ∧
      ((∃ st, r.stats = .ok st ∧ response.headers.reset = some (resetIn r.readAt st)) ∨
        (∃ e, r.stats = .error e) ∧ response.headers.reset = some 60) := by
  have hwait := retryAfterSeconds_ofLimit r.refusedAt r.limit r.detail
  have hheaders : r.handled.headers =
      { retryAfter := some 60, limit := some r.limit.amount, remaining := some 0,
        reset := some 60 } := by
    rw [← hwait]
    rfl
  rcases hstats : r.stats with e | st
  · refine ⟨r.handled, ?_, by rw [hheaders], .inr ⟨⟨e, rfl⟩, by rw [hheaders]⟩⟩
    simp [answer, rateLimitHeadersMiddleware, hstats, r.swallowed e hstats]
  · refine ⟨{ r.handled with headers :=
      { r.handled.headers with
        limit := some r.limit.amount
        remaining := some st.remaining
        reset := some (resetIn r.readAt st) } }, ?_, ?_, .inl ⟨st, rfl, rfl⟩⟩
    · simp [answer, rateLimitHeadersMiddleware, hstats]
    · show r.handled.headers.retryAfter = some 60
      rw [hheaders]

/-- Where the statistics can be read, the wait is measured against the reset that they show. -/
lemma waitIsEnough_of_stats {r : Refusal} {st : WindowStats} (hst : r.stats = .ok st) :
    r.WaitIsEnough ↔
      r.left ≤ 60 ∧ 58 ≤ st.resetTime - r.readAt ∧ st.resetTime - r.readAt < 61 := by
  obtain ⟨response, hanswer, hretry, ⟨st', hst', hreset⟩ | ⟨⟨e, he⟩, -⟩⟩ := r.answer_headers
  · obtain rfl : st' = st := Except.ok.inj (hst'.symm.trans hst)
    rw [← abs_sub_resetIn_le_one_iff]
    constructor
    · rintro ⟨response', retryAfter, reset, hanswer', hretry', hreset', hleft, hagree⟩
      obtain rfl : response = response' := Except.ok.inj (hanswer.symm.trans hanswer')
      obtain rfl : 60 = retryAfter := Option.some.inj (hretry.symm.trans hretry')
      obtain rfl : resetIn r.readAt st' = reset := Option.some.inj (hreset.symm.trans hreset')
      exact ⟨by exact_mod_cast hleft, hagree⟩
    · rintro ⟨hleft, hagree⟩
      exact ⟨response, 60, _, hanswer, hretry, hreset, by exact_mod_cast hleft, hagree⟩
  · cases he.symm.trans hst

/-- Where they cannot, both headers are those of the handler. -/
lemma waitIsEnough_of_error {r : Refusal} {e : Exc} (he : r.stats = .error e) :
    r.WaitIsEnough ↔ r.left ≤ 60 := by
  obtain ⟨response, hanswer, hretry, ⟨st, hst, -⟩ | ⟨-, hreset⟩⟩ := r.answer_headers
  · cases hst.symm.trans he
  · constructor
    · rintro ⟨response', retryAfter, reset, hanswer', hretry', -, hleft, -⟩
      obtain rfl : response = response' := Except.ok.inj (hanswer.symm.trans hanswer')
      obtain rfl : 60 = retryAfter := Option.some.inj (hretry.symm.trans hretry')
      exact_mod_cast hleft
    · intro hleft
      exact ⟨response, 60, 60, hanswer, hretry, hreset, by exact_mod_cast hleft, by simp⟩

/-- **The wait is enough** exactly when no more than a minute is left of the window, and the
statistics, when they can be read, put its reset a minute ahead. -/
theorem waitIsEnough_iff (r : Refusal) :
    r.WaitIsEnough ↔ r.left ≤ 60 ∧
      ∀ st, r.stats = .ok st →
        58 ≤ st.resetTime - r.readAt ∧ st.resetTime - r.readAt < 61 := by
  rcases hstats : r.stats with e | st
  · rw [waitIsEnough_of_error hstats]
    exact (and_iff_left fun st hst => by cases hst).symm
  · rw [waitIsEnough_of_stats hstats]
    refine and_congr_right fun _ => ⟨fun h st' hst' => ?_, fun h => h st rfl⟩
    cases hst'
    exact h

/-- Where the statistics are about the window that has refused the request, they have to be
read while 58 seconds of it are left. -/
lemma waitIsEnough_of_own_window {r : Refusal} {st : WindowStats} (hst : r.stats = .ok st)
    (hown : st.resetTime = r.windowStart + r.limit.period.seconds)
    (hlater : r.refusedAt ≤ r.readAt) :
    r.WaitIsEnough ↔ r.left ≤ 60 ∧ r.readAt + 58 ≤ r.windowStart + r.limit.period.seconds := by
  rw [waitIsEnough_of_stats hst, hown]
  refine and_congr_right fun hleft => ⟨fun h => ?_, fun h => ?_⟩
  · linarith [h.1]
  · rw [left] at hleft
    exact ⟨by linarith, by linarith⟩

/-- The eleventh request of an hour, 100 seconds after the first one. -/
def hourly : Refusal where
  setting := "10/hour"
  limit := ⟨10, .hour⟩
  limit_eq := by decide +kernel
  detail := "10 per 1 hour"
  correlationId := none
  windowStart := 0
  refusedAt := 100
  in_window := by decide +kernel
  readAt := 100
  stats := .ok ⟨3600, 0⟩
  swallowed := fun _ h => by cases h

/-- Its client is told to come back after a minute, and that the window is reset after 3501
seconds. -/
theorem not_waitIsEnough_hourly : ¬ hourly.WaitIsEnough := by
  intro h
  exact absurd ((waitIsEnough_of_stats (r := hourly) rfl).mp h).1 (by decide +kernel)

end Refusal

end ImageDescriptor.App
