/-
# The identifiers of a request

`request_id_middleware` binds a request id and a correlation id to the log context of a
request and answers with both.  It takes them from the headers of the request when they are
well formed and makes new ones otherwise; it also binds the ids of a `traceparent` header.
Whatever the headers are, what is bound is well formed, and a service that is called with
the two ids of an answer binds the same ones.
-/
import ImageDescriptor.Python.Text
import ImageDescriptor.Python.Uuid

namespace ImageDescriptor

/-- The value of a header as the server hands it on: Latin-1, and no line break. -/
structure HeaderValue where
  chars : List Char
  latin1 : ∀ c ∈ chars, c.toNat < 256
  oneLine : '\n' ∉ chars

/-- The class `\w` of `re`, on Latin-1. -/
def isWord (c : Char) : Bool :=
  c.isAlphanum || decide (c = '_') ||
    decide (c.toNat ∈ [0xaa, 0xb2, 0xb3, 0xb5, 0xb9, 0xba, 0xbc, 0xbd, 0xbe]) ||
    (decide (0xc0 ≤ c.toNat) && decide (c.toNat ≤ 0xff) && decide (c.toNat ∉ [0xd7, 0xf7]))

/-- `[\w\-]`. -/
def isIdChar (c : Char) : Bool := isWord c || decide (c = '-')

/-- A match of `^[\w\-]{1,128}$`; the dollar sign also matches before a last line feed. -/
def matchesRequestId (s : List Char) : Bool :=
  let s := if s.getLast? = some '\n' then s.dropLast else s
  decide (1 ≤ s.length) && decide (s.length ≤ 128) && s.all isIdChar

/-- `_sanitize_request_id`. -/
def sanitizeRequestId (value : Option (List Char)) : Option (List Char) :=
  value.filter matchesRequestId

/-- `_sanitize_correlation_id`; an empty text is no UUID either. -/
def sanitizeCorrelationId (value : Option (List Char)) : Option (List Char) :=
  (value.bind UUID.ofHex).map UUID.str

/-- `generate_request_id`, from what `uuid4()` has returned. -/
def generateRequestId (u : UUID) : List Char := u.hex.take 16

/-- `generate_correlation_id`. -/
def generateCorrelationId (u : UUID) : List Char := u.str

/-- `[0-9a-f]`. -/
def isLowerHex (c : Char) : Bool :=
  (decide ('0' ≤ c) && decide (c ≤ '9')) || (decide ('a' ≤ c) && decide (c ≤ 'f'))

/-- `_TRACEPARENT_RE` on a text without spaces around it, by the second and the third group. -/
def traceparentGroups (s : List Char) : Option (List Char × List Char) :=
  let group (start len : ℕ) := (s.drop start).take len
  if s.length = 55 ∧ ([group 0 2, group 3 32, group 36 16, group 53 2].all fun g =>
      g.all isLowerHex) = true ∧ group 2 1 = ['-'] ∧ group 35 1 = ['-'] ∧ group 52 1 = ['-'] then
    some (group 3 32, group 36 16)
  else none

/-- `value.strip()`. -/
def stripSpaces (s : List Char) : List Char :=
  ((s.dropWhile isSpace).reverse.dropWhile isSpace).reverse

/-- `parse_traceparent`, as the trace id and the span id. -/
def parseTraceparent (value : Option (List Char)) : Option (List Char × List Char) :=
  value.bind fun value => traceparentGroups (stripSpaces value)

/-- What is bound to the log context of a request. -/
structure LogContext where
  requestId : List Char
  correlationId : List Char
  trace : Option (List Char × List Char)

/-- `request_id_middleware` up to `bind_contextvars`, with the headers that it reads and what the
two calls of `uuid4()` return. -/
def bindContext (requestId correlationId traceparent : Option HeaderValue) (u v : UUID) :
    LogContext where
  requestId := (sanitizeRequestId (requestId.map HeaderValue.chars)).getD (generateRequestId u)
  correlationId :=
    (sanitizeCorrelationId (correlationId.map HeaderValue.chars)).getD (generateCorrelationId v)
  trace := parseTraceparent (traceparent.map HeaderValue.chars)

/-! ### What is bound -/

/-- The ids of a log context are what they should be. -/
structure LogContext.WellFormed (ctx : LogContext) : Prop where
  requestId : 1 ≤ ctx.requestId.length ∧ ctx.requestId.length ≤ 128 ∧
    ∀ c ∈ ctx.requestId, isIdChar c = true
  correlationId : ∃ u : UUID, ctx.correlationId = u.str
  trace : ∀ t p, ctx.trace = some (t, p) → t.length = 32 ∧ p.length = 16 ∧
    (∀ c ∈ t, isLowerHex c = true) ∧ ∀ c ∈ p, isLowerHex c = true

/-- The letters and digits of ASCII by their codes. -/
lemma isAlphanum_iff {c : Char} : c.isAlphanum = true ↔
    (65 ≤ c.toNat ∧ c.toNat ≤ 90) ∨ (97 ≤ c.toNat ∧ c.toNat ≤ 122) ∨
      (48 ≤ c.toNat ∧ c.toNat ≤ 57) := by
  have hrange : ∀ a b : Char, (decide (c.val ≥ a.val) && decide (c.val ≤ b.val)) = true ↔
      a.toNat ≤ c.toNat ∧ c.toNat ≤ b.toNat := by
    intro a b
    rw [Bool.and_eq_true, decide_eq_true_eq, decide_eq_true_eq]
    rfl
  have hupper : c.isUpper = true ↔ 65 ≤ c.toNat ∧ c.toNat ≤ 90 := by
    show decide (c.val ≥ 'A'.val ∧ c.val ≤ 'Z'.val) = true ↔ _
    rw [Bool.decide_and, hrange 'A' 'Z']
    rfl
  have hlower : c.isLower = true ↔ 97 ≤ c.toNat ∧ c.toNat ≤ 122 := hrange 'a' 'z'
  have hdigit : c.isDigit = true ↔ 48 ≤ c.toNat ∧ c.toNat ≤ 57 := hrange '0' '9'
  show ((c.isUpper || c.isLower) || c.isDigit) = true ↔ _
  rw [Bool.or_eq_true, Bool.or_eq_true, hupper, hlower, hdigit, or_assoc]

lemma isIdChar_of_isHexDigit {c : Char} (h : IsHexDigit c) : isIdChar c = true := by
  have halpha : c.isAlphanum = true := by
    have hcode := toNat_of_isHexDigit h
    rw [isAlphanum_iff]
    omega
  simp [isIdChar, isWord, halpha]

lemma matchesRequestId_iff {s : List Char} (h : '\n' ∉ s) : matchesRequestId s = true ↔
    1 ≤ s.length ∧ s.length ≤ 128 ∧ ∀ c ∈ s, isIdChar c = true := by
  have hlast : s.getLast? ≠ some '\n' := fun hlast => h (List.mem_of_getLast? hlast)
  rw [matchesRequestId, if_neg hlast]
  simp only [Bool.and_eq_true, decide_eq_true_eq, List.all_eq_true, and_assoc]

lemma noBreak_of_idChars {s : List Char} (h : ∀ c ∈ s, isIdChar c = true) : '\n' ∉ s := by
  intro hmem
  exact absurd (h _ hmem) (by decide)

lemma generateRequestId_spec (u : UUID) : (generateRequestId u).length = 16 ∧
    ∀ c ∈ generateRequestId u, isIdChar c = true := by
  have hlength : u.hex.length = 32 := length_hexText 32 u.int
  refine ⟨by rw [generateRequestId, List.length_take, hlength]; rfl, fun c hc => ?_⟩
  exact isIdChar_of_isHexDigit (isHexDigit_hexText u.lt c (List.mem_of_mem_take hc))

/-- A request id that is bound is well formed: it was found so, or it was generated. -/
lemma requestId_bound (value : Option HeaderValue) (u : UUID) :
    1 ≤ ((sanitizeRequestId (value.map HeaderValue.chars)).getD (generateRequestId u)).length ∧
      ((sanitizeRequestId (value.map HeaderValue.chars)).getD (generateRequestId u)).length ≤ 128 ∧
      ∀ c ∈ (sanitizeRequestId (value.map HeaderValue.chars)).getD (generateRequestId u),
        isIdChar c = true := by
  obtain ⟨hlength, hchars⟩ := generateRequestId_spec u
  have hnew : 1 ≤ (generateRequestId u).length ∧ (generateRequestId u).length ≤ 128 ∧
      ∀ c ∈ generateRequestId u, isIdChar c = true :=
    ⟨by omega, by omega, hchars⟩
  cases value with
  | none => exact hnew
  | some value =>
    cases hmatch : matchesRequestId value.chars with
    | true =>
      have hkept : sanitizeRequestId (some value.chars) = some value.chars := by
        simp [sanitizeRequestId, hmatch]
      rw [Option.map_some, hkept]
      exact (matchesRequestId_iff value.oneLine).mp hmatch
    | false =>
      have hdropped : sanitizeRequestId (some value.chars) = none := by
        simp [sanitizeRequestId, hmatch]
      rw [Option.map_some, hdropped]
      exact hnew

/-- A correlation id is bound in its canonical spelling. -/
lemma correlationId_bound {s : List Char} {w : UUID} (h : UUID.ofHex s = some w) (v : UUID) :
    (sanitizeCorrelationId (some s)).getD (generateCorrelationId v) = w.str := by
  rw [sanitizeCorrelationId, Option.bind_some, h]
  rfl

/-- What is no UUID is replaced by a new one. -/
lemma correlationId_generated {s : List Char} (h : UUID.ofHex s = none) (v : UUID) :
    (sanitizeCorrelationId (some s)).getD (generateCorrelationId v) = v.str := by
  rw [sanitizeCorrelationId, Option.bind_some, h]
  rfl

lemma traceparentGroups_spec {s t p : List Char} (h : traceparentGroups s = some (t, p)) :
    t.length = 32 ∧ p.length = 16 ∧ (∀ c ∈ t, isLowerHex c = true) ∧
      ∀ c ∈ p, isLowerHex c = true := by
  unfold traceparentGroups at h
  simp only at h
  split at h
  · rename_i hmatch
    obtain ⟨hlength, hclass, -⟩ := hmatch
    rw [Option.some.injEq, Prod.mk.injEq] at h
    obtain ⟨rfl, rfl⟩ := h
    simp only [List.all_cons, List.all_nil, Bool.and_true, Bool.and_eq_true,
      List.all_eq_true] at hclass
    refine ⟨?_, ?_, hclass.2.1, hclass.2.2.1⟩
    · rw [List.length_take, List.length_drop]
      omega
    · rw [List.length_take, List.length_drop]
      omega
  · cases h

lemma wellFormed_bindContext (requestId correlationId traceparent : Option HeaderValue)
    (u v : UUID) : (bindContext requestId correlationId traceparent u v).WellFormed := by
  refine ⟨requestId_bound requestId u, ?_, fun t p h => ?_⟩
  · cases correlationId with
    | none => exact ⟨v, rfl⟩
    | some value =>
      cases hid : UUID.ofHex value.chars with
      | none => exact ⟨v, correlationId_generated hid v⟩
      | some w => exact ⟨w, correlationId_bound hid v⟩
  · obtain ⟨value, -, hgroups⟩ := Option.bind_eq_some_iff.mp h
    exact traceparentGroups_spec hgroups

/-! ### When trace ids are bound -/

/-- The form of a `traceparent` header: version, trace id, span id and flags. -/
def TraceparentForm (s t p : List Char) : Prop :=
  ∃ version flags, s = version ++ '-' :: (t ++ '-' :: (p ++ '-' :: flags)) ∧
    version.length = 2 ∧ t.length = 32 ∧ p.length = 16 ∧ flags.length = 2 ∧
    ∀ g ∈ [version, t, p, flags], ∀ c ∈ g, isLowerHex c = true

lemma traceparentGroups_iff {s t p : List Char} :
    traceparentGroups s = some (t, p) ↔ TraceparentForm s t p := by
  constructor
  · intro h
    obtain ⟨ht, hp, -, -⟩ := traceparentGroups_spec h
    unfold traceparentGroups at h
    simp only at h
    split at h
    · rename_i hmatch
      obtain ⟨hlength, hclass, h₁, h₂, h₃⟩ := hmatch
      rw [Option.some.injEq, Prod.mk.injEq] at h
      obtain ⟨rfl, rfl⟩ := h
      simp only [List.all_cons, List.all_nil, Bool.and_true, Bool.and_eq_true, List.all_eq_true,
        List.drop_zero] at hclass
      have hjoin : ∀ m n, (s.drop m).take n ++ s.drop (m + n) = s.drop m := by
        intro m n
        rw [← List.drop_drop]
        exact List.take_append_drop n _
      have hend : (s.drop 53).take 2 = s.drop 53 :=
        List.take_of_length_le (by rw [List.length_drop]; omega)
      refine ⟨s.take 2, s.drop 53, ?_, ?_, ht, hp, ?_, ?_⟩
      · have hsplit : s.take 2 ++ ((s.drop 2).take 1 ++ ((s.drop 3).take 32 ++ ((s.drop 35).take 1 ++
            ((s.drop 36).take 16 ++ ((s.drop 52).take 1 ++ s.drop 53))))) = s := by
          rw [hjoin 52 1, hjoin 36 16, hjoin 35 1, hjoin 3 32, hjoin 2 1, List.take_append_drop]
        rw [h₁, h₂, h₃] at hsplit
        exact hsplit.symm
      · rw [List.length_take]
        omega
      · rw [List.length_drop]
        omega
      · rw [hend] at hclass
        simp only [List.mem_cons, List.not_mem_nil, or_false, forall_eq_or_imp, forall_eq]
        exact hclass
    · cases h
  · rintro ⟨version, flags, rfl, hversion, ht, hp, hflags, hclass⟩
    simp only [List.mem_cons, List.not_mem_nil, or_false, forall_eq_or_imp, forall_eq] at hclass
    generalize hwhole : version ++ '-' :: (t ++ '-' :: (p ++ '-' :: flags)) = s
    have h₂ : s.drop 2 = '-' :: (t ++ '-' :: (p ++ '-' :: flags)) := by
      rw [← hwhole, List.drop_left' hversion]
    have h₃ : s.drop 3 = t ++ '-' :: (p ++ '-' :: flags) := by
      rw [show 3 = 2 + 1 from rfl, ← List.drop_drop, h₂]
      rfl
    have h₃₅ : s.drop 35 = '-' :: (p ++ '-' :: flags) := by
      rw [show 35 = 3 + 32 from rfl, ← List.drop_drop, h₃, List.drop_left' ht]
    have h₃₆ : s.drop 36 = p ++ '-' :: flags := by
      rw [show 36 = 35 + 1 from rfl, ← List.drop_drop, h₃₅]
      rfl
    have h₅₂ : s.drop 52 = '-' :: flags := by
      rw [show 52 = 36 + 16 from rfl, ← List.drop_drop, h₃₆, List.drop_left' hp]
    have h₅₃ : s.drop 53 = flags := by
      rw [show 53 = 52 + 1 from rfl, ← List.drop_drop, h₅₂]
      rfl
    have h₀ : s.take 2 = version := by rw [← hwhole, List.take_left' hversion]
    have hlength : s.length = 55 := by
      rw [← hwhole]
      simp only [List.length_append, List.length_cons]
      omega
    have htake : (p ++ '-' :: flags).take 16 = p := List.take_left' hp
    have htake' : (t ++ '-' :: (p ++ '-' :: flags)).take 32 = t := List.take_left' ht
    have hflags' : flags.take 2 = flags := List.take_of_length_le hflags.le
    have hone : ∀ xs : List Char, ('-' :: xs).take 1 = ['-'] := fun _ => rfl
    unfold traceparentGroups
    simp only [List.drop_zero, h₀, h₂, h₃, h₃₅, h₃₆, h₅₂, h₅₃, htake, htake', hflags', hlength, hone,
      List.all_cons, List.all_nil, Bool.and_true, Bool.and_eq_true, List.all_eq_true, true_and,
      and_true]
    rw [if_pos hclass]

/-! ### Forwarded ids -/

/-- A log context that some request has bound. -/
abbrev BoundContext := {ctx : LogContext // ctx.WellFormed}

lemma isIdChar_lt {c : Char} (h : isIdChar c = true) : c.toNat < 256 := by
  simp only [isIdChar, isWord, Bool.or_eq_true, Bool.and_eq_true, decide_eq_true_eq,
    isAlphanum_iff, List.mem_cons, List.not_mem_nil, or_false] at h
  rcases h with (((h | h) | h) | h) | h
  · omega
  · rw [h]
    decide
  · omega
  · omega
  · rw [h]
    decide

lemma isIdChar_of_mem_str (u : UUID) : ∀ c ∈ u.str, isIdChar c = true := by
  intro c hc
  rcases mem_hyphenated hc with rfl | hc
  · decide
  · exact isIdChar_of_isHexDigit (isHexDigit_hexText u.lt c hc)

/-- The value of a response header that carries an id. -/
def HeaderValue.ofId (id : List Char) (h : ∀ c ∈ id, isIdChar c = true) : HeaderValue where
  chars := id
  latin1 c hc := isIdChar_lt (h c hc)
  oneLine := noBreak_of_idChars h

namespace BoundContext

/-- `response.headers["X-Request-ID"]`. -/
def requestIdHeader (ctx : BoundContext) : HeaderValue :=
  .ofId ctx.1.requestId ctx.2.requestId.2.2

/-- `response.headers["X-Correlation-ID"]`. -/
def correlationIdHeader (ctx : BoundContext) : HeaderValue :=
  .ofId ctx.1.correlationId <| by
    obtain ⟨u, hu⟩ := ctx.2.correlationId
    rw [hu]
    exact isIdChar_of_mem_str u

end BoundContext

/-- A call of a service by another one: the `traceparent` header that goes with it, and what the
two calls of `uuid4()` return there. -/
structure Hop where
  traceparent : Option HeaderValue
  u : UUID
  v : UUID

/-- What a service binds that is called with the ids of an answer. -/
def BoundContext.forward (ctx : BoundContext) (hop : Hop) : BoundContext :=
  ⟨bindContext (some ctx.requestIdHeader) (some ctx.correlationIdHeader) hop.traceparent hop.u
    hop.v, wellFormed_bindContext ..⟩

/-- Services that call each other in a row. -/
def callChain (ctx : BoundContext) : List Hop → List BoundContext
  | [] => []
  | hop :: rest => ctx.forward hop :: callChain (ctx.forward hop) rest

lemma forward_ids (ctx : BoundContext) (hop : Hop) :
    (ctx.forward hop).1.requestId = ctx.1.requestId ∧
      (ctx.forward hop).1.correlationId = ctx.1.correlationId := by
  constructor
  · have hmatch : matchesRequestId ctx.1.requestId = true :=
      (matchesRequestId_iff (noBreak_of_idChars ctx.2.requestId.2.2)).mpr ctx.2.requestId
    have hkept : sanitizeRequestId (some ctx.1.requestId) = some ctx.1.requestId := by
      simp [sanitizeRequestId, hmatch]
    show (sanitizeRequestId (some ctx.1.requestId)).getD _ = _
    rw [hkept]
    rfl
  · obtain ⟨u, hu⟩ := ctx.2.correlationId
    show (sanitizeCorrelationId (some ctx.1.correlationId)).getD _ = _
    rw [hu, correlationId_bound (UUID.ofHex_str u)]

lemma ids_of_callChain (ctx : BoundContext) (hops : List Hop) : ∀ ctx' ∈ callChain ctx hops,
    ctx'.1.requestId = ctx.1.requestId ∧ ctx'.1.correlationId = ctx.1.correlationId := by
  induction hops generalizing ctx with
  | nil => simp [callChain]
  | cons hop rest ih =>
    obtain ⟨hrequest, hcorrelation⟩ := forward_ids ctx hop
    intro ctx' hctx'
    rcases List.mem_cons.mp hctx' with rfl | hrest
    · exact ⟨hrequest, hcorrelation⟩
    · have hids := ih (ctx.forward hop) ctx' hrest
      rwa [hrequest, hcorrelation] at hids

/-- **Ids are well formed, and they survive being forwarded.**  Whatever headers a request has, a
request id of at most 128 safe characters and the canonical text of a UUID are bound: of the one
that was sent where `uuid.UUID` accepts what was sent, which it does whatever the case of the
digits, the hyphens, the braces and the scheme, and of a new one otherwise.  Trace ids are bound
exactly when the `traceparent` header has the form of the standard; and all services that call
each other in a row with the ids of the answers bind the same two. -/
theorem boundContext_spec (requestId correlationId traceparent : Option HeaderValue) (u v : UUID) :
    ∃ ctx : BoundContext, ctx.1 = bindContext requestId correlationId traceparent u v ∧
      (∀ (value : HeaderValue) (w : UUID), correlationId = some value →
        UUID.ofHex value.chars = some w → ctx.1.correlationId = w.str) ∧
      (∀ (value : HeaderValue) (w : UUID), correlationId = some value →
        Spells w.hex value.chars → ctx.1.correlationId = w.str) ∧
      ((∀ value : HeaderValue, correlationId = some value → UUID.ofHex value.chars = none) →
        ctx.1.correlationId = v.str) ∧
      (∀ t p, ctx.1.trace = some (t, p) ↔
        ∃ value, traceparent = some value ∧ TraceparentForm (stripSpaces value.chars) t p) ∧
      ∀ hops, ∀ ctx' ∈ callChain ctx hops,
        ctx'.1.requestId = ctx.1.requestId ∧ ctx'.1.correlationId = ctx.1.correlationId := by
  have hread : ∀ (value : HeaderValue) (w : UUID), correlationId = some value →
      UUID.ofHex value.chars = some w →
      (bindContext requestId correlationId traceparent u v).correlationId = w.str := by
    rintro value w rfl hvalue
    exact correlationId_bound hvalue v
  refine ⟨⟨bindContext requestId correlationId traceparent u v, wellFormed_bindContext ..⟩, rfl,
    hread, fun value w hcorrelation hspells => ?_, fun hunread => ?_, fun t p => ?_, fun hops => ?_⟩
  · exact hread value w hcorrelation (UUID.ofHex_of_spells hspells)
  · cases correlationId with
    | none => rfl
    | some value => exact correlationId_generated (hunread value rfl) v
  · cases traceparent with
    | none => simp [bindContext, parseTraceparent]
    | some value => simp [bindContext, parseTraceparent, traceparentGroups_iff]
  · exact ids_of_callChain _ hops

/-- An id in another spelling is bound in its canonical one. -/
example : sanitizeCorrelationId (some "{550E8400-E29B-41D4-A716-446655440000}".toList) =
    some "550e8400-e29b-41d4-a716-446655440000".toList := by decide +kernel

end ImageDescriptor
