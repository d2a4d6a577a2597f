/-
# The bounds of one download attempt

A server decides how often it redirects, to which hosts, what length it declares and how
much it sends.  The attempt is followed act by act: which URLs it requests, which hosts it has
accepted before that, and how many bytes it holds.
-/
import ImageDescriptor.Modules.Download

namespace ImageDescriptor.Download

/-- What an attempt does: it requests a URL, `_validate_host_ips` accepts a host with these
addresses, or a chunk is appended to those that are held, which are now so many bytes. -/
inductive Act
  | request (url : String)
  | accept (host : String) (ips : List IpAddress)
  | append (held : ℕ)

/-- The appends of `readChunks`. -/
def readActs (maxDownload : ℕ) (read : Bytes) : List Bytes → List Act
  | [] => []
  | chunk :: rest =>
    if maxDownload < (read ++ chunk).length then []
    else .append (read ++ chunk).length :: readActs maxDownload (read ++ chunk) rest

/-- The appends of `readResponse`. -/
def responseActs (maxDownload : ℕ) (r : Response) : List Act :=
  if r.statusCode < 200 ∨ 300 ≤ r.statusCode then []
  else
    match r.contentLength with
    | some (.error _) => []
    | some (.ok n) => if (maxDownload : ℤ) < n then [] else readActs maxDownload [] r.chunks
    | none => readActs maxDownload [] r.chunks

variable (cfg : Settings) (hostname : String → Option String) (env : Env)

/-- The acts of the loop `hops`, in their order. -/
def acts (attempt hop : ℕ) (url : String) : ℕ → List Act
  | 0 => []
  | left + 1 =>
    match env.reply attempt hop url with
    | .error _ => [.request url]
    | .ok (.response r) => .request url :: responseActs cfg.maxImageDownloadBytes r
    | .ok (.redirect none) => [.request url]
    | .ok (.redirect (some next)) =>
      match hostname next with
      | none => [.request url]
      | some host =>
        match validateHostIps host (env.getaddrinfo attempt (hop + 1) host) with
        | .error _ => [.request url]
        | .ok ips => .request url :: .accept host ips :: acts attempt (hop + 1) next left

/-- The acts of one attempt of `_download_image`. -/
def attemptActs (url : String) (attempt : ℕ) : List Act :=
  acts cfg hostname env attempt 0 url (cfg.maxImageRedirects + 1)

/-- The URL of a request. -/
def Act.url? : Act → Option String
  | request url => some url
  | _ => none

/-- The addresses of an accepted host. -/
def Act.checked? : Act → Option (List IpAddress)
  | accept _ ips => some ips
  | _ => none

/-- The length of what is held after an append. -/
def Act.held? : Act → Option ℕ
  | append n => some n
  | _ => none

/-- The redirects from a URL lead to a response, over hosts that are all accepted. -/
inductive Leads (attempt : ℕ) : ℕ → String → ℕ → Response → Prop
  | response {hop left : ℕ} {url : String} {r : Response}
      (hreply : env.reply attempt hop url = .ok (.response r)) :
      Leads attempt hop url (left + 1) r
  | redirect {hop left : ℕ} {url next host : String} {ips : List IpAddress} {r : Response}
      (hreply : env.reply attempt hop url = .ok (.redirect (some next)))
      (hhost : hostname next = some host)
      (haccepted : validateHostIps host (env.getaddrinfo attempt (hop + 1) host) = .ok ips)
      (hrest : Leads attempt (hop + 1) next left r) :
      Leads attempt hop url (left + 1) r

/-- A response that is read to its end: a success, with no declared length or one within the
bound, a body that is sent without an error and is within the bound. -/
structure Readable (maxDownload : ℕ) (r : Response) : Prop where
  success : 200 ≤ r.statusCode ∧ r.statusCode < 300
  declared : ∀ n, r.contentLength = some n → ∃ m : ℤ, n = .ok m ∧ m ≤ maxDownload
  sent : r.bodyError = none
  bounded : r.chunks.flatten.length ≤ maxDownload

/-- The bounds of an attempt, whose acts are those of `downloadAttempt`: it requests the URLs of its
hops, each was checked for the addresses that were accepted last, and what it returns is what
it held last. -/
structure Bounded (checked : List IpAddress) (url : String) (attempt : ℕ) : Prop where
  requests : ((attemptActs cfg hostname env url attempt).filterMap Act.url?).length ≤
    cfg.maxImageRedirects + 1
  acceptedBefore : ∀ before next after,
    attemptActs cfg hostname env url attempt = before ++ .request next :: after →
      before = [] ∨ ∃ host ips, hostname next = some host ∧
        before.getLast? = some (.accept host ips)
  accepted : ∀ host ips, .accept host ips ∈ attemptActs cfg hostname env url attempt →
    ∃ hop, validateHostIps host (env.getaddrinfo attempt hop host) = .ok ips
  held : ∀ n, .append n ∈ attemptActs cfg hostname env url attempt → n ≤ cfg.maxImageDownloadBytes
  requestsHops : (attemptActs cfg hostname env url attempt).filterMap Act.url? =
    (downloadAttempt cfg hostname env checked url attempt).1.map Hop.url
  checksHops : (downloadAttempt cfg hostname env checked url attempt).1.map Hop.checked <+:
    checked :: (attemptActs cfg hostname env url attempt).filterMap Act.checked?
  returnsHeld : ∀ bytes, (downloadAttempt cfg hostname env checked url attempt).2 = .ok bytes →
    ((attemptActs cfg hostname env url attempt).filterMap Act.held?).getLast?.getD 0 = bytes.length
  returns : ∀ bytes, (downloadAttempt cfg hostname env checked url attempt).2 = .ok bytes ↔
    ∃ r, Leads hostname env attempt 0 url (cfg.maxImageRedirects + 1) r ∧
      Readable cfg.maxImageDownloadBytes r ∧ bytes = r.chunks.flatten
  raises : (¬ ∃ r, Leads hostname env attempt 0 url (cfg.maxImageRedirects + 1) r ∧
      Readable cfg.maxImageDownloadBytes r) →
    ∃ e, (downloadAttempt cfg hostname env checked url attempt).2 = .error e

variable {cfg hostname env}

/-! ### The acts are those of the loop -/

/-- While a body is read, chunks are appended within the bound. -/
lemma mem_readActs {maxDownload : ℕ} {read : Bytes} {chunks : List Bytes} {act : Act}
    (h : act ∈ readActs maxDownload read chunks) : ∃ n, act = .append n ∧ n ≤ maxDownload := by
  induction chunks generalizing read with
  | nil => cases h
  | cons chunk rest ih =>
    simp only [readActs] at h
    split at h
    · cases h
    · rename_i hle
      rcases List.mem_cons.mp h with rfl | h
      · exact ⟨_, rfl, Nat.le_of_not_lt hle⟩
      · exact ih h

lemma mem_responseActs {maxDownload : ℕ} {r : Response} {act : Act}
    (h : act ∈ responseActs maxDownload r) : ∃ n, act = .append n ∧ n ≤ maxDownload := by
  unfold responseActs at h
  split at h
  · cases h
  · split at h
    · cases h
    · split at h
      · cases h
      · exact mem_readActs h
    · exact mem_readActs h

lemma url?_responseActs (maxDownload : ℕ) (r : Response) :
    (responseActs maxDownload r).filterMap Act.url? = [] := by
  rw [List.filterMap_eq_nil_iff]
  intro act hact
  obtain ⟨n, rfl, -⟩ := mem_responseActs hact
  rfl

/-- The requests are the hops. -/
lemma url?_acts {attempt : ℕ} (left hop : ℕ) (checked : List IpAddress) (url : String) :
    (acts cfg hostname env attempt hop url left).filterMap Act.url? =
      (hops cfg hostname env attempt hop checked url left).1.map Hop.url := by
  induction left generalizing hop checked url with
  | zero => rfl
  | succ left ih =>
    simp only [acts, hops]
    rcases env.reply attempt hop url with e | next | r
    · rfl
    · rcases next with _ | next
      · rfl
      · dsimp only
        rcases hostname next with _ | host
        · rfl
        · dsimp only
          rcases validateHostIps host (env.getaddrinfo attempt (hop + 1) host) with e | ips
          · rfl
          · simp only [List.filterMap_cons, Act.url?, List.map_cons, ih (hop + 1) ips next]
    · simp [Act.url?, url?_responseActs]

lemma length_hops_le {attempt : ℕ} (left hop : ℕ) (checked : List IpAddress) (url : String) :
    (hops cfg hostname env attempt hop checked url left).1.length ≤ left := by
  induction left generalizing hop checked url with
  | zero => exact Nat.zero_le 0
  | succ left ih =>
    simp only [hops]
    split
    · simp
    · simp
    · simp
    · split
      · simp
      · split
        · simp
        · simpa using ih _ _ _

/-- A hop is made where the addresses were checked that were accepted last. -/
lemma checked?_acts {attempt : ℕ} (left hop : ℕ) (checked : List IpAddress) (url : String) :
    (hops cfg hostname env attempt hop checked url left).1.map Hop.checked <+:
      checked :: (acts cfg hostname env attempt hop url left).filterMap Act.checked? := by
  induction left generalizing hop checked url with
  | zero => exact List.nil_prefix
  | succ left ih =>
    have honly : ∀ rest : List (List IpAddress), [checked] <+: checked :: rest := fun rest =>
      ⟨rest, rfl⟩
    simp only [acts, hops]
    rcases env.reply attempt hop url with e | next | r
    · exact honly _
    · rcases next with _ | next
      · exact honly _
      · dsimp only
        rcases hostname next with _ | host
        · exact honly _
        · dsimp only
          rcases validateHostIps host (env.getaddrinfo attempt (hop + 1) host) with e | ips
          · exact honly _
          · simp only [List.map_cons, List.filterMap_cons, Act.checked?]
            exact List.cons_prefix_cons.mpr ⟨rfl, ih (hop + 1) ips next⟩
    · exact honly _

/-- What the loop over the chunks returns is what it holds after its last append. -/
lemma held?_readActs {maxDownload : ℕ} {bodyError : Option Exc} {read bytes : Bytes}
    {chunks : List Bytes} (h : readChunks maxDownload bodyError read chunks = .ok bytes) :
    ((readActs maxDownload read chunks).filterMap Act.held?).getLast?.getD read.length =
      bytes.length := by
  induction chunks generalizing read with
  | nil =>
    rcases bodyError with _ | e
    · obtain rfl : read = bytes := Except.ok.inj h
      rfl
    · cases h
  | cons chunk rest ih =>
    rw [readChunks] at h
    split at h
    · cases h
    · rename_i hle
      simp only [readActs, if_neg hle, List.filterMap_cons, Act.held?, List.getLast?_cons,
        Option.getD_some, ih h]

lemma held?_responseActs {maxDownload : ℕ} {r : Response} {bytes : Bytes}
    (h : readResponse maxDownload r = .ok bytes) :
    ((responseActs maxDownload r).filterMap Act.held?).getLast?.getD 0 = bytes.length := by
  unfold readResponse at h
  unfold responseActs
  split at h
  · cases h
  · rename_i hstatus
    rw [if_neg hstatus]
    rcases hlength : r.contentLength with _ | e | n
    · simp only [hlength] at h
      exact held?_readActs h
    · simp only [hlength] at h
      cases h
    · simp only [hlength] at h
      dsimp only
      split at h
      · cases h
      · rename_i hle
        rw [if_neg hle]
        exact held?_readActs h

lemma held?_acts {attempt : ℕ} {bytes : Bytes} (left hop : ℕ) (checked : List IpAddress)
    (url : String) (h : (hops cfg hostname env attempt hop checked url left).2 = .ok bytes) :
    ((acts cfg hostname env attempt hop url left).filterMap Act.held?).getLast?.getD 0 =
      bytes.length := by
  induction left generalizing hop checked url with
  | zero => cases h
  | succ left ih =>
    simp only [hops] at h
    simp only [acts]
    rcases hreply : env.reply attempt hop url with e | next | r
    · simp only [hreply] at h
      cases h
    · rcases next with _ | next
      · simp only [hreply] at h
        cases h
      · simp only [hreply] at h ⊢
        rcases hhost : hostname next with _ | host
        · simp only [hhost] at h
          cases h
        · simp only [hhost] at h ⊢
          rcases hips : validateHostIps host (env.getaddrinfo attempt (hop + 1) host) with e | ips
          · simp only [hips] at h
            cases h
          · simp only [hips] at h
            exact ih (hop + 1) ips next h
    · simp only [hreply] at h
      exact held?_responseActs h

/-! ### What comes before a request -/

lemma request_not_mem_responseActs {maxDownload : ℕ} {r : Response} {url : String} :
    Act.request url ∉ responseActs maxDownload r := by
  intro hmem
  obtain ⟨n, heq, -⟩ := mem_responseActs hmem
  cases heq

/-- Where the only request is the first act, it has nothing before it. -/
lemma before_eq_nil {url next : String} {rest before after : List Act}
    (h : .request url :: rest = before ++ .request next :: after)
    (hrest : ∀ url, .request url ∉ rest) : before = [] ∧ next = url := by
  cases before with
  | nil =>
    simp only [List.nil_append, List.cons.injEq, Act.request.injEq] at h
    exact ⟨rfl, h.1.symm⟩
  | cons act before =>
    simp only [List.cons_append, List.cons.injEq] at h
    exact absurd (by simp [h.2]) (hrest next)

/-- The act before a request is that its host was accepted. -/
lemma acts_request {attempt : ℕ} (left hop : ℕ) (url : String) {before after : List Act}
    {next : String}
    (h : acts cfg hostname env attempt hop url left = before ++ .request next :: after) :
    (before = [] ∧ next = url) ∨ ∃ host ips, hostname next = some host ∧
      before.getLast? = some (.accept host ips) := by
  induction left generalizing hop url before with
  | zero => simp [acts] at h
  | succ left ih =>
    simp only [acts] at h
    split at h
    · exact .inl (before_eq_nil h (by simp))
    · exact .inl (before_eq_nil h fun _ => request_not_mem_responseActs)
    · exact .inl (before_eq_nil h (by simp))
    · rename_i target _
      split at h
      · exact .inl (before_eq_nil h (by simp))
      · rename_i host hhost
        split at h
        · exact .inl (before_eq_nil h (by simp))
        · -- the redirect is followed
          rename_i ips _
          rcases before with _ | ⟨first, _ | ⟨second, before⟩⟩
          · simp only [List.nil_append, List.cons.injEq, Act.request.injEq] at h
            exact .inl ⟨rfl, h.1.symm⟩
          · simp at h
          · simp only [List.cons_append, List.cons.injEq] at h
            obtain ⟨rfl, rfl, hrest⟩ := h
            right
            rcases ih _ _ hrest with ⟨rfl, rfl⟩ | ⟨host', ips', hhost', hlast⟩
            · exact ⟨host, ips, hhost, rfl⟩
            · refine ⟨host', ips', hhost', ?_⟩
              rw [List.getLast?_cons_cons, List.getLast?_cons, hlast, Option.getD_some]

/-- What an act can be: a request, a host whose addresses were checked, or chunks that are held
within the bound. -/
lemma mem_acts {attempt : ℕ} (left hop : ℕ) (url : String) {act : Act}
    (h : act ∈ acts cfg hostname env attempt hop url left) :
    (∃ url', act = .request url') ∨
      (∃ host ips n, act = .accept host ips ∧
        validateHostIps host (env.getaddrinfo attempt n host) = .ok ips) ∨
      ∃ n, act = .append n ∧ n ≤ cfg.maxImageDownloadBytes := by
  induction left generalizing hop url with
  | zero => simp [acts] at h
  | succ left ih =>
    simp only [acts] at h
    split at h
    · exact .inl ⟨url, List.mem_singleton.mp h⟩
    · rcases List.mem_cons.mp h with h | h
      · exact .inl ⟨url, h⟩
      · exact .inr (.inr (mem_responseActs h))
    · exact .inl ⟨url, List.mem_singleton.mp h⟩
    · split at h
      · exact .inl ⟨url, List.mem_singleton.mp h⟩
      · split at h
        · exact .inl ⟨url, List.mem_singleton.mp h⟩
        · rename_i host _ _ ips hips
          rcases List.mem_cons.mp h with h | h
          · exact .inl ⟨url, h⟩
          · rcases List.mem_cons.mp h with h | h
            · exact .inr (.inl ⟨host, ips, hop + 1, h, hips⟩)
            · exact ih _ _ h

/-- A host is accepted by a check of its addresses. -/
lemma acts_accept {attempt : ℕ} (left hop : ℕ) (url : String) {host : String}
    {ips : List IpAddress} (h : .accept host ips ∈ acts cfg hostname env attempt hop url left) :
    ∃ n, validateHostIps host (env.getaddrinfo attempt n host) = .ok ips := by
  rcases mem_acts left hop url h with ⟨_, heq⟩ | ⟨_, _, n, heq, hips⟩ | ⟨_, heq, -⟩
  · cases heq
  · cases heq
    exact ⟨n, hips⟩
  · cases heq

/-! ### What is held and returned -/

/-- What is held never exceeds the bound. -/
lemma acts_append {attempt n : ℕ} (left hop : ℕ) (url : String)
    (h : .append n ∈ acts cfg hostname env attempt hop url left) :
    n ≤ cfg.maxImageDownloadBytes := by
  rcases mem_acts left hop url h with ⟨_, heq⟩ | ⟨_, _, _, heq, -⟩ | ⟨_, heq, hle⟩
  · cases heq
  · cases heq
  · cases heq
    exact hle

/-- The loop over the chunks returns all of them when they fit. -/
lemma readChunks_eq_ok_iff {maxDownload : ℕ} {bodyError : Option Exc} {read bytes : Bytes}
    {chunks : List Bytes} (hread : read.length ≤ maxDownload) :
    readChunks maxDownload bodyError read chunks = .ok bytes ↔
      bodyError = none ∧ (read ++ chunks.flatten).length ≤ maxDownload ∧
        bytes = read ++ chunks.flatten := by
  induction chunks generalizing read with
  | nil =>
    rcases bodyError with _ | e
    · simp [readChunks, hread, eq_comm]
    · simp [readChunks]
  | cons chunk rest ih =>
    rw [List.flatten_cons, ← List.append_assoc]
    by_cases hlt : maxDownload < (read ++ chunk).length
    · have hlong : ¬ (read ++ chunk ++ rest.flatten).length ≤ maxDownload := by
        rw [List.length_append]
        omega
      rw [readChunks, if_pos hlt]
      simp only [reduceCtorEq, false_iff]
      exact fun h => hlong h.2.1
    · rw [readChunks, if_neg hlt]
      exact ih (Nat.le_of_not_lt hlt)

/-- The body of a success with an admissible length is read to its end when it is readable. -/
lemma readChunks_iff_readable {maxDownload : ℕ} {r : Response} {bytes : Bytes}
    (hsuccess : 200 ≤ r.statusCode ∧ r.statusCode < 300)
    (hdeclared : ∀ n, r.contentLength = some n → ∃ m : ℤ, n = .ok m ∧ m ≤ maxDownload) :
    readChunks maxDownload r.bodyError [] r.chunks = .ok bytes ↔
      Readable maxDownload r ∧ bytes = r.chunks.flatten := by
  rw [readChunks_eq_ok_iff (Nat.zero_le maxDownload), List.nil_append]
  constructor
  · rintro ⟨hsent, hbounded, hbytes⟩
    exact ⟨⟨hsuccess, hdeclared, hsent, hbounded⟩, hbytes⟩
  · rintro ⟨hreadable, hbytes⟩
    exact ⟨hreadable.sent, hreadable.bounded, hbytes⟩

lemma readResponse_eq_ok_iff {maxDownload : ℕ} {r : Response} {bytes : Bytes} :
    readResponse maxDownload r = .ok bytes ↔ Readable maxDownload r ∧ bytes = r.chunks.flatten := by
  unfold readResponse
  by_cases hstatus : r.statusCode < 200 ∨ 300 ≤ r.statusCode
  · rw [if_pos hstatus]
    refine iff_of_false (fun h => by cases h) ?_
    rintro ⟨hreadable, -⟩
    have hsuccess := hreadable.success
    omega
  · rw [if_neg hstatus]
    have hsuccess : 200 ≤ r.statusCode ∧ r.statusCode < 300 := by omega
    rcases hlength : r.contentLength with _ | e | n
    · exact readChunks_iff_readable hsuccess (by simp [hlength])
    · refine iff_of_false (fun h => by cases h) ?_
      rintro ⟨hreadable, -⟩
      obtain ⟨m, hm, -⟩ := hreadable.declared _ hlength
      cases hm
    · dsimp only
      by_cases hlong : (maxDownload : ℤ) < n
      · rw [if_pos hlong]
        refine iff_of_false (fun h => by cases h) ?_
        rintro ⟨hreadable, -⟩
        obtain ⟨m, hm, hle⟩ := hreadable.declared _ hlength
        cases hm
        omega
      · rw [if_neg hlong]
        refine readChunks_iff_readable hsuccess fun k hk => ⟨n, ?_, by omega⟩
        rw [hlength, Option.some.injEq] at hk
        exact hk.symm

lemma not_leads_of_error {attempt hop left : ℕ} {url : String} {e : Exc} {r : Response}
    (hreply : env.reply attempt hop url = .error e) :
    ¬ Leads hostname env attempt hop url left r := by
  rintro (⟨hreply'⟩ | ⟨hreply'⟩) <;> cases hreply.symm.trans hreply'

/-- Where a response answers, it is the last one. -/
lemma leads_of_response {attempt hop left : ℕ} {url : String} {r r' : Response}
    (hreply : env.reply attempt hop url = .ok (.response r)) :
    Leads hostname env attempt hop url (left + 1) r' ↔ r' = r := by
  constructor
  · rintro (⟨hreply'⟩ | ⟨hreply'⟩) <;> cases hreply.symm.trans hreply'
    rfl
  · rintro rfl
    exact .response hreply

/-- Where a redirect answers, its target has to be accepted and lead on. -/
lemma leads_of_redirect {attempt hop left : ℕ} {url : String} {next : Option String}
    {r : Response} (hreply : env.reply attempt hop url = .ok (.redirect next)) :
    Leads hostname env attempt hop url (left + 1) r ↔
      ∃ target host ips, next = some target ∧ hostname target = some host ∧
        validateHostIps host (env.getaddrinfo attempt (hop + 1) host) = .ok ips ∧
        Leads hostname env attempt (hop + 1) target left r := by
  constructor
  · rintro (⟨hreply'⟩ | ⟨hreply', hhost, haccepted, hrest⟩) <;> cases hreply.symm.trans hreply'
    exact ⟨_, _, _, rfl, hhost, haccepted, hrest⟩
  · rintro ⟨target, host, ips, rfl, hhost, haccepted, hrest⟩
    exact .redirect hreply hhost haccepted hrest

/-- An attempt returns what the response holds to which its redirects lead. -/
lemma hops_eq_ok_iff {attempt : ℕ} {bytes : Bytes} (left hop : ℕ) (checked : List IpAddress)
    (url : String) :
    (hops cfg hostname env attempt hop checked url left).2 = .ok bytes ↔
      ∃ r, Leads hostname env attempt hop url left r ∧ Readable cfg.maxImageDownloadBytes r ∧
        bytes = r.chunks.flatten := by
  induction left generalizing hop checked url with
  | zero =>
    constructor
    · intro h
      cases h
    · rintro ⟨r, hleads, -⟩
      cases hleads
  | succ left ih =>
    simp only [hops]
    rcases hreply : env.reply attempt hop url with e | next | r
    · refine iff_of_false (fun h => by cases h) ?_
      rintro ⟨r, hleads, -⟩
      exact not_leads_of_error hreply hleads
    · simp only [leads_of_redirect hreply]
      constructor
      · rcases next with _ | next
        · intro h
          cases h
        · dsimp only
          split
          · intro h
            cases h
          · rename_i host hhost
            split
            · intro h
              cases h
            · rename_i ips hips
              intro h
              obtain ⟨r, hleads, hreadable⟩ := (ih _ _ _).mp h
              exact ⟨r, ⟨next, host, ips, rfl, hhost, hips, hleads⟩, hreadable⟩
      · rintro ⟨r, ⟨next, host, ips, rfl, hhost, haccepted, hrest⟩, hreadable⟩
        simp only [hhost, haccepted]
        exact (ih _ _ _).mpr ⟨r, hrest, hreadable⟩
    · simp only [leads_of_response hreply, readResponse_eq_ok_iff, exists_eq_left]

/-- **The bounds of a download attempt.**  Whatever the server answers, an attempt requests
at most `max_redirects + 1` URLs, each but the first right after its host was accepted, it
never holds more bytes than allowed, and it returns the whole body of the last response or
raises. -/
theorem bounded_attempt (cfg : Settings) (hostname : String → Option String) (env : Env)
    (checked : List IpAddress) (url : String) (attempt : ℕ) :
    Bounded cfg hostname env checked url attempt where
  requests := by
    rw [attemptActs, url?_acts _ _ checked, List.length_map]
    exact length_hops_le _ _ _ _
  acceptedBefore before next after h := by
    rcases acts_request _ _ _ h with ⟨hbefore, -⟩ | haccepted
    · exact .inl hbefore
    · exact .inr haccepted
  accepted host ips h := acts_accept _ _ _ h
  held n h := acts_append _ _ _ h
  requestsHops := url?_acts _ _ checked _
  checksHops := checked?_acts _ _ checked _
  returnsHeld bytes h := held?_acts _ _ checked _ h
  returns bytes := hops_eq_ok_iff _ _ _ _
  raises hnone := by
    rcases hend : (downloadAttempt cfg hostname env checked url attempt).2 with e | bytes
    · exact ⟨e, rfl⟩
    · obtain ⟨r, hleads, hreadable, -⟩ := (hops_eq_ok_iff _ _ _ _).mp hend
      exact absurd ⟨r, hleads, hreadable⟩ hnone

end ImageDescriptor.Download
