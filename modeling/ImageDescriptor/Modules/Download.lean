/-
# The download of a thumbnail

A thumbnail that is a URL is downloaded by `_download_image`, which follows redirects by
itself so that every host is checked before it is asked: `_validate_host_ips` resolves the
name and refuses addresses of private networks.  The HTTP client then resolves the name on
its own when it connects.  The model records every hop with the addresses that were checked
for it and the addresses to which the client connected.
-/
import Mathlib.Data.Set.Basic
import ImageDescriptor.Config
import ImageDescriptor.Python.Base64
import ImageDescriptor.Python.Ipaddress
import ImageDescriptor.Utils.Retry

namespace ImageDescriptor.Download

/-- A response that is no redirect: its status, what `int` makes of a `Content-Length`
that is not empty, the chunks of its body, and the error that ends the body early. -/
structure Response where
  statusCode : ℕ
  contentLength : Option (Except Exc ℤ)
  chunks : List Bytes
  bodyError : Option Exc

/-- What a request is answered: a status in 300..399, with the URL of the next request if
the response has a location, or a response. -/
inductive Reply
  | redirect (next : Option String)
  | response (r : Response)

/-- The outside of a download: the answer of `getaddrinfo` to the check of a host, the
addresses to which the HTTP client connects for a URL, and the answer to its request.  All
of them may differ from attempt to attempt and from hop to hop. -/
structure Env where
  getaddrinfo : ℕ → ℕ → String → Except Exc (List IpAddress)
  connects : ℕ → ℕ → String → List IpAddress
  reply : ℕ → ℕ → String → Except Exc Reply

/-- One hop: its URL, the addresses that were checked for it, and those that the client
connected to. -/
structure Hop where
  url : String
  checked : List IpAddress
  connected : List IpAddress

/-- `_is_blocked_ip`. -/
def isBlockedIp (ip : IpAddress) : Bool :=
  ip.isPrivate || ip.isLoopback || ip.isLinkLocal || ip.isReserved || ip.isMulticast

/-- `_validate_host_ips`, with the addresses that it has checked. -/
def validateHostIps (host : String) (addrinfos : Except Exc (List IpAddress)) :
    Except Exc (List IpAddress) :=
  match addrinfos with
  | .error e =>
    if e.isinstance .gaierror then
      .error ⟨.valueError, "DNS resolution failed for " ++ host⟩
    else .error e
  | .ok ips =>
    if ips.any isBlockedIp then .error ⟨.valueError, "URL resolves to blocked IP"⟩ else .ok ips

/-- The loop over the chunks: what has been read so far, and the rest of the body. -/
def readChunks (maxDownload : ℕ) (bodyError : Option Exc) (read : Bytes) :
    List Bytes → Except Exc Bytes
  | [] =>
    match bodyError with
    | some e => .error e
    | none => .ok read
  | chunk :: rest =>
    if maxDownload < (read ++ chunk).length then
      .error ⟨.valueError, "Image too large: >" ++ toString maxDownload ++ " bytes (max 5MB)"⟩
    else readChunks maxDownload bodyError (read ++ chunk) rest

/-- The end of an attempt that is not redirected any more. -/
def readResponse (maxDownload : ℕ) (r : Response) : Except Exc Bytes :=
  if r.statusCode < 200 ∨ 300 ≤ r.statusCode then
    .error ⟨.httpStatusError r.statusCode, "HTTP status " ++ toString r.statusCode⟩
  else
    match r.contentLength with
    | some (.error e) => .error e
    | some (.ok n) =>
      if (maxDownload : ℤ) < n then
        .error ⟨.valueError, "Image too large: " ++ toString n ++ " bytes (max " ++
          toString maxDownload ++ ")"⟩
      else readChunks maxDownload r.bodyError [] r.chunks
    | none => readChunks maxDownload r.bodyError [] r.chunks

variable (cfg : Settings) (hostname : String → Option String) (env : Env)

/-- The loop of one attempt of `_download_image` from hop number `hop` on, with the hops
that it makes.  `hostname url` is `urlparse(url).hostname`. -/
def hops (attempt hop : ℕ) (checked : List IpAddress) (url : String) :
    ℕ → List Hop × Except Exc Bytes
  | 0 =>
    ([], .error ⟨.valueError, "Too many redirects (max " ++ toString cfg.maxImageRedirects ++ ")"⟩)
  | left + 1 =>
    let here : Hop := ⟨url, checked, env.connects attempt hop url⟩
    match env.reply attempt hop url with
    | .error e => ([here], .error e)
    | .ok (.response r) => ([here], readResponse cfg.maxImageDownloadBytes r)
    | .ok (.redirect none) =>
      ([here], .error ⟨.attributeError, "'NoneType' object has no attribute 'url'"⟩)
    | .ok (.redirect (some next)) =>
      match hostname next with
      | none => ([here], .error ⟨.valueError, "Redirect to invalid URL: no hostname"⟩)
      | some host =>
        -- the check of the next hop; the client will resolve the host again
        match validateHostIps host (env.getaddrinfo attempt (hop + 1) host) with
        | .error e => ([here], .error e)
        | .ok ips =>
          let rest := hops attempt (hop + 1) ips next left
          (here :: rest.1, rest.2)

/-- One attempt of `_download_image`. -/
def downloadAttempt (checked : List IpAddress) (url : String) (attempt : ℕ) :
    List Hop × Except Exc Bytes :=
  hops cfg hostname env attempt 0 checked url (cfg.maxImageRedirects + 1)

/-- The attempts from number `n` on with the hops that they make, like `retryFrom`. -/
def attemptsFrom (attempt : ℕ → List Hop × Except Exc Bytes) (n : ℕ) :
    ℕ → List Hop × Except Exc Bytes
  | 0 => attempt n
  | left + 1 =>
    match (attempt n).2 with
    | .ok bytes => ((attempt n).1, .ok bytes)
    | .error e =>
      if isRetryable e then
        let rest := attemptsFrom attempt (n + 1) left
        ((attempt n).1 ++ rest.1, rest.2)
      else ((attempt n).1, .error e)

/-- `_download_image` with its retries: the first hop of each attempt goes to the URL that
was checked before the download. -/
def downloadImage (checked : List IpAddress) (url : String) : List Hop × Except Exc Bytes :=
  attemptsFrom (downloadAttempt cfg hostname env checked url) 1 (maxAttempts - 1)

/-- `_validate_thumbnail_url`, with the addresses that it has checked. -/
def validateThumbnailUrl (url : String) : Except Exc (List IpAddress) :=
  match hostname url with
  | none => .error ⟨.valueError, "Invalid URL: no hostname"⟩
  | some host => validateHostIps host (env.getaddrinfo 0 0 host)

/-- The test `thumbnail.startswith("http")`, after the one for a data URI. -/
def isHttp (thumbnail : String) : Bool :=
  !"data:image".toList.isPrefixOf thumbnail.toList && "http".toList.isPrefixOf thumbnail.toList

/-- The hops that `describe_image` makes for a thumbnail. -/
def thumbnailHops (thumbnail : String) : List Hop :=
  if isHttp thumbnail then
    match validateThumbnailUrl hostname env thumbnail with
    | .error _ => []
    | .ok checked => (downloadImage cfg hostname env checked thumbnail).1
  else []

/-- The hops of a download do not change what it returns: it is the decorated function on
the ends of the attempts. -/
lemma attemptsFrom_snd (attempt : ℕ → List Hop × Except Exc Bytes) (n left : ℕ) :
    (attemptsFrom attempt n left).2 =
      retryFrom isRetryable (fun m => (attempt m).2) n left := by
  induction left generalizing n with
  | zero => rfl
  | succ left ih =>
    rcases hend : (attempt n).2 with e | bytes
    · by_cases hretry : isRetryable e = true
      · simp [attemptsFrom, retryFrom, hend, hretry, ih]
      · simp [attemptsFrom, retryFrom, hend, hretry]
    · simp [attemptsFrom, retryFrom, hend]

lemma downloadImage_snd (checked : List IpAddress) (url : String) :
    (downloadImage cfg hostname env checked url).2 =
      retryHttp fun n => (downloadAttempt cfg hostname env checked url n).2 :=
  attemptsFrom_snd _ _ _

/-! ### Which hops are made -/

variable {cfg hostname env}

/-- What holds of the hops of every attempt holds of the hops of all of them. -/
lemma forall_mem_attemptsFrom {P : Hop → Prop} {attempt : ℕ → List Hop × Except Exc Bytes}
    (h : ∀ m, ∀ hop ∈ (attempt m).1, P hop) (n left : ℕ) :
    ∀ hop ∈ (attemptsFrom attempt n left).1, P hop := by
  induction left generalizing n with
  | zero => exact h n
  | succ left ih =>
    intro hop hmem
    simp only [attemptsFrom] at hmem
    split at hmem
    · exact h n hop hmem
    · split at hmem
      · rcases List.mem_append.mp hmem with hmem | hmem
        · exact h n hop hmem
        · exact ih (n + 1) hop hmem
      · exact h n hop hmem

/-- What a successful check says: it has resolved the name, and no address is blocked. -/
lemma validateHostIps_ok {host : String} {addrinfos : Except Exc (List IpAddress)}
    {ips : List IpAddress} (h : validateHostIps host addrinfos = .ok ips) :
    addrinfos = .ok ips ∧ ∀ ip ∈ ips, isBlockedIp ip = false := by
  rcases addrinfos with e | l
  · simp only [validateHostIps] at h
    split at h <;> cases h
  · simp only [validateHostIps] at h
    split at h
    · cases h
    · rename_i hnone
      cases h
      exact ⟨rfl, by simpa using hnone⟩

/-- A check that succeeds when no address is blocked. -/
lemma validateHostIps_of_allowed (host : String) {ips : List IpAddress}
    (h : ∀ ip ∈ ips, isBlockedIp ip = false) : validateHostIps host (.ok ips) = .ok ips := by
  have hnone : ips.any isBlockedIp = false := by simpa using h
  simp [validateHostIps, hnone]

/-- A hop with the addresses of a check of its own host. -/
def CheckedHop (hostname : String → Option String) (env : Env) (hop : Hop) : Prop :=
  ∃ attempt n host attempt' n', hostname hop.url = some host ∧
    validateHostIps host (env.getaddrinfo attempt n host) = .ok hop.checked ∧
    hop.connected = env.connects attempt' n' hop.url

/-- Every hop of an attempt has been checked, when the first one has. -/
lemma checkedHop_hops {attempt : ℕ} :
    ∀ (left n : ℕ) (checked : List IpAddress) (url : String),
      (∃ a m host, hostname url = some host ∧
        validateHostIps host (env.getaddrinfo a m host) = .ok checked) →
      ∀ hop ∈ (hops cfg hostname env attempt n checked url left).1, CheckedHop hostname env hop := by
  intro left
  induction left with
  | zero =>
    intro n checked url _ hop hmem
    simp [hops] at hmem
  | succ left ih =>
    intro n checked url hurl hop hmem
    obtain ⟨a, m, host, hhost, hvalid⟩ := hurl
    have here : CheckedHop hostname env ⟨url, checked, env.connects attempt n url⟩ :=
      ⟨a, m, host, attempt, n, hhost, hvalid, rfl⟩
    simp only [hops] at hmem
    split at hmem
    · rw [List.mem_singleton.mp hmem]
      exact here
    · rw [List.mem_singleton.mp hmem]
      exact here
    · rw [List.mem_singleton.mp hmem]
      exact here
    · rename_i next _
      split at hmem
      · rw [List.mem_singleton.mp hmem]
        exact here
      · rename_i host' hhost'
        split at hmem
        · rw [List.mem_singleton.mp hmem]
          exact here
        · -- the redirect is followed after a check of its host
          rename_i ips hips
          rcases List.mem_cons.mp hmem with rfl | hmem
          · exact here
          · exact ih (n + 1) ips next ⟨attempt, n + 1, host', hhost', hips⟩ hop hmem

/-- **Every hop has been checked.**  The name of every URL that is requested was resolved
and found allowed by a check of its own, over all redirects and all attempts. -/
theorem checkedHop_of_mem_thumbnailHops {thumbnail : String} :
    ∀ hop ∈ thumbnailHops cfg hostname env thumbnail, CheckedHop hostname env hop := by
  intro hop hmem
  simp only [thumbnailHops] at hmem
  split at hmem
  · split at hmem
    · cases hmem
    · rename_i checked hvalid
      simp only [validateThumbnailUrl] at hvalid
      split at hvalid
      · cases hvalid
      · rename_i host hhost
        refine forall_mem_attemptsFrom (fun m => ?_) 1 (maxAttempts - 1) hop hmem
        exact checkedHop_hops _ 0 checked thumbnail ⟨0, 0, host, hhost, hvalid⟩
  · cases hmem

end ImageDescriptor.Download
