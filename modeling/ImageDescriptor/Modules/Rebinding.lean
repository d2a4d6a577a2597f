/-
# Rebinding of a host name

Every host name is checked before it is asked, but the address that was checked is not the
one to which the HTTP client connects: the client resolves the name again.  So the checks
protect a download exactly from the redirects, and from the resolver only if the resolver
always gives the same addresses.
-/
import ImageDescriptor.Modules.Download

namespace ImageDescriptor.Download

/-- The outside behaves as a resolver that may give any answer of `dns host` each time it is
asked for `host`, and the HTTP client connects only for HTTP URLs and only to addresses that
its own lookup of the host gives. -/
structure Env.Respects (env : Env) (hostname : String → Option String)
    (dns : String → Set (List IpAddress)) : Prop where
  lookup : ∀ attempt n host ips, env.getaddrinfo attempt n host = .ok ips → ips ∈ dns host
  connect : ∀ attempt n url, env.connects attempt n url = [] ∨
    isHttp url = true ∧ ∃ host ips, hostname url = some host ∧ ips ∈ dns host ∧
      ∀ ip ∈ env.connects attempt n url, ip ∈ ips

/-- The download of a thumbnail connects only to addresses that were checked for the hop
and are not blocked. -/
def OnlyChecked (cfg : Settings) (hostname : String → Option String) (env : Env)
    (thumbnail : String) : Prop :=
  ∀ hop ∈ thumbnailHops cfg hostname env thumbnail, ∀ ip ∈ hop.connected,
    ip ∈ hop.checked ∧ isBlockedIp ip = false

/-- Whenever the resolver gives an answer for the host of an HTTP URL that passes the check,
none of its answers for that host has an address outside of that answer. -/
def Stable (hostname : String → Option String) (dns : String → Set (List IpAddress)) : Prop :=
  ∀ url host, isHttp url = true → hostname url = some host →
    ∀ checked ∈ dns host, (∀ ip ∈ checked, isBlockedIp ip = false) →
      ∀ other ∈ dns host, ∀ ip ∈ other, ip ∈ checked

variable (cfg : Settings) (hostname : String → Option String)

lemma onlyChecked_of_stable {dns : String → Set (List IpAddress)} (hstable : Stable hostname dns)
    {env : Env} (henv : env.Respects hostname dns) (thumbnail : String) :
    OnlyChecked cfg hostname env thumbnail := by
  intro hop hmem ip hip
  obtain ⟨a, n, host, a', n', hhost, hvalid, hconnected⟩ := checkedHop_of_mem_thumbnailHops hop hmem
  obtain ⟨hlookup, hallowed⟩ := validateHostIps_ok hvalid
  have hchecked : hop.checked ∈ dns host := henv.lookup a n host hop.checked hlookup
  rw [hconnected] at hip
  rcases henv.connect a' n' hop.url with hnone | ⟨hhttp, host', other, hhost', hother, hsub⟩
  · rw [hnone] at hip
    cases hip
  · obtain rfl : host = host' := by simpa [hhost] using hhost'
    have hin : ip ∈ hop.checked :=
      hstable hop.url host hhttp hhost hop.checked hchecked hallowed other hother ip (hsub ip hip)
    exact ⟨hin, hallowed ip hin⟩

/-- A resolver that gives `checked` to the check of `host` and `other` to the client, and a
server that does not answer. -/
def rebinding (url host : String) (checked other : List IpAddress) : Env where
  getaddrinfo _ _ h := if h = host then .ok checked else .error ⟨.gaierror, "Name not known"⟩
  connects _ _ u := if u = url then other else []
  reply _ _ _ := .error ⟨.httpError, "no answer"⟩

lemma respects_rebinding {dns : String → Set (List IpAddress)} {url host : String}
    {checked other : List IpAddress} (hhttp : isHttp url = true) (hhost : hostname url = some host)
    (hchecked : checked ∈ dns host) (hother : other ∈ dns host) :
    (rebinding url host checked other).Respects hostname dns where
  lookup attempt n h ips hips := by
    simp only [rebinding] at hips
    split at hips
    · rename_i hh
      cases hips
      rw [hh]
      exact hchecked
    · cases hips
  connect attempt n u := by
    by_cases hu : u = url
    · subst hu
      exact .inr ⟨hhttp, host, other, hhost, hother, fun ip hip => by simpa [rebinding] using hip⟩
    · left
      simp [rebinding, hu]

/-- The one hop of such a download. -/
lemma thumbnailHops_rebinding {url host : String} {checked other : List IpAddress}
    (hhttp : isHttp url = true) (hhost : hostname url = some host)
    (hallowed : ∀ ip ∈ checked, isBlockedIp ip = false) :
    thumbnailHops cfg hostname (rebinding url host checked other) url =
      [⟨url, checked, other⟩] := by
  have hvalid : validateThumbnailUrl hostname (rebinding url host checked other) url =
      .ok checked := by
    simp only [validateThumbnailUrl, hhost, rebinding, if_true]
    exact validateHostIps_of_allowed host hallowed
  have hattempt : ∀ n, downloadAttempt cfg hostname (rebinding url host checked other) checked url n =
      ([⟨url, checked, other⟩], .error ⟨.httpError, "no answer"⟩) := by
    intro n
    simp [downloadAttempt, hops, rebinding]
  have hlast : isRetryable ⟨.httpError, "no answer"⟩ = false := by decide
  simp only [thumbnailHops, hhttp, hvalid, if_true, downloadImage, maxAttempts, attemptsFrom,
    hattempt, hlast, Bool.false_eq_true, if_false]

/-- **A download connects only to checked addresses exactly when the resolver is stable.**
The left side quantifies over every thumbnail, every redirecting server and every order in
which the resolver gives its answers. -/
theorem onlyChecked_iff_stable (dns : String → Set (List IpAddress)) :
    (∀ env : Env, env.Respects hostname dns → ∀ thumbnail, OnlyChecked cfg hostname env thumbnail) ↔
      Stable hostname dns := by
  constructor
  · intro hsafe url host hhttp hhost checked hchecked hallowed other hother ip hip
    -- the resolver gives one answer to the check and the other to the client
    have henv := respects_rebinding hostname hhttp hhost hchecked hother
    have honly := hsafe _ henv url
    rw [OnlyChecked, thumbnailHops_rebinding cfg hostname hhttp hhost hallowed] at honly
    exact (honly ⟨url, checked, other⟩ (List.mem_singleton_self _) ip hip).1
  · intro hstable env henv thumbnail
    exact onlyChecked_of_stable cfg hostname hstable henv thumbnail

/-- `urlparse(url).hostname` of one URL. -/
def rebindHostname (url : String) : Option String :=
  if url = "http://rebind.example/image.jpg" then some "rebind.example" else none

/-- The check is told a public address, the client that of a metadata service. -/
def metadataEnv : Env :=
  rebinding "http://rebind.example/image.jpg" "rebind.example" [.ofQuad 93 184 216 34]
    [.ofQuad 169 254 169 254]

theorem rebound_download_connects_to_link_local :
    ¬ OnlyChecked .default rebindHostname metadataEnv "http://rebind.example/image.jpg" := by
  have hallowed : ∀ ip ∈ [IpAddress.ofQuad 93 184 216 34], isBlockedIp ip = false := by decide
  intro honly
  rw [OnlyChecked, metadataEnv, thumbnailHops_rebinding _ _ (by decide) (by decide) hallowed] at honly
  have hblocked := (honly _ (List.mem_singleton_self _) (.ofQuad 169 254 169 254)
    (List.mem_singleton_self _)).2
  exact absurd hblocked (by decide)

end ImageDescriptor.Download
