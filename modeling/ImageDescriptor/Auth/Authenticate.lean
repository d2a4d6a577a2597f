/-
# Authentication

`authenticate` tries the API key and then the bearer token.  Every refusal should be a
`DescriptorError`; an exception that is none of them leaves the function where the comparison of
the keys, the fetch of the key set or the look at the claims raises one.
-/
import ImageDescriptor.Auth.Jwks

namespace ImageDescriptor.Auth

/-- What `authenticate` returns. -/
inductive Identity
  | apiKey
  | jwt (sub : Json)

def isAscii (s : String) : Bool := s.toList.all fun c => decide (c.toNat < 128)

/-- `hmac.compare_digest` on strings. -/
def compareDigest (a b : String) : Except Exc Bool :=
  if isAscii a && isAscii b then .ok (decide (a = b))
  else
    .error ⟨.typeError, "comparing strings with non-ASCII characters is not supported"⟩

/-- `api_key and hmac.compare_digest(api_key, settings.api_key)`. -/
def keyMatches (configured : String) (apiKey : Option String) : Except Exc Bool :=
  match apiKey with
  | none => .ok false
  | some key => if key = "" then .ok false else compareDigest key configured

/-- The error of a refusal. -/
def unauthorized : Raised :=
  .descriptorError 401 "UNAUTHORIZED" "Valid API key or JWT required"

/-- The error of `payload["sub"]`. -/
def missingSub : Exc := ⟨.keyError, "'sub'"⟩

/-- The parameters of the application: the setting `api_key`, and `jwt.decode` of a token with a
key set, which gives the claims or `none` for a `JWTError`. -/
structure AuthConfig where
  settings : Settings
  apiKey : String
  decode : String → Json → Option Fields

variable (cfg : AuthConfig)

/-- The body of the `try` statement; `none` when `except JWTError` ends it. -/
def bearerIdentity (token : String) (w : JwksWorld) : Except Raised (Option Identity) :=
  match getJwks cfg.settings w with
  | .error r => .error r
  | .ok jwks =>
    match cfg.decode token jwks with
    | none => .ok none
    | some payload =>
      match payload.lookup "sub" with
      | some sub => .ok (some (.jwt sub))
      | none => .error (.other missingSub)

/-- `authenticate`. -/
def authenticate (apiKey credentials : Option String) (w : JwksWorld) : Except Raised Identity :=
  match keyMatches cfg.apiKey apiKey with
  | .error e => .error (.other e)
  | .ok true => .ok .apiKey
  | .ok false =>
    match credentials with
    | none => .error unauthorized
    | some token =>
      match bearerIdentity cfg token w with
      | .error r => .error r
      | .ok (some identity) => .ok identity
      | .ok none => .error unauthorized

/-- The key is not empty and is the configured one. -/
def KeyAccepted (apiKey : Option String) : Prop :=
  ∃ key, apiKey = some key ∧ key ≠ "" ∧ key = cfg.apiKey

/-- The token verifies against the key set that is fetched, and has a claim `sub`. -/
def TokenAccepted (credentials : Option String) (w : JwksWorld) : Prop :=
  ∃ token jwks payload sub, credentials = some token ∧ w.Provides cfg.settings jwks ∧
    cfg.decode token jwks = some payload ∧ payload.lookup "sub" = some sub

/-- What is asked of `authenticate`: an identity for accepted credentials and for no others,
401 for what the client has sent, and a server error when there is no key set. -/
structure Authenticates (apiKey credentials : Option String) (w : JwksWorld) : Prop where
  identity : (∃ identity, authenticate cfg apiKey credentials w = .ok identity) ↔
    KeyAccepted cfg apiKey ∨ TokenAccepted cfg credentials w
  refuses : ¬ KeyAccepted cfg apiKey → ¬ TokenAccepted cfg credentials w →
    credentials = none ∨ (∃ jwks, w.Provides cfg.settings jwks) →
      ∃ code message, authenticate cfg apiKey credentials w =
        .error (.descriptorError 401 code message)
  unavailable : ¬ KeyAccepted cfg apiKey → credentials ≠ none →
    (¬ ∃ jwks, w.Provides cfg.settings jwks) →
      ∃ status code message, 500 ≤ status ∧ status < 600 ∧
        authenticate cfg apiKey credentials w = .error (.descriptorError status code message)

/-- The fetch ends with a key set, or with a body that is no JSON. -/
def FetchHandled (fetched : Fetched) : Prop :=
  ∃ body, fetched = .ok body ∧ ∀ e, body = .error e → e.isinstance .jsonDecodeError = true

/-- Where two keys are compared, both are ASCII. -/
def KeysAscii (apiKey : Option String) : Prop :=
  ∀ key, apiKey = some key → key ≠ "" → isAscii key = true ∧ isAscii cfg.apiKey = true

/-- The inputs that `authenticate` handles: keys of ASCII characters where one is compared,
and, where a token is looked at, a fetch that is handled and claims with a `sub`. -/
structure Handled (apiKey credentials : Option String) (w : JwksWorld) : Prop where
  ascii : KeysAscii cfg apiKey
  fetch : ¬ KeyAccepted cfg apiKey → credentials ≠ none → w.Fetches cfg.settings →
    FetchHandled w.fetched
  claims : ¬ KeyAccepted cfg apiKey → ∀ token jwks payload, credentials = some token →
    w.Provides cfg.settings jwks → cfg.decode token jwks = some payload →
      (payload.lookup "sub").isSome = true

variable {cfg} {apiKey credentials : Option String} {w : JwksWorld}

/-! ### The two credentials -/

/-- The comparison of the keys. -/
lemma keyMatches_cases :
    (keyMatches cfg.apiKey apiKey = .ok true ∧ KeyAccepted cfg apiKey ∧ KeysAscii cfg apiKey) ∨
      (keyMatches cfg.apiKey apiKey = .ok false ∧ ¬ KeyAccepted cfg apiKey ∧
        KeysAscii cfg apiKey) ∨
      ((∃ e, keyMatches cfg.apiKey apiKey = .error e) ∧ ¬ KeysAscii cfg apiKey) := by
  rcases apiKey with _ | key
  · refine .inr (.inl ⟨rfl, ?_, ?_⟩)
    · rintro ⟨key, h, -⟩
      cases h
    · intro key h
      cases h
  · by_cases hempty : key = ""
    · subst hempty
      refine .inr (.inl ⟨rfl, ?_, ?_⟩)
      · rintro ⟨key, h, hne, -⟩
        cases h
        exact hne rfl
      · intro key h hne
        cases h
        exact absurd rfl hne
    · have hcompared : keyMatches cfg.apiKey (some key) = compareDigest key cfg.apiKey := by
        simp only [keyMatches, hempty, if_false]
      rw [hcompared, compareDigest]
      by_cases hascii : (isAscii key && isAscii cfg.apiKey) = true
      · rw [if_pos hascii, Bool.and_eq_true] at *
        have hkeys : KeysAscii cfg (some key) := by
          intro key' h _
          cases h
          exact hascii
        by_cases heq : key = cfg.apiKey
        · exact .inl ⟨by rw [decide_eq_true heq], ⟨key, rfl, hempty, heq⟩, hkeys⟩
        · refine .inr (.inl ⟨by rw [decide_eq_false heq], ?_, hkeys⟩)
          rintro ⟨key', h, -, heq'⟩
          cases h
          exact heq heq'
      · rw [if_neg hascii]
        refine .inr (.inr ⟨⟨_, rfl⟩, fun hkeys => hascii ?_⟩)
        rw [Bool.and_eq_true]
        exact hkeys key rfl hempty

/-- The ends of the `try` statement. -/
lemma bearerIdentity_cases (token : String) :
    (∃ jwks payload sub, bearerIdentity cfg token w = .ok (some (.jwt sub)) ∧
        w.Provides cfg.settings jwks ∧ cfg.decode token jwks = some payload ∧
        payload.lookup "sub" = some sub) ∨
      (∃ jwks, bearerIdentity cfg token w = .ok none ∧ w.Provides cfg.settings jwks ∧
        cfg.decode token jwks = none) ∨
      ((¬ ∃ jwks, w.Provides cfg.settings jwks) ∧ FetchHandled w.fetched ∧
        bearerIdentity cfg token w = .error jwksParseError) ∨
      ((¬ ∃ jwks, w.Provides cfg.settings jwks) ∧ w.Fetches cfg.settings ∧
        ¬ FetchHandled w.fetched ∧ ∃ e, bearerIdentity cfg token w = .error (.other e)) ∨
      (∃ jwks payload e, bearerIdentity cfg token w = .error (.other e) ∧
        w.Provides cfg.settings jwks ∧ cfg.decode token jwks = some payload ∧
        payload.lookup "sub" = none) := by
  rcases hjwks : getJwks cfg.settings w with r | jwks
  · have hnone : ¬ ∃ jwks, w.Provides cfg.settings jwks := by
      rintro ⟨jwks, hprovides⟩
      rw [getJwks_eq_ok_iff.mpr hprovides] at hjwks
      cases hjwks
    have hend : bearerIdentity cfg token w = .error r := by simp [bearerIdentity, hjwks]
    obtain ⟨hfetches, ⟨e, he, rfl⟩ | ⟨e, he, rfl⟩⟩ := getJwks_eq_error hjwks
    · refine .inr (.inr (.inr (.inl ⟨hnone, hfetches, ?_, e, hend⟩)))
      rintro ⟨body, hbody, -⟩
      rw [he] at hbody
      cases hbody
    · by_cases hjson : e.isinstance .jsonDecodeError = true
      · rw [if_pos hjson] at hend
        refine .inr (.inr (.inl ⟨hnone, ⟨_, he, ?_⟩, hend⟩))
        rintro e' he'
        cases he'
        exact hjson
      · rw [if_neg hjson] at hend
        refine .inr (.inr (.inr (.inl ⟨hnone, hfetches, ?_, e, hend⟩)))
        rintro ⟨body, hbody, hall⟩
        rw [he, Except.ok.injEq] at hbody
        exact hjson (hall e hbody.symm)
  · have hprovides := getJwks_eq_ok_iff.mp hjwks
    rcases hdecode : cfg.decode token jwks with _ | payload
    · exact .inr (.inl ⟨jwks, by simp [bearerIdentity, hjwks, hdecode], hprovides, hdecode⟩)
    · rcases hsub : payload.lookup "sub" with _ | sub
      · refine .inr (.inr (.inr (.inr ⟨jwks, payload, missingSub, ?_, hprovides, hdecode, hsub⟩)))
        simp only [bearerIdentity, hjwks, hdecode, hsub]
      · refine .inl ⟨jwks, payload, sub, ?_, hprovides, hdecode, hsub⟩
        simp only [bearerIdentity, hjwks, hdecode, hsub]

/-! ### The whole function -/

/-- A call gets one key set at most. -/
lemma provides_unique {jwks jwks' : Json} (h : w.Provides cfg.settings jwks)
    (h' : w.Provides cfg.settings jwks') : jwks = jwks' := by
  have heq := getJwks_eq_ok_iff.mpr h
  rw [getJwks_eq_ok_iff.mpr h', Except.ok.injEq] at heq
  exact heq.symm

/-- An exception that is no `DescriptorError` is what is not asked for. -/
lemma not_authenticates {e : Exc} (h : authenticate cfg apiKey credentials w = .error (.other e)) :
    ¬ Authenticates cfg apiKey credentials w := by
  intro hauth
  have hnone : ¬ ∃ identity, authenticate cfg apiKey credentials w = .ok identity := by
    rintro ⟨identity, hok⟩
    rw [h] at hok
    cases hok
  rw [hauth.identity, not_or] at hnone
  by_cases hclient : credentials = none ∨ ∃ jwks, w.Provides cfg.settings jwks
  · obtain ⟨code, message, hrefused⟩ := hauth.refuses hnone.1 hnone.2 hclient
    rw [h] at hrefused
    cases hrefused
  · rw [not_or] at hclient
    obtain ⟨status, code, message, -, -, hfailed⟩ :=
      hauth.unavailable hnone.1 hclient.1 hclient.2
    rw [h] at hfailed
    cases hfailed

/-- A call that makes a fetch and gets a key set has been answered with it. -/
lemma fetchHandled_of_provides {jwks : Json} (h : w.Provides cfg.settings jwks)
    (hfetches : w.Fetches cfg.settings) : FetchHandled w.fetched := by
  rcases h with hfresh | ⟨-, hfresh⟩ | ⟨-, hdata⟩
  · exact absurd hfresh hfetches.1
  · exact absurd hfresh hfetches.2
  · refine ⟨_, hdata, fun e he => ?_⟩
    cases he

lemma authenticates_of_keyAccepted (haccepted : KeyAccepted cfg apiKey)
    (hend : authenticate cfg apiKey credentials w = .ok .apiKey) :
    Authenticates cfg apiKey credentials w where
  identity := iff_of_true ⟨_, hend⟩ (.inl haccepted)
  refuses h := absurd haccepted h
  unavailable h := absurd haccepted h

lemma authenticates_of_refused (hother : ¬ KeyAccepted cfg apiKey)
    (htoken : ¬ TokenAccepted cfg credentials w)
    (hclient : credentials = none ∨ ∃ jwks, w.Provides cfg.settings jwks)
    (hend : authenticate cfg apiKey credentials w = .error unauthorized) :
    Authenticates cfg apiKey credentials w where
  identity := by
    refine iff_of_false ?_ (not_or.mpr ⟨hother, htoken⟩)
    rintro ⟨identity, hok⟩
    rw [hend] at hok
    cases hok
  refuses _ _ _ := ⟨_, _, hend⟩
  unavailable _ hne hnone := by
    rcases hclient with h | h
    · exact absurd h hne
    · exact absurd h hnone

lemma authenticates_of_tokenAccepted {identity : Identity}
    (haccepted : TokenAccepted cfg credentials w)
    (hend : authenticate cfg apiKey credentials w = .ok identity) :
    Authenticates cfg apiKey credentials w where
  identity := iff_of_true ⟨identity, hend⟩ (.inr haccepted)
  refuses _ h := absurd haccepted h
  unavailable _ _ hnone := by
    obtain ⟨_, jwks, _, _, -, hprovides, -⟩ := haccepted
    exact absurd ⟨jwks, hprovides⟩ hnone

/-- The body of the key set is no JSON. -/
lemma authenticates_of_unavailable {token : String} (hother : ¬ KeyAccepted cfg apiKey)
    (hnone : ¬ ∃ jwks, w.Provides cfg.settings jwks)
    (hend : authenticate cfg apiKey (some token) w = .error jwksParseError) :
    Authenticates cfg apiKey (some token) w where
  identity := by
    refine iff_of_false ?_ ?_
    · rintro ⟨identity, hok⟩
      rw [hend] at hok
      cases hok
    · rintro (h | ⟨_, jwks, _, _, _, hprovides, -⟩)
      · exact hother h
      · exact hnone ⟨jwks, hprovides⟩
  refuses := by
    rintro _ _ (h | h)
    · cases h
    · exact absurd h hnone
  unavailable _ _ _ := ⟨502, _, _, by decide, by decide, hend⟩

/-- With a token, and without an accepted key. -/
lemma authenticates_token_iff {token : String} (hother : ¬ KeyAccepted cfg apiKey)
    (hascii : KeysAscii cfg apiKey)
    (hend : authenticate cfg apiKey (some token) w = match bearerIdentity cfg token w with
      | .error r => .error r
      | .ok (some identity) => .ok identity
      | .ok none => .error unauthorized) :
    Authenticates cfg apiKey (some token) w ↔ Handled cfg apiKey (some token) w := by
  rcases @bearerIdentity_cases cfg w token with
    ⟨jwks, payload, sub, hbearer, hprovides, hdecode, hsub⟩ | ⟨jwks, hbearer, hprovides, hdecode⟩ |
    ⟨hnone, hhandled, hbearer⟩ | ⟨hnone, hfetches, hunhandled, e, hbearer⟩ |
    ⟨jwks, payload, e, hbearer, hprovides, hdecode, hsub⟩ <;> rw [hbearer] at hend
  · have haccepted : TokenAccepted cfg (some token) w :=
      ⟨token, jwks, payload, sub, rfl, hprovides, hdecode, hsub⟩
    refine iff_of_true (authenticates_of_tokenAccepted haccepted hend)
      ⟨hascii, fun _ _ => fetchHandled_of_provides hprovides, ?_⟩
    intro _ token' jwks' payload' htoken hprovides' hdecode'
    cases htoken
    rw [provides_unique hprovides' hprovides, hdecode, Option.some.injEq] at hdecode'
    rw [← hdecode', hsub]
    rfl
  · have hfails : ∀ jwks' payload', w.Provides cfg.settings jwks' →
        cfg.decode token jwks' ≠ some payload' := by
      intro jwks' payload' hprovides' hdecode'
      rw [provides_unique hprovides' hprovides, hdecode] at hdecode'
      cases hdecode'
    refine iff_of_true (authenticates_of_refused hother ?_ (.inr ⟨jwks, hprovides⟩) hend)
      ⟨hascii, fun _ _ => fetchHandled_of_provides hprovides, ?_⟩
    · rintro ⟨token', jwks', payload', sub, htoken, hprovides', hdecode', -⟩
      cases htoken
      exact hfails jwks' payload' hprovides' hdecode'
    · intro _ token' jwks' payload' htoken hprovides' hdecode'
      cases htoken
      exact absurd hdecode' (hfails jwks' payload' hprovides')
  · exact iff_of_true (authenticates_of_unavailable hother hnone hend)
      ⟨hascii, fun _ _ _ => hhandled, fun _ _ jwks _ _ hprovides =>
        absurd ⟨jwks, hprovides⟩ hnone⟩
  · exact iff_of_false (not_authenticates hend) fun h => hunhandled (h.fetch hother (by simp) hfetches)
  · refine iff_of_false (not_authenticates hend) fun h => ?_
    have hsome := h.claims hother token jwks payload rfl hprovides hdecode
    rw [hsub] at hsome
    cases hsome

/-- **`authenticate` does what is asked exactly for the inputs that it handles.** -/
theorem authenticates_iff (cfg : AuthConfig) (apiKey credentials : Option String)
    (w : JwksWorld) :
    Authenticates cfg apiKey credentials w ↔ Handled cfg apiKey credentials w := by
  rcases @keyMatches_cases cfg apiKey with ⟨hkey, haccepted, hascii⟩ | ⟨hkey, hother, hascii⟩ |
    ⟨⟨e, hkey⟩, hascii⟩
  · have hend : authenticate cfg apiKey credentials w = .ok .apiKey := by
      simp only [authenticate, hkey]
    exact iff_of_true (authenticates_of_keyAccepted haccepted hend)
      ⟨hascii, fun h => absurd haccepted h, fun h => absurd haccepted h⟩
  · rcases credentials with _ | token
    · have hend : authenticate cfg apiKey none w = .error unauthorized := by
        simp only [authenticate, hkey]
      refine iff_of_true (authenticates_of_refused hother ?_ (.inl rfl) hend)
        ⟨hascii, fun _ h => absurd rfl h, ?_⟩
      · rintro ⟨token, _, _, _, h, -⟩
        cases h
      · intro _ token _ _ h
        cases h
    · refine authenticates_token_iff hother hascii ?_
      simp only [authenticate, hkey]
  · -- the comparison of the keys raises
    refine iff_of_false ?_ fun h => hascii h.ascii
    have hend : authenticate cfg apiKey credentials w = .error (.other e) := by
      simp only [authenticate, hkey]
    exact not_authenticates hend

/-! ### A key that is not ASCII -/

/-- A deployment with a key, and a decoder that accepts no token. -/
def deployment : AuthConfig := ⟨.default, "secret", fun _ _ => none⟩

/-- A call for which no key set is asked. -/
def idleWorld : JwksWorld := ⟨0, .initial, 0, .initial, .ok (.ok .null)⟩

theorem accented_key_raises_type_error :
    (∃ e, authenticate deployment (some "clé") none idleWorld = .error (.other e) ∧
      e.cls = .typeError) ∧ ¬ Authenticates deployment (some "clé") none idleWorld := by
  have hraises : authenticate deployment (some "clé") none idleWorld = .error
      (.other ⟨.typeError, "comparing strings with non-ASCII characters is not supported"⟩) := by
    simp only [authenticate, keyMatches, compareDigest]
    rfl
  exact ⟨⟨_, hraises, rfl⟩, not_authenticates hraises⟩

end ImageDescriptor.Auth
