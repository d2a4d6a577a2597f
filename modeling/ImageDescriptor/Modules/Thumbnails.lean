/-
# Thumbnails that come with the request

A thumbnail is a URL, a data URI, or base64 text alone.  What a client has encoded is what
the describer works on, in either of the last two forms and with any characters between that
do not belong to the alphabet, such as line breaks; but base64 alone that begins with `http`
is taken for a URL.  A text that cannot be decoded is an
invalid thumbnail and nothing else; and what is decoded has at most three quarters of the
length that `validate_thumbnail_size` admits.
-/
import ImageDescriptor.Api.Validation
import ImageDescriptor.Modules.Describer

namespace ImageDescriptor

/-! ### Encoding -/

/-- The character of six bits. -/
def base64Char (v : ℕ) : Char :=
  if v < 26 then Char.ofNat (v + 65)
  else if v < 52 then Char.ofNat (v + 71)
  else if v < 62 then Char.ofNat (v - 4)
  else if v = 62 then '+'
  else '/'

/-- `base64.b64encode`. -/
def b64encode : Bytes → List Char
  | [] => []
  | [a] => [base64Char (a.toNat / 4), base64Char (a.toNat % 4 * 16), '=', '=']
  | [a, b] =>
    [base64Char (a.toNat / 4), base64Char (a.toNat % 4 * 16 + b.toNat / 16),
      base64Char (b.toNat % 16 * 4), '=']
  | a :: b :: c :: rest =>
    base64Char (a.toNat / 4) :: base64Char (a.toNat % 4 * 16 + b.toNat / 16) ::
      base64Char (b.toNat % 16 * 4 + c.toNat / 64) :: base64Char (c.toNat % 64) :: b64encode rest

/-- A character that the decoder does not skip. -/
def isBase64 (c : Char) : Bool := decide (c = '=') || (base64Value c).isSome

lemma base64Value_base64Char {v : ℕ} (h : v < 64) :
    base64Value (base64Char v) = some v ∧ base64Char v ≠ '=' := by
  have hall : ∀ w : Fin 64, base64Value (base64Char w) = some w.val ∧ base64Char w ≠ '=' := by
    decide +kernel
  exact hall ⟨v, h⟩

/-! ### Decoding what was encoded -/

/-- Other characters are skipped. -/
lemma a2bBase64_filter (s : List Char) (quadPos left pads written : ℕ) :
    a2bBase64 quadPos left pads written (s.filter isBase64) =
      a2bBase64 quadPos left pads written s := by
  induction s generalizing quadPos left pads written with
  | nil => rfl
  | cons c rest ih =>
    cases hc : isBase64 c with
    | false =>
      obtain ⟨hpad, hvalue⟩ : c ≠ '=' ∧ base64Value c = none := by
        simpa [isBase64] using hc
      rw [List.filter_cons_of_neg (by simp [hc]), ih, a2bBase64, if_neg hpad, hvalue]
    | true =>
      rw [List.filter_cons_of_pos hc, a2bBase64, a2bBase64]
      simp only [ih]

section
variable {v : ℕ} (h : v < 64) (left pads written : ℕ) (rest : List Char)
include h

lemma a2bBase64_first :
    a2bBase64 0 left pads written (base64Char v :: rest) = a2bBase64 1 v 0 written rest := by
  obtain ⟨hvalue, hpad⟩ := base64Value_base64Char h
  simp only [a2bBase64, if_neg hpad, hvalue]

lemma a2bBase64_second : a2bBase64 1 left pads written (base64Char v :: rest) =
    (a2bBase64 2 (v % 16) 0 (written + 1) rest).map (UInt8.ofNat (left * 4 + v / 16) :: ·) := by
  obtain ⟨hvalue, hpad⟩ := base64Value_base64Char h
  simp only [a2bBase64, if_neg hpad, hvalue]

lemma a2bBase64_third : a2bBase64 2 left pads written (base64Char v :: rest) =
    (a2bBase64 3 (v % 4) 0 (written + 1) rest).map (UInt8.ofNat (left * 16 + v / 4) :: ·) := by
  obtain ⟨hvalue, hpad⟩ := base64Value_base64Char h
  simp only [a2bBase64, if_neg hpad, hvalue]

lemma a2bBase64_fourth : a2bBase64 3 left pads written (base64Char v :: rest) =
    (a2bBase64 0 0 0 (written + 1) rest).map (UInt8.ofNat (left * 64 + v) :: ·) := by
  obtain ⟨hvalue, hpad⟩ := base64Value_base64Char h
  simp only [a2bBase64, if_neg hpad, hvalue]

end

lemma ofNat_eq {a : UInt8} {n : ℕ} (h : n = a.toNat) : UInt8.ofNat n = a := by
  rw [h, UInt8.ofNat_toNat]

lemma a2bBase64_b64encode (bs : Bytes) (written : ℕ) :
    a2bBase64 0 0 0 written (b64encode bs) = .ok bs := by
  match bs with
  | [] => rfl
  | [a] =>
    have ha := a.toNat_lt
    rw [b64encode, a2bBase64_first (by omega), a2bBase64_second (by omega)]
    have hbyte : UInt8.ofNat (a.toNat / 4 * 4 + a.toNat % 4 * 16 / 16) = a := ofNat_eq (by omega)
    rw [hbyte]
    rfl
  | [a, b] =>
    have ha := a.toNat_lt
    have hb := b.toNat_lt
    rw [b64encode, a2bBase64_first (by omega), a2bBase64_second (by omega),
      a2bBase64_third (by omega)]
    have hfirst : UInt8.ofNat (a.toNat / 4 * 4 + (a.toNat % 4 * 16 + b.toNat / 16) / 16) = a :=
      ofNat_eq (by omega)
    have hsecond : UInt8.ofNat ((a.toNat % 4 * 16 + b.toNat / 16) % 16 * 16 +
        b.toNat % 16 * 4 / 4) = b := ofNat_eq (by omega)
    rw [hfirst, hsecond]
    rfl
  | a :: b :: c :: rest =>
    have ha := a.toNat_lt
    have hb := b.toNat_lt
    have hc := c.toNat_lt
    have ih := a2bBase64_b64encode rest (written + 1 + 1 + 1)
    rw [b64encode, a2bBase64_first (by omega), a2bBase64_second (by omega),
      a2bBase64_third (by omega), a2bBase64_fourth (by omega), ih]
    have hfirst : UInt8.ofNat (a.toNat / 4 * 4 + (a.toNat % 4 * 16 + b.toNat / 16) / 16) = a :=
      ofNat_eq (by omega)
    have hsecond : UInt8.ofNat ((a.toNat % 4 * 16 + b.toNat / 16) % 16 * 16 +
        (b.toNat % 16 * 4 + c.toNat / 64) / 4) = b := ofNat_eq (by omega)
    have hthird : UInt8.ofNat ((b.toNat % 16 * 4 + c.toNat / 64) % 4 * 64 + c.toNat % 64) = c :=
      ofNat_eq (by omega)
    rw [hfirst, hsecond, hthird]
    rfl

/-- The text of a client decodes to what it has encoded, whatever else is in it. -/
lemma b64decode_of_filter {s : List Char} {bs : Bytes} (hascii : ∀ c ∈ s, c.toNat < 128)
    (hs : s.filter isBase64 = b64encode bs) : b64decode s = .ok bs := by
  have hall : (s.all fun c => decide (c.toNat < 128)) = true := by
    rw [List.all_eq_true]
    exact fun c hc => decide_eq_true (hascii c hc)
  rw [b64decode, if_pos hall, ← a2bBase64_filter, hs, a2bBase64_b64encode]

/-! ### How long it is, and what can go wrong -/

/-- The bytes that have been made of the characters of a group. -/
def madeOf (quadPos : ℕ) : ℕ := quadPos - 1

lemma length_a2bBase64 {s : List Char} {quadPos left pads written : ℕ} {bs : Bytes}
    (hq : quadPos ≤ 3) (h : a2bBase64 quadPos left pads written s = .ok bs) :
    4 * (bs.length + madeOf quadPos) ≤ 3 * (s.length + quadPos) := by
  induction s generalizing quadPos left pads written bs with
  | nil =>
    rw [a2bBase64] at h
    split at h
    · rename_i hzero
      obtain rfl := Except.ok.inj h
      simp [madeOf, hzero]
    · split at h <;> cases h
  | cons c rest ih =>
    rw [List.length_cons]
    -- a character that is skipped
    have hskip : ∀ {pads' : ℕ}, a2bBase64 quadPos left pads' written rest = .ok bs →
        4 * (bs.length + madeOf quadPos) ≤ 3 * (rest.length + 1 + quadPos) := by
      intro pads' hrest
      have hle := ih hq hrest
      omega
    rw [a2bBase64] at h
    split at h
    · split at h
      · split at h
        · obtain rfl := Except.ok.inj h
          simp only [madeOf, List.length_nil]
          omega
        · exact hskip h
      · exact hskip h
    · split at h
      · exact hskip h
      · split at h
        · have hle := ih (by omega) h
          simp only [madeOf] at hle ⊢
          omega
        · obtain ⟨bs', hbs', rfl⟩ := map_eq_ok.mp h
          have hle := ih (by omega) hbs'
          simp only [madeOf, List.length_cons] at hle ⊢
          omega
        · obtain ⟨bs', hbs', rfl⟩ := map_eq_ok.mp h
          have hle := ih (by omega) hbs'
          simp only [madeOf, List.length_cons] at hle ⊢
          omega
        · rename_i hzero hone htwo
          have hthree : quadPos = 3 := by
            have hzero : quadPos ≠ 0 := hzero
            have hone : quadPos ≠ 1 := hone
            have htwo : quadPos ≠ 2 := htwo
            omega
          obtain ⟨bs', hbs', rfl⟩ := map_eq_ok.mp h
          have hle := ih (by omega) hbs'
          simp only [madeOf, List.length_cons] at hle ⊢
          omega

/-- A text that cannot be decoded raises a `ValueError`. -/
lemma valueError_of_a2bBase64 {s : List Char} {quadPos left pads written : ℕ} {e : Exc}
    (h : a2bBase64 quadPos left pads written s = .error e) : e.isinstance .valueError = true := by
  induction s generalizing quadPos left pads written with
  | nil =>
    rw [a2bBase64] at h
    split at h
    · cases h
    · split at h
      · obtain rfl := Except.error.inj h
        rfl
      · obtain rfl := Except.error.inj h
        rfl
  | cons c rest ih =>
    rw [a2bBase64] at h
    split at h
    · split at h
      · split at h
        · cases h
        · exact ih h
      · exact ih h
    · split at h
      · exact ih h
      · split at h
        · exact ih h
        · exact ih (map_eq_error.mp h)
        · exact ih (map_eq_error.mp h)
        · exact ih (map_eq_error.mp h)

lemma length_b64decode {s : List Char} {bs : Bytes} (h : b64decode s = .ok bs) :
    4 * bs.length ≤ 3 * s.length := by
  unfold b64decode at h
  split at h
  · exact length_a2bBase64 (by omega) h
  · cases h

lemma valueError_of_b64decode {s : List Char} {e : Exc} (h : b64decode s = .error e) :
    e.isinstance .valueError = true := by
  unfold b64decode at h
  split at h
  · exact valueError_of_a2bBase64 h
  · obtain rfl := Except.error.inj h
    decide

/-! ### Thumbnails -/

namespace Describer

/-- A data URI: its media type, and the text. -/
def dataUri (mediaType text : List Char) : String :=
  String.ofList ("data:image".toList ++ mediaType ++ ',' :: text)

lemma afterComma_append {xs text : List Char} (h : ',' ∉ xs) :
    afterComma (xs ++ ',' :: text) = some text := by
  induction xs with
  | nil => rfl
  | cons c xs ih =>
    rw [List.mem_cons, not_or] at h
    have hc : (decide (c ≠ ',')) = true := decide_eq_true (Ne.symm h.1)
    have hstep : afterComma (c :: xs ++ ',' :: text) = afterComma (xs ++ ',' :: text) := by
      unfold afterComma
      rw [List.cons_append, List.dropWhile_cons, if_pos hc]
    rw [hstep, ih h.2]

lemma length_afterComma {s text : List Char} (h : afterComma s = some text) :
    text.length ≤ s.length := by
  unfold afterComma at h
  split at h
  · rename_i rest hdrop
    obtain rfl := Option.some.inj h
    have hsub : (s.dropWhile (· ≠ ',')).length ≤ s.length := (List.dropWhile_suffix _).length_le
    rw [hdrop, List.length_cons] at hsub
    omega
  · cases h

/-- The texts that a client may send for an image that it has encoded: a data URI, or the encoding
alone, unless it begins like a URL or like a data URI. -/
inductive Spells (bs : Bytes) : String → Prop
  | dataUri {mediaType text : List Char} (hcomma : ',' ∉ mediaType)
      (hascii : ∀ c ∈ text, c.toNat < 128) (htext : text.filter isBase64 = b64encode bs) :
      Spells bs (dataUri mediaType text)
  | alone {text : List Char} (hurl : ¬ "http".toList <+: text)
      (hdata : ¬ "data:image".toList <+: text) (hascii : ∀ c ∈ text, c.toNat < 128)
      (htext : text.filter isBase64 = b64encode bs) : Spells bs (String.ofList text)

lemma thumbnailBytes_of_spells {bs : Bytes} {thumbnail : String} (answers : Answers)
    (h : Spells bs thumbnail) : thumbnailBytes thumbnail answers = (.notContacted, .ok bs) := by
  cases h with
  | @dataUri mediaType text hcomma hascii htext =>
    have hlist : (Describer.dataUri mediaType text).toList =
        "data:image".toList ++ mediaType ++ ',' :: text := String.toList_ofList
    have hprefix :
        "data:image".toList.isPrefixOf (Describer.dataUri mediaType text).toList = true := by
      rw [hlist, List.append_assoc, List.isPrefixOf_iff_prefix]
      exact List.prefix_append ..
    have hafter : afterComma (Describer.dataUri mediaType text).toList = some text := by
      rw [hlist]
      refine afterComma_append fun hmem => ?_
      rcases List.mem_append.mp hmem with hmem | hmem
      · exact absurd hmem (by decide)
      · exact hcomma hmem
    rw [thumbnailBytes, if_pos hprefix, hafter]
    simp only [b64decode_of_filter hascii htext]
  | @alone text hurl hdata hascii htext =>
    have hlist : (String.ofList text).toList = text := String.toList_ofList
    rw [thumbnailBytes, hlist, if_neg (fun h => hdata (List.isPrefixOf_iff_prefix.mp h)),
      if_neg (fun h => hurl (List.isPrefixOf_iff_prefix.mp h)), b64decode_of_filter hascii htext]

/-- What comes of a thumbnail that is no URL: the decoding of a part of it, or an error of the
data URI. -/
lemma thumbnailBytes_inline {thumbnail : String} (answers : Answers)
    (h : ¬ "http".toList <+: thumbnail.toList) :
    (∃ text : List Char, text.length ≤ thumbnail.toList.length ∧
        thumbnailBytes thumbnail answers = (.notContacted, b64decode text)) ∨
      thumbnailBytes thumbnail answers =
        (.notContacted, .error ⟨.valueError, "Invalid data URI: missing comma separator"⟩) := by
  unfold thumbnailBytes
  split
  · cases hafter : afterComma thumbnail.toList with
    | none => exact .inr rfl
    | some text => exact .inl ⟨text, length_afterComma hafter, rfl⟩
  · rw [if_neg (fun hurl => h (List.isPrefixOf_iff_prefix.mp hurl))]
    exact .inl ⟨thumbnail.toList, le_refl _, rfl⟩

/-- What is owed to a request whose thumbnail is no URL. -/
structure DecodesInline (answers : Answers) (thumbnail : String) : Prop where
  /-- nothing is asked of another host for it -/
  notContacted : (thumbnailBytes thumbnail answers).1 = .notContacted
  /-- a bound on the memory -/
  bounded : ∀ bs, (thumbnailBytes thumbnail answers).2 = .ok bs → bs.length ≤ 3 * 2 ^ 20 * 5 / 4
  /-- one kind of error -/
  invalid : ∀ e, (thumbnailBytes thumbnail answers).2 = .error e →
    invalidThumbnail e = ⟨.valueError, "Invalid thumbnail data: " ++ e.message⟩

/-- A thumbnail is taken for a URL. -/
structure TakenForUrl (answers : Answers) (thumbnail : String) : Prop where
  refused : ∀ e, answers.validateThumbnailUrl = .error e →
    thumbnailBytes thumbnail answers = (.notContacted, .error e)
  downloaded : answers.validateThumbnailUrl = .ok () →
    thumbnailBytes thumbnail answers = (upstreamOf answers.downloadImage, answers.downloadImage)

lemma takenForUrl_of_http {thumbnail : String} (answers : Answers)
    (h : "http".toList <+: thumbnail.toList) : TakenForUrl answers thumbnail := by
  have hdata : ¬ "data:image".toList.isPrefixOf thumbnail.toList = true := by
    intro hdata
    obtain ⟨rest, hrest⟩ := h
    obtain ⟨other, hother⟩ := List.isPrefixOf_iff_prefix.mp hdata
    have hhead : ("data:image".toList ++ other).head? = ("http".toList ++ rest).head? := by
      rw [hother, hrest]
    cases hhead
  have hurl : "http".toList.isPrefixOf thumbnail.toList = true := List.isPrefixOf_iff_prefix.mpr h
  constructor
  · intro e he
    rw [thumbnailBytes, if_neg hdata, if_pos hurl, he]
  · intro hok
    rw [thumbnailBytes, if_neg hdata, if_pos hurl, hok]

/-- **Thumbnails that come with the request.**  All spellings of an image give its bytes, so that
the describer does the same with each; every thumbnail that is no URL and that
`validate_thumbnail_size` accepts gives less than four million bytes, or is reported as
invalid; and a text that begins with `http` is a URL, even if it encodes an image. -/
theorem inlineThumbnails (answers : Answers) :
    (∀ bs thumbnail, Spells bs thumbnail →
      thumbnailBytes thumbnail answers = (.notContacted, .ok bs) ∧
      ∀ thumbnail', Spells bs thumbnail' → ∀ prompt cogImageId cached written,
        describeImage thumbnail prompt cogImageId cached answers written =
          describeImage thumbnail' prompt cogImageId cached answers written) ∧
    (∀ thumbnail, ¬ "http".toList <+: thumbnail.toList →
      DescribeRequest.validateThumbnailSize thumbnail = .ok thumbnail →
      DecodesInline answers thumbnail) ∧
    ∀ thumbnail, "http".toList <+: thumbnail.toList → TakenForUrl answers thumbnail := by
  refine ⟨fun bs thumbnail h => ⟨thumbnailBytes_of_spells answers h, ?_⟩, ?_, fun _ hurl =>
    takenForUrl_of_http answers hurl⟩
  · intro thumbnail' h' prompt cogImageId cached written
    have hsame : thumbnailBytes thumbnail answers = thumbnailBytes thumbnail' answers := by
      rw [thumbnailBytes_of_spells answers h, thumbnailBytes_of_spells answers h']
    unfold describeImage afterCache
    rw [hsame]
  · intro thumbnail hurl haccepted
    have hlength : thumbnail.toList.length ≤ 5 * 2 ^ 20 := by
      by_contra hlong
      have hlarge : DescribeRequest.TooLarge thumbnail := by
        refine ⟨hurl, ?_⟩
        rw [← String.length_toList]
        simp only [DescribeRequest.maxSize]
        omega
      rw [DescribeRequest.validateThumbnailSize, if_pos hlarge] at haccepted
      cases haccepted
    rcases thumbnailBytes_inline answers hurl with ⟨text, htext, hbytes⟩ | hbytes
    · refine ⟨by rw [hbytes], fun bs hbs => ?_, fun e he => ?_⟩
      · rw [hbytes] at hbs
        have hdecoded := length_b64decode hbs
        omega
      · rw [hbytes] at he
        rw [invalidThumbnail, valueError_of_b64decode he, Bool.or_true, if_pos rfl]
    · refine ⟨by rw [hbytes], fun bs hbs => ?_, fun e he => ?_⟩
      · rw [hbytes] at hbs
        cases hbs
      · rw [hbytes] at he
        obtain rfl := Except.error.inj he
        rfl

/-- The first bytes of an image. -/
def signature : Bytes := [0x89, 0x50, 0x4e, 0x47, 0x0d, 0x0a, 0x1a, 0x0a]

/-- The bytes whose encoding is `http`. -/
def urlLike : Bytes := [0x86, 0xdb, 0x69]

/-- Answers to a request whose thumbnail is no URL that could be asked. -/
def noUrl : Answers where
  validateThumbnailUrl := .error ⟨.valueError, "Invalid URL: no hostname"⟩
  downloadImage := .error ⟨.valueError, "Too many redirects (max 5)"⟩
  resizeForGemini bytes := .ok bytes
  generateContent _ _ _ := .ok (some "a coast")

lemma ascii_of_all {s : List Char} (h : (s.all fun c => decide (c.toNat < 128)) = true) :
    ∀ c ∈ s, c.toNat < 128 := fun c hc => of_decide_eq_true (List.all_eq_true.mp h c hc)

/-- A line break and spaces do no harm. -/
lemma spells_signature : Spells signature (String.ofList "iVBO Rw0\nKGgo=".toList) :=
  .alone (by decide +kernel) (by decide +kernel) (ascii_of_all (by decide +kernel))
    (by decide +kernel)

lemma spells_urlLike : Spells urlLike (dataUri "/png;base64".toList "http".toList) :=
  .dataUri (by decide +kernel) (ascii_of_all (by decide +kernel)) (by decide +kernel)

/-- Two images, of which the second has to come in a data URI. -/
theorem inlineThumbnails_of_images :
    thumbnailBytes "iVBO Rw0\nKGgo=" noUrl = (.notContacted, .ok signature) ∧
      thumbnailBytes (dataUri "/png;base64".toList "http".toList) noUrl =
        (.notContacted, .ok urlLike) ∧
      b64encode urlLike = "http".toList ∧
      thumbnailBytes "http" noUrl =
        (.notContacted, .error ⟨.valueError, "Invalid URL: no hostname"⟩) := by
  obtain ⟨hspells, -, hurl⟩ := inlineThumbnails noUrl
  refine ⟨?_, (hspells _ _ spells_urlLike).1, by decide +kernel,
    (hurl _ (List.prefix_refl _)).refused _ rfl⟩
  have hsignature := (hspells _ _ spells_signature).1
  rwa [String.ofList_toList] at hsignature

end Describer

end ImageDescriptor
