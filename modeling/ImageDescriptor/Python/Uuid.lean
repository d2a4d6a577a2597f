/-
# UUIDs

The class `uuid.UUID` of the standard library: its constructor accepts 32 hexadecimal digits
in several spellings, as far as `int(hex, 16)` reads them, and its text is the hyphenated
spelling in lower case.  This file shows that the spellings of one UUID are read alike and
that the text is one of them.
-/
import Mathlib.Data.List.Basic
import Mathlib.Data.List.TakeWhile
import Mathlib.Algebra.Order.Ring.Nat
import Mathlib.Tactic.Ring

namespace ImageDescriptor

/-- A UUID: a number of 128 bits. -/
structure UUID where
  int : ℕ
  lt : int < 2 ^ 128
deriving DecidableEq

/-! ### `int(s, 16)` -/

/-- The value of a hexadecimal digit. -/
def hexValue (c : Char) : Option ℕ :=
  if '0' ≤ c ∧ c ≤ '9' then some (c.toNat - '0'.toNat)
  else if 'a' ≤ c ∧ c ≤ 'f' then some (c.toNat - 'a'.toNat + 10)
  else if 'A' ≤ c ∧ c ≤ 'F' then some (c.toNat - 'A'.toNat + 10)
  else none

/-- What `int` skips around a number, in a text of Latin-1. -/
def isIntSpace (c : Char) : Bool :=
  let n := c.toNat
  (decide (0x9 ≤ n) && decide (n ≤ 0xd)) || decide (n ∈ [0x20, 0x85, 0xa0])

/-- The digits at the beginning of a text, with single underscores between them, read after a
number `acc`; and the rest of the text. -/
def readDigits (underscore : Bool) (acc : ℕ) : List Char → Option (ℕ × List Char)
  | [] => if underscore then none else some (acc, [])
  | c :: rest =>
    match hexValue c with
    | some d => readDigits false (16 * acc + d) rest
    | none =>
      if underscore then none
      else if c = '_' then readDigits true acc rest
      else some (acc, c :: rest)

/-- A text without the prefix `0x`, after which an underscore may stand. -/
def dropHexPrefix : List Char → List Char
  | '0' :: x :: rest =>
    if x = 'x' ∨ x = 'X' then
      match rest with
      | '_' :: rest => rest
      | _ => rest
    else '0' :: x :: rest
  | s => s

/-- `int(s, 16)` for a text without a minus sign; `none` for a `ValueError`. -/
def int16 (s : List Char) : Option ℕ :=
  let s := s.dropWhile isIntSpace
  let s := match s with
    | '+' :: rest => rest
    | _ => s
  match dropHexPrefix s with
  | [] => none
  | c :: rest =>
    if (hexValue c).isSome then
      match readDigits false 0 (c :: rest) with
      | some (n, rest) => if rest.all isIntSpace then some n else none
      | none => none
    else none

/-! ### The constructor -/

/-- `s.replace(pattern, "")`, of which a match has taken the next `skip` characters. -/
def removeAll (pattern : List Char) (skip : ℕ) : List Char → List Char
  | [] => []
  | c :: rest =>
    match skip with
    | n + 1 => removeAll pattern n rest
    | 0 =>
      if pattern <+: c :: rest then removeAll pattern (pattern.length - 1) rest
      else c :: removeAll pattern 0 rest

def isBrace (c : Char) : Bool := decide (c = '{') || decide (c = '}')

/-- `s.strip("{}")`. -/
def stripBraces (s : List Char) : List Char :=
  ((s.dropWhile isBrace).reverse.dropWhile isBrace).reverse

namespace UUID

/-- The digits that are left of the argument of the constructor. -/
def digitsOf (hex : List Char) : List Char :=
  (stripBraces (removeAll "uuid:".toList 0 (removeAll "urn:".toList 0 hex))).filter (· ≠ '-')

/-- `uuid.UUID(hex)`; `none` for a `ValueError`. -/
def ofHex (hex : List Char) : Option UUID :=
  let hex := digitsOf hex
  if hex.length = 32 then
    match int16 hex with
    | some n => if h : n < 2 ^ 128 then some ⟨n, h⟩ else none
    | none => none
  else none

end UUID

/-- `"%0kx" % n`, for a number with at most `k` digits. -/
def hexText : ℕ → ℕ → List Char
  | 0, _ => []
  | k + 1, n => Nat.digitChar (n / 16 ^ k) :: hexText k (n % 16 ^ k)

/-- 32 digits in groups. -/
def hyphenated (digits : List Char) : List Char :=
  digits.take 8 ++ '-' :: ((digits.drop 8).take 4 ++ '-' :: ((digits.drop 12).take 4 ++ '-' ::
    ((digits.drop 16).take 4 ++ '-' :: digits.drop 20)))

namespace UUID

/-- `u.hex`. -/
def hex (u : UUID) : List Char := hexText 32 u.int

/-- `str(u)`. -/
def str (u : UUID) : List Char := hyphenated u.hex

end UUID

/-! ### Reading digits -/

def IsHexDigit (c : Char) : Prop := (hexValue c).isSome = true

instance : DecidablePred IsHexDigit := fun _ => inferInstanceAs (Decidable (_ = true))

/-- The number that a text of digits stands for, after a number `acc`. -/
def hexNumber (acc : ℕ) (digits : List Char) : ℕ :=
  digits.foldl (fun acc c => 16 * acc + (hexValue c).getD 0) acc

lemma hexValue_digitChar {d : ℕ} (hd : d < 16) : hexValue (Nat.digitChar d) = some d := by
  have hall : ∀ i : Fin 16, hexValue (Nat.digitChar i) = some i.val := by decide
  exact hall ⟨d, hd⟩

lemma isHexDigit_iff {c : Char} : IsHexDigit c ↔ ∃ d, hexValue c = some d :=
  Option.isSome_iff_exists

lemma readDigits_of_digits {digits : List Char} (h : ∀ c ∈ digits, IsHexDigit c) (acc : ℕ) :
    readDigits false acc digits = some (hexNumber acc digits, []) := by
  induction digits generalizing acc with
  | nil => rfl
  | cons c rest ih =>
    obtain ⟨d, hd⟩ := isHexDigit_iff.mp (h c List.mem_cons_self)
    have hrest := ih (fun c' hc' => h c' (List.mem_cons_of_mem _ hc')) (16 * acc + d)
    simp only [readDigits, hd, hrest, hexNumber, List.foldl_cons, Option.getD_some]

lemma isHexDigit_hexText {k n : ℕ} (hn : n < 16 ^ k) : ∀ c ∈ hexText k n, IsHexDigit c := by
  induction k generalizing n with
  | zero => simp [hexText]
  | succ k ih =>
    have hpos : 0 < 16 ^ k := Nat.pow_pos (by decide)
    have hd : n / 16 ^ k < 16 := by
      rw [Nat.div_lt_iff_lt_mul hpos]
      rwa [pow_succ, Nat.mul_comm] at hn
    intro c hc
    rcases List.mem_cons.mp hc with rfl | hrest
    · exact isHexDigit_iff.mpr ⟨_, hexValue_digitChar hd⟩
    · exact ih (Nat.mod_lt _ hpos) c hrest

lemma length_hexText (k n : ℕ) : (hexText k n).length = k := by
  induction k generalizing n with
  | zero => rfl
  | succ k ih => rw [hexText, List.length_cons, ih]

/-- The digits of a number stand for it. -/
lemma hexNumber_hexText {k n : ℕ} (hn : n < 16 ^ k) (acc : ℕ) :
    hexNumber acc (hexText k n) = acc * 16 ^ k + n := by
  induction k generalizing n acc with
  | zero =>
    have hzero : n = 0 := by simpa using hn
    simp [hexText, hexNumber, hzero]
  | succ k ih =>
    have hpos : 0 < 16 ^ k := Nat.pow_pos (by decide)
    have hd : n / 16 ^ k < 16 := by
      rw [Nat.div_lt_iff_lt_mul hpos]
      rwa [pow_succ, Nat.mul_comm] at hn
    have hrest := ih (Nat.mod_lt n hpos) (16 * acc + n / 16 ^ k)
    have hsplit : 16 ^ k * (n / 16 ^ k) + n % 16 ^ k = n := Nat.div_add_mod n _
    calc hexNumber acc (hexText (k + 1) n)
        = hexNumber (16 * acc + n / 16 ^ k) (hexText k (n % 16 ^ k)) := by
          simp only [hexText, hexNumber, List.foldl_cons, hexValue_digitChar hd, Option.getD_some]
      _ = (16 * acc + n / 16 ^ k) * 16 ^ k + n % 16 ^ k := hrest
      _ = acc * 16 ^ (k + 1) + (16 ^ k * (n / 16 ^ k) + n % 16 ^ k) := by ring
      _ = acc * 16 ^ (k + 1) + n := by rw [hsplit]

/-! ### What is no digit -/

lemma toNat_of_isHexDigit {c : Char} (h : IsHexDigit c) :
    (48 ≤ c.toNat ∧ c.toNat ≤ 57) ∨ (97 ≤ c.toNat ∧ c.toNat ≤ 102) ∨
      (65 ≤ c.toNat ∧ c.toNat ≤ 70) := by
  unfold IsHexDigit hexValue at h
  split at h
  · rename_i hc
    exact .inl hc
  · split at h
    · rename_i hc
      exact .inr (.inl hc)
    · split at h
      · rename_i hc
        exact .inr (.inr hc)
      · cases h

lemma not_isIntSpace_of_isHexDigit {c : Char} (h : IsHexDigit c) : isIntSpace c = false := by
  have hrange := toNat_of_isHexDigit h
  simp only [isIntSpace, List.mem_cons, List.not_mem_nil, or_false, Bool.or_eq_false_iff,
    Bool.and_eq_false_iff, decide_eq_false_iff_not]
  omega

/-- A text of digits has none of the characters that the constructor looks for. -/
lemma notMem_of_digits {digits : List Char} (h : ∀ c ∈ digits, IsHexDigit c) {c : Char}
    (hc : hexValue c = none) : c ∉ digits := by
  intro hmem
  have hsome : (hexValue c).isSome = true := h c hmem
  rw [hc] at hsome
  cases hsome

lemma dropHexPrefix_of_digits {digits : List Char} (h : ∀ c ∈ digits, IsHexDigit c) :
    dropHexPrefix digits = digits := by
  unfold dropHexPrefix
  split
  · rename_i x rest
    have hx : ¬ (x = 'x' ∨ x = 'X') := by
      rintro (rfl | rfl)
      · exact notMem_of_digits h (c := 'x') (by decide) (by simp)
      · exact notMem_of_digits h (c := 'X') (by decide) (by simp)
    rw [if_neg hx]
  · rfl

/-- `int` reads a text of digits. -/
lemma int16_of_digits {digits : List Char} (h : ∀ c ∈ digits, IsHexDigit c)
    (hne : digits ≠ []) : int16 digits = some (hexNumber 0 digits) := by
  obtain ⟨c, rest, rfl⟩ := List.exists_cons_of_ne_nil hne
  have hc : IsHexDigit c := h c List.mem_cons_self
  have hspace : (c :: rest).dropWhile isIntSpace = c :: rest :=
    List.dropWhile_cons_of_neg (by simp [not_isIntSpace_of_isHexDigit hc])
  have hsign : c ≠ '+' := by
    rintro rfl
    exact absurd hc (by decide)
  unfold int16
  rw [hspace]
  have hplus : (match c :: rest with
      | '+' :: rest => rest
      | _ => c :: rest) = c :: rest := by
    split
    · rename_i heq
      rw [List.cons.injEq] at heq
      exact absurd heq.1 hsign
    · rfl
  simp only [hplus, dropHexPrefix_of_digits h]
  have hsome : (hexValue c).isSome = true := hc
  rw [if_pos hsome, readDigits_of_digits h]
  rfl

/-! ### The spellings -/

lemma removeAll_of_notMem {p : Char} {pattern s : List Char} (h : p ∉ s) :
    removeAll (p :: pattern) 0 s = s := by
  induction s with
  | nil => rfl
  | cons c rest ih =>
    have hno : ¬ p :: pattern <+: c :: rest := by
      rintro ⟨t, ht⟩
      rw [List.cons_append, List.cons.injEq] at ht
      exact h (by rw [ht.1]; exact List.mem_cons_self)
    have hrest : p ∉ rest := fun hmem => h (List.mem_cons_of_mem _ hmem)
    simp only [removeAll, if_neg hno, ih hrest]

/-- What may stand before the digits of a UUID. -/
def schemes : List (List Char) :=
  [[], "uuid:".toList, "urn:".toList, "urn:uuid:".toList]

/-- The schemes before a text without `u` are removed. -/
lemma removeAll_scheme {scheme s : List Char} (hscheme : scheme ∈ schemes) (hu : 'u' ∉ s) :
    removeAll "uuid:".toList 0 (removeAll "urn:".toList 0 (scheme ++ s)) = s := by
  have hurn : removeAll "urn:".toList 0 s = s := removeAll_of_notMem hu
  have huuid : removeAll "uuid:".toList 0 s = s := removeAll_of_notMem hu
  simp only [schemes, List.mem_cons, List.not_mem_nil, or_false] at hscheme
  rcases hscheme with rfl | rfl | rfl | rfl
  · rw [List.nil_append, hurn, huuid]
  · have hkept : removeAll "urn:".toList 0 ("uuid:".toList ++ s) = "uuid:".toList ++ s := by
      simpa [removeAll] using hurn
    rw [hkept]
    simpa [removeAll] using huuid
  · have hdropped : removeAll "urn:".toList 0 ("urn:".toList ++ s) = s := by
      simpa [removeAll] using hurn
    rw [hdropped, huuid]
  · have hdropped : removeAll "urn:".toList 0 ("urn:uuid:".toList ++ s) = "uuid:".toList ++ s := by
      simpa [removeAll] using hurn
    rw [hdropped]
    simpa [removeAll] using huuid

/-- Braces around a text without braces are stripped. -/
lemma stripBraces_braced {opening body closing : List Char}
    (hopening : ∀ c ∈ opening, isBrace c = true) (hbody : ∀ c ∈ body, isBrace c = false)
    (hclosing : ∀ c ∈ closing, isBrace c = true) :
    stripBraces (opening ++ (body ++ closing)) = body := by
  have hkept : ∀ {t : List Char}, (∀ c ∈ t, isBrace c = false) → t.dropWhile isBrace = t := by
    intro t ht
    cases t with
    | nil => rfl
    | cons c rest => exact List.dropWhile_cons_of_neg (by simp [ht c List.mem_cons_self])
  have hend : ∀ t : List Char, (t ++ closing).reverse.dropWhile isBrace =
      t.reverse.dropWhile isBrace := by
    intro t
    rw [List.reverse_append]
    exact List.dropWhile_append_of_pos fun c hc => hclosing c (List.mem_reverse.mp hc)
  have hreverse : ∀ c ∈ body.reverse, isBrace c = false := fun c hc =>
    hbody c (List.mem_reverse.mp hc)
  unfold stripBraces
  rw [List.dropWhile_append_of_pos hopening]
  cases body with
  | nil =>
    have hall : closing.dropWhile isBrace = [] := List.dropWhile_eq_nil_iff.mpr hclosing
    rw [List.nil_append, hall]
    rfl
  | cons c rest =>
    have hfront : (c :: rest ++ closing).dropWhile isBrace = c :: rest ++ closing := by
      rw [List.cons_append, List.dropWhile_cons_of_neg (by simp [hbody c List.mem_cons_self])]
    rw [hfront, hend, hkept hreverse, List.reverse_reverse]

/-- The groups of the digits, joined again. -/
lemma filter_hyphenated {digits : List Char} (h : '-' ∉ digits) :
    (hyphenated digits).filter (· ≠ '-') = digits := by
  have hkept : ∀ {part : List Char}, part ⊆ digits → part.filter (· ≠ '-') = part := by
    intro part hsub
    refine List.filter_eq_self.mpr fun c hc => ?_
    have hne : c ≠ '-' := by
      rintro rfl
      exact h (hsub hc)
    simpa using hne
  have hjoin : ∀ m n, (digits.drop m).take n ++ digits.drop (m + n) = digits.drop m := by
    intro m n
    rw [← List.drop_drop]
    exact List.take_append_drop n _
  have hgroup : ∀ m n, (digits.drop m).take n ⊆ digits := fun m n c hc =>
    List.mem_of_mem_drop (List.mem_of_mem_take hc)
  have hhyphen : ∀ t : List Char, ('-' :: t).filter (· ≠ '-') = t.filter (· ≠ '-') := fun t =>
    List.filter_cons_of_neg (by simp)
  simp only [hyphenated, List.filter_append, hhyphen, hkept (hgroup _ _),
    hkept (List.take_subset 8 digits), hkept (List.drop_subset 20 digits)]
  rw [hjoin 16 4, hjoin 12 4, hjoin 8 4, List.take_append_drop]

lemma mem_hyphenated {digits : List Char} {c : Char} (h : c ∈ hyphenated digits) :
    c = '-' ∨ c ∈ digits := by
  simp only [hyphenated, List.mem_append, List.mem_cons] at h
  have htake : ∀ {m n}, c ∈ (digits.drop m).take n → c ∈ digits := fun hc =>
    List.mem_of_mem_drop (List.mem_of_mem_take hc)
  rcases h with h | h | h | h | h | h | h | h | h
  · exact .inr (List.mem_of_mem_take h)
  · exact .inl h
  · exact .inr (htake h)
  · exact .inl h
  · exact .inr (htake h)
  · exact .inl h
  · exact .inr (htake h)
  · exact .inl h
  · exact .inr (List.mem_of_mem_drop h)

/-- The digits of a number are digits in lower case. -/
lemma toLower_hexText {k n : ℕ} (hn : n < 16 ^ k) :
    (hexText k n).map Char.toLower = hexText k n := by
  have hall : ∀ i : Fin 16, (Nat.digitChar i).toLower = Nat.digitChar i := by decide
  induction k generalizing n with
  | zero => rfl
  | succ k ih =>
    have hpos : 0 < 16 ^ k := Nat.pow_pos (by decide)
    have hd : n / 16 ^ k < 16 := by
      rw [Nat.div_lt_iff_lt_mul hpos]
      rwa [pow_succ, Nat.mul_comm] at hn
    rw [hexText, List.map_cons, hall ⟨_, hd⟩, ih (Nat.mod_lt _ hpos)]

/-- The case of a letter does not matter. -/
lemma hexValue_toLower (c : Char) : hexValue c.toLower = hexValue c := by
  have hall : ∀ i : Fin 26,
      hexValue (Char.ofNat (65 + i)).toLower = hexValue (Char.ofNat (65 + i)) := by decide
  by_cases hupper : 65 ≤ c.toNat ∧ c.toNat ≤ 90
  · have hlt : c.toNat - 65 < 26 := by omega
    have hletter : Char.ofNat (65 + (c.toNat - 65)) = c := by
      rw [Nat.add_sub_cancel' hupper.1, Char.ofNat_toNat]
    have hthis := hall ⟨_, hlt⟩
    rwa [hletter] at hthis
  · have hkept : c.toLower = c := dif_neg hupper
    rw [hkept]

lemma isHexDigit_toLower {c : Char} : IsHexDigit c.toLower ↔ IsHexDigit c := by
  rw [IsHexDigit, hexValue_toLower, IsHexDigit]

lemma hexNumber_toLower (acc : ℕ) (digits : List Char) :
    hexNumber acc (digits.map Char.toLower) = hexNumber acc digits := by
  simp only [hexNumber, List.foldl_map, hexValue_toLower]

/-- A text of the digits `digits`, in upper or lower case, with hyphens anywhere between them, in
any number of braces, after a scheme. -/
def Spells (digits s : List Char) : Prop :=
  ∃ scheme ∈ schemes, ∃ opening body closing, s = scheme ++ (opening ++ (body ++ closing)) ∧
    (∀ c ∈ opening, isBrace c = true) ∧ (∀ c ∈ closing, isBrace c = true) ∧
    (body.filter (· ≠ '-')).map Char.toLower = digits

namespace Spells

variable {digits s : List Char}

/-- The constructor finds the digits that a text spells, in the case that they have there. -/
lemma digitsOf_toLower (h : ∀ c ∈ digits, IsHexDigit c) (hs : Spells digits s) :
    (UUID.digitsOf s).map Char.toLower = digits := by
  obtain ⟨scheme, hscheme, opening, body, closing, rfl, hopening, hclosing, hdigits⟩ := hs
  have hbody : ∀ c ∈ body, c = '-' ∨ IsHexDigit c := by
    intro c hc
    by_cases hyphen : c = '-'
    · exact .inl hyphen
    · have hmem : c.toLower ∈ digits := by
        rw [← hdigits]
        exact List.mem_map_of_mem (List.mem_filter.mpr ⟨hc, by simpa using hyphen⟩)
      exact .inr (isHexDigit_toLower.mp (h _ hmem))
  have hbrace : ∀ c ∈ body, isBrace c = false := by
    intro c hc
    rcases hbody c hc with rfl | hdigit
    · decide
    · have h1 : c ≠ '{' := by
        rintro rfl
        exact absurd hdigit (by decide)
      have h2 : c ≠ '}' := by
        rintro rfl
        exact absurd hdigit (by decide)
      simp [isBrace, h1, h2]
  have hu : 'u' ∉ opening ++ (body ++ closing) := by
    intro hmem
    rcases List.mem_append.mp hmem with hmem | hmem
    · exact absurd (hopening _ hmem) (by decide)
    · rcases List.mem_append.mp hmem with hmem | hmem
      · rcases hbody _ hmem with heq | hdigit
        · exact absurd heq (by decide)
        · exact absurd hdigit (by decide)
      · exact absurd (hclosing _ hmem) (by decide)
  have hkept : removeAll "uuid:".toList 0 (removeAll "urn:".toList 0
      (scheme ++ (opening ++ (body ++ closing)))) = opening ++ (body ++ closing) :=
    removeAll_scheme hscheme hu
  rw [UUID.digitsOf, hkept, stripBraces_braced hopening hbrace hclosing, hdigits]

end Spells

namespace UUID

/-- **Every text that spells the digits of a UUID is read as that UUID.** -/
lemma ofHex_of_spells {u : UUID} {s : List Char} (hs : Spells u.hex s) : ofHex s = some u := by
  have hlt : u.int < 16 ^ 32 := u.lt
  have hhex : ∀ c ∈ u.hex, IsHexDigit c := isHexDigit_hexText hlt
  have hlower : (digitsOf s).map Char.toLower = u.hex := hs.digitsOf_toLower hhex
  have hdigits : ∀ c ∈ digitsOf s, IsHexDigit c := by
    intro c hc
    have hmem : c.toLower ∈ u.hex := by
      rw [← hlower]
      exact List.mem_map_of_mem hc
    exact isHexDigit_toLower.mp (hhex _ hmem)
  have hlength : (digitsOf s).length = 32 := by
    rw [← List.length_map Char.toLower, hlower]
    exact length_hexText 32 u.int
  have hne : digitsOf s ≠ [] := by
    intro hnil
    rw [hnil] at hlength
    cases hlength
  have hnumber : hexNumber 0 (digitsOf s) = u.int := by
    calc hexNumber 0 (digitsOf s)
        = hexNumber 0 ((digitsOf s).map Char.toLower) := (hexNumber_toLower 0 _).symm
      _ = hexNumber 0 (hexText 32 u.int) := by rw [hlower]; rfl
      _ = u.int := by rw [hexNumber_hexText hlt, Nat.zero_mul, Nat.zero_add]
  unfold ofHex
  simp only [hlength, if_true, int16_of_digits hdigits hne, hnumber, dif_pos u.lt]

/-- The text of a UUID spells it. -/
lemma spells_str (u : UUID) : Spells u.hex u.str := by
  have hhex : ∀ c ∈ u.hex, IsHexDigit c := isHexDigit_hexText u.lt
  have hyphen : '-' ∉ u.hex := notMem_of_digits hhex (by decide)
  refine ⟨[], by simp [schemes], [], u.str, [], by simp, by simp, by simp, ?_⟩
  rw [str, filter_hyphenated hyphen]
  exact toLower_hexText u.lt

lemma ofHex_str (u : UUID) : ofHex u.str = some u := ofHex_of_spells u.spells_str

end UUID

end ImageDescriptor
