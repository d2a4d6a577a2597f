/-
# Strings

The string functions of Python that the modules use, on lists of characters.  The character
classes are those of the Unicode version that Python 3.11 carries.
-/
import Mathlib.Data.List.TakeWhile
import ImageDescriptor.Python.Numbers

namespace ImageDescriptor

/-- The decimal digits zero; the other nine digits of a script follow its zero. -/
def digitZeros : List ℕ :=
  [0x30, 0x660, 0x6f0, 0x7c0, 0x966, 0x9e6, 0xa66, 0xae6, 0xb66, 0xbe6, 0xc66, 0xce6, 0xd66,
    0xde6, 0xe50, 0xed0, 0xf20, 0x1040, 0x1090, 0x17e0, 0x1810, 0x1946, 0x19d0, 0x1a80, 0x1a90,
    0x1b50, 0x1bb0, 0x1c40, 0x1c50, 0xa620, 0xa8d0, 0xa900, 0xa9d0, 0xa9f0, 0xaa50, 0xabf0,
    0xff10, 0x104a0, 0x10d30, 0x11066, 0x110f0, 0x11136, 0x111d0, 0x112f0, 0x11450, 0x114d0,
    0x11650, 0x116c0, 0x11730, 0x118e0, 0x11950, 0x11c50, 0x11d50, 0x11da0, 0x16a60, 0x16ac0,
    0x16b50, 0x1d7ce, 0x1d7d8, 0x1d7e2, 0x1d7ec, 0x1d7f6, 0x1e140, 0x1e2f0, 0x1e950, 0x1fbf0]

/-- The class `\d` of `re`. -/
def isDecimalDigit (c : Char) : Bool :=
  digitZeros.any fun z => decide (z ≤ c.toNat) && decide (c.toNat < z + 10)

/-- The value of a decimal digit, as `int` reads it. -/
def decimalValue (c : Char) : ℕ :=
  c.toNat - (digitZeros.find? fun z => decide (z ≤ c.toNat) && decide (c.toNat < z + 10)).getD 0

/-- The class `\s` of `re`, which is also `str.isspace` on one character. -/
def isSpace (c : Char) : Bool :=
  let n := c.toNat
  (decide (0x9 ≤ n) && decide (n ≤ 0xd)) || (decide (0x1c ≤ n) && decide (n ≤ 0x20)) ||
    (decide (0x2000 ≤ n) && decide (n ≤ 0x200a)) ||
    decide (n ∈ [0x85, 0xa0, 0x1680, 0x2028, 0x2029, 0x202f, 0x205f, 0x3000])

/-- The length of a match of `,?\s*\d{5}\s*` at the beginning of a text.  No repetition has
to give back what it has taken: no digit is a space or a comma. -/
def postcodeMatch (s : List Char) : Option ℕ :=
  let afterComma := match s with
    | ',' :: rest => rest
    | _ => s
  let digits := afterComma.dropWhile isSpace
  if (digits.take 5).length = 5 && (digits.take 5).all isDecimalDigit then
    some (s.length - ((digits.drop 5).dropWhile isSpace).length)
  else none

/-- A text without the next `skip` characters and without the matches that follow. -/
def removePostcodes (skip : ℕ) : List Char → List Char
  | [] => []
  | c :: rest =>
    match skip with
    | n + 1 => removePostcodes n rest
    | 0 =>
      match postcodeMatch (c :: rest) with
      | some n => removePostcodes (n - 1) rest
      | none => c :: removePostcodes 0 rest

/-- `s.strip(chars)`. -/
def strip (chars : List Char) (s : List Char) : List Char :=
  let s := s.dropWhile fun c => decide (c ∈ chars)
  (s.reverse.dropWhile fun c => decide (c ∈ chars)).reverse

/-- `repr(float)` for an integral value below `10 ^ 16`. -/
def reprIntegral (n : ℤ) : String := toString n ++ ".0"

/-- `repr(round(x, decimals))`, for a value below `10 ^ 16` and at most four decimals: the
digits without trailing zeros, but one digit after the point. -/
def reprRounded (x : ℚ) (decimals : ℕ) : String :=
  let scaled := (roundHalfEven (x * 10 ^ decimals)).natAbs
  let digits := (Nat.toDigits 10 (scaled % 10 ^ decimals)).reverse
  let fraction :=
    (digits ++ List.replicate (decimals - digits.length) '0').dropWhile (· = '0')
  (if x < 0 then "-" else "") ++ toString (scaled / 10 ^ decimals) ++ "." ++
    (if fraction = [] then "0" else String.ofList fraction.reverse)

/-! ### The text of a rounded value -/

/-- The decimals of `r / 10 ^ decimals` without trailing zeros, the last one first. -/
def fractionDigits (r decimals : ℕ) : List Char :=
  let digits := (Nat.toDigits 10 r).reverse
  (digits ++ List.replicate (decimals - digits.length) '0').dropWhile (· = '0')

lemma reprRounded_eq (x : ℚ) (decimals : ℕ) :
    reprRounded x decimals = (if x < 0 then "-" else "") ++
      toString ((roundHalfEven (x * 10 ^ decimals)).natAbs / 10 ^ decimals) ++ "." ++
        (if fractionDigits ((roundHalfEven (x * 10 ^ decimals)).natAbs % 10 ^ decimals) decimals = []
          then "0"
          else String.ofList (fractionDigits
            ((roundHalfEven (x * 10 ^ decimals)).natAbs % 10 ^ decimals) decimals).reverse) := rfl

/-- What is left out are zeros, so that the decimals determine the number. -/
lemma ofDigitChars_fractionDigits {r decimals : ℕ} (hpos : 0 < decimals) (hr : r < 10 ^ decimals) :
    10 ^ (decimals - (fractionDigits r decimals).length) *
      Nat.ofDigitChars 10 (fractionDigits r decimals).reverse 0 = r := by
  have hlength : (Nat.toDigits 10 r).length ≤ decimals :=
    (Nat.length_toDigits_le_iff (by decide) hpos).mpr hr
  obtain ⟨padded, hpadded⟩ : ∃ padded, (Nat.toDigits 10 r).reverse ++
      List.replicate (decimals - (Nat.toDigits 10 r).reverse.length) '0' = padded := ⟨_, rfl⟩
  have hdigits : fractionDigits r decimals = padded.dropWhile (· = '0') := by
    rw [← hpadded]
    rfl
  have hvalue : Nat.ofDigitChars 10 padded.reverse 0 = r := by
    rw [← hpadded, List.reverse_append, List.reverse_replicate, List.reverse_reverse,
      Nat.ofDigitChars_append, Nat.ofDigitChars_replicate_zero, Nat.mul_zero,
      Nat.ofDigitChars_ten_toDigits]
  have htotal : padded.length = decimals := by
    rw [← hpadded, List.length_append, List.length_replicate, List.length_reverse]
    omega
  have hzeros : padded.takeWhile (· = '0') =
      List.replicate (padded.takeWhile (· = '0')).length '0' :=
    List.eq_replicate_of_mem fun c hc => by simpa using List.mem_takeWhile_imp hc
  have hsplit : padded.takeWhile (· = '0') ++ padded.dropWhile (· = '0') = padded :=
    List.takeWhile_append_dropWhile
  have hcount : decimals - (padded.dropWhile (· = '0')).length =
      (padded.takeWhile (· = '0')).length := by
    have hsum := congrArg List.length hsplit
    rw [List.length_append] at hsum
    omega
  rw [hdigits, hcount]
  rw [← hsplit, List.reverse_append, hzeros, List.reverse_replicate, Nat.ofDigitChars_append,
    Nat.ofDigitChars_replicate_zero] at hvalue
  exact hvalue

lemma fractionDigits_ne_zero (r decimals : ℕ) : fractionDigits r decimals ≠ ['0'] := by
  intro h
  have hhead := List.head?_dropWhile_not (fun c : Char => decide (c = '0'))
    ((Nat.toDigits 10 r).reverse ++
      List.replicate (decimals - (Nat.toDigits 10 r).reverse.length) '0')
  have hzero : ((Nat.toDigits 10 r).reverse ++
      List.replicate (decimals - (Nat.toDigits 10 r).reverse.length) '0').dropWhile
        (· = '0') = ['0'] := h
  rw [hzero] at hhead
  simp at hhead

lemma isDigit_of_mem_fractionDigits {r decimals : ℕ} {c : Char} (hc : c ∈ fractionDigits r decimals) :
    c.isDigit = true := by
  have hpadded := (List.dropWhile_sublist _).subset hc
  rcases List.mem_append.mp hpadded with hdigit | hzero
  · exact Nat.isDigit_of_mem_toDigits (by decide) (by decide) (List.mem_reverse.mp hdigit)
  · obtain rfl := List.eq_of_mem_replicate hzero
    rfl

/-- The decimals behind the point. -/
def fractionText (r decimals : ℕ) : List Char :=
  if fractionDigits r decimals = [] then ['0'] else (fractionDigits r decimals).reverse

lemma isDigit_of_mem_fractionText {r decimals : ℕ} {c : Char} (hc : c ∈ fractionText r decimals) :
    c.isDigit = true := by
  unfold fractionText at hc
  split at hc
  · obtain rfl := List.mem_singleton.mp hc
    rfl
  · exact isDigit_of_mem_fractionDigits (List.mem_reverse.mp hc)

/-- The decimals determine the number, whose zeros they leave out. -/
lemma fractionText_inj {r r' decimals : ℕ} (hpos : 0 < decimals) (hr : r < 10 ^ decimals)
    (hr' : r' < 10 ^ decimals) (h : fractionText r decimals = fractionText r' decimals) :
    r = r' := by
  have hdigits : fractionDigits r decimals = fractionDigits r' decimals := by
    unfold fractionText at h
    split at h
    · rename_i hnil
      split at h
      · rename_i hnil'
        rw [hnil, hnil']
      · -- a single zero is left out as well
        exact absurd (List.reverse_eq_iff.mp h.symm) (fractionDigits_ne_zero r' decimals)
    · split at h
      · exact absurd (List.reverse_eq_iff.mp h) (fractionDigits_ne_zero r decimals)
      · exact List.reverse_injective h
  rw [← ofDigitChars_fractionDigits hpos hr, ← ofDigitChars_fractionDigits hpos hr', hdigits]

/-- The text of a rounded value: a sign, digits, a point and digits. -/
lemma toList_reprRounded (x : ℚ) (decimals : ℕ) :
    (reprRounded x decimals).toList = ((if x < 0 then ['-'] else []) ++
      Nat.toDigits 10 ((roundHalfEven (x * 10 ^ decimals)).natAbs / 10 ^ decimals)) ++
        '.' :: fractionText ((roundHalfEven (x * 10 ^ decimals)).natAbs % 10 ^ decimals) decimals := by
  rw [reprRounded_eq, fractionText]
  split <;> split <;> simp

/-- No text of a rounded value contains a character that is no digit, point or minus sign. -/
lemma notMem_reprRounded {c : Char} (hdigit : c.isDigit = false) (hsign : c ≠ '-') (hpoint : c ≠ '.')
    (x : ℚ) (decimals : ℕ) : c ∉ (reprRounded x decimals).toList := by
  rw [toList_reprRounded]
  intro hc
  have hnot : ∀ {d : Char}, d.isDigit = true → c ≠ d := by
    rintro d hd rfl
    rw [hdigit] at hd
    cases hd
  rcases List.mem_append.mp hc with hc | hc
  · rcases List.mem_append.mp hc with hc | hc
    · split at hc
      · exact hsign (List.mem_singleton.mp hc)
      · cases hc
    · exact hnot (Nat.isDigit_of_mem_toDigits (by decide) (by decide) hc) rfl
  · rcases List.mem_cons.mp hc with rfl | hc
    · exact hpoint rfl
    · exact hnot (isDigit_of_mem_fractionText hc) rfl

/-- A text is cut at the first of its separators in one way only. -/
lemma cut_at_first {α : Type*} {x : α} {a b c d : List α} (ha : x ∉ a) (hc : x ∉ c)
    (h : a ++ x :: b = c ++ x :: d) : a = c ∧ b = d := by
  induction a generalizing c with
  | nil =>
    cases c with
    | nil => exact ⟨rfl, by simpa using h⟩
    | cons y c =>
      simp only [List.nil_append, List.cons_append, List.cons.injEq] at h
      exact absurd h.1 fun hxy => hc (hxy ▸ List.mem_cons_self)
  | cons y a ih =>
    cases c with
    | nil =>
      simp only [List.nil_append, List.cons_append, List.cons.injEq] at h
      exact absurd h.1 fun hyx => ha (hyx ▸ List.mem_cons_self)
    | cons z c =>
      simp only [List.cons_append, List.cons.injEq] at h
      obtain ⟨rfl, hrest⟩ := h
      obtain ⟨rfl, hbd⟩ := ih (fun hmem => ha (List.mem_cons_of_mem _ hmem))
        (fun hmem => hc (List.mem_cons_of_mem _ hmem)) hrest
      exact ⟨rfl, hbd⟩

/-- And at the last of them. -/
lemma cut_at_last {α : Type*} {x : α} {a b c d : List α} (hb : x ∉ b) (hd : x ∉ d)
    (h : a ++ x :: b = c ++ x :: d) : a = c ∧ b = d := by
  have hreverse : b.reverse ++ x :: a.reverse = d.reverse ++ x :: c.reverse := by
    simpa using congrArg List.reverse h
  obtain ⟨hbd, hac⟩ := cut_at_first (fun hmem => hb (List.mem_reverse.mp hmem))
    (fun hmem => hd (List.mem_reverse.mp hmem)) hreverse
  exact ⟨List.reverse_injective hac, List.reverse_injective hbd⟩

lemma notMem_toDigits {c : Char} (hc : c.isDigit = false) (n : ℕ) : c ∉ Nat.toDigits 10 n := by
  intro hmem
  rw [Nat.isDigit_of_mem_toDigits (by decide) (by decide) hmem] at hc
  cases hc

/-- The sign and the digits in front of the point determine the sign and the number. -/
lemma signed_inj {x y : ℚ} {m n : ℕ}
    (h : (if x < 0 then ['-'] else []) ++ Nat.toDigits 10 m =
      (if y < 0 then ['-'] else []) ++ Nat.toDigits 10 n) : (x < 0 ↔ y < 0) ∧ m = n := by
  have hnumber : Nat.toDigits 10 m = Nat.toDigits 10 n → m = n := fun heq => by
    rw [← Nat.ofDigitChars_ten_toDigits (n := m), heq, Nat.ofDigitChars_ten_toDigits]
  have hsign : ∀ k, '-' ∉ Nat.toDigits 10 k := notMem_toDigits (by decide)
  by_cases hx : x < 0
  · by_cases hy : y < 0
    · simp only [hx, hy, if_true, List.cons_append, List.nil_append, List.cons.injEq, true_and] at h
      exact ⟨iff_of_true hx hy, hnumber h⟩
    · simp only [hx, hy, if_true, if_false, List.cons_append, List.nil_append] at h
      exact absurd (h ▸ List.mem_cons_self) (hsign n)
  · by_cases hy : y < 0
    · simp only [hx, hy, if_true, if_false, List.cons_append, List.nil_append] at h
      exact absurd (h ▸ List.mem_cons_self) (hsign m)
    · simp only [hx, hy, if_false, List.nil_append] at h
      exact ⟨iff_of_false hx hy, hnumber h⟩

/-- Rounding keeps the sign. -/
lemma roundHalfEven_nonpos {x : ℚ} (h : x ≤ 0) : roundHalfEven x ≤ 0 := by
  have hzero : roundHalfEven 0 = 0 := by decide +kernel
  rw [← hzero]
  exact roundHalfEven_mono h

lemma roundHalfEven_nonneg {x : ℚ} (h : 0 ≤ x) : 0 ≤ roundHalfEven x := by
  have hzero : roundHalfEven 0 = 0 := by decide +kernel
  rw [← hzero]
  exact roundHalfEven_mono h

/-- **The text of a rounded value determines it.** -/
theorem reprRounded_inj {x y : ℚ} {decimals : ℕ} (hpos : 0 < decimals)
    (h : reprRounded x decimals = reprRounded y decimals) :
    roundHalfEven (x * 10 ^ decimals) = roundHalfEven (y * 10 ^ decimals) := by
  have hpow : (0 : ℚ) < 10 ^ decimals := by positivity
  have hpow' : 0 < 10 ^ decimals := Nat.pow_pos (by decide)
  have hpoint : ∀ (z : ℚ) (n : ℕ), '.' ∉ (if z < 0 then ['-'] else []) ++ Nat.toDigits 10 n := by
    intro z n hmem
    rcases List.mem_append.mp hmem with hmem | hmem
    · split at hmem
      · exact absurd (List.mem_singleton.mp hmem) (by decide)
      · cases hmem
    · exact notMem_toDigits (by decide) n hmem
  have htext := congrArg String.toList h
  rw [toList_reprRounded, toList_reprRounded] at htext
  obtain ⟨hhead, hfraction⟩ := cut_at_first (hpoint _ _) (hpoint _ _) htext
  obtain ⟨hsign, hdiv⟩ := signed_inj hhead
  have hmod := fractionText_inj hpos (Nat.mod_lt _ hpow') (Nat.mod_lt _ hpow') hfraction
  have habs : (roundHalfEven (x * 10 ^ decimals)).natAbs =
      (roundHalfEven (y * 10 ^ decimals)).natAbs := by
    rw [← Nat.div_add_mod (roundHalfEven (x * 10 ^ decimals)).natAbs (10 ^ decimals), hdiv, hmod,
      Nat.div_add_mod]
  by_cases hx : x < 0
  · have hx' := roundHalfEven_nonpos (mul_nonpos_of_nonpos_of_nonneg hx.le hpow.le)
    have hy' := roundHalfEven_nonpos (mul_nonpos_of_nonpos_of_nonneg (hsign.mp hx).le hpow.le)
    omega
  · have hy : ¬ y < 0 := fun hy => hx (hsign.mpr hy)
    have hx' := roundHalfEven_nonneg (mul_nonneg (not_lt.mp hx) hpow.le)
    have hy' := roundHalfEven_nonneg (mul_nonneg (not_lt.mp hy) hpow.le)
    omega

end ImageDescriptor
