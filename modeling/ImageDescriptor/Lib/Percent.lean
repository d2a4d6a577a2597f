/-
# Percent encoding

Texts are byte strings here.  Decoding replaces every escape, a percent sign and two
hexadecimal digits, by its byte and leaves a percent sign before anything else alone;
encoding replaces the bytes outside of a set by their escapes.  When the set contains the
percent sign the escapes that a text already has are kept, so that encoding such a text and
decoding it once gives what decoding the text gives: the text itself exactly when it has no
escape.  The last section cuts a reference into its path and its query.
-/
import Mathlib.Data.List.TakeWhile
import Mathlib.Data.Fintype.Basic

namespace ImageDescriptor.Lib

/-- The percent sign. -/
def percent : UInt8 := 0x25

/-- The value of a hexadecimal digit of either case. -/
def hexValue (c : UInt8) : Option UInt8 :=
  if 0x30 ≤ c ∧ c ≤ 0x39 then some (c - 0x30)
  else if 0x41 ≤ c ∧ c ≤ 0x46 then some (c - 0x37)
  else if 0x61 ≤ c ∧ c ≤ 0x66 then some (c - 0x57)
  else none

/-- The hexadecimal digit of a number below 16, in upper case. -/
def hexDigit (n : UInt8) : UInt8 := if n < 10 then 0x30 + n else 0x37 + n

/-- The byte for which two hexadecimal digits stand. -/
def decodePair (a b : UInt8) : Option UInt8 :=
  match hexValue a, hexValue b with
  | some x, some y => some (16 * x + y)
  | _, _ => none

/-- The byte of the escape whose digits a text begins with. -/
def escapeAt : List UInt8 → Option UInt8
  | a :: b :: _ => decodePair a b
  | _ => none

/-- Percent decoding. -/
def unquote : List UInt8 → List UInt8
  | c :: a :: b :: rest =>
    if c = percent then
      match decodePair a b with
      | some x => x :: unquote rest
      | none => c :: unquote (a :: b :: rest)
    else c :: unquote (a :: b :: rest)
  | short => short

/-- The escape of a byte. -/
def escape (c : UInt8) : List UInt8 := [percent, hexDigit (c / 16), hexDigit (c % 16)]

/-- Percent encoding of the bytes that are not kept. -/
def quote (keeps : UInt8 → Bool) (b : List UInt8) : List UInt8 :=
  b.flatMap fun c => if keeps c then [c] else escape c

/-- Some percent sign of a text is followed by two hexadecimal digits. -/
def hasEscape : List UInt8 → Bool
  | [] => false
  | c :: rest => (c = percent && (escapeAt rest).isSome) || hasEscape rest

/-! ### Decoding -/

lemma unquote_cons_of_ne {c : UInt8} (hc : c ≠ percent) (rest : List UInt8) :
    unquote (c :: rest) = c :: unquote rest := by
  match rest with
  | [] => rfl
  | [_] => rfl
  | a :: b :: rest => rw [unquote, if_neg hc]

lemma unquote_percent {rest : List UInt8} (h : escapeAt rest = none) :
    unquote (percent :: rest) = percent :: unquote rest := by
  match rest, h with
  | [], _ => rfl
  | [_], _ => rfl
  | a :: b :: rest, h =>
    have hpair : decodePair a b = none := h
    rw [unquote, if_pos rfl, hpair]

lemma unquote_escape {a b x : UInt8} (h : decodePair a b = some x) (rest : List UInt8) :
    unquote (percent :: a :: b :: rest) = x :: unquote rest := by
  rw [unquote, if_pos rfl, h]

/-- The three ways in which decoding proceeds. -/
lemma unquote_induction {P : List UInt8 → Prop} (nil : P [])
    (escaped : ∀ a b x rest, decodePair a b = some x → P rest → P (percent :: a :: b :: rest))
    (plain : ∀ rest, escapeAt rest = none → P rest → P (percent :: rest))
    (other : ∀ c rest, c ≠ percent → P rest → P (c :: rest)) : ∀ b, P b := by
  intro b
  induction hn : b.length using Nat.strong_induction_on generalizing b with
  | _ n ih =>
    subst hn
    have shorter : ∀ b', b'.length < b.length → P b' := fun b' hlt => ih _ hlt b' rfl
    match b, shorter with
    | [], _ => exact nil
    | c :: rest, shorter =>
      by_cases hc : c = percent
      · subst hc
        cases hescape : escapeAt rest with
        | none => exact plain rest hescape (shorter rest (by simp))
        | some x =>
          match rest, hescape with
          | a :: d :: rest', hescape =>
            exact escaped a d x rest' hescape (shorter rest' (by simp only [List.length_cons]; omega))
      · exact other c rest hc (shorter rest (by simp))

/-- Decoding does not lengthen a text. -/
lemma length_unquote_le (b : List UInt8) : (unquote b).length ≤ b.length := by
  induction b using unquote_induction with
  | nil => simp [unquote]
  | escaped a b x rest hpair ih =>
    rw [unquote_escape hpair]
    simp only [List.length_cons]
    omega
  | plain rest hnone ih =>
    rw [unquote_percent hnone]
    simpa using ih
  | other c rest hc ih =>
    rw [unquote_cons_of_ne hc]
    simpa using ih

/-- Decoding leaves exactly the texts without an escape unchanged. -/
theorem unquote_eq_self_iff (b : List UInt8) : unquote b = b ↔ hasEscape b = false := by
  induction b using unquote_induction with
  | nil => simp [unquote, hasEscape]
  | escaped a b x rest hpair ih =>
    have hlt : (unquote (percent :: a :: b :: rest)).length < (percent :: a :: b :: rest).length := by
      have hle := length_unquote_le rest
      rw [unquote_escape hpair]
      simp only [List.length_cons]
      omega
    have hescape : hasEscape (percent :: a :: b :: rest) = true := by
      simp [hasEscape, escapeAt, hpair]
    constructor
    · intro heq
      rw [heq] at hlt
      omega
    · intro hno
      rw [hescape] at hno
      cases hno
  | plain rest hnone ih =>
    rw [unquote_percent hnone]
    simp [hasEscape, hnone, ih]
  | other c rest hc ih =>
    rw [unquote_cons_of_ne hc]
    simp [hasEscape, hc, ih]

/-- A text without a percent sign in front of another is not touched. -/
lemma unquote_append {a : List UInt8} (ha : percent ∉ a) (b : List UInt8) :
    unquote (a ++ b) = a ++ unquote b := by
  induction a with
  | nil => rfl
  | cons c a ih =>
    have hc : c ≠ percent := fun h => ha (by simp [h])
    have ha' : percent ∉ a := fun h => ha (List.mem_cons_of_mem c h)
    rw [List.cons_append, unquote_cons_of_ne hc, ih ha', List.cons_append]

/-! ### Encoding -/

lemma decodePair_escape (c : UInt8) :
    decodePair (hexDigit (c / 16)) (hexDigit (c % 16)) = some c := by
  have hall : ∀ i : Fin 256, decodePair (hexDigit (UInt8.ofFin i / 16))
      (hexDigit (UInt8.ofFin i % 16)) = some (UInt8.ofFin i) := by decide +kernel
  exact hall c.toFin

/-- The set of kept bytes has the percent sign and the hexadecimal digits, so that escapes
stay escapes. -/
structure KeepsEscapes (keeps : UInt8 → Bool) : Prop where
  percent : keeps percent = true
  digit : ∀ c, (hexValue c).isSome → keeps c = true

variable {keeps : UInt8 → Bool}

@[simp] lemma quote_nil : quote keeps [] = [] := rfl

lemma quote_cons_of_kept {c : UInt8} (hc : keeps c = true) (rest : List UInt8) :
    quote keeps (c :: rest) = c :: quote keeps rest := by
  simp [quote, hc]

lemma quote_cons_of_not_kept {c : UInt8} (hc : keeps c = false) (rest : List UInt8) :
    quote keeps (c :: rest) = percent :: hexDigit (c / 16) :: hexDigit (c % 16) :: quote keeps rest := by
  simp [quote, hc, escape]

/-- A text all of whose bytes are kept is not changed. -/
lemma quote_eq_self {b : List UInt8} (hb : ∀ c ∈ b, keeps c = true) : quote keeps b = b := by
  induction b with
  | nil => rfl
  | cons c b ih =>
    rw [quote_cons_of_kept (hb c (by simp)), ih fun d hd => hb d (List.mem_cons_of_mem c hd)]

lemma digits_of_decodePair {a b x : UInt8} (h : decodePair a b = some x) :
    (hexValue a).isSome ∧ (hexValue b).isSome := by
  simp only [decodePair] at h
  split at h
  · rename_i ha hb
    exact ⟨by simp [ha], by simp [hb]⟩
  · cases h

/-- Encoding makes no escape after a percent sign that is not one of an escape. -/
lemma escapeAt_quote {b : List UInt8} (h : escapeAt b = none) :
    escapeAt (quote keeps b) = none := by
  have hpercent : hexValue percent = none := by decide
  match b, h with
  | [], _ => rfl
  | [a], _ =>
    cases ha : keeps a with
    | true => rw [quote_cons_of_kept ha]; rfl
    | false => rw [quote_cons_of_not_kept ha]; simp [escapeAt, decodePair, hpercent]
  | a :: c :: rest, h =>
    have hpair : decodePair a c = none := h
    cases ha : keeps a with
    | false =>
      -- the escape of the first byte begins with a percent sign
      rw [quote_cons_of_not_kept ha]
      simp [escapeAt, decodePair, hpercent]
    | true =>
      rw [quote_cons_of_kept ha]
      cases hc : keeps c with
      | true =>
        rw [quote_cons_of_kept hc]
        exact hpair
      | false =>
        rw [quote_cons_of_not_kept hc]
        cases hvalue : hexValue a <;> simp [escapeAt, decodePair, hvalue, hpercent]

/-- **Encoding and decoding once.**  What comes out is the decoded text, not the text. -/
theorem unquote_quote (hk : KeepsEscapes keeps) (b : List UInt8) :
    unquote (quote keeps b) = unquote b := by
  induction b using unquote_induction with
  | nil => rfl
  | escaped a b x rest hpair ih =>
    obtain ⟨ha, hb⟩ := digits_of_decodePair hpair
    rw [quote_cons_of_kept hk.percent, quote_cons_of_kept (hk.digit a ha),
      quote_cons_of_kept (hk.digit b hb), unquote_escape hpair, unquote_escape hpair, ih]
  | plain rest hnone ih =>
    rw [quote_cons_of_kept hk.percent, unquote_percent (escapeAt_quote hnone),
      unquote_percent hnone, ih]
  | other c rest hc ih =>
    rw [unquote_cons_of_ne hc]
    cases hkept : keeps c with
    | true => rw [quote_cons_of_kept hkept, unquote_cons_of_ne hc, ih]
    | false => rw [quote_cons_of_not_kept hkept, unquote_escape (decodePair_escape c), ih]

/-- Encoding leaves the places alone at which a text is cut: bytes that are kept and are in
no escape. -/
lemma takeWhile_quote {p : UInt8 → Bool} (hkept : ∀ c, p c = false → keeps c = true)
    (hescape : ∀ c, ∀ d ∈ escape c, p d = true) (b : List UInt8) :
    (quote keeps b).takeWhile p = quote keeps (b.takeWhile p) := by
  induction b with
  | nil => rfl
  | cons c b ih =>
    cases hp : p c with
    | false => rw [quote_cons_of_kept (hkept c hp)]; simp [hp]
    | true =>
      rw [List.takeWhile_cons_of_pos hp]
      cases hc : keeps c with
      | true => rw [quote_cons_of_kept hc, quote_cons_of_kept hc, List.takeWhile_cons_of_pos hp, ih]
      | false =>
        have hall := hescape c
        simp only [escape, List.mem_cons, List.not_mem_nil, or_false, forall_eq_or_imp,
          forall_eq] at hall
        obtain ⟨h₁, h₂, h₃⟩ := hall
        rw [quote_cons_of_not_kept hc, quote_cons_of_not_kept hc, List.takeWhile_cons_of_pos h₁,
          List.takeWhile_cons_of_pos h₂, List.takeWhile_cons_of_pos h₃, ih]

lemma dropWhile_quote {p : UInt8 → Bool} (hkept : ∀ c, p c = false → keeps c = true)
    (hescape : ∀ c, ∀ d ∈ escape c, p d = true) (b : List UInt8) :
    (quote keeps b).dropWhile p = quote keeps (b.dropWhile p) := by
  induction b with
  | nil => rfl
  | cons c b ih =>
    cases hp : p c with
    | false =>
      rw [List.dropWhile_cons_of_neg (by simp [hp]), quote_cons_of_kept (hkept c hp),
        List.dropWhile_cons_of_neg (by simp [hp])]
    | true =>
      rw [List.dropWhile_cons_of_pos hp]
      cases hc : keeps c with
      | true => rw [quote_cons_of_kept hc, List.dropWhile_cons_of_pos hp, ih]
      | false =>
        have hall := hescape c
        simp only [escape, List.mem_cons, List.not_mem_nil, or_false, forall_eq_or_imp,
          forall_eq] at hall
        obtain ⟨h₁, h₂, h₃⟩ := hall
        rw [quote_cons_of_not_kept hc, List.dropWhile_cons_of_pos h₁,
          List.dropWhile_cons_of_pos h₂, List.dropWhile_cons_of_pos h₃, ih]

/-! ### The parts of a reference -/

/-- The mark before the query. -/
def queryMark : UInt8 := 0x3f

/-- The mark before the fragment. -/
def fragmentMark : UInt8 := 0x23

/-- The path of a reference without scheme and authority. -/
def pathOf (ref : List UInt8) : List UInt8 :=
  ref.takeWhile fun c => c != queryMark && c != fragmentMark

/-- The query of a reference, empty when there is none. -/
def queryOf (ref : List UInt8) : List UInt8 :=
  ((ref.takeWhile (· != fragmentMark)).dropWhile (· != queryMark)).tail

/-- A text in which neither mark stands. -/
def noMark (b : List UInt8) : Bool := b.all fun c => c != queryMark && c != fragmentMark

/-- A query behind its mark; an empty one has none. -/
def withMark (query : List UInt8) : List UInt8 :=
  if query = [] then [] else queryMark :: query

lemma pathOf_withMark (query : List UInt8) : pathOf (withMark query) = [] := by
  rw [withMark]
  split
  · rfl
  · rfl

/-- What precedes the path's first mark is the path, whatever query follows. -/
lemma pathOf_append_withMark (a query : List UInt8) : pathOf (a ++ withMark query) = pathOf a := by
  induction a with
  | nil => exact pathOf_withMark query
  | cons c a ih =>
    rw [List.cons_append, pathOf, pathOf, List.takeWhile_cons, List.takeWhile_cons]
    split
    · rw [show (a ++ withMark query).takeWhile _ = a.takeWhile _ from ih]
    · rfl

lemma pathOf_append {a : List UInt8} (ha : noMark a = true) (b : List UInt8) :
    pathOf (a ++ b) = a ++ pathOf b :=
  List.takeWhile_append_of_pos fun c hc => List.all_eq_true.mp ha c hc

/-- A text is its own path exactly when it has no mark. -/
lemma pathOf_eq_self_iff (b : List UInt8) : pathOf b = b ↔ noMark b = true := by
  rw [pathOf, List.takeWhile_eq_self_iff, noMark, List.all_eq_true]

/-- The query of a path without marks and a query without a fragment mark. -/
lemma queryOf_append_withMark {a query : List UInt8} (ha : noMark a = true)
    (hquery : fragmentMark ∉ query) : queryOf (a ++ withMark query) = query := by
  have hnot : ∀ c ∈ a, c ≠ queryMark ∧ c ≠ fragmentMark := by
    intro c hc
    simpa using List.all_eq_true.mp ha c hc
  have hwhole : (a ++ withMark query).takeWhile (· != fragmentMark) = a ++ withMark query := by
    rw [List.takeWhile_eq_self_iff]
    intro c hc
    have hne : c ≠ fragmentMark := by
      rintro rfl
      rcases List.mem_append.mp hc with hc | hc
      · exact (hnot _ hc).2 rfl
      · rw [withMark] at hc
        split at hc
        · cases hc
        · rcases List.mem_cons.mp hc with hc | hc
          · exact absurd hc (by decide)
          · exact hquery hc
    simpa using hne
  rw [queryOf, hwhole, List.dropWhile_append_of_pos fun c hc => by simpa using (hnot c hc).1,
    withMark]
  split
  · rename_i hnil
    rw [hnil]
    rfl
  · rfl

/-- The set of kept bytes has the two marks, so that a reference keeps its parts. -/
structure KeepsMarks (keeps : UInt8 → Bool) : Prop where
  query : keeps queryMark = true
  fragment : keeps fragmentMark = true

lemma ne_mark_of_mem_escape (c : UInt8) :
    ∀ d ∈ escape c, (d != queryMark) = true ∧ (d != fragmentMark) = true := by
  have hall : ∀ i : Fin 256, noMark (escape (UInt8.ofFin i)) = true := by decide +kernel
  have hc : noMark (escape c) = true := hall c.toFin
  rw [noMark, List.all_eq_true] at hc
  intro d hd
  simpa using hc d hd

/-- Encoding a reference encodes its path. -/
lemma pathOf_quote (hk : KeepsMarks keeps) (b : List UInt8) :
    pathOf (quote keeps b) = quote keeps (pathOf b) := by
  refine takeWhile_quote ?_ ?_ b
  · intro c hc
    by_cases hquery : c = queryMark
    · rw [hquery]
      exact hk.query
    · by_cases hfragment : c = fragmentMark
      · rw [hfragment]
        exact hk.fragment
      · simp [hquery, hfragment] at hc
  · intro c d hd
    obtain ⟨hquery, hfragment⟩ := ne_mark_of_mem_escape c d hd
    simp [hquery, hfragment]

/-- Encoding a reference encodes its query. -/
lemma queryOf_quote (hk : KeepsMarks keeps) (b : List UInt8) :
    queryOf (quote keeps b) = quote keeps (queryOf b) := by
  have hfragment : ∀ c : UInt8, (c != fragmentMark) = false → keeps c = true := by
    intro c hc
    obtain rfl : c = fragmentMark := by simpa using hc
    exact hk.fragment
  have hquery : ∀ c : UInt8, (c != queryMark) = false → keeps c = true := by
    intro c hc
    obtain rfl : c = queryMark := by simpa using hc
    exact hk.query
  rw [queryOf, takeWhile_quote hfragment fun c d hd => (ne_mark_of_mem_escape c d hd).2,
    dropWhile_quote hquery fun c d hd => (ne_mark_of_mem_escape c d hd).1, queryOf]
  -- what is left begins with the mark, which is kept
  generalize hrest : ((b.takeWhile (· != fragmentMark)).dropWhile (· != queryMark)) = rest
  cases rest with
  | nil => rfl
  | cons c rest =>
    have hhead : (c != queryMark) = false := by
      have := List.head?_dropWhile_not (· != queryMark) (b.takeWhile (· != fragmentMark))
      simpa [hrest] using this
    rw [quote_cons_of_kept (hquery c hhead)]
    rfl

end ImageDescriptor.Lib
