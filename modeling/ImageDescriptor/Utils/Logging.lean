/-
# The query string in the log

`request_id_middleware` logs the query parameters of a request.  It writes them out with
`urlencode` and redacts them with `_safe_query_params`, a substitution over the whole text:
wherever a sensitive word stands in front of an equals sign, what follows up to the next `&`
is replaced.  On the text of a list of parameters this is a rule for each of them: the value
is replaced when the encoded name ends in such a word.
-/
import ImageDescriptor.Lib.Percent

namespace ImageDescriptor

open Lib

/-! ### `urlencode` -/

/-- The bytes that `quote_plus` does not escape; it writes a space as a plus sign. -/
def quotePlusKeeps (c : UInt8) : Bool :=
  (0x30 ≤ c && c ≤ 0x39) || (0x41 ≤ c && c ≤ 0x5a) || (0x61 ≤ c && c ≤ 0x7a) ||
    c ∈ [0x5f, 0x2e, 0x2d, 0x7e, 0x20]

def quotePlusChar (c : UInt8) : Char := if c = 0x20 then '+' else Char.ofUInt8 c

/-- `quote_plus(s)`. -/
def quotePlus (s : String) : List Char :=
  (quote quotePlusKeeps (s.toList.flatMap String.utf8EncodeChar)).map quotePlusChar

/-- A parameter with its equals sign. -/
def joinParam (p : List Char × List Char) : List Char := p.1 ++ '=' :: p.2

/-- Parameters joined by `&`. -/
def joinParams (params : List (List Char × List Char)) : List Char :=
  ['&'].intercalate (params.map joinParam)

/-- `urlencode(params)`, the text of `request.query_params`. -/
def urlencode (params : List (String × String)) : String :=
  String.ofList (joinParams (params.map fun p => (quotePlus p.1, quotePlus p.2)))

/-- The parameters of a text: its parts between the `&`, each cut at its first equals sign. -/
def splitParams (text : List Char) : List (List Char × List Char) :=
  if text = [] then []
  else (text.splitOn '&').map fun part =>
    (part.takeWhile (· ≠ '='), (part.dropWhile (· ≠ '=')).drop 1)

/-! ### `_safe_query_params` -/

/-- A letter of the pattern that a character matches with `re.IGNORECASE`: besides the two cases
there are the letters of Unicode whose other case is one of ASCII. -/
def foldCase (c : Char) : Char :=
  if c.toNat = 0x17f then 's'
  else if c.toNat = 0x212a then 'k'
  else if c.toNat = 0x130 ∨ c.toNat = 0x131 then 'i'
  else c.toLower

/-- `a[_-]?b`. -/
def separated (a b : String) : List String := [a ++ "_" ++ b, a ++ "-" ++ b, a ++ b]

/-- The first group of the pattern. -/
def sensitiveWords : List String :=
  separated "api" "key" ++ separated "access" "token" ++ separated "auth" "token" ++
    ["token", "secret", "password"]

/-- A text begins with a word and an equals sign. -/
def matchesWord (s : List Char) (w : String) : Bool :=
  decide ((s.take w.length).map foldCase = w.toList) && decide (s[w.length]? = some '=')

/-- The length of the first group where a match begins. -/
def wordAt (s : List Char) : Option ℕ := (sensitiveWords.find? (matchesWord s)).map String.length

/-- The substitution on a text of which a match has taken the next `skip` characters. -/
def redactFrom (skip : ℕ) : List Char → List Char
  | [] => []
  | c :: rest =>
    match skip with
    | n + 1 => redactFrom n rest
    | 0 =>
      match wordAt (c :: rest) with
      | some n =>
        (c :: rest).take n ++ "=[REDACTED]".toList ++
          redactFrom (n + ((rest.drop n).takeWhile (· ≠ '&')).length) rest
      | none => c :: redactFrom 0 rest

/-- `_safe_query_params`. -/
def safeQueryParams (queryString : String) : String :=
  if queryString = "" then "" else String.ofList (redactFrom 0 queryString.toList)

/-- An encoded name ends, ignoring case, in one of the words. -/
def endsSensitive (name : List Char) : Bool :=
  sensitiveWords.any fun w => decide (w.toList <:+ name.map foldCase)

/-- A parameter as it is to be logged. -/
def redactParam (p : List Char × List Char) : List Char × List Char :=
  (p.1, if endsSensitive p.1 then "[REDACTED]".toList else p.2)

/-- Lists of the same names whose values differ for sensitive names only. -/
def SameButSensitive (params params' : List (String × String)) : Prop :=
  List.Forall₂ (fun p q => p.1 = q.1 ∧ (endsSensitive (quotePlus p.1) = false → p.2 = q.2))
    params params'

/-- What is logged of a list of parameters. -/
structure LogsSafely (params : List (String × String)) : Prop where
  /-- Number, order and names stay; the values of sensitive names are replaced, and the others
  stay. -/
  parameters : splitParams (safeQueryParams (urlencode params)).toList =
    params.map fun p => redactParam (quotePlus p.1, quotePlus p.2)
  text : safeQueryParams (urlencode params) = String.ofList (joinParams
    (params.map fun p => redactParam (quotePlus p.1, quotePlus p.2)))
  /-- The values of sensitive names cannot be told from the log. -/
  hidden : ∀ params', SameButSensitive params params' →
    safeQueryParams (urlencode params) = safeQueryParams (urlencode params')

/-! ### Encoded texts -/

/-- The characters with which `urlencode` sets parameters apart. -/
def IsMark (c : Char) : Prop := c = '=' ∨ c = '&'

instance : DecidablePred IsMark := fun _ => inferInstanceAs (Decidable (_ ∨ _))

def NoMarks (s : List Char) : Prop := ∀ c ∈ s, ¬ IsMark c

instance : DecidablePred NoMarks := fun _ => List.decidableBAll _ _

lemma noMarks_quotePlus (s : String) : NoMarks (quotePlus s) := by
  have hkept : ∀ i : Fin 256, quotePlusKeeps (UInt8.ofFin i) = true →
      ¬ IsMark (quotePlusChar (UInt8.ofFin i)) := by decide +kernel
  have hescape : ∀ i : Fin 256, NoMarks ((escape (UInt8.ofFin i)).map quotePlusChar) := by
    decide +kernel
  intro c hc
  obtain ⟨b, hb, rfl⟩ := List.mem_map.mp hc
  obtain ⟨x, -, hx⟩ := List.mem_flatMap.mp hb
  split at hx
  · rename_i hkeeps
    obtain rfl : b = x := List.mem_singleton.mp hx
    exact hkept b.toFin hkeeps
  · exact hescape x.toFin _ (List.mem_map_of_mem hx)

/-! ### Where a match begins -/

lemma foldCase_of_isMark {c : Char} (hc : IsMark c) : foldCase c = c := by
  rcases hc with rfl | rfl <;> rfl

/-- The words contain no mark. -/
lemma not_isMark_of_mem_word {w : String} (hw : w ∈ sensitiveWords) {c : Char}
    (hc : c ∈ w.toList) : ¬ IsMark c := by
  have hall : ∀ w ∈ sensitiveWords, NoMarks w.toList := by decide +kernel
  exact hall w hw c hc

lemma noMarks_cons {c : Char} {s : List Char} : NoMarks (c :: s) ↔ ¬ IsMark c ∧ NoMarks s := by
  simp [NoMarks]

/-- A word is matched up to the first mark of a text, which is an equals sign. -/
lemma first_mark_of_matchesWord {w : String} (hw : w ∈ sensitiveWords) {s r : List Char} {m : Char}
    (hs : NoMarks s) (hm : IsMark m) (h : matchesWord (s ++ m :: r) w = true) :
    w.length = s.length ∧ m = '=' := by
  simp only [matchesWord, Bool.and_eq_true, decide_eq_true_eq] at h
  obtain ⟨hword, hequals⟩ := h
  rcases Nat.lt_trichotomy w.length s.length with hlt | heq | hgt
  · -- the equals sign would stand before the first mark
    rw [List.getElem?_append_left hlt] at hequals
    exact absurd (.inl rfl) (hs '=' (List.mem_of_getElem? hequals))
  · rw [heq, List.getElem?_append_right (le_refl _), Nat.sub_self] at hequals
    exact ⟨heq, Option.some.inj hequals⟩
  · -- the word would contain the mark
    have hmem : m ∈ (s ++ m :: r).take w.length := by
      rw [List.take_append, List.mem_append]
      obtain ⟨k, hk⟩ : ∃ k, w.length - s.length = k + 1 := ⟨w.length - s.length - 1, by omega⟩
      exact .inr (by simp [hk])
    have hfold : foldCase m ∈ w.toList := by
      rw [← hword]
      exact List.mem_map_of_mem hmem
    rw [foldCase_of_isMark hm] at hfold
    exact absurd hm (not_isMark_of_mem_word hw hfold)

lemma not_matchesWord_of_noMarks {w : String} {s : List Char} (hs : NoMarks s) :
    matchesWord s w = false := by
  have hnot : ¬ s[w.length]? = some '=' := fun h =>
    hs '=' (List.mem_of_getElem? h) (.inl rfl)
  simp [matchesWord, hnot]

/-- The text behind a value: nothing, or the next parameters. -/
def Behind (r : List Char) : Prop := r = [] ∨ ∃ t, r = '&' :: t

/-- No match begins in a value. -/
lemma wordAt_value {s r : List Char} (hs : NoMarks s) (hr : Behind r) : wordAt (s ++ r) = none := by
  have hnone : ∀ w ∈ sensitiveWords, ¬ matchesWord (s ++ r) w = true := by
    intro w hw h
    rcases hr with rfl | ⟨t, rfl⟩
    · rw [List.append_nil, not_matchesWord_of_noMarks hs] at h
      cases h
    · exact absurd (first_mark_of_matchesWord hw hs (.inr rfl) h).2 (by decide)
  simpa [wordAt, List.find?_eq_none] using hnone

/-- A match begins at a name when the whole of it is a word. -/
lemma wordAt_name {name r : List Char} (hname : NoMarks name) :
    wordAt (name ++ '=' :: r) =
      if ∃ w ∈ sensitiveWords, name.map foldCase = w.toList then some name.length else none := by
  have hmatches : ∀ w ∈ sensitiveWords,
      (matchesWord (name ++ '=' :: r) w = true ↔ name.map foldCase = w.toList) := by
    intro w hw
    constructor
    · intro h
      obtain ⟨hlength, -⟩ := first_mark_of_matchesWord hw hname (.inl rfl) h
      simp only [matchesWord, Bool.and_eq_true, decide_eq_true_eq] at h
      rw [hlength, List.take_left] at h
      exact h.1
    · intro h
      have hlength : w.length = name.length := by
        rw [← String.length_toList, ← h, List.length_map]
      simp [matchesWord, hlength, h]
  split
  · rename_i hword
    obtain ⟨w, hw, hfold⟩ := hword
    obtain ⟨w', hfind⟩ : ∃ w', sensitiveWords.find? (matchesWord (name ++ '=' :: r)) = some w' :=
      Option.isSome_iff_exists.mp (List.find?_isSome.mpr ⟨w, hw, (hmatches w hw).mpr hfold⟩)
    have hw' := List.mem_of_find?_eq_some hfind
    obtain ⟨hlength, -⟩ :=
      first_mark_of_matchesWord hw' hname (.inl rfl) (List.find?_some hfind)
    rw [wordAt, hfind, Option.map_some, hlength]
  · rename_i hno
    have hnone : ∀ w ∈ sensitiveWords, ¬ matchesWord (name ++ '=' :: r) w = true :=
      fun w hw h => hno ⟨w, hw, (hmatches w hw).mp h⟩
    simpa [wordAt, List.find?_eq_none] using hnone

/-! ### The substitution on one parameter -/

lemma redactFrom_eq_drop (n : ℕ) (s : List Char) : redactFrom n s = redactFrom 0 (s.drop n) := by
  induction s generalizing n with
  | nil => simp [redactFrom]
  | cons c s ih =>
    cases n with
    | zero => rfl
    | succ n => simpa [redactFrom] using ih n

lemma redactFrom_cons_of_none {c : Char} {s : List Char} (h : wordAt (c :: s) = none) :
    redactFrom 0 (c :: s) = c :: redactFrom 0 s := by
  simp only [redactFrom, h]

lemma noMarks_nil : NoMarks [] := fun _ h => absurd h (List.not_mem_nil)

/-- A value, and what follows it, is copied. -/
lemma redactFrom_value {v r : List Char} (hv : NoMarks v) (hr : Behind r) :
    redactFrom 0 (v ++ r) = v ++ redactFrom 0 r := by
  induction v with
  | nil => rfl
  | cons c v ih =>
    have hnone : wordAt (c :: (v ++ r)) = none := wordAt_value hv hr
    rw [List.cons_append, redactFrom_cons_of_none hnone, ih (noMarks_cons.mp hv).2,
      List.cons_append]

lemma redactFrom_amp (r : List Char) : redactFrom 0 ('&' :: r) = '&' :: redactFrom 0 r :=
  redactFrom_cons_of_none (wordAt_value noMarks_nil (.inr ⟨r, rfl⟩))

/-- A name ends in a word when it is one, or when what follows its first character does. -/
lemma endsSensitive_cons (c : Char) (name : List Char) :
    endsSensitive (c :: name) = true ↔
      (∃ w ∈ sensitiveWords, (c :: name).map foldCase = w.toList) ∨ endsSensitive name = true := by
  simp only [endsSensitive, List.any_eq_true, decide_eq_true_eq, List.map_cons,
    List.suffix_cons_iff]
  constructor
  · rintro ⟨w, hw, hself | hrest⟩
    · exact .inl ⟨w, hw, hself.symm⟩
    · exact .inr ⟨w, hw, hrest⟩
  · rintro (⟨w, hw, hself⟩ | ⟨w, hw, hrest⟩)
    · exact ⟨w, hw, .inl hself.symm⟩
    · exact ⟨w, hw, .inr hrest⟩

/-- What a match in front of a value takes: the value. -/
lemma takeWhile_value {v r : List Char} (hv : NoMarks v) (hr : Behind r) :
    (v ++ r).takeWhile (· ≠ '&') = v := by
  have hvalue : ∀ c ∈ v, decide (c ≠ '&') = true := fun c hc =>
    decide_eq_true fun h => hv c hc (.inr h)
  rw [List.takeWhile_append_of_pos hvalue]
  rcases hr with rfl | ⟨t, rfl⟩ <;> simp

/-- **One parameter.**  The substitution replaces its value when the name ends in a word, and
goes on behind it. -/
lemma redactFrom_param {name v r : List Char} (hname : NoMarks name) (hv : NoMarks v)
    (hr : Behind r) :
    redactFrom 0 (joinParam (name, v) ++ r) =
      joinParam (redactParam (name, v)) ++ redactFrom 0 r := by
  simp only [joinParam, redactParam, List.append_assoc, List.cons_append]
  induction name with
  | nil =>
    have hempty : ¬ ∃ w ∈ sensitiveWords, ([] : List Char).map foldCase = w.toList := by
      decide +kernel
    have hnone : wordAt ('=' :: (v ++ r)) = none :=
      (wordAt_name noMarks_nil).trans (if_neg hempty)
    have hplain : endsSensitive [] = false := by decide +kernel
    rw [List.nil_append, redactFrom_cons_of_none hnone, redactFrom_value hv hr, hplain]
    rfl
  | cons c name ih =>
    by_cases hword : ∃ w ∈ sensitiveWords, (c :: name).map foldCase = w.toList
    · have hsome : wordAt (c :: (name ++ '=' :: (v ++ r))) = some (name.length + 1) :=
        (wordAt_name hname).trans (if_pos hword)
      have hsensitive : endsSensitive (c :: name) = true :=
        (endsSensitive_cons c name).mpr (.inl hword)
      have hbehind : (name ++ '=' :: (v ++ r)).drop (name.length + 1) = v ++ r := by
        simp
      have hrest : (name ++ '=' :: (v ++ r)).drop (name.length + 1 + v.length) = r := by
        rw [← List.drop_drop, hbehind, List.drop_left]
      have hfirst : (c :: (name ++ '=' :: (v ++ r))).take (name.length + 1) = c :: name := by
        simp
      rw [List.cons_append]
      simp only [redactFrom, hsome]
      rw [hbehind, takeWhile_value hv hr, redactFrom_eq_drop, hrest, hfirst, hsensitive, if_pos rfl]
      simp
    · have hnone : wordAt (c :: (name ++ '=' :: (v ++ r))) = none :=
        (wordAt_name hname).trans (if_neg hword)
      have hsame : endsSensitive (c :: name) = endsSensitive name := by
        rw [Bool.eq_iff_iff, endsSensitive_cons, or_iff_right hword]
      rw [List.cons_append, redactFrom_cons_of_none hnone, ih (noMarks_cons.mp hname).2, hsame,
        List.cons_append]

/-! ### The substitution on a list of parameters -/

/-- Names and values are encoded. -/
def Encoded (params : List (List Char × List Char)) : Prop :=
  ∀ p ∈ params, NoMarks p.1 ∧ NoMarks p.2

lemma joinParams_cons (p q : List Char × List Char) (params : List (List Char × List Char)) :
    joinParams (p :: q :: params) = joinParam p ++ '&' :: joinParams (q :: params) := by
  simp [joinParams]

/-- **All parameters.**  The substitution is the rule for one parameter, applied to each. -/
lemma redactFrom_joinParams {params : List (List Char × List Char)} (h : Encoded params) :
    redactFrom 0 (joinParams params) = joinParams (params.map redactParam) := by
  induction params with
  | nil => rfl
  | cons p params ih =>
    obtain ⟨⟨hname, hvalue⟩, hrest⟩ := List.forall_mem_cons.mp h
    cases params with
    | nil =>
      have hlast := redactFrom_param hname hvalue (.inl rfl)
      simpa [joinParams, redactFrom] using hlast
    | cons q params =>
      rw [joinParams_cons, redactFrom_param hname hvalue (.inr ⟨_, rfl⟩), redactFrom_amp, ih hrest]
      exact (joinParams_cons _ _ _).symm

/-- A redacted parameter is still one that can be cut. -/
lemma noMarks_redactParam {p : List Char × List Char} (h : NoMarks p.1 ∧ NoMarks p.2) :
    NoMarks (redactParam p).1 ∧ NoMarks (redactParam p).2 := by
  have hredacted : NoMarks "[REDACTED]".toList := by decide +kernel
  refine ⟨h.1, ?_⟩
  unfold redactParam
  dsimp only
  split
  · exact hredacted
  · exact h.2

lemma splitParams_joinParams {params : List (List Char × List Char)} (h : Encoded params) :
    splitParams (joinParams params) = params := by
  rcases params with _ | ⟨p, params⟩
  · rfl
  have hnonempty : joinParams (p :: params) ≠ [] := by
    cases params with
    | nil => simp [joinParams, joinParam]
    | cons q params => simp [joinParams_cons, joinParam]
  have hparts : ∀ part ∈ (p :: params).map joinParam, '&' ∉ part := by
    intro part hpart hmem
    obtain ⟨q, hq, rfl⟩ := List.mem_map.mp hpart
    obtain ⟨hname, hvalue⟩ := h q hq
    rcases List.mem_append.mp hmem with hmem | hmem
    · exact hname _ hmem (.inr rfl)
    · rcases List.mem_cons.mp hmem with heq | hmem
      · exact absurd heq (by decide)
      · exact hvalue _ hmem (.inr rfl)
  have hcut : ∀ q ∈ p :: params, ((joinParam q).takeWhile (· ≠ '='),
      ((joinParam q).dropWhile (· ≠ '=')).drop 1) = q := by
    intro q hq
    have hname : ∀ c ∈ q.1, decide (c ≠ '=') = true := fun c hc =>
      decide_eq_true fun heq => (h q hq).1 c hc (.inl heq)
    rw [joinParam, List.takeWhile_append_of_pos hname, List.dropWhile_append_of_pos hname]
    simp
  rw [splitParams, if_neg hnonempty, joinParams,
    List.splitOn_intercalate '&' hparts (by simp), List.map_map]
  exact (List.map_congr_left hcut).trans (List.map_id _)

lemma encoded_quotePlus (params : List (String × String)) :
    Encoded (params.map fun p => (quotePlus p.1, quotePlus p.2)) := by
  intro q hq
  obtain ⟨p, -, rfl⟩ := List.mem_map.mp hq
  exact ⟨noMarks_quotePlus p.1, noMarks_quotePlus p.2⟩

/-- The text that is logged. -/
lemma safeQueryParams_urlencode (params : List (String × String)) :
    safeQueryParams (urlencode params) = String.ofList (joinParams
      (params.map fun p => redactParam (quotePlus p.1, quotePlus p.2))) := by
  have hredacted := redactFrom_joinParams (encoded_quotePlus params)
  rw [List.map_map] at hredacted
  unfold safeQueryParams
  split
  · rename_i hempty
    -- the text of no parameters
    have hnil : joinParams (params.map fun p => (quotePlus p.1, quotePlus p.2)) = [] := by
      simpa [urlencode] using hempty
    rw [hnil] at hredacted
    exact congrArg String.ofList hredacted
  · rw [urlencode, String.toList_ofList, hredacted]
    rfl

lemma encoded_redacted (params : List (String × String)) :
    Encoded (params.map fun p => redactParam (quotePlus p.1, quotePlus p.2)) := by
  intro q hq
  obtain ⟨p, -, rfl⟩ := List.mem_map.mp hq
  exact noMarks_redactParam ⟨noMarks_quotePlus p.1, noMarks_quotePlus p.2⟩

/-- What is to be logged does not show the values of sensitive names. -/
lemma redacted_congr {params params' : List (String × String)}
    (h : SameButSensitive params params') :
    params.map (fun p => redactParam (quotePlus p.1, quotePlus p.2)) =
      params'.map fun p => redactParam (quotePlus p.1, quotePlus p.2) := by
  induction h with
  | nil => rfl
  | @cons p q _ _ hpq _ ih =>
    obtain ⟨hname, hvalue⟩ := hpq
    have hparam : redactParam (quotePlus p.1, quotePlus p.2) =
        redactParam (quotePlus q.1, quotePlus q.2) := by
      rcases hsensitive : endsSensitive (quotePlus p.1) with _ | _
      · rw [hname, hvalue hsensitive]
      · rw [hname] at hsensitive
        simp [redactParam, hname, hsensitive]
    rw [List.map_cons, List.map_cons, hparam, ih]

/-- **The log hides what is sensitive and nothing else.** -/
theorem logsSafely (params : List (String × String)) : LogsSafely params where
  text := safeQueryParams_urlencode params
  parameters := by
    rw [safeQueryParams_urlencode, String.toList_ofList,
      splitParams_joinParams (encoded_redacted params)]
  hidden params' h := by
    rw [safeQueryParams_urlencode, safeQueryParams_urlencode, redacted_congr h]

example : safeQueryParams (urlencode [("My_API-Key", "a&token=b"), ("q", "token=x y"),
    ("secret", ""), ("secrets", "1")]) =
      "My_API-Key=[REDACTED]&q=token%3Dx+y&secret=[REDACTED]&secrets=1" := by
  decide +kernel

end ImageDescriptor
