/-
# The text of a JSON value

`json.dumps(value, ensure_ascii=False)` writes a value and `json.loads` reads it: strings
with their escapes, arrays and objects with white space between their parts, and objects in
which the last of several entries with one key counts.  How numbers are written and read, and
how deeply values may be nested, is a parameter.  What is written is read back as the same
value.

Two kinds of values that `json.loads` can return have no place in the model: a surrogate
without its other half is represented by U+FFFD, and `NaN` and the infinities by numbers.
-/
import Mathlib.Data.List.Basic
import ImageDescriptor.Python.Json
import ImageDescriptor.Python.Uuid

namespace ImageDescriptor

/-! ### Strings -/

/-- The escapes of one letter, as the letter and the character. -/
def jsonEscapes : List (Char × Char) :=
  [('"', '"'), ('\\', '\\'), ('n', '\n'), ('r', '\r'), ('t', '\t'), ('b', '\x08'), ('f', '\x0c')]

/-- `ESCAPE_DCT`: a character in the text of a string. -/
def escapeChar (c : Char) : List Char :=
  match jsonEscapes.find? fun p => decide (p.2 = c) with
  | some p => ['\\', p.1]
  | none => if c.toNat < 32 then '\\' :: 'u' :: hexText 4 c.toNat else [c]

def writeString (s : String) : List Char := '"' :: (s.toList.flatMap escapeChar ++ ['"'])

/-- Four hexadecimal digits. -/
def hex4 (a b c d : Char) : Option ℕ :=
  (hexValue a).bind fun a => (hexValue b).bind fun b => (hexValue c).bind fun c =>
    (hexValue d).map fun d => ((a * 16 + b) * 16 + c) * 16 + d

/-- The character that stands for a surrogate without its other half. -/
def replacement : Char := Char.ofNat 0xfffd

/-- A character by its number. -/
def charOf (n : ℕ) : Char := if n.isValidChar then Char.ofNat n else replacement

/-- The two halves of a pair of surrogates. -/
def joinSurrogates (n m : ℕ) : Option ℕ :=
  if 0xd800 ≤ n ∧ n < 0xdc00 ∧ 0xdc00 ≤ m ∧ m < 0xe000 then
    some (0x10000 + (n - 0xd800) * 1024 + (m - 0xdc00))
  else none

/-- The character of the first half of a pair, with the second half if that is the next escape. -/
def readSecondHalf (n : ℕ) (rest : List Char) : Option (Char × List Char) :=
  match rest with
  | s :: u :: a :: b :: c :: d :: rest' =>
    if s = '\\' ∧ u = 'u' then
      (hex4 a b c d).map fun m =>
        match joinSurrogates n m with
        | some k => (charOf k, rest')
        | none => (replacement, rest)
    else some (replacement, rest)
  | _ => some (replacement, rest)

/-- The character of an escape, behind the backslash. -/
def readEscape : List Char → Option (Char × List Char)
  | [] => none
  | e :: rest =>
    if e = 'u' then
      match rest with
      | a :: b :: c :: d :: rest =>
        (hex4 a b c d).bind fun n =>
          if 0xd800 ≤ n ∧ n < 0xdc00 then readSecondHalf n rest else some (charOf n, rest)
      | _ => none
    else if e = '/' then some ('/', rest)
    else (jsonEscapes.lookup e).map (·, rest)

/-- The next character of a string; none of its own when the string ends. -/
def readChar : List Char → Option (Option Char × List Char)
  | [] => none
  | c :: rest =>
    if c = '"' then some (none, rest)
    else if c = '\\' then (readEscape rest).map fun p => (some p.1, p.2)
    else if c.toNat < 32 then none
    else some (some c, rest)

/-- `scanstring` behind the opening quote: the string, and what comes after the closing one. -/
def scanString : ℕ → List Char → Option (List Char × List Char)
  | 0, _ => none
  | n + 1, s =>
    match readChar s with
    | none => none
    | some (none, rest) => some ([], rest)
    | some (some c, rest) => (scanString n rest).map fun p => (c :: p.1, p.2)

/-! ### Values -/

/-- What may stand behind a number. -/
def EndsNumber (rest : List Char) : Prop := ∀ c, rest.head? = some c → c ∈ [',', ']', '\x7d']

/-- What reading the beginning of a text ends with: a value and the rest of the text, or an
exception. -/
abbrev Scanned (α : Type) := Except Exc (α × List Char)

def decodeError : Exc := ⟨.jsonDecodeError, "Expecting value"⟩

/-- The `RecursionError` of a text that is nested too deeply. -/
def recursionError : Exc :=
  ⟨.runtimeError, "maximum recursion depth exceeded while decoding a JSON document"⟩

/-- The error of the reader where a part of it has found none of its own. -/
def orDecodeError {α : Type} (r : Option α) : Except Exc α :=
  match r with
  | some x => .ok x
  | none => .error decodeError

/-- What the texts of a program depend on: which rationals are numbers, how they are written, how
the number at the beginning of a text is read (or with which exception, when it has too many
digits), which numbers stand for `NaN` and the infinities, and how deeply values may be
nested. -/
structure Interpreter where
  IsNumber : ℚ → Prop
  write : ℚ → List Char
  scan : List Char → Option (Except Exc ℚ × List Char)
  constant : String → ℚ
  depth : ℕ
  head_write : ∀ q, IsNumber q → ∃ c cs, write q = c :: cs ∧ (c = '-' ∨ c.isDigit = true)
  scan_write : ∀ q rest, IsNumber q → EndsNumber rest →
    scan (write q ++ rest) = some (.ok q, rest)

variable (py : Interpreter)

mutual

/-- `json.dumps(v, ensure_ascii=False)`. -/
def dumps : Json → List Char
  | .null => "null".toList
  | .bool true => "true".toList
  | .bool false => "false".toList
  | .num q => py.write q
  | .str s => writeString s
  | .arr [] => ['[', ']']
  | .arr (x :: xs) => '[' :: (dumps x ++ dumpsItems xs)
  | .obj [] => ['\x7b', '\x7d']
  | .obj (field :: fields) =>
    '\x7b' :: (writeString field.1 ++ ':' :: ' ' :: (dumps field.2 ++ dumpsFields fields))

/-- The items of an array behind the first one. -/
def dumpsItems : List Json → List Char
  | [] => [']']
  | x :: xs => ',' :: ' ' :: (dumps x ++ dumpsItems xs)

/-- The fields of an object behind the first one. -/
def dumpsFields : List (String × Json) → List Char
  | [] => ['\x7d']
  | field :: fields =>
    ',' :: ' ' :: (writeString field.1 ++ ':' :: ' ' :: (dumps field.2 ++ dumpsFields fields))

end

def isJsonSpace (c : Char) : Bool := decide (c ∈ [' ', '\t', '\n', '\r'])

/-- The text without the white space at its beginning. -/
def skipSpace (s : List Char) : List Char := s.dropWhile isJsonSpace

/-- `dict(pairs)`: the last entry of a key counts, at the place of the first. -/
def dictOf (pairs : Fields) : Fields :=
  pairs.foldl (fun items p =>
    if items.any fun item => decide (item.1 = p.1) then
      items.map fun item => if item.1 = p.1 then (item.1, p.2) else item
    else items ++ [p]) []

/-- A value in brackets, which is one level deeper. -/
def nested {α : Type} (depth : ℕ) (scan : ℕ → Scanned α) : Scanned α :=
  match depth with
  | 0 => .error recursionError
  | depth + 1 => scan depth

/-- The number or the constant at the beginning of a text. -/
def scanNumber (s : List Char) : Scanned Json :=
  match py.scan s with
  | some (.ok q, rest) => .ok (.num q, rest)
  | some (.error e, _) => .error e
  | none =>
    match ["NaN", "Infinity", "-Infinity"].find? fun word => word.toList.isPrefixOf s with
    | some word => .ok (.num (py.constant word), s.drop word.length)
    | none => .error decodeError

mutual

/-- `scan_once`: the value at the beginning of a text, and what comes after it. -/
def scanOnce : ℕ → ℕ → List Char → Scanned Json
  | _, 0, _ => .error decodeError
  | depth, n + 1, s =>
    match s with
    | [] => .error decodeError
    | c :: rest =>
      if c = '"' then
        (orDecodeError (scanString (rest.length + 1) rest)).map fun p =>
          (.str (String.ofList p.1), p.2)
      else if c = '\x7b' then
        nested depth fun depth =>
          match skipSpace rest with
          | '\x7d' :: rest => .ok (.obj [], rest)
          | _ => (scanObject depth n rest).map fun p => (.obj (dictOf p.1), p.2)
      else if c = '[' then
        nested depth fun depth =>
          match skipSpace rest with
          | ']' :: rest => .ok (.arr [], rest)
          | _ => (scanArray depth n rest).map fun p => (.arr p.1, p.2)
      else if "null".toList.isPrefixOf s then .ok (.null, s.drop 4)
      else if "true".toList.isPrefixOf s then .ok (.bool true, s.drop 4)
      else if "false".toList.isPrefixOf s then .ok (.bool false, s.drop 5)
      else scanNumber py s

/-- `JSONArray` in front of a value. -/
def scanArray : ℕ → ℕ → List Char → Scanned (List Json)
  | _, 0, _ => .error decodeError
  | depth, n + 1, s =>
    match scanOnce depth n (skipSpace s) with
    | .error e => .error e
    | .ok (v, rest) =>
      match skipSpace rest with
      | ']' :: rest => .ok ([v], rest)
      | ',' :: rest => (scanArray depth n rest).map fun p => (v :: p.1, p.2)
      | _ => .error decodeError

/-- `JSONObject` in front of a key. -/
def scanObject : ℕ → ℕ → List Char → Scanned Fields
  | _, 0, _ => .error decodeError
  | depth, n + 1, s =>
    match skipSpace s with
    | '"' :: rest =>
      match scanString (rest.length + 1) rest with
      | none => .error decodeError
      | some (key, rest) =>
        match skipSpace rest with
        | ':' :: rest =>
          match scanOnce depth n (skipSpace rest) with
          | .error e => .error e
          | .ok (v, rest) =>
            match skipSpace rest with
            | '\x7d' :: rest => .ok ([(String.ofList key, v)], rest)
            | ',' :: rest =>
              (scanObject depth n rest).map fun p => ((String.ofList key, v) :: p.1, p.2)
            | _ => .error decodeError
        | _ => .error decodeError
    | _ => .error decodeError

end

/-- `json.loads`. -/
def loads (s : List Char) : Except Exc Json :=
  match scanOnce py py.depth (2 * s.length + 2) (skipSpace s) with
  | .ok (v, rest) => if skipSpace rest = [] then .ok v else .error decodeError
  | .error e => .error e

/-! ### Reading strings back -/

lemma hex4_hexText {n : ℕ} (hn : n < 16 ^ 4) : ∃ a b c d, hexText 4 n = [a, b, c, d] ∧
    hex4 a b c d = some n := by
  refine ⟨_, _, _, _, rfl, ?_⟩
  have h₁ : n / 16 ^ 3 < 16 := by omega
  have h₂ : n % 16 ^ 3 / 16 ^ 2 < 16 := by omega
  have h₃ : n % 16 ^ 3 % 16 ^ 2 / 16 ^ 1 < 16 := by omega
  have h₄ : n % 16 ^ 3 % 16 ^ 2 % 16 ^ 1 / 16 ^ 0 < 16 := by omega
  rw [hex4, hexValue_digitChar h₁, hexValue_digitChar h₂, hexValue_digitChar h₃,
    hexValue_digitChar h₄, Option.bind_some, Option.bind_some, Option.bind_some, Option.map_some,
    Option.some.injEq]
  omega

lemma charOf_toNat (c : Char) : charOf c.toNat = c := by
  have hvalid : c.toNat.isValidChar := c.valid
  rw [charOf, if_pos hvalid, Char.ofNat_toNat]

/-- Every character is read back from its text. -/
lemma readChar_escapeChar (c : Char) (rest : List Char) :
    readChar (escapeChar c ++ rest) = some (some c, rest) := by
  unfold escapeChar
  split
  · rename_i p hfind
    have hmem := List.mem_of_find?_eq_some hfind
    have hc : p.2 = c := by simpa using List.find?_some hfind
    subst hc
    simp only [jsonEscapes, List.mem_cons, List.not_mem_nil, or_false] at hmem
    rcases hmem with rfl | rfl | rfl | rfl | rfl | rfl | rfl <;> rfl
  · rename_i hfind
    have hplain : ∀ p ∈ jsonEscapes, p.2 ≠ c := by simpa using hfind
    split
    · rename_i hcontrol
      obtain ⟨a, b, d, e, htext, hvalue⟩ := hex4_hexText (n := c.toNat) (by omega)
      rw [htext]
      show (readEscape ('u' :: a :: b :: d :: e :: rest)).map _ = _
      have hfirst : ¬ (0xd800 ≤ c.toNat ∧ c.toNat < 0xdc00) := by omega
      simp only [readEscape, if_true, hvalue, if_neg hfirst, charOf_toNat, Option.bind_some,
        Option.map_some]
    · rename_i hprintable
      have hquote : c ≠ '"' := Ne.symm (hplain ('"', '"') (by simp [jsonEscapes]))
      have hslash : c ≠ '\\' := Ne.symm (hplain ('\\', '\\') (by simp [jsonEscapes]))
      rw [List.singleton_append, readChar, if_neg hquote, if_neg hslash, if_neg hprintable]

lemma scanString_chars {chars : List Char} {n : ℕ} (h : chars.length < n) (rest : List Char) :
    scanString n (chars.flatMap escapeChar ++ '"' :: rest) = some (chars, rest) := by
  induction chars generalizing n with
  | nil =>
    obtain ⟨n, rfl⟩ : ∃ m, n = m + 1 := ⟨n - 1, by simp at h; omega⟩
    rfl
  | cons c chars ih =>
    rw [List.length_cons] at h
    obtain ⟨n, rfl⟩ : ∃ m, n = m + 1 := ⟨n - 1, by omega⟩
    rw [List.flatMap_cons, List.append_assoc, scanString, readChar_escapeChar]
    simp only [ih (by omega : chars.length < n), Option.map_some]

lemma length_le_flatMap (chars : List Char) :
    chars.length ≤ (chars.flatMap escapeChar).length := by
  have hone : ∀ c, 1 ≤ (escapeChar c).length := by
    intro c
    unfold escapeChar
    split
    · simp
    · split <;> simp
  induction chars with
  | nil => simp
  | cons c chars ih =>
    have hc := hone c
    rw [List.flatMap_cons, List.length_append, List.length_cons]
    omega

/-- The text of a string behind its opening quote. -/
def stringTail (s : String) (rest : List Char) : List Char :=
  s.toList.flatMap escapeChar ++ '"' :: rest

lemma writeString_append (s : String) (rest : List Char) :
    writeString s ++ rest = '"' :: stringTail s rest := by
  simp [writeString, stringTail]

lemma scanString_stringTail (s : String) (rest : List Char) :
    scanString ((stringTail s rest).length + 1) (stringTail s rest) = some (s.toList, rest) := by
  refine scanString_chars ?_ rest
  have hle := length_le_flatMap s.toList
  rw [stringTail, List.length_append]
  omega

/-! ### Reading values back -/

mutual

/-- A value of the program: its numbers are numbers, a `dict` has each key once, and it is not
nested more deeply than `depth`. -/
def Proper : Json → ℕ → Prop
  | .null, _ => True
  | .bool _, _ => True
  | .num q, _ => py.IsNumber q
  | .str _, _ => True
  | .arr _, 0 => False
  | .arr xs, depth + 1 => ProperItems xs depth
  | .obj _, 0 => False
  | .obj fields, depth + 1 => (fields.map Prod.fst).Nodup ∧ ProperFields fields depth

def ProperItems : List Json → ℕ → Prop
  | [], _ => True
  | x :: xs, depth => Proper x depth ∧ ProperItems xs depth

def ProperFields : List (String × Json) → ℕ → Prop
  | [], _ => True
  | field :: fields, depth => Proper field.2 depth ∧ ProperFields fields depth

end

/-- Reading the entries of a `dict` gives them back. -/
lemma dictOf_of_nodup {pairs : Fields} (h : (pairs.map Prod.fst).Nodup) : dictOf pairs = pairs := by
  have hfold : ∀ items : Fields, ((items ++ pairs).map Prod.fst).Nodup →
      pairs.foldl (fun items p =>
        if items.any fun item => decide (item.1 = p.1) then
          items.map fun item => if item.1 = p.1 then (item.1, p.2) else item
        else items ++ [p]) items = items ++ pairs := by
    clear h
    induction pairs with
    | nil => simp
    | cons p pairs ih =>
      intro items hnodup
      have hnew : (items.any fun item => decide (item.1 = p.1)) = false := by
        rw [List.any_eq_false]
        intro item hitem hsame
        rw [List.map_append, List.map_cons, List.nodup_append] at hnodup
        exact hnodup.2.2 item.1 (List.mem_map_of_mem hitem) p.1 List.mem_cons_self
          (of_decide_eq_true hsame)
      rw [List.foldl_cons, hnew, if_neg Bool.false_ne_true]
      have hnext := ih (items ++ [p]) (by simpa using hnodup)
      rw [hnext, List.append_assoc]
      rfl
  exact hfold [] (by simpa using h)

lemma skipSpace_cons {c : Char} (hc : isJsonSpace c = false) (s : List Char) :
    skipSpace (c :: s) = c :: s := by
  rw [skipSpace, List.dropWhile_cons, if_neg (by simp [hc])]

lemma skipSpace_space (s : List Char) : skipSpace (' ' :: s) = skipSpace s := by
  rw [skipSpace, List.dropWhile_cons, if_pos (by decide)]
  rfl

/-- No value begins with white space or with a closing bracket. -/
lemma head_dumps {v : Json} {depth : ℕ} (h : Proper py v depth) : ∃ c cs, dumps py v = c :: cs ∧
    isJsonSpace c = false ∧ c ≠ ']' ∧ c ≠ '\x7d' := by
  match v with
  | .null => exact ⟨'n', _, rfl, by decide⟩
  | .bool true => exact ⟨'t', _, rfl, by decide⟩
  | .bool false => exact ⟨'f', _, rfl, by decide⟩
  | .num q =>
    obtain ⟨c, cs, hwrite, hc⟩ := py.head_write q h
    refine ⟨c, cs, hwrite, ?_⟩
    rcases hc with rfl | hdigit
    · decide
    · have hcode := Char.isDigit_iff_toNat.mp hdigit
      refine ⟨?_, ?_, ?_⟩
      · simp only [isJsonSpace, decide_eq_false_iff_not, List.mem_cons, List.not_mem_nil, or_false]
        rintro (rfl | rfl | rfl | rfl) <;> exact absurd hcode (by decide)
      · rintro rfl
        exact absurd hcode (by decide)
      · rintro rfl
        exact absurd hcode (by decide)
  | .str s => exact ⟨'"', _, rfl, by decide⟩
  | .arr [] => exact ⟨'[', _, rfl, by decide⟩
  | .arr (x :: xs) => exact ⟨'[', _, rfl, by decide⟩
  | .obj [] => exact ⟨'\x7b', _, rfl, by decide⟩
  | .obj (field :: fields) => exact ⟨'\x7b', _, rfl, by decide⟩

lemma endsNumber_items (xs : List Json) (rest : List Char) :
    EndsNumber (dumpsItems py xs ++ rest) := by
  intro c hc
  cases xs with
  | nil =>
    obtain rfl : ']' = c := by simpa [dumpsItems] using hc
    simp
  | cons x xs =>
    obtain rfl : ',' = c := by simpa [dumpsItems] using hc
    simp

lemma endsNumber_fields (fields : Fields) (rest : List Char) :
    EndsNumber (dumpsFields py fields ++ rest) := by
  intro c hc
  cases fields with
  | nil =>
    obtain rfl : '\x7d' = c := by simpa [dumpsFields] using hc
    simp
  | cons field fields =>
    obtain rfl : ',' = c := by simpa [dumpsFields] using hc
    simp

variable {py}

lemma dumps_length_pos {v : Json} {depth : ℕ} (h : Proper py v depth) : 0 < (dumps py v).length := by
  obtain ⟨c, cs, hdumps, -⟩ := head_dumps py h
  rw [hdumps]
  simp

lemma skipSpace_dumps {v : Json} {depth : ℕ} (h : Proper py v depth) (s : List Char) :
    skipSpace (dumps py v ++ s) = dumps py v ++ s := by
  obtain ⟨c, cs, hdumps, hspace, -⟩ := head_dumps py h
  rw [hdumps, List.cons_append, skipSpace_cons hspace]

lemma Proper.depth_arr {xs : List Json} {depth : ℕ} (h : Proper py (.arr xs) depth) :
    ∃ d, depth = d + 1 := by
  cases depth with
  | zero => exact h.elim
  | succ d => exact ⟨d, rfl⟩

lemma Proper.depth_obj {fields : Fields} {depth : ℕ} (h : Proper py (.obj fields) depth) :
    ∃ d, depth = d + 1 := by
  cases depth with
  | zero => exact h.elim
  | succ d => exact ⟨d, rfl⟩

/-- A value stands in front of the text of its number, and of nothing else that is read before. -/
lemma scanOnce_number {q : ℚ} (h : py.IsNumber q) {n : ℕ} (hn : 0 < n) {rest : List Char}
    (hrest : EndsNumber rest) (depth : ℕ) :
    scanOnce py depth n (py.write q ++ rest) = .ok (.num q, rest) := by
  obtain ⟨n, rfl⟩ : ∃ m, n = m + 1 := ⟨n - 1, by omega⟩
  have hscan := py.scan_write q rest h hrest
  obtain ⟨c, cs, hwrite, hc⟩ := py.head_write q h
  rw [hwrite, List.cons_append] at hscan ⊢
  have hother : ∀ d : Char, d ≠ '-' → d.isDigit = false → c ≠ d := by
    rintro d hminus hdigit rfl
    rcases hc with rfl | hc
    · exact hminus rfl
    · rw [hc] at hdigit
      cases hdigit
  have hword : ∀ (word : String) (d : Char), word.toList.head? = some d → d ≠ '-' →
      d.isDigit = false → ¬ word.toList.isPrefixOf (c :: (cs ++ rest)) = true := by
    intro word d hd hminus hdigit hprefix
    obtain ⟨ds, hds⟩ := List.head?_eq_some_iff.mp hd
    rw [hds, List.isPrefixOf_iff_prefix] at hprefix
    exact hother d hminus hdigit (List.cons_prefix_cons.mp hprefix).1.symm
  rw [scanOnce, if_neg (hother _ (by decide) (by decide)), if_neg (hother _ (by decide) (by decide)),
    if_neg (hother _ (by decide) (by decide)),
    if_neg (hword "null" 'n' rfl (by decide) (by decide)),
    if_neg (hword "true" 't' rfl (by decide) (by decide)),
    if_neg (hword "false" 'f' rfl (by decide) (by decide)), scanNumber, hscan]

lemma scanArray_space (depth n : ℕ) (s : List Char) :
    scanArray py depth n (' ' :: s) = scanArray py depth n s := by
  cases n with
  | zero => rfl
  | succ n => rw [scanArray, scanArray, skipSpace_space]

lemma scanObject_space (depth n : ℕ) (s : List Char) :
    scanObject py depth n (' ' :: s) = scanObject py depth n s := by
  cases n with
  | zero => rfl
  | succ n => rw [scanObject, scanObject, skipSpace_space]

/-- The text of a field. -/
def dumpsField (py : Interpreter) (field : String × Json) : List Char :=
  writeString field.1 ++ ':' :: ' ' :: dumps py field.2

lemma dumpsFields_cons (field : String × Json) (fields : Fields) :
    dumpsFields py (field :: fields) =
      ',' :: ' ' :: (dumpsField py field ++ dumpsFields py fields) := by
  simp [dumpsFields, dumpsField]

lemma dumps_obj (field : String × Json) (fields : Fields) :
    dumps py (.obj (field :: fields)) =
      '\x7b' :: (dumpsField py field ++ dumpsFields py fields) := by
  simp [dumps, dumpsField]

lemma length_dumpsField (field : String × Json) : (dumpsField py field).length =
    (writeString field.1).length + 2 + (dumps py field.2).length := by
  simp only [dumpsField, List.length_append, List.length_cons]
  omega

/-- A key, and the value behind it. -/
lemma scanObject_field {field : String × Json} {depth : ℕ} (h : Proper py field.2 depth) (n : ℕ)
    (s : List Char) :
    scanObject py depth (n + 1) (dumpsField py field ++ s) =
      match scanOnce py depth n (dumps py field.2 ++ s) with
      | .error e => .error e
      | .ok (v, rest) =>
        match skipSpace rest with
        | '\x7d' :: rest => .ok ([(field.1, v)], rest)
        | ',' :: rest => (scanObject py depth n rest).map fun p => ((field.1, v) :: p.1, p.2)
        | _ => .error decodeError := by
  have htext : dumpsField py field ++ s =
      '"' :: stringTail field.1 (':' :: ' ' :: (dumps py field.2 ++ s)) := by
    rw [← writeString_append, dumpsField]
    simp only [List.append_assoc, List.cons_append]
  have hskip : skipSpace (' ' :: (dumps py field.2 ++ s)) = dumps py field.2 ++ s := by
    rw [skipSpace_space, skipSpace_dumps h]
  rw [htext, scanObject, skipSpace_cons (by decide)]
  simp only [scanString_stringTail, skipSpace_cons (show isJsonSpace ':' = false by decide), hskip,
    String.ofList_toList]

lemma sizeOf_snd_lt (field : String × Json) : sizeOf field.2 < sizeOf field := by
  obtain ⟨key, v⟩ := field
  simp only [Prod.mk.sizeOf_spec]
  omega

mutual

/-- Every value is read back from its text. -/
lemma scanOnce_dumps (v : Json) {depth : ℕ} (h : Proper py v depth) {n : ℕ}
    (hn : 2 * (dumps py v).length ≤ n) {rest : List Char} (hrest : EndsNumber rest) :
    scanOnce py depth n (dumps py v ++ rest) = .ok (v, rest) := by
  have hpos := dumps_length_pos h
  match v with
  | .num q => exact scanOnce_number h (by omega) hrest depth
  | .null =>
    obtain ⟨n, rfl⟩ : ∃ m, n = m + 1 := ⟨n - 1, by omega⟩
    rfl
  | .bool true =>
    obtain ⟨n, rfl⟩ : ∃ m, n = m + 1 := ⟨n - 1, by omega⟩
    rfl
  | .bool false =>
    obtain ⟨n, rfl⟩ : ∃ m, n = m + 1 := ⟨n - 1, by omega⟩
    rfl
  | .str s =>
    obtain ⟨n, rfl⟩ : ∃ m, n = m + 1 := ⟨n - 1, by omega⟩
    rw [dumps, writeString_append, scanOnce, if_pos rfl, scanString_stringTail, orDecodeError,
      Except.map, String.ofList_toList]
  | .arr [] =>
    obtain ⟨n, rfl⟩ : ∃ m, n = m + 1 := ⟨n - 1, by omega⟩
    obtain ⟨depth, rfl⟩ := h.depth_arr
    rfl
  | .arr (x :: xs) =>
    obtain ⟨n, rfl⟩ : ∃ m, n = m + 1 := ⟨n - 1, by omega⟩
    obtain ⟨depth, rfl⟩ := h.depth_arr
    rw [dumps, List.length_cons] at hn
    have hitems := scanArray_dumps x xs h.1 h.2 (n := n) (by omega) rest
    obtain ⟨c, cs, hdumps, hspace, hbracket, -⟩ := head_dumps py h.1
    rw [dumps, List.cons_append, scanOnce, if_neg (by decide), if_neg (by decide), if_pos rfl,
      nested, hitems]
    rw [hdumps, List.cons_append, List.cons_append, skipSpace_cons hspace]
    split
    · rename_i heq
      exact absurd (List.cons.inj heq).1 hbracket
    · rfl
  | .obj [] =>
    obtain ⟨n, rfl⟩ : ∃ m, n = m + 1 := ⟨n - 1, by omega⟩
    obtain ⟨depth, rfl⟩ := h.depth_obj
    rfl
  | .obj (field :: fields) =>
    obtain ⟨n, rfl⟩ : ∃ m, n = m + 1 := ⟨n - 1, by omega⟩
    obtain ⟨depth, rfl⟩ := h.depth_obj
    obtain ⟨hnodup, hfield, hfields⟩ := h
    rw [dumps_obj, List.length_cons] at hn
    have hpairs := scanObject_dumps field fields hfield hfields (n := n) (by omega) rest
    rw [dumps_obj, List.cons_append, scanOnce, if_neg (by decide), if_pos rfl, nested, hpairs,
      Except.map, dictOf_of_nodup hnodup]
    rw [dumpsField, List.append_assoc, List.append_assoc, writeString_append,
      skipSpace_cons (by decide)]
    rfl
termination_by sizeOf v
decreasing_by
  · simp only [Json.arr.sizeOf_spec, List.cons.sizeOf_spec]
    omega
  · have hfield := sizeOf_snd_lt field
    simp only [Json.obj.sizeOf_spec, List.cons.sizeOf_spec]
    omega

/-- The items of an array are read back. -/
lemma scanArray_dumps : ∀ (x : Json) (xs : List Json) {depth : ℕ}, Proper py x depth →
    ProperItems py xs depth → ∀ {n : ℕ}, 2 * (dumps py x ++ dumpsItems py xs).length ≤ n →
    ∀ rest : List Char,
    scanArray py depth n (dumps py x ++ dumpsItems py xs ++ rest) = .ok (x :: xs, rest)
  | x, [], depth, hx, hxs, n, hn, rest => by
    have hpos := dumps_length_pos hx
    rw [List.length_append] at hn
    obtain ⟨n, rfl⟩ : ∃ m, n = m + 1 := ⟨n - 1, by omega⟩
    have hlast : 1 ≤ (dumpsItems py []).length := by simp [dumpsItems]
    have hvalue := scanOnce_dumps x hx (n := n) (by omega) (endsNumber_items py [] rest)
    rw [List.append_assoc, scanArray, skipSpace_dumps hx, hvalue]
    rfl
  | x, y :: ys, depth, hx, hxs, n, hn, rest => by
    have hpos := dumps_length_pos hx
    rw [List.length_append] at hn
    obtain ⟨n, rfl⟩ : ∃ m, n = m + 1 := ⟨n - 1, by omega⟩
    have hcomma : skipSpace (dumpsItems py (y :: ys) ++ rest) =
        ',' :: ' ' :: (dumps py y ++ dumpsItems py ys ++ rest) := by
      rw [dumpsItems, List.cons_append, skipSpace_cons (by decide)]
      rfl
    have hlength : (dumpsItems py (y :: ys)).length =
        (dumps py y ++ dumpsItems py ys).length + 2 := by
      rw [dumpsItems, List.length_cons, List.length_cons]
    have hvalue := scanOnce_dumps x hx (n := n) (by omega) (endsNumber_items py (y :: ys) rest)
    have hitems := scanArray_dumps y ys hxs.1 hxs.2 (n := n) (by omega) rest
    rw [List.append_assoc, scanArray, skipSpace_dumps hx, hvalue]
    simp only [hcomma, scanArray_space, hitems, Except.map]
termination_by x xs => sizeOf x + sizeOf xs

/-- The fields of an object are read back. -/
lemma scanObject_dumps : ∀ (field : String × Json) (fields : Fields) {depth : ℕ},
    Proper py field.2 depth → ProperFields py fields depth →
    ∀ {n : ℕ}, 2 * (dumpsField py field ++ dumpsFields py fields).length ≤ n →
    ∀ rest : List Char,
    scanObject py depth n (dumpsField py field ++ dumpsFields py fields ++ rest) =
      .ok (field :: fields, rest)
  | field, [], depth, hfield, hfields, n, hn, rest => by
    rw [List.length_append, length_dumpsField] at hn
    obtain ⟨n, rfl⟩ : ∃ m, n = m + 1 := ⟨n - 1, by omega⟩
    have hvalue := scanOnce_dumps field.2 hfield (n := n) (by omega)
      (endsNumber_fields py [] rest)
    rw [List.append_assoc, scanObject_field hfield, hvalue]
    rfl
  | field, field' :: fields, depth, hfield, hfields, n, hn, rest => by
    rw [List.length_append, length_dumpsField, dumpsFields_cons, List.length_cons,
      List.length_cons] at hn
    obtain ⟨n, rfl⟩ : ∃ m, n = m + 1 := ⟨n - 1, by omega⟩
    have hcomma : skipSpace (dumpsFields py (field' :: fields) ++ rest) =
        ',' :: ' ' :: (dumpsField py field' ++ dumpsFields py fields ++ rest) := by
      rw [dumpsFields_cons, List.cons_append, skipSpace_cons (by decide)]
      rfl
    have hvalue := scanOnce_dumps field.2 hfield (n := n) (by omega)
      (endsNumber_fields py (field' :: fields) rest)
    have hpairs := scanObject_dumps field' fields hfields.1 hfields.2 (n := n) (by omega) rest
    rw [List.append_assoc, scanObject_field hfield, hvalue]
    simp only [hcomma, scanObject_space, hpairs, Except.map]
termination_by field fields => sizeOf field.2 + sizeOf fields
decreasing_by
  · simp
  · simp
  · have hfield := sizeOf_snd_lt field'
    simp only [List.cons.sizeOf_spec]
    omega

end

/-- **What is written is read back.** -/
lemma loads_dumps {v : Json} (h : Proper py v py.depth) : loads py (dumps py v) = .ok v := by
  have hskip : skipSpace (dumps py v) = dumps py v := by
    simpa using skipSpace_dumps h []
  have hrest : EndsNumber [] := fun c hc => by cases hc
  have hscan := scanOnce_dumps v h (n := 2 * (dumps py v).length + 2) (by omega) hrest
  rw [List.append_nil] at hscan
  rw [loads, hskip, hscan]
  rfl

/-! ### Integers -/

namespace Interpreter

/-- The number of digits from which on an integer is not read. -/
def maxStrDigits : ℕ := 4300

/-- The integer at the beginning of a text. -/
def readInteger (s : List Char) : Option (Except Exc ℚ × List Char) :=
  let digits := (if s.head? = some '-' then s.tail else s).takeWhile Char.isDigit
  let rest := (if s.head? = some '-' then s.tail else s).dropWhile Char.isDigit
  if digits = [] then none
  else if maxStrDigits < digits.length then
    some (.error ⟨.valueError, "Exceeds the limit (4300 digits) for integer string conversion"⟩, rest)
  else
    let n : ℤ := Nat.ofDigitChars 10 digits 0
    some (.ok (if s.head? = some '-' then -n else n), rest)

def writeInteger (q : ℚ) : List Char :=
  (if q.num < 0 then ['-'] else []) ++ Nat.toDigits 10 q.num.natAbs

lemma isDigit_of_mem_toDigits {n : ℕ} {c : Char} (h : c ∈ Nat.toDigits 10 n) : c.isDigit = true :=
  Nat.isDigit_of_mem_toDigits (by decide) (by decide) h

/-- The digits in front of what is no digit. -/
lemma takeWhile_toDigits (n : ℕ) {rest : List Char} (hrest : EndsNumber rest) :
    (Nat.toDigits 10 n ++ rest).takeWhile Char.isDigit = Nat.toDigits 10 n ∧
      (Nat.toDigits 10 n ++ rest).dropWhile Char.isDigit = rest := by
  have hdigits : ∀ c ∈ Nat.toDigits 10 n, c.isDigit = true := fun c => isDigit_of_mem_toDigits
  rw [List.takeWhile_append_of_pos hdigits, List.dropWhile_append_of_pos hdigits]
  cases rest with
  | nil => simp
  | cons c rest =>
    have hmem := hrest c rfl
    have hc : c.isDigit = false := by
      simp only [List.mem_cons, List.not_mem_nil, or_false] at hmem
      rcases hmem with rfl | rfl | rfl <;> rfl
    rw [List.takeWhile_cons_of_neg (by simp [hc]), List.dropWhile_cons_of_neg (by simp [hc])]
    simp

lemma readInteger_writeInteger {q : ℚ} (hq : q.den = 1)
    (hshort : (Nat.toDigits 10 q.num.natAbs).length ≤ maxStrDigits) {rest : List Char}
    (hrest : EndsNumber rest) : readInteger (writeInteger q ++ rest) = some (.ok q, rest) := by
  have hvalue : (q.num : ℚ) = q := Rat.coe_int_num_of_den_eq_one hq
  obtain ⟨htake, hdrop⟩ := takeWhile_toDigits q.num.natAbs hrest
  have hlength : ¬ maxStrDigits < (Nat.toDigits 10 q.num.natAbs).length := Nat.not_lt.mpr hshort
  unfold writeInteger
  by_cases hneg : q.num < 0
  · have hnum : (q.num : ℚ) = -((q.num.natAbs : ℤ) : ℚ) := by
      rw [← Int.cast_neg]
      congr 1
      omega
    rw [if_pos hneg, List.append_assoc, List.singleton_append, readInteger]
    simp only [List.head?_cons, if_true, List.tail_cons, htake, hdrop, Nat.toDigits_ne_nil, if_false,
      hlength, Nat.ofDigitChars_ten_toDigits, ← hnum, hvalue]
  · have hnum : ((q.num.natAbs : ℤ) : ℚ) = q.num := by
      congr 1
      omega
    have hhead : (Nat.toDigits 10 q.num.natAbs ++ rest).head? ≠ some '-' := by
      obtain ⟨c, cs, hdigits⟩ := List.exists_cons_of_ne_nil
        (Nat.toDigits_ne_nil : Nat.toDigits 10 q.num.natAbs ≠ [])
      have hc : c.isDigit = true := isDigit_of_mem_toDigits (hdigits ▸ List.mem_cons_self)
      rw [hdigits, List.cons_append, List.head?_cons]
      rintro hminus
      obtain rfl := Option.some.inj hminus
      cases hc
    rw [if_neg hneg, List.nil_append, readInteger]
    simp only [hhead, if_false, htake, hdrop, Nat.toDigits_ne_nil, hlength,
      Nat.ofDigitChars_ten_toDigits, hnum, hvalue]

/-- A program that has no numbers but integers, and nests values up to a depth. -/
def integers (depth : ℕ) : Interpreter where
  IsNumber q := q.den = 1 ∧ (Nat.toDigits 10 q.num.natAbs).length ≤ maxStrDigits
  write := writeInteger
  scan := readInteger
  constant _ := 0
  depth := depth
  head_write q _ := by
    unfold writeInteger
    split
    · exact ⟨'-', _, rfl, .inl rfl⟩
    · obtain ⟨c, cs, hdigits⟩ := List.exists_cons_of_ne_nil
        (Nat.toDigits_ne_nil : Nat.toDigits 10 q.num.natAbs ≠ [])
      exact ⟨c, cs, hdigits, .inr (isDigit_of_mem_toDigits (hdigits ▸ List.mem_cons_self))⟩
  scan_write _ _ hq hrest := readInteger_writeInteger hq.1 hq.2 hrest

end Interpreter

example : dumps (.integers 2) (.obj [("n", .num (-12)), ("s", .arr [.str "a\n\"", .null])]) =
    "\x7b\"n\": -12, \"s\": [\"a\\n\\\"\", null]\x7d".toList := by
  decide +kernel

example : loads (.integers 2) "[[[]]]".toList = .error recursionError := rfl

end ImageDescriptor
