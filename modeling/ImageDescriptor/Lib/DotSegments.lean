/-
# Dot segments

A client that follows a reference to an absolute path removes its dot segments: a segment `.`
stands for the path as far as it has been read, a segment `..` for the one above it, and above
the root there is the root.  A path that ends in a dot segment ends in a slash then.  Escapes
are not looked at, so `%2E` is a segment like any other.

Encoding a path keeps its dot segments when the dot and the slash are kept.
-/
import ImageDescriptor.Lib.Percent

namespace ImageDescriptor.Lib

def slash : UInt8 := 0x2f

/-- The segment `.`. -/
def dot : List UInt8 := [0x2e]

/-- The segment `..`. -/
def dotDot : List UInt8 := [0x2e, 0x2e]

def isDotSegment (segment : List UInt8) : Bool := segment = dot || segment = dotDot

/-- The segments that are left, behind those that have been kept so far, the last one first. -/
def resolveSegments (kept : List (List UInt8)) : List (List UInt8) → List (List UInt8)
  | [] => kept.reverse
  | segment :: rest =>
    let kept' := if segment = dot then kept else if segment = dotDot then kept.tail
      else segment :: kept
    -- a dot segment at the end leaves the slash before it
    if rest.isEmpty && isDotSegment segment then ([] :: kept').reverse
    else resolveSegments kept' rest

/-- The segments of an absolute path. -/
def segments (path : List UInt8) : List (List UInt8) := path.tail.splitOn slash

/-- An absolute path without its dot segments. -/
def removeDotSegments (path : List UInt8) : List UInt8 :=
  path.take 1 ++ [slash].intercalate (resolveSegments [] (segments path))

example : removeDotSegments "/a/b/c/./../../g".toUTF8.toList = "/a/g".toUTF8.toList := by
  decide +kernel

/-- No segment of an absolute path is a dot segment. -/
def NoDotSegments (path : List UInt8) : Prop := ∀ s ∈ segments path, isDotSegment s = false

instance (path : List UInt8) : Decidable (NoDotSegments path) :=
  inferInstanceAs (Decidable (∀ s ∈ segments path, isDotSegment s = false))

lemma resolveSegments_of_none {segs : List (List UInt8)}
    (h : ∀ s ∈ segs, isDotSegment s = false) (kept : List (List UInt8)) :
    resolveSegments kept segs = kept.reverse ++ segs := by
  induction segs generalizing kept with
  | nil => simp [resolveSegments]
  | cons segment rest ih =>
    have hsegment := h segment (by simp)
    have hother : segment ≠ dot ∧ segment ≠ dotDot := by simpa [isDotSegment] using hsegment
    have hrest := ih (fun s hs => h s (List.mem_cons_of_mem _ hs)) (segment :: kept)
    simp [resolveSegments, hsegment, hother.1, hother.2, hrest]

/-- A path without dot segments is left as it is. -/
theorem removeDotSegments_eq_self {path : List UInt8} (h : NoDotSegments path) :
    removeDotSegments path = path := by
  rw [removeDotSegments, resolveSegments_of_none h, List.reverse_nil, List.nil_append, segments,
    List.intercalate_splitOn]
  cases path <;> rfl

/-! ### Segments of a path that is put together -/

/-- Dot segments behind a directory are those of the directory and of the rest. -/
lemma noDotSegments_append {directory rest : List UInt8} (hdirectory : directory ≠ []) :
    NoDotSegments (directory ++ slash :: rest) ↔
      NoDotSegments directory ∧ NoDotSegments (slash :: rest) := by
  have hsplit : segments (directory ++ slash :: rest) =
      segments directory ++ segments (slash :: rest) := by
    cases directory with
    | nil => exact absurd rfl hdirectory
    | cons c directory => exact List.splitOn_append_cons_self directory rest
  simp only [NoDotSegments, hsplit, List.mem_append, or_imp, forall_and]

/-! ### Encoding -/

/-- The set of kept bytes has the slash and the dot, so that the segments of a path stay, and
among them the dot segments. -/
structure KeepsSegments (keeps : UInt8 → Bool) : Prop where
  slash : keeps slash = true
  dot : ∀ c ∈ dot, keeps c = true

variable {keeps : UInt8 → Bool}

lemma quote_append (a b : List UInt8) : quote keeps (a ++ b) = quote keeps a ++ quote keeps b :=
  List.flatMap_append

lemma slash_not_mem_escape (c : UInt8) : slash ∉ escape c := by
  have hall : ∀ i : Fin 256, slash ∉ escape (UInt8.ofFin i) := by decide +kernel
  exact hall c.toFin

/-- What is encoded to kept bytes without a percent sign has no byte that is escaped. -/
lemma quote_eq_iff {b s : List UInt8} (hb : ∀ c ∈ b, keeps c = true) (hplain : percent ∉ b) :
    quote keeps s = b ↔ s = b := by
  constructor
  · intro h
    have hkept : ∀ c ∈ s, keeps c = true := by
      intro c hc
      by_contra hno
      -- the escape of the byte puts a percent sign into the text
      refine hplain ?_
      rw [← h, quote, List.mem_flatMap]
      exact ⟨c, hc, by simp [hno, escape]⟩
    rwa [quote_eq_self hkept] at h
  · rintro rfl
    exact quote_eq_self hb

lemma splitOn_append_of_not_mem {w : List UInt8} (hw : slash ∉ w) (b : List UInt8) :
    (w ++ b).splitOn slash = (b.splitOn slash).modifyHead (w ++ ·) := by
  induction w with
  | nil => cases h : b.splitOn slash <;> simp [h]
  | cons c w ih =>
    rw [List.mem_cons, not_or] at hw
    have hc : (c == slash) = false := by simpa using fun h => hw.1 h.symm
    rw [List.cons_append, List.splitOn_cons_eq_if_modifyHead, hc, ih hw.2]
    cases h : b.splitOn slash <;> simp

lemma splitOn_quote (hslash : keeps slash = true) (b : List UInt8) :
    (quote keeps b).splitOn slash = (b.splitOn slash).map (quote keeps) := by
  induction b with
  | nil => rfl
  | cons c b ih =>
    by_cases hc : c = slash
    · subst hc
      rw [quote_cons_of_kept hslash, List.splitOn_cons_eq_if_modifyHead,
        List.splitOn_cons_eq_if_modifyHead, ih]
      simp
    · have hword : slash ∉ quote keeps [c] := by
        intro hmem
        simp only [quote, List.flatMap_cons, List.flatMap_nil, List.append_nil] at hmem
        split at hmem
        · exact hc (List.mem_singleton.mp hmem).symm
        · exact slash_not_mem_escape c hmem
      have hbeq : (c == slash) = false := by simpa using hc
      have hcons : quote keeps (c :: b) = quote keeps [c] ++ quote keeps b := quote_append [c] b
      rw [hcons, splitOn_append_of_not_mem hword, ih, List.splitOn_cons_eq_if_modifyHead, hbeq]
      cases h : b.splitOn slash with
      | nil => rfl
      | cons s rest => simp [← quote_append [c] s]

lemma quote_intercalate (hslash : keeps slash = true) (segs : List (List UInt8)) :
    quote keeps ([slash].intercalate segs) = [slash].intercalate (segs.map (quote keeps)) := by
  match segs with
  | [] => rfl
  | [s] => simp [List.intercalate]
  | s :: s' :: rest =>
    have ih := quote_intercalate hslash (s' :: rest)
    simp only [List.intercalate, List.intersperse_cons_cons, List.map_cons, List.flatten_cons] at ih ⊢
    rw [quote_append, quote_append, ih, quote_cons_of_kept hslash, quote_nil]

lemma resolveSegments_quote (hk : KeepsSegments keeps) (segs kept : List (List UInt8)) :
    resolveSegments (kept.map (quote keeps)) (segs.map (quote keeps)) =
      (resolveSegments kept segs).map (quote keeps) := by
  have hdot : ∀ s, quote keeps s = dot ↔ s = dot := fun s =>
    quote_eq_iff hk.dot (by decide)
  have hdotDot : ∀ s, quote keeps s = dotDot ↔ s = dotDot := by
    intro s
    refine quote_eq_iff ?_ (by decide)
    intro c hc
    refine hk.dot c ?_
    simpa [dot, dotDot] using hc
  induction segs generalizing kept with
  | nil => simp [resolveSegments]
  | cons segment rest ih =>
    have hsegment : isDotSegment (quote keeps segment) = isDotSegment segment := by
      simp [isDotSegment, hdot, hdotDot]
    have hkept : (if quote keeps segment = dot then kept.map (quote keeps)
        else if quote keeps segment = dotDot then (kept.map (quote keeps)).tail
        else quote keeps segment :: kept.map (quote keeps)) =
          (if segment = dot then kept else if segment = dotDot then kept.tail
            else segment :: kept).map (quote keeps) := by
      simp only [hdot, hdotDot]
      split
      · rfl
      · split
        · exact List.map_tail.symm
        · rfl
    rw [List.map_cons, resolveSegments, resolveSegments, hkept, hsegment, List.isEmpty_map]
    split
    · simp
    · exact ih _

/-- Encoding an absolute path and removing its dot segments may be done in either order. -/
theorem removeDotSegments_quote (hk : KeepsSegments keeps) (rest : List UInt8) :
    removeDotSegments (quote keeps (slash :: rest)) =
      quote keeps (removeDotSegments (slash :: rest)) := by
  have hsegs : segments (quote keeps (slash :: rest)) =
      (segments (slash :: rest)).map (quote keeps) := by
    rw [quote_cons_of_kept hk.slash]
    exact splitOn_quote hk.slash rest
  have hresolved := resolveSegments_quote hk (segments (slash :: rest)) []
  rw [List.map_nil] at hresolved
  rw [removeDotSegments, removeDotSegments, hsegs, hresolved, quote_append,
    quote_intercalate hk.slash, quote_cons_of_kept hk.slash]
  simp [quote_cons_of_kept hk.slash]

end ImageDescriptor.Lib
