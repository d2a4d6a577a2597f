/-
# Counting and ranking

The entries of a list are counted in a table that keeps the order of their first occurrences,
and the table is sorted by falling counts.  The sort is stable, so that the ranking is by
counts first and by first occurrences among equal counts.  The last section bounds what is lost
when each of several shares is rounded.
-/
import Mathlib.Algebra.BigOperators.Group.List.Basic
import Mathlib.Algebra.Order.Ring.Abs
import Mathlib.Data.List.Induction
import Mathlib.Tactic.Linarith
import Mathlib.Tactic.Ring

namespace ImageDescriptor.Lib

variable {α β : Type*}

/-! ### Counting -/

section Tally

variable [DecidableEq α] [DecidableEq β]

/-- The table with one more occurrence of an entry; a new entry comes last. -/
def bump (a : α) : List (α × ℕ) → List (α × ℕ)
  | [] => [(a, 1)]
  | (b, n) :: rest => if b = a then (b, n + 1) :: rest else (b, n) :: bump a rest

/-- The counts of the entries of a list, in the order of their first occurrences. -/
def tally (l : List α) : List (α × ℕ) := l.foldl (fun counts a => bump a counts) []

lemma tally_snoc (l : List α) (a : α) : tally (l ++ [a]) = bump a (tally l) := by
  simp [tally, List.foldl_append]

lemma bump_map {f : α → β} (hf : Function.Injective f) (a : α) (counts : List (α × ℕ)) :
    bump (f a) (counts.map fun x => (f x.1, x.2)) =
      (bump a counts).map fun x => (f x.1, x.2) := by
  induction counts with
  | nil => rfl
  | cons x counts ih =>
    by_cases hx : x.1 = a
    · simp [bump, hx]
    · have hfx : f x.1 ≠ f a := fun h => hx (hf h)
      simp [bump, hx, hfx, ih]

/-- The total goes up by one. -/
lemma sum_bump (a : α) (counts : List (α × ℕ)) :
    ((bump a counts).map Prod.snd).sum = (counts.map Prod.snd).sum + 1 := by
  induction counts with
  | nil => rfl
  | cons x counts ih =>
    by_cases hx : x.1 = a
    · simp [bump, hx]
      omega
    · simp [bump, hx, ih]
      omega

lemma sum_tally (l : List α) : ((tally l).map Prod.snd).sum = l.length := by
  induction l using List.reverseRecOn with
  | nil => rfl
  | append_singleton l a ih => rw [tally_snoc, sum_bump, ih, List.length_append, List.length_singleton]

/-- The entries of a list without repetitions, in the order of their first occurrences. -/
def firsts (l : List α) : List α := l.foldl (fun ks a => if a ∈ ks then ks else ks ++ [a]) []

lemma firsts_snoc (l : List α) (a : α) :
    firsts (l ++ [a]) = if a ∈ firsts l then firsts l else firsts l ++ [a] := by
  rw [firsts, List.foldl_append]
  rfl

lemma mem_firsts {l : List α} {b : α} : b ∈ firsts l ↔ b ∈ l := by
  induction l using List.reverseRecOn with
  | nil => rfl
  | append_singleton l a ih =>
    rw [firsts_snoc, List.mem_append, List.mem_singleton, ← ih]
    split
    · rename_i ha
      exact ⟨.inl, fun h => h.elim id fun hb => hb ▸ ha⟩
    · rw [List.mem_append, List.mem_singleton]

lemma nodup_firsts (l : List α) : (firsts l).Nodup := by
  induction l using List.reverseRecOn with
  | nil => exact List.nodup_nil
  | append_singleton l a ih =>
    rw [firsts_snoc]
    split
    · exact ih
    · rename_i ha
      exact List.nodup_append.mpr ⟨ih, by simp, fun b hb c hc => by
        rintro rfl
        exact ha (List.mem_singleton.mp hc ▸ hb)⟩

/-- Each entry comes before those that occur later for the first time. -/
lemma firsts_pairwise (l : List α) :
    (firsts l).Pairwise fun a b => l.idxOf a < l.idxOf b := by
  induction l using List.reverseRecOn with
  | nil => exact List.Pairwise.nil
  | append_singleton l a ih =>
    have hold : (firsts l).Pairwise fun b c => (l ++ [a]).idxOf b < (l ++ [a]).idxOf c := by
      refine ih.imp_of_mem fun {b c} hb hc hlt => ?_
      rwa [List.idxOf_append_of_mem (mem_firsts.mp hb), List.idxOf_append_of_mem (mem_firsts.mp hc)]
    rw [firsts_snoc]
    split
    · exact hold
    · rename_i ha
      refine List.pairwise_append.mpr ⟨hold, List.pairwise_singleton _ a, fun b hb c hc => ?_⟩
      obtain rfl : c = a := List.mem_singleton.mp hc
      have hnew : c ∉ l := fun h => ha (mem_firsts.mpr h)
      have hlt := List.idxOf_lt_length_of_mem (mem_firsts.mp hb)
      rw [List.idxOf_append_of_mem (mem_firsts.mp hb), List.idxOf_append_of_notMem hnew]
      omega

/-- The table of the counts `f` with one more occurrence of an entry. -/
lemma bump_counts {a : α} {ks : List α} {f : α → ℕ} (hks : ks.Nodup) (hf : a ∉ ks → f a = 0) :
    bump a (ks.map fun b => (b, f b)) =
      (if a ∈ ks then ks else ks ++ [a]).map fun b => (b, f b + if b = a then 1 else 0) := by
  induction ks with
  | nil => simp [bump, hf (List.not_mem_nil)]
  | cons c ks ih =>
    obtain ⟨hc, hnodup⟩ := List.nodup_cons.mp hks
    by_cases hca : c = a
    · subst hca
      have hrest : ∀ b ∈ ks, (b, f b) = (b, f b + if b = c then 1 else 0) := by
        intro b hb
        have hbc : b ≠ c := fun h => hc (h ▸ hb)
        rw [if_neg hbc, Nat.add_zero]
      simp only [bump, List.map_cons, List.mem_cons, true_or, if_true]
      rw [List.map_congr_left hrest]
    · have hac : a ≠ c := Ne.symm hca
      have hstep := ih hnodup fun h => hf fun hmem => (List.mem_cons.mp hmem).elim hac h
      simp only [bump, List.map_cons, hca, if_false, hstep, List.mem_cons, hac, false_or]
      split <;> simp [hca]

/-- **Counting.**  The table holds the entries in the order of their first occurrences, each
with the number of its occurrences. -/
theorem tally_eq (l : List α) : tally l = (firsts l).map fun a => (a, l.count a) := by
  induction l using List.reverseRecOn with
  | nil => rfl
  | append_singleton l a ih =>
    have hnew : a ∉ firsts l → l.count a = 0 := fun h =>
      List.count_eq_zero_of_not_mem fun hmem => h (mem_firsts.mpr hmem)
    rw [tally_snoc, ih, bump_counts (nodup_firsts l) hnew, firsts_snoc]
    refine List.map_congr_left fun b _ => ?_
    rw [List.count_append, List.count_singleton]
    by_cases hb : b = a
    · simp [hb]
    · simp [hb, Ne.symm hb]

end Tally

/-! ### Ranking -/

section Ranking

variable {key : α → ℕ} {l : List α} {R : α → α → Prop}

/-- The entries by falling keys, in a stable order. -/
def rank (key : α → ℕ) (l : List α) : List α := l.mergeSort fun x y => decide (key y ≤ key x)

lemma rank_perm : (rank key l).Perm l := List.mergeSort_perm l _

lemma falling_trans (x y z : α) (hxy : decide (key y ≤ key x) = true)
    (hyz : decide (key z ≤ key y) = true) : decide (key z ≤ key x) = true := by
  simp only [decide_eq_true_eq] at hxy hyz ⊢
  omega

lemma falling_total (x y : α) :
    (decide (key y ≤ key x) || decide (key x ≤ key y)) = true := by
  simp only [Bool.or_eq_true, decide_eq_true_eq]
  omega

/-- The entries of one key stand in the order in which they came. -/
lemma filter_rank (k : ℕ) :
    (rank key l).filter (fun x => key x = k) = l.filter fun x => key x = k := by
  have hequal : (l.filter fun x => key x = k).Pairwise fun x y => decide (key y ≤ key x) = true := by
    refine List.pairwise_of_forall_mem_list fun x hx y hy => ?_
    have hxk := List.of_mem_filter hx
    have hyk := List.of_mem_filter hy
    simp only [decide_eq_true_eq] at hxk hyk ⊢
    omega
  have hsub : (l.filter fun x => key x = k).Sublist (rank key l) :=
    List.sublist_mergeSort falling_trans falling_total hequal List.filter_sublist
  have hsub' := hsub.filter fun x => decide (key x = k)
  simp only [List.filter_filter, Bool.and_self] at hsub'
  exact (hsub'.eq_of_length ((rank_perm.filter _).length_eq).symm).symm

/-- **Ranking.**  The keys fall, and among equal keys the order is the one of the list. -/
theorem rank_pairwise (h : l.Pairwise R) :
    (rank key l).Pairwise fun x y => key y < key x ∨ key y = key x ∧ R x y := by
  rw [List.pairwise_iff_forall_sublist] at h ⊢
  intro x y hxy
  have hsorted : (rank key l).Pairwise fun x y => decide (key y ≤ key x) = true :=
    List.pairwise_mergeSort falling_trans falling_total l
  have hle : key y ≤ key x := by
    simpa using List.pairwise_iff_forall_sublist.mp hsorted hxy
  rcases Nat.lt_or_eq_of_le hle with hlt | heq
  · exact .inl hlt
  · -- the two stand in the same order in the list
    have hsub := hxy.filter fun z => decide (key z = key x)
    rw [filter_rank] at hsub
    simp only [heq, List.filter_cons, decide_true, if_true, List.filter_nil] at hsub
    exact .inr ⟨heq, h (hsub.trans List.filter_sublist)⟩

end Ranking

/-! ### Rounded shares -/

/-- What sums of rounded terms differ by, when each term differs by `ε` at most. -/
lemma abs_sum_sub_sum_le {f g : α → ℚ} {ε : ℚ} {l : List α} (h : ∀ a ∈ l, |f a - g a| ≤ ε) :
    |(l.map f).sum - (l.map g).sum| ≤ l.length * ε := by
  induction l with
  | nil => simp
  | cons a l ih =>
    obtain ⟨ha, hrest⟩ := List.forall_mem_cons.mp h
    have hsplit : ((a :: l).map f).sum - ((a :: l).map g).sum =
        (f a - g a) + ((l.map f).sum - (l.map g).sum) := by
      simp only [List.map_cons, List.sum_cons]
      ring
    calc |((a :: l).map f).sum - ((a :: l).map g).sum|
        ≤ |f a - g a| + |(l.map f).sum - (l.map g).sum| := by
          rw [hsplit]
          exact abs_add_le _ _
      _ ≤ ε + l.length * ε := add_le_add ha (ih hrest)
      _ = (a :: l).length * ε := by
          rw [List.length_cons, Nat.cast_succ]
          ring

/-- Shares of a total, out of `whole`, add up to it. -/
lemma sum_shares {f : α → ℕ} {l : List α} {total : ℕ} (whole : ℚ) (hpos : total ≠ 0)
    (htotal : (l.map f).sum = total) :
    (l.map fun a => (f a : ℚ) / total * whole).sum = whole := by
  have hscaled : ∀ l : List α,
      (l.map fun a => (f a : ℚ) / total * whole).sum = ((l.map f).sum : ℕ) / (total : ℚ) * whole := by
    intro l
    induction l with
    | nil => simp
    | cons a l ih =>
      simp only [List.map_cons, List.sum_cons, ih, Nat.cast_add]
      ring
  have hne : (total : ℚ) ≠ 0 := Nat.cast_ne_zero.mpr hpos
  rw [hscaled, htotal, div_self hne, one_mul]

end ImageDescriptor.Lib
