/-
# Pages of a sorted list

A list is read page by page, and for every page it is sorted anew by a key, in descending
order.  Entries with equal keys may come in another order each time.  The pages together
hold every entry once, whatever the orders are, exactly when entries with equal keys stand
on the same page.
-/
import Mathlib.Data.List.Perm.Basic
import Mathlib.Algebra.Order.Monoid.Unbundled.Basic
import Mathlib.Order.Lattice
import Mathlib.Algebra.Order.Ring.Nat
import Mathlib.Tactic.WLOG

namespace ImageDescriptor.Lib

variable {α κ : Type*} [LinearOrder κ] (key : α → κ)

/-- The entries of `xs` in descending order of their keys. -/
structure Sorts (xs l : List α) : Prop where
  perm : l.Perm xs
  sorted : l.Pairwise fun x y => key y ≤ key x

/-- Page number `k` of `n` entries. -/
def page (n k : ℕ) (l : List α) : List α := (l.drop (k * n)).take n

/-- The first pages, page `k` taken from the order `orders k`. -/
def firstPages (n count : ℕ) (orders : ℕ → List α) : List α :=
  (List.range count).flatMap fun k => page n k (orders k)

/-- Entries with equal keys stand on the same page. -/
def TiesShareAPage (n : ℕ) (l : List α) : Prop :=
  ∀ i j x y, l[i]? = some x → l[j]? = some y → key x = key y → i / n = j / n

variable {key} {xs l l' : List α} {n : ℕ}

lemma take_succ_mul (n k : ℕ) (l : List α) :
    l.take ((k + 1) * n) = l.take (k * n) ++ page n k l := by
  rw [Nat.succ_mul, List.take_add, page]

lemma firstPages_succ (n count : ℕ) (orders : ℕ → List α) :
    firstPages n (count + 1) orders = firstPages n count orders ++ page n count (orders count) := by
  simp [firstPages, List.range_succ]

/-- All orders show the same keys. -/
lemma Sorts.map_key (h : Sorts key xs l) (h' : Sorts key xs l') : l.map key = l'.map key := by
  have hsorted : (l.map key).Pairwise fun a b => b ≤ a := List.pairwise_map.mpr h.sorted
  have hsorted' : (l'.map key).Pairwise fun a b => b ≤ a := List.pairwise_map.mpr h'.sorted
  have hperm : (l.map key).Perm (l'.map key) := (h.perm.trans h'.perm.symm).map key
  exact hperm.eq_of_pairwise (fun _ _ _ _ hba hab => le_antisymm hab hba) hsorted hsorted'

omit [LinearOrder κ] in
lemma TiesShareAPage.congr (h : TiesShareAPage key n l) (hkeys : l.map key = l'.map key) :
    TiesShareAPage key n l' := by
  have hback : ∀ {i : ℕ} {x : α}, l'[i]? = some x → ∃ x', l[i]? = some x' ∧ key x' = key x := by
    intro i x hx
    have hkey : (l.map key)[i]? = some (key x) := by
      rw [hkeys, List.getElem?_map, hx, Option.map_some]
    simpa using hkey
  intro i j x y hx hy hxy
  obtain ⟨x', hx', hkx⟩ := hback hx
  obtain ⟨y', hy', hky⟩ := hback hy
  exact h i j x' y' hx' hy' (by rw [hkx, hky, hxy])

omit [LinearOrder κ] in
/-- Where all keys are different there are no ties. -/
lemma TiesShareAPage.of_nodup (h : (l.map key).Nodup) (n : ℕ) : TiesShareAPage key n l := by
  intro i j x y hx hy hxy
  have hi : (l.map key)[i]? = some (key x) := by rw [List.getElem?_map, hx, Option.map_some]
  have hj : (l.map key)[j]? = some (key x) := by rw [List.getElem?_map, hy, Option.map_some, hxy]
  have hlt : i < (l.map key).length := (List.getElem?_eq_some_iff.mp hi).1
  rw [(List.getElem?_inj hlt h).mp (hi.trans hj.symm)]

/-! ### Ties on one page -/

/-- The keys before the end of a page are greater than those after it. -/
lemma Sorts.lt_of_ties (h : Sorts key xs l) (hties : TiesShareAPage key n l) (hn : 0 < n)
    {k : ℕ} {x y : α} (hx : x ∈ l.take (k * n)) (hy : y ∈ l.drop (k * n)) : key y < key x := by
  obtain ⟨i, hi, hix⟩ := List.getElem_of_mem hx
  obtain ⟨j, hj, hjy⟩ := List.getElem_of_mem hy
  rw [List.length_take] at hi
  rw [List.length_drop] at hj
  rw [List.getElem_take] at hix
  rw [List.getElem_drop] at hjy
  have hlt : i < k * n + j := by omega
  have hle : key y ≤ key x := by
    rw [← hix, ← hjy]
    exact List.pairwise_iff_getElem.mp h.sorted i (k * n + j) _ _ hlt
  refine lt_of_le_of_ne hle fun heq => ?_
  have hpage : i / n = (k * n + j) / n :=
    hties i (k * n + j) x y (by simp [← hix]) (by simp [← hjy]) heq.symm
  have hbefore : i / n < k := (Nat.div_lt_iff_lt_mul hn).mpr (by omega)
  have hafter : k ≤ (k * n + j) / n := (Nat.le_div_iff_mul_le hn).mpr (by omega)
  omega

/-- The entries before the end of a page are those with certain keys. -/
lemma Sorts.take_eq_filter (h : Sorts key xs l) (hties : TiesShareAPage key n l) (hn : 0 < n)
    (k : ℕ) : l.take (k * n) =
      l.filter fun z => decide (key z ∈ (l.map key).take (k * n)) := by
  conv_rhs => rw [← List.take_append_drop (k * n) l, List.filter_append]
  have hfirst : (l.take (k * n)).filter (fun z =>
      decide (key z ∈ ((l.take (k * n) ++ l.drop (k * n)).map key).take (k * n))) =
        l.take (k * n) := by
    rw [List.filter_eq_self]
    intro x hx
    rw [List.take_append_drop, ← List.map_take, decide_eq_true_iff]
    exact List.mem_map_of_mem hx
  have hsecond : (l.drop (k * n)).filter (fun z =>
      decide (key z ∈ ((l.take (k * n) ++ l.drop (k * n)).map key).take (k * n))) = [] := by
    rw [List.filter_eq_nil_iff]
    intro y hy hmem
    rw [List.take_append_drop, ← List.map_take, decide_eq_true_iff] at hmem
    obtain ⟨x, hx, hxy⟩ := List.mem_map.mp hmem
    exact absurd hxy.symm (ne_of_lt (h.lt_of_ties hties hn hx hy))
  rw [hfirst, hsecond, List.append_nil]

lemma Sorts.take_perm (h : Sorts key xs l) (h' : Sorts key xs l')
    (hties : TiesShareAPage key n l) (hn : 0 < n) (k : ℕ) :
    (l.take (k * n)).Perm (l'.take (k * n)) := by
  have hkeys : l.map key = l'.map key := h.map_key h'
  rw [h.take_eq_filter hties hn, h'.take_eq_filter (hties.congr hkeys) hn, hkeys]
  exact (h.perm.trans h'.perm.symm).filter _

/-- A page holds the same entries in every order. -/
lemma Sorts.page_perm (h : Sorts key xs l) (h' : Sorts key xs l')
    (hties : TiesShareAPage key n l) (hn : 0 < n) (k : ℕ) :
    (page n k l).Perm (page n k l') := by
  have hbefore := h.take_perm h' hties hn k
  have hafter := h.take_perm h' hties hn (k + 1)
  rw [take_succ_mul, take_succ_mul] at hafter
  exact (List.perm_append_left_iff _).mp (hafter.trans (hbefore.symm.append_right _))

lemma Sorts.firstPages_perm (h : Sorts key xs l) (hties : TiesShareAPage key n l) (hn : 0 < n)
    {orders : ℕ → List α} (horders : ∀ k, Sorts key xs (orders k)) (count : ℕ) :
    (firstPages n count orders).Perm (l.take (count * n)) := by
  induction count with
  | zero => simp [firstPages]
  | succ count ih =>
    rw [firstPages_succ, take_succ_mul]
    exact ih.append ((h.page_perm (horders count) hties hn count).symm)

/-! ### Ties across the end of a page -/

/-- An order stays one when two neighbours with equal keys change places. -/
lemma Sorts.swap {before after : List α} {x y : α}
    (h : Sorts key xs (before ++ x :: y :: after)) (hkey : key x = key y) :
    Sorts key xs (before ++ y :: x :: after) := by
  constructor
  · exact ((List.Perm.swap x y after).append_left before).trans h.perm
  · have hmap : (before ++ y :: x :: after).map key = (before ++ x :: y :: after).map key := by
      simp [hkey]
    have hsorted : ((before ++ x :: y :: after).map key).Pairwise fun a b => b ≤ a :=
      List.pairwise_map.mpr h.sorted
    rw [← hmap] at hsorted
    exact List.pairwise_map.mp hsorted

/-- Where ties are spread over two pages, the last entry of some page has the key of the
first entry of the next one. -/
lemma Sorts.exists_straddle (h : Sorts key xs l) (hn : 0 < n) (hties : ¬ TiesShareAPage key n l) :
    ∃ before after x y count,
      l = before ++ x :: y :: after ∧ key x = key y ∧ before.length + 1 = (count + 1) * n := by
  simp only [TiesShareAPage, not_forall] at hties
  obtain ⟨i, j, x, y, hx, hy, hkey, hpages⟩ := hties
  -- without loss of generality the first of the two stands before the second
  wlog hij : i < j generalizing i j x y
  · have hne : i ≠ j := fun heq => hpages (by rw [heq])
    exact this j i y x hy hx hkey.symm (Ne.symm hpages) (by omega)
  obtain ⟨hilen, rfl⟩ := List.getElem?_eq_some_iff.mp hx
  obtain ⟨hjlen, rfl⟩ := List.getElem?_eq_some_iff.mp hy
  have hlt : i / n < j / n := lt_of_le_of_ne (Nat.div_le_div_right hij.le) hpages
  have hi : i < (i / n + 1) * n := (Nat.div_lt_iff_lt_mul hn).mp (Nat.lt_succ_self _)
  have hj : (i / n + 1) * n ≤ j := (Nat.le_div_iff_mul_le hn).mp hlt
  generalize hb : (i / n + 1) * n = b at hi hj
  have hmono : ∀ {p q : ℕ} (hp : p < l.length) (hq : q < l.length), p ≤ q →
      key l[q] ≤ key l[p] := by
    intro p q hp hq hpq
    rcases Nat.lt_or_eq_of_le hpq with hlt | rfl
    · exact List.pairwise_iff_getElem.mp h.sorted p q hp hq hlt
    · exact le_refl _
  have hb1 : b - 1 < l.length := by omega
  have hb0 : b < l.length := by omega
  refine ⟨l.take (b - 1), l.drop (b + 1), l[b - 1], l[b], i / n, ?_, ?_, ?_⟩
  · have hsucc : b - 1 + 1 = b := by omega
    conv_lhs => rw [← List.take_append_drop (b - 1) l, List.drop_eq_getElem_cons hb1, hsucc,
      List.drop_eq_getElem_cons hb0]
  · refine le_antisymm ?_ (hmono hb1 hb0 (by omega))
    calc key l[b - 1] ≤ key l[i] := hmono hilen hb1 (by omega)
      _ = key l[j] := hkey
      _ ≤ key l[b] := hmono hb0 hjlen hj
  · rw [List.length_take]
    omega

lemma firstPages_sublist {n : ℕ} {orders : ℕ → List α} {few many : ℕ} (hle : few ≤ many) :
    (firstPages n few orders).Sublist (firstPages n many orders) := by
  induction hle with
  | refl => exact List.Sublist.refl _
  | step _ ih =>
    rw [firstPages_succ]
    exact ih.trans (List.sublist_append_left _ _)

lemma firstPages_const {n : ℕ} {orders : ℕ → List α} (count : ℕ)
    (horders : ∀ k < count, orders k = l) : firstPages n count orders = l.take (count * n) := by
  induction count with
  | zero => simp [firstPages]
  | succ count ih =>
    rw [firstPages_succ, take_succ_mul, horders count (Nat.lt_succ_self _),
      ih fun k hk => horders k (hk.trans (Nat.lt_succ_self _))]

/-- Two neighbours with equal keys on both sides of the end of a page come in one order for
the pages before it and in the other order for the pages after it: the first one is read
twice. -/
lemma Sorts.exists_twice (h : Sorts key xs l) (hn : 0 < n) (hties : ¬ TiesShareAPage key n l) :
    ∃ orders : ℕ → List α, (∀ k, Sorts key xs (orders k)) ∧
      ∃ count, count * n < xs.length ∧ ¬ (firstPages n (count + 1) orders).Nodup := by
  obtain ⟨before, after, x, y, count, rfl, hkey, hlen⟩ := h.exists_straddle hn hties
  refine ⟨fun k => if k < count + 1 then before ++ x :: y :: after
    else before ++ y :: x :: after, ?_, count + 1, ?_, ?_⟩
  · intro k
    by_cases hk : k < count + 1
    · simpa only [if_pos hk] using h
    · simpa only [if_neg hk] using h.swap hkey
  · rw [← h.perm.length_eq, ← hlen]
    simp
  · rw [firstPages_succ, firstPages_const (l := before ++ x :: y :: after) (count + 1)
      fun k hk => if_pos hk]
    intro hnodup
    have hfirst : x ∈ (before ++ x :: y :: after).take ((count + 1) * n) := by
      rw [← hlen, List.take_append]
      simp
    have hsecond : x ∈ page n (count + 1) (before ++ y :: x :: after) := by
      obtain ⟨m, rfl⟩ : ∃ m, n = m + 1 := ⟨n - 1, by omega⟩
      rw [page, ← hlen, List.drop_append, List.drop_of_length_le (Nat.le_succ _)]
      simp
    simp only [lt_irrefl, if_false] at hnodup
    exact (List.nodup_append.mp hnodup).2.2 x hfirst x hsecond rfl

/-- The pages hold every entry once in all orders, exactly when ties share their page. -/
theorem Sorts.forall_firstPages_perm_iff (h : Sorts key xs l) (hnodup : xs.Nodup) (hn : 0 < n)
    {count : ℕ} (hcount : xs.length ≤ count * n) :
    (∀ orders : ℕ → List α, (∀ k, Sorts key xs (orders k)) →
      (firstPages n count orders).Perm xs) ↔ TiesShareAPage key n l := by
  constructor
  · intro hall
    by_contra hties
    obtain ⟨orders, horders, few, hfew, htwice⟩ := h.exists_twice hn hties
    have hle : few + 1 ≤ count := by
      have hlt : few * n < count * n := by omega
      exact lt_of_mul_lt_mul_right hlt (Nat.zero_le n)
    exact htwice (((hall orders horders).nodup_iff.mpr hnodup).sublist (firstPages_sublist hle))
  · intro hties orders horders
    refine (h.firstPages_perm hties hn horders count).trans ?_
    rw [List.take_of_length_le (by rw [h.perm.length_eq]; exact hcount)]
    exact h.perm

end ImageDescriptor.Lib
