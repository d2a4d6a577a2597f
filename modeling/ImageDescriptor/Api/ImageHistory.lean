/-
# One image, one description

The requests of an image meet those of other images only in the two stores, where each of
them works under its own key: what happens to one image can be told without the others.
Once the description of an image is cached, it is there for good, for the delete route does
not touch the cache, so that only a request that had found no entry before still asks Gemini
and may replace it; after the last of these every request is answered with one text.
-/
import ImageDescriptor.Api.StoredDescriptions
import ImageDescriptor.Modules.KeyIsolation

namespace ImageDescriptor.StoredDescriptions

open Lib Db

variable {s s' t : StoredDescriptions} {a : ImageAction} {id : CogImageId} {ids : ℕ → CogImageId}

/-! ### The requests of an image -/

/-- The task of an action. -/
def taskOf : ImageAction → ℕ
  | .describe task _ | .delete task _ | .read task _ | .answered task _ | .write task _
  | .composed task _ | .save task | .erase task | .cancel task => task

/-- The requests that come in are for the images that are given for their tasks. -/
def ComesFor (ids : ℕ → CogImageId) (_ : StoredDescriptions) : ImageAction → Prop
  | .describe task id | .delete task id => id = ids task
  | _ => True

/-- The action belongs to a request of the image. -/
def OfImage (ids : ℕ → CogImageId) (id : CogImageId) (a : ImageAction) : Bool :=
  decide (ids (taskOf a) = id)

/-- Two states that look alike from an image: its entry, its row and its requests. -/
structure SameForImage (ids : ℕ → CogImageId) (id : CogImageId) (s t : StoredDescriptions) :
    Prop where
  entry : s.cache.table.lookup id.cacheKey = t.cache.table.lookup id.cacheKey
  row : s.rows.lookup id.1 = t.rows.lookup id.1
  requests : ∀ task, ids task = id → s.requests task = t.requests task
  ids : ∀ task req, s.requests task = some req → req.id = ids task

lemma requests_put {task i : ℕ} {id : CogImageId} {p : ImagePhase} :
    (s.put task id p).requests i = if i = task then some ⟨id, p⟩ else s.requests i := by
  simp only [put, Function.update_apply]

/-- A request that moves on keeps its image. -/
lemma ids_put (hids : ∀ task req, s.requests task = some req → req.id = ids task) {task : ℕ}
    {p : ImagePhase} (hid : id = ids task) :
    ∀ i req, (s.put task id p).requests i = some req → req.id = ids i := by
  intro i req hreq
  rw [requests_put] at hreq
  split at hreq
  · rename_i heq
    rw [← Option.some.inj hreq, heq]
    exact hid
  · exact hids i req hreq

lemma ids_of_step (hcomes : ComesFor ids s a) (h : step s a = some s')
    (hids : ∀ task req, s.requests task = some req → req.id = ids task) :
    ∀ task req, s'.requests task = some req → req.id = ids task := by
  cases moves_of_step h with
  | describe hnew | delete hnew => exact ids_put hids hcomes
  | read hreq | answered hreq | unanswered hreq | write hreq | composed hreq | save hreq
  | erase hreq | cancel hreq => exact ids_put hids (hids _ _ hreq)

/-- A request of another image moves on: the entry and the row of this one stay, and so do its
requests. -/
lemma sameForImage_of_put {task : ℕ} {id' : CogImageId} {p : ImagePhase} {u : StoredDescriptions}
    (hsame : SameForImage ids id s t) (hother : ids task ≠ id)
    (hentry : u.cache.table.lookup id.cacheKey = s.cache.table.lookup id.cacheKey)
    (hrow : u.rows.lookup id.1 = s.rows.lookup id.1) (hrequests : u.requests = s.requests)
    (hids : ∀ i req, (u.put task id' p).requests i = some req → req.id = ids i) :
    SameForImage ids id (u.put task id' p) t := by
  refine ⟨hentry.trans hsame.entry, hrow.trans hsame.row, fun i hi => ?_, hids⟩
  have hne : i ≠ task := by
    rintro rfl
    exact hother hi
  rw [requests_put, if_neg hne, hrequests]
  exact hsame.requests i hi

/-- An action of another image changes nothing that can be seen from this one. -/
lemma sameForImage_of_other (hsame : SameForImage ids id s t) (hcomes : ComesFor ids s a)
    (hother : OfImage ids id a = false) (h : step s a = some s') : SameForImage ids id s' t := by
  have hids := ids_of_step hcomes h hsame.ids
  have htask : ids (taskOf a) ≠ id := of_decide_eq_false hother
  have hkey : ∀ {task req}, s.requests task = some req → ids task ≠ id →
      id.cacheKey ≠ req.id.cacheKey ∧ id.1 ≠ req.id.1 := by
    intro task req hreq hne
    have hne' : id ≠ req.id := fun heq => hne (by rw [heq, hsame.ids task req hreq])
    exact ⟨fun hkeys => hne' (cacheKey_injective hkeys), fun hval => hne' (Subtype.ext hval)⟩
  cases moves_of_step h with
  | describe hnew | delete hnew => exact sameForImage_of_put hsame htask rfl rfl rfl hids
  | read hreq =>
    exact sameForImage_of_put hsame htask (CacheStore.lookup_get_of_ne (hkey hreq htask).1 {}) rfl
      rfl hids
  | write hreq =>
    exact sameForImage_of_put hsame htask (CacheStore.lookup_set_of_ne (hkey hreq htask).1) rfl rfl
      hids
  | save hreq =>
    exact sameForImage_of_put hsame htask rfl (AList.lookup_insert_ne (hkey hreq htask).2) rfl hids
  | erase hreq =>
    exact sameForImage_of_put hsame htask rfl (AList.lookup_erase_ne (hkey hreq htask).2) rfl hids
  | answered hreq | unanswered hreq | composed hreq | cancel hreq =>
    exact sameForImage_of_put hsame htask rfl rfl rfl hids

/-- A request of the image moves on in both states. -/
lemma sameForImage_of_puts {task : ℕ} {id' : CogImageId} {p p' : ImagePhase}
    {u v : StoredDescriptions} (hsame : SameForImage ids id s t) (hp : p = p')
    (hentry : u.cache.table.lookup id.cacheKey = v.cache.table.lookup id.cacheKey)
    (hrow : u.rows.lookup id.1 = v.rows.lookup id.1) (hu : u.requests = s.requests)
    (hv : v.requests = t.requests)
    (hids : ∀ i req, (u.put task id' p).requests i = some req → req.id = ids i) :
    SameForImage ids id (u.put task id' p) (v.put task id' p') := by
  refine ⟨hentry, hrow, fun i hi => ?_, hids⟩
  rw [requests_put, requests_put, hp, hu, hv, hsame.requests i hi]

/-- An action of the image does the same in both states. -/
lemma sameForImage_of_own (hsame : SameForImage ids id s t) (hcomes : ComesFor ids s a)
    (hown : OfImage ids id a = true) (h : step s a = some s') :
    ∃ t', step t a = some t' ∧ SameForImage ids id s' t' := by
  have hids := ids_of_step hcomes h hsame.ids
  have htask : ids (taskOf a) = id := of_decide_eq_true hown
  have hreqs : ∀ {x}, s.requests (taskOf a) = x → t.requests (taskOf a) = x := fun hx =>
    (hsame.requests (taskOf a) htask).symm.trans hx
  have hid : ∀ {req}, s.requests (taskOf a) = some req → req.id = id := fun hreq =>
    (hsame.ids _ _ hreq).trans htask
  cases moves_of_step h with
  | @describe task id' hnew =>
    have hnew' : t.requests task = none := hreqs hnew
    have hstep : step t (.describe task id') = some (t.put task id' .reading) := by
      simp only [step, hnew']
    exact ⟨_, hstep, sameForImage_of_puts hsame rfl hsame.entry hsame.row rfl rfl hids⟩
  | @delete task id' hnew =>
    have hnew' : t.requests task = none := hreqs hnew
    have hstep : step t (.delete task id') = some (t.put task id' .deleting) := by
      simp only [step, hnew']
    exact ⟨_, hstep, sameForImage_of_puts hsame rfl hsame.entry hsame.row rfl rfl hids⟩
  | @read task now id' hreq =>
    obtain rfl : id' = id := hid hreq
    have hreq' : t.requests task = some ⟨id', .reading⟩ := hreqs hreq
    have hstep : step t (.read task now) = some ({ t with
        cache := (t.cache.get now id'.cacheKey {}).1 }.put task id'
          (afterRead (t.cache.get now id'.cacheKey {}).2)) := by
      simp only [step, hreq']
    refine ⟨_, hstep, sameForImage_of_puts hsame ?_ ?_ hsame.row rfl rfl hids⟩
    · rw [CacheStore.get_congr hsame.entry]
    · exact CacheStore.lookup_get_congr hsame.entry {}
  | @answered task id' text hreq =>
    have hreq' : t.requests task = some ⟨id', .asking⟩ := hreqs hreq
    have hstep : step t (.answered task (.ok text)) = some (t.put task id' (.writing text)) := by
      simp only [step, hreq']
    exact ⟨_, hstep, sameForImage_of_puts hsame rfl hsame.entry hsame.row rfl rfl hids⟩
  | @unanswered task id' e hreq =>
    have hreq' : t.requests task = some ⟨id', .asking⟩ := hreqs hreq
    have hstep : step t (.answered task (.error e)) = some (t.put task id' (.composing none)) := by
      simp only [step, hreq']
    exact ⟨_, hstep, sameForImage_of_puts hsame rfl hsame.entry hsame.row rfl rfl hids⟩
  | @write task now id' text hreq =>
    obtain rfl : id' = id := hid hreq
    have hreq' : t.requests task = some ⟨id', .writing text⟩ := hreqs hreq
    have hstep : step t (.write task now) = some ({ t with
        cache := (t.cache.set now id'.cacheKey [("description", .str text)] {} none).1 }.put task id'
          (.composing (some (.str text, false)))) := by
      simp only [step, hreq']
    refine ⟨_, hstep, sameForImage_of_puts hsame rfl ?_ hsame.row rfl rfl hids⟩
    exact CacheStore.lookup_set_congr hsame.entry _ _ none
  | @composed task id' around result hreq =>
    have hreq' : t.requests task = some ⟨id', .composing result⟩ := hreqs hreq
    have hstep : step t (.composed task around) =
        some (t.put task id' (afterCompose id' around result)) := by
      simp only [step, hreq']
    exact ⟨_, hstep, sameForImage_of_puts hsame rfl hsame.entry hsame.row rfl rfl hids⟩
  | @save task id' row hreq =>
    obtain rfl : id' = id := hid hreq
    have hreq' : t.requests task = some ⟨id', .saving row⟩ := hreqs hreq
    have hstep : step t (.save task) = some ({ t with
        rows := t.rows.insert id'.1 (row.upsert (t.rows.lookup id'.1)) }.put task id'
          .finished) := by
      simp only [step, hreq']
    refine ⟨_, hstep, sameForImage_of_puts hsame rfl hsame.entry ?_ rfl rfl hids⟩
    rw [AList.lookup_insert, AList.lookup_insert, hsame.row]
  | @erase task id' hreq =>
    obtain rfl : id' = id := hid hreq
    have hreq' : t.requests task = some ⟨id', .deleting⟩ := hreqs hreq
    have hstep : step t (.erase task) =
        some ({ t with rows := t.rows.erase id'.1 }.put task id' .finished) := by
      simp only [step, hreq']
    refine ⟨_, hstep, sameForImage_of_puts hsame rfl hsame.entry ?_ rfl rfl hids⟩
    rw [AList.lookup_erase, AList.lookup_erase]
  | @cancel task id' phase hreq =>
    have hreq' : t.requests task = some ⟨id', phase⟩ := hreqs hreq
    have hstep : step t (.cancel task) = some (t.put task id' .finished) := by
      simp only [step, hreq']
    exact ⟨_, hstep, sameForImage_of_puts hsame rfl hsame.entry hsame.row rfl rfl hids⟩

/-- **No image disturbs another**, as long as the two stores do not fail and no breaker, which the
images share, refuses a call.  When the requests of all other images are taken out of a
run, what is left is a run to the same entry, the same row and the same requests of the
image. -/
theorem image_isolated {cache : CacheStore} {rows : Table String Row} {as : List ImageAction}
    (hrun : Run step (ComesFor ids) (initial cache rows) as s) (id : CogImageId) :
    ∃ t, Run step (fun _ _ => True) (initial cache rows) (as.filter (OfImage ids id)) t ∧
      t.cache.table.lookup id.cacheKey = s.cache.table.lookup id.cacheKey ∧
      t.rows.lookup id.1 = s.rows.lookup id.1 ∧
      ∀ task, ids task = id → t.requests task = s.requests task := by
  have hsame : SameForImage ids id (initial cache rows) (initial cache rows) :=
    ⟨rfl, rfl, fun _ _ => rfl, fun _ _ h => by cases h⟩
  obtain ⟨t, hrun', ht⟩ := hrun.purge (R := SameForImage ids id) (OfImage ids id)
    (fun _ _ _ _ hR hC hown h => sameForImage_of_own hR hC hown h)
    (fun _ _ _ _ hR hC hother h => sameForImage_of_other hR hC hother h) hsame
  exact ⟨t, hrun', ht.entry.symm, ht.row.symm, fun task htask => (ht.requests task htask).symm⟩

/-- The image of each of two tasks. -/
def imagesOf (task : ℕ) : CogImageId :=
  if task = 0 then ⟨"img-1", by decide⟩ else ⟨"img-2", by decide⟩

/-- One image is described while another one is deleted. -/
def twoImages : List ImageAction :=
  [.describe 0 ⟨"img-1", by decide⟩, .delete 1 ⟨"img-2", by decide⟩, .erase 1, .read 0 0]

theorem image_isolated_of_twoImages :
    ∃ s t, Run step (ComesFor imagesOf) (initial .init ∅) twoImages s ∧
      Run step (fun _ _ => True) (initial .init ∅)
        (twoImages.filter (OfImage imagesOf ⟨"img-1", by decide⟩)) t ∧
      ∀ task, imagesOf task = ⟨"img-1", by decide⟩ → t.requests task = s.requests task := by
  let id : CogImageId := ⟨"img-1", by decide⟩
  let id' : CogImageId := ⟨"img-2", by decide⟩
  let s₁ := (initial .init ∅).put 0 id .reading
  let s₂ := s₁.put 1 id' .deleting
  let s₃ := { s₂ with rows := s₂.rows.erase id'.1 }.put 1 id' .finished
  let s₄ := { s₃ with cache := (s₃.cache.get 0 id.cacheKey {}).1 }.put 0 id
    (afterRead (s₃.cache.get 0 id.cacheKey {}).2)
  have h₁ : step (initial .init ∅) (.describe 0 id) = some s₁ := rfl
  have h₂ : step s₁ (.delete 1 id') = some s₂ := rfl
  have h₃ : step s₂ (.erase 1) = some s₃ := rfl
  have h₄ : step s₃ (.read 0 0) = some s₄ := rfl
  have hrun : Run step (ComesFor imagesOf) (initial .init ∅) twoImages s₄ :=
    .cons rfl h₁ (.cons rfl h₂ (.cons trivial h₃ (.cons trivial h₄ (.nil _))))
  obtain ⟨t, hrun', -, -, ht⟩ := image_isolated hrun id
  exact ⟨s₄, t, hrun, hrun', ht⟩

/-! ### The description stays -/

/-- The request has found no entry: it asks Gemini, or has yet to write the answer. -/
def Asks (s : StoredDescriptions) (id : CogImageId) (task : ℕ) : Prop :=
  s.requests task = some ⟨id, .asking⟩ ∨ ∃ text, s.requests task = some ⟨id, .writing text⟩

/-- Where a request can stand that is answered with the cached description `text`. -/
def ServedWith (text : String) : ImagePhase → Prop
  | .asking | .writing _ => False
  | .composing result => result = some (.str text, true)
  | .saving row => row.description = .str text
  | .reading | .deleting | .finished => True

/-- What is left of a state in which `text` was cached for the image. -/
structure StaysDescribed (s₀ : StoredDescriptions) (id : CogImageId) (text : String)
    (s : StoredDescriptions) : Prop where
  cached : ∃ text', s.Caches id (some text')
  asks : ∀ task, s.Asks id task → s₀.Asks id task
  same : (∀ task, ¬ s₀.Asks id task) → s.Caches id (some text)
  served : (∀ task, ¬ s₀.Asks id task) → ∀ task phase, s₀.requests task = none →
    s.requests task = some ⟨id, phase⟩ → ServedWith text phase

/-- The state in which the description was cached. -/
lemma staysDescribed_start {text : String} (h : s.Caches id (some text)) :
    StaysDescribed s id text s :=
  ⟨⟨text, h⟩, fun _ h => h, fun _ => h, fun _ _ _ hnew hreq => by cases hnew.symm.trans hreq⟩

/-- A request moves on and leaves the entry of the image alone. -/
lemma StaysDescribed.put {s₀ u : StoredDescriptions} {text : String} {task : ℕ} {id' : CogImageId}
    {p : ImagePhase} (hs : StaysDescribed s₀ id text s)
    (hcache : ∀ x, s.Caches id (some x) → u.Caches id (some x)) (hrequests : u.requests = s.requests)
    (hasks : id' = id → (p = .asking ∨ ∃ x, p = .writing x) → s.Asks id task)
    (hserved : id' = id → (∀ i, ¬ s₀.Asks id i) → s₀.requests task = none → ServedWith text p) :
    StaysDescribed s₀ id text (u.put task id' p) := by
  refine ⟨?_, fun i hi => ?_, fun hnone => hcache text (hs.same hnone),
    fun hnone i phase hnew hreq => ?_⟩
  · obtain ⟨text', hcached⟩ := hs.cached
    exact ⟨text', hcache text' hcached⟩
  · by_cases htask : i = task
    · subst htask
      rcases hi with hi | ⟨x, hi⟩
      · rw [requests_put, if_pos rfl, Option.some.injEq, ImageRequest.mk.injEq] at hi
        exact hs.asks i (hasks hi.1 (.inl hi.2))
      · rw [requests_put, if_pos rfl, Option.some.injEq, ImageRequest.mk.injEq] at hi
        exact hs.asks i (hasks hi.1 (.inr ⟨x, hi.2⟩))
    · refine hs.asks i ?_
      simpa only [Asks, requests_put, if_neg htask, hrequests] using hi
  · rw [requests_put] at hreq
    split at hreq
    · rename_i htask
      rw [Option.some.injEq, ImageRequest.mk.injEq] at hreq
      obtain ⟨hid, rfl⟩ := hreq
      exact hserved hid hnone (htask ▸ hnew)
    · rw [hrequests] at hreq
      exact hs.served hnone i phase hnew hreq

/-- A request that finds the entry does not ask. -/
lemma afterRead_of_cached {now : ℚ} {text : String} (h : s.Caches id (some text)) :
    afterRead (s.cache.get now id.cacheKey {}).2 = .composing (some (.str text, true)) := by
  have hget : (s.cache.get now id.cacheKey {}).2 = .ok (.obj [("description", .str text)]) :=
    CacheStore.get_of_live h (live_descriptionEntry now text) rfl {} rfl
  rw [hget]
  rfl

lemma afterCompose_cases (id : CogImageId) (around : Surroundings)
    (result : Option (Json × Bool)) : afterCompose id around result = .finished ∨
      ∃ row, afterCompose id around result = .saving row := by
  unfold afterCompose
  split
  · exact .inl rfl
  · split
    · exact .inr ⟨_, rfl⟩
    · exact .inl rfl

lemma servedWith_afterCompose {around : Surroundings} {text : String} :
    ServedWith text (afterCompose id around (some (.str text, true))) := by
  by_cases hblank : text = ""
  · subst hblank
    exact trivial
  · have hsaves : (afterCompose id around (some (.str text, true))).Saves text :=
      saves_afterCompose hblank
    rcases afterCompose_cases id around (some (.str text, true)) with hphase | ⟨row, hphase⟩
    · rw [hphase]
      exact trivial
    · rw [hphase] at hsaves ⊢
      exact hsaves

/-- The write of an entry: its request has asked, and asks no more. -/
lemma staysDescribed_write {s₀ : StoredDescriptions} {text x : String} {task : ℕ} {now : ℚ}
    {id' : CogImageId} (hs : StaysDescribed s₀ id text s)
    (hreq : s.requests task = some ⟨id', .writing x⟩) :
    StaysDescribed s₀ id text ({ s with
      cache := (s.cache.set now id'.cacheKey [("description", .str x)] {} none).1 }.put task id'
        (.composing (some (.str x, false)))) := by
  by_cases hid : id' = id
  · subst hid
    have hasked : s₀.Asks id' task := hs.asks task (.inr ⟨x, hreq⟩)
    refine ⟨⟨x, CacheStore.lookup_set_self ..⟩, fun i hi => hs.asks i ?_,
      fun hnone => absurd hasked (hnone task), fun hnone => absurd hasked (hnone task)⟩
    by_cases htask : i = task
    · subst htask
      exact .inr ⟨x, hreq⟩
    · simpa only [Asks, requests_put, if_neg htask] using hi
  · have hkey : id.cacheKey ≠ id'.cacheKey := fun h => hid (cacheKey_injective h).symm
    exact StaysDescribed.put hs (fun y hy => (CacheStore.lookup_set_of_ne hkey).trans hy) rfl
      (fun h => absurd h hid) fun h => absurd h hid

lemma staysDescribed_step {s₀ : StoredDescriptions} {text : String}
    (hs : StaysDescribed s₀ id text s) (h : step s a = some s') :
    StaysDescribed s₀ id text s' := by
  have hasked : ∀ {task id' phase}, s.requests task = some ⟨id', phase⟩ → id' = id →
      (phase = .asking ∨ ∃ x, phase = .writing x) → s.Asks id task := by
    rintro task id' phase hreq rfl (rfl | ⟨x, rfl⟩)
    · exact .inl hreq
    · exact .inr ⟨x, hreq⟩
  cases moves_of_step h with
  | describe hnew | delete hnew =>
    exact hs.put (fun _ hx => hx) rfl (by simp) fun _ _ _ => trivial
  | @read task now id' hreq =>
    refine StaysDescribed.put hs (fun x hx => lookup_get_description hx) rfl ?_ ?_
    · rintro rfl hphase
      obtain ⟨text', hcached⟩ := hs.cached
      rw [afterRead_of_cached hcached] at hphase
      simp at hphase
    · rintro rfl hnone -
      rw [afterRead_of_cached (hs.same hnone)]
      rfl
  | answered hreq =>
    refine hs.put (fun _ hx => hx) rfl (fun hid _ => hasked hreq hid (.inl rfl)) ?_
    intro hid hnone _
    exact absurd (hs.asks _ (hasked hreq hid (.inl rfl))) (hnone _)
  | unanswered hreq =>
    refine hs.put (fun _ hx => hx) rfl (by simp) ?_
    intro hid hnone _
    exact absurd (hs.asks _ (hasked hreq hid (.inl rfl))) (hnone _)
  | @write task now id' x hreq => exact staysDescribed_write hs hreq
  | @composed task id' around result hreq =>
    refine hs.put (fun _ hx => hx) rfl ?_ ?_
    · intro _ hphase
      rcases afterCompose_cases id' around result with hend | ⟨row, hend⟩
      · simp [hend] at hphase
      · simp [hend] at hphase
    · rintro rfl hnone hnew
      have hresult := hs.served hnone _ _ hnew hreq
      rw [hresult]
      exact servedWith_afterCompose
  | save hreq | erase hreq | cancel hreq =>
    exact StaysDescribed.put hs (fun _ hx => hx) rfl (by simp) fun _ _ _ => trivial

end ImageDescriptor.StoredDescriptions
