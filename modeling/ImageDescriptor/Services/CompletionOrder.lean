/-
# The order in which the calls of a composition complete

The calls of a phase share nothing but the list of warnings: each leaves its result in a
task of its own, and a call that is refused or raises appends its warning when it does so.
So the parts of a response do not depend on the order in which the calls complete, while
the warnings stand in that order: the response does not depend on it exactly when no phase
has two of them.
-/
import ImageDescriptor.Lib.Schedule
import ImageDescriptor.Services.OneComposition

namespace ImageDescriptor.Composer

open Lib

variable (rt : Runtime) (cfg : Settings) (w : Calls) (request : DescribeRequest)

/-- The task of a service. -/
abbrev TaskOf (svc : Service) : Type := Task svc.Result

/-- What the call of a service leaves in a composition: its task, and the warning if it adds
one. -/
def outcome (c : Composition) : Board.Leaves TaskOf Warning := fun svc =>
  if w.refused svc then (.shortCircuited, [⟨svc.name, "Circuit breaker open"⟩])
  else
    match (c.runService rt cfg svc (w.answers svc)).result with
    | .ok r => (.ended (some r), [])
    | .error e => (.ended none, [⟨svc.name, e.message⟩])

/-- The tasks and the warnings of a composition. -/
def Composition.board (c : Composition) : Board TaskOf Warning :=
  ⟨c.tasks, c.warnings⟩

/-- The composition after its first phase, whose calls have completed in the order in which
`gather` lists them. -/
def afterPhase1 : Composition :=
  [Service.geocoder, .landcover, .mission].foldl (safeCall rt cfg w) (.start request 0 false)

/-- The composition with which the phase of a service begins. -/
def entering (svc : Service) : Composition :=
  if svc.inPhase1 then .start request 0 false else afterPhase1 rt cfg w request

/-- What the call of a service leaves. -/
def leaves : Board.Leaves TaskOf Warning := fun svc =>
  outcome rt cfg w (entering rt cfg w request svc) svc

/-- The call adds a warning: it is refused, or its coroutine raises. -/
def Warns (svc : Service) : Prop := (leaves rt cfg w request svc).2 ≠ []

/-- The composition when all its calls have completed, with these warnings. -/
def settled (warnings : List Warning) : Composition :=
  { Composition.start request 0 false with
    tasks := fun svc => (leaves rt cfg w request svc).1
    warnings := warnings }

/-- The warnings in the order in which the calls complete. -/
def orderedWarnings : List Warning :=
  (w.order₁ ++ w.order₂).flatMap fun svc => (leaves rt cfg w request svc).2

/-- The same calls meet the same outside, and complete in another order. -/
def Reorders (w w' : Calls) : Prop := w'.refused = w.refused ∧ w'.answers = w.answers

variable {rt cfg w request} {c c' : Composition} {svc : Service}

/-! ### The calls of a phase -/

lemma safeCall_board : (safeCall rt cfg w c svc).board =
    Board.complete (outcome rt cfg w c) c.board svc := by
  unfold safeCall
  split
  · rename_i hrefused
    simp [Composition.board, Composition.warn, Composition.setTask, Board.complete, outcome,
      hrefused]
  · rename_i hrefused
    split
    · rename_i r hr
      simp [Composition.board, Composition.setTask, Board.complete, outcome, hrefused, hr]
    · rename_i e he
      simp [Composition.board, Composition.warn, Composition.setTask, Board.complete, outcome,
        hrefused, he]

lemma safeCall_request : (safeCall rt cfg w c svc).request = c.request := by
  unfold safeCall
  split
  · rfl
  · split <;> rfl

/-- What the calls of a phase read of their composition is the same in both. -/
def SameInputs (c c' : Composition) (phase1 : Bool) : Prop :=
  c'.request = c.request ∧ (phase1 = false → c'.location = c.location ∧ c'.landCover = c.landCover)

lemma outcome_congr (h : SameInputs c c' svc.inPhase1) :
    outcome rt cfg w c' svc = outcome rt cfg w c svc := by
  obtain ⟨hrequest, hresults⟩ := h
  have hrun : ∀ answers, c'.runService rt cfg svc answers = c.runService rt cfg svc answers := by
    intro answers
    cases svc with
    | geocoder | landcover | mission =>
      simp only [Composition.runService, hrequest]
      rfl
    | describer | context =>
      obtain ⟨hlocation, hlandCover⟩ := hresults rfl
      simp only [Composition.runService, Composition.prompt, Composition.placeName, hrequest,
        hlocation, hlandCover]
      rfl
  simp only [outcome, hrun]

/-- The calls of a phase do not read what they leave. -/
lemma sameInputs_safeCall : SameInputs c (safeCall rt cfg w c svc) svc.inPhase1 := by
  have hother : ∀ svc', svc' ≠ svc → (safeCall rt cfg w c svc).tasks svc' = c.tasks svc' := by
    intro svc' hne
    have hboard : (safeCall rt cfg w c svc).board =
        Board.complete (outcome rt cfg w c) c.board svc := safeCall_board
    have hslots := congrArg (fun b => b.slots svc') hboard
    simpa [Composition.board, Board.complete, Function.update_of_ne hne] using hslots
  refine ⟨safeCall_request, fun hphase => ?_⟩
  have hgeocoder : Service.geocoder ≠ svc := by
    rintro rfl
    cases hphase
  have hlandcover : Service.landcover ≠ svc := by
    rintro rfl
    cases hphase
  constructor
  · exact congrArg (fun t => (Task.value t).join) (hother .geocoder hgeocoder)
  · exact congrArg (fun t => (Task.value t).join) (hother .landcover hlandcover)

/-- The calls of a phase complete one after the other as independent tasks do. -/
lemma foldl_safeCall {phase1 : Bool} {svcs : List Service}
    (hphase : ∀ svc ∈ svcs, svc.inPhase1 = phase1) (c : Composition) :
    (svcs.foldl (safeCall rt cfg w) c).request = c.request ∧
      (svcs.foldl (safeCall rt cfg w) c).board =
        Board.completeAll (outcome rt cfg w c) c.board svcs := by
  induction svcs generalizing c with
  | nil => exact ⟨rfl, rfl⟩
  | cons svc svcs ih =>
    obtain ⟨hrequest, hboard⟩ :=
      ih (fun svc' h => hphase svc' (by simp [h])) (safeCall rt cfg w c svc)
    refine ⟨hrequest.trans safeCall_request, hboard.trans ?_⟩
    have hsvc : svc.inPhase1 = phase1 := hphase svc (by simp)
    have hsame : ∀ svc' ∈ svcs, outcome rt cfg w (safeCall rt cfg w c svc) svc' =
        outcome rt cfg w c svc' := by
      intro svc' hsvc'
      have hphase' : svc'.inPhase1 = svc.inPhase1 :=
        (hphase svc' (by simp [hsvc'])).trans hsvc.symm
      exact outcome_congr (hphase' ▸ sameInputs_safeCall)
    rw [Board.completeAll_congr hsame, safeCall_board]
    rfl

lemma mem_order₁_iff : svc ∈ w.order₁ ↔ svc.inPhase1 = true := by
  rw [w.order₁_perm.mem_iff]
  cases svc <;> decide

lemma mem_order₂_iff : svc ∈ w.order₂ ↔ svc.inPhase1 = false := by
  rw [w.order₂_perm.mem_iff]
  cases svc <;> decide

/-! ### The whole composition -/

/-- The first phase, in the order in which its calls complete. -/
lemma phase1_board : (w.order₁.foldl (safeCall rt cfg w) (.start request 0 false)).request =
      request ∧
    (w.order₁.foldl (safeCall rt cfg w) (.start request 0 false)).board =
      Board.completeAll (outcome rt cfg w (.start request 0 false))
        (Composition.start request 0 false).board w.order₁ :=
  foldl_safeCall (fun _ h => mem_order₁_iff.mp h) (.start request 0 false)

lemma afterPhase1_board : (afterPhase1 rt cfg w request).request = request ∧
    (afterPhase1 rt cfg w request).board =
      Board.completeAll (outcome rt cfg w (.start request 0 false))
        (Composition.start request 0 false).board [.geocoder, .landcover, .mission] := by
  have hphase : ∀ svc ∈ [Service.geocoder, .landcover, .mission], svc.inPhase1 = true := by decide
  exact foldl_safeCall hphase (.start request 0 false)

/-- The second phase begins with the same inputs whatever the order of the first. -/
lemma sameInputs_phase1 : SameInputs (afterPhase1 rt cfg w request)
    (w.order₁.foldl (safeCall rt cfg w) (.start request 0 false)) false := by
  have htasks : (w.order₁.foldl (safeCall rt cfg w) (.start request 0 false)).tasks =
      (afterPhase1 rt cfg w request).tasks :=
    (congrArg Board.slots phase1_board.2).trans ((Board.completeAll_slots_perm w.order₁_perm).trans
      (congrArg Board.slots afterPhase1_board.2).symm)
  refine ⟨phase1_board.1.trans afterPhase1_board.1.symm, fun _ => ⟨?_, ?_⟩⟩
  · exact congrArg (fun tasks => (Task.value (tasks .geocoder)).join) htasks
  · exact congrArg (fun tasks => (Task.value (tasks .landcover)).join) htasks

/-- All calls, in the order in which they complete. -/
lemma composed_board :
    ((w.order₁ ++ w.order₂).foldl (safeCall rt cfg w) (.start request 0 false)).board =
      Board.completeAll (leaves rt cfg w request) (Composition.start request 0 false).board
        (w.order₁ ++ w.order₂) := by
  have h₁ : ∀ svc ∈ w.order₁, outcome rt cfg w (.start request 0 false) svc =
      leaves rt cfg w request svc := by
    intro svc hsvc
    rw [leaves, entering, if_pos (mem_order₁_iff.mp hsvc)]
  have h₂ : ∀ svc ∈ w.order₂, outcome rt cfg w
      (w.order₁.foldl (safeCall rt cfg w) (.start request 0 false)) svc =
        leaves rt cfg w request svc := by
    intro svc hsvc
    have hphase : svc.inPhase1 = false := mem_order₂_iff.mp hsvc
    rw [leaves, entering, if_neg (by simp [hphase])]
    have hsame : SameInputs (afterPhase1 rt cfg w request)
        (w.order₁.foldl (safeCall rt cfg w) (.start request 0 false)) svc.inPhase1 := by
      rw [hphase]
      exact sameInputs_phase1
    exact outcome_congr hsame
  rw [List.foldl_append, (foldl_safeCall (fun _ h => mem_order₂_iff.mp h) _).2,
    Board.completeAll_congr h₂, phase1_board.2, Board.completeAll_congr h₁]
  simp only [Board.completeAll, List.foldl_append]

/-- A response is made from the results of the tasks and from the warnings. -/
lemma respond_congr (h : c'.board = c.board) : c'.respond = c.respond := by
  obtain ⟨htasks, hwarnings⟩ : c'.tasks = c.tasks ∧ c'.warnings = c.warnings :=
    ⟨congrArg Board.slots h, congrArg Board.log h⟩
  simp only [Composition.respond, Composition.location, Composition.landCover, Composition.result,
    htasks, hwarnings]

/-- **`compose_description` as a function of what its calls leave.**  The order in which they
complete is the order of the warnings. -/
theorem composeDescription_eq : composeDescription rt cfg w request =
    (settled rt cfg w request (orderedWarnings rt cfg w request)).respond := by
  refine respond_congr (composed_board.trans ?_)
  have hslots : (Board.completeAll (leaves rt cfg w request)
      (Composition.start request 0 false).board (w.order₁ ++ w.order₂)).slots =
        fun svc => (leaves rt cfg w request svc).1 := by
    funext svc
    have hmem : svc ∈ w.order₁ ++ w.order₂ := by
      rw [List.mem_append, mem_order₁_iff, mem_order₂_iff]
      cases svc.inPhase1 <;> simp
    simp [hmem]
  have hlog : (Board.completeAll (leaves rt cfg w request)
      (Composition.start request 0 false).board (w.order₁ ++ w.order₂)).log =
        orderedWarnings rt cfg w request := by
    simp [orderedWarnings, Composition.board, Composition.start]
  rw [settled, ← hslots, ← hlog]
  rfl

/-! ### Another order -/

/-- The response with other warnings. -/
lemma settled_respond (ws ws' : List Warning) : (settled rt cfg w request ws').respond =
    (settled rt cfg w request ws).respond.map fun r => { r with warnings := ws' } := by
  unfold Composition.respond
  have hresult : (settled rt cfg w request ws').result .describer =
      (settled rt cfg w request ws).result .describer := rfl
  rw [hresult]
  split <;> rfl

lemma warnings_of_composed {r : DescribeResponse}
    (h : composeDescription rt cfg w request = .ok r) :
    r.warnings = orderedWarnings rt cfg w request := by
  rw [composeDescription_eq, settled_respond (orderedWarnings rt cfg w request)] at h
  rcases hr : (settled rt cfg w request (orderedWarnings rt cfg w request)).respond with e | r'
  · rw [hr] at h
    cases h
  · rw [hr] at h
    cases h
    rfl

lemma leaves_reorders {w' : Calls} (h : Reorders w w') :
    leaves rt cfg w' request = leaves rt cfg w request := by
  obtain ⟨hrefused, hanswers⟩ := h
  have hcall : safeCall rt cfg w' = safeCall rt cfg w := by
    funext c svc
    simp only [safeCall, hrefused, hanswers]
  funext svc
  simp only [leaves, entering, outcome, afterPhase1, hcall, hrefused, hanswers]

/-- Reordered calls make the same response, with its warnings reordered. -/
lemma composeDescription_reorders {w' : Calls} (h : Reorders w w') :
    composeDescription rt cfg w' request = (composeDescription rt cfg w request).map fun r =>
      { r with warnings := orderedWarnings rt cfg w' request } := by
  have hsettled : settled rt cfg w' request = settled rt cfg w request := by
    funext ws
    simp only [settled, leaves_reorders h]
  rw [composeDescription_eq, hsettled, composeDescription_eq]
  exact settled_respond _ _

lemma name_injective : Function.Injective Service.name := by
  intro a b h
  cases a <;> cases b <;> first | rfl | (revert h; decide)

/-- A call adds at most one warning, with the name of its service. -/
lemma leaves_warning (svc : Service) : (leaves rt cfg w request svc).2 = [] ∨
    ∃ error, (leaves rt cfg w request svc).2 = [⟨svc.name, error⟩] := by
  simp only [leaves, outcome]
  split
  · exact .inr ⟨_, rfl⟩
  · split
    · exact .inl rfl
    · exact .inr ⟨_, rfl⟩

/-- The warnings of two calls commute when one of the calls has none. -/
lemma warnings_commute_iff (a b : Service) :
    (leaves rt cfg w request a).2 ++ (leaves rt cfg w request b).2 =
        (leaves rt cfg w request b).2 ++ (leaves rt cfg w request a).2 ↔
      (Warns rt cfg w request a → Warns rt cfg w request b → a = b) := by
  unfold Warns
  rcases @leaves_warning rt cfg w request a with ha | ⟨x, ha⟩
  · simp [ha]
  · rcases @leaves_warning rt cfg w request b with hb | ⟨y, hb⟩
    · simp [hb]
    · constructor
      · intro hsame _ _
        rw [ha, hb] at hsame
        have hnames : a.name = b.name := congrArg Warning.module (List.cons.inj hsame).1
        exact name_injective hnames
      · intro heq
        rw [heq (by simp [ha]) (by simp [hb])]

/-- No phase has two calls that add a warning. -/
def OneWarningAPhase (rt : Runtime) (cfg : Settings) (w : Calls) (request : DescribeRequest) :
    Prop :=
  ∀ a b : Service, a.inPhase1 = b.inPhase1 → Warns rt cfg w request a →
    Warns rt cfg w request b → a = b

/-- Calls that complete in the order in which `gather` lists them. -/
def inOrder (refused : Service → Bool) (answers : Service → Answers) : Calls where
  refused := refused
  answers := answers
  order₁ := [.geocoder, .landcover, .mission]
  order₂ := [.describer, .context]
  order₁_perm := .refl _
  order₂_perm := .refl _

/-- The calls with the first phase, or the second one, in another order. -/
def reorder₁ (w : Calls) (order : List Service) (h : order.Perm w.order₁) : Calls :=
  { w with order₁ := order, order₁_perm := h.trans w.order₁_perm }

def reorder₂ (w : Calls) (order : List Service) (h : order.Perm w.order₂) : Calls :=
  { w with order₂ := order, order₂_perm := h.trans w.order₂_perm }

/-- The warnings of a phase come out the same in every order when it has at most one. -/
lemma flatMap_order_iff {order : List Service} {phase1 : Bool}
    (hmem : ∀ svc, svc ∈ order ↔ svc.inPhase1 = phase1) :
    (∀ order' : List Service, order'.Perm order →
        order'.flatMap (fun svc => (leaves rt cfg w request svc).2) =
          order.flatMap fun svc => (leaves rt cfg w request svc).2) ↔
      ∀ a b : Service, a.inPhase1 = phase1 → b.inPhase1 = phase1 → Warns rt cfg w request a →
        Warns rt cfg w request b → a = b := by
  rw [flatMap_perm_iff]
  constructor
  · intro h a b ha hb
    exact (warnings_commute_iff a b).mp (h a ((hmem a).mpr ha) b ((hmem b).mpr hb))
  · intro h a ha b hb
    exact (warnings_commute_iff a b).mpr (h a b ((hmem a).mp ha) ((hmem b).mp hb))

/-- The warnings of reordered calls, phase by phase. -/
lemma orderedWarnings_reorders {w' : Calls} (h : Reorders w w') :
    orderedWarnings rt cfg w' request =
      w'.order₁.flatMap (fun svc => (leaves rt cfg w request svc).2) ++
        w'.order₂.flatMap fun svc => (leaves rt cfg w request svc).2 := by
  rw [orderedWarnings, leaves_reorders h, List.flatMap_append]

/-- **The response does not depend on the order in which the calls complete exactly when
there is none, or no phase has two calls that add a warning.** -/
theorem orderIndependent_iff :
    (∀ w', Reorders w w' →
        composeDescription rt cfg w' request = composeDescription rt cfg w request) ↔
      (∃ e, composeDescription rt cfg w request = .error e) ∨
        OneWarningAPhase rt cfg w request := by
  constructor
  · intro hsame
    rcases hr : composeDescription rt cfg w request with e | r
    · exact .inl ⟨e, rfl⟩
    · right
      -- the responses of two orders are the same, so their warnings are
      have hwarnings : ∀ w', Reorders w w' →
          w'.order₁.flatMap (fun svc => (leaves rt cfg w request svc).2) ++
              w'.order₂.flatMap (fun svc => (leaves rt cfg w request svc).2) =
            w.order₁.flatMap (fun svc => (leaves rt cfg w request svc).2) ++
              w.order₂.flatMap fun svc => (leaves rt cfg w request svc).2 := by
        intro w' hw'
        have hr' : composeDescription rt cfg w' request = .ok r := (hsame w' hw').trans hr
        rw [← orderedWarnings_reorders hw', ← orderedWarnings_reorders ⟨rfl, rfl⟩,
          ← warnings_of_composed hr', ← warnings_of_composed hr]
      have hfirst := (flatMap_order_iff fun _ => mem_order₁_iff).mp fun order hperm =>
        List.append_cancel_right (hwarnings (reorder₁ w order hperm) ⟨rfl, rfl⟩)
      have hsecond := (flatMap_order_iff fun _ => mem_order₂_iff).mp fun order hperm =>
        List.append_cancel_left (hwarnings (reorder₂ w order hperm) ⟨rfl, rfl⟩)
      intro a b hphase
      cases ha : a.inPhase1 with
      | true => exact hfirst a b ha (hphase ▸ ha)
      | false => exact hsecond a b ha (hphase ▸ ha)
  · rintro (⟨e, he⟩ | hone) w' hw'
    · rw [composeDescription_reorders hw', he]
      rfl
    · have h₁ := (flatMap_order_iff fun _ => mem_order₁_iff).mpr
        (fun a b ha hb => hone a b (ha.trans hb.symm)) w'.order₁
        (w'.order₁_perm.trans w.order₁_perm.symm)
      have h₂ := (flatMap_order_iff fun _ => mem_order₂_iff).mpr
        (fun a b ha hb => hone a b (ha.trans hb.symm)) w'.order₂
        (w'.order₂_perm.trans w.order₂_perm.symm)
      have hwarnings : orderedWarnings rt cfg w' request = orderedWarnings rt cfg w request := by
        rw [orderedWarnings_reorders hw', orderedWarnings_reorders ⟨rfl, rfl⟩, h₁, h₂]
      rw [composeDescription_reorders hw', hwarnings]
      rcases hr : composeDescription rt cfg w request with e | r
      · rfl
      · rw [← warnings_of_composed hr]
        rfl

end ImageDescriptor.Composer
