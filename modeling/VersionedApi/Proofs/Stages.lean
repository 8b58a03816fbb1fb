import VersionedApi.Files.Tree
import VersionedApi.Stage

/-!
# Runs of stages

A run of a stage is put together from the runs of its steps, each of which may change a state. A stage that
only looks at a file tree and leaves nothing behind has one outcome for the tree: the tree and the diagnostics
so far are what they were. What a stage gives where it succeeds has a property if the values of its steps lead
to it, whatever the steps do to the state.

Main definitions: `Stage.Yields`, the outcome of a stage that only looks, and `Stage.Ensures`, what the values
of a stage have in common.
-/

namespace VersionedApi.Stage

variable {α β : Type}

/-! ## Runs of steps -/

section Runs

variable {σ : Type} {start after : σ} {log log' : List Diagnostic} {x : Stage (StateM σ) α}
  {f : α → Stage (StateM σ) β}

/-- After a stage that succeeds, a sequence goes on in the state that it leaves. -/
theorem bind_of_ok {a : α} (h : x log start = ((.ok a, log'), after)) : (x >>= f) log start = f a log' after := by
  show ExceptT.bindCont f (x log start).1.1 (x log start).1.2 (x log start).2 = _
  rw [h]
  rfl

/-- A sequence ends with a stage that fails. -/
theorem bind_of_error {failure : Failure} (h : x log start = ((.error failure, log'), after)) :
    (x >>= f) log start = ((.error failure, log'), after) := by
  show ExceptT.bindCont f (x log start).1.1 (x log start).1.2 (x log start).2 = _
  rw [h]
  rfl

/-- A step leaves no diagnostics and does not fail itself. -/
theorem perform_of_step {step : StateM σ α} {a : α} (h : step start = (a, after)) :
    perform step log start = ((.ok a, log), after) := by
  show ((Except.ok (step start).1, log), (step start).2) = _
  rw [h]

end Runs

/-! ## Stages that only look -/

variable {t : FileTree}

/-- A stage has an outcome in a tree, and leaves the tree and the diagnostics as they are. -/
def Yields (t : FileTree) (stage : Stage (StateM FileTree) α) (outcome : Except Failure α) : Prop :=
  ∀ log, stage log t = ((outcome, log), t)

theorem yields_pure (a : α) : Yields t (pure a) (.ok a) :=
  fun _ => rfl

theorem yields_ofExcept (outcome : Except Failure α) : Yields t (ofExcept outcome) outcome :=
  fun _ => rfl

theorem yields_report (p : Problem) : Yields t (report (α := α) p) (.error (.ofProblem p)) :=
  fun _ => rfl

/-- A look at the tree. -/
theorem yields_perform {step : StateM FileTree α} {a : α} (h : step t = (a, t)) :
    Yields t (perform step) (.ok a) :=
  fun _ => perform_of_step h

/-- A look at the tree that the system may refuse. -/
theorem yields_performChecked {step : StateM FileTree (Except Misuse α)} {found : Except Misuse α}
    (h : step t = (found, t)) : Yields t (performChecked step) (found.mapError Failure.misuse) := by
  intro log
  show (((step t).1.mapError Failure.misuse, log), (step t).2) = ((found.mapError Failure.misuse, log), t)
  rw [h]

/-- A sequence goes on with what its first stage gives. -/
theorem yields_bind {x : Stage (StateM FileTree) α} {f : α → Stage (StateM FileTree) β} {a : α}
    {outcome : Except Failure β} (hx : Yields t x (.ok a)) (hf : Yields t (f a) outcome) :
    Yields t (x >>= f) outcome :=
  fun log => (bind_of_ok (hx log)).trans (hf log)

/-! ## Properties of values -/

section Ensures

variable {σ : Type} {P : α → Prop} {Q : β → Prop}

/-- Every value that a stage gives has a property, from whatever state it starts. -/
def Ensures (stage : Stage (StateM σ) α) (P : α → Prop) : Prop :=
  ∀ ⦃log state a log' after⦄, stage log state = ((.ok a, log'), after) → P a

theorem ensures_true (stage : Stage (StateM σ) α) : Ensures stage fun _ => True :=
  fun _ _ _ _ _ _ => trivial

theorem ensures_pure {a : α} (ha : P a) : Ensures (σ := σ) (pure a) P := by
  intro log state b log' after h
  cases h
  exact ha

theorem ensures_ofExcept {outcome : Except Failure α} (h : ∀ a, outcome = .ok a → P a) :
    Ensures (σ := σ) (ofExcept outcome) P := by
  intro log state a log' after hrun
  cases hrun
  exact h a rfl

theorem ensures_ofLogged {outcome : Except Failure α × List Diagnostic} (h : ∀ a, outcome.1 = .ok a → P a) :
    Ensures (σ := σ) (ofLogged outcome) P := by
  intro log state a log' after hrun
  exact h a (congrArg (·.1.1) hrun)

/-- A sequence gives what its last stage does after a value of its first one. -/
theorem ensures_bind {x : Stage (StateM σ) α} {f : α → Stage (StateM σ) β} (hx : Ensures x P)
    (hf : ∀ a, P a → Ensures (f a) Q) : Ensures (x >>= f) Q := by
  intro log state b log' after h
  replace h : ExceptT.bindCont f (x log state).1.1 (x log state).1.2 (x log state).2 = ((.ok b, log'), after) := h
  rcases hrun : x log state with ⟨⟨outcome, mid⟩, next⟩
  rw [hrun] at h
  cases outcome with
  | error failure => cases h
  | ok a => exact hf a (hx hrun) h

/-- A sequence whose last stage ensures a property ensures it after any first one. -/
theorem ensures_bind_any {x : Stage (StateM σ) α} {f : α → Stage (StateM σ) β} (hf : ∀ a, Ensures (f a) Q) :
    Ensures (x >>= f) Q :=
  ensures_bind (ensures_true x) fun a _ => hf a

theorem ensures_about (name : String) {stage : Stage (StateM σ) α} (h : Ensures stage P) :
    Ensures (about name stage) P := by
  intro log state a log' after hrun
  replace hrun : (((stage log state).1.1.mapError (Failure.inDocument name), (stage log state).1.2),
      (stage log state).2) = ((.ok a, log'), after) := hrun
  rcases hstage : stage log state with ⟨⟨outcome, mid⟩, next⟩
  rw [hstage] at hrun
  cases outcome with
  | error failure => cases hrun
  | ok b =>
      cases hrun
      exact h hstage

theorem ensures_attempt {stage : Stage (StateM σ) α} (h : Ensures stage P) :
    Ensures (attempt stage) fun outcome => ∀ a, outcome = .ok a → P a := by
  intro log state outcome log' after hrun a ha
  replace hrun : ((Except.ok (stage log state).1.1, (stage log state).1.2), (stage log state).2) =
      ((.ok outcome, log'), after) := hrun
  rcases hstage : stage log state with ⟨⟨found, mid⟩, next⟩
  rw [hstage, ha] at hrun
  cases hrun
  exact h hstage

/-- The values of outcomes that are all successful are outcomes. -/
theorem mem_of_mapM_id {outcomes : List (Except Failure α)} {found : List α}
    (h : outcomes.mapM id = .ok found) : ∀ a ∈ found, .ok a ∈ outcomes := by
  induction outcomes generalizing found with
  | nil =>
      cases h
      exact List.forall_mem_nil _
  | cons outcome rest ih =>
      rw [List.mapM_cons] at h
      cases outcome with
      | error failure => cases h
      | ok a =>
          cases hrest : rest.mapM id with
          | error failure =>
              rw [hrest] at h
              cases h
          | ok others =>
              rw [hrest] at h
              cases h
              exact List.forall_mem_cons.mpr
                ⟨List.mem_cons_self, fun b hb => List.mem_cons_of_mem _ (ih hrest b hb)⟩

/-- Stages that each ensure a property ensure it one after the other. -/
theorem ensures_mapM {items : List α} {f : α → Stage (StateM σ) β} (h : ∀ a ∈ items, Ensures (f a) Q) :
    Ensures (items.mapM f) fun found => ∀ b ∈ found, Q b := by
  induction items with
  | nil => exact ensures_pure (List.forall_mem_nil _)
  | cons a rest ih =>
      obtain ⟨ha, hrest⟩ := List.forall_mem_cons.mp h
      rw [List.mapM_cons]
      refine ensures_bind ha fun b hb => ensures_bind (ih hrest) fun others hothers => ?_
      exact ensures_pure (List.forall_mem_cons.mpr ⟨hb, hothers⟩)

end Ensures

end VersionedApi.Stage
