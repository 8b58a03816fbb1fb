import VersionedApi.Schema.Step

/-!
# Outcomes of modeling steps

How the outcome of a composed step comes from those of its parts. A step that succeeds is taken apart
with the lemmas below, one part after the other, in the order of the program. Most parts only look
at the document and note diagnostics; they leave everything else of the workspace as it was.

Routes are in conflict only where the walk over the routes says so. The steps below it report references,
schemas, names and definitions that are at fault, or fail without a report.

Main results:

- `bind_eq_ok` and its companions: when a composed or a primitive step succeeds, and where it ends;
- `OnlyNotes`: steps that change nothing but the diagnostics, with one rule for each way to compose them;
- `SparesRoutes`: steps that report no conflict of routes;
- `Reading`: steps that only note and report no conflict of routes, with the same rules.
-/

namespace VersionedApi
namespace Modeling

variable {α β : Type} {setting : Setting} {w after : Workspace}

/-! ## Steps that succeed -/

/-- A sequence runs its second part where the first one ended, if that succeeded. -/
theorem runStep_bind (x : Modeling α) (f : α → Modeling β) (setting : Setting) (w : Workspace) :
    runStep setting w (x >>= f) =
      match runStep setting w x with
      | (.ok a, mid) => runStep setting mid (f a)
      | (.error failure, mid) => (.error failure, mid) := by
  change (ExceptT.bind (x setting) fun a => f a setting) w = _
  simp only [ExceptT.bind, ExceptT.mk, bind, StateT.bind, runStep]
  rcases x setting w with ⟨outcome, mid⟩
  cases outcome <;> rfl

/-- A sequence goes on where its first part succeeds. -/
theorem runStep_bind_of_ok {x : Modeling α} {f : α → Modeling β} {a : α} {mid : Workspace}
    (h : runStep setting w x = (.ok a, mid)) :
    runStep setting w (x >>= f) = runStep setting mid (f a) := by
  rw [runStep_bind, h]

/-- A sequence ends where its first part fails. -/
theorem runStep_bind_of_error {x : Modeling α} {f : α → Modeling β} {failure : Failure}
    {mid : Workspace} (h : runStep setting w x = (.error failure, mid)) :
    runStep setting w (x >>= f) = (.error failure, mid) := by
  rw [runStep_bind, h]

/-- A sequence succeeds if both parts do, one after the other. -/
theorem bind_eq_ok {x : Modeling α} {f : α → Modeling β} {b : β} :
    runStep setting w (x >>= f) = (.ok b, after) ↔
      ∃ a mid, runStep setting w x = (.ok a, mid) ∧ runStep setting mid (f a) = (.ok b, after) := by
  rw [runStep_bind]
  rcases runStep setting w x with ⟨outcome, mid⟩
  cases outcome <;> simp [and_assoc]

/-- A sequence fails if its first part does, or its second one where the first one ends. -/
theorem bind_eq_error {x : Modeling α} {f : α → Modeling β} {failure : Failure} :
    runStep setting w (x >>= f) = (.error failure, after) ↔
      runStep setting w x = (.error failure, after) ∨
        ∃ a mid, runStep setting w x = (.ok a, mid) ∧ runStep setting mid (f a) = (.error failure, after) := by
  rw [runStep_bind]
  rcases runStep setting w x with ⟨outcome, mid⟩
  cases outcome <;> simp [and_assoc]

/-- A step whose outcome has a value succeeds with it. -/
theorem exists_run_of_toOption {x : Modeling α} {a : α} (h : (runStep setting w x).1.toOption = some a) :
    ∃ after, runStep setting w x = (.ok a, after) :=
  ⟨_, Prod.ext (eq_ok_of_toOption h) rfl⟩

/-- A finished step ends where it started. -/
theorem pure_eq_ok {a b : α} :
    runStep setting w (pure a) = (.ok b, after) ↔ a = b ∧ w = after := by
  change ((Except.ok a, w) : Except Failure α × Workspace) = (.ok b, after) ↔ _
  simp

/-- A step with a known outcome succeeds if that outcome is a success. -/
theorem lift_eq_ok {outcome : Except Failure α} {a : α} :
    runStep setting w (lift outcome) = (.ok a, after) ↔ outcome = .ok a ∧ w = after := by
  simp [runStep, lift]

/-- A reported problem is no success. -/
theorem report_ne_ok {problem : Problem} {pointer : String} {a : α} :
    runStep setting w (report problem pointer) ≠ (.ok a, after) := by
  simp [runStep, report]

/-- A visit succeeds if the place is not being visited and the step inside it succeeds. -/
theorem visiting_eq_ok {pointer : String} {body : Modeling α} {a : α} :
    runStep setting w (visiting pointer body) = (.ok a, after) ↔
      ∃ visits mid, setting.document.enter w.visits pointer = .ok visits ∧
        runStep setting { w with visits := visits } body = (.ok a, mid) ∧
        after = { mid with visits := w.visits } := by
  simp only [runStep, visiting]
  cases setting.document.enter w.visits pointer with
  | error failure => simp
  | ok visits =>
      rcases hbody : body setting { w with visits := visits } with ⟨outcome, mid⟩
      cases outcome <;> simp [hbody, and_assoc, eq_comm]

/-- A step beside reserved names succeeds if it does so while they are taken. -/
theorem reserving_eq_ok {names : List (String × String)} {body : Modeling α} {a : α} :
    runStep setting w (reserving names body) = (.ok a, after) ↔
      ∃ mid, runStep setting { w with taken := names ++ w.taken } body = (.ok a, mid) ∧
        after = { mid with taken := w.taken } := by
  simp only [runStep, reserving]
  rcases hbody : body setting { w with taken := names ++ w.taken } with ⟨outcome, mid⟩
  cases outcome <;> simp [and_assoc, eq_comm]

/-- A definition is registered if the registry takes it. -/
theorem registerDefinition_eq_ok {d : Definition} {pointer : String} :
    runStep setting w (registerDefinition d pointer) = (.ok (), after) ↔
      ∃ registry notes,
        w.registry.register d none setting.document.name (some pointer) = .ok (registry, notes) ∧
        after = { w with registry := registry, log := w.log ++ notes } := by
  simp only [runStep, registerDefinition]
  rcases w.registry.register d none setting.document.name (some pointer) with failure | ⟨registry, notes⟩
  · simp
  · simp [and_assoc, eq_comm]

/-- A content is registered if its name is free and the registry takes the definition. -/
theorem register_eq_ok {content : Content} {name pointer : String} :
    runStep setting w (register content name pointer) = (.ok (), after) ↔
      w.taken.lookup name = none ∧
        runStep setting w (registerDefinition ⟨name, content⟩ pointer) = (.ok (), after) := by
  simp only [runStep, register]
  cases w.taken.lookup name <;> simp

/-- The type of a component that was modeled before is looked up in the workspace. -/
theorem cached?_eq_ok {pointer : String} {found : Option TypeRef} :
    runStep setting w (cached? pointer) = (.ok found, after) ↔
      w.components.lookup pointer = found ∧ w = after := by
  simp [runStep, cached?]

/-- Keeping the type of a component adds it to those of the workspace. -/
theorem cache_eq_ok {pointer : String} {type : TypeRef} :
    runStep setting w (cache pointer type) = (.ok (), after) ↔
      after = { w with components := (pointer, type) :: w.components } := by
  simp [runStep, cache, eq_comm]

/-- The resolution of a reference is known. -/
theorem resolve_eq_ok {node : Value} {pointer : String} {resolved : Resolved} :
    runStep setting w (resolve node pointer) = (.ok resolved, after) ↔
      setting.document.resolve w.visits node pointer = .ok resolved ∧ w = after := by
  simp [runStep, resolve]

/-- The identifier of a property is known. -/
theorem propertyIdentifier_eq_ok {name identifier : String} :
    runStep setting w (propertyIdentifier name) = (.ok identifier, after) ↔
      Identifier.escapeReserved setting.reserved (Identifier.snake name) = identifier ∧ w = after := by
  simp [runStep, propertyIdentifier]

/-- The identifier of a variant is known. -/
theorem variantIdentifier_eq_ok {label identifier : String} :
    runStep setting w (variantIdentifier label) = (.ok identifier, after) ↔
      Identifier.escapeReserved setting.reserved (Identifier.camel label) = identifier ∧ w = after := by
  simp [runStep, variantIdentifier]

/-- A new scope is known. -/
theorem newScope_eq_ok {owner : String} {scope : Scope} :
    runStep setting w (newScope owner) = (.ok scope, after) ↔
      Scope.new owner setting.document.name = scope ∧ w = after := by
  simp [runStep, newScope]

/-! ## Steps that only note -/

/-- A step that leaves everything but the diagnostics alone, however it ends. -/
def OnlyNotes (step : Modeling α) : Prop :=
  ∀ setting w, (runStep setting w step).2 = { w with log := (runStep setting w step).2.log }

/-- Where such a step succeeds, it ends in the same workspace up to the diagnostics. -/
theorem OnlyNotes.eq_of_ok {step : Modeling α} (h : OnlyNotes step) {a : α}
    (hrun : runStep setting w step = (.ok a, after)) : after = { w with log := after.log } := by
  have hstep := h setting w
  rw [hrun] at hstep
  exact hstep

theorem onlyNotes_bind {x : Modeling α} {f : α → Modeling β} (hx : OnlyNotes x)
    (hf : ∀ a, OnlyNotes (f a)) : OnlyNotes (x >>= f) := by
  intro setting w
  rw [runStep_bind]
  have hfirst := hx setting w
  rcases hrun : runStep setting w x with ⟨outcome, mid⟩
  rw [hrun] at hfirst
  cases outcome with
  | error failure => exact hfirst
  | ok a =>
      have hmid : mid = { w with log := mid.log } := hfirst
      have hsecond := hf a setting mid
      rw [hmid] at hsecond ⊢
      exact hsecond

theorem onlyNotes_pure (a : α) : OnlyNotes (pure a : Modeling α) :=
  fun _ _ => rfl

theorem onlyNotes_lift (outcome : Except Failure α) : OnlyNotes (lift outcome) :=
  fun _ _ => rfl

theorem onlyNotes_liftMisuse (outcome : Except Misuse α) : OnlyNotes (liftMisuse outcome) :=
  fun _ _ => rfl

theorem onlyNotes_report (problem : Problem) (pointer : String) :
    OnlyNotes (report problem pointer : Modeling α) :=
  fun _ _ => rfl

theorem onlyNotes_read : OnlyNotes (read : Modeling Setting) :=
  fun _ _ => rfl

theorem onlyNotes_note (d : Diagnostic) : OnlyNotes (note d) :=
  fun _ _ => rfl

theorem onlyNotes_sourceName : OnlyNotes sourceName :=
  fun _ _ => rfl

theorem onlyNotes_resolve (node : Value) (pointer : String) : OnlyNotes (resolve node pointer) :=
  fun _ _ => rfl

theorem onlyNotes_newScope (owner : String) : OnlyNotes (newScope owner) :=
  fun _ _ => rfl

theorem onlyNotes_propertyIdentifier (name : String) : OnlyNotes (propertyIdentifier name) :=
  fun _ _ => rfl

theorem onlyNotes_variantIdentifier (label : String) : OnlyNotes (variantIdentifier label) :=
  fun _ _ => rfl

theorem onlyNotes_cached? (pointer : String) : OnlyNotes (cached? pointer) :=
  fun _ _ => rfl

theorem onlyNotes_definition? (name : String) : OnlyNotes (definition? name) :=
  fun _ _ => rfl

end Modeling

/-! ## Refusals -/

/-- A failure that reports a conflict of routes. -/
def Failure.IsRouteConflict : Failure → Prop
  | .report r => r.problem.category = .routeConflict
  | _ => False

namespace Failure

/-- Where a problem is reported does not matter. -/
theorem category_of_located {p : Problem} {document pointer : Option String}
    (h : (located p document pointer).IsRouteConflict) : p.category = .routeConflict := by
  unfold located at h
  split at h
  · exact h
  · cases h

theorem not_isRouteConflict_of_mapError {α : Type} {outcome : Except Misuse α} {failure : Failure}
    (h : outcome.mapError Failure.misuse = .error failure) : ¬failure.IsRouteConflict := by
  cases outcome with
  | ok a => cases h
  | error m =>
      cases h
      exact id

/-- Faulty fields are no conflict of routes. -/
theorem not_isRouteConflict_of_toExcept {α : Type} {model : String} {checked : Checked α} {failure : Failure}
    (h : checked.toExcept model = .error failure) : ¬failure.IsRouteConflict := by
  cases checked with
  | valid a => cases h
  | faulty errors =>
      cases h
      exact id

end Failure

/-- Neither is a label that claims the identifier of another one. -/
theorem Scope.not_isRouteConflict_of_claim {s : Scope} {identifier : String} {label : Label}
    {pointer : Option String} {failure : Failure} (h : s.claim identifier label pointer = .error failure) :
    ¬failure.IsRouteConflict := by
  unfold claim at h
  split at h
  · split at h <;> cases h
    · exact fun hconflict => nomatch Failure.category_of_located hconflict
    · exact id
  · cases h

/-- Neither is a definition that is not that of its name. -/
theorem Registry.not_isRouteConflict_of_register {r : Registry} {d : Definition}
    {origin document pointer : Option String} {failure : Failure}
    (h : r.register d origin document pointer = .error failure) : ¬failure.IsRouteConflict := by
  unfold register at h
  dsimp only at h
  split at h
  · cases h
  · split at h <;> cases h
    · exact fun hconflict => nomatch Failure.category_of_located hconflict
    · exact id

namespace Document

variable {d : Document} {failure : Failure}

theorem not_isRouteConflict_of_walk {document place : Option String} {ref : String} {node : Value}
    {segments : List String} (h : walk document place ref node segments = .error failure) :
    ¬failure.IsRouteConflict := by
  induction segments generalizing node with
  | nil => cases h
  | cons segment rest ih =>
      unfold walk at h
      split at h
      · cases h
        exact id
      · exact ih h
      · cases h
        exact fun hconflict => nomatch Failure.category_of_located hconflict

theorem not_isRouteConflict_of_lookup {ref : Value} {place : Option String}
    (h : d.lookup ref place = .error failure) : ¬failure.IsRouteConflict := by
  unfold lookup at h
  split at h
  · split at h
    · exact not_isRouteConflict_of_walk h
    · cases h
      exact fun hconflict => nomatch Failure.category_of_located hconflict
  · cases h
    exact fun hconflict => nomatch Failure.category_of_located hconflict

theorem not_isRouteConflict_of_follow {visits : Visits} {fuel : Nat} {chain : List String} {here : Resolved}
    (h : d.follow visits fuel chain here = .error failure) : ¬failure.IsRouteConflict := by
  induction fuel generalizing chain here with
  | zero =>
      cases h
      exact id
  | succ fuel ih =>
      unfold follow at h
      split at h
      · cases h
      · split at h
        · split at h
          · cases h
            exact fun hconflict => nomatch Failure.category_of_located hconflict
          · cases hnode : d.lookup _ (some here.pointer) with
            | error refused =>
                rw [hnode] at h
                cases h
                exact not_isRouteConflict_of_lookup hnode
            | ok node =>
                rw [hnode] at h
                exact ih h
        · split at h <;> cases h
          · exact id
          · exact fun hconflict => nomatch Failure.category_of_located hconflict

/-- References that are not followed are no conflict of routes. -/
theorem not_isRouteConflict_of_resolve {visits : Visits} {node : Value} {pointer : String}
    (h : d.resolve visits node pointer = .error failure) : ¬failure.IsRouteConflict := by
  unfold resolve at h
  split at h <;> exact not_isRouteConflict_of_follow h

/-- Neither is a place that is being visited. -/
theorem not_isRouteConflict_of_enter {visits : Visits} {pointer : String}
    (h : d.enter visits pointer = .error failure) : ¬failure.IsRouteConflict := by
  unfold enter at h
  split at h <;> cases h
  exact fun hconflict => nomatch Failure.category_of_located hconflict

end Document

namespace Modeling

variable {α β : Type}

/-! ## Steps without a conflict of routes -/

/-- A step that reports no conflict of routes. -/
def SparesRoutes (step : Modeling α) : Prop :=
  ∀ setting w failure, (runStep setting w step).1 = .error failure → ¬failure.IsRouteConflict

theorem sparesRoutes_bind {x : Modeling α} {f : α → Modeling β} (hx : SparesRoutes x)
    (hf : ∀ a, SparesRoutes (f a)) : SparesRoutes (x >>= f) := by
  intro setting w failure hrun
  rw [runStep_bind] at hrun
  split at hrun
  next a mid hfirst => exact hf a setting mid failure hrun
  next mid hfirst =>
    cases hrun
    exact hx setting w _ (congrArg Prod.fst hfirst)

theorem sparesRoutes_pure (a : α) : SparesRoutes (pure a : Modeling α) :=
  fun _ _ _ hrun => nomatch hrun

theorem sparesRoutes_lift {outcome : Except Failure α}
    (h : ∀ failure, outcome = .error failure → ¬failure.IsRouteConflict) : SparesRoutes (lift outcome) :=
  fun _ _ failure hrun => h failure hrun

theorem sparesRoutes_report {problem : Problem} (h : problem.category ≠ .routeConflict) (pointer : String) :
    SparesRoutes (report problem pointer : Modeling α) := by
  intro setting w failure hrun
  cases hrun
  exact fun hconflict => h (Failure.category_of_located hconflict)

theorem sparesRoutes_visiting {body : Modeling α} (pointer : String) (h : SparesRoutes body) :
    SparesRoutes (visiting pointer body) := by
  intro setting w failure hrun
  simp only [runStep, visiting] at hrun
  cases hvisits : setting.document.enter w.visits pointer with
  | error refused =>
      rw [hvisits] at hrun
      cases hrun
      exact Document.not_isRouteConflict_of_enter hvisits
  | ok visits =>
      rw [hvisits] at hrun
      exact h setting { w with visits := visits } failure hrun

theorem sparesRoutes_reserving {body : Modeling α} (names : List (String × String)) (h : SparesRoutes body) :
    SparesRoutes (reserving names body) :=
  fun setting w failure hrun => h setting { w with taken := names ++ w.taken } failure hrun

theorem sparesRoutes_registerDefinition (d : Definition) (pointer : String) :
    SparesRoutes (registerDefinition d pointer) := by
  intro setting w failure hrun
  simp only [runStep, registerDefinition] at hrun
  cases hregister : w.registry.register d none setting.document.name (some pointer) with
  | error refused =>
      rw [hregister] at hrun
      cases hrun
      exact Registry.not_isRouteConflict_of_register hregister
  | ok result =>
      rw [hregister] at hrun
      cases hrun

theorem sparesRoutes_register (content : Content) (name pointer : String) :
    SparesRoutes (register content name pointer) := by
  intro setting w failure hrun
  simp only [runStep, register] at hrun
  split at hrun
  · cases hrun
    exact fun hconflict => nomatch Failure.category_of_located hconflict
  · exact sparesRoutes_registerDefinition _ _ setting w failure hrun

/-! ## Steps that only read -/

/-- A step that only reads: it leaves everything but the diagnostics alone, however it ends, and reports no
conflict of routes. -/
structure Reading (step : Modeling α) : Prop where
  onlyNotes : OnlyNotes step
  spares : SparesRoutes step

theorem reading_bind {x : Modeling α} {f : α → Modeling β} (hx : Reading x) (hf : ∀ a, Reading (f a)) :
    Reading (x >>= f) :=
  ⟨onlyNotes_bind hx.onlyNotes fun a => (hf a).onlyNotes, sparesRoutes_bind hx.spares fun a => (hf a).spares⟩

theorem reading_ite {condition : Prop} [Decidable condition] {x y : Modeling α} (hx : Reading x)
    (hy : Reading y) : Reading (if condition then x else y) := by
  split
  · exact hx
  · exact hy

theorem reading_pure (a : α) : Reading (pure a : Modeling α) :=
  ⟨onlyNotes_pure a, sparesRoutes_pure a⟩

theorem reading_report {problem : Problem} (h : problem.category ≠ .routeConflict) (pointer : String) :
    Reading (report problem pointer : Modeling α) :=
  ⟨onlyNotes_report _ _, sparesRoutes_report h pointer⟩

theorem reading_misuse (m : Misuse) : Reading (lift (.error (.misuse m)) : Modeling α) :=
  ⟨onlyNotes_lift _, sparesRoutes_lift fun _ h => by
    cases h
    exact id⟩

theorem reading_liftMisuse (outcome : Except Misuse α) : Reading (liftMisuse outcome) :=
  ⟨onlyNotes_liftMisuse _, sparesRoutes_lift fun _ => Failure.not_isRouteConflict_of_mapError⟩

theorem reading_claim (scope : Scope) (identifier : String) (label : Label) (pointer : Option String) :
    Reading (lift (scope.claim identifier label pointer)) :=
  ⟨onlyNotes_lift _, sparesRoutes_lift fun _ => Scope.not_isRouteConflict_of_claim⟩

theorem reading_textField (model name : String) (v : Value) : Reading (lift (Value.textField model name v)) :=
  ⟨onlyNotes_lift _, sparesRoutes_lift fun _ => Failure.not_isRouteConflict_of_toExcept⟩

theorem reading_textFields (model : String) (fields : List (String × Value)) :
    Reading (lift (Value.textFields model fields)) :=
  ⟨onlyNotes_lift _, sparesRoutes_lift fun _ => Failure.not_isRouteConflict_of_toExcept⟩

theorem reading_lookup (d : Document) (ref : Value) (place : Option String) :
    Reading (lift (d.lookup ref place)) :=
  ⟨onlyNotes_lift _, sparesRoutes_lift fun _ => Document.not_isRouteConflict_of_lookup⟩

theorem reading_resolve (node : Value) (pointer : String) : Reading (resolve node pointer) :=
  ⟨onlyNotes_resolve _ _, fun _ _ _ => Document.not_isRouteConflict_of_resolve⟩

theorem reading_read : Reading (read : Modeling Setting) :=
  ⟨onlyNotes_read, fun _ _ _ hrun => nomatch hrun⟩

theorem reading_note (d : Diagnostic) : Reading (note d) :=
  ⟨onlyNotes_note d, fun _ _ _ hrun => nomatch hrun⟩

theorem reading_sourceName : Reading sourceName :=
  ⟨onlyNotes_sourceName, fun _ _ _ hrun => nomatch hrun⟩

theorem reading_newScope (owner : String) : Reading (newScope owner) :=
  ⟨onlyNotes_newScope owner, fun _ _ _ hrun => nomatch hrun⟩

theorem reading_propertyIdentifier (name : String) : Reading (propertyIdentifier name) :=
  ⟨onlyNotes_propertyIdentifier name, fun _ _ _ hrun => nomatch hrun⟩

theorem reading_variantIdentifier (label : String) : Reading (variantIdentifier label) :=
  ⟨onlyNotes_variantIdentifier label, fun _ _ _ hrun => nomatch hrun⟩

theorem reading_cached? (pointer : String) : Reading (cached? pointer) :=
  ⟨onlyNotes_cached? pointer, fun _ _ _ hrun => nomatch hrun⟩

theorem reading_definition? (name : String) : Reading (definition? name) :=
  ⟨onlyNotes_definition? name, fun _ _ _ hrun => nomatch hrun⟩

end Modeling
end VersionedApi
