import VersionedApi.Proofs.Modeling.Outcomes
import VersionedApi.Registry
import Mathlib.Data.List.Nodup

/-!
# Runs of registrations

A registration has two ways to succeed: it appends a definition under a new name, or it finds the same
definition under its name and changes nothing. A run of registrations therefore keeps every entry in its
place, and afterwards each of its definitions is found under its name, by itself or by a definition that
is the same.

A property of definitions holds of all that a step of modeling registers if it holds wherever the step
registers something. The rules below take a step apart in the order of the program, with what is known of
the results of its parts.

Main results:

- `register_cases` and `register_error`: all that a registration can do;
- `Absorbs`: runs of registrations that succeed, one definition after the other;
- `Absorbs.extends`, `Absorbs.nodup_names`, `Absorbs.holds`: what a run keeps and what it leaves behind;
- `Absorbs.mem_of_mem_definitions`: where definitions come from;
- `Modeling.Registers`: a step that registers definitions with a property only, and what its result is;
- `registers_bind`, `registers_bind_reading` and their companions: one rule for each way to compose
  steps;
- `registers_register` and `registers_registerDefinition`: the two ways to register a definition.
-/

namespace VersionedApi
namespace Registry

/-! ## Looking up definitions -/

/-- A definition is found under its name among the definitions. -/
theorem mem_definitions_of_get? {r : Registry} {name : String} {d : Definition}
    (h : r.get? name = some d) : d ∈ r.definitions ∧ d.name = name := by
  rcases Option.map_eq_some_iff.mp h with ⟨e, he, rfl⟩
  have hmem : e ∈ r.entries := List.mem_of_find?_eq_some he
  exact ⟨List.mem_map_of_mem hmem, name_of_entry? he⟩

/-- A name without an entry is not among the names. -/
theorem entry?_eq_none_iff {r : Registry} {name : String} :
    r.entry? name = none ↔ name ∉ r.names := by
  simp [names, entry?]

/-- The names are those of the definitions. -/
theorem names_eq_map_definitions (r : Registry) : r.names = r.definitions.map (·.name) := by
  simp [names, definitions]

/-! ## Extension -/

/-- A registry extends another one if it has its entries in front. -/
def Extends (r s : Registry) : Prop :=
  r.entries <+: s.entries

theorem Extends.refl (r : Registry) : r.Extends r :=
  List.prefix_rfl

theorem Extends.trans {r s t : Registry} (hrs : r.Extends s) (hst : s.Extends t) : r.Extends t :=
  List.IsPrefix.trans hrs hst

/-- An entry that was found is found ever after. -/
theorem Extends.entry? {r s : Registry} (h : r.Extends s) {name : String} {e : Registered}
    (he : r.entry? name = some e) : s.entry? name = some e := by
  rcases h with ⟨added, hadded⟩
  have hfound : r.entries.find? (fun e => e.definition.name == name) = some e := he
  unfold Registry.entry?
  rw [← hadded, List.find?_append, hfound]
  rfl

/-- A definition that was found is found ever after. -/
theorem Extends.get? {r s : Registry} (h : r.Extends s) {name : String} {d : Definition}
    (hd : r.get? name = some d) : s.get? name = some d := by
  rcases Option.map_eq_some_iff.mp hd with ⟨e, he, rfl⟩
  exact Option.map_eq_some_iff.mpr ⟨e, h.entry? he, rfl⟩

/-- The definitions of a registry stand in front of those of an extension. -/
theorem Extends.definitions {r s : Registry} (h : r.Extends s) : r.definitions <+: s.definitions :=
  List.IsPrefix.map _ h

/-! ## One registration -/

/-- A registration that succeeds appends a definition under a new name, or finds the same definition
and changes nothing. -/
theorem register_cases {r after : Registry} {d : Definition}
    {origin document pointer : Option String} {notes : List Diagnostic}
    (h : r.register d origin document pointer = .ok (after, notes)) :
    (d.name ∉ r.names ∧
        after = ⟨r.origin, r.entries ++ [⟨d, chosenOrigin origin r.origin⟩]⟩) ∨
      (after = r ∧ ∃ first, r.get? d.name = some first ∧ first.same d = true) := by
  unfold register at h
  split at h <;> rename_i hentry
  · cases h
    exact .inl ⟨entry?_eq_none_iff.mp hentry, rfl⟩
  · rename_i first
    split at h <;> rename_i hcompared
    · cases h
      refine .inr ⟨rfl, first.definition, ?_, ?_⟩
      · simp [get?, hentry]
      · simp [Definition.same, hcompared]
    · contradiction
    · contradiction

/-- A registration succeeds exactly when the name is new or holds the same definition. -/
theorem register_isOk_iff {r : Registry} {d : Definition}
    (origin document pointer : Option String) :
    (∃ result, r.register d origin document pointer = .ok result) ↔
      ∀ first, r.get? d.name = some first → first.same d = true := by
  unfold register get?
  cases hentry : r.entry? d.name with
  | none => simp
  | some first =>
      cases hcompared : first.definition.compared d with
      | none => simp [Definition.same, hcompared]
      | some same => cases same <;> simp [Definition.same, hcompared]

/-- A registration fails because its name holds another definition, or because the comparison with the
definition there does not end. -/
theorem register_error {r : Registry} {d : Definition} {origin document pointer : Option String}
    {failure : Failure} (h : r.register d origin document pointer = .error failure) :
    ∃ first, r.get? d.name = some first ∧
      ((first.compared d = some false ∧ ∃ origins, failure =
          .report ⟨.definitionConflict d.name origins, document, pointer, none⟩) ∨
        (first.compared d = none ∧ failure = .misuse .endlessComparison)) := by
  unfold register at h
  split at h <;> rename_i hentry
  · contradiction
  · rename_i first
    refine ⟨first.definition, by simp [get?, hentry], ?_⟩
    split at h <;> rename_i hcompared
    · contradiction
    · cases h
      exact .inl ⟨hcompared, _, Failure.located_of_hasWording rfl _ _⟩
    · cases h
      exact .inr ⟨hcompared, rfl⟩

/-- A registration that succeeds extends the registry. -/
theorem extends_of_register {r after : Registry} {d : Definition}
    {origin document pointer : Option String} {notes : List Diagnostic}
    (h : r.register d origin document pointer = .ok (after, notes)) : r.Extends after :=
  entries_prefix_of_register h

/-- A registration that succeeds keeps names distinct. -/
theorem nodup_names_of_register {r after : Registry} {d : Definition}
    {origin document pointer : Option String} {notes : List Diagnostic}
    (h : r.register d origin document pointer = .ok (after, notes)) (hnodup : r.names.Nodup) :
    after.names.Nodup := by
  rcases register_cases h with ⟨hnew, rfl⟩ | ⟨rfl, -⟩
  · simp only [names, List.map_append, List.map_cons, List.map_nil]
    exact List.nodup_append.mpr ⟨hnodup, List.nodup_singleton _, by
      intro a ha b hb hab
      rw [List.mem_singleton.mp hb] at hab
      exact hnew (hab ▸ ha)⟩
  · exact hnodup

/-- What a registry holds after a registration was there before or was registered. -/
theorem mem_definitions_of_register {r after : Registry} {d e : Definition}
    {origin document pointer : Option String} {notes : List Diagnostic}
    (h : r.register d origin document pointer = .ok (after, notes)) (he : e ∈ after.definitions) :
    e ∈ r.definitions ∨ e = d := by
  rcases register_cases h with ⟨-, rfl⟩ | ⟨rfl, -⟩
  · simpa [definitions] using he
  · exact .inl he

/-- After a registration, its name holds the definition itself or the same one. -/
theorem holds_of_register {r after : Registry} {d : Definition}
    {origin document pointer : Option String} {notes : List Diagnostic}
    (h : r.register d origin document pointer = .ok (after, notes)) :
    ∃ held, after.get? d.name = some held ∧ (held = d ∨ held.same d = true) := by
  rcases register_cases h with ⟨hnew, rfl⟩ | ⟨rfl, first, hfirst, hsame⟩
  · refine ⟨d, ?_, .inl rfl⟩
    have hnone : r.entries.find? (fun e => e.definition.name == d.name) = none :=
      entry?_eq_none_iff.mpr hnew
    simp [get?, entry?, List.find?_append, hnone]
  · exact ⟨first, hfirst, .inr hsame⟩

/-- A registration says nothing about other names. -/
theorem entry?_of_register_of_ne {r after : Registry} {d : Definition}
    {origin document pointer : Option String} {notes : List Diagnostic}
    (h : r.register d origin document pointer = .ok (after, notes)) {name : String}
    (hne : name ≠ d.name) : after.entry? name = r.entry? name := by
  rcases register_cases h with ⟨-, rfl⟩ | ⟨rfl, -⟩
  · have hother : (d.name == name) = false := beq_false_of_ne hne.symm
    simp [ entry?, List.find?_append, hother]
  · rfl

/-- A registry absorbs definitions, one after the other, if each of their registrations succeeds. -/
inductive Absorbs : Registry → List Definition → Registry → Prop
  | none (r : Registry) : Absorbs r [] r
  | one {r mid after : Registry} {d : Definition} {ds : List Definition}
      {origin document pointer : Option String} {notes : List Diagnostic}
      (first : r.register d origin document pointer = .ok (mid, notes))
      (rest : Absorbs mid ds after) : Absorbs r (d :: ds) after

/-- A run keeps all entries in their places. -/
theorem Absorbs.extends {r after : Registry} {ds : List Definition} (h : Absorbs r ds after) :
    r.Extends after := by
  induction h with
  | none r => exact .refl r
  | one first rest ih => exact (extends_of_register first).trans ih

/-- A run keeps names distinct. -/
theorem Absorbs.nodup_names {r after : Registry} {ds : List Definition} (h : Absorbs r ds after)
    (hnodup : r.names.Nodup) : after.names.Nodup := by
  induction h with
  | none => exact hnodup
  | one first rest ih => exact ih (nodup_names_of_register first hnodup)

/-- After a run, each of its definitions is found under its name, by itself or by the same one. -/
theorem Absorbs.holds {r after : Registry} {ds : List Definition} (h : Absorbs r ds after)
    {d : Definition} (hd : d ∈ ds) :
    ∃ held, after.get? d.name = some held ∧ (held = d ∨ held.same d = true) := by
  induction h with
  | none => cases hd
  | one first rest ih =>
      rcases List.mem_cons.mp hd with rfl | hd
      · rcases holds_of_register first with ⟨held, hheld, hsame⟩
        exact ⟨held, rest.extends.get? hheld, hsame⟩
      · exact ih hd

/-- What a registry holds after a run was there before or was absorbed. -/
theorem Absorbs.mem_of_mem_definitions {r after : Registry} {ds : List Definition}
    (h : r.Absorbs ds after) {d : Definition} (hd : d ∈ after.definitions) :
    d ∈ r.definitions ∨ d ∈ ds := by
  induction h with
  | none r => exact .inl hd
  | @one r mid after e ds origin document pointer notes first rest ih =>
      rcases ih hd with hmid | hrest
      · exact (mem_definitions_of_register first hmid).imp_right fun heq => List.mem_cons.mpr (.inl heq)
      · exact .inr (List.mem_cons_of_mem e hrest)

end Registry

/-! ## What steps register -/

namespace Modeling

variable {α β : Type} {setting : Setting} {good : Definition → Prop}

/-- A step that succeeds on a registry of good definitions only adds good ones, and its result has a
property. -/
def Registers (setting : Setting) (good : Definition → Prop) (step : Modeling α) (post : α → Prop) :
    Prop :=
  ∀ w a after, (∀ d ∈ w.registry.definitions, good d) → runStep setting w step = (.ok a, after) →
    (∀ d ∈ after.registry.definitions, good d) ∧ post a

/-! ## Composed steps -/

theorem registers_pure {post : α → Prop} {a : α} (h : post a) :
    Registers setting good (pure a) post := by
  intro w b after hw hrun
  rcases pure_eq_ok.mp hrun with ⟨rfl, rfl⟩
  exact ⟨hw, h⟩

theorem registers_bind {x : Modeling α} {f : α → Modeling β} {mid : α → Prop} {post : β → Prop}
    (hx : Registers setting good x mid) (hf : ∀ a, mid a → Registers setting good (f a) post) :
    Registers setting good (x >>= f) post := by
  intro w b after hw hrun
  rcases bind_eq_ok.mp hrun with ⟨a, w₁, hfirst, hsecond⟩
  rcases hx w a w₁ hw hfirst with ⟨hw₁, hmid⟩
  exact hf a hmid w₁ b after hw₁ hsecond

/-- A step may be known to do less. -/
theorem Registers.imp {x : Modeling α} {post post' : α → Prop} (h : Registers setting good x post)
    (himp : ∀ a, post a → post' a) : Registers setting good x post' := by
  intro w a after hw hrun
  rcases h w a after hw hrun with ⟨hafter, hpost⟩
  exact ⟨hafter, himp a hpost⟩

/-- A sequence that starts with a step that only notes; its result is one that the step can have. -/
theorem registers_bind_reading {x : Modeling α} {f : α → Modeling β} {post : β → Prop}
    (hx : OnlyNotes x)
    (hf : ∀ a w mid, runStep setting w x = (.ok a, mid) → Registers setting good (f a) post) :
    Registers setting good (x >>= f) post := by
  intro w b after hw hrun
  rcases bind_eq_ok.mp hrun with ⟨a, mid, hfirst, hsecond⟩
  have hmid : mid.registry = w.registry := by rw [hx.eq_of_ok hfirst]
  exact hf a w mid hfirst mid b after (hmid ▸ hw) hsecond

/-- A sequence that starts with a known outcome. -/
theorem registers_bind_lift {outcome : Except Failure α} {f : α → Modeling β} {post : β → Prop}
    (hf : ∀ a, outcome = .ok a → Registers setting good (f a) post) :
    Registers setting good (lift outcome >>= f) post :=
  registers_bind_reading (onlyNotes_lift _) fun a _ _ hrun => hf a (lift_eq_ok.mp hrun).1

theorem registers_ite {condition : Prop} [Decidable condition] {x y : Modeling α} {post : α → Prop}
    (hx : condition → Registers setting good x post)
    (hy : ¬condition → Registers setting good y post) :
    Registers setting good (if condition then x else y) post := by
  split
  next h => exact hx h
  next h => exact hy h

/-- Where both parts of a choice go on in the same way, it is enough to look at that once, for all
results that the parts may lead to. -/
theorem registers_join {condition : Prop} [Decidable condition] {a : α} {f : α → Modeling β}
    {y : Modeling β} {post : β → Prop} (hf : ∀ a, Registers setting good (f a) post)
    (hy : (∀ a, Registers setting good (f a) post) → Registers setting good y post) :
    Registers setting good (if condition then pure a >>= f else y) post :=
  registers_ite (fun _ => registers_bind_reading (onlyNotes_pure a) fun a _ _ _ => hf a) fun _ => hy hf

/-- Two readings that go on in the same way. -/
theorem registers_join_reading {condition : Prop} [Decidable condition] {x y : Modeling α}
    {f : α → Modeling β} {post : β → Prop} (hx : OnlyNotes x) (hy : OnlyNotes y)
    (hf : ∀ a, Registers setting good (f a) post) :
    Registers setting good (if condition then x >>= f else y >>= f) post :=
  registers_ite (fun _ => registers_bind_reading hx fun a _ _ _ => hf a) fun _ =>
    registers_bind_reading hy fun a _ _ _ => hf a

/-- A reported problem registers nothing. -/
theorem registers_report {post : α → Prop} (problem : Problem) (pointer : String) :
    Registers setting good (report problem pointer) post :=
  fun _ _ _ _ hrun => absurd hrun report_ne_ok

/-- A step that is known to fail registers nothing. -/
theorem registers_lift_error {post : α → Prop} (failure : Failure) :
    Registers setting good (lift (.error failure)) post := by
  intro w a after _ hrun
  cases (lift_eq_ok.mp hrun).1

/-- Inside a visit the same is registered. -/
theorem registers_visiting {post : α → Prop} {pointer : String} {body : Modeling α}
    (h : Registers setting good body post) : Registers setting good (visiting pointer body) post := by
  intro w a after hw hrun
  rcases visiting_eq_ok.mp hrun with ⟨visits, mid, -, hbody, rfl⟩
  exact h { w with visits := visits } a mid hw hbody

/-- Beside reserved names the same is registered. -/
theorem registers_reserving {post : α → Prop} {names : List (String × String)} {body : Modeling α}
    (h : Registers setting good body post) : Registers setting good (reserving names body) post := by
  intro w a after hw hrun
  rcases reserving_eq_ok.mp hrun with ⟨mid, hbody, rfl⟩
  exact h { w with taken := names ++ w.taken } a mid hw hbody

/-- Keeping the type of a component registers nothing. -/
theorem registers_cache (pointer : String) (type : TypeRef) :
    Registers setting good (cache pointer type) fun _ => True := by
  intro w a after hw hrun
  rw [cache_eq_ok.mp hrun]
  exact ⟨hw, trivial⟩

/-! ## Definitions -/

/-- A good definition may be registered. -/
theorem registers_registerDefinition {d : Definition} {pointer : String} (hd : good d) :
    Registers setting good (registerDefinition d pointer) fun _ => True := by
  intro w a after hw hrun
  rcases registerDefinition_eq_ok.mp hrun with ⟨registry, notes, hregister, rfl⟩
  refine ⟨fun e he => ?_, trivial⟩
  rcases Registry.mem_definitions_of_register hregister he with he | rfl
  · exact hw e he
  · exact hd

/-- A content may be registered under a name that makes it a good definition. -/
theorem registers_register {content : Content} {name pointer : String} (hd : good ⟨name, content⟩) :
    Registers setting good (register content name pointer) fun _ => True := by
  intro w a after hw hrun
  exact registers_registerDefinition hd w a after hw (register_eq_ok.mp hrun).2

end Modeling
end VersionedApi
