import VersionedApi.Proofs.Definitions.Comparison
import VersionedApi.Proofs.Registering
import VersionedApi.Proofs.Sources.Versions
import VersionedApi.Proofs.Yaml.Unfolding
import Mathlib.Data.List.Pairwise

/-!
# Arrangements of calls

A registry is filled by calls, each with a definition, and a call may fail. A failing call leaves the
registry as it is, so a run with failures leads where the calls of it that succeed lead alone. A call that
succeeds appends its definition if the name is new, and changes nothing otherwise. So the entries of a
registry are the first successful calls of each name, in their order.

Calls on an empty registry all succeed exactly if any two of their definitions with one name are the same.
That does not depend on the order of the calls, so calls that succeed in one order do so in every other. Both
registries then hold definitions under the same names, and what the one holds under a name is what the other
one holds there, or the same.

Main definitions: `Definition.Agree`, lists of definitions of which those with one name are the same;
`Registry.Call` and `Registry.perform`; `Registry.performAll`, a run with failures in between, and
`Registry.succeeding`, the calls of it that succeed; `Registry.registerAll`, a run that ends at the first
failure.

Main results:

- `Registry.perform_of_new`, `Registry.perform_of_same` and `Registry.perform_of_other`: all that a call can do;
- `Registry.registerDefinition_performs`: steps of modeling perform such calls;
- `Registry.registerAll_succeeding`: failing calls may be left out;
- `Registry.entries_of_registerAll` and `Registry.entry?_of_registerAll`: the entries after calls that all
  succeed;
- `Definition.coherent_of_isRead` and `Definition.coherent_of_builds`: definitions of documents;
- `Registry.exists_registerAll_iff`: when calls all succeed;
- `Registry.tables_of_arrangements`: orders of calls, and runs with failures in between.
-/

namespace VersionedApi

/-! ## Definitions that agree -/

namespace Definition

variable {d e : Definition} {ds es : List Definition}

/-- Definitions with values that stand in documents are coherent. -/
theorem coherent_of_isRead {contents : Nat → ContentFormat × String}
    (h : ∀ d ∈ ds, d.content.Holds (Value.IsRead contents)) : Coherent ds := by
  have hvalues : ∀ d ∈ ds, ∀ v ∈ d.values, v.IsRead contents := fun d hd => Content.holds_iff.mp (h d hd)
  exact ⟨fun d hd v hv => (hvalues d hd v hv).hasDistinctKeys,
    fun d hd e he v hv w hw => (hvalues d hd v hv).coherent (hvalues e he w hw)⟩

/-- The definitions of versions are coherent if no collection of their documents holds itself. -/
theorem coherent_of_builds {contents : Nat → ContentFormat × String} {vs : List Version}
    (h : ∀ v ∈ vs, ∃ root number source specFile reserved, root.IsRead contents ∧ root.Unmarked ∧
      (Version.build root number source specFile reserved).1 = .ok v) :
    Coherent (vs.flatMap (·.definitions)) := by
  refine coherent_of_unmarked fun d hd => ?_
  obtain ⟨v, hv, hd⟩ := List.mem_flatMap.mp hd
  obtain ⟨root, number, source, specFile, reserved, hread, hunmarked, hbuild⟩ := h v hv
  exact (Version.sourced_of_build Value.family_unmarked ⟨hread.hasDistinctKeys, hunmarked⟩ hbuild d hd).holds

/-- Two definitions are found to be the same, whichever is compared with the other, if they have one name. -/
def AgreesWith (d e : Definition) : Prop :=
  d.name = e.name → d.same e = true ∧ e.same d = true

theorem AgreesWith.symm (h : d.AgreesWith e) : e.AgreesWith d :=
  fun hname => (h hname.symm).symm

instance : Std.Symm AgreesWith :=
  ⟨fun _ _ h => h.symm⟩

/-- Definitions of which each agrees with each other. -/
def Agree (ds : List Definition) : Prop :=
  ds.Pairwise AgreesWith

/-- Definitions agree in every order. -/
theorem agree_iff_of_perm (h : es.Perm ds) : Agree es ↔ Agree ds :=
  h.pairwise_iff AgreesWith.symm

/-- Definitions of a list that agrees are one definition or the same, if they have one name. -/
theorem Agree.eq_or_same (h : Agree ds) (hd : d ∈ ds) (he : e ∈ ds) (hname : d.name = e.name) :
    d = e ∨ d.same e = true := by
  rcases eq_or_ne d e with heq | hne
  · exact .inl heq
  · exact .inr (h.forall hd he hne hname).1

/-- Definitions agree with one more that is the same as one of them. -/
theorem Agree.cons_of_same (h : Agree ds) (hcoherent : Coherent (d :: ds)) (he : e ∈ ds)
    (hsame : e.same d = true) : Agree (d :: ds) := by
  refine List.pairwise_cons.mpr ⟨fun f hf hname => ?_, h⟩
  have he' : e ∈ d :: ds := List.mem_cons_of_mem d he
  have hf' : f ∈ d :: ds := List.mem_cons_of_mem d hf
  have hde := hcoherent.same_symm he' hsame
  have hdf : d.same f = true := by
    rcases h.eq_or_same he hf ((same_iff.mp hsame).1.trans hname) with rfl | hef
    · exact hde
    · exact hcoherent.same_trans List.mem_cons_self he' hf' hde hef
  exact ⟨hdf, hcoherent.same_symm List.mem_cons_self hdf⟩

end Definition

namespace Registry

/-! ## Calls -/

/-- A call that registers a definition, with what it is given beside it. -/
structure Call where
  definition : Definition
  origin : Option String
  document : Option String
  pointer : Option String

/-- What a call returns, the name of the definition or a failure, and the registry that it leaves behind. -/
def perform (r : Registry) (c : Call) : Except Failure String × Registry :=
  match r.register c.definition c.origin c.document c.pointer with
  | .ok (after, _) => (.ok c.definition.name, after)
  | .error failure => (.error failure, r)

/-- The registry after calls, one after the other, however many of them fail. -/
def performAll (r : Registry) (calls : List Call) : Registry :=
  calls.foldl (fun r c => (r.perform c).2) r

/-- The calls of a run that succeed, in order. -/
def succeeding (r : Registry) : List Call → List Call
  | [] => []
  | c :: rest =>
      match r.perform c with
      | (.ok _, after) => c :: after.succeeding rest
      | (.error _, after) => after.succeeding rest

/-- Performs calls one after the other, and ends with the first failure. -/
def registerAll (r : Registry) : List Call → Except Failure Registry
  | [] => .ok r
  | c :: rest =>
      match r.perform c with
      | (.ok _, after) => after.registerAll rest
      | (.error failure, _) => .error failure

namespace Call

/-- The entry that a call makes in a registry with an origin, if its name is new. -/
def entry (own : Option String) (c : Call) : Registered :=
  ⟨c.definition, chosenOrigin c.origin own⟩

/-- Whether two calls have definitions of one name. -/
def sameName (c d : Call) : Bool :=
  c.definition.name == d.definition.name

end Call

variable {r after : Registry} {c : Call} {first : Definition} {calls : List Call}

/-! ## One call -/

/-- What a call leaves behind under a new name. -/
def append (r : Registry) (c : Call) : Registry :=
  ⟨r.origin, r.entries ++ [c.entry r.origin]⟩

@[simp] theorem origin_append (r : Registry) (c : Call) : (r.append c).origin = r.origin :=
  rfl

@[simp] theorem entries_append (r : Registry) (c : Call) :
    (r.append c).entries = r.entries ++ [c.entry r.origin] :=
  rfl

@[simp] theorem definitions_append (r : Registry) (c : Call) :
    (r.append c).definitions = r.definitions ++ [c.definition] := by
  simp [definitions, Call.entry]

@[simp] theorem names_append (r : Registry) (c : Call) :
    (r.append c).names = r.names ++ [c.definition.name] := by
  simp [names, Call.entry]

/-- A name without a definition is new. -/
theorem get?_eq_none_iff {name : String} : r.get? name = none ↔ name ∉ r.names := by
  rw [get?, Option.map_eq_none_iff, entry?_eq_none_iff]

/-- A call under a new name appends its entry. -/
theorem perform_of_new (h : r.get? c.definition.name = none) :
    r.perform c = (.ok c.definition.name, r.append c) := by
  rw [perform, register_of_new (Option.map_eq_none_iff.mp h)]
  rfl

/-- A call under a name that holds the same definition changes nothing. -/
theorem perform_of_same (h : r.get? c.definition.name = some first)
    (hsame : first.same c.definition = true) : r.perform c = (.ok c.definition.name, r) := by
  obtain ⟨e, he, rfl⟩ := Option.map_eq_some_iff.mp h
  rw [perform, register_of_same he hsame]

/-- A call under a name that holds another definition fails, and changes nothing. -/
theorem perform_of_other (h : r.get? c.definition.name = some first)
    (hother : first.same c.definition = false) : ∃ failure, r.perform c = (.error failure, r) := by
  cases hregister : r.register c.definition c.origin c.document c.pointer with
  | error failure => exact ⟨failure, by rw [perform, hregister]⟩
  | ok result =>
      have hsame := (register_isOk_iff c.origin c.document c.pointer).mp ⟨result, hregister⟩ first h
      rw [hother] at hsame
      cases hsame

/-- A failing call changes nothing. -/
theorem perform_of_error {failure : Failure} (h : (r.perform c).1 = .error failure) :
    (r.perform c).2 = r := by
  cases hfirst : r.get? c.definition.name with
  | none =>
      rw [perform_of_new hfirst] at h
      cases h
  | some first =>
      cases hsame : first.same c.definition with
      | true => rw [perform_of_same hfirst hsame]
      | false =>
          obtain ⟨_, hc⟩ := perform_of_other hfirst hsame
          rw [hc]

/-- A step of modeling that registers a definition performs a call. -/
theorem registerDefinition_performs (setting : Setting) (w : Workspace) (d : Definition) (pointer : String) :
    let run := Modeling.runStep setting w (Modeling.registerDefinition d pointer)
    let result := w.registry.perform ⟨d, none, setting.document.name, some pointer⟩
    run.1 = result.1.map (fun _ => ()) ∧ run.2.registry = result.2 := by
  simp only [Modeling.runStep, Modeling.registerDefinition, perform]
  cases w.registry.register d none setting.document.name (some pointer) <;> exact ⟨rfl, rfl⟩

/-! ## Runs -/

/-- A run leads where the calls of it that succeed lead alone. -/
theorem registerAll_succeeding (r : Registry) (calls : List Call) :
    r.registerAll (r.succeeding calls) = .ok (r.performAll calls) := by
  induction calls generalizing r with
  | nil => rfl
  | cons c rest ih =>
      rw [performAll, List.foldl_cons, ← performAll, ← ih, succeeding]
      cases hc : r.perform c with
      | mk outcome after =>
          cases outcome with
          | ok name => rw [registerAll, hc]
          | error failure =>
              obtain rfl : after = r := by
                have hkept := perform_of_error (congrArg Prod.fst hc)
                rwa [hc] at hkept
              rfl

/-- The first of calls that all succeed has a new name, or one that holds the same definition. -/
theorem registerAll_cons_cases (h : r.registerAll (c :: calls) = .ok after) :
    (r.get? c.definition.name = none ∧ (r.append c).registerAll calls = .ok after) ∨
      ((∃ first, r.get? c.definition.name = some first) ∧ r.registerAll calls = .ok after) := by
  rw [registerAll] at h
  cases hfirst : r.get? c.definition.name with
  | none =>
      rw [perform_of_new hfirst] at h
      exact .inl ⟨rfl, h⟩
  | some first =>
      cases hsame : first.same c.definition with
      | true =>
          rw [perform_of_same hfirst hsame] at h
          exact .inr ⟨⟨first, rfl⟩, h⟩
      | false =>
          obtain ⟨_, hc⟩ := perform_of_other hfirst hsame
          rw [hc] at h
          cases h

/-- Calls that all succeed leave behind what was there, and behind it the first of them for each new name. -/
theorem entries_of_registerAll (h : r.registerAll calls = .ok after) :
    after.entries = r.entries ++
      ((calls.filter fun c => c.definition.name ∉ r.names).eraseDupsBy Call.sameName).map
        (Call.entry r.origin) := by
  induction calls generalizing r with
  | nil =>
      cases h
      simp
  | cons c rest ih =>
      rcases registerAll_cons_cases h with ⟨hnew, h⟩ | ⟨⟨first, hfirst⟩, h⟩
      · -- The calls under other new names are those that are left when this name is taken.
        have hleft : (rest.filter fun d => d.definition.name ∉ (r.append c).names) =
            (rest.filter fun d => d.definition.name ∉ r.names).filter fun d => d.sameName c = false := by
          simp [List.filter_filter, Call.sameName, and_comm]
        rw [ih h, hleft, List.filter_cons_of_pos (by simpa using get?_eq_none_iff.mp hnew),
          List.eraseDupsBy_cons]
        simp
      · have hold : c.definition.name ∈ r.names := by
          by_contra hnew
          rw [get?_eq_none_iff.mpr hnew] at hfirst
          cases hfirst
        rw [ih h, List.filter_cons_of_neg (by simpa using hold)]

/-- Calls that all succeed keep the entry of a name that was there, and leave that of the first of them for a
new one. -/
theorem entry?_of_registerAll (h : r.registerAll calls = .ok after) (name : String) :
    after.entry? name = (r.entry? name).or
      ((calls.find? fun c => c.definition.name == name).map (Call.entry r.origin)) := by
  induction calls generalizing r with
  | nil =>
      cases h
      simp
  | cons c rest ih =>
      rcases registerAll_cons_cases h with ⟨hnew, h⟩ | ⟨⟨first, hfirst⟩, h⟩ <;>
        rw [ih h, List.find?_cons] <;> by_cases hname : c.definition.name = name
      · simp [hname, entry?, Call.entry]
      · simp [beq_false_of_ne hname, entry?, Call.entry]
      · obtain ⟨e, he, -⟩ := Option.map_eq_some_iff.mp (hname ▸ hfirst)
        rw [he, Option.some_or, Option.some_or]
      · rw [beq_false_of_ne hname]

/-- After a run on an empty registry its entries are the first successful calls of each name, in their order,
so the entry of a name is that of its first successful call. -/
theorem entries_performAll_empty (own : Option String) (calls : List Call) :
    let succeeding := (empty own).succeeding calls
    let after := (empty own).performAll calls
    after.entries = (succeeding.eraseDupsBy Call.sameName).map (Call.entry own) ∧
      ∀ name, after.entry? name =
        (succeeding.find? fun c => c.definition.name == name).map (Call.entry own) := by
  have hsucceed := registerAll_succeeding (empty own) calls
  refine ⟨?_, fun name => ?_⟩
  · simpa [empty, names] using entries_of_registerAll hsucceed
  · simpa [empty, entry?] using entry?_of_registerAll hsucceed name

variable {others : List Call}

/-! ## Calls that all succeed -/

/-- Calls that all succeed are a run of registrations. -/
theorem absorbs_of_registerAll (h : r.registerAll calls = .ok after) :
    r.Absorbs (calls.map (·.definition)) after := by
  induction calls generalizing r with
  | nil =>
      cases h
      exact .none _
  | cons c rest ih =>
      rw [registerAll, perform] at h
      cases hregister : r.register c.definition c.origin c.document c.pointer with
      | error failure =>
          rw [hregister] at h
          cases h
      | ok result =>
          rw [hregister] at h
          exact .one hregister (ih h)

/-- Calls all succeed exactly if their definitions agree with one another and with those that are there. -/
theorem exists_registerAll_iff (hagree : Definition.Agree r.definitions)
    (hcoherent : Definition.Coherent (r.definitions ++ calls.map (·.definition))) :
    (∃ after, r.registerAll calls = .ok after) ↔
      Definition.Agree (r.definitions ++ calls.map (·.definition)) := by
  induction calls generalizing r with
  | nil => simpa [registerAll] using hagree
  | cons c rest ih =>
      have hmiddle : (r.definitions ++ (c :: rest).map (·.definition)).Perm
          (c.definition :: (r.definitions ++ rest.map (·.definition))) := List.perm_middle
      rw [registerAll]
      cases hfirst : r.get? c.definition.name with
      | none =>
          have hnew : ∀ d ∈ r.definitions, d.name ≠ c.definition.name := by
            intro d hd hname
            rw [get?_eq_none_iff, names_eq_map_definitions] at hfirst
            exact hfirst (hname ▸ List.mem_map_of_mem hd)
          have hagree' : Definition.Agree (r.append c).definitions := by
            rw [definitions_append]
            refine List.pairwise_append.mpr ⟨hagree, List.pairwise_singleton _ _, ?_⟩
            exact fun d hd e he hname => absurd (hname.trans (by rw [List.mem_singleton.mp he])) (hnew d hd)
          have hmore := ih hagree' (by simpa using hcoherent)
          rw [perform_of_new hfirst]
          simpa using hmore
      | some first =>
          obtain ⟨hheld, hname⟩ := mem_definitions_of_get? hfirst
          have hheld' : first ∈ r.definitions ++ rest.map (·.definition) := List.mem_append_left _ hheld
          cases hsame : first.same c.definition with
          | true =>
              have hcoherent' := hcoherent.of_subset hmiddle.symm.subset
              have hless := ih hagree (hcoherent'.of_subset (List.subset_cons_self _ _))
              rw [perform_of_same hfirst hsame, Definition.agree_iff_of_perm hmiddle]
              refine hless.trans ⟨fun h => h.cons_of_same hcoherent' hheld' hsame, fun h => ?_⟩
              exact (List.pairwise_cons.mp h).2
          | false =>
              obtain ⟨failure, hc⟩ := perform_of_other hfirst hsame
              rw [hc]
              refine iff_of_false (by simp) fun h => ?_
              have hboth := (List.pairwise_append.mp h).2.2 first hheld c.definition List.mem_cons_self hname
              rw [hsame] at hboth
              cases hboth.1

/-- Calls on an empty registry all succeed exactly if their definitions agree. -/
theorem exists_registerAll_empty_iff (own : Option String)
    (hcoherent : Definition.Coherent (calls.map (·.definition))) :
    (∃ after, (empty own).registerAll calls = .ok after) ↔
      Definition.Agree (calls.map (·.definition)) :=
  exists_registerAll_iff (r := empty own) List.Pairwise.nil hcoherent

/-- What calls leave under a name in an empty registry is a definition of one of them. -/
theorem mem_of_get?_registerAll {own : Option String} (h : (empty own).registerAll calls = .ok after)
    {name : String} {d : Definition} (hd : after.get? name = some d) :
    d ∈ calls.map (·.definition) ∧ d.name = name := by
  obtain ⟨hmem, hname⟩ := mem_definitions_of_get? hd
  have hcalled := (absorbs_of_registerAll h).mem_of_mem_definitions hmem
  exact ⟨hcalled.resolve_left (by simp [empty, definitions]), hname⟩

/-- Calls leave a definition under their names in an empty registry, and under no other names. -/
theorem isSome_get?_registerAll_iff {own : Option String} (h : (empty own).registerAll calls = .ok after)
    (name : String) :
    (after.get? name).isSome = true ↔ ∃ d ∈ calls.map (·.definition), d.name = name := by
  refine ⟨fun hsome => ?_, ?_⟩
  · obtain ⟨d, hd⟩ := Option.isSome_iff_exists.mp hsome
    exact ⟨d, mem_of_get?_registerAll h hd⟩
  · rintro ⟨d, hd, rfl⟩
    obtain ⟨held, hheld, -⟩ := (absorbs_of_registerAll h).holds hd
    exact Option.isSome_iff_exists.mpr ⟨held, hheld⟩

/-! ## Orders and runs -/

/-- Calls on an empty registry all succeed in one order exactly if they do in another, whatever origins are
given with them. Both registries then hold definitions under the same names, the same ones. In a run of calls
a failing one changes nothing, and the run leads where its successful calls lead alone: each name has the
definition and the origin of its first successful call, and the names stand in the order of these calls. -/
theorem tables_of_arrangements :
    (∀ (own other : Option String) (calls others : List Call),
      Definition.Coherent (calls.map (·.definition)) →
      (others.map (·.definition)).Perm (calls.map (·.definition)) →
        ((∃ after, (empty own).registerAll calls = .ok after) ↔
          ∃ after, (empty other).registerAll others = .ok after) ∧
        ∀ r s, (empty own).registerAll calls = .ok r → (empty other).registerAll others = .ok s →
          ∀ name, Option.Rel (fun d e => d = e ∨ d.same e = true) (r.get? name) (s.get? name)) ∧
    (∀ (r : Registry) (c : Call) (failure : Failure),
      (r.perform c).1 = .error failure → (r.perform c).2 = r) ∧
    ∀ (own : Option String) (calls : List Call),
      let succeeding := (empty own).succeeding calls
      let after := (empty own).performAll calls
      (empty own).registerAll succeeding = .ok after ∧
        after.entries = (succeeding.eraseDupsBy Call.sameName).map (Call.entry own) ∧
        ∀ name, after.entry? name =
          (succeeding.find? fun c => c.definition.name == name).map (Call.entry own) := by
  refine ⟨?_, fun r c failure => perform_of_error, fun own calls =>
    ⟨registerAll_succeeding _ _, entries_performAll_empty own calls⟩⟩
  intro own other calls others hcoherent hperm
  have hcoherent' := hcoherent.of_subset hperm.subset
  refine ⟨?_, fun r s hr hs name => ?_⟩
  · rw [exists_registerAll_empty_iff own hcoherent, exists_registerAll_empty_iff other hcoherent',
      Definition.agree_iff_of_perm hperm]
  · have hagree := (exists_registerAll_empty_iff own hcoherent).mp ⟨r, hr⟩
    have hnames : (r.get? name).isSome = true ↔ (s.get? name).isSome = true := by
      simp only [isSome_get?_registerAll_iff hr, isSome_get?_registerAll_iff hs, hperm.mem_iff]
    cases hd : r.get? name with
    | none =>
        cases he : s.get? name with
        | none => exact .none
        | some e => simp [hd, he] at hnames
    | some d =>
        cases he : s.get? name with
        | none => simp [hd, he] at hnames
        | some e =>
            obtain ⟨hmem, hname⟩ := mem_of_get?_registerAll hr hd
            obtain ⟨hmem', hname'⟩ := mem_of_get?_registerAll hs he
            exact .some (hagree.eq_or_same hmem (hperm.subset hmem') (hname.trans hname'.symm))

/-! ## Limits in two orders -/

/-- A call for the definition of a version. -/
def callFor (label name : String) (content : Content) : Call :=
  ⟨⟨name, content⟩, some label, none, none⟩

/-- Definitions of two versions: limits that are spelled in two ways, one not-a-number, and an owner that holds
itself, met at two depths. -/
def limitCalls : List Call :=
  let limits := Value.object [("least", .int 1), ("most", .float (.ofDecimal false 50 0))]
  let otherLimits := Value.object [("most", .int 50), ("least", .bool true)]
  let ratio := Value.float (.nan (.shared 0))
  let owner (depth : Nat) := Value.selfHolding (.ofDocument 0 0) (Value.comparedDepth + depth)
  [callFor "v1" "Limits" (.defaultValue .any limits false),
    callFor "v1" "Ratio" (.defaultValue .any ratio false),
    callFor "v1" "Owner" (.enumeration none [⟨"Itself", owner 1, none⟩] none),
    callFor "v2" "Limits" (.defaultValue .any otherLimits false),
    callFor "v2" "Ratio" (.defaultValue .any ratio false),
    callFor "v2" "Owner" (.enumeration none [⟨"Itself", owner 2, none⟩] none)]

/-- The values of these definitions are those of JSON texts, or the object that holds itself. -/
theorem values_of_limitCalls : ∀ d ∈ limitCalls.map (·.definition), ∀ v ∈ d.values,
    v.IsJson 1 ∨ ∃ depth, Value.comparedDepth < depth ∧ v = Value.selfHolding (.ofDocument 0 0) depth := by
  simp only [limitCalls, callFor, List.map_cons, List.map_nil, List.forall_mem_cons, Definition.values,
    Content.values]
  refine ⟨⟨.inl ?_, by simp⟩, ⟨.inl (.float _ _), by simp⟩, ⟨.inr ⟨_, by omega, rfl⟩, by simp⟩,
    ⟨.inl ?_, by simp⟩, ⟨.inl (.float _ _), by simp⟩, ⟨.inr ⟨_, by omega, rfl⟩, by simp⟩, by simp⟩
  · exact Value.isJson_of_isJsonWithin (by decide)
  · exact Value.isJson_of_isJsonWithin (by decide)

theorem coherent_limitCalls : Definition.Coherent (limitCalls.map (·.definition)) := by
  refine ⟨fun d hd v hv => ?_, fun d hd e he v hv w hw => ?_⟩
  · rcases values_of_limitCalls d hd v hv with hjson | ⟨depth, -, rfl⟩
    · exact hjson.hasDistinctKeys
    · exact Value.hasDistinctKeys_selfHolding _ depth
  · rcases values_of_limitCalls d hd v hv with hjson | ⟨first, hfirst, rfl⟩
    · exact Value.coherent_of_unmarked (.inl hjson.unmarked) _
    · rcases values_of_limitCalls e he w hw with hjson | ⟨second, hsecond, rfl⟩
      · exact Value.coherent_of_unmarked (.inr hjson.unmarked) _
      · exact Value.coherent_selfHolding hfirst hsecond

theorem tables_of_limitCalls :
    ∃ r s, (empty none).registerAll limitCalls = .ok r ∧
      (empty (some "all")).registerAll limitCalls.reverse = .ok s ∧
      r.entries.map (fun e => (e.definition.name, e.origin)) =
        [("Limits", some "v1"), ("Ratio", some "v1"), ("Owner", some "v1")] ∧
      s.entries.map (fun e => (e.definition.name, e.origin)) =
        [("Owner", some "v2"), ("Ratio", some "v2"), ("Limits", some "v2")] ∧
      (∀ name, Option.Rel (fun d e => d = e ∨ d.same e = true) (r.get? name) (s.get? name)) ∧
      ∃ failure, (r.perform (callFor "v3" "Limits" (.redirect "/"))).1 = .error failure ∧
        (r.perform (callFor "v3" "Limits" (.redirect "/"))).2 = r := by
  have horders := tables_of_arrangements.1 none (some "all") limitCalls limitCalls.reverse
    coherent_limitCalls ((List.reverse_perm limitCalls).map _)
  have hfacts : ((empty none).registerAll limitCalls).toOption.map (fun r =>
      (r.entries.map fun e => (e.definition.name, e.origin),
        (r.perform (callFor "v3" "Limits" (.redirect "/"))).1.toOption)) =
      some ([("Limits", some "v1"), ("Ratio", some "v1"), ("Owner", some "v1")], none) := by
    decide +kernel
  have hreversed : ((empty (some "all")).registerAll limitCalls.reverse).toOption.map (fun s =>
      s.entries.map fun e => (e.definition.name, e.origin)) =
      some [("Owner", some "v2"), ("Ratio", some "v2"), ("Limits", some "v2")] := by
    decide +kernel
  obtain ⟨r, hr, hfound⟩ := Option.map_eq_some_iff.mp hfacts
  obtain ⟨s, hs, hentries'⟩ := Option.map_eq_some_iff.mp hreversed
  obtain ⟨hentries, hfails⟩ := Prod.mk.inj hfound
  have hr := eq_ok_of_toOption hr
  have hs := eq_ok_of_toOption hs
  refine ⟨r, s, hr, hs, hentries, hentries', horders.2 r s hr hs, ?_⟩
  cases houtcome : (r.perform (callFor "v3" "Limits" (.redirect "/"))).1 with
  | ok name =>
      rw [houtcome] at hfails
      cases hfails
  | error failure => exact ⟨failure, rfl, tables_of_arrangements.2.1 r _ failure houtcome⟩

end Registry
end VersionedApi
