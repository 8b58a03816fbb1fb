import VersionedApi.Proofs.Modeling.Outcomes
import VersionedApi.Proofs.Order.Documents
import VersionedApi.Proofs.Places.Lookups
import VersionedApi.Proofs.Value.Json

/-!
# Places of reports

A report names the document and a pointer. While a document is walked, the pointer at hand leads to the
node at hand, so a report made there points into the document. The pointer of a path item or a media type
stays where it is when their references are followed, and pointers below it may lead nowhere.

Main results:

- `Document.Astray` and `Document.Misses`: the pointers that may lead nowhere;
- `Document.Leads`: a pointer at hand, with its rules for entries, items and references;
- `Modeling.Locates`: steps whose reports point into the document, with one rule for each way to compose
  them.
-/

namespace VersionedApi

/-- Where all keys are texts, a value is found under a text only. -/
theorem Value.lookup?_of_lookupKey? {entries : List (Value × Value)}
    (hkeys : ∀ e ∈ entries, ∃ text, e.1 = .text text) {key v : Value}
    (h : lookupKey? key entries = some v) : ∃ text, key = .text text ∧ lookup? text entries = some v := by
  induction entries with
  | nil => cases h
  | cons first rest ih =>
      obtain ⟨k, w⟩ := first
      rcases List.forall_mem_cons.mp hkeys with ⟨⟨t, rfl⟩, hrest⟩
      rw [lookupKey?] at h
      split at h <;> rename_i hkey <;> rw [sameKey_text_iff'] at hkey
      · cases h
        exact ⟨t, hkey, by simp [lookup?]⟩
      · rcases ih hrest h with ⟨text, rfl, htext⟩
        refine ⟨text, rfl, ?_⟩
        rw [lookup?, if_neg, htext]
        rw [isText_iff]
        exact fun heq => hkey heq.symm

namespace Document

/-! ## Pointers at hand -/

/-- The places whose pointers are kept when their references are followed: path items and media types. -/
inductive KeepsPointer : String → Prop
  | pathItem (path : String) : KeepsPointer (Pointer.join "#/paths" [path])
  | media (above type : String) : KeepsPointer (Pointer.join above ["content", type])

/-- Pointers that may lead nowhere: below a reference that stands for a path item or a media type, or to an
item whose number has too many digits. -/
inductive Astray (d : Document) : String → Prop
  | reference {place : String} {node : Value} (key : String) (keeps : KeepsPointer place)
      (found : d.lookup (.text place) none = .ok node) (refers : node.reference?.isSome) :
      Astray d (Pointer.join place [key])
  | numeral {i : Nat} (place : String) (long : Text.digitLimit < (toString i).length) :
      Astray d (Pointer.join place [toString i])
  | deeper {pointer : String} (key : String) (above : Astray d pointer) :
      Astray d (Pointer.join pointer [key])

/-- Pointers to what a problem is about although it is missing: the schema of a media type, the id of an
operation, or an item of what should be a list. -/
inductive Misses (d : Document) : Problem → String → Prop
  | schema {above : String} {node : Value} (code : Nat)
      (found : d.lookup (.text above) none = .ok node)
      (missing : Value.hasEntry (node.entries?.getD []) "schema" = false) :
      Misses d (.errorWithoutEnum code) (Pointer.join above ["schema"])
  | operationId {above : String} {node : Value} (id earlier method path : String)
      (found : d.lookup (.text above) none = .ok node)
      (missing : Value.hasEntry (node.entries?.getD []) "operationId" = false) :
      Misses d (.duplicateOperationId id earlier method path) (Pointer.join above ["operationId"])
  | item {above keyword : String} {node : Value} (problem : Problem) (i : Nat)
      (keywords : keyword = "enum" ∨ keyword = "oneOf")
      (found : d.lookup (.text (Pointer.join above [keyword])) none = .ok node)
      (noList : ∀ loop items, node ≠ .list loop items) :
      Misses d problem (Pointer.join above [keyword, toString i])

/-- A pointer leads to a node, or it may lead anywhere. -/
def Leads (d : Document) (pointer : String) (node : Value) : Prop :=
  d.lookup (.text pointer) none = .ok node ∨ d.Astray pointer

/-- A pointer that a problem may have: to a node, or to what is missing. -/
def Names (d : Document) (problem : Problem) (pointer : String) : Prop :=
  (∃ node, d.Leads pointer node) ∨ d.Misses problem pointer

/-- A report with the name of the document and such a pointer. -/
def Locates (d : Document) (r : Report) : Prop :=
  r.document = d.name ∧ ∃ pointer, r.pointer = some pointer ∧ d.Names r.problem pointer

variable {d : Document} {pointer : String}

/-- A problem that is reported at such a pointer. -/
theorem locates_of_located {problem : Problem} {r : Report} (hnames : d.Names problem pointer)
    (h : Failure.located problem d.name (some pointer) = .report r) : d.Locates r := by
  unfold Failure.located at h
  split at h
  · cases h
    exact ⟨rfl, pointer, rfl, hnames⟩
  · cases h

/-- A pointer at hand may be that of any problem. -/
theorem Leads.names {node : Value} (h : d.Leads pointer node) (problem : Problem) :
    d.Names problem pointer :=
  .inl ⟨node, h⟩

/-- The entry of a key. -/
theorem Leads.lookup {loop : Option Mark} {entries : List (Value × Value)} {key : String} {v : Value}
    (h : d.Leads pointer (.map loop entries)) (hv : Value.lookup? key entries = some v) :
    d.Leads (Pointer.join pointer [key]) v :=
  h.imp (fun hfound => lookup_entry hfound hv) (.deeper key)

/-- An entry that is no `null`. -/
theorem Leads.entry {loop : Option Mark} {entries : List (Value × Value)}
    (h : d.Leads pointer (.map loop entries)) (key : String) (hv : Value.entry entries key ≠ .null) :
    d.Leads (Pointer.join pointer [key]) (Value.entry entries key) := by
  cases hfound : Value.lookup? key entries with
  | none => simp [Value.entry, hfound] at hv
  | some v =>
      rw [Value.entry_of_lookup? hfound]
      exact h.lookup hfound

/-- An item of a list. -/
theorem Leads.item {loop : Option Mark} {items : List Value} {i : Nat} {v : Value}
    (h : d.Leads pointer (.list loop items)) (hv : items[i]? = some v) :
    d.Leads (Pointer.join pointer [toString i]) v := by
  rcases h with hfound | hastray
  · by_cases hshort : (toString i).length ≤ Text.digitLimit
    · exact .inl (lookup_item hfound hv hshort)
    · exact .inr (.numeral pointer (Nat.lt_of_not_le hshort))
  · exact .inr (.deeper _ hastray)

/-- The value of an entry, in a document of a JSON text. -/
theorem Leads.member {level : Nat} (hroot : d.root.IsJson level) {loop : Option Mark}
    {entries : List (Value × Value)} (h : d.Leads pointer (.map loop entries)) {key v : Value} {name : String}
    (hmem : (key, v) ∈ entries) (hshown : key.shown = .ok name) :
    d.Leads (Pointer.join pointer [name]) v := by
  rcases h with hfound | hastray
  · cases hroot.part (lookup_mem_parts hfound) with
    | @object inner fields names values =>
        have hkeys : ((fields.map fun f => (Value.text f.1, f.2)).map Prod.fst).Nodup := by
          have htexts := names.map fun _ _ => Value.text.inj
          rw [List.map_map] at htexts ⊢
          exact htexts
        rcases List.mem_map.mp hmem with ⟨f, hf, heq⟩
        cases heq
        cases hshown
        exact .inl (lookup_entry hfound ((Value.lookup?_eq_some_iff hkeys).mpr hmem))
  · exact .inr (.deeper _ hastray)

/-- A value that is found under any key, in a document of a JSON text. -/
theorem Leads.lookupKey? {level : Nat} (hroot : d.root.IsJson level) {loop : Option Mark}
    {entries : List (Value × Value)} (h : d.Leads pointer (.map loop entries)) {key v : Value} {name : String}
    (hv : Value.lookupKey? key entries = some v) (hshown : key.shown = .ok name) :
    d.Leads (Pointer.join pointer [name]) v := by
  rcases h with hfound | hastray
  · have hkeys : ∀ e ∈ entries, ∃ text, e.1 = .text text := by
      cases hroot.part (lookup_mem_parts hfound) with
      | object names values =>
          intro e he
          rcases List.mem_map.mp he with ⟨f, -, rfl⟩
          exact ⟨f.1, rfl⟩
    rcases Value.lookup?_of_lookupKey? hkeys hv with ⟨text, rfl, htext⟩
    cases hshown
    exact .inl (lookup_entry hfound htext)
  · exact .inr (.deeper _ hastray)

/-- An item of a value of a JSON text: one of a list, or a text in what is no list. -/
theorem Leads.items {level : Nat} (hroot : d.root.IsJson level) {v : Value} (h : d.Leads pointer v)
    {items : List Value} (hitems : v.items = .ok items) {i : Nat} {x : Value} (hx : items[i]? = some x) :
    d.Leads (Pointer.join pointer [toString i]) x ∨
      d.lookup (.text pointer) none = .ok v ∧ (∀ loop items, v ≠ .list loop items) ∧ ∃ s, x = .text s := by
  rcases h with hfound | hastray
  · have hmem := List.mem_of_getElem? hx
    cases hroot.part (lookup_mem_parts hfound) with
    | list inner =>
        cases hitems
        exact .inl (Leads.item (.inl hfound) hx)
    | object names values =>
        refine .inr ⟨hfound, nofun, ?_⟩
        cases hitems
        rcases List.mem_map.mp hmem with ⟨e, he, rfl⟩
        rcases List.mem_map.mp he with ⟨f, -, rfl⟩
        exact ⟨f.1, rfl⟩
    | text _ s =>
        refine .inr ⟨hfound, nofun, ?_⟩
        cases hitems
        rcases List.mem_map.mp hmem with ⟨c, -, rfl⟩
        exact ⟨_, rfl⟩
    | _ => cases hitems
  · exact .inl (.inr (.deeper _ hastray))

/-! ## References -/

/-- A walk that leads nowhere is reported at its place. -/
theorem report_of_walk {document place : Option String} {ref : String} {node : Value}
    {segments : List String} {r : Report} (h : walk document place ref node segments = .error (.report r)) :
    ∃ segment, Failure.located (.danglingReference ref segment) document place = .report r := by
  induction segments generalizing node with
  | nil => cases h
  | cons segment rest ih =>
      rw [walk] at h
      split at h
      · cases h
      · exact ih h
      · exact ⟨segment, Except.error.inj h⟩

/-- A reference that leads nowhere is reported at its place. -/
theorem report_of_lookup {ref : Value} {place : Option String} {r : Report}
    (h : d.lookup ref place = .error (.report r)) :
    ∃ problem, Failure.located problem d.name place = .report r := by
  unfold lookup at h
  split at h
  · split at h
    · rcases report_of_walk h with ⟨segment, hlocated⟩
      exact ⟨_, hlocated⟩
    · exact ⟨_, Except.error.inj h⟩
  · exact ⟨_, Except.error.inj h⟩

/-- References that cannot be followed are reported at the node that refers. -/
theorem locates_of_follow {visits : Visits} {fuel : Nat} {chain : List String} {here : Resolved}
    {r : Report} (hhere : d.Leads here.pointer here.node)
    (h : d.follow visits fuel chain here = .error (.report r)) : d.Locates r := by
  induction fuel generalizing chain here with
  | zero => cases h
  | succ fuel ih =>
      rw [follow] at h
      generalize here.node.reference? = ref? at h
      rcases ref? with _ | ref
      · cases h
      · cases ref with
        | text hop =>
            dsimp only at h
            split at h
            · exact locates_of_located (hhere.names _) (Except.error.inj h)
            · cases hnode : d.lookup (.text hop) (some here.pointer) with
              | error failure =>
                  rw [hnode] at h
                  cases h
                  rcases report_of_lookup hnode with ⟨problem, hlocated⟩
                  exact locates_of_located (hhere.names _) hlocated
              | ok node =>
                  rw [hnode] at h
                  exact ih (.inl (lookup_eq_ok_of_place hnode none)) h
        | _ =>
            dsimp only at h
            split at h
            · cases h
            · exact locates_of_located (hhere.names _) (Except.error.inj h)

/-- References that cannot be resolved are reported at the node that refers. -/
theorem locates_of_resolve {visits : Visits} {node : Value} {r : Report} (hnode : d.Leads pointer node)
    (h : d.resolve visits node pointer = .error (.report r)) : d.Locates r := by
  unfold resolve at h
  split at h
  · exact locates_of_follow hnode h
  · exact locates_of_follow hnode h

/-- The end of the references is at hand. -/
theorem Leads.resolved {visits : Visits} {node : Value} {r : Resolved} (hnode : d.Leads pointer node)
    (h : d.resolve visits node pointer = .ok r) : d.Leads r.pointer r.node := by
  rcases resolve_cases h with rfl | hends
  · exact hnode
  · rcases hends.node with ⟨place, hfound⟩
    exact .inl (lookup_eq_ok_of_place hfound none)

/-- A node that is no reference is where it is. -/
theorem resolve_of_no_reference {visits : Visits} {node : Value} (hnode : node.reference? = none) :
    d.resolve visits node pointer = .ok ⟨node, none, pointer⟩ := by
  simp [resolve, shortChain, follow, hnode]

end Document

/-! ## Steps -/

namespace Modeling

variable {α β : Type} {s : Setting}

/-- A step whose reports point into the document, and whose results have a property. -/
def Locates (s : Setting) (step : Modeling α) (post : α → Prop) : Prop :=
  ∀ w, (∀ a after, runStep s w step = (.ok a, after) → post a) ∧
    ∀ r after, runStep s w step = (.error (.report r), after) → s.document.Locates r

theorem locates_pure {post : α → Prop} {a : α} (h : post a) : Locates s (pure a) post := by
  refine fun w => ⟨fun b after hrun => ?_, fun r after hrun => ?_⟩
  · rcases pure_eq_ok.mp hrun with ⟨rfl, -⟩
    exact h
  · cases hrun

theorem locates_bind {x : Modeling α} {f : α → Modeling β} {mid : α → Prop} {post : β → Prop}
    (hx : Locates s x mid) (hf : ∀ a, mid a → Locates s (f a) post) : Locates s (x >>= f) post := by
  refine fun w => ⟨fun b after hrun => ?_, fun r after hrun => ?_⟩
  · rcases bind_eq_ok.mp hrun with ⟨a, w₁, hfirst, hsecond⟩
    exact (hf a ((hx w).1 a w₁ hfirst) w₁).1 b after hsecond
  · rw [runStep_bind] at hrun
    split at hrun
    · rename_i a w₁ hfirst
      exact (hf a ((hx w).1 a w₁ hfirst) w₁).2 r after hrun
    · rename_i failure w₁ hfirst
      cases hrun
      exact (hx w).2 r _ hfirst

theorem Locates.imp {x : Modeling α} {post post' : α → Prop} (h : Locates s x post)
    (himp : ∀ a, post a → post' a) : Locates s x post' :=
  fun w => ⟨fun a after hrun => himp a ((h w).1 a after hrun), (h w).2⟩

/-- A step that never fails. -/
theorem locates_of_total {step : Modeling α} (h : ∀ w, ∃ a, (runStep s w step).1 = .ok a) :
    Locates s step fun _ => True := by
  refine fun w => ⟨fun _ _ _ => trivial, fun r after hrun => ?_⟩
  rcases h w with ⟨a, ha⟩
  rw [hrun] at ha
  cases ha

/-- A known outcome that is no report. -/
theorem locates_lift {outcome : Except Failure α} {post : α → Prop}
    (hok : ∀ a, outcome = .ok a → post a) (herror : ∀ r, outcome = .error (.report r) → s.document.Locates r) :
    Locates s (lift outcome) post := by
  refine fun w => ⟨fun a after hrun => hok a (lift_eq_ok.mp hrun).1, fun r after hrun => ?_⟩
  exact herror r (congrArg Prod.fst hrun)

/-- A misuse is no report. -/
theorem locates_liftMisuse {outcome : Except Misuse α} {post : α → Prop}
    (h : ∀ a, outcome = .ok a → post a) : Locates s (liftMisuse outcome) post := by
  refine locates_lift (fun a ha => h a (ok_of_mapError ha)) fun r hr => ?_
  cases outcome <;> cases hr

/-- A sequence that starts with what is no report goes on with its outcome. -/
theorem locates_bind_liftMisuse {outcome : Except Misuse α} {f : α → Modeling β} {post : β → Prop}
    (hf : ∀ a, outcome = .ok a → Locates s (f a) post) : Locates s (liftMisuse outcome >>= f) post :=
  locates_bind (locates_liftMisuse fun _ h => h) hf

/-- A report points into the document if its pointer does. -/
theorem locates_report {problem : Problem} {pointer : String} {post : α → Prop}
    (h : s.document.Names problem pointer) : Locates s (report problem pointer) post := by
  refine fun w => ⟨fun a after hrun => absurd hrun report_ne_ok, fun r after hrun => ?_⟩
  exact Document.locates_of_located h (Except.error.inj (congrArg Prod.fst hrun))

theorem locates_ite {condition : Prop} [Decidable condition] {x y : Modeling α} {post : α → Prop}
    (hx : condition → Locates s x post) (hy : ¬condition → Locates s y post) :
    Locates s (if condition then x else y) post := by
  split
  next h => exact hx h
  next h => exact hy h

/-- Two steps that go on in the same way. -/
theorem locates_join {condition : Prop} [Decidable condition] {x y : Modeling α} {f : α → Modeling β}
    {mid : α → Prop} {post : β → Prop} (hx : condition → Locates s x mid) (hy : ¬condition → Locates s y mid)
    (hf : ∀ a, mid a → Locates s (f a) post) :
    Locates s (if condition then x >>= f else y >>= f) post :=
  locates_ite (fun h => locates_bind (hx h) hf) fun h => locates_bind (hy h) hf

/-! ## Primitive steps -/

/-- The references of a node at hand lead to one at hand. -/
theorem locates_resolve {node : Value} {pointer : String} (h : s.document.Leads pointer node) :
    Locates s (resolve node pointer) fun r =>
      s.document.Leads r.pointer r.node ∧
        (node.reference? = none → r = ⟨node, none, pointer⟩) := by
  refine fun w => ⟨fun r after hrun => ?_, fun r after hrun => ?_⟩
  · have hresolved := (resolve_eq_ok.mp hrun).1
    refine ⟨h.resolved hresolved, fun hnone => ?_⟩
    rw [Document.resolve_of_no_reference hnone] at hresolved
    exact (Except.ok.inj hresolved).symm
  · exact Document.locates_of_resolve h (congrArg Prod.fst hrun)

/-- A visit of a place at hand. -/
theorem locates_visiting {pointer : String} {node : Value} {body : Modeling α} {post : α → Prop}
    (h : s.document.Leads pointer node) (hbody : Locates s body post) :
    Locates s (visiting pointer body) post := by
  refine fun w => ⟨fun a after hrun => ?_, fun r after hrun => ?_⟩
  · rcases visiting_eq_ok.mp hrun with ⟨visits, mid, -, hrun, -⟩
    exact (hbody _).1 a mid hrun
  · simp only [runStep, visiting] at hrun
    cases henter : s.document.enter w.visits pointer with
    | error failure =>
        rw [henter] at hrun
        cases hrun
        unfold Document.enter at henter
        split at henter
        · exact Document.locates_of_located (h.names _) (Except.error.inj henter)
        · cases henter
    | ok visits =>
        rw [henter] at hrun
        dsimp only at hrun
        rcases hinner : body s { w with visits := visits } with ⟨outcome, mid⟩
        rw [hinner] at hrun
        cases hrun
        exact (hbody _).2 r mid hinner

/-- A step beside reserved names. -/
theorem locates_reserving {names : List (String × String)} {body : Modeling α} {post : α → Prop}
    (h : Locates s body post) : Locates s (reserving names body) post := by
  refine fun w => ⟨fun a after hrun => ?_, fun r after hrun => ?_⟩
  · rcases reserving_eq_ok.mp hrun with ⟨mid, hrun, -⟩
    exact (h _).1 a mid hrun
  · simp only [runStep, reserving] at hrun
    rcases hinner : body s { w with taken := names ++ w.taken } with ⟨outcome, mid⟩
    rw [hinner] at hrun
    cases hrun
    exact (h _).2 r mid hinner

/-- A definition is registered at a place at hand. -/
theorem locates_registerDefinition {definition : Definition} {pointer : String} {node : Value}
    (h : s.document.Leads pointer node) :
    Locates s (registerDefinition definition pointer) fun _ => True := by
  refine fun w => ⟨fun _ _ _ => trivial, fun r after hrun => ?_⟩
  simp only [runStep, registerDefinition] at hrun
  split at hrun <;> cases hrun
  rename_i hregister
  unfold Registry.register at hregister
  dsimp only at hregister
  split at hregister
  · cases hregister
  · split at hregister
    · cases hregister
    · exact Document.locates_of_located (h.names _) (Except.error.inj hregister)
    · cases hregister

/-- A content is registered at a place at hand. -/
theorem locates_register {content : Content} {name pointer : String} {node : Value}
    (h : s.document.Leads pointer node) : Locates s (register content name pointer) fun _ => True := by
  refine fun w => ⟨fun _ _ _ => trivial, fun r after hrun => ?_⟩
  simp only [runStep, register] at hrun
  split at hrun
  · exact Document.locates_of_located (h.names _) (Except.error.inj (congrArg Prod.fst hrun))
  · exact (locates_registerDefinition h w).2 r after hrun

/-- A new scope reports in the document. -/
theorem locates_newScope (owner : String) :
    Locates s (newScope owner) fun scope => scope.document = s.document.name := by
  refine fun w => ⟨fun scope after hrun => ?_, fun r after hrun => by cases hrun⟩
  rw [← (newScope_eq_ok.mp hrun).1]
  rfl

/-- A scope of the document is claimed from at a pointer that leads somewhere. -/
theorem locates_claim {scope : Scope} {identifier pointer : String} {label : Label}
    (hscope : scope.document = s.document.name)
    (hnames : ∀ problem, s.document.Names problem pointer) :
    Locates s (lift (scope.claim identifier label (some pointer)))
      fun after => after.document = s.document.name := by
  refine locates_lift (fun after hok => ?_) fun r hr => ?_
  · unfold Scope.claim at hok
    split at hok
    · split at hok <;> cases hok
      exact hscope
    · cases hok
      exact hscope
  · unfold Scope.claim at hr
    split at hr
    · split at hr
      · cases hr
      · rw [hscope] at hr
        exact Document.locates_of_located (hnames _) (Except.error.inj hr)
      · cases hr
    · cases hr

/-- Model objects that cannot be made are no reports. -/
theorem locates_textFields {model : String} {fields : List (String × Value)} :
    Locates s (lift (Value.textFields model fields)) fun _ => True := by
  refine locates_lift (fun _ _ => trivial) fun r hr => ?_
  unfold Value.textFields Checked.toExcept at hr
  split at hr <;> cases hr

theorem locates_textField {model name : String} {v : Value} :
    Locates s (lift (Value.textField model name v)) fun _ => True := by
  refine locates_lift (fun _ _ => trivial) fun r hr => ?_
  unfold Value.textField Checked.toExcept at hr
  split at hr <;> cases hr

theorem locates_propertyIdentifier (name : String) :
    Locates s (propertyIdentifier name) fun _ => True :=
  locates_of_total fun _ => ⟨_, rfl⟩

theorem locates_variantIdentifier (label : String) :
    Locates s (variantIdentifier label) fun _ => True :=
  locates_of_total fun _ => ⟨_, rfl⟩

theorem locates_definition? (name : String) : Locates s (definition? name) fun _ => True :=
  locates_of_total fun _ => ⟨_, rfl⟩

theorem locates_cached? (pointer : String) : Locates s (cached? pointer) fun _ => True :=
  locates_of_total fun _ => ⟨_, rfl⟩

theorem locates_cache (pointer : String) (type : TypeRef) : Locates s (cache pointer type) fun _ => True :=
  locates_of_total fun _ => ⟨_, rfl⟩

theorem locates_note (diagnostic : Diagnostic) : Locates s (note diagnostic) fun _ => True :=
  locates_of_total fun _ => ⟨_, rfl⟩

theorem locates_sourceName : Locates s sourceName fun _ => True :=
  locates_of_total fun _ => ⟨_, rfl⟩

end Modeling
end VersionedApi
