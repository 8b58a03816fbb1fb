import VersionedApi.Proofs.Documents
import VersionedApi.Proofs.Places.Schemas
import VersionedApi.Proofs.Version.Routes

/-!
# Places of reports about versions

Versions are built from the paths of a document. Each step down from there has a pointer at hand, up to
path items and media types under references, whose pointers stay where the references are.

Main results:

- `locates_jsonContent`, `locates_parameters`, `locates_responses`, `locates_operation`: the reports about
  the parts of an operation;
- `locates_routes`: the walk over a whole document;
- `Version.located_of_build`: what is reported about a document that no version is built from.
-/

namespace VersionedApi

/-- The schema of a media type or a parameter with a pointer to it, or none with a pointer to what is
missing. -/
def Document.Places (d : Document) (placed : PlacedSchema) : Prop :=
  d.Leads placed.pointer placed.schema ∨
    placed.schema = .null ∧ ∀ code, d.Names (.errorWithoutEnum code) placed.pointer

/-- A pointer to an object with the entries of a node, if that has any. -/
def Document.LeadsToEntries (d : Document) (pointer : String) (node : Value) : Prop :=
  ∀ loop entries, node = .map loop entries → ∃ mark, d.Leads pointer (.map mark entries)

namespace Modeling

variable {s : Setting} {level : Nat} {pointer : String} {loop : Option Mark}
  {entries : List (Value × Value)}

theorem leadsToEntries_of_leads {node : Value} (h : s.document.Leads pointer node) :
    s.document.LeadsToEntries pointer node :=
  fun loop _ hnode => ⟨loop, hnode ▸ h⟩

theorem leadsToEntries_mapOf (h : s.document.Leads pointer (.map loop entries)) :
    s.document.LeadsToEntries pointer (Value.mapOf entries) := by
  rintro _ _ ⟨⟩
  exact ⟨loop, h⟩

/-! ## JSON content -/

/-- The entries of a media type, of which one that is not given has none. -/
theorem entries_of_orElse {v : Value} (h : v.orElse (Value.mapOf []) = .map loop entries) :
    v = .map loop entries ∨ v.entries?.getD [] = [] ∧ entries = [] := by
  by_cases hgiven : v.isGiven = true
  · rw [Value.orElse_of_isGiven hgiven] at h
    exact .inl h
  · rw [Value.orElse_of_not_isGiven (Bool.eq_false_iff.mpr hgiven)] at h
    cases h
    refine .inr ⟨?_, rfl⟩
    cases v with
    | map mark inner => simpa [Value.isGiven, Value.entries?] using hgiven
    | _ => rfl

/-- The schema of a media type is at hand, or it is missing; below a reference the pointer may lead
anywhere. -/
theorem locates_mediaSchema {above type : String} {media : Value}
    (h : s.document.Leads (Pointer.join above ["content", type]) media) :
    Locates s (mediaSchema media (Pointer.join above ["content", type])) s.document.Places := by
  unfold mediaSchema
  refine locates_bind (locates_resolve h) fun resolved hresolved => ?_
  rcases hresolved with ⟨-, hplace⟩
  refine locates_bind (locates_entriesFor _ _) fun entries hentries => locates_pure ?_
  rcases hentries with ⟨loop, hentries⟩
  cases href : media.reference? with
  | some target =>
      refine .inl (.inr ?_)
      rcases h with hfound | hastray
      · exact .reference "schema" (.media above type) hfound (by rw [href]; rfl)
      · exact .deeper "schema" hastray
  | none =>
      rw [hplace href] at hentries
      have hmissing : Value.hasEntry (media.entries?.getD []) "schema" = false →
          ∀ code, s.document.Names (.errorWithoutEnum code)
            (Pointer.join (Pointer.join above ["content", type]) ["schema"]) := by
        intro hmissing code
        rcases h with hfound | hastray
        · exact .inr (.schema code hfound hmissing)
        · exact .inl ⟨.null, .inr (.deeper "schema" hastray)⟩
      rcases entries_of_orElse hentries with rfl | ⟨hnone, rfl⟩
      · cases hschema : Value.lookup? "schema" entries with
        | some v =>
            refine .inl ?_
            rw [Value.entry_of_lookup? hschema]
            exact h.lookup hschema
        | none =>
            have habsent : Value.hasEntry entries "schema" = false := by simp [Value.hasEntry, hschema]
            exact .inr ⟨Value.entry_of_not_hasEntry habsent, hmissing habsent⟩
      · exact .inr ⟨rfl, hmissing (by rw [hnone]; rfl)⟩

/-- The schema of JSON content of a node at hand. -/
theorem locates_jsonContent (hroot : s.document.root.IsJson level) {node : Value}
    (h : s.document.LeadsToEntries pointer node) (what : String) (strict : Bool) :
    Locates s (jsonContent node pointer what strict)
      fun found => ∀ placed, found = some placed → s.document.Places placed := by
  have hnone : ∀ placed, (none : Option PlacedSchema) = some placed → s.document.Places placed := nofun
  unfold jsonContent
  refine locates_bind (locates_entriesFor _ _) fun entries hentries => ?_
  rcases hentries with ⟨loop, hnode⟩
  rcases h loop entries hnode with ⟨mark, hleads⟩
  refine locates_ite (fun _ => locates_pure hnone) fun hgiven => ?_
  have hcontent := hleads.entry "content" fun hnull => by simp [hnull, Value.isGiven] at hgiven
  split
  · rename_i inner types heq
    rw [heq] at hcontent
    refine locates_bind_liftMisuse fun found hfound => ?_
    split
    · rename_i type media
      refine locates_bind_liftMisuse fun name hname => ?_
      have hplace := hcontent.member hroot (mem_of_jsonMedia? hfound) hname
      rw [← Pointer.join_cons] at hplace
      refine locates_bind (locates_mediaSchema hplace) fun placed hplaced => locates_pure ?_
      rintro _ ⟨⟩
      exact hplaced
    · refine locates_ite (fun _ => locates_report (hcontent.names _)) fun _ => ?_
      refine locates_bind locates_sourceName fun _ _ => ?_
      exact locates_bind (locates_note _) fun _ _ => locates_pure hnone
  · exact locates_report (hleads.names _)

/-! ## Parameters -/

/-- A parameter whose pointer leads to its entries. -/
def Placed (s : Setting) (p : Parameter) : Prop :=
  ∃ loop, s.document.Leads p.pointer (.map loop p.entries)

theorem locates_declaredLocation {node : Value} (h : s.document.Leads pointer node)
    (declared name : Value) : Locates s (declaredLocation declared name pointer) fun _ => True := by
  unfold declaredLocation
  dsimp only
  split
  · exact locates_report (h.names _)
  · exact locates_ite (fun _ => locates_pure trivial) fun _ => locates_report (h.names _)

theorem locates_parameter {declared : Value} (h : s.document.Leads pointer declared) :
    Locates s (parameter declared pointer) (Placed s) := by
  unfold parameter
  refine locates_bind (locates_resolve h) fun resolved hresolved => ?_
  rcases hresolved with ⟨hresolved, -⟩
  dsimp only
  split
  · rename_i name location hname hlocation
    have hnode : ∃ loop, resolved.node = .map loop (resolved.node.entries?.getD []) := by
      cases hnode : resolved.node with
      | map loop entries => exact ⟨loop, rfl⟩
      | _ =>
          rw [hnode] at hname
          cases hname
    rcases hnode with ⟨loop, hnode⟩
    refine locates_bind (locates_declaredLocation hresolved _ _) fun found _ => ?_
    refine locates_bind_liftMisuse fun shown _ => locates_pure ?_
    exact ⟨loop, hnode ▸ hresolved⟩
  · exact locates_report (hresolved.names _)

theorem locates_parametersFrom {index : Nat} {items : List Value}
    (h : ∀ i x, items[i]? = some x → s.document.Leads (Pointer.join pointer [toString (index + i)]) x) :
    Locates s (parametersFrom pointer index items) fun found => ∀ p ∈ found, Placed s p := by
  induction items generalizing index with
  | nil => exact locates_pure nofun
  | cons declared rest ih =>
      have hrest : ∀ i x, rest[i]? = some x →
          s.document.Leads (Pointer.join pointer [toString (index + 1 + i)]) x := by
        intro i x hx
        rw [Nat.add_assoc, Nat.add_comm 1 i]
        exact h (i + 1) x hx
      unfold parametersFrom
      refine locates_bind (locates_parameter (h 0 declared rfl)) fun first hfirst => ?_
      refine locates_bind (ih hrest) fun others hothers => locates_pure ?_
      exact List.forall_mem_cons.mpr ⟨hfirst, hothers⟩

theorem locates_parameters {declared : Value}
    (h : declared = Value.listOf [] ∨ s.document.Leads pointer declared) :
    Locates s (parameters declared pointer) fun found => ∀ p ∈ found, Placed s p := by
  rcases h with rfl | hleads
  · exact locates_pure nofun
  · unfold parameters
    split
    · refine locates_parametersFrom fun i x hx => ?_
      rw [Nat.zero_add]
      exact hleads.item hx
    · exact locates_report (hleads.names _)

theorem locates_parameterSchema (hroot : s.document.root.IsJson level) {p : Parameter}
    (h : Placed s p) :
    Locates s (parameterSchema p)
      fun placed => placed.schema = .null ∨ s.document.Leads placed.pointer placed.schema := by
  rcases h with ⟨loop, hleads⟩
  unfold parameterSchema
  split
  · rename_i hschema
    exact locates_pure (.inr (hleads.lookup hschema))
  · refine locates_bind (locates_jsonContent hroot (leadsToEntries_mapOf hleads) _ _) fun found hfound => ?_
    split
    · exact locates_pure ((hfound _ rfl).symm.imp_left And.left)
    · exact locates_pure (.inl rfl)

theorem locates_parameterProperties (hroot : s.document.root.IsJson level) (name : String)
    {scope : Scope} (hscope : scope.document = s.document.name) {all : List Parameter}
    (h : ∀ p ∈ all, Placed s p) :
    Locates s (parameterProperties name scope all) fun _ => True := by
  induction all generalizing scope with
  | nil => exact locates_pure trivial
  | cons p rest ih =>
      rcases List.forall_mem_cons.mp h with ⟨hp, hrest⟩
      have hnames : ∀ problem, s.document.Names problem p.pointer :=
        hp.elim fun loop hleads => hleads.names
      unfold parameterProperties
      refine locates_bind (locates_propertyIdentifier _) fun identifier _ => ?_
      refine locates_bind (locates_claim hscope hnames) fun next hnext => ?_
      refine locates_bind (locates_parameterSchema hroot hp) fun placed hplaced => ?_
      refine locates_bind (locates_field (locates_model hroot) hplaced _ _ _) fun type _ => ?_
      refine locates_bind (locates_property _ _ _) fun first _ => ?_
      exact locates_bind (ih hnext hrest) fun others _ => locates_pure trivial

theorem locates_parameterRecord (hroot : s.document.root.IsJson level) {all : List Parameter}
    (h : ∀ p ∈ all, Placed s p) (location : Location) (name : String) {node : Value}
    (hpointer : s.document.Leads pointer node) :
    Locates s (parameterRecord all location name pointer) fun _ => True := by
  unfold parameterRecord
  split
  · exact locates_pure trivial
  · refine locates_bind (locates_newScope _) fun scope hscope => ?_
    have hselected : ∀ p ∈ all.filter fun p => p.location == location, Placed s p := fun p hp =>
      h p (List.mem_filter.mp hp).1
    refine locates_bind (locates_parameterProperties hroot _ hscope hselected) fun properties _ => ?_
    exact locates_bind (locates_registerRecord hpointer _ _ _) fun _ _ => locates_pure trivial

/-! ## Request bodies -/

theorem locates_requestBody (hroot : s.document.root.IsJson level) {declared : Value}
    (h : declared = .null ∨ s.document.Leads (Pointer.join pointer ["requestBody"]) declared)
    (name : String) : Locates s (requestBody declared name pointer) fun _ => True := by
  unfold requestBody
  refine locates_ite (fun _ => locates_pure trivial) fun hnull => ?_
  have hleads := h.resolve_left fun heq => hnull (Value.isNull_iff.mpr heq)
  refine locates_bind (locates_resolve hleads) fun resolved hresolved => ?_
  rcases hresolved with ⟨hresolved, -⟩
  refine locates_bind (locates_jsonContent hroot (leadsToEntries_of_leads hresolved) _ _)
    fun found hfound => ?_
  split
  · exact locates_report (hresolved.names _)
  · have hplaced := (hfound _ rfl).symm.imp_left And.left
    exact locates_bind (locates_model hroot _ _ _ hplaced) fun type _ => locates_pure trivial

/-! ## Responses -/

theorem locates_statusCode (text : String) (h : ∀ problem, s.document.Names problem pointer) :
    Locates s (statusCode text pointer) fun _ => True := by
  unfold statusCode
  exact locates_ite (fun _ => locates_liftMisuse fun _ _ => trivial) fun _ => locates_report (h _)

theorem locates_literalVariants (code : Nat) {scope : Scope} (hscope : scope.document = s.document.name)
    {literals : List String} {node : Value} (h : s.document.Leads pointer node) :
    Locates s (literalVariants code pointer scope literals)
      fun found => found.1.document = s.document.name := by
  induction literals generalizing scope with
  | nil => exact locates_pure hscope
  | cons literal rest ih =>
      unfold literalVariants
      refine locates_bind (locates_variantIdentifier _) fun identifier _ => ?_
      refine locates_bind (locates_claim hscope h.names) fun next hnext => ?_
      exact locates_bind (ih hnext) fun found hfound => locates_pure hfound

theorem locates_codeVariant (code : Nat) (entries : List (Value × Value)) {scope : Scope}
    (hscope : scope.document = s.document.name) {node : Value} (h : s.document.Leads pointer node) :
    Locates s (codeVariant code entries pointer scope)
      fun found => found.1.document = s.document.name := by
  unfold codeVariant
  refine locates_bind (locates_variantIdentifier _) fun identifier _ => ?_
  refine locates_bind (locates_claim hscope h.names) fun next hnext => ?_
  exact locates_bind locates_textField fun text _ => locates_pure hnext

/-- A schema that is missing has no literals. -/
theorem locates_tagLiterals_mapOf_nil :
    Locates s (tagLiterals (Value.mapOf [])) fun literals => literals = [] := by
  refine locates_liftMisuse fun literals h => ?_
  cases h
  rfl

theorem locates_errorVariants (hroot : s.document.root.IsJson level) (code : Nat)
    (h : s.document.Leads pointer (.map loop entries)) {scope : Scope}
    (hscope : scope.document = s.document.name) :
    Locates s (errorVariants code entries pointer scope)
      fun found => found.1.document = s.document.name := by
  unfold errorVariants
  refine locates_bind (locates_jsonContent hroot (leadsToEntries_mapOf h) _ _) fun found hfound => ?_
  split
  · exact locates_codeVariant _ _ hscope h
  · rename_i placed
    rcases hfound placed rfl with hleads | ⟨hnull, hnames⟩
    · extract_lets rest
      -- The schema is at hand, whether it is `null` or not.
      have hrest : ∀ node, Locates s (rest node) fun found => found.1.document = s.document.name := by
        intro node
        unfold rest
        refine locates_bind (locates_tagLiterals _) fun literals _ => ?_
        split
        · exact locates_literalVariants _ hscope hleads
        · exact locates_report (hleads.names _)
      refine locates_ite (fun _ => ?_) fun _ => ?_
      · exact locates_bind (locates_pure trivial) fun node (_ : True) => hrest node
      · refine locates_bind (locates_resolve hleads) fun resolved _ => ?_
        exact locates_bind (locates_pure trivial) fun node (_ : True) => hrest node
    · rw [hnull]
      have hempty : Locates s (pure (Value.mapOf [])) fun node => node = Value.mapOf [] := locates_pure rfl
      refine locates_bind hempty fun node hnode => ?_
      rw [hnode]
      refine locates_bind locates_tagLiterals_mapOf_nil fun literals hliterals => ?_
      rw [hliterals]
      exact locates_report (hnames code)

/-- What the responses have contributed so far belongs to the document: the scope reports in it, and the
successful response is at hand. -/
structure PlacedOutcomes (s : Setting) (outcomes : Outcomes) : Prop where
  scope : outcomes.scope.document = s.document.name
  success : ∀ found, outcomes.success = some found → s.document.Leads found.pointer found.node

theorem PlacedOutcomes.withSuccess {outcomes : Outcomes} (h : PlacedOutcomes s outcomes)
    {success : Success} (hsuccess : s.document.Leads success.pointer success.node) :
    PlacedOutcomes s (outcomes.withSuccess success) := by
  unfold Outcomes.withSuccess
  split
  · split
    · refine ⟨h.scope, ?_⟩
      rintro _ ⟨⟩
      exact hsuccess
    · exact h
  · refine ⟨h.scope, ?_⟩
    rintro _ ⟨⟩
    exact hsuccess

theorem locates_response (hroot : s.document.root.IsJson level) {outcomes : Outcomes}
    (houtcomes : PlacedOutcomes s outcomes) {code : String} {declared : Value} (typeName : String)
    (h : s.document.Leads (Pointer.join pointer ["responses", code]) declared) :
    Locates s (response outcomes code declared typeName pointer) (PlacedOutcomes s) := by
  unfold response
  refine locates_ite (fun _ => ?_) fun _ => ?_
  · refine locates_bind locates_sourceName fun _ _ => ?_
    exact locates_bind (locates_note _) fun _ _ => locates_pure houtcomes
  · refine locates_bind (locates_statusCode _ h.names) fun status _ => ?_
    refine locates_bind (locates_resolve h) fun resolved hresolved => ?_
    rcases hresolved with ⟨hresolved, -⟩
    split
    · rename_i entries hnode
      refine locates_ite (fun _ => locates_pure (houtcomes.withSuccess hresolved)) fun _ => ?_
      have hentries := hnode ▸ hresolved
      refine locates_bind (locates_errorVariants hroot _ hentries houtcomes.scope) fun found hfound => ?_
      refine locates_bind_liftMisuse fun text _ => locates_pure ?_
      exact ⟨hfound, houtcomes.success⟩
    · exact locates_report (hresolved.names _)

theorem locates_responsesFrom (hroot : s.document.root.IsJson level) (typeName : String)
    {outcomes : Outcomes} (houtcomes : PlacedOutcomes s outcomes) {declared : List (Value × Value)}
    (h : ∀ e ∈ declared, ∀ code, e.1.shown = .ok code →
      s.document.Leads (Pointer.join pointer ["responses", code]) e.2) :
    Locates s (responsesFrom typeName pointer outcomes declared) (PlacedOutcomes s) := by
  induction declared generalizing outcomes with
  | nil => exact locates_pure houtcomes
  | cons entry rest ih =>
      obtain ⟨key, response⟩ := entry
      rcases List.forall_mem_cons.mp h with ⟨hfirst, hrest⟩
      unfold responsesFrom
      refine locates_bind_liftMisuse fun code hcode => ?_
      refine locates_bind (locates_response hroot houtcomes _ (hfirst code hcode)) fun next hnext => ?_
      exact ih hnext hrest

theorem locates_successType (hroot : s.document.root.IsJson level) {success : Option Success}
    (h : ∀ found, success = some found → s.document.Leads found.pointer found.node) (typeName : String)
    (taken : List (String × String)) :
    Locates s (successType success typeName taken) fun _ => True := by
  unfold successType
  split
  · exact locates_pure trivial
  · rename_i found
    have hleads := leadsToEntries_of_leads (h found rfl)
    refine locates_bind (locates_jsonContent hroot hleads _ _) fun content hcontent => ?_
    split
    · exact locates_pure trivial
    · have hplaced := (hcontent _ rfl).symm.imp_left And.left
      exact locates_reserving (locates_model hroot _ _ _ hplaced)

/-- The responses of an operation; where none are declared, none have errors. -/
theorem locates_responses (hroot : s.document.root.IsJson level) {declared : Value}
    (h : declared = Value.mapOf [] ∨ s.document.Leads (Pointer.join pointer ["responses"]) declared)
    {node : Value} (hpointer : s.document.Leads pointer node) (id typeName : String)
    (taken : List (String × String)) :
    Locates s (responses declared id typeName pointer taken) fun _ => True := by
  unfold responses
  split
  · rename_i entries
    refine locates_bind (locates_newScope _) fun scope hscope => ?_
    have hstart : PlacedOutcomes s ⟨scope, none, [], []⟩ := ⟨hscope, nofun⟩
    rcases h with hempty | hleads
    · cases hempty
      have hkept : Locates s (responsesFrom typeName pointer ⟨scope, none, [], []⟩ [])
          fun outcomes => outcomes = ⟨scope, none, [], []⟩ := locates_pure rfl
      refine locates_bind hkept fun outcomes houtcomes => ?_
      rw [houtcomes]
      have hnone : ∀ found, (none : Option Success) = some found →
          s.document.Leads found.pointer found.node := nofun
      exact locates_bind (locates_successType hroot hnone _ _) fun type _ => locates_pure trivial
    · have hplaces : ∀ e ∈ entries, ∀ code, e.1.shown = .ok code →
          s.document.Leads (Pointer.join pointer ["responses", code]) e.2 := by
        intro e he code hcode
        rw [Pointer.join_cons]
        exact hleads.member hroot he hcode
      refine locates_bind (locates_responsesFrom hroot _ hstart hplaces) fun outcomes houtcomes => ?_
      refine locates_ite (fun _ => ?_) fun _ => ?_
      · refine locates_bind (locates_successType hroot houtcomes.success _ _) fun type _ => ?_
        exact locates_pure trivial
      · refine locates_bind (locates_successType hroot houtcomes.success _ _) fun type _ => ?_
        exact locates_bind (locates_registerDefinition hleads) fun _ _ => locates_pure trivial
  · exact locates_report (hpointer.names _)

/-! ## Operations and routes -/

/-- What is declared under a key of an object at hand, or an empty value in its place. -/
theorem leads_orElse (h : s.document.Leads pointer (.map loop entries)) (key : String) (fallback : Value) :
    (Value.entry entries key).orElse fallback = fallback ∨
      s.document.Leads (Pointer.join pointer [key]) ((Value.entry entries key).orElse fallback) := by
  by_cases hgiven : (Value.entry entries key).isGiven = true
  · rw [Value.orElse_of_isGiven hgiven]
    exact .inr (h.entry key fun hnull => by simp [hnull, Value.isGiven] at hgiven)
  · exact .inl (Value.orElse_of_not_isGiven (Bool.eq_false_iff.mpr hgiven) fallback)

/-- The operation that a method declares; what it is declared by has entries. -/
theorem locates_operation (hroot : s.document.root.IsJson level) (path : String) (method : Method)
    {declared inherited : Value} {itemPointer : String}
    (h : s.document.Leads (Pointer.join itemPointer [method.name]) declared)
    (hinherited : inherited = Value.listOf [] ∨
      s.document.Leads (Pointer.join itemPointer ["parameters"]) inherited) :
    Locates s (operation path method declared inherited itemPointer)
      fun _ => ∃ loop entries, declared = .map loop entries := by
  unfold operation
  dsimp only
  split
  · rename_i loop entries
    refine locates_join (fun _ => locates_liftMisuse fun _ _ => trivial) (fun _ => locates_pure trivial)
      fun id (_ : True) => ?_
    refine locates_bind (locates_parameters hinherited) fun fromItem hfromItem => ?_
    refine locates_bind (locates_parameters (leads_orElse h "parameters" _)) fun own hown => ?_
    have hall : ∀ p ∈ Parameter.merged fromItem own, Placed s p := fun p hp =>
      (Parameter.mem_merged_iff.mp hp).elim (fun hp => hfromItem p hp.1) (hown p)
    refine locates_bind (locates_parameterRecord hroot hall _ _ h) fun pathType _ => ?_
    refine locates_bind (locates_parameterRecord hroot hall _ _ h) fun queryType _ => ?_
    have hbody := (Classical.em (Value.entry entries "requestBody" = .null)).imp_right
      (h.entry "requestBody")
    refine locates_bind (locates_requestBody hroot hbody _) fun body _ => ?_
    refine locates_bind (locates_responses hroot (leads_orElse h "responses" _) h _ _ _) fun types _ => ?_
    exact locates_bind locates_textField fun doc _ => locates_pure ⟨_, _, rfl⟩
  · exact locates_report (h.names _)

/-- The id of an operation at hand is at hand, or it is missing. -/
theorem names_operationId (h : s.document.Leads pointer (.map loop entries))
    (id earlier method path : String) :
    s.document.Names (.duplicateOperationId id earlier method path)
      (Pointer.join pointer ["operationId"]) := by
  cases hid : Value.lookup? "operationId" entries with
  | some v => exact (h.lookup hid).names _
  | none =>
      rcases h with hfound | hastray
      · refine .inr (.operationId _ _ _ _ hfound ?_)
        simp [Value.entries?, Value.hasEntry, hid]
      · exact .inl ⟨.null, .inr (.deeper _ hastray)⟩

theorem locates_route (hroot : s.document.root.IsJson level) (table : RouteTable) (path : String)
    (method : Method) {declared inherited : Value} {itemPointer : String}
    (h : s.document.Leads (Pointer.join itemPointer [method.name]) declared)
    (hinherited : inherited = Value.listOf [] ∨
      s.document.Leads (Pointer.join itemPointer ["parameters"]) inherited) :
    Locates s (route table path method declared inherited itemPointer) fun _ => True := by
  unfold route
  dsimp only
  split
  · exact locates_report (h.names _)
  · refine locates_bind (locates_operation hroot _ _ h hinherited) fun built hbuilt => ?_
    rcases hbuilt with ⟨loop, entries, hdeclared⟩
    split
    · exact locates_report (names_operationId (hdeclared ▸ h) _ _ _ _)
    · exact locates_pure trivial

theorem locates_itemRoutes (hroot : s.document.root.IsJson level) (path : String) {inherited : Value}
    {itemPointer : String} (hinherited : inherited = Value.listOf [] ∨
      s.document.Leads (Pointer.join itemPointer ["parameters"]) inherited)
    (table : RouteTable) {entries : List (Value × Value)}
    (h : ∀ e ∈ entries, ∀ name, e.1 = .text name → s.document.Leads (Pointer.join itemPointer [name]) e.2) :
    Locates s (itemRoutes path inherited itemPointer table entries) fun _ => True := by
  induction entries generalizing table with
  | nil => exact locates_pure trivial
  | cons entry rest ih =>
      obtain ⟨key, declared⟩ := entry
      rcases List.forall_mem_cons.mp h with ⟨hfirst, hrest⟩
      unfold itemRoutes
      dsimp only
      split <;> rename_i hmethod
      · rename_i method
        have hkey : key = .text method.name := by
          split at hmethod
          · rw [Method.ofName?_eq_some_iff.mp hmethod]
          · cases hmethod
        refine locates_bind (locates_route hroot _ _ _ (hfirst _ hkey) hinherited) fun next _ => ?_
        exact ih next hrest
      · exact locates_bind (locates_pure trivial) fun next (_ : True) => ih next hrest

/-- The entries of a path item are at hand, or their pointers lie below a reference. -/
theorem leads_pathItem {path : String} {item : Value}
    (h : s.document.Leads (Pointer.join "#/paths" [path]) item) {resolved : Resolved}
    (hplace : item.reference? = none → resolved = ⟨item, none, Pointer.join "#/paths" [path]⟩)
    (hnode : resolved.node = .map loop entries) :
    s.document.Leads (Pointer.join "#/paths" [path]) (.map loop entries) ∨
      ∀ key v, s.document.Leads (Pointer.join (Pointer.join "#/paths" [path]) [key]) v := by
  cases href : item.reference? with
  | none =>
      rw [hplace href] at hnode
      exact .inl (hnode ▸ h)
  | some target =>
      refine .inr fun key v => .inr ?_
      rcases h with hfound | hastray
      · exact .reference key (.pathItem path) hfound (by rw [href]; rfl)
      · exact .deeper key hastray

theorem locates_pathRoutes (hroot : s.document.root.IsJson level) (table : RouteTable)
    {paths : List (Value × Value)} (h : ∀ e ∈ paths, ∀ path, e.1.shown = .ok path →
      s.document.Leads (Pointer.join "#/paths" [path]) e.2) :
    Locates s (pathRoutes table paths) fun _ => True := by
  induction paths generalizing table with
  | nil => exact locates_pure trivial
  | cons entry rest ih =>
      obtain ⟨key, item⟩ := entry
      rcases List.forall_mem_cons.mp h with ⟨hfirst, hrest⟩
      unfold pathRoutes
      refine locates_bind_liftMisuse fun path hpath => ?_
      have hitem := hfirst path hpath
      refine locates_bind (locates_resolve hitem) fun resolved hresolved => ?_
      rcases hresolved with ⟨-, hplace⟩
      dsimp only
      split
      · rename_i loop entries hnode
        have hentries := leads_pathItem hitem hplace hnode
        refine locates_bind (locates_itemRoutes hroot _ ?_ _ ?_) fun next _ => ih next hrest
        · rcases hentries with hleads | hanywhere
          · exact leads_orElse hleads "parameters" _
          · exact .inr (hanywhere _ _)
        · intro e he name hname
          rcases hentries with hleads | hanywhere
          · exact hleads.member hroot he (hname ▸ rfl)
          · exact hanywhere _ _
      · exact locates_bind (locates_report (hitem.names _)) fun next (_ : True) => ih next hrest

/-- The paths of a document are at hand. -/
theorem leads_paths {v : Value} (hrootEntries : s.document.root = .map loop entries)
    (hv : Value.lookup? "paths" entries = some v) : s.document.Leads "#/paths" v := by
  have hstart : ("#/paths" : String).startsWith "#/" = true := by simp
  have hsegments : Pointer.segments "#/paths" = ["paths"] := by decide
  refine .inl ?_
  rw [Document.lookup_of_startsWith hstart, hsegments, hrootEntries]
  simp [Document.walk, Document.child?, hv]

/-- The walk over a document reports at places of it. -/
theorem locates_routes (hroot : s.document.root.IsJson level) : Locates s routes fun _ => True := by
  have hread : Locates s (read : Modeling Setting) fun setting => setting = s :=
    fun w => ⟨fun _ _ hrun => (Except.ok.inj (congrArg Prod.fst hrun)).symm, fun _ _ hrun => by cases hrun⟩
  unfold routes
  refine locates_bind hread fun setting hsetting => ?_
  rw [hsetting]
  refine locates_bind (locates_entriesFor _ _) fun entries hentries => ?_
  rcases hentries with ⟨loop, hentries⟩
  have hpaths : (Value.entry entries "paths").orElse (Value.mapOf []) = Value.mapOf [] ∨
      s.document.Leads "#/paths" ((Value.entry entries "paths").orElse (Value.mapOf [])) := by
    by_cases hgiven : (Value.entry entries "paths").isGiven = true
    · rw [Value.orElse_of_isGiven hgiven]
      cases hfound : Value.lookup? "paths" entries with
      | none => simp [Value.entry, hfound, Value.isGiven] at hgiven
      | some v =>
          rw [Value.entry_of_lookup? hfound]
          exact .inr (leads_paths hentries hfound)
    · exact .inl (Value.orElse_of_not_isGiven (Bool.eq_false_iff.mpr hgiven) _)
  split
  · rename_i mark paths heq
    rw [heq] at hpaths
    have hplaces : ∀ e ∈ paths, ∀ path, e.1.shown = .ok path →
        s.document.Leads (Pointer.join "#/paths" [path]) e.2 := by
      intro e he path hshown
      rcases hpaths with hempty | hleads
      · cases hempty
        cases he
      · exact hleads.member hroot he hshown
    exact locates_bind (locates_pathRoutes hroot _ hplaces) fun table _ => locates_pure trivial
  · rename_i hnoMap
    rcases hpaths with hempty | hleads
    · exact absurd hempty (hnoMap _ _)
    · exact locates_report (hleads.names _)

end Modeling

/-! ## Documents that are refused -/

namespace Version

/-- Putting a version together reports nothing. -/
theorem ofChecked_ne_report {number : Checked Int} {source : String} {specFile : Checked String}
    {definitions : List Definition} {routes : List VersionRoute} {r : Report} :
    ofChecked number source specFile definitions routes ≠ .error (.report r) := by
  intro h
  unfold ofChecked Checked.toExcept at h
  dsimp only at h
  split at h <;> cases h

/-- What is reported about the document of a JSON text that no version is built from bears the name of
the document and a pointer to one of its nodes. Three kinds of pointers need not lead to a node: those below
a reference that stands for a path item or a media type, those to items with very long numbers, and those
to what the problem is about although it is missing. -/
theorem located_of_build {root : Value} {level : Nat} (hroot : root.IsJson level) {number : Int}
    {source : String} {specFile : Option String} {reserved : List String} {r : Report}
    (h : (build root number source specFile reserved).1 = .error (.report r)) :
    r.document = some source ∧ ∃ pointer, r.pointer = some pointer ∧
      ((∃ node, (Document.mk root (some source)).lookup (.text pointer) none = .ok node) ∨
        (Document.mk root (some source)).Astray pointer ∨
        (Document.mk root (some source)).Misses r.problem pointer) := by
  let setting : Setting := ⟨⟨root, some source⟩, reserved⟩
  have hlocates : Modeling.Locates setting Modeling.routes fun _ => True := Modeling.locates_routes hroot
  unfold build buildAs at h
  dsimp only at h
  split at h <;> rename_i hrun
  · cases h
    rcases (hlocates _).2 r _ hrun with ⟨hdocument, pointer, hpointer, hnames⟩
    refine ⟨hdocument, pointer, hpointer, ?_⟩
    rcases hnames with ⟨node, hfound | hastray⟩ | hmisses
    · exact .inl ⟨node, hfound⟩
    · exact .inr (.inl hastray)
    · exact .inr (.inr hmisses)
  · exact absurd h ofChecked_ne_report

/-- What is reported about a document that no version is built from. -/
def reported? : Except Failure Version → Option Report
  | .error (.report r) => some r
  | _ => none

theorem eq_error_of_reported? {outcome : Except Failure Version} {r : Report}
    (h : reported? outcome = some r) : outcome = .error (.report r) := by
  unfold reported? at h
  split at h
  · rw [Option.some.inj h]
  · cases h

/-- A document with a component two of whose properties have one identifier. -/
def ambiguousDocument : Value :=
  schemaDocument [("pet", componentReference "Pet")]
    [("Pet", .object [("properties", .object [
      ("given name", .object [("type", .text "string")]),
      ("given_name", .object [("type", .text "string")])])])]

/-- A document with a path item under a reference, one of whose operations is no object. -/
def misplacedDocument : Value :=
  .object [
    ("paths", .object [("/a", .object [("$ref", .text "#/components/pathItems/A")])]),
    ("components", .object [("pathItems", .object [("A", .object [("get", .int 5)])])])]

/-- What is reported about the two documents: the second one of the properties, and the path of the item. -/
theorem pointers_of_refused :
    (reported? (build ambiguousDocument 1 "api_v1.yaml" none []).1).any
      (fun r => r.pointer == some "#/components/schemas/Pet/properties/given_name") = true ∧
    (reported? (build misplacedDocument 1 "api_v1.yaml" none []).1).any
      (fun r => r.pointer == some "#/paths/~1a/get") = true := by
  decide +kernel

/-- The second one of two properties with one identifier is the place of the report. -/
theorem located_of_ambiguousDocument :
    ambiguousDocument.IsJson 10 ∧ ∃ r,
      (build ambiguousDocument 1 "api_v1.yaml" none []).1 = .error (.report r) ∧
      r.pointer = some "#/components/schemas/Pet/properties/given_name" ∧ r.document = some "api_v1.yaml" ∧
      ∃ pointer, r.pointer = some pointer ∧
        ((∃ node, (Document.mk ambiguousDocument (some "api_v1.yaml")).lookup (.text pointer) none =
            .ok node) ∨
          (Document.mk ambiguousDocument (some "api_v1.yaml")).Astray pointer ∨
          (Document.mk ambiguousDocument (some "api_v1.yaml")).Misses r.problem pointer) := by
  have hjson : ambiguousDocument.IsJson 10 := Value.isJson_of_isJsonWithin (by decide)
  obtain ⟨hambiguous, -⟩ := pointers_of_refused
  rcases (Option.any_eq_true _ _).mp hambiguous with ⟨r, hr, hpointer⟩
  have hreport := eq_error_of_reported? hr
  have hlocated := located_of_build hjson hreport
  exact ⟨hjson, r, hreport, beq_iff_eq.mp hpointer, hlocated⟩

/-- A report about a path item under a reference may point to where nothing is. -/
theorem lost_pointer_of_misplacedDocument :
    misplacedDocument.IsJson 10 ∧ ∃ r,
      (build misplacedDocument 1 "api_v1.yaml" none []).1 = .error (.report r) ∧
      r.pointer = some "#/paths/~1a/get" ∧
      ∀ place node, (Document.mk misplacedDocument (some "api_v1.yaml")).lookup
        (.text "#/paths/~1a/get") place ≠ .ok node := by
  have hjson : misplacedDocument.IsJson 10 := Value.isJson_of_isJsonWithin (by decide)
  obtain ⟨-, hmisplaced⟩ := pointers_of_refused
  have hlost : ((Document.mk misplacedDocument (some "api_v1.yaml")).lookup
      (.text "#/paths/~1a/get") none).toOption.isNone = true := by
    rw [Document.lookup_of_startsWith (by simp),
      (by decide : Pointer.segments "#/paths/~1a/get" = ["paths", "/a", "get"])]
    rfl
  rcases (Option.any_eq_true _ _).mp hmisplaced with ⟨r, hr, hpointer⟩
  refine ⟨hjson, r, eq_error_of_reported? hr, beq_iff_eq.mp hpointer, fun place node hfound => ?_⟩
  rw [Document.lookup_eq_ok_of_place hfound none] at hlost
  cases hlost

end Version
end VersionedApi
