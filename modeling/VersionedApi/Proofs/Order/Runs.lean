import VersionedApi.Proofs.Order.Schemas
import VersionedApi.Proofs.Version.Routes

/-!
# Operations of a document in another order

An operation that is modeled in the second document follows the same one in the first: its parameters, its
body and its responses have the same types, and register the same definitions. The walk over the paths of a
document models one operation after the other. Two walks that succeed, over documents that declare the same
operations, find the same routes and the same definitions: each operation that the second walk models was
modeled by the first one.

Main results:

- `follows_operation`: an operation, made of `follows_parameterRecord`, `follows_requestBody` and
  `follows_responses`;
- `Document.Declares`: the operations that the paths of a document declare;
- `Modeling.Performs`: the operations that a walk models, one after the other, and their routes;
- `models_pathRoutes` and `performs_of_routes`: a walk models the operations that its paths declare;
- `Performs.returns` and `Performs.subset`: what the first walk has done, and what the second one can do;
- `subset_of_routes`: routes and definitions of two walks.
-/

namespace VersionedApi

/-! ## Operations -/

namespace Modeling

variable {α β : Type} {s s' : Setting}

/-- The two parts of a choice may read a value in different ways and go on in the same one. -/
theorem follows_join_reading {condition : Prop} [Decidable condition] {x y : Modeling α}
    {f g : α → Modeling β} {known known' : α → Prop} (hx : OnlyNotes x) (hx' : Reads s s' x known)
    (hy : OnlyNotes y) (hy' : Reads s s' y known') (hf : ∀ a, Follows s s' (f a) (g a)) :
    Follows s s' (if condition then x >>= f else y >>= f) (if condition then x >>= g else y >>= g) :=
  follows_ite (fun _ => follows_bind_reading hx hx' fun a _ => hf a) fun _ =>
    follows_bind_reading hy hy' fun a _ => hf a

theorem follows_model (h : s.Alike s') : Recur.Follows s s' model model :=
  follows_modelWithin h _ _

/-! ### Parameters and bodies -/

theorem follows_parameterProperties (h : s.Alike s') (name : String) (scope : Scope)
    {all : List Parameter} (hall : ∀ p ∈ all, p.Within s.document) :
    Follows s s' (parameterProperties name scope all) (parameterProperties name scope all) := by
  induction all generalizing scope with
  | nil => exact follows_pure _
  | cons parameter rest ih =>
      rcases List.forall_mem_cons.mp hall with ⟨hparameter, hrest⟩
      unfold parameterProperties
      refine follows_bind_reading (onlyNotes_propertyIdentifier _) (reads_propertyIdentifier h _)
        fun identifier _ => ?_
      refine follows_bind_reading (onlyNotes_lift _) (reads_lift _) fun next _ => ?_
      refine follows_bind_reading (onlyNotes_parameterSchema _) (reads_parameterSchema h hparameter)
        fun placed hplaced => ?_
      refine follows_bind (follows_field h (follows_model h) hplaced _ _ _ _) fun type => ?_
      refine follows_bind (follows_property _ _ _) fun first => ?_
      exact follows_bind (ih next hrest) fun others => follows_pure _

theorem follows_parameterRecord (h : s.Alike s') {all : List Parameter}
    (hall : ∀ p ∈ all, p.Within s.document) (location : Location) (name pointer : String) :
    Follows s s' (parameterRecord all location name pointer)
      (parameterRecord all location name pointer) := by
  unfold parameterRecord
  split
  · exact follows_pure _
  · refine follows_bind_reading (onlyNotes_newScope _) (reads_newScope h _) fun scope _ => ?_
    refine follows_bind (follows_parameterProperties h _ _ fun p hp => ?_) fun properties => ?_
    · exact hall p (List.mem_of_mem_filter hp)
    · exact follows_bind (follows_registerRecord _ _ _ _) fun _ => follows_pure _

theorem follows_requestBody (h : s.Alike s') {declared : Value}
    (hdeclared : s.document.RefersWithin declared) (name pointer : String) :
    Follows s s' (requestBody declared name pointer) (requestBody declared name pointer) := by
  unfold requestBody
  refine follows_ite (fun _ => follows_pure _) fun _ => ?_
  refine follows_bind_reading (onlyNotes_resolve _ _) (reads_resolve h hdeclared _)
    fun resolved hresolved => ?_
  refine follows_bind_reading (onlyNotes_jsonContent _ _ _ _)
    (reads_jsonContent h hresolved.within _ _ _) fun content hcontent => ?_
  split
  · exact follows_report _ _
  · exact follows_bind (follows_model h _ _ _ (hcontent _ rfl)) fun type => follows_pure _

/-! ### Responses -/

theorem follows_successType (h : s.Alike s') {outcomes : Outcomes}
    (houtcomes : outcomes.Within s.document) (typeName : String) (taken : List (String × String)) :
    Follows s s' (successType outcomes.success typeName taken)
      (successType outcomes.success typeName taken) := by
  unfold successType
  split <;> rename_i hsuccess
  · exact follows_pure _
  · refine follows_bind_reading (onlyNotes_jsonContent _ _ _ _)
      (reads_jsonContent h (houtcomes _ hsuccess) _ _ _) fun content hcontent => ?_
    split
    · exact follows_pure _
    · exact follows_reserving (follows_model h _ _ _ (hcontent _ rfl))

theorem follows_responses (h : s.Alike s') {declared : Value}
    (hdeclared : s.document.RefersWithin declared) (operationId typeName pointer : String)
    (taken : List (String × String)) :
    Follows s s' (responses declared operationId typeName pointer taken)
      (responses declared operationId typeName pointer taken) := by
  unfold responses
  split
  · refine follows_bind_reading (onlyNotes_newScope _) (reads_newScope h _) fun scope _ => ?_
    refine follows_bind_reading (onlyNotes_responsesFrom _ _ _ _)
      (reads_responsesFrom h _ _ (fun _ hnone => by cases hnone) fun entry hentry =>
        hdeclared.value hentry) fun outcomes houtcomes => ?_
    refine follows_ite (fun _ => ?_) fun _ => ?_
    · exact follows_bind (follows_successType h houtcomes _ _) fun type => follows_pure _
    · refine follows_bind (follows_successType h houtcomes _ _) fun type => ?_
      exact follows_bind (follows_registerDefinition _ _) fun _ => follows_pure _
  · exact follows_report _ _

/-! ### Operations -/

theorem follows_operation (h : s.Alike s') (path : String) (method : Method) {declared inherited : Value}
    (hdeclared : s.document.RefersWithin declared) (hinherited : s.document.RefersWithin inherited)
    (itemPointer : String) : Follows s s' (operation path method declared inherited itemPointer)
      (operation path method declared inherited itemPointer) := by
  unfold operation
  dsimp only
  split
  · refine follows_join_reading (onlyNotes_liftMisuse _) (reads_liftMisuse _) (onlyNotes_pure _)
      (reads_pure trivial : Reads s s' _ fun _ => True) fun id => ?_
    refine follows_bind_reading (onlyNotes_parameters _ _) (reads_parameters h hinherited _)
      fun fromItem hfromItem => ?_
    have hown := (hdeclared.entry "parameters").orElse Document.refersWithin_listOf_nil
    refine follows_bind_reading (onlyNotes_parameters _ _) (reads_parameters h hown _)
      fun own hown => ?_
    have hall : ∀ p ∈ Parameter.merged fromItem own, p.Within s.document := by
      intro p hp
      rcases Parameter.mem_merged_iff.mp hp with ⟨hp, -⟩ | hp
      · exact hfromItem p hp
      · exact hown p hp
    refine follows_bind (follows_parameterRecord h hall _ _ _) fun pathType => ?_
    refine follows_bind (follows_parameterRecord h hall _ _ _) fun queryType => ?_
    refine follows_bind (follows_requestBody h (hdeclared.entry _) _ _) fun body => ?_
    have hresponses := (hdeclared.entry "responses").orElse Document.refersWithin_mapOf_nil
    refine follows_bind (follows_responses h hresponses _ _ _ _) fun result => ?_
    exact follows_bind_reading (onlyNotes_lift _) (reads_lift _) fun doc _ => follows_pure _
  · exact follows_report _ _

end Modeling

/-! ## Runs -/

/-- An operation that a document declares: its path and its method, what is declared, the parameters that
it inherits, and the place of its path item. -/
structure Call where
  path : String
  method : Method
  declared : Value
  inherited : Value
  place : String

/-- Models the operation. -/
def Call.run (c : Call) : Modeling Operation :=
  Modeling.operation c.path c.method c.declared c.inherited c.place

/-- The route of the operation. -/
def Call.route (c : Call) (o : Operation) : VersionRoute :=
  ⟨c.path, c.method, o⟩

/-- An operation is declared by an entry of a path item with given parameters. -/
structure Call.DeclaredBy (c : Call) (path : String) (inherited : Value) (place : String)
    (entries : List (Value × Value)) : Prop where
  path : c.path = path
  inherited : c.inherited = inherited
  place : c.place = place
  declared : (.text c.method.name, c.declared) ∈ entries

/-- The first entry declares the operation, or another one does. -/
theorem Call.declaredBy_cons_iff {c : Call} {path place : String} {inherited key declared : Value}
    {rest : List (Value × Value)} :
    c.DeclaredBy path inherited place ((key, declared) :: rest) ↔
      (key = .text c.method.name ∧ c = ⟨path, c.method, declared, inherited, place⟩) ∨
        c.DeclaredBy path inherited place rest := by
  constructor
  · rintro ⟨rfl, rfl, rfl, hmem⟩
    rcases List.mem_cons.mp hmem with heq | hmem
    · cases heq
      exact .inl ⟨rfl, rfl⟩
    · exact .inr ⟨rfl, rfl, rfl, hmem⟩
  · rintro (⟨rfl, hc⟩ | ⟨rfl, rfl, rfl, hmem⟩)
    · rw [hc]
      exact ⟨rfl, rfl, rfl, List.mem_cons_self⟩
    · exact ⟨rfl, rfl, rfl, List.mem_cons_of_mem _ hmem⟩

/-- The parameters that a path item gives to its operations. -/
def itemParameters (entries : List (Value × Value)) : Value :=
  (Value.entry entries "parameters").orElse (Value.listOf [])

/-- The references of a node lead to a place, if nothing is being visited that must not be met again. -/
def Document.LeadsTo (d : Document) (node : Value) (pointer : String) (r : Resolved) : Prop :=
  ∃ visits fuel, d.follow visits fuel [] ⟨node, none, pointer⟩ = .ok r

/-- A path item declares an operation, with its references followed. -/
def Document.ItemDeclares (d : Document) (entry : Value × Value) (c : Call) : Prop :=
  ∃ path resolved loop entries, entry.1.shown = .ok path ∧
    d.LeadsTo entry.2 (Pointer.join "#/paths" [path]) resolved ∧ resolved.node = .map loop entries ∧
    c.DeclaredBy path (itemParameters entries) (Pointer.join "#/paths" [path]) entries

/-- The path items of a document declare an operation. -/
def Document.Declares (d : Document) (paths : List (Value × Value)) (c : Call) : Prop :=
  ∃ entry ∈ paths, d.ItemDeclares entry c

/-- The path items of a document. -/
def Document.HasPaths (d : Document) (paths : List (Value × Value)) : Prop :=
  ∃ loop entries inner, d.root = .map loop entries ∧
    (Value.entry entries "paths").orElse (Value.mapOf []) = .map inner paths

/-- The path items of a document refer to nothing but what the document refers to. -/
theorem Document.HasPaths.within {d : Document} {paths : List (Value × Value)} (h : d.HasPaths paths) :
    ∀ entry ∈ paths, d.RefersWithin entry.2 := by
  rcases h with ⟨loop, entries, inner, hroot, hpaths⟩
  have hwithin : d.RefersWithin (.map loop entries) := hroot ▸ refersWithin_part (Value.mem_parts_self _)
  have hitems := (hwithin.entry "paths").orElse refersWithin_mapOf_nil
  rw [hpaths] at hitems
  exact fun entry hentry => hitems.value hentry

/-- An operation that refers to nothing but what the document refers to. -/
structure Call.Within (c : Call) (d : Document) : Prop where
  declared : d.RefersWithin c.declared
  inherited : d.RefersWithin c.inherited

/-- The operations that a document declares refer to nothing but what it refers to. -/
theorem Document.Declares.within {d : Document} {paths : List (Value × Value)} {c : Call}
    (h : d.Declares paths c) (hpaths : ∀ entry ∈ paths, d.RefersWithin entry.2) : c.Within d := by
  rcases h with ⟨entry, hmem, path, resolved, loop, entries, -, ⟨visits, fuel, hfollow⟩, hnode, hc⟩
  have hwithin := (hpaths entry hmem).follow hfollow
  rw [hnode] at hwithin
  refine ⟨hwithin.value hc.declared, ?_⟩
  rw [hc.inherited]
  exact (hwithin.entry "parameters").orElse refersWithin_listOf_nil

namespace Modeling

variable {s s' : Setting}

/-- Operations are modeled one after the other, with the given routes. -/
inductive Performs (s : Setting) : Workspace → List Call → List VersionRoute → Workspace → Prop
  | none (w : Workspace) : Performs s w [] [] w
  | one {w mid after : Workspace} {c : Call} {o : Operation} {calls : List Call}
      {routes : List VersionRoute} (first : runStep s w c.run = (.ok o, mid))
      (rest : Performs s mid calls routes after) :
      Performs s w (c :: calls) (c.route o :: routes) after

theorem Performs.append {w mid after : Workspace} {calls calls' : List Call}
    {routes routes' : List VersionRoute} (h : Performs s w calls routes mid)
    (h' : Performs s mid calls' routes' after) :
    Performs s w (calls ++ calls') (routes ++ routes') after := by
  induction h with
  | none => exact h'
  | one first _ ih => exact .one first (ih h')

/-! ### Walks -/

/-- A walk that models the operations of which a property holds, and adds their routes. -/
def Models (s : Setting) (w : Workspace) (table result : RouteTable) (after : Workspace)
    (declares : Call → Prop) : Prop :=
  ∃ calls routes, result.routes = table.routes ++ routes ∧ Performs s w calls routes after ∧
    ∀ c, c ∈ calls ↔ declares c

theorem models_none {w : Workspace} {table : RouteTable} {declares : Call → Prop}
    (h : ∀ c, ¬declares c) : Models s w table table w declares :=
  ⟨[], [], (List.append_nil _).symm, .none w, fun c => by simp [h c]⟩

/-- A walk goes on where another one ends. -/
theorem Models.trans {w mid after : Workspace} {table next result : RouteTable}
    {declares declares' : Call → Prop} (h : Models s w table next mid declares)
    (h' : Models s mid next result after declares') :
    Models s w table result after fun c => declares c ∨ declares' c := by
  rcases h with ⟨calls, routes, hroutes, hperforms, hcalls⟩
  rcases h' with ⟨calls', routes', hroutes', hperforms', hcalls'⟩
  refine ⟨calls ++ calls', routes ++ routes', ?_, hperforms.append hperforms', fun c => ?_⟩
  · rw [hroutes', hroutes, List.append_assoc]
  · rw [List.mem_append, hcalls, hcalls']

/-- What is declared may be said in another way. -/
theorem Models.congr {w after : Workspace} {table result : RouteTable} {declares declares' : Call → Prop}
    (h : Models s w table result after declares) (heq : ∀ c, declares c ↔ declares' c) :
    Models s w table result after declares' := by
  rcases h with ⟨calls, routes, hroutes, hperforms, hcalls⟩
  exact ⟨calls, routes, hroutes, hperforms, fun c => (hcalls c).trans (heq c)⟩

variable {w after : Workspace} {table result : RouteTable}

/-- One route is that of its operation. -/
theorem models_route {path itemPointer : String} {method : Method} {declared inherited : Value}
    (h : runStep s w (route table path method declared inherited itemPointer) = (.ok result, after)) :
    Models s w table result after
      fun c => c = ⟨path, method, declared, inherited, itemPointer⟩ := by
  rcases route_eq_ok h with ⟨built, hbuilt, -, -, rfl⟩
  let c : Call := ⟨path, method, declared, inherited, itemPointer⟩
  exact ⟨[c], [c.route built], rfl, .one hbuilt (.none _), fun _ => List.mem_singleton⟩

/-- The routes of a path item are those of the operations that its entries declare. -/
theorem models_itemRoutes {path itemPointer : String} {inherited : Value}
    {entries : List (Value × Value)}
    (h : runStep s w (itemRoutes path inherited itemPointer table entries) = (.ok result, after)) :
    Models s w table result after fun c => c.DeclaredBy path inherited itemPointer entries := by
  induction entries generalizing table w with
  | nil =>
      rcases pure_eq_ok.mp h with ⟨rfl, rfl⟩
      exact models_none fun c hc => by cases hc.declared
  | cons entry rest ih =>
      obtain ⟨key, declared⟩ := entry
      rcases itemRoutes_cons_eq_ok h with ⟨method, next, mid, hkey, hnext, h⟩ | ⟨hkey, h⟩
      · refine ((models_route hnext).trans (ih h)).congr fun c => ?_
        rw [Call.declaredBy_cons_iff]
        refine or_congr_left ⟨?_, ?_⟩
        · rintro rfl
          exact ⟨hkey, rfl⟩
        · rintro ⟨hsame, hc⟩
          have hname : method = c.method := by
            have htext := Value.text.inj (hkey.symm.trans hsame)
            have hfound := congrArg Method.ofName? htext
            simpa using hfound
          rw [hc, hname]
      · refine (ih h).congr fun c => ?_
        rw [Call.declaredBy_cons_iff, or_iff_right]
        exact fun hc => hkey _ hc.1

/-- The operations that one path item declares, where its references lead. -/
theorem itemDeclares_iff {d : Document} {key item : Value} {path : String} {visits : Visits}
    {resolved : Resolved} {loop : Option Mark} {entries : List (Value × Value)} {c : Call}
    (hpath : key.shown = .ok path)
    (hresolved : d.resolve visits item (Pointer.join "#/paths" [path]) = .ok resolved)
    (hnode : resolved.node = .map loop entries) :
    d.ItemDeclares (key, item) c ↔
      c.DeclaredBy path (itemParameters entries) (Pointer.join "#/paths" [path]) entries := by
  rcases Document.exists_follow_of_resolve hresolved with ⟨fuel, hfollow⟩
  constructor
  · rintro ⟨path', resolved', loop', entries', hpath', ⟨visits', fuel', hfollow'⟩, hnode', hc⟩
    cases hpath.symm.trans hpath'
    obtain rfl := Document.follow_unique hfollow hfollow'
    cases hnode.symm.trans hnode'
    exact hc
  · exact fun hc => ⟨path, resolved, loop, entries, hpath, ⟨visits, fuel, hfollow⟩, hnode, hc⟩

/-- The first path item declares an operation, or another one does. -/
theorem declares_cons_iff {d : Document} {entry : Value × Value} {rest : List (Value × Value)} {c : Call} :
    d.Declares (entry :: rest) c ↔ d.ItemDeclares entry c ∨ d.Declares rest c :=
  List.exists_mem_cons_iff (d.ItemDeclares · c) entry rest

/-- The routes of a document are those of the operations that its paths declare. -/
theorem models_pathRoutes {paths : List (Value × Value)}
    (h : runStep s w (pathRoutes table paths) = (.ok result, after)) :
    Models s w table result after (s.document.Declares paths) := by
  induction paths generalizing table w with
  | nil =>
      rcases pure_eq_ok.mp h with ⟨rfl, rfl⟩
      exact models_none fun c ⟨_, hmem, _⟩ => by cases hmem
  | cons entry rest ih =>
      obtain ⟨key, item⟩ := entry
      rcases pathRoutes_cons_eq_ok h with
        ⟨path, resolved, loop, entries, next, mid, hpath, hend, hnode, hnext, h⟩
      refine ((models_itemRoutes hnext).trans (ih h)).congr fun c => ?_
      exact (or_congr_left (itemDeclares_iff hpath hend hnode).symm).trans declares_cons_iff.symm

/-! ### Two walks -/

/-- Whatever the first walk goes on to do, its operations are returned by a second one. -/
theorem Performs.returns (h : s.Alike s') {calls : List Call} {routes : List VersionRoute}
    (hperforms : Performs s w calls routes after) (hsettled : Settled s s' w)
    (hcalls : ∀ c ∈ calls, c.Within s.document) :
    w.Kept after ∧ ∀ later, after.Kept later → ∀ c ∈ calls, ∃ o,
      c.route o ∈ routes ∧ Returns s' later c.run o := by
  induction hperforms with
  | none w => exact ⟨.refl w, fun _ _ c hc => by cases hc⟩
  | @one w mid after c o calls routes first rest ih =>
      rcases List.forall_mem_cons.mp hcalls with ⟨hc, hothers⟩
      rcases follows_operation h _ _ hc.declared hc.inherited _ w o mid hsettled first with
        ⟨hgrows, hmid, hreturns⟩
      rcases ih hmid hothers with ⟨hkept, hrest⟩
      refine ⟨hgrows.kept.trans hkept, fun later hlater => List.forall_mem_cons.mpr ⟨?_, fun c hc => ?_⟩⟩
      · exact ⟨o, List.mem_cons_self, hreturns later (hkept.trans hlater)⟩
      · rcases hrest later hlater c hc with ⟨o', ho', hreturns'⟩
        exact ⟨o', List.mem_cons_of_mem _ ho', hreturns'⟩

/-- A second walk over operations that are returned finds the routes of the first one only, and nothing
that is not accounted for. -/
theorem Performs.subset {later w' after' : Workspace} {calls : List Call}
    {routes routes' : List VersionRoute} (hperforms : Performs s' w' calls routes' after')
    (haccounts : later.AccountsFor w')
    (hreturns : ∀ c ∈ calls, ∃ o, c.route o ∈ routes ∧ Returns s' later c.run o) :
    routes' ⊆ routes ∧ later.AccountsFor after' := by
  induction hperforms with
  | none => exact ⟨List.nil_subset _, haccounts⟩
  | one first _ ih =>
      rcases List.forall_mem_cons.mp hreturns with ⟨⟨o, ho, hfirst⟩, hrest⟩
      rcases hfirst _ _ _ haccounts first with ⟨rfl, hmid⟩
      rcases ih hmid hrest with ⟨hsubset, hafter⟩
      exact ⟨List.cons_subset.mpr ⟨ho, hsubset⟩, hafter⟩

/-- The walk over a document models the operations that its path items declare. -/
theorem performs_of_routes {found : List VersionRoute}
    (h : runStep s w routes = (.ok found, after)) :
    ∃ paths calls, s.document.HasPaths paths ∧ Performs s w calls found after ∧
      ∀ c, c ∈ calls ↔ s.document.Declares paths c := by
  rcases routes_eq_ok h with ⟨loop, entries, inner, paths, table, hroot, hpaths, htable, rfl⟩
  have hhas : s.document.HasPaths paths := ⟨loop, entries, inner, hroot, hpaths⟩
  rcases models_pathRoutes htable with ⟨calls, routes, hroutes, hperforms, hcalls⟩
  rw [List.nil_append] at hroutes
  exact ⟨paths, calls, hhas, hroutes ▸ hperforms, hcalls⟩

/-- Two walks over documents whose references lead to the same nodes: if the first document declares all
operations that the second one declares, the second walk finds no other routes, and no definitions but
the same ones. -/
theorem subset_of_routes (h : s.Alike s') {w' after' : Workspace} {found found' : List VersionRoute}
    (hrun : runStep s w routes = (.ok found, after)) (hrun' : runStep s' w' routes = (.ok found', after'))
    (hsettled : Settled s s' w) (haccounts : after.AccountsFor w')
    (hdeclares : ∀ paths paths' c, s.document.HasPaths paths → s'.document.HasPaths paths' →
      s'.document.Declares paths' c → s.document.Declares paths c) :
    found' ⊆ found ∧ after.AccountsFor after' := by
  rcases performs_of_routes hrun with ⟨paths, calls, hpaths, hperforms, hcalls⟩
  rcases performs_of_routes hrun' with ⟨paths', calls', hpaths', hperforms', hcalls'⟩
  rcases hperforms.returns h hsettled (fun c hc => ((hcalls c).mp hc).within hpaths.within) with
    ⟨-, hreturns⟩
  refine hperforms'.subset haccounts fun c hc => hreturns after (.refl after) c ((hcalls c).mpr ?_)
  exact hdeclares paths paths' c hpaths hpaths' ((hcalls' c).mp hc)

end Modeling

end VersionedApi
