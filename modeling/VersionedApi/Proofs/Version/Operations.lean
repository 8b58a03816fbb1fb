import VersionedApi.Proofs.Modeling.Walks
import VersionedApi.Proofs.Version.Parameters
import VersionedApi.Proofs.Version.Responses

/-!
# Operations and what they declare

An operation is put together of its parameters, its body and its responses, one after the other, while one registry
grows. Its effective parameters are those of the path item that it does not override, followed by its own. Its
response type is that of the success with the lowest code, and all other codes make its error set.

Main definitions:

- `Call.parameters?`: the effective parameters of an operation, as the document tells them;
- `Modeling.Onward`: workspaces that the parts of an operation lead to.

Main results:

- `Modeling.parts_of_operation`: the steps that an operation takes;
- `Modeling.parameters_of_operation`: the records of its parameters, and which parameters are refused;
- `Modeling.responses_of_operation`: its response type and its error set.
-/

namespace VersionedApi

open Value (entry)

namespace Call

/-- What an operation declares under a key. -/
def entry (c : Call) (key : String) : Value :=
  Value.entry (c.declared.entries?.getD []) key

/-- The parameters that an operation declares itself. -/
def ownParameters (c : Call) : Value :=
  (c.entry "parameters").orElse (Value.listOf [])

/-- The responses that an operation declares. -/
def responses (c : Call) : Value :=
  (c.entry "responses").orElse (Value.mapOf [])

/-- The place of an operation. -/
def pointer (c : Call) : String :=
  Pointer.join c.place [c.method.name]

/-- The effective parameters of an operation: those of the path item whose name and location no parameter of its
own has, followed by its own. -/
def parameters? (c : Call) (d : Document) : Option (List Parameter) := do
  let fromItem ← d.parametersFrom? (Pointer.join c.place ["parameters"]) 0 c.inherited.listed
  let own ← d.parametersFrom? (Pointer.join c.pointer ["parameters"]) 0 c.ownParameters.listed
  return Parameter.merged fromItem own

end Call

namespace Modeling

variable {s : Setting} {w after : Workspace}

/-- An operation that is modeled takes these steps: the parameters of the path item and its own ones are read, then the
two records, the body and the responses are modeled. -/
theorem parts_of_operation {c : Call} {o : Operation} (h : runStep s w c.run = (.ok o, after)) :
    ∃ fromItem own w₁ w₂ w₃ w₄ w₅,
      runStep s w (parameters c.inherited (Pointer.join c.place ["parameters"])) = (.ok fromItem, w₁) ∧
      runStep s w₁ (parameters c.ownParameters (Pointer.join c.pointer ["parameters"])) = (.ok own, w₂) ∧
      runStep s w₂ (parameterRecord (Parameter.merged fromItem own) .path (Identifier.camel o.id ++ "Path")
        c.pointer) = (.ok o.pathParams, w₃) ∧
      runStep s w₃ (parameterRecord (Parameter.merged fromItem own) .query (Identifier.camel o.id ++ "Query")
        c.pointer) = (.ok o.queryParams, w₄) ∧
      runStep s w₄ (requestBody (c.entry "requestBody") (Identifier.camel o.id ++ "Body") c.pointer) =
        (.ok o.body, w₅) ∧
      runStep s w₅ (responses c.responses o.id (Identifier.camel o.id) c.pointer
        (ownNames o.id (Identifier.camel o.id) o.pathParams o.queryParams o.body)) =
          (.ok (o.response, o.error), after) := by
  obtain ⟨path, method, declared, inherited, place⟩ := c
  unfold Call.run operation at h
  cases declared with
  | map loop entries =>
      obtain ⟨id, w₀, hid, h⟩ := eq_ok_of_join h
      obtain ⟨fromItem, w₁, hfromItem, h⟩ := bind_eq_ok.mp h
      obtain ⟨own, w₂, hown, h⟩ := bind_eq_ok.mp h
      obtain ⟨pathType, w₃, hpath, h⟩ := bind_eq_ok.mp h
      obtain ⟨queryType, w₄, hquery, h⟩ := bind_eq_ok.mp h
      obtain ⟨body, w₅, hbody, h⟩ := bind_eq_ok.mp h
      obtain ⟨types, w₆, htypes, h⟩ := bind_eq_ok.mp h
      obtain ⟨doc, w₇, hdoc, h⟩ := bind_eq_ok.mp h
      obtain ⟨-, rfl⟩ := lift_eq_ok.mp hdoc
      obtain ⟨rfl, rfl⟩ := pure_eq_ok.mp h
      obtain rfl : w = w₀ := by
        split at hid
        · exact (lift_eq_ok.mp hid).2
        · exact (pure_eq_ok.mp hid).2
      exact ⟨fromItem, own, w₁, w₂, w₃, w₄, w₅, hfromItem, hown, hpath, hquery, hbody, htypes⟩
  | _ => exact absurd h report_ne_ok

/-! ## Workspaces along the way -/

/-- A workspace that the parts of an operation lead to: definitions have been added, the places being visited and the
reserved names are as before, and it is one that modeling leads to if the first one is. -/
structure Onward (s : Setting) (w after : Workspace) : Prop where
  registry : w.registry.Extends after.registry
  visits : after.visits = w.visits
  taken : after.taken = w.taken
  reached : Reached s w → Reached s after

theorem Onward.trans {mid : Workspace} (h : Onward s w mid) (h' : Onward s mid after) : Onward s w after :=
  ⟨h.registry.trans h'.registry, h'.visits.trans h.visits, h'.taken.trans h.taken, h'.reached ∘ h.reached⟩

/-- Notes change nothing else. -/
theorem onward_log (log : List Diagnostic) : Onward s w { w with log := log } :=
  ⟨.refl _, rfl, rfl, fun hw => hw.grown rfl (.refl _) fun _ he => .inl he⟩

theorem onward_parameterRecord {all : List Parameter} {location : Location} {name pointer : String}
    {record : Option String}
    (h : runStep s w (parameterRecord all location name pointer) = (.ok record, after)) : Onward s w after := by
  have hpasses := @passes_frame s
  have hframe := composes_parameterRecord hpasses.composes (keeps_modelWithin hpasses stepLimit) all location name
    pointer w
  rw [h] at hframe
  exact ⟨hframe.1, hframe.2.1, hframe.2.2, fun hw => .collected hw h⟩

theorem onward_model {schema : Value} {context pointer : String} {t : TypeRef}
    (h : runStep s w (model schema context pointer) = (.ok t, after)) : Onward s w after := by
  have hframe := keeps_modelWithin (@passes_frame s) stepLimit schema context pointer w
  rw [model] at h
  rw [h] at hframe
  exact ⟨hframe.1, hframe.2.1, hframe.2.2, fun hw => .modeled hw h⟩

theorem onward_requestBody {declared : Value} {name pointer : String} {body : Option Body}
    (h : runStep s w (requestBody declared name pointer) = (.ok body, after)) : Onward s w after := by
  unfold requestBody at h
  split at h
  next =>
    obtain ⟨rfl, rfl⟩ := pure_eq_ok.mp h
    exact onward_log _
  next =>
    obtain ⟨resolved, w₁, hresolved, h⟩ := bind_eq_ok.mp h
    obtain ⟨-, rfl⟩ := resolve_eq_ok.mp hresolved
    obtain ⟨content, w₂, hcontent, h⟩ := bind_eq_ok.mp h
    have hread : Onward s w w₂ := by
      rw [(onlyNotes_jsonContent _ _ _ _).eq_of_ok hcontent]
      exact onward_log _
    split at h
    next => exact absurd h report_ne_ok
    next placed =>
      obtain ⟨type, w₃, htype, h⟩ := bind_eq_ok.mp h
      obtain ⟨rfl, rfl⟩ := pure_eq_ok.mp h
      exact hread.trans (onward_model htype)

/-- Modeling a success adds definitions. -/
theorem Answers.extends {typeName : String} {taken : List (String × String)} {success : Option DeclaredResponse}
    {t : TypeRef} (h : Answers s typeName taken w success t after) : w.registry.Extends after.registry := by
  cases h with
  | nothing => exact .refl _
  | contentless _ => exact .refl _
  | content _ fits => exact (onward_model fits).registry

/-! ## Parameters -/

/-- The effective parameters of an operation that is modeled can be read. Those in the path make no record exactly if
there are none, else the registry holds a record under the name of the operation, with one property for each of them
and what its field gives; then it is so with those in the query. A header or a cookie in either list is refused. -/
theorem parameters_of_operation (c : Call) :
    (∀ o after, runStep s w c.run = (.ok o, after) → ∃ all mid last, c.parameters? s.document = some all ∧
      Collects s after.registry (Identifier.camel o.id ++ "Path") w
        (all.filter fun p => p.location == .path) o.pathParams mid ∧
      Collects s after.registry (Identifier.camel o.id ++ "Query") mid
        (all.filter fun p => p.location == .query) o.queryParams last) ∧
    ∀ declared ∈ c.inherited.listed ++ c.ownParameters.listed, ∀ location,
      s.document.locationOf? declared = some location → location = .header ∨ location = .cookie →
      ∃ failure mid, runStep s w c.run = (.error failure, mid) := by
  constructor
  · intro o after h
    obtain ⟨fromItem, own, w₁, w₂, w₃, w₄, w₅, hfromItem, hown, hpath, hquery, hbody, hresponses⟩ :=
      parts_of_operation h
    obtain ⟨hinherited, -, rfl⟩ := parameters?_of_parameters hfromItem
    obtain ⟨hdeclared, -, rfl⟩ := parameters?_of_parameters hown
    obtain ⟨loop, entries, log, mid, -, -, hanswers, -, hext, -⟩ := responses_eq_ok hresponses
    have hlast : w₄.registry.Extends after.registry :=
      (onward_requestBody hbody).registry.trans (hanswers.extends.trans hext)
    refine ⟨Parameter.merged fromItem own, w₃, w₄, ?_, ?_, (collects_parameterRecord hquery).mono hlast⟩
    · rw [Call.parameters?, hinherited, hdeclared]
      rfl
    · exact (collects_parameterRecord hpath).mono ((onward_parameterRecord hquery).registry.trans hlast)
  · intro declared hdeclared location hlocation hunsupported
    rcases hrun : runStep s w c.run with ⟨outcome, mid⟩
    cases outcome with
    | error failure => exact ⟨failure, mid, rfl⟩
    | ok o =>
        obtain ⟨fromItem, own, w₁, w₂, w₃, w₄, w₅, hfromItem, hown, -⟩ := parts_of_operation hrun
        have hsupported : ∃ found, s.document.locationOf? declared = some found ∧ found.isSupported = true := by
          rcases List.mem_append.mp hdeclared with hmem | hmem
          · exact (parameters?_of_parameters hfromItem).2.1 declared hmem
          · exact (parameters?_of_parameters hown).2.1 declared hmem
        obtain ⟨found, hfound, hsupported⟩ := hsupported
        obtain rfl := Option.some.inj (hlocation.symm.trans hfound)
        rcases hunsupported with rfl | rfl <;> cases hsupported

/-- A document with a parameter and a response that operations refer to. -/
def listingSetting : Setting :=
  let limit := Value.object [("name", .text "limit"), ("in", .text "query"),
    ("schema", .object [("type", .text "integer")])]
  let counted := Value.object [("content", .object [("application/json",
    .object [("schema", .object [("type", .text "integer")])])])]
  ⟨⟨.object [("components", .object [("parameters", .object [("Limit", limit)]),
    ("responses", .object [("Counted", counted)])])], some "api_v1.yaml"⟩, []⟩

/-- An operation with a parameter in its path and one that its path item refers to. -/
def listingCall (own : List Value) (responses : Value) : Call :=
  ⟨"/pets", .get,
    .object [("operationId", .text "list_pets"), ("parameters", .listOf own), ("responses", responses)],
    .listOf [.object [("name", .text "shop"), ("in", .text "path"), ("required", .bool true),
        ("schema", .object [("type", .text "string")])],
      .object [("$ref", .text "#/components/parameters/Limit")]], "#/paths/~1pets"⟩

/-- The names of what such an operation defines start with its own. -/
theorem camel_id_of_listingCall {own : List Value} {responses : Value} {w after : Workspace} {o : Operation}
    (h : runStep listingSetting w (listingCall own responses).run = (.ok o, after)) :
    Identifier.camel o.id = "ListPets" := by
  have hid : some "list_pets" = some o.id := id_of_operation h
  rw [← Option.some.inj hid]
  decide

/-- An operation that gives the limit a default, and has another parameter with JSON content. -/
def pagedCall : Call :=
  listingCall
    [.object [("name", .text "page"), ("in", .text "query"), ("content", .object [("application/json",
        .object [("schema", .object [("type", .text "string")])])])],
      .object [("name", .text "limit"), ("in", .text "query"),
        ("schema", .object [("type", .text "integer"), ("default", .int 10)])]]
    (answerOf (.object [("type", .text "boolean")]))

theorem parameters_of_pagedCall :
    (∃ o after path query, runStep listingSetting (.ofRegistry (.empty none)) pagedCall.run = (.ok o, after) ∧
      o.pathParams = some "ListPetsPath" ∧ o.queryParams = some "ListPetsQuery" ∧
      after.registry.get? "ListPetsPath" = some ⟨"ListPetsPath", .record none path⟩ ∧
      path.map (·.wireName) = ["shop"] ∧
      after.registry.get? "ListPetsQuery" = some ⟨"ListPetsQuery", .record none query⟩ ∧
      query.map (·.wireName) = ["page", "limit"]) ∧
    ∃ failure mid, runStep listingSetting (.ofRegistry (.empty none))
      (listingCall [.object [("name", .text "trace"), ("in", .text "header")]] (Value.mapOf [])).run =
        (.error failure, mid) := by
  constructor
  · have hok : (runStep listingSetting (.ofRegistry (.empty none)) pagedCall.run).1.toOption.isSome = true := by
      decide +kernel
    have hpathNames : (pagedCall.parameters? listingSetting.document).map (fun all =>
        (all.filter fun p => p.location == .path).map (·.name)) = some ["shop"] := by
      decide +kernel
    have hqueryNames : (pagedCall.parameters? listingSetting.document).map (fun all =>
        (all.filter fun p => p.location == .query).map (·.name)) = some ["page", "limit"] := by
      decide +kernel
    obtain ⟨o, ho⟩ := Option.isSome_iff_exists.mp hok
    obtain ⟨after, hrun⟩ := exists_run_of_toOption ho
    obtain ⟨all, mid, last, hall, hpath, hquery⟩ := (parameters_of_operation pagedCall).1 o after hrun
    rw [hall, Option.map_some] at hpathNames hqueryNames
    have hpathNames := Option.some.inj hpathNames
    have hqueryNames := Option.some.inj hqueryNames
    rw [camel_id_of_listingCall hrun] at hpath hquery
    obtain ⟨hpathParams, path, hpathHeld, hpathWires⟩ :=
      hpath.wireNames fun hnone => by rw [hnone] at hpathNames; cases hpathNames
    obtain ⟨hqueryParams, query, hqueryHeld, hqueryWires⟩ :=
      hquery.wireNames fun hnone => by rw [hnone] at hqueryNames; cases hqueryNames
    exact ⟨o, after, path, query, hrun, hpathParams, hqueryParams, hpathHeld, hpathWires.trans hpathNames,
      hqueryHeld, hqueryWires.trans hqueryNames⟩
  · exact (parameters_of_operation _).2 (.object [("name", .text "trace"), ("in", .text "header")])
      (List.mem_append_right _ List.mem_cons_self) .header (by decide +kernel) (.inl rfl)

/-! ## Responses -/

/-- The responses of an operation that is modeled are `default` ones, which are skipped, and those with codes of three
digits. The response type is that of the success with the lowest code, modeled while the names of the operation are
reserved. There is an error set exactly if there are other codes, and it has their variants. -/
theorem responses_of_operation {c : Call} {o : Operation} (h : runStep s w c.run = (.ok o, after)) :
    ∃ loop declared start mid, c.responses = .map loop declared ∧
      (∀ e ∈ declared, e.1.shown = .ok "default" ∨ (s.document.responseAt? c.pointer e).isSome = true) ∧
      Onward s w start ∧
      Answers s (Identifier.camel o.id) (reservedNames o.id (Identifier.camel o.id)
          (ownNames o.id (Identifier.camel o.id) o.pathParams o.queryParams o.body)
          (s.document.responsesAt c.pointer declared))
        start (lowestSuccess? (s.document.responsesAt c.pointer declared)) o.response mid ∧
      mid.registry.Extends after.registry ∧
      FailsWith s after.registry (Identifier.camel o.id ++ "Error") (s.document.responsesAt c.pointer declared)
        o.error := by
  obtain ⟨fromItem, own, w₁, w₂, w₃, w₄, w₅, hfromItem, hown, hpath, hquery, hbody, hresponses⟩ :=
    parts_of_operation h
  obtain ⟨-, -, rfl⟩ := parameters?_of_parameters hfromItem
  obtain ⟨-, -, rfl⟩ := parameters?_of_parameters hown
  obtain ⟨loop, declared, log, mid, hmap, hdeclared, hanswers, hfails, hext, -⟩ := responses_eq_ok hresponses
  have hstart : Onward s w w₅ :=
    ((onward_parameterRecord hpath).trans (onward_parameterRecord hquery)).trans (onward_requestBody hbody)
  exact ⟨loop, declared, _, mid, hmap, hdeclared, hstart.trans (onward_log log), hanswers, hext, hfails⟩

/-- An operation whose responses are declared in no order: two successes, one of them by reference, an error with
literals that repeat, one without content, and a default. -/
def answeringCall : Call :=
  let content (schema : Value) := Value.object [("content", .object [("application/json",
    .object [("schema", schema)])])]
  listingCall [] (.object [
    ("404", content (.object [("enum", .listOf [.text "unknown_shop", .text "gone", .text "unknown_shop"])])),
    ("201", content (.object [("type", .text "string")])),
    ("default", .object []),
    ("200", .object [("$ref", .text "#/components/responses/Counted")]),
    ("409", .object [("description", .text "The shop is being moved")])])

theorem responses_of_answeringCall :
    ∃ o after doc, runStep listingSetting (.ofRegistry (.empty none)) answeringCall.run = (.ok o, after) ∧
      o.response = .scalar .int64 ∧ o.error = some "ListPetsError" ∧
      after.registry.get? "ListPetsError" = some ⟨"ListPetsError", .errorSet doc
        [⟨"UnknownShop", "unknown_shop", 404⟩, ⟨"Gone", "gone", 404⟩,
          ⟨"Conflict", "The shop is being moved", 409⟩]⟩ := by
  have hresponse : (runStep listingSetting (.ofRegistry (.empty none)) answeringCall.run).1.toOption.map (·.response) =
      some (.scalar .int64) := by
    decide +kernel
  obtain ⟨o, ho, htype⟩ := Option.map_eq_some_iff.mp hresponse
  obtain ⟨after, hrun⟩ := exists_run_of_toOption ho
  obtain ⟨loop, declared, start, mid, hdeclared, -, -, -, -, hfails⟩ := responses_of_operation hrun
  have hvariants : ((errorResponses (listingSetting.document.responsesAt answeringCall.pointer
      (answeringCall.responses.entries?.getD []))).flatMap
        (listingSetting.document.errorVariants listingSetting.reserved)).eraseDups =
      [⟨"UnknownShop", "unknown_shop", 404⟩, ⟨"Gone", "gone", 404⟩,
        ⟨"Conflict", "The shop is being moved", 409⟩] := by
    decide +kernel
  have hentries : answeringCall.responses.entries?.getD [] = declared := by
    rw [hdeclared]
    rfl
  rw [hentries] at hvariants
  rw [camel_id_of_listingCall hrun] at hfails
  cases herror : o.error with
  | none =>
      rw [hfails.none_iff.mp herror] at hvariants
      cases hvariants
  | some found =>
      obtain ⟨rfl, doc, hheld⟩ := hfails.held found herror
      exact ⟨o, after, doc, hrun, htype, herror, hvariants ▸ hheld⟩

end Modeling
end VersionedApi
