import VersionedApi.Proofs.Definitions.Comparison
import VersionedApi.Proofs.Loading.Schemas
import VersionedApi.Proofs.Recording.Nullability
import VersionedApi.Proofs.Unions.Tags
import Mathlib.Data.List.MinMax

/-!
# Response types and error sets

The responses of an operation are read one after the other. The loop keeps the success with the lowest code and
gathers the variants of all errors, none of them twice. Only then is the schema of the success modeled, while the
names of the operation are reserved, and the error set is registered.

Main definitions:

- `Document.responsesAt`: the responses that are declared, in their order;
- `Document.errorVariants`: the variants that one error response stands for;
- `Outcomes.Sums`: what the loop has gathered from some responses;
- `Modeling.Answers`: the type of a success.

Main results:

- `Modeling.jsonSchema?_of_jsonContent`: the schema of JSON content;
- `Modeling.errorVariants_eq_ok`: the variants of one error response;
- `Modeling.sums_response` and `Modeling.sums_responsesFrom`: one response, and all of them;
- `Modeling.responses_eq_ok`: the response type and the error set.
-/

namespace VersionedApi

open Value (entry)

/-! ## Declared responses -/

/-- A declared response, its references followed: its code, its node and its place. -/
structure DeclaredResponse where
  code : Nat
  node : Value
  pointer : String

namespace DeclaredResponse

/-- Whether a response is a success. -/
def isSuccess (r : DeclaredResponse) : Bool :=
  200 ≤ r.code && r.code < 300

/-- The entries of a response. -/
def entries (r : DeclaredResponse) : List (Value × Value) :=
  r.node.entries?.getD []

/-- A response that is taken for a success. -/
def success (r : DeclaredResponse) : Success :=
  ⟨r.code, r.node, r.pointer⟩

end DeclaredResponse

/-- The successes with the lowest code; of several ones, the first. -/
def lowestSuccess? (found : List DeclaredResponse) : Option DeclaredResponse :=
  (found.filter fun r => r.isSuccess).argmin fun r => r.code

/-- The responses that are no successes. -/
def errorResponses (found : List DeclaredResponse) : List DeclaredResponse :=
  found.filter fun r => !r.isSuccess

/-- A value that is a text. -/
def Value.text? : Value → Option String
  | .text s => some s
  | _ => none

/-- The text that a value is read as; one that is refused has none. -/
def readText (v : Value) : String :=
  match Checked.text v with
  | .valid text => text
  | .faulty _ => ""

/-- The code of three digits that a text spells. -/
def statusOf? (text : String) : Option Nat :=
  if Text.allDigitLike text && text.length == 3 then (Text.integer text).toOption.map Int.toNat else none

namespace Document

/-- The response that an entry declares under a code of three digits, its references followed. -/
def responseAt? (d : Document) (pointer : String) (declared : Value × Value) : Option DeclaredResponse := do
  let code ← declared.1.shown.toOption
  let status ← statusOf? code
  let resolved ← (d.resolve [] declared.2 (Pointer.join pointer ["responses", code])).toOption
  return ⟨status, resolved.node, resolved.pointer⟩

/-- The responses that are declared, in their order. -/
def responsesAt (d : Document) (pointer : String) (declared : List (Value × Value)) : List DeclaredResponse :=
  declared.filterMap (d.responseAt? pointer)

/-- The schema of the JSON content that entries declare. -/
def jsonSchema? (d : Document) (entries : List (Value × Value)) : Option Value :=
  match entry entries "content" with
  | .map _ types =>
      match jsonMedia? types with
      | .ok (some (_, media)) => (d.node? media).map fun node => entry (node.entries?.getD []) "schema"
      | _ => none
  | _ => none

/-- The texts among the literals that a schema allows, its references followed. -/
def literalTexts (d : Document) (schema : Value) : List String :=
  ((d.node? schema).elim [] literalsOf).filterMap Value.text?

/-- The variants that an error response stands for: one for each text that the schema of its JSON content allows, or
one for its code. -/
def errorVariants (d : Document) (reserved : List String) (r : DeclaredResponse) : List ErrorVariant :=
  let identifier (label : String) := Identifier.escapeReserved reserved (Identifier.camel label)
  match d.jsonSchema? r.entries with
  | some schema => (d.literalTexts schema).map fun text => ⟨identifier text, text, r.code⟩
  | none =>
      let phrase := Status.phraseOf r.code
      [⟨identifier phrase, readText ((entry r.entries "description").orElse (.text phrase)), r.code⟩]

end Document

namespace Modeling

variable {s : Setting} {w after : Workspace}

/-! ## One response -/

/-- The schema of JSON content is the one that the entries tell. It is missing where no content is given, and else only
where content without JSON is skipped. -/
theorem jsonSchema?_of_jsonContent {loop : Option Mark} {entries : List (Value × Value)} {pointer what : String}
    {strict : Bool} {found : Option PlacedSchema}
    (h : runStep s w (jsonContent (.map loop entries) pointer what strict) = (.ok found, after)) :
    s.document.jsonSchema? entries = found.map PlacedSchema.schema ∧
      (found = none → strict = true → (entry entries "content").isGiven = false) := by
  unfold Document.jsonSchema?
  rcases jsonContent_eq_ok h with ⟨hgiven, rfl⟩ |
    ⟨inner, types, hcontent, ⟨type, media, placed, hmedia, hschema, rfl⟩ | ⟨hstrict, hmedia, rfl⟩⟩
  · refine ⟨?_, fun _ _ => hgiven⟩
    split
    next types hcontent =>
      obtain rfl : types = [] := by simpa [hcontent, Value.isGiven] using hgiven
      rfl
    next => rfl
  · rw [hcontent]
    dsimp only
    rw [hmedia]
    exact ⟨hschema, fun hnone => by cases hnone⟩
  · rw [hcontent]
    dsimp only
    rw [hmedia]
    exact ⟨rfl, fun _ hrequired => by simp [hstrict] at hrequired⟩

/-- A code that is read is the one that its text spells. -/
theorem statusOf?_of_statusCode {text pointer : String} {code : Nat}
    (h : runStep s w (statusCode text pointer) = (.ok code, after)) : statusOf? text = some code := by
  unfold statusCode at h
  unfold statusOf?
  split at h
  next hdigits =>
    have hcode := ok_of_mapError (lift_eq_ok.mp h).1
    rw [if_pos hdigits]
    cases hinteger : Text.integer text with
    | error misuse =>
        rw [hinteger] at hcode
        cases hcode
    | ok n =>
        rw [hinteger] at hcode
        exact congrArg some (Except.ok.inj hcode)
  next => exact absurd h report_ne_ok

/-- Literals become variants one by one. -/
theorem literalVariants_eq_ok {code : Nat} {pointer : String} {scope : Scope} {texts : List String}
    {found : Scope × List ErrorVariant}
    (h : runStep s w (literalVariants code pointer scope texts) = (.ok found, after)) :
    found.2 = texts.map fun text =>
      ⟨Identifier.escapeReserved s.reserved (Identifier.camel text), text, code⟩ := by
  induction texts generalizing scope w found with
  | nil =>
      obtain ⟨rfl, -⟩ := pure_eq_ok.mp h
      rfl
  | cons text rest ih =>
      obtain ⟨identifier, w₁, hidentifier, h⟩ := bind_eq_ok.mp h
      obtain ⟨rfl, -⟩ := variantIdentifier_eq_ok.mp hidentifier
      obtain ⟨next, w₂, -, h⟩ := bind_eq_ok.mp h
      obtain ⟨others, w₃, hothers, h⟩ := bind_eq_ok.mp h
      obtain ⟨rfl, rfl⟩ := pure_eq_ok.mp h
      simp [ih hothers]

/-- A text that is read is that of the value. -/
theorem readText_of_textField {model name : String} {v : Value} {text : Option String}
    (h : v.textField model name = .ok text) (hnull : v.isNull = false) : text.getD "" = readText v := by
  rw [Value.textField, Checked.toExcept_eq_ok_iff, Checked.under_eq_valid_iff, Checked.optional,
    if_neg (by simp [hnull])] at h
  obtain ⟨content, hcontent, rfl⟩ := Checked.map_eq_valid_iff.mp h
  rw [readText, hcontent]
  rfl

/-- A response without JSON content becomes one variant. -/
theorem codeVariant_eq_ok {code : Nat} {entries : List (Value × Value)} {pointer : String} {scope : Scope}
    {found : Scope × List ErrorVariant}
    (h : runStep s w (codeVariant code entries pointer scope) = (.ok found, after)) :
    found.2 = [⟨Identifier.escapeReserved s.reserved (Identifier.camel (Status.phraseOf code)),
      readText ((entry entries "description").orElse (.text (Status.phraseOf code))), code⟩] := by
  obtain ⟨identifier, w₁, hidentifier, h⟩ := bind_eq_ok.mp h
  obtain ⟨rfl, -⟩ := variantIdentifier_eq_ok.mp hidentifier
  obtain ⟨next, w₂, -, h⟩ := bind_eq_ok.mp h
  obtain ⟨text, w₃, htext, h⟩ := bind_eq_ok.mp h
  obtain ⟨rfl, -⟩ := pure_eq_ok.mp h
  have hnull : ((entry entries "description").orElse (.text (Status.phraseOf code))).isNull = false := by
    unfold Value.orElse
    split
    next hgiven => exact isNull_of_isGiven hgiven
    next => rfl
  rw [readText_of_textField (lift_eq_ok.mp htext).1 hnull]

/-- Where a function has a value for every item of a list, these are the values that it has for some items. -/
theorem filterMap_of_mapM {α β : Type} {f : α → Option β} {l : List α} {found : List β}
    (h : l.mapM f = some found) : l.filterMap f = found ∧ found.length = l.length := by
  induction l generalizing found with
  | nil =>
      cases h
      exact ⟨rfl, rfl⟩
  | cons a rest ih =>
      rw [List.mapM_cons] at h
      obtain ⟨b, hb, h⟩ := Option.bind_eq_some_iff.mp h
      obtain ⟨others, hothers, h⟩ := Option.bind_eq_some_iff.mp h
      cases h
      obtain ⟨hmap, hlength⟩ := ih hothers
      exact ⟨by rw [List.filterMap_cons, hb, hmap], congrArg Nat.succ hlength⟩

/-- Literals that are all texts are kept as they are, and there is at least one. -/
theorem filterMap_of_detailTexts? {literals : List Value} {texts : List String}
    (h : detailTexts? literals = some texts) : literals.filterMap Value.text? = texts ∧ texts ≠ [] := by
  unfold detailTexts? at h
  split at h
  next => cases h
  next hsome =>
    have hread : literals.mapM Value.text? = some texts := h
    obtain ⟨hmap, hlength⟩ := filterMap_of_mapM hread
    refine ⟨hmap, fun hnone => hsome ?_⟩
    rw [hnone] at hlength
    exact List.isEmpty_iff_length_eq_zero.mpr hlength.symm

/-- A schema is read with its references followed; one that is missing is read as an object without entries. -/
theorem node?_of_schema {α : Type} {schema : Value} {place : String} {f : Value → Modeling α} {a : α}
    (h : runStep s w (if schema.isNull = true then pure (Value.mapOf []) >>= f
      else resolve schema place >>= fun resolved => pure resolved.node >>= f) = (.ok a, after)) :
    ∃ node mid, s.document.node? schema = some node ∧ runStep s mid (f node) = (.ok a, after) := by
  split at h
  next hnull =>
    obtain ⟨node, mid, hread, h⟩ := bind_eq_ok.mp h
    obtain ⟨rfl, rfl⟩ := pure_eq_ok.mp hread
    exact ⟨_, _, by rw [Value.isNull_iff.mp hnull, Document.node?_null], h⟩
  next hgiven =>
    obtain ⟨resolved, _, hresolved, h⟩ := bind_eq_ok.mp h
    obtain ⟨node, mid, hread, h⟩ := bind_eq_ok.mp h
    obtain ⟨rfl, rfl⟩ := pure_eq_ok.mp hread
    have hends := (resolve_eq_ok.mp hresolved).1
    exact ⟨_, _, Document.node?_of_resolve (Bool.eq_false_iff.mpr hgiven) hends, h⟩

/-- The variants of an error response are those that the document tells. There is at least one. -/
theorem errorVariants_eq_ok {r : DeclaredResponse} {loop : Option Mark} {entries : List (Value × Value)}
    {scope : Scope} {found : Scope × List ErrorVariant} (hnode : r.node = .map loop entries)
    (h : runStep s w (errorVariants r.code entries r.pointer scope) = (.ok found, after)) :
    s.document.errorVariants s.reserved r = found.2 ∧ found.2 ≠ [] := by
  unfold errorVariants at h
  unfold Document.errorVariants
  obtain ⟨content, w₁, hcontent, h⟩ := bind_eq_ok.mp h
  have hentries : r.entries = entries := by
    rw [DeclaredResponse.entries, hnode]
    rfl
  rw [hentries, (jsonSchema?_of_jsonContent hcontent).1]
  cases content with
  | none =>
      dsimp only [Option.map_none] at h ⊢
      rw [codeVariant_eq_ok h]
      exact ⟨rfl, List.cons_ne_nil _ _⟩
  | some placed =>
      dsimp only [Option.map_some] at h ⊢
      obtain ⟨node, w₂, hnode, h⟩ := node?_of_schema h
      obtain ⟨literals, w₃, hliterals, h⟩ := bind_eq_ok.mp h
      split at h
      next texts htexts =>
        obtain ⟨hmap, hsome⟩ := filterMap_of_detailTexts? htexts
        have hread : s.document.literalTexts placed.schema = texts := by
          rw [Document.literalTexts, hnode, ← hmap, ← literalsOf_of_tagLiterals hliterals]
          rfl
        rw [hread, literalVariants_eq_ok h]
        exact ⟨rfl, by simpa using hsome⟩
      next => exact absurd h report_ne_ok

end Modeling

/-! ## All responses -/

/-- What has been gathered from some responses: the success with the lowest code, and the variants of all errors, each
one where it is met first. All responses are objects, and every error has a variant. -/
structure Outcomes.Sums (s : Setting) (found : List DeclaredResponse) (o : Outcomes) : Prop where
  success : o.success = (lowestSuccess? found).map DeclaredResponse.success
  variants : o.variants = ((errorResponses found).flatMap (s.document.errorVariants s.reserved)).eraseDups
  given : ∀ r ∈ errorResponses found, s.document.errorVariants s.reserved r ≠ []
  objects : ∀ r ∈ found, ∃ loop entries, r.node = .map loop entries

namespace Outcomes

variable {s : Setting} {found : List DeclaredResponse} {o : Outcomes}

/-- At first nothing has been gathered. -/
theorem sums_nil (scope : Scope) : Sums s [] ⟨scope, none, [], []⟩ :=
  ⟨rfl, rfl, nofun, nofun⟩

/-- A success is kept if its code is lower than that of the one before. -/
theorem Sums.withSuccess (h : o.Sums s found) {r : DeclaredResponse} (hr : r.isSuccess = true)
    (hobject : ∃ loop entries, r.node = .map loop entries) :
    (o.withSuccess r.success).Sums s (found ++ [r]) := by
  have herrors : errorResponses (found ++ [r]) = errorResponses found := by
    simp [errorResponses, hr]
  have hlowest : (o.withSuccess r.success).success =
      (lowestSuccess? (found ++ [r])).map DeclaredResponse.success := by
    have hbest := h.success
    unfold lowestSuccess? at hbest ⊢
    rw [List.filter_append, List.filter_cons_of_pos hr, List.filter_nil, List.argmin_concat]
    unfold Outcomes.withSuccess
    cases hmin : (found.filter fun r => r.isSuccess).argmin fun r => r.code with
    | none =>
        rw [hmin, Option.map_none] at hbest
        simp [hbest]
    | some best =>
        rw [hmin, Option.map_some] at hbest
        simp only [hbest]
        by_cases hless : r.code < best.code
        · simp [hless, DeclaredResponse.success]
        · simp [hless, DeclaredResponse.success, hbest]
  have hvariants : (o.withSuccess r.success).variants = o.variants := by
    unfold Outcomes.withSuccess
    split
    · split <;> rfl
    · rfl
  refine ⟨hlowest, ?_, ?_, List.forall_mem_append.mpr ⟨h.objects, List.forall_mem_singleton.mpr hobject⟩⟩
  · rw [herrors, hvariants, h.variants]
  · rw [herrors]
    exact h.given

/-- Adding what is not there yet keeps each item where it is met first. -/
theorem foldl_eraseDups {α : Type} [BEq α] [LawfulBEq α] (before added : List α) :
    added.foldl (fun vs v => if vs.contains v then vs else vs ++ [v]) before.eraseDups =
      (before ++ added).eraseDups := by
  induction added generalizing before with
  | nil => simp
  | cons v rest ih =>
      rw [List.foldl_cons]
      have hstep : (if before.eraseDups.contains v then before.eraseDups else before.eraseDups ++ [v]) =
          (before ++ [v]).eraseDups := by
        rw [List.eraseDups_append]
        by_cases hv : v ∈ before
        · simp [hv, List.removeAll]
        · simp [hv, List.removeAll, List.eraseDups_cons]
      rw [hstep, ih, List.append_assoc, List.singleton_append]

/-- The variants of an error are added behind those of the errors before. -/
theorem Sums.withVariants (h : o.Sums s found) {r : DeclaredResponse} (hr : r.isSuccess = false)
    (hobject : ∃ loop entries, r.node = .map loop entries) (hsome : s.document.errorVariants s.reserved r ≠ [])
    (scope : Scope) (doc : String) :
    (({ o with scope := scope }.withVariants (s.document.errorVariants s.reserved r)).withDoc doc).Sums s
      (found ++ [r]) := by
  have herrors : errorResponses (found ++ [r]) = errorResponses found ++ [r] := by
    simp [errorResponses, hr]
  have hlowest : lowestSuccess? (found ++ [r]) = lowestSuccess? found := by
    simp [lowestSuccess?, hr]
  refine ⟨?_, ?_, ?_, List.forall_mem_append.mpr ⟨h.objects, List.forall_mem_singleton.mpr hobject⟩⟩
  · rw [hlowest]
    exact h.success
  · rw [herrors, List.flatMap_append, List.flatMap_singleton]
    have hfold := foldl_eraseDups ((errorResponses found).flatMap (s.document.errorVariants s.reserved))
      (s.document.errorVariants s.reserved r)
    rw [← h.variants] at hfold
    exact hfold
  · rw [herrors]
    exact List.forall_mem_append.mpr ⟨h.given, List.forall_mem_singleton.mpr hsome⟩

/-- The success that is kept is an object. -/
theorem Sums.object_of_lowest (h : o.Sums s found) {r : DeclaredResponse} (hr : lowestSuccess? found = some r) :
    ∃ loop entries, r.node = .map loop entries := by
  have hmem : r ∈ found.filter fun r => r.isSuccess := List.argmin_mem hr
  exact h.objects r (List.mem_of_mem_filter hmem)

/-- There are variants exactly where there are errors. -/
theorem Sums.variants_eq_nil_iff (h : o.Sums s found) : o.variants = [] ↔ errorResponses found = [] := by
  rw [h.variants]
  constructor
  · intro hnone
    rw [List.eq_nil_iff_forall_not_mem]
    intro r hr
    obtain ⟨v, hv⟩ := List.exists_mem_of_ne_nil _ (h.given r hr)
    have hmem : v ∈ ((errorResponses found).flatMap (s.document.errorVariants s.reserved)).eraseDups :=
      List.mem_eraseDups.mpr (List.mem_flatMap.mpr ⟨r, hr, hv⟩)
    rw [hnone] at hmem
    cases hmem
  · intro hnone
    rw [hnone]
    rfl

end Outcomes

namespace Modeling

variable {s : Setting} {w after : Workspace}

/-- One response is taken into account; `default` is skipped. -/
theorem sums_response {outcomes next : Outcomes} {key declared : Value} {code typeName pointer : String}
    {found : List DeclaredResponse} (hshown : key.shown = .ok code) (houtcomes : outcomes.Sums s found)
    (h : runStep s w (response outcomes code declared typeName pointer) = (.ok next, after)) :
    next.Sums s (found ++ (s.document.responseAt? pointer (key, declared)).toList) ∧
      (code = "default" ∨ (s.document.responseAt? pointer (key, declared)).isSome = true) := by
  rcases response_eq_ok h with ⟨rfl, rfl⟩ |
    ⟨status, resolved, loop, entries, w₁, w₂, hstatus, hresolved, hnode, hnext⟩
  · have hnone : statusOf? "default" = none := by decide
    refine ⟨?_, .inl rfl⟩
    simpa [Document.responseAt?, hshown, Except.toOption, hnone] using houtcomes
  · obtain ⟨hends, rfl⟩ := resolve_eq_ok.mp hresolved
    let r : DeclaredResponse := ⟨status, resolved.node, resolved.pointer⟩
    have hfound : s.document.responseAt? pointer (key, declared) = some r := by
      simp [Document.responseAt?, hshown, Except.toOption, statusOf?_of_statusCode hstatus,
        Document.resolve_of_visits hends, r]
    rw [hfound]
    refine ⟨?_, .inr rfl⟩
    rcases hnext with ⟨hsuccess, rfl⟩ | ⟨herror, variants, doc, w₃, hvariants, rfl⟩
    · exact houtcomes.withSuccess (r := r) hsuccess ⟨loop, entries, hnode⟩
    · obtain ⟨hread, hsome⟩ := errorVariants_eq_ok (r := r) hnode hvariants
      rw [← hread] at hsome ⊢
      exact houtcomes.withVariants (r := r) herror ⟨loop, entries, hnode⟩ hsome _ _

/-- All responses are taken into account, in their order. -/
theorem sums_responsesFrom {typeName pointer : String} {outcomes result : Outcomes}
    {declared : List (Value × Value)} {found : List DeclaredResponse} (houtcomes : outcomes.Sums s found)
    (h : runStep s w (responsesFrom typeName pointer outcomes declared) = (.ok result, after)) :
    result.Sums s (found ++ s.document.responsesAt pointer declared) ∧
      ∀ e ∈ declared, e.1.shown = .ok "default" ∨ (s.document.responseAt? pointer e).isSome = true := by
  induction declared generalizing outcomes found w with
  | nil =>
      obtain ⟨rfl, -⟩ := pure_eq_ok.mp h
      exact ⟨by simpa [Document.responsesAt] using houtcomes, nofun⟩
  | cons entry rest ih =>
      obtain ⟨key, value⟩ := entry
      rw [responsesFrom] at h
      obtain ⟨code, w₁, hcode, h⟩ := bind_eq_ok.mp h
      obtain ⟨next, w₂, hnext, h⟩ := bind_eq_ok.mp h
      have hshown := ok_of_mapError (lift_eq_ok.mp hcode).1
      obtain ⟨hfirst, hdeclared⟩ := sums_response hshown houtcomes hnext
      obtain ⟨hresult, hrest⟩ := ih hfirst h
      refine ⟨?_, List.forall_mem_cons.mpr ⟨?_, hrest⟩⟩
      · have hsplit : s.document.responsesAt pointer ((key, value) :: rest) =
            (s.document.responseAt? pointer (key, value)).toList ++ s.document.responsesAt pointer rest := by
          unfold Document.responsesAt
          cases hvalue : s.document.responseAt? pointer (key, value) <;> simp [hvalue]
        rw [hsplit, ← List.append_assoc]
        exact hresult
      · rcases hdeclared with rfl | hsome
        · exact .inl hshown
        · exact .inr hsome

/-! ## The response type and the error set -/

/-- The type of a success: empty if there is none or it has no content, else that of the schema of its JSON content,
which is modeled while the given names are reserved. -/
inductive Answers (s : Setting) (typeName : String) (taken : List (String × String)) (w : Workspace) :
    Option DeclaredResponse → TypeRef → Workspace → Prop
  | nothing : Answers s typeName taken w none .empty w
  | contentless {r : DeclaredResponse} {log : List Diagnostic}
      (missing : (entry r.entries "content").isGiven = false) :
      Answers s typeName taken w (some r) .empty { w with log := log }
  | content {r : DeclaredResponse} {log : List Diagnostic} {schema : Value} {place : String} {t : TypeRef}
      {mid : Workspace} (declares : s.document.jsonSchema? r.entries = some schema)
      (fits : runStep s { w with taken := taken ++ w.taken, log := log } (model schema typeName place) =
        (.ok t, mid)) :
      Answers s typeName taken w (some r) t { mid with taken := w.taken }

/-- The type of the success that was kept. -/
theorem answers_successType {success : Option DeclaredResponse} {typeName : String}
    {taken : List (String × String)} {t : TypeRef}
    (hnode : ∀ r, success = some r → ∃ loop entries, r.node = .map loop entries)
    (h : runStep s w (successType (success.map DeclaredResponse.success) typeName taken) = (.ok t, after)) :
    Answers s typeName taken w success t after := by
  unfold successType at h
  cases success with
  | none =>
      obtain ⟨rfl, rfl⟩ := pure_eq_ok.mp h
      exact .nothing
  | some r =>
      obtain ⟨loop, entries, hnode⟩ := hnode r rfl
      have hentries : r.entries = entries := by
        rw [DeclaredResponse.entries, hnode]
        rfl
      obtain ⟨found, w₁, hfound, h⟩ := bind_eq_ok.mp h
      have hw₁ := (onlyNotes_jsonContent _ _ _ _).eq_of_ok hfound
      rw [DeclaredResponse.success, hnode] at hfound
      obtain ⟨hschema, hmissing⟩ := jsonSchema?_of_jsonContent hfound
      rw [← hentries] at hschema hmissing
      cases found with
      | none =>
          obtain ⟨rfl, rfl⟩ := pure_eq_ok.mp h
          rw [hw₁]
          exact .contentless (hmissing rfl rfl)
      | some placed =>
          obtain ⟨mid, hmodel, rfl⟩ := reserving_eq_ok.mp h
          rw [hw₁] at hmodel ⊢
          exact .content hschema hmodel

/-- The error set of some responses: none if all of them are successes, else one with the variants of the errors, which
the registry holds under the given name. -/
structure FailsWith (s : Setting) (r : Registry) (name : String) (found : List DeclaredResponse)
    (error : Option String) : Prop where
  none_iff : error = none ↔ errorResponses found = []
  held : ∀ held, error = some held → held = name ∧ ∃ doc, r.get? name = some ⟨name,
    .errorSet doc ((errorResponses found).flatMap (s.document.errorVariants s.reserved)).eraseDups⟩

/-- The names that are reserved while a success is modeled: that of the error set, if there is one, and others. -/
def reservedNames (operationId typeName : String) (taken : List (String × String))
    (found : List DeclaredResponse) : List (String × String) :=
  if (errorResponses found).isEmpty then taken
  else (typeName ++ "Error", s!"the error set of '{operationId}'") :: taken

/-- The responses of an operation are those that the document tells. The success with the lowest code is modeled, and
after it the error set is registered. -/
theorem responses_eq_ok {declared : Value} {operationId typeName pointer : String}
    {taken : List (String × String)} {t : TypeRef} {error : Option String}
    (h : runStep s w (responses declared operationId typeName pointer taken) = (.ok (t, error), after)) :
    ∃ loop entries log mid, declared = .map loop entries ∧
      (∀ e ∈ entries, e.1.shown = .ok "default" ∨ (s.document.responseAt? pointer e).isSome = true) ∧
      Answers s typeName (reservedNames operationId typeName taken (s.document.responsesAt pointer entries))
        { w with log := log } (lowestSuccess? (s.document.responsesAt pointer entries)) t mid ∧
      FailsWith s after.registry (typeName ++ "Error") (s.document.responsesAt pointer entries) error ∧
      mid.registry.Extends after.registry ∧
      after = { mid with registry := after.registry, log := after.log } := by
  unfold responses at h
  cases declared with
  | map loop entries =>
      obtain ⟨scope, w₁, hscope, h⟩ := bind_eq_ok.mp h
      obtain ⟨rfl, rfl⟩ := newScope_eq_ok.mp hscope
      obtain ⟨outcomes, w₂, houtcomes, h⟩ := bind_eq_ok.mp h
      have hw₂ := (onlyNotes_responsesFrom _ _ _ _).eq_of_ok houtcomes
      obtain ⟨hsums, hdeclared⟩ := sums_responsesFrom (Outcomes.sums_nil _) houtcomes
      rw [List.nil_append] at hsums
      have hanswers : ∀ {names : List (String × String)} {mid : Workspace},
          runStep s w₂ (successType outcomes.success typeName names) = (.ok t, mid) →
          Answers s typeName names { w with log := w₂.log }
            (lowestSuccess? (s.document.responsesAt pointer entries)) t mid := by
        intro names mid hrun
        rw [hsums.success, hw₂] at hrun
        exact answers_successType (fun r hr => hsums.object_of_lowest hr) hrun
      refine ⟨loop, entries, w₂.log, ?_⟩
      split at h
      next hnone =>
        obtain ⟨type, mid, htype, h⟩ := bind_eq_ok.mp h
        obtain ⟨heq, rfl⟩ := pure_eq_ok.mp h
        cases heq
        have herrors := hsums.variants_eq_nil_iff.mp (List.isEmpty_iff.mp hnone)
        refine ⟨mid, rfl, hdeclared, ?_, ⟨by simp [herrors], nofun⟩, .refl _, rfl⟩
        rw [reservedNames, herrors]
        exact hanswers htype
      next hsome =>
        obtain ⟨type, mid, htype, h⟩ := bind_eq_ok.mp h
        obtain ⟨_, w₃, hregister, h⟩ := bind_eq_ok.mp h
        obtain ⟨heq, rfl⟩ := pure_eq_ok.mp h
        cases heq
        have herrors : errorResponses (s.document.responsesAt pointer entries) ≠ [] :=
          fun hnone => hsome (List.isEmpty_iff.mpr (hsums.variants_eq_nil_iff.mpr hnone))
        have hheld := get?_of_isPlain rfl hregister
        obtain ⟨registry, notes, hadded, rfl⟩ := registerDefinition_eq_ok.mp hregister
        refine ⟨mid, rfl, hdeclared, ?_, ⟨by simp [herrors], ?_⟩, Registry.extends_of_register hadded, rfl⟩
        · rw [reservedNames, if_neg (by simp [herrors])]
          exact hanswers htype
        · rintro held ⟨⟩
          rw [← hsums.variants]
          exact ⟨rfl, _, hheld⟩
  | _ => exact absurd h report_ne_ok

end Modeling
end VersionedApi
