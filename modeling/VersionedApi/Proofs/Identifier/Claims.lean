import VersionedApi.Identifier.Label
import VersionedApi.Identifier.Scope
import VersionedApi.Proofs.Value.Parts

/-!
# Runs of claims

The identifiers of a record, an enumeration or an error set are claimed one after the other in one
scope. An identifier may be claimed again, but only for a label that is found to be the same as the one
that holds it. Labels that are told apart therefore get identifiers that are.

Main results:

- `Scope.Claims`: claims that succeed, one after the other;
- `Scope.Claims.view_eq`: claims of one identifier agree in all that the comparison of labels tells apart;
- `Scope.Claims.nodup`: labels that are pairwise told apart get distinct identifiers.
-/

namespace VersionedApi

/-! ## Labels -/

namespace Label

/-- A view of labels that are found to be the same is the same. -/
def Tells {β : Type} (view : Label → β) : Prop :=
  ∀ {a b : Label}, a.compared b = some true → view a = view b

/-- The text that a label consists of, if it is a text of the document. -/
def text? : Label → Option String
  | .value (.text s) => some s
  | _ => none

/-- The label of a value consists of a text if the value is that text. -/
theorem text?_value_iff {v : Value} {s : String} : text? (.value v) = some s ↔ v = .text s := by
  cases v <;> simp [text?]

/-- Values that are found to be the same are the same text, if one of them is a text. -/
theorem tells_text? : Tells text? := by
  intro a b h
  cases a with
  | status code text => cases b <;> simp_all [compared, text?]
  | value u =>
      cases b with
      | status code text => simp [compared] at h
      | value v =>
          refine Option.ext fun s => ?_
          rw [text?_value_iff, text?_value_iff]
          have hcompared := Value.compared_of_equal? h
          constructor
          · rintro rfl
            exact Value.compared_text_iff.mp hcompared
          · rintro rfl
            exact Value.compared_text_iff'.mp hcompared

end Label

namespace Scope

/-- A claim of an identifier that is held succeeds only for a label found to be the same. -/
theorem compared_of_claim {s after : Scope} {identifier : String} {label holder : Label}
    {pointer : Option String} (h : s.claim identifier label pointer = .ok after)
    (hholder : s.holder? identifier = some holder) : holder.compared label = some true := by
  unfold claim at h
  rw [hholder] at h
  dsimp only at h
  split at h
  next heq => exact heq
  next => contradiction
  next => contradiction

/-! ## Runs -/

/-- Claims that succeed in a scope, one after the other. -/
inductive Claims : Scope → List (String × Label) → Scope → Prop
  | none (s : Scope) : Claims s [] s
  | one {s mid after : Scope} {identifier : String} {label : Label} {claims : List (String × Label)}
      {pointer : Option String} (first : s.claim identifier label pointer = .ok mid)
      (rest : Claims mid claims after) : Claims s ((identifier, label) :: claims) after

namespace Claims

variable {s mid after : Scope} {claims more : List (String × Label)}

/-- Runs of claims may follow one another. -/
theorem append (h : s.Claims claims mid) (hmore : mid.Claims more after) :
    s.Claims (claims ++ more) after := by
  induction h with
  | none => exact hmore
  | one first rest ih => exact .one first (ih hmore)

/-- What the comparison of labels tells apart is that of the holder, for all claims of an identifier that
is held. -/
theorem view_eq_of_holder {β : Type} {view : Label → β} (hview : Label.Tells view)
    (h : s.Claims claims after) {identifier : String} {holder label : Label}
    (hholder : s.holder? identifier = some holder) (hlabel : (identifier, label) ∈ claims) :
    view holder = view label := by
  induction h generalizing holder with
  | none => cases hlabel
  | @one s mid after claimed first claims pointer hclaim rest ih =>
      by_cases hsame : identifier = claimed
      · have hview := hview (compared_of_claim hclaim (hsame ▸ hholder))
        rcases List.mem_cons.mp hlabel with heq | hlabel
        · injection heq with _ hlabel
          rw [hview, hlabel]
        · rw [hview]
          exact ih (hsame ▸ holder?_of_claim hclaim) hlabel
      · rcases List.mem_cons.mp hlabel with heq | hlabel
        · injection heq with hclaimed _
          exact absurd hclaimed hsame
        · exact ih ((holder?_of_claim_of_ne hclaim hsame).trans hholder) hlabel

/-- Claims of one identifier agree in all that the comparison of labels tells apart. -/
theorem view_eq {β : Type} {view : Label → β} (hview : Label.Tells view) (h : s.Claims claims after)
    {identifier : String} {a b : Label} (ha : (identifier, a) ∈ claims)
    (hb : (identifier, b) ∈ claims) : view a = view b := by
  induction h with
  | none => cases ha
  | one hclaim rest ih =>
      rcases List.mem_cons.mp ha with haeq | ha <;> rcases List.mem_cons.mp hb with hbeq | hb
      · injection haeq with _ haeq
        injection hbeq with _ hbeq
        rw [haeq, hbeq]
      · injection haeq with hid haeq
        rw [haeq]
        exact rest.view_eq_of_holder hview (hid ▸ holder?_of_claim hclaim) hb
      · injection hbeq with hid hbeq
        rw [hbeq]
        exact (rest.view_eq_of_holder hview (hid ▸ holder?_of_claim hclaim) ha).symm
      · exact ih ha hb

/-- An identifier that is held is not claimed for labels that are told apart from its holder. -/
theorem notMem_of_holder (h : s.Claims claims after) {identifier : String} {holder : Label}
    (hholder : s.holder? identifier = some holder)
    (hlabels : ∀ c ∈ claims, holder.compared c.2 ≠ some true) : identifier ∉ claims.map Prod.fst := by
  induction h with
  | none => exact List.not_mem_nil
  | @one s mid after claimed first claims pointer hclaim rest ih =>
      have hne : identifier ≠ claimed := by
        rintro rfl
        exact hlabels _ List.mem_cons_self (compared_of_claim hclaim hholder)
      rw [List.map_cons, List.mem_cons, not_or]
      exact ⟨hne, ih ((holder?_of_claim_of_ne hclaim hne).trans hholder)
        fun c hc => hlabels c (List.mem_cons_of_mem _ hc)⟩

/-- Labels that are pairwise told apart get distinct identifiers. -/
theorem nodup (h : s.Claims claims after)
    (hlabels : claims.Pairwise fun c d => c.2.compared d.2 ≠ some true) :
    (claims.map Prod.fst).Nodup := by
  induction h with
  | none => exact List.nodup_nil
  | one hclaim rest ih =>
      rcases List.pairwise_cons.mp hlabels with ⟨hfirst, hrest⟩
      rw [List.map_cons, List.nodup_cons]
      exact ⟨rest.notMem_of_holder (holder?_of_claim hclaim) hfirst, ih hrest⟩

end Claims
end Scope
end VersionedApi
