import VersionedApi.Failure.Basic

/-!
# Identifier scopes

Deriving identifiers loses detail, so two labels may get the same one. A scope records which label
claimed each identifier of one record, enumeration or error set, and refuses a second, different label.
-/

namespace VersionedApi

/-- The identifiers claimed so far, in order, each with the label that claimed it last. -/
structure Scope where
  /-- What the identifiers belong to, as messages say it. -/
  owner : String
  document : Option String
  claims : List (String × Label)
deriving Repr

namespace Scope

/-- A scope without claims. -/
def new (owner : String) (document : Option String) : Scope :=
  ⟨owner, document, []⟩

/-- A new scope holds no identifier. -/
@[simp] theorem claims_new (owner : String) (document : Option String) :
    (new owner document).claims = [] := rfl

/-- The label that holds an identifier. -/
def holder? (s : Scope) (identifier : String) : Option Label :=
  s.claims.lookup identifier

/-- Whether an identifier is taken. -/
def contains (s : Scope) (identifier : String) : Bool :=
  (s.holder? identifier).isSome

/-- The number of identifiers taken. -/
def size (s : Scope) : Nat :=
  s.claims.length

/-- Sets the label of an identifier, which keeps its place if it has one. -/
def record (identifier : String) (label : Label) : List (String × Label) → List (String × Label)
  | [] => [(identifier, label)]
  | (i, l) :: rest =>
      if i == identifier then (i, label) :: rest else (i, l) :: record identifier label rest

/-- A recorded identifier has its label. -/
@[simp] theorem lookup_record_self (identifier : String) (label : Label)
    (claims : List (String × Label)) :
    (record identifier label claims).lookup identifier = some label := by
  induction claims with
  | nil => simp [record]
  | cons first rest ih =>
      obtain ⟨i, l⟩ := first
      by_cases h : i = identifier
      · simp [record, h]
      · have hne : (identifier == i) = false := beq_false_of_ne fun e => h e.symm
        simp [record, h, List.lookup_cons, hne, ih]

/-- The other identifiers keep theirs. -/
theorem lookup_record_of_ne {identifier other : String} (h : other ≠ identifier) (label : Label)
    (claims : List (String × Label)) :
    (record identifier label claims).lookup other = claims.lookup other := by
  have hne : (other == identifier) = false := beq_false_of_ne h
  induction claims with
  | nil => simp [record, List.lookup_cons, hne]
  | cons first rest ih =>
      obtain ⟨i, l⟩ := first
      by_cases hi : i = identifier
      · simp [record, hi, List.lookup_cons, hne]
      · simp [record, hi, List.lookup_cons, ih]

/-- Claims an identifier for a label. A label that counts as the same as the holder may claim it again;
labels whose comparison does not end are a misuse. -/
def claim (s : Scope) (identifier : String) (label : Label) (pointer : Option String) :
    Except Failure Scope :=
  match s.holder? identifier with
  | some holder =>
      match holder.compared label with
      | some true => .ok { s with claims := record identifier label s.claims }
      | some false =>
          .error (.located (.labelCollision s.owner holder label identifier) s.document pointer)
      | none => .error (.misuse .endlessComparison)
  | none => .ok { s with claims := record identifier label s.claims }

/-- A claim that succeeds makes its label the holder of the identifier. -/
theorem holder?_of_claim {s after : Scope} {identifier : String} {label : Label}
    {pointer : Option String} (h : s.claim identifier label pointer = .ok after) :
    after.holder? identifier = some label := by
  unfold claim at h
  split at h
  next =>
    split at h
    next => cases h; simp [holder?]
    next => contradiction
    next => contradiction
  next => cases h; simp [holder?]

/-- A claim that succeeds leaves the holders of all other identifiers alone. -/
theorem holder?_of_claim_of_ne {s after : Scope} {identifier other : String} {label : Label}
    {pointer : Option String} (h : s.claim identifier label pointer = .ok after)
    (hne : other ≠ identifier) : after.holder? other = s.holder? other := by
  unfold claim at h
  split at h
  next =>
    split at h
    next => cases h; simp [holder?, lookup_record_of_ne hne]
    next => contradiction
    next => contradiction
  next => cases h; simp [holder?, lookup_record_of_ne hne]

end Scope

end VersionedApi
