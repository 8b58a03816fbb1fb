import VersionedApi.Failure.Misuse

/-!
# What values are asked for

Some values are asked for their texts or walked item by item. Values without a text and values without items
are misused when that is done to them.

Main definitions: `Value.shown` and `Value.items`.
-/

namespace VersionedApi.Value

/-! ## Texts -/

/-- The plain text of a value. -/
def shown (v : Value) : Except Misuse String :=
  if v.hasText then .ok v.plain else .error .integerWithoutText

/-- A value is shown exactly if it has a text. -/
theorem shown_eq_ok_iff {v : Value} {text : String} : v.shown = .ok text ↔ v.hasText = true ∧ v.plain = text := by
  unfold shown
  split <;> simp_all

/-- A value with a text is shown by it. -/
theorem shown_of_hasText {v : Value} (h : v.hasText = true) : v.shown = .ok v.plain := by
  simp [shown, h]

/-- A text is shown as it stands. -/
@[simp] theorem shown_text (s : String) : (Value.text s).shown = .ok s := by
  simp [shown, hasText, hasTextWithin, plain]

/-! ## Items -/

/-- The items that a value has: those of a list, a pair or a set, the keys of an object, the characters
of a text, the numbers of bytes. -/
def items : Value → Except Misuse (List Value)
  | .list _ items => .ok items
  | .pair _ first second => .ok [first, second]
  | .set members => .ok members
  | .map _ entries => .ok (entries.map Prod.fst)
  | .text s => .ok (s.toList.map fun c => .text (String.ofList [c]))
  | .bytes content => .ok (content.map fun b => .int b.toNat)
  | v => .error (.notIterable v.qualifiedTypeName)

/-- The items of a value that are not `null`; a value that is not given has none. -/
def literals (v : Value) : Except Misuse (List Value) :=
  (v.orElse (listOf [])).items.map fun items => items.filter fun x => !x.isNull

end VersionedApi.Value
