import VersionedApi.Model.Written
import VersionedApi.Yaml.Printer

/-!
# Rendered models

The text of a model, and the text of a type where it is asked for by itself. The text of a model is that of its
written form, in a fixed style. Not every model has one: a literal may be endless, nested too deeply, or an integer
of too many digits.

Main definition: `Api.rendered`.
-/

namespace VersionedApi

/-- The written text of a model. -/
def Api.rendered (api : Api) : Except Misuse String :=
  match api.portableFault? with
  | some misuse => .error misuse
  | none => if api.written.hasText then .ok api.written.toYaml else .error .integerWithoutText

/-- The text of a type. -/
def TypeRef.shown (t : TypeRef) : Except Misuse String :=
  if shownDepth < t.depth then .error .tooDeep
  else if t.hasText then .ok t.text
  else .error .noScalar

end VersionedApi
