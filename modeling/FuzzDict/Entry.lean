/-!
# Dictionary entries

An entry of a fuzzer dictionary pairs a name with a token and is written on
one line as `name=" token "`: the token between a space and a quote on each
side, with nothing escaped.
-/

namespace FuzzDict

/-- A named token of a fuzzer dictionary. -/
structure Entry where
  name : String
  token : String
  deriving Repr, DecidableEq

namespace Entry

/-- The name that the policy's own tokens carry. -/
def extraName : String := "extra_token"

/-- An entry for one of the tokens that every dictionary ends with. -/
def extra (token : String) : Entry :=
  ⟨extraName, token⟩

/-- The line of an entry: `name=" token "`. -/
def render (e : Entry) : String :=
  e.name ++ "=\" " ++ e.token ++ " \""

example : (Entry.mk "token" "minus").render = "token=\" minus \"" := by decide
example : (extra "\x7b").render = "extra_token=\" \x7b \"" := by decide

end Entry

end FuzzDict
