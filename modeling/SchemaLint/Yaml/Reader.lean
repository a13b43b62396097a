import SchemaLint.Yaml.Layout
import SchemaLint.Yaml.Value

/-!
# Reading YAML

A text holds at most one document.  No document and an empty one have the null value.
-/

namespace SchemaLint

namespace Yaml

def read (source : Source) : Except Fault Value := do
  let (tokens, fault) := tokensOf source
  match ← documentOf tokens fault with
  | none => return .null
  | some node =>
    let depth := nodeLevels + 2
    let outermost ← collectionsOf depth [⟨false, node⟩]
    checkLevels depth (depth + 2) outermost
    valueOf (depth + 2) node

end Yaml

end SchemaLint
