import SchemaLint.Lint.Document

/-!
# Linting one document alone

What happens to one document when no other is linted at the same time.
-/

namespace SchemaLint

/-- What came of linting, what was said on the way, and where that left the resolver and the world. -/
structure Linted (α : Type) where
  outcome : Except Failed α
  said : Said
  resolver : Resolver
  world : World

namespace Document

def lint (d : Document) (out : Output) (s : Sources) (r : Resolver) (w : World) : Linted Verdict :=
  match d.start out with
  | .error c => ⟨.error (.crash c), .nothing, r, w⟩
  | .ok (said, .ended v) => ⟨.ok v, said, r, w⟩
  | .ok (said, .waiting v reference) =>
    let (schema, r, w) := r.resolve s w reference
    ⟨(d.finish w.disk v reference schema).mapError .crash, said, r, w⟩

end Document

end SchemaLint
