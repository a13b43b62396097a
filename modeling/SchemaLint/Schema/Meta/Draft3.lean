import SchemaLint.Schema.Meta.Builder

/-!
# The schema for schemas of draft 3

A schema is checked against this one before it is used; references of a schema can reach it too.
-/

namespace SchemaLint

namespace Schema

namespace Meta

open Json

/-- The schema that every schema of draft 3 has to satisfy. -/
def draft3 : Value :=
  obj
    [("$schema", named (Dialect.olderId "03") true),
     ("id", named (Dialect.olderId "03") true),
     ("type", str "object"),
     ("properties",
      obj
        [("type",
          obj
            [("type", arr [str "string", str "array"]),
             ("items", obj [("type", arr [str "string", obj [("$ref", str "#")]])]),
             ("uniqueItems", flag true),
             ("default", str "any")]),
         ("properties",
          obj
            [("type", str "object"),
             ("additionalProperties", obj [("$ref", str "#"), ("type", str "object")]),
             ("default", obj [])]),
         ("patternProperties",
          obj
            [("type", str "object"),
             ("additionalProperties", obj [("$ref", str "#")]),
             ("default", obj [])]),
         ("additionalProperties", obj [("type", arr [obj [("$ref", str "#")], str "boolean"]), ("default", obj [])]),
         ("items",
          obj
            [("type", arr [obj [("$ref", str "#")], str "array"]),
             ("items", obj [("$ref", str "#")]),
             ("default", obj [])]),
         ("additionalItems", obj [("type", arr [obj [("$ref", str "#")], str "boolean"]), ("default", obj [])]),
         ("required", obj [("type", str "boolean"), ("default", flag false)]),
         ("dependencies",
          obj
            [("type", str "object"),
             ("additionalProperties",
              obj
                [("type", arr [str "string", str "array", obj [("$ref", str "#")]]),
                 ("items", obj [("type", str "string")])]),
             ("default", obj [])]),
         ("minimum", obj [("type", str "number")]),
         ("maximum", obj [("type", str "number")]),
         ("exclusiveMinimum", obj [("type", str "boolean"), ("default", flag false)]),
         ("exclusiveMaximum", obj [("type", str "boolean"), ("default", flag false)]),
         ("minItems", obj [("type", str "integer"), ("minimum", num 0), ("default", num 0)]),
         ("maxItems", obj [("type", str "integer"), ("minimum", num 0)]),
         ("uniqueItems", obj [("type", str "boolean"), ("default", flag false)]),
         ("pattern", obj [("type", str "string"), ("format", str "regex")]),
         ("minLength", obj [("type", str "integer"), ("minimum", num 0), ("default", num 0)]),
         ("maxLength", obj [("type", str "integer")]),
         ("enum", obj [("type", str "array"), ("minItems", num 1), ("uniqueItems", flag true)]),
         ("default", obj [("type", str "any")]),
         ("title", obj [("type", str "string")]),
         ("description", obj [("type", str "string")]),
         ("format", obj [("type", str "string")]),
         ("divisibleBy",
          obj
            [("type", str "number"),
             ("minimum", num 0),
             ("exclusiveMinimum", flag true),
             ("default", num 1)]),
         ("disallow",
          obj
            [("type", arr [str "string", str "array"]),
             ("items", obj [("type", arr [str "string", obj [("$ref", str "#")]])]),
             ("uniqueItems", flag true)]),
         ("extends",
          obj
            [("type", arr [obj [("$ref", str "#")], str "array"]),
             ("items", obj [("$ref", str "#")]),
             ("default", obj [])]),
         ("id", obj [("type", str "string")]),
         ("$ref", obj [("type", str "string")]),
         ("$schema", obj [("type", str "string"), ("format", str "uri")])]),
     ("dependencies", obj [("exclusiveMinimum", str "minimum"), ("exclusiveMaximum", str "maximum")]),
     ("default", obj [])]

end Meta

end Schema

end SchemaLint
