import SchemaLint.Schema.Meta.Builder

/-!
# The schema for schemas of draft 4

A schema is checked against this one before it is used; references of a schema can reach it too.
-/

namespace SchemaLint

namespace Schema

namespace Meta

open Json

/-- The schema that every schema of draft 4 has to satisfy. -/
def draft4 : Value :=
  obj
    [("$schema", named (Dialect.olderId "04") true),
     ("id", named (Dialect.olderId "04") true),
     ("description", str "Core schema meta-schema"),
     ("definitions",
      obj
        [("schemaArray", obj [("type", str "array"), ("minItems", num 1), ("items", obj [("$ref", str "#")])]),
         ("positiveInteger", obj [("type", str "integer"), ("minimum", num 0)]),
         ("positiveIntegerDefault0",
          obj
            [("allOf", arr [obj [("$ref", str "#/definitions/positiveInteger")], obj [("default", num 0)]])]),
         ("simpleTypes",
          obj
            [("enum",
              arr
                [str "array",
                 str "boolean",
                 str "integer",
                 str "null",
                 str "number",
                 str "object",
                 str "string"])]),
         ("stringArray",
          obj
            [("type", str "array"),
             ("items", obj [("type", str "string")]),
             ("minItems", num 1),
             ("uniqueItems", flag true)])]),
     ("type", str "object"),
     ("properties",
      obj
        [("id", obj [("format", str "uri"), ("type", str "string")]),
         ("$schema", obj [("type", str "string"), ("format", str "uri")]),
         ("title", obj [("type", str "string")]),
         ("description", obj [("type", str "string")]),
         ("default", obj []),
         ("multipleOf", obj [("type", str "number"), ("minimum", num 0), ("exclusiveMinimum", flag true)]),
         ("maximum", obj [("type", str "number")]),
         ("exclusiveMaximum", obj [("type", str "boolean")]),
         ("minimum", obj [("type", str "number")]),
         ("exclusiveMinimum", obj [("type", str "boolean")]),
         ("maxLength", obj [("$ref", str "#/definitions/positiveInteger")]),
         ("minLength", obj [("$ref", str "#/definitions/positiveIntegerDefault0")]),
         ("pattern", obj [("type", str "string"), ("format", str "regex")]),
         ("additionalItems",
          obj
            [("anyOf", arr [obj [("type", str "boolean")], obj [("$ref", str "#")]]),
             ("default", obj [])]),
         ("items",
          obj
            [("anyOf", arr [obj [("$ref", str "#")], obj [("$ref", str "#/definitions/schemaArray")]]),
             ("default", obj [])]),
         ("maxItems", obj [("$ref", str "#/definitions/positiveInteger")]),
         ("minItems", obj [("$ref", str "#/definitions/positiveIntegerDefault0")]),
         ("uniqueItems", obj [("type", str "boolean"), ("default", flag false)]),
         ("maxProperties", obj [("$ref", str "#/definitions/positiveInteger")]),
         ("minProperties", obj [("$ref", str "#/definitions/positiveIntegerDefault0")]),
         ("required", obj [("$ref", str "#/definitions/stringArray")]),
         ("additionalProperties",
          obj
            [("anyOf", arr [obj [("type", str "boolean")], obj [("$ref", str "#")]]),
             ("default", obj [])]),
         ("definitions",
          obj
            [("type", str "object"),
             ("additionalProperties", obj [("$ref", str "#")]),
             ("default", obj [])]),
         ("properties",
          obj
            [("type", str "object"),
             ("additionalProperties", obj [("$ref", str "#")]),
             ("default", obj [])]),
         ("patternProperties",
          obj
            [("type", str "object"),
             ("additionalProperties", obj [("$ref", str "#")]),
             ("default", obj [])]),
         ("dependencies",
          obj
            [("type", str "object"),
             ("additionalProperties",
              obj
                [("anyOf", arr [obj [("$ref", str "#")], obj [("$ref", str "#/definitions/stringArray")]])])]),
         ("enum", obj [("type", str "array"), ("minItems", num 1), ("uniqueItems", flag true)]),
         ("type",
          obj
            [("anyOf",
              arr
                [obj [("$ref", str "#/definitions/simpleTypes")],
                 obj
                   [("type", str "array"),
                    ("items", obj [("$ref", str "#/definitions/simpleTypes")]),
                    ("minItems", num 1),
                    ("uniqueItems", flag true)]])]),
         ("format", obj [("type", str "string")]),
         ("allOf", obj [("$ref", str "#/definitions/schemaArray")]),
         ("anyOf", obj [("$ref", str "#/definitions/schemaArray")]),
         ("oneOf", obj [("$ref", str "#/definitions/schemaArray")]),
         ("not", obj [("$ref", str "#")])]),
     ("dependencies", obj [("exclusiveMaximum", arr [str "maximum"]), ("exclusiveMinimum", arr [str "minimum"])]),
     ("default", obj [])]

end Meta

end Schema

end SchemaLint
