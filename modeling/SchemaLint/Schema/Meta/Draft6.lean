import SchemaLint.Schema.Meta.Builder

/-!
# The schema for schemas of draft 6

A schema is checked against this one before it is used; references of a schema can reach it too.
-/

namespace SchemaLint

namespace Schema

namespace Meta

open Json

/-- The schema that every schema of draft 6 has to satisfy. -/
def draft6 : Value :=
  obj
    [("$schema", named (Dialect.olderId "06") true),
     ("$id", named (Dialect.olderId "06") true),
     ("title", str "Core schema meta-schema"),
     ("definitions",
      obj
        [("schemaArray", obj [("type", str "array"), ("minItems", num 1), ("items", obj [("$ref", str "#")])]),
         ("nonNegativeInteger", obj [("type", str "integer"), ("minimum", num 0)]),
         ("nonNegativeIntegerDefault0",
          obj
            [("allOf", arr [obj [("$ref", str "#/definitions/nonNegativeInteger")], obj [("default", num 0)]])]),
         ("simpleTypes",
          obj
            [("enum",
              arr
                [str "array",
                 str "boolean",
                 str "integer",
                 str "null",
                 str "number",
                 str "object",
                 str "string"])]),
         ("stringArray",
          obj
            [("type", str "array"),
             ("items", obj [("type", str "string")]),
             ("uniqueItems", flag true),
             ("default", arr [])])]),
     ("type", arr [str "object", str "boolean"]),
     ("properties",
      obj
        [("$id", obj [("type", str "string"), ("format", str "uri-reference")]),
         ("$schema", obj [("type", str "string"), ("format", str "uri")]),
         ("$ref", obj [("type", str "string"), ("format", str "uri-reference")]),
         ("title", obj [("type", str "string")]),
         ("description", obj [("type", str "string")]),
         ("default", obj []),
         ("examples", obj [("type", str "array"), ("items", obj [])]),
         ("multipleOf", obj [("type", str "number"), ("exclusiveMinimum", num 0)]),
         ("maximum", obj [("type", str "number")]),
         ("exclusiveMaximum", obj [("type", str "number")]),
         ("minimum", obj [("type", str "number")]),
         ("exclusiveMinimum", obj [("type", str "number")]),
         ("maxLength", obj [("$ref", str "#/definitions/nonNegativeInteger")]),
         ("minLength", obj [("$ref", str "#/definitions/nonNegativeIntegerDefault0")]),
         ("pattern", obj [("type", str "string"), ("format", str "regex")]),
         ("additionalItems", obj [("$ref", str "#")]),
         ("items",
          obj
            [("anyOf", arr [obj [("$ref", str "#")], obj [("$ref", str "#/definitions/schemaArray")]]),
             ("default", obj [])]),
         ("maxItems", obj [("$ref", str "#/definitions/nonNegativeInteger")]),
         ("minItems", obj [("$ref", str "#/definitions/nonNegativeIntegerDefault0")]),
         ("uniqueItems", obj [("type", str "boolean"), ("default", flag false)]),
         ("contains", obj [("$ref", str "#")]),
         ("maxProperties", obj [("$ref", str "#/definitions/nonNegativeInteger")]),
         ("minProperties", obj [("$ref", str "#/definitions/nonNegativeIntegerDefault0")]),
         ("required", obj [("$ref", str "#/definitions/stringArray")]),
         ("additionalProperties", obj [("$ref", str "#")]),
         ("definitions",
          obj
            [("type", str "object"),
             ("additionalProperties", obj [("$ref", str "#")]),
             ("default", obj [])]),
         ("properties",
          obj
            [("type", str "object"),
             ("additionalProperties", obj [("$ref", str "#")]),
             ("default", obj [])]),
         ("patternProperties",
          obj
            [("type", str "object"),
             ("additionalProperties", obj [("$ref", str "#")]),
             ("propertyNames", obj [("format", str "regex")]),
             ("default", obj [])]),
         ("dependencies",
          obj
            [("type", str "object"),
             ("additionalProperties",
              obj
                [("anyOf", arr [obj [("$ref", str "#")], obj [("$ref", str "#/definitions/stringArray")]])])]),
         ("propertyNames", obj [("$ref", str "#")]),
         ("const", obj []),
         ("enum", obj [("type", str "array")]),
         ("type",
          obj
            [("anyOf",
              arr
                [obj [("$ref", str "#/definitions/simpleTypes")],
                 obj
                   [("type", str "array"),
                    ("items", obj [("$ref", str "#/definitions/simpleTypes")]),
                    ("minItems", num 1),
                    ("uniqueItems", flag true)]])]),
         ("format", obj [("type", str "string")]),
         ("allOf", obj [("$ref", str "#/definitions/schemaArray")]),
         ("anyOf", obj [("$ref", str "#/definitions/schemaArray")]),
         ("oneOf", obj [("$ref", str "#/definitions/schemaArray")]),
         ("not", obj [("$ref", str "#")])]),
     ("default", obj [])]

end Meta

end Schema

end SchemaLint
