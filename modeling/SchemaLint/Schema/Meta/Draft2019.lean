import SchemaLint.Schema.Meta.Builder

/-!
# The schema for schemas of draft 2019-09

It is put together from parts, one for each group of keywords.  Where a part refers to any schema it refers to the whole
that it is a part of.
-/

namespace SchemaLint

namespace Schema

namespace Meta

open Json

namespace Draft2019

def core : Value :=
  obj
    [("$schema", named (Dialect.newerId "2019-09" "schema") false),
     ("$id", named (Dialect.newerId "2019-09" "meta/core") false),
     ("$vocabulary", obj [((Text.toString (name (Dialect.newerId "2019-09" "vocab/core") false)), flag true)]),
     ("$recursiveAnchor", flag true),
     ("title", str "Core vocabulary meta-schema"),
     ("type", arr [str "object", str "boolean"]),
     ("properties",
      obj
        [("$id",
          obj
            [("type", str "string"),
             ("format", str "uri-reference"),
             ("$comment", str "Non-empty fragments not allowed."),
             ("pattern", str "^[^#]*#?$")]),
         ("$schema", obj [("type", str "string"), ("format", str "uri")]),
         ("$anchor", obj [("type", str "string"), ("pattern", str "^[A-Za-z][-A-Za-z0-9.:_]*$")]),
         ("$ref", obj [("type", str "string"), ("format", str "uri-reference")]),
         ("$recursiveRef", obj [("type", str "string"), ("format", str "uri-reference")]),
         ("$recursiveAnchor", obj [("type", str "boolean"), ("default", flag false)]),
         ("$vocabulary",
          obj
            [("type", str "object"),
             ("propertyNames", obj [("type", str "string"), ("format", str "uri")]),
             ("additionalProperties", obj [("type", str "boolean")])]),
         ("$comment", obj [("type", str "string")]),
         ("$defs",
          obj
            [("type", str "object"),
             ("additionalProperties", obj [("$recursiveRef", str "#")]),
             ("default", obj [])])])]

def applicator : Value :=
  obj
    [("$schema", named (Dialect.newerId "2019-09" "schema") false),
     ("$id", named (Dialect.newerId "2019-09" "meta/applicator") false),
     ("$vocabulary", obj [((Text.toString (name (Dialect.newerId "2019-09" "vocab/applicator") false)), flag true)]),
     ("$recursiveAnchor", flag true),
     ("title", str "Applicator vocabulary meta-schema"),
     ("type", arr [str "object", str "boolean"]),
     ("properties",
      obj
        [("additionalItems", obj [("$recursiveRef", str "#")]),
         ("unevaluatedItems", obj [("$recursiveRef", str "#")]),
         ("items",
          obj
            [("anyOf", arr [obj [("$recursiveRef", str "#")], obj [("$ref", str "#/$defs/schemaArray")]])]),
         ("contains", obj [("$recursiveRef", str "#")]),
         ("additionalProperties", obj [("$recursiveRef", str "#")]),
         ("unevaluatedProperties", obj [("$recursiveRef", str "#")]),
         ("properties",
          obj
            [("type", str "object"),
             ("additionalProperties", obj [("$recursiveRef", str "#")]),
             ("default", obj [])]),
         ("patternProperties",
          obj
            [("type", str "object"),
             ("additionalProperties", obj [("$recursiveRef", str "#")]),
             ("propertyNames", obj [("format", str "regex")]),
             ("default", obj [])]),
         ("dependentSchemas",
          obj [("type", str "object"), ("additionalProperties", obj [("$recursiveRef", str "#")])]),
         ("propertyNames", obj [("$recursiveRef", str "#")]),
         ("if", obj [("$recursiveRef", str "#")]),
         ("then", obj [("$recursiveRef", str "#")]),
         ("else", obj [("$recursiveRef", str "#")]),
         ("allOf", obj [("$ref", str "#/$defs/schemaArray")]),
         ("anyOf", obj [("$ref", str "#/$defs/schemaArray")]),
         ("oneOf", obj [("$ref", str "#/$defs/schemaArray")]),
         ("not", obj [("$recursiveRef", str "#")])]),
     ("$defs",
      obj
        [("schemaArray",
          obj [("type", str "array"), ("minItems", num 1), ("items", obj [("$recursiveRef", str "#")])])])]

def validation : Value :=
  obj
    [("$schema", named (Dialect.newerId "2019-09" "schema") false),
     ("$id", named (Dialect.newerId "2019-09" "meta/validation") false),
     ("$vocabulary", obj [((Text.toString (name (Dialect.newerId "2019-09" "vocab/validation") false)), flag true)]),
     ("$recursiveAnchor", flag true),
     ("title", str "Validation vocabulary meta-schema"),
     ("type", arr [str "object", str "boolean"]),
     ("properties",
      obj
        [("multipleOf", obj [("type", str "number"), ("exclusiveMinimum", num 0)]),
         ("maximum", obj [("type", str "number")]),
         ("exclusiveMaximum", obj [("type", str "number")]),
         ("minimum", obj [("type", str "number")]),
         ("exclusiveMinimum", obj [("type", str "number")]),
         ("maxLength", obj [("$ref", str "#/$defs/nonNegativeInteger")]),
         ("minLength", obj [("$ref", str "#/$defs/nonNegativeIntegerDefault0")]),
         ("pattern", obj [("type", str "string"), ("format", str "regex")]),
         ("maxItems", obj [("$ref", str "#/$defs/nonNegativeInteger")]),
         ("minItems", obj [("$ref", str "#/$defs/nonNegativeIntegerDefault0")]),
         ("uniqueItems", obj [("type", str "boolean"), ("default", flag false)]),
         ("maxContains", obj [("$ref", str "#/$defs/nonNegativeInteger")]),
         ("minContains", obj [("$ref", str "#/$defs/nonNegativeInteger"), ("default", num 1)]),
         ("maxProperties", obj [("$ref", str "#/$defs/nonNegativeInteger")]),
         ("minProperties", obj [("$ref", str "#/$defs/nonNegativeIntegerDefault0")]),
         ("required", obj [("$ref", str "#/$defs/stringArray")]),
         ("dependentRequired",
          obj
            [("type", str "object"),
             ("additionalProperties", obj [("$ref", str "#/$defs/stringArray")])]),
         ("const", flag true),
         ("enum", obj [("type", str "array"), ("items", flag true)]),
         ("type",
          obj
            [("anyOf",
              arr
                [obj [("$ref", str "#/$defs/simpleTypes")],
                 obj
                   [("type", str "array"),
                    ("items", obj [("$ref", str "#/$defs/simpleTypes")]),
                    ("minItems", num 1),
                    ("uniqueItems", flag true)]])])]),
     ("$defs",
      obj
        [("nonNegativeInteger", obj [("type", str "integer"), ("minimum", num 0)]),
         ("nonNegativeIntegerDefault0", obj [("$ref", str "#/$defs/nonNegativeInteger"), ("default", num 0)]),
         ("simpleTypes",
          obj
            [("enum",
              arr
                [str "array",
                 str "boolean",
                 str "integer",
                 str "null",
                 str "number",
                 str "object",
                 str "string"])]),
         ("stringArray",
          obj
            [("type", str "array"),
             ("items", obj [("type", str "string")]),
             ("uniqueItems", flag true),
             ("default", arr [])])])]

def metadata : Value :=
  obj
    [("$schema", named (Dialect.newerId "2019-09" "schema") false),
     ("$id", named (Dialect.newerId "2019-09" "meta/meta-data") false),
     ("$vocabulary", obj [((Text.toString (name (Dialect.newerId "2019-09" "vocab/meta-data") false)), flag true)]),
     ("$recursiveAnchor", flag true),
     ("title", str "Meta-data vocabulary meta-schema"),
     ("type", arr [str "object", str "boolean"]),
     ("properties",
      obj
        [("title", obj [("type", str "string")]),
         ("description", obj [("type", str "string")]),
         ("default", flag true),
         ("deprecated", obj [("type", str "boolean"), ("default", flag false)]),
         ("readOnly", obj [("type", str "boolean"), ("default", flag false)]),
         ("writeOnly", obj [("type", str "boolean"), ("default", flag false)]),
         ("examples", obj [("type", str "array"), ("items", flag true)])])]

def format : Value :=
  obj
    [("$schema", named (Dialect.newerId "2019-09" "schema") false),
     ("$id", named (Dialect.newerId "2019-09" "meta/format") false),
     ("$vocabulary", obj [((Text.toString (name (Dialect.newerId "2019-09" "vocab/format") false)), flag true)]),
     ("$recursiveAnchor", flag true),
     ("title", str "Format vocabulary meta-schema"),
     ("type", arr [str "object", str "boolean"]),
     ("properties", obj [("format", obj [("type", str "string")])])]

def content : Value :=
  obj
    [("$schema", named (Dialect.newerId "2019-09" "schema") false),
     ("$id", named (Dialect.newerId "2019-09" "meta/content") false),
     ("$vocabulary", obj [((Text.toString (name (Dialect.newerId "2019-09" "vocab/content") false)), flag true)]),
     ("$recursiveAnchor", flag true),
     ("title", str "Content vocabulary meta-schema"),
     ("type", arr [str "object", str "boolean"]),
     ("properties",
      obj
        [("contentMediaType", obj [("type", str "string")]),
         ("contentEncoding", obj [("type", str "string")]),
         ("contentSchema", obj [("$recursiveRef", str "#")])])]

def schema : Value :=
  obj
    [("$schema", named (Dialect.newerId "2019-09" "schema") false),
     ("$id", named (Dialect.newerId "2019-09" "schema") false),
     ("$vocabulary",
      obj
        [((Text.toString (name (Dialect.newerId "2019-09" "vocab/core") false)), flag true),
         ((Text.toString (name (Dialect.newerId "2019-09" "vocab/applicator") false)), flag true),
         ((Text.toString (name (Dialect.newerId "2019-09" "vocab/validation") false)), flag true),
         ((Text.toString (name (Dialect.newerId "2019-09" "vocab/meta-data") false)), flag true),
         ((Text.toString (name (Dialect.newerId "2019-09" "vocab/format") false)), flag false),
         ((Text.toString (name (Dialect.newerId "2019-09" "vocab/content") false)), flag true)]),
     ("$recursiveAnchor", flag true),
     ("title", str "Core and Validation specifications meta-schema"),
     ("allOf",
      arr
        [obj [("$ref", str "meta/core")],
         obj [("$ref", str "meta/applicator")],
         obj [("$ref", str "meta/validation")],
         obj [("$ref", str "meta/meta-data")],
         obj [("$ref", str "meta/format")],
         obj [("$ref", str "meta/content")]]),
     ("type", arr [str "object", str "boolean"]),
     ("properties",
      obj
        [("definitions",
          obj
            [("$comment",
              str "While no longer an official keyword as it is replaced by $defs, this keyword is retained in the meta-schema to prevent incompatible extensions as it remains in common use."),
             ("type", str "object"),
             ("additionalProperties", obj [("$recursiveRef", str "#")]),
             ("default", obj [])]),
         ("dependencies",
          obj
            [("$comment",
              str "\"dependencies\" is no longer a keyword, but schema authors should avoid redefining it to facilitate a smooth transition to \"dependentSchemas\" and \"dependentRequired\""),
             ("type", str "object"),
             ("additionalProperties",
              obj
                [("anyOf",
                  arr
                    [obj [("$recursiveRef", str "#")],
                     obj [("$ref", str "meta/validation#/$defs/stringArray")]])])])])]

def parts : List (String × Value) :=
  [("meta/core", core),
    ("meta/applicator", applicator),
    ("meta/validation", validation),
    ("meta/meta-data", metadata),
    ("meta/format", format),
    ("meta/content", content),
    ("schema", schema)]

end Draft2019

end Meta

end Schema

end SchemaLint
