import SchemaLint.Schema.Meta.Builder

/-!
# The schema for schemas of draft 2020-12

It is put together from parts, one for each group of keywords.  Where a part refers to any schema it refers to the whole
that it is a part of.
-/

namespace SchemaLint

namespace Schema

namespace Meta

open Json

namespace Draft2020

def core : Value :=
  obj
    [("$schema", named (Dialect.newerId "2020-12" "schema") false),
     ("$id", named (Dialect.newerId "2020-12" "meta/core") false),
     ("$vocabulary", obj [((Text.toString (name (Dialect.newerId "2020-12" "vocab/core") false)), flag true)]),
     ("$dynamicAnchor", str "meta"),
     ("title", str "Core vocabulary meta-schema"),
     ("type", arr [str "object", str "boolean"]),
     ("properties",
      obj
        [("$id",
          obj
            [("$ref", str "#/$defs/uriReferenceString"),
             ("$comment", str "Non-empty fragments not allowed."),
             ("pattern", str "^[^#]*#?$")]),
         ("$schema", obj [("$ref", str "#/$defs/uriString")]),
         ("$ref", obj [("$ref", str "#/$defs/uriReferenceString")]),
         ("$anchor", obj [("$ref", str "#/$defs/anchorString")]),
         ("$dynamicRef", obj [("$ref", str "#/$defs/uriReferenceString")]),
         ("$dynamicAnchor", obj [("$ref", str "#/$defs/anchorString")]),
         ("$vocabulary",
          obj
            [("type", str "object"),
             ("propertyNames", obj [("$ref", str "#/$defs/uriString")]),
             ("additionalProperties", obj [("type", str "boolean")])]),
         ("$comment", obj [("type", str "string")]),
         ("$defs", obj [("type", str "object"), ("additionalProperties", obj [("$dynamicRef", str "#meta")])])]),
     ("$defs",
      obj
        [("anchorString", obj [("type", str "string"), ("pattern", str "^[A-Za-z_][-A-Za-z0-9._]*$")]),
         ("uriString", obj [("type", str "string"), ("format", str "uri")]),
         ("uriReferenceString", obj [("type", str "string"), ("format", str "uri-reference")])])]

def applicator : Value :=
  obj
    [("$schema", named (Dialect.newerId "2020-12" "schema") false),
     ("$id", named (Dialect.newerId "2020-12" "meta/applicator") false),
     ("$vocabulary", obj [((Text.toString (name (Dialect.newerId "2020-12" "vocab/applicator") false)), flag true)]),
     ("$dynamicAnchor", str "meta"),
     ("title", str "Applicator vocabulary meta-schema"),
     ("type", arr [str "object", str "boolean"]),
     ("properties",
      obj
        [("prefixItems", obj [("$ref", str "#/$defs/schemaArray")]),
         ("items", obj [("$dynamicRef", str "#meta")]),
         ("contains", obj [("$dynamicRef", str "#meta")]),
         ("additionalProperties", obj [("$dynamicRef", str "#meta")]),
         ("properties",
          obj
            [("type", str "object"),
             ("additionalProperties", obj [("$dynamicRef", str "#meta")]),
             ("default", obj [])]),
         ("patternProperties",
          obj
            [("type", str "object"),
             ("additionalProperties", obj [("$dynamicRef", str "#meta")]),
             ("propertyNames", obj [("format", str "regex")]),
             ("default", obj [])]),
         ("dependentSchemas",
          obj
            [("type", str "object"),
             ("additionalProperties", obj [("$dynamicRef", str "#meta")]),
             ("default", obj [])]),
         ("propertyNames", obj [("$dynamicRef", str "#meta")]),
         ("if", obj [("$dynamicRef", str "#meta")]),
         ("then", obj [("$dynamicRef", str "#meta")]),
         ("else", obj [("$dynamicRef", str "#meta")]),
         ("allOf", obj [("$ref", str "#/$defs/schemaArray")]),
         ("anyOf", obj [("$ref", str "#/$defs/schemaArray")]),
         ("oneOf", obj [("$ref", str "#/$defs/schemaArray")]),
         ("not", obj [("$dynamicRef", str "#meta")])]),
     ("$defs",
      obj
        [("schemaArray",
          obj
            [("type", str "array"),
             ("minItems", num 1),
             ("items", obj [("$dynamicRef", str "#meta")])])])]

def unevaluated : Value :=
  obj
    [("$schema", named (Dialect.newerId "2020-12" "schema") false),
     ("$id", named (Dialect.newerId "2020-12" "meta/unevaluated") false),
     ("$vocabulary",
      obj [((Text.toString (name (Dialect.newerId "2020-12" "vocab/unevaluated") false)), flag true)]),
     ("$dynamicAnchor", str "meta"),
     ("title", str "Unevaluated applicator vocabulary meta-schema"),
     ("type", arr [str "object", str "boolean"]),
     ("properties",
      obj
        [("unevaluatedItems", obj [("$dynamicRef", str "#meta")]),
         ("unevaluatedProperties", obj [("$dynamicRef", str "#meta")])])]

def validation : Value :=
  obj
    [("$schema", named (Dialect.newerId "2020-12" "schema") false),
     ("$id", named (Dialect.newerId "2020-12" "meta/validation") false),
     ("$vocabulary", obj [((Text.toString (name (Dialect.newerId "2020-12" "vocab/validation") false)), flag true)]),
     ("$dynamicAnchor", str "meta"),
     ("title", str "Validation vocabulary meta-schema"),
     ("type", arr [str "object", str "boolean"]),
     ("properties",
      obj
        [("type",
          obj
            [("anyOf",
              arr
                [obj [("$ref", str "#/$defs/simpleTypes")],
                 obj
                   [("type", str "array"),
                    ("items", obj [("$ref", str "#/$defs/simpleTypes")]),
                    ("minItems", num 1),
                    ("uniqueItems", flag true)]])]),
         ("const", flag true),
         ("enum", obj [("type", str "array"), ("items", flag true)]),
         ("multipleOf", obj [("type", str "number"), ("exclusiveMinimum", num 0)]),
         ("maximum", obj [("type", str "number")]),
         ("exclusiveMaximum", obj [("type", str "number")]),
         ("minimum", obj [("type", str "number")]),
         ("exclusiveMinimum", obj [("type", str "number")]),
         ("maxLength", obj [("$ref", str "#/$defs/nonNegativeInteger")]),
         ("minLength", obj [("$ref", str "#/$defs/nonNegativeIntegerDefault0")]),
         ("pattern", obj [("type", str "string"), ("format", str "regex")]),
         ("maxItems", obj [("$ref", str "#/$defs/nonNegativeInteger")]),
         ("minItems", obj [("$ref", str "#/$defs/nonNegativeIntegerDefault0")]),
         ("uniqueItems", obj [("type", str "boolean"), ("default", flag false)]),
         ("maxContains", obj [("$ref", str "#/$defs/nonNegativeInteger")]),
         ("minContains", obj [("$ref", str "#/$defs/nonNegativeInteger"), ("default", num 1)]),
         ("maxProperties", obj [("$ref", str "#/$defs/nonNegativeInteger")]),
         ("minProperties", obj [("$ref", str "#/$defs/nonNegativeIntegerDefault0")]),
         ("required", obj [("$ref", str "#/$defs/stringArray")]),
         ("dependentRequired",
          obj
            [("type", str "object"),
             ("additionalProperties", obj [("$ref", str "#/$defs/stringArray")])])]),
     ("$defs",
      obj
        [("nonNegativeInteger", obj [("type", str "integer"), ("minimum", num 0)]),
         ("nonNegativeIntegerDefault0", obj [("$ref", str "#/$defs/nonNegativeInteger"), ("default", num 0)]),
         ("simpleTypes",
          obj
            [("enum",
              arr
                [str "array",
                 str "boolean",
                 str "integer",
                 str "null",
                 str "number",
                 str "object",
                 str "string"])]),
         ("stringArray",
          obj
            [("type", str "array"),
             ("items", obj [("type", str "string")]),
             ("uniqueItems", flag true),
             ("default", arr [])])])]

def metadata : Value :=
  obj
    [("$schema", named (Dialect.newerId "2020-12" "schema") false),
     ("$id", named (Dialect.newerId "2020-12" "meta/meta-data") false),
     ("$vocabulary", obj [((Text.toString (name (Dialect.newerId "2020-12" "vocab/meta-data") false)), flag true)]),
     ("$dynamicAnchor", str "meta"),
     ("title", str "Meta-data vocabulary meta-schema"),
     ("type", arr [str "object", str "boolean"]),
     ("properties",
      obj
        [("title", obj [("type", str "string")]),
         ("description", obj [("type", str "string")]),
         ("default", flag true),
         ("deprecated", obj [("type", str "boolean"), ("default", flag false)]),
         ("readOnly", obj [("type", str "boolean"), ("default", flag false)]),
         ("writeOnly", obj [("type", str "boolean"), ("default", flag false)]),
         ("examples", obj [("type", str "array"), ("items", flag true)])])]

def formatAnnotation : Value :=
  obj
    [("$schema", named (Dialect.newerId "2020-12" "schema") false),
     ("$id", named (Dialect.newerId "2020-12" "meta/format-annotation") false),
     ("$vocabulary",
      obj
        [((Text.toString (name (Dialect.newerId "2020-12" "vocab/format-annotation") false)), flag true)]),
     ("$dynamicAnchor", str "meta"),
     ("title", str "Format vocabulary meta-schema for annotation results"),
     ("type", arr [str "object", str "boolean"]),
     ("properties", obj [("format", obj [("type", str "string")])])]

def formatAssertion : Value :=
  obj
    [("$schema", named (Dialect.newerId "2020-12" "schema") false),
     ("$id", named (Dialect.newerId "2020-12" "meta/format-assertion") false),
     ("$vocabulary",
      obj
        [((Text.toString (name (Dialect.newerId "2020-12" "vocab/format-assertion") false)), flag true)]),
     ("$dynamicAnchor", str "meta"),
     ("title", str "Format vocabulary meta-schema for assertion results"),
     ("type", arr [str "object", str "boolean"]),
     ("properties", obj [("format", obj [("type", str "string")])])]

def content : Value :=
  obj
    [("$schema", named (Dialect.newerId "2020-12" "schema") false),
     ("$id", named (Dialect.newerId "2020-12" "meta/content") false),
     ("$vocabulary", obj [((Text.toString (name (Dialect.newerId "2020-12" "vocab/content") false)), flag true)]),
     ("$dynamicAnchor", str "meta"),
     ("title", str "Content vocabulary meta-schema"),
     ("type", arr [str "object", str "boolean"]),
     ("properties",
      obj
        [("contentEncoding", obj [("type", str "string")]),
         ("contentMediaType", obj [("type", str "string")]),
         ("contentSchema", obj [("$dynamicRef", str "#meta")])])]

def schema : Value :=
  obj
    [("$schema", named (Dialect.newerId "2020-12" "schema") false),
     ("$id", named (Dialect.newerId "2020-12" "schema") false),
     ("$vocabulary",
      obj
        [((Text.toString (name (Dialect.newerId "2020-12" "vocab/core") false)), flag true),
         ((Text.toString (name (Dialect.newerId "2020-12" "vocab/applicator") false)), flag true),
         ((Text.toString (name (Dialect.newerId "2020-12" "vocab/unevaluated") false)), flag true),
         ((Text.toString (name (Dialect.newerId "2020-12" "vocab/validation") false)), flag true),
         ((Text.toString (name (Dialect.newerId "2020-12" "vocab/meta-data") false)), flag true),
         ((Text.toString (name (Dialect.newerId "2020-12" "vocab/format-annotation") false)), flag true),
         ((Text.toString (name (Dialect.newerId "2020-12" "vocab/content") false)), flag true)]),
     ("$dynamicAnchor", str "meta"),
     ("title", str "Core and Validation specifications meta-schema"),
     ("allOf",
      arr
        [obj [("$ref", str "meta/core")],
         obj [("$ref", str "meta/applicator")],
         obj [("$ref", str "meta/unevaluated")],
         obj [("$ref", str "meta/validation")],
         obj [("$ref", str "meta/meta-data")],
         obj [("$ref", str "meta/format-annotation")],
         obj [("$ref", str "meta/content")]]),
     ("type", arr [str "object", str "boolean"]),
     ("$comment",
      str "This meta-schema also defines keywords that have appeared in previous drafts in order to prevent incompatible extensions as they remain in common use."),
     ("properties",
      obj
        [("definitions",
          obj
            [("$comment", str "\"definitions\" has been replaced by \"$defs\"."),
             ("type", str "object"),
             ("additionalProperties", obj [("$dynamicRef", str "#meta")]),
             ("deprecated", flag true),
             ("default", obj [])]),
         ("dependencies",
          obj
            [("$comment",
              str "\"dependencies\" has been split and replaced by \"dependentSchemas\" and \"dependentRequired\" in order to serve their differing semantics."),
             ("type", str "object"),
             ("additionalProperties",
              obj
                [("anyOf",
                  arr
                    [obj [("$dynamicRef", str "#meta")],
                     obj [("$ref", str "meta/validation#/$defs/stringArray")]])]),
             ("deprecated", flag true),
             ("default", obj [])]),
         ("$recursiveAnchor",
          obj
            [("$comment", str "\"$recursiveAnchor\" has been replaced by \"$dynamicAnchor\"."),
             ("$ref", str "meta/core#/$defs/anchorString"),
             ("deprecated", flag true)]),
         ("$recursiveRef",
          obj
            [("$comment", str "\"$recursiveRef\" has been replaced by \"$dynamicRef\"."),
             ("$ref", str "meta/core#/$defs/uriReferenceString"),
             ("deprecated", flag true)])])]

def parts : List (String × Value) :=
  [("meta/core", core),
    ("meta/applicator", applicator),
    ("meta/unevaluated", unevaluated),
    ("meta/validation", validation),
    ("meta/meta-data", metadata),
    ("meta/format-annotation", formatAnnotation),
    ("meta/format-assertion", formatAssertion),
    ("meta/content", content),
    ("schema", schema)]

end Draft2020

end Meta

end Schema

end SchemaLint
