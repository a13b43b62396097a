import SchemaLint.Json.Value
import SchemaLint.Uri.Basic

/-!
# Dialects

A schema is read in one of six drafts.  A draft decides which keywords there are and what they mean, where
subschemas can stand, and how a schema names itself.
-/

namespace SchemaLint

/-- The drafts in order of age. -/
inductive Dialect
  | draft3
  | draft4
  | draft6
  | draft7
  | draft2019
  | draft2020
  deriving DecidableEq

namespace Dialect

def all : List Dialect :=
  [draft3, draft4, draft6, draft7, draft2019, draft2020]

/-- The name of a draft within an environment. -/
def suffix : Dialect → String
  | draft3 => "draft-03"
  | draft4 => "draft-04"
  | draft6 => "draft-06"
  | draft7 => "draft-07"
  | draft2019 => "draft-2019-09"
  | draft2020 => "draft-2020-12"

/-- What every environment begins with. -/
def environmentStem : String := "json-schema-"

def environment (d : Dialect) : String :=
  environmentStem ++ d.suffix

/-- The environment of a schema that nobody assigned to one. -/
def defaultEnvironment : String :=
  draft4.environment

/-- The draft of an environment, whose stem may be left out. -/
def ofEnvironment? (env : Text) : Option Dialect :=
  let stem := Text.ofString environmentStem
  let key := if stem.isPrefixOf env then env else stem ++ env
  all.find? fun d => Text.ofString d.environment = key

/-- The host under which the drafts name their schemas. -/
def host : List Char := "json-schema.org".toList

/-- The older drafts share a path of this form. -/
def olderId (number : String) : Uri :=
  { scheme := "http".toList, authority := host, path := ("/draft-" ++ number ++ "/schema").toList
    params := [], query := [], fragment := [] }

/-- The newer drafts name several schemas each. -/
def newerId (date part : String) : Uri :=
  { scheme := "https".toList, authority := host, path := ("/draft/" ++ date ++ "/" ++ part).toList
    params := [], query := [], fragment := [] }

/-- The name of the schema for the schemas of a draft. -/
def id : Dialect → Uri
  | draft3 => olderId "03"
  | draft4 => olderId "04"
  | draft6 => olderId "06"
  | draft7 => olderId "07"
  | draft2019 => newerId "2019-09" "schema"
  | draft2020 => newerId "2020-12" "schema"

def ofId? (name : List Char) : Option Dialect :=
  all.find? fun d => d.id.render = name

/-- Whether the keyword that names a schema is written without a dollar sign. -/
def oldStyle : Dialect → Bool
  | draft3 | draft4 => true
  | _ => false

def referenceHides : Dialect → Bool
  | draft3 | draft4 | draft6 | draft7 => true
  | draft2019 | draft2020 => false

end Dialect

end SchemaLint
