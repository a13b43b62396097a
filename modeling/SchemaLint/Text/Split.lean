/-!
# Splitting

Cutting a list of characters at every occurrence of one of them.
-/

namespace SchemaLint

def splitChars (c : Char) : List Char → List (List Char)
  | [] => [[]]
  | d :: rest =>
    if d = c then [] :: splitChars c rest
    else
      match splitChars c rest with
      | part :: parts => (d :: part) :: parts
      | [] => [[d]]

end SchemaLint
