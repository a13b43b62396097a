import SchemaLint.Text.CodePoint

/-!
# Laying out JSON text

The pretty printer works on the characters of a document and never on its value, so that number literals and the order
of keys survive.  It knows one thing about the text: whether the next character lies inside a string literal.  A
quote changes that unless the character before it is a backslash.  This is a heuristic: behind an escaped backslash
at the end of a literal it takes the closing quote for an escaped one.
-/

namespace SchemaLint

namespace Json

namespace Layout

/-- Where the scan stands: how deeply nested, inside a literal or not, and behind which character. -/
structure State where
  depth : Int
  inString : Bool
  previous : Option CodePoint
  deriving DecidableEq

def start : State :=
  { depth := 0, inString := false, previous := none }

/-- A new line at a depth; a negative depth has no indent. -/
def newline (indent : Text) (depth : Int) : Text :=
  .scalar '\n' :: (List.replicate depth.toNat indent).flatten

/-- A quote that the scan takes for the start or the end of a literal. -/
def toggles (s : State) (c : CodePoint) : Bool :=
  c = '"' && s.previous != some (.scalar '\\')

def next (s : State) (c : CodePoint) : State :=
  if c = '"' then { s with inString := s.inString != toggles s c, previous := some c }
  else if s.inString then { s with previous := some c }
  else if c = '{' || c = '[' then { s with depth := s.depth + 1, previous := some c }
  else if c = '}' || c = ']' then { s with depth := s.depth - 1, previous := some c }
  else { s with previous := some c }

def emit (indent : Text) (s : State) (c : CodePoint) : Text :=
  if c = '"' || s.inString then [c]
  else if c = '{' || c = '[' then c :: newline indent (s.depth + 1)
  else if c = '}' || c = ']' then newline indent (s.depth - 1) ++ [c]
  else if c = ',' then c :: newline indent s.depth
  else if c = ':' then [c, .scalar ' ']
  else if c = ' ' || c = '\t' || c = '\n' then []
  else [c]

def chars (indent : Text) (s : State) : Text → Text
  | [] => []
  | c :: rest => emit indent s c ++ chars indent (next s c) rest

/-- The output of the scan, piece by piece from the last one; the accumulating form of `chars`. -/
def pieces (indent : Text) (s : State) (seen : List Text) : Text → List Text
  | [] => seen
  | c :: rest => pieces indent (next s c) (emit indent s c :: seen) rest

/-- Both forms of the scan agree. -/
theorem flatten_pieces (indent : Text) (s : State) (seen : List Text) (source : Text) :
    (pieces indent s seen source).reverse.flatten = seen.reverse.flatten ++ chars indent s source := by
  induction source generalizing s seen with
  | nil => simp [pieces, chars]
  | cons c rest ih => simp [pieces, chars, ih]

end Layout

/-- The indent of a call that names none. -/
def defaultIndent : String := "\t\t"

/-- The text laid out anew, one indent for every level of nesting and no line break at the end. -/
def layoutText (source indent : Text) : Text :=
  (Layout.pieces indent Layout.start [] source).reverse.flatten

/-- A string laid out anew. -/
def layout (source indent : String) : String :=
  Text.toString (layoutText (Text.ofString source) (Text.ofString indent))

end Json

end SchemaLint
