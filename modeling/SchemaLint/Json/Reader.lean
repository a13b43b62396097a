import SchemaLint.Json.Token

/-!
# Reading JSON

The reader is a machine on tokens.  Its state says what may come next and which arrays and objects are open
around that place; one token takes it to the next state or to an error.  Reading is therefore a left fold over the
tokens, it ends with the tokens, and the first error is the one that is reported.

Two policies use it.  A document is read strictly: the constants that are not JSON are refused.  A schema is read
leniently.
-/

namespace SchemaLint

namespace Json

/-- What a text violates. -/
inductive Complaint
  | expectingValue
  | expectingName
  | expectingColon
  | expectingComma
  | extraData
  | byteOrderMark
  | string (fault : StringFault)
  deriving DecidableEq

def Complaint.message : Complaint → String
  | expectingValue => "Expecting value"
  | expectingName => "Expecting property name enclosed in double quotes"
  | expectingColon => "Expecting ':' delimiter"
  | expectingComma => "Expecting ',' delimiter"
  | extraData => "Extra data"
  | byteOrderMark => "Unexpected UTF-8 BOM (decode using utf-8-sig)"
  | string .unterminated => "Unterminated string starting at"
  | string .controlCharacter => "Invalid control character at"
  | string .unknownEscape => "Invalid \\escape"
  | string .badUnicodeEscape => "Invalid \\uXXXX escape"

/-- A place in a text: line and column count from one, the offset from zero. -/
structure Position where
  line : Nat
  column : Nat
  offset : Nat
  deriving DecidableEq

/-- The place of an offset.  Only a line feed ends a line. -/
def Position.ofOffset (t : Text) (offset : Nat) : Position :=
  let before := t.take offset
  let lineFeed := CodePoint.scalar '\n'
  let column := (before.reverse.takeWhile (fun c => c != lineFeed)).length + 1
  { line := before.count lineFeed + 1, column, offset }

def Position.message (p : Position) : String :=
  s!"line {p.line} column {p.column} (char {p.offset})"

/-- Why a text could not be read. -/
inductive ReadError
  | malformed (complaint : Complaint) (position : Position)
  | constant (c : Constant)
  | tooManyDigits (count : Nat)
  | tooDeep
  deriving DecidableEq

def digitLimit : Nat := 4300

def ReadError.message : ReadError → String
  | malformed complaint position => s!"{complaint.message}: {position.message}"
  | constant c => s!"Invalid literal {c.name}"
  | tooManyDigits count =>
    s!"Exceeds the limit ({digitLimit} digits) for integer string conversion: value has {count} digits; " ++
      "use sys.set_int_max_str_digits() to increase the limit"
  | tooDeep => "Document is nested too deeply"

/-- How much a reader puts up with. -/
structure Policy where
  /-- Whether the three constants are values. -/
  constants : Bool
  /-- How many arrays and objects may be open at once. -/
  depth : Nat

/-- Documents are read strictly. -/
def Policy.strict : Policy :=
  { constants := false, depth := 960 }

def Policy.lenient : Policy :=
  { constants := true, depth := 960 }

namespace Reader

/-- An open array or object around a value, with what it holds so far, last first. -/
inductive Frame
  | array (items : List Value)
  | object (pairs : List (Text × Value)) (key : Text)

/-- What may come next, and what is open around it. -/
inductive State
  | value (stack : List Frame)
  | firstItem (stack : List Frame)
  | afterItem (items : List Value) (stack : List Frame)
  | firstName (stack : List Frame)
  | name (pairs : List (Text × Value)) (stack : List Frame)
  | colon (pairs : List (Text × Value)) (key : Text) (stack : List Frame)
  | afterMember (pairs : List (Text × Value)) (stack : List Frame)
  | done (v : Value)

/-- An error before its offset has been turned into a place. -/
inductive Fault
  | malformed (complaint : Complaint) (offset : Nat)
  | constant (c : Constant)
  | tooManyDigits (count : Nat)
  | tooDeep

/-- Hand a finished value to what is open around it. -/
def complete (v : Value) : List Frame → State
  | [] => .done v
  | .array items :: stack => .afterItem (v :: items) stack
  | .object pairs key :: stack => .afterMember ((key, v) :: pairs) stack

/-- The value of a number literal; an integer of too many digits has none. -/
def numberValue : NumberLiteral → Except Fault Value
  | .int negative digits =>
    if digitLimit < digits.length then .error (.tooManyDigits digits.length)
    else
      let size : Int := Token.spell digits
      .ok (.int (if negative then -size else size))
  | .float negative whole fraction power =>
    .ok (.float (Binary64.ofDecimal negative (Token.spell (whole ++ fraction)) (power - fraction.length)))

def takeValue (policy : Policy) (stack : List Frame) (p : Placed) : Except Fault State :=
  match p.token with
  | .null => .ok (complete .null stack)
  | .bool b => .ok (complete (.bool b) stack)
  | .string s => .ok (complete (.string s) stack)
  | .number literal => (numberValue literal).map (complete · stack)
  | .constant c => if policy.constants then .ok (complete (.float c.value) stack) else .error (.constant c)
  | .openArray => if stack.length < policy.depth then .ok (.firstItem stack) else .error .tooDeep
  | .openObject => if stack.length < policy.depth then .ok (.firstName stack) else .error .tooDeep
  | .badString fault offset => .error (.malformed (.string fault) offset)
  | _ => .error (.malformed .expectingValue p.offset)

/-- Take a token where the name of a member must come. -/
def takeName (pairs : List (Text × Value)) (stack : List Frame) (p : Placed) : Except Fault State :=
  match p.token with
  | .string s => .ok (.colon pairs s stack)
  | .badString fault offset => .error (.malformed (.string fault) offset)
  | _ => .error (.malformed .expectingName p.offset)

/-- One token takes the machine to its next state or to an error. -/
def step (policy : Policy) (state : State) (p : Placed) : Except Fault State :=
  match state with
  | .value stack => takeValue policy stack p
  | .firstItem stack =>
    if p.token = .closeArray then .ok (complete (.array []) stack) else takeValue policy (.array [] :: stack) p
  | .afterItem items stack =>
    if p.token = .comma then .ok (.value (.array items :: stack))
    else if p.token = .closeArray then .ok (complete (.array items.reverse) stack)
    else .error (.malformed .expectingComma p.offset)
  | .firstName stack =>
    if p.token = .closeObject then .ok (complete (.object []) stack) else takeName [] stack p
  | .name pairs stack => takeName pairs stack p
  | .colon pairs key stack =>
    if p.token = .colon then .ok (.value (.object pairs key :: stack))
    else .error (.malformed .expectingColon p.offset)
  | .afterMember pairs stack =>
    if p.token = .comma then .ok (.name pairs stack)
    else if p.token = .closeObject then .ok (complete (.object (Members.ofPairs pairs.reverse)) stack)
    else .error (.malformed .expectingComma p.offset)
  | .done v => if p.token = .stop then .ok (.done v) else .error (.malformed .extraData p.offset)

def run (policy : Policy) (state : State) (tokens : List Placed) : Except Fault State :=
  tokens.foldlM (step policy) state

def ofTokens (policy : Policy) (tokens : List Placed) : Except Fault Value := do
  match ← run policy (.value []) tokens with
  | .done v => .ok v
  | _ => .error (.malformed .expectingValue 0)

/-- Place a fault in its text. -/
def Fault.toError (t : Text) : Fault → ReadError
  | .malformed complaint offset => .malformed complaint (Position.ofOffset t offset)
  | .constant c => .constant c
  | .tooManyDigits count => .tooManyDigits count
  | .tooDeep => .tooDeep

end Reader

def readDecoded (policy : Policy) (t : Text) : Except ReadError Value :=
  (Reader.ofTokens policy (Token.scan t)).mapError (Reader.Fault.toError t)

/-- Read a text; a byte order mark at its start is refused. -/
def read (policy : Policy) (t : Text) : Except ReadError Value :=
  if t.head? = some (.scalar '\uFEFF') then .error (.malformed .byteOrderMark (Position.ofOffset t 0))
  else readDecoded policy t

end Json

end SchemaLint
