import SchemaLint.Json.Part
import SchemaLint.Json.Reader
import SchemaLint.Proofs.Json.Body
import SchemaLint.Proofs.Json.Numeral
import SchemaLint.Proofs.Results

/-!
# The lexemes of a text

A text that can be read is a sequence of lexemes: whitespace, marks, words and numbers, and string literals.  Each but
the whitespace is one token, and what the text is read as depends on the tokens alone.  Words and numbers have to end
before whitespace, a mark or the end of the text; that they do is for the grammar to say, which never has one of them
right behind the other.
-/

namespace SchemaLint

namespace Json

open Token (points mark? IsBody IsNumeral EndsNumber scanFrom)

/-- A lexeme: how it is spelled, and the token that it is. -/
inductive Lexeme
  | blank (c : CodePoint)
  | mark (c : CodePoint) (token : Token)
  /-- A word or a number. -/
  | atom (cs : List Char) (token : Token)
  | literal (body said : Text)

namespace Lexeme

/-- How a lexeme is spelled. -/
def text : Lexeme -> Text
  | blank c => [c]
  | mark c _ => [c]
  | atom cs _ => points cs
  | literal body _ => .scalar '"' :: (body ++ [.scalar '"'])

/-- The token that a lexeme is, if it is one. -/
def tokens : Lexeme -> List Token
  | blank _ => []
  | mark _ token => [token]
  | atom _ token => [token]
  | literal _ said => [.string said]

/-- A lexeme is spelled as its token is. -/
inductive IsValid : Lexeme -> Prop
  | blank (c : CodePoint) (isBlank : Token.isBlank c = true) : IsValid (.blank c)
  | mark (c : CodePoint) (token : Token) (isMark : mark? c = some token) : IsValid (.mark c token)
  | word (name : String) (token : Token) (isWord : (name, token) ∈ Token.words) : IsValid (.atom name.toList token)
  | number (cs : List Char) (literal : NumberLiteral) (isNumeral : IsNumeral cs literal) :
      IsValid (.atom cs (.number literal))
  | literal (body said : Text) (isBody : IsBody body said) : IsValid (.literal body said)

/-- A word or a number. -/
def IsAtom : Lexeme -> Prop
  | atom _ _ => True
  | _ => False

end Lexeme

/-- A text before which a word or a number can end. -/
def IsBounded (t : Text) : Prop :=
  forall c rest, t = c :: rest -> Token.isBlank c = true ∨ exists token, mark? c = some token

/-- The text of some lexemes. -/
def textOf (ls : List Lexeme) : Text :=
  ls.flatMap Lexeme.text

/-- The tokens of some lexemes. -/
def tokensOf (ls : List Lexeme) : List Token :=
  ls.flatMap Lexeme.tokens

/-- Lexemes that can be told from each other in their text. -/
inductive AreLexemes : List Lexeme -> Prop
  | nil : AreLexemes []
  | cons {l : Lexeme} {ls : List Lexeme} (isValid : l.IsValid) (isBounded : l.IsAtom -> IsBounded (textOf ls))
      (rest : AreLexemes ls) : AreLexemes (l :: ls)

/-! ## What lexemes begin with -/

theorem isBlank_iff {c : CodePoint} : Token.isBlank c = true <-> c = ' ' ∨ c = '\t' ∨ c = '\n' ∨ c = '\r' := by
  cases c with
  | scalar c => simp [Token.isBlank, or_assoc]
  | surrogate offset => simp [Token.isBlank]

/-- The marks. -/
inductive IsMark : CodePoint -> Token -> Prop
  | openObject : IsMark '{' .openObject
  | closeObject : IsMark '}' .closeObject
  | openArray : IsMark '[' .openArray
  | closeArray : IsMark ']' .closeArray
  | colon : IsMark ':' .colon
  | comma : IsMark ',' .comma

theorem isMark_of_mark? {c : CodePoint} {token : Token} (found : mark? c = some token) : IsMark c token := by
  unfold mark? at found
  split at found <;> cases found <;> constructor

/-- The words. -/
inductive IsWord : String -> Token -> Prop
  | null : IsWord "null" .null
  | true : IsWord "true" (.bool true)
  | false : IsWord "false" (.bool false)
  | nan : IsWord "NaN" (.constant .nan)
  | infinity : IsWord "Infinity" (.constant .infinity)
  | minusInfinity : IsWord "-Infinity" (.constant .minusInfinity)

theorem isWord_of_mem {name : String} {token : Token} (member : (name, token) ∈ Token.words) : IsWord name token := by
  simp only [Token.words, List.mem_cons, Prod.mk.injEq, List.not_mem_nil, or_false] at member
  rcases member with ⟨rfl, rfl⟩ | ⟨rfl, rfl⟩ | ⟨rfl, rfl⟩ | ⟨rfl, rfl⟩ | ⟨rfl, rfl⟩ | ⟨rfl, rfl⟩ <;> constructor

/-- A code point that begins no number ends one, unless it is a point or begins an exponent. -/
theorem IsBounded.endsNumber {t : Text} (isBounded : IsBounded t) : EndsNumber t := by
  have head : forall c rest, t = c :: rest ->
      c ∈ ([' ', '\t', '\n', '\r', '{', '}', '[', ']', ':', ','] : List CodePoint) := by
    intro c rest same
    rcases isBounded c rest same with blank | ⟨token, isMark⟩
    · rcases isBlank_iff.mp blank with rfl | rfl | rfl | rfl <;> simp
    · cases isMark_of_mark? isMark <;> simp
  refine ⟨fun c rest same => ?_, fun rest same => ?_, fun e rest same => ?_⟩
  · have member := head c rest same
    simp only [List.mem_cons, List.not_mem_nil, or_false] at member
    rcases member with rfl | rfl | rfl | rfl | rfl | rfl | rfl | rfl | rfl | rfl <;> rfl
  · have member := head _ rest same
    simp at member
  · have member := head _ rest same
    constructor
    · rintro rfl
      simp at member
    · rintro rfl
      simp at member

/-- Characters that begin no whitespace, mark or literal. -/
structure BeginsAtom (c : Char) : Prop where
  notBlank : Token.isBlank (.scalar c) = false
  notQuote : c ≠ '"'
  notMark : mark? (.scalar c) = none

theorem beginsAtom_of_digit {c : Char} (digit : c.isDigit = true) : BeginsAtom c := by
  have other : forall d : Char, d.isDigit = false -> c ≠ d := by
    rintro d notDigit rfl
    rw [digit] at notDigit
    cases notDigit
  refine ⟨?_, other '"' rfl, ?_⟩
  · simp [Token.isBlank, other ' ' rfl, other '\t' rfl, other '\n' rfl, other '\r' rfl]
  · unfold mark?
    split
    next same => exact absurd (CodePoint.scalar.inj same) (other '{' rfl)
    next same => exact absurd (CodePoint.scalar.inj same) (other '}' rfl)
    next same => exact absurd (CodePoint.scalar.inj same) (other '[' rfl)
    next same => exact absurd (CodePoint.scalar.inj same) (other ']' rfl)
    next same => exact absurd (CodePoint.scalar.inj same) (other ':' rfl)
    next same => exact absurd (CodePoint.scalar.inj same) (other ',' rfl)
    next => rfl

/-- A number begins with a digit, perhaps behind a minus. -/
theorem exists_digit_of_numeral {cs : List Char} {literal : NumberLiteral} (isNumeral : IsNumeral cs literal) :
    exists d rest, d.isDigit = true ∧ (cs = d :: rest ∨ cs = '-' :: d :: rest) := by
  have begins : forall negative ds rest, Token.IsWhole ds ->
      exists d rest', d.isDigit = true ∧
        (Token.minus negative ++ (ds ++ rest) = d :: rest' ∨ Token.minus negative ++ (ds ++ rest) = '-' :: d :: rest') := by
    intro negative ds rest isWhole
    obtain ⟨d, ds', rfl⟩ := List.exists_cons_of_ne_nil isWhole.nonempty
    refine ⟨d, ds' ++ rest, isWhole.all d (List.mem_cons_self ..), ?_⟩
    cases negative with
    | true => exact Or.inr rfl
    | false => exact Or.inl rfl
  cases isNumeral with
  | int negative ds isWhole =>
    have whole := begins negative ds [] isWhole
    rwa [List.append_nil] at whole
  | fraction negative ds part isWhole nonempty all => exact begins negative ds _ isWhole
  | exponent negative ds part exponent power isWhole all isExponent => exact begins negative ds _ isWhole

/-- What a number or a word begins with. -/
theorem exists_beginsAtom {cs : List Char} {token : Token} (isValid : (Lexeme.atom cs token).IsValid) :
    exists c rest, cs = c :: rest ∧ BeginsAtom c := by
  cases isValid with
  | word name token isWord =>
    cases isWord_of_mem isWord <;> exact ⟨_, _, rfl, rfl, by decide, rfl⟩
  | number cs literal isNumeral =>
    obtain ⟨d, rest, digit, rfl | rfl⟩ := exists_digit_of_numeral isNumeral
    · exact ⟨d, rest, rfl, beginsAtom_of_digit digit⟩
    · exact ⟨'-', d :: rest, rfl, rfl, by decide, rfl⟩

/-! ## Words and numbers -/

/-- A word is found whatever follows it. -/
theorem word?_complete {name : String} {token : Token} (isWord : (name, token) ∈ Token.words) (rest : Text) :
    Token.word? (points name.toList ++ rest) = some (token, name.toList.length) := by
  cases isWord_of_mem isWord <;> rfl

/-- What is found is a word. -/
theorem word?_sound {t : Text} {token : Token} {length : Nat} (found : Token.word? t = some (token, length)) :
    exists name rest, (name, token) ∈ Token.words ∧ t = points name.toList ++ rest ∧ length = name.toList.length := by
  obtain ⟨⟨name, token'⟩, isWord, found⟩ := List.exists_of_findSome?_eq_some found
  simp only at found
  split at found
  next front =>
    cases found
    obtain ⟨rest, rfl⟩ := List.isPrefixOf_iff_prefix.mp front
    exact ⟨name, rest, isWord, rfl, (String.length_toList).symm⟩
  next => cases found

/-- No word begins like a number. -/
theorem word?_of_numeral {cs : List Char} {literal : NumberLiteral} (isNumeral : IsNumeral cs literal) (rest : Text) :
    Token.word? (points cs ++ rest) = none := by
  have notLetter : forall d : Char, d.isDigit = true -> forall c : Char, c.isDigit = false -> (c == d) = false := by
    intro d digit c letter
    rw [beq_eq_false_iff_ne]
    rintro rfl
    rw [digit] at letter
    cases letter
  cases found : Token.word? (points cs ++ rest) with
  | none => rfl
  | some pair =>
    obtain ⟨token, length⟩ := pair
    obtain ⟨name, rest', isWord, same, -⟩ := word?_sound found
    have isWord := isWord_of_mem isWord
    obtain ⟨d, ds, digit, rfl | rfl⟩ := exists_digit_of_numeral isNumeral
    · have head : forall c cs', name.toList = c :: cs' -> c = d := by
        intro c cs' spelled
        rw [spelled] at same
        exact (CodePoint.scalar.inj (List.cons.inj same).1).symm
      cases isWord <;> cases head _ _ rfl <;> cases digit
    · have head : forall c c' cs', name.toList = c :: c' :: cs' -> c = '-' ∧ c' = d := by
        intro c c' cs' spelled
        rw [spelled] at same
        obtain ⟨first, same⟩ := List.cons.inj same
        exact ⟨(CodePoint.scalar.inj first).symm, (CodePoint.scalar.inj (List.cons.inj same).1).symm⟩
      cases isWord <;> obtain ⟨first, second⟩ := head _ _ _ rfl <;> cases first
      cases second
      cases digit

end Json

end SchemaLint
