import SchemaLint.Proofs.Json.Layout

/-!
# The structure of a layout

Without its whitespace a JSON text spells out a syntax tree, and a tree has a natural way to be printed: every container
puts each of its parts on a line of its own, one level deeper than its brackets.  The pretty printer knows nothing of
trees.  It passes over the text once, with a depth and a flag for string literals, and decides at every character
what to write.

The main result says that both come to the same.  It concerns every tree and every way to write it with spaces, tabs and
line feeds around its tokens, and it holds for any indent, whitespace or not.  The one condition is that no string
literal has a backslash right before its closing quote, which the flag would take for an escape.

The scan is described by what it writes for a sequence of tokens when it starts between tokens at a known depth.  Such
descriptions can be put one behind the other, so that the induction over the tree never looks at characters.
-/

namespace SchemaLint

namespace Json

open Token (points IsBody IsNumeral)

/-- A string literal, as it is spelled between its quotes. -/
structure Literal where
  body : Text
  isBody : exists said, IsBody body said

namespace Literal

/-- The literal with its quotes. -/
def text (l : Literal) : Text :=
  .scalar '"' :: (l.body ++ [.scalar '"'])

/-- No backslash stands right before the closing quote. -/
def EndsPlainly (l : Literal) : Prop :=
  l.body.getLast? ≠ some (.scalar '\\')

end Literal

/-- A syntax tree.  Numbers, words and string literals are kept as they are spelled. -/
inductive Tree
  | number (spelling : List Char) (isNumeral : exists literal, IsNumeral spelling literal)
  | word (name : String) (isWord : exists token, (name, token) ∈ Token.words)
  | string (literal : Literal)
  | array (items : List Tree)
  | object (members : List (Literal × Tree))

namespace Tree

/-- The tokens of a container: those of its parts with commas between them, inside its brackets. -/
def containerTokens (opener closer : CodePoint) (parts : List (List Text)) : List Text :=
  [opener] :: (List.intercalate [[.scalar ',']] parts ++ [[closer]])

mutual

/-- The tokens of a tree in order. -/
def tokens : Tree -> List Text
  | number spelling _ => [points spelling]
  | word name _ => [points name.toList]
  | string literal => [literal.text]
  | array items => containerTokens '[' ']' (itemTokens items)
  | object members => containerTokens '\x7b' '\x7d' (memberTokens members)

/-- The tokens of each item. -/
def itemTokens : List Tree -> List (List Text)
  | [] => []
  | item :: rest => tokens item :: itemTokens rest

/-- The tokens of each member. -/
def memberTokens : List (Literal × Tree) -> List (List Text)
  | [] => []
  | (key, value) :: rest => (key.text :: [.scalar ':'] :: tokens value) :: memberTokens rest

end

mutual

/-- The string literals of a tree, keys included. -/
def literals : Tree -> List Literal
  | number _ _ | word _ _ => []
  | string literal => [literal]
  | array items => itemLiterals items
  | object members => memberLiterals members

/-- The string literals of some items. -/
def itemLiterals : List Tree -> List Literal
  | [] => []
  | item :: rest => literals item ++ itemLiterals rest

/-- The string literals of some members. -/
def memberLiterals : List (Literal × Tree) -> List Literal
  | [] => []
  | (key, value) :: rest => key :: (literals value ++ memberLiterals rest)

end

/-- No string literal of a tree has a backslash right before its closing quote. -/
def EndsPlainly (tree : Tree) : Prop :=
  forall literal, literal ∈ tree.literals -> literal.EndsPlainly

/-! ## Printing by structure -/

/-- A line feed, and the indent as often as a depth says. -/
def lineBreak (indent : Text) (depth : Nat) : Text :=
  .scalar '\n' :: (List.replicate depth indent).flatten

/-- A container at a depth, given its parts as they are printed one level deeper.  One without parts has a line of its own
between its brackets as well, with nothing but the indent on it. -/
def printContainer (indent : Text) (depth : Nat) (opener closer : CodePoint) : List Text -> Text
  | [] => opener :: (lineBreak indent (depth + 1) ++ (lineBreak indent depth ++ [closer]))
  | first :: others =>
    opener :: (List.intercalate [.scalar ','] ((first :: others).map fun part => lineBreak indent (depth + 1) ++ part) ++
      (lineBreak indent depth ++ [closer]))

mutual

/-- The text of a tree at a depth. -/
def print (indent : Text) (depth : Nat) : Tree -> Text
  | number spelling _ => points spelling
  | word name _ => points name.toList
  | string literal => literal.text
  | array items => printContainer indent depth '[' ']' (printItems indent (depth + 1) items)
  | object members => printContainer indent depth '\x7b' '\x7d' (printMembers indent (depth + 1) members)

/-- The texts of items at a depth. -/
def printItems (indent : Text) (depth : Nat) : List Tree -> List Text
  | [] => []
  | item :: rest => print indent depth item :: printItems indent depth rest

/-- The texts of members at a depth. -/
def printMembers (indent : Text) (depth : Nat) : List (Literal × Tree) -> List Text
  | [] => []
  | (key, value) :: rest => (key.text ++ (.scalar ':' :: .scalar ' ' :: print indent depth value)) ::
      printMembers indent depth rest

end

end Tree

/-! ## Writing tokens -/

/-- Whitespace other than carriage returns. -/
def IsGap (t : Text) : Prop :=
  forall c, c ∈ t -> c = .scalar ' ' ∨ c = .scalar '\t' ∨ c = .scalar '\n'

/-- A text in which some tokens stand one behind the other, with gaps before, between and behind them. -/
inductive Spaced : List Text -> Text -> Prop
  | nil {gap : Text} (isGap : IsGap gap) : Spaced [] gap
  | cons {gap rest : Text} {tokens : List Text} (token : Text) (isGap : IsGap gap) (others : Spaced tokens rest) :
      Spaced (token :: tokens) (gap ++ (token ++ rest))

theorem spaced_append {front back : List Text} {t : Text} (spaced : Spaced (front ++ back) t) :
    exists t' t'', t = t' ++ t'' ∧ Spaced front t' ∧ Spaced back t'' := by
  induction front generalizing t with
  | nil => exact ⟨[], t, rfl, .nil nofun, spaced⟩
  | cons token front ih =>
      cases spaced with
      | cons _ isGap others =>
          rcases ih others with ⟨t', t'', rfl, first, second⟩
          refine ⟨_, t'', ?_, .cons token isGap first, second⟩
          simp only [List.append_assoc]

namespace Layout

/-- Starting between tokens at a depth, the scan writes some tokens as a text, however they are spaced, and comes to stand
between tokens at another depth. -/
def Writes (indent : Text) (depth : Nat) (tokens : List Text) (text : Text) (depth' : Nat) : Prop :=
  forall s t, Outside s depth -> Spaced tokens t -> chars indent s t = text ∧ Outside (behind s t) depth'

/-- Outside of literals a gap is dropped, and it leaves no trace but that something else stands before what comes next. -/
theorem scan_gap (indent : Text) {s : State} (outside : s.inString = false) {gap : Text} (isGap : IsGap gap) :
    chars indent s gap = [] ∧ behind s gap = { s with previous := gap.getLast?.or s.previous } := by
  induction gap generalizing s with
  | nil => exact ⟨rfl, rfl⟩
  | cons c gap ih =>
      have blank := isGap c List.mem_cons_self
      have dropped : emit indent s c = [] ∧ next s c = { s with previous := some c } := by
        rcases blank with rfl | rfl | rfl <;> exact ⟨by simp [emit, outside], by simp [next, outside]⟩
      have later := ih (s := { s with previous := some c }) outside fun d member => isGap d (List.mem_cons_of_mem c member)
      constructor
      · rw [chars, dropped.1, dropped.2, later.1]
        rfl
      · change behind (next s c) gap = _
        rw [dropped.2, later.2, List.getLast?_cons]
        cases gap.getLast? <;> rfl

/-- A gap brings no backslash before what comes next. -/
theorem previous_gap {gap : Text} (isGap : IsGap gap) {previous : Option CodePoint}
    (escaped : gap.getLast?.or previous = some (.scalar '\\')) : previous = some (.scalar '\\') := by
  cases last : gap.getLast? with
  | none =>
      rw [last] at escaped
      exact escaped
  | some c =>
      rw [last] at escaped
      cases escaped
      rcases isGap _ (List.mem_of_getLast? last) with same | same | same <;> cases same

theorem chars_gap (indent : Text) {s : State} {depth : Int} (outside : Outside s depth) {gap : Text} (isGap : IsGap gap) :
    chars indent s gap = [] ∧ Outside (behind s gap) depth := by
  rcases outside with ⟨notInside, notEscaped, sameDepth⟩
  have scanned := scan_gap indent notInside isGap
  refine ⟨scanned.1, ?_⟩
  rw [scanned.2]
  exact ⟨notInside, fun escaped => notEscaped (previous_gap isGap escaped), sameDepth⟩

namespace Writes

variable {indent : Text}

theorem nil (depth : Nat) : Writes indent depth [] [] depth := by
  intro s t outside spaced
  cases spaced with
  | nil isGap => exact chars_gap indent outside isGap

/-- What is written for tokens one behind the other. -/
theorem append {depth depth' depth'' : Nat} {front back : List Text} {text text' : Text}
    (first : Writes indent depth front text depth') (second : Writes indent depth' back text' depth'') :
    Writes indent depth (front ++ back) (text ++ text') depth'' := by
  intro s t outside spaced
  rcases spaced_append spaced with ⟨t', t'', rfl, spaced', spaced''⟩
  have here := first s t' outside spaced'
  have there := second (behind s t') t'' here.2 spaced''
  constructor
  · rw [chars_append, here.1, there.1]
  · unfold behind
    rw [List.foldl_append]
    exact there.2

/-- One token, if what the scan makes of it is known. -/
theorem token {depth depth' : Nat} {spelling text : Text}
    (scanned : forall s, Outside s depth ->
      chars indent s spelling = text ∧ Outside (behind s spelling) depth') :
    Writes indent depth [spelling] text depth' := by
  intro s t outside spaced
  cases spaced with
  | @cons gap rest _ _ isGap others =>
      cases others with
      | nil isGap' =>
          have before := chars_gap indent outside isGap
          have here := scanned _ before.2
          have behind' := chars_gap indent here.2 isGap'
          constructor
          · rw [chars_append, chars_append, before.1, here.1, behind'.1, List.nil_append, List.append_nil]
          · unfold behind at behind' ⊢
            rw [List.foldl_append, List.foldl_append]
            exact behind'.2

theorem cons {depth depth' depth'' : Nat} {spelling text text' : Text} {tokens : List Text}
    (first : Writes indent depth [spelling] text depth') (others : Writes indent depth' tokens text' depth'') :
    Writes indent depth (spelling :: tokens) (text ++ text') depth'' :=
  first.append others

theorem points {depth : Nat} {cs : List Char} (inner : AreInner cs) :
    Writes indent depth [Token.points cs] (Token.points cs) depth := by
  apply token
  intro s outside
  have scanned := scan_points indent outside inner
  exact ⟨scanned.1, scanned.2.2⟩

/-- The condition on the end of a literal is needed here and nowhere else. -/
theorem literal {depth : Nat} {l : Literal} (plain : l.EndsPlainly) : Writes indent depth [l.text] l.text depth := by
  apply token
  intro s outside
  rcases l.isBody with ⟨said, isBody⟩
  have scanned := scan_lexeme indent outside (.literal l.body said isBody) plain
  exact ⟨scanned.1.trans (List.append_nil _), scanned.2.2⟩

/-! ### Marks -/

theorem newline_eq (depth : Nat) : newline indent depth = Tree.lineBreak indent depth :=
  rfl

theorem opener {depth : Nat} {c : CodePoint} (opens : c = .scalar '[' ∨ c = .scalar '\x7b') :
    Writes indent depth [[c]] (c :: Tree.lineBreak indent (depth + 1)) (depth + 1) := by
  apply token
  rintro s ⟨notInside, notEscaped, sameDepth⟩
  rw [← newline_eq]
  rcases opens with rfl | rfl <;>
    refine ⟨?_, ?_, ?_, ?_⟩ <;>
    simp [chars, emit, behind, next, notInside, sameDepth]

theorem closer {depth : Nat} {c : CodePoint} (closes : c = .scalar ']' ∨ c = .scalar '\x7d') :
    Writes indent (depth + 1) [[c]] (Tree.lineBreak indent depth ++ [c]) depth := by
  apply token
  rintro s ⟨notInside, notEscaped, sameDepth⟩
  rw [← newline_eq]
  rcases closes with rfl | rfl <;>
    refine ⟨?_, ?_, ?_, ?_⟩ <;>
    simp [chars, emit, behind, next, notInside, sameDepth]

theorem comma (depth : Nat) : Writes indent depth [[.scalar ',']] (.scalar ',' :: Tree.lineBreak indent depth) depth := by
  apply token
  rintro s ⟨notInside, notEscaped, sameDepth⟩
  rw [← newline_eq]
  refine ⟨?_, ?_, ?_, ?_⟩ <;> simp [chars, emit, behind, next, notInside, sameDepth]

theorem colon (depth : Nat) : Writes indent depth [[.scalar ':']] [.scalar ':', .scalar ' '] depth := by
  apply token
  rintro s ⟨notInside, notEscaped, sameDepth⟩
  refine ⟨?_, ?_, ?_, ?_⟩ <;> simp [chars, emit, behind, next, notInside, sameDepth]

/-! ### Containers -/

/-- Parts with commas between them; behind each comma a new line begins. -/
theorem separated {depth : Nat} {parts : List (List Text)} {texts : List Text}
    (each : List.Forall₂ (fun tokens text => Writes indent depth tokens text depth) parts texts) :
    Writes indent depth (List.intercalate [[.scalar ',']] parts)
      (List.intercalate (.scalar ',' :: Tree.lineBreak indent depth) texts) depth := by
  induction each with
  | nil => exact nil depth
  | @cons tokens text parts texts first rest ih =>
      cases rest with
      | nil =>
          rw [List.intercalate_singleton, List.intercalate_singleton]
          exact first
      | cons second more =>
          rw [List.intercalate_cons_cons, List.intercalate_cons_cons, List.append_assoc, List.append_assoc]
          exact first.append ((comma depth).append ih)

/-- Leading line breaks and line breaks behind the commas are the same. -/
theorem lineBreak_append_intercalate (depth : Nat) (text : Text) (texts : List Text) :
    Tree.lineBreak indent depth ++ List.intercalate (.scalar ',' :: Tree.lineBreak indent depth) (text :: texts) =
      List.intercalate [.scalar ','] ((text :: texts).map fun part => Tree.lineBreak indent depth ++ part) := by
  induction texts generalizing text with
  | nil => rw [List.map_singleton, List.intercalate_singleton, List.intercalate_singleton]
  | cons second more ih =>
      rw [List.map_cons, List.map_cons, List.intercalate_cons_cons, List.intercalate_cons_cons, ← List.map_cons, ← ih]
      simp only [List.append_assoc, List.cons_append, List.nil_append]

theorem container {depth : Nat} {o c : CodePoint} (opens : o = .scalar '[' ∨ o = .scalar '\x7b')
    (closes : c = .scalar ']' ∨ c = .scalar '\x7d') {parts : List (List Text)} {texts : List Text}
    (each : List.Forall₂ (fun tokens text => Writes indent (depth + 1) tokens text (depth + 1)) parts texts) :
    Writes indent depth (Tree.containerTokens o c parts) (Tree.printContainer indent depth o c texts) depth := by
  have whole := (opener opens).cons ((separated each).append (closer closes))
  unfold Tree.containerTokens
  convert whole using 1
  cases texts with
  | nil => rfl
  | cons text texts =>
      rw [Tree.printContainer, ← lineBreak_append_intercalate, List.cons_append, List.append_assoc]

/-! ### Trees -/

mutual

/-- The scan writes a tree as the structural printer does. -/
theorem tree (depth : Nat) : (tree : Tree) -> tree.EndsPlainly ->
    Writes indent depth tree.tokens (tree.print indent depth) depth
  | .number spelling isNumeral, _ => by
      rcases isNumeral with ⟨literal, isNumeral⟩
      exact points (areInner_of_numeral isNumeral)
  | .word name isWord, _ => by
      rcases isWord with ⟨token, isWord⟩
      exact points (areInner_of_atom (.word name token isWord))
  | .string l, plain => by
      have ends : l.EndsPlainly := plain l List.mem_cons_self
      exact literal ends
  | .array list, plain => container (.inl rfl) (.inl rfl) (items (depth + 1) list plain)
  | .object list, plain => container (.inr rfl) (.inr rfl) (members (depth + 1) list plain)

theorem items (depth : Nat) : (list : List Tree) ->
    (forall literal, literal ∈ Tree.itemLiterals list -> literal.EndsPlainly) ->
    List.Forall₂ (fun tokens text => Writes indent depth tokens text depth) (Tree.itemTokens list)
      (Tree.printItems indent depth list)
  | [], _ => .nil
  | item :: rest, plain => by
      have both := List.forall_mem_append.mp plain
      exact .cons (tree depth item both.1) (items depth rest both.2)

theorem members (depth : Nat) : (list : List (Literal × Tree)) ->
    (forall literal, literal ∈ Tree.memberLiterals list -> literal.EndsPlainly) ->
    List.Forall₂ (fun tokens text => Writes indent depth tokens text depth) (Tree.memberTokens list)
      (Tree.printMembers indent depth list)
  | [], _ => .nil
  | (key, value) :: rest, plain => by
      have first := List.forall_mem_cons.mp plain
      have others := List.forall_mem_append.mp first.2
      have named : Writes indent depth (key.text :: [.scalar ':'] :: value.tokens)
          (key.text ++ (.scalar ':' :: .scalar ' ' :: value.print indent depth)) depth :=
        (literal first.1).cons ((colon depth).cons (tree depth value others.1))
      exact .cons named (members depth rest others.2)

end

end Writes

end Layout

/-- However a tree is written with spaces, tabs and line feeds around its tokens, the pretty printer writes it as the
structural printer does. -/
theorem layoutText_of_spaced {tree : Tree} (plain : tree.EndsPlainly) {t : Text} (spaced : Spaced tree.tokens t)
    (indent : Text) : layoutText t indent = tree.print indent 0 := by
  rw [Layout.layoutText_eq_chars]
  exact (Layout.Writes.tree 0 tree plain Layout.start t Layout.outside_start spaced).1

/-! ### An object with two arrays, one of them empty -/

/-- The key `a\"`, with an escaped quote at its end. -/
def quotedKey : Literal where
  body := Text.ofString "a\\\""
  isBody := ⟨_, .plain 'a' (by decide) (by decide) (by decide) (.letter '"' '"' rfl .nil)⟩

/-- The key `b`. -/
def plainKey : Literal where
  body := Text.ofString "b"
  isBody := ⟨_, .plain 'b' (by decide) (by decide) (by decide) .nil⟩

theorem isWhole_one : Token.IsWhole ['1'] where
  nonempty := List.cons_ne_nil _ _
  all := List.forall_mem_singleton.mpr rfl
  zero := nofun

theorem isNumeral_minusOne : IsNumeral "-1.0".toList (.float true ['1'] ['0'] 0) :=
  .fraction true ['1'] ['0'] isWhole_one (List.cons_ne_nil _ _) (List.forall_mem_singleton.mpr rfl)

/-- The tree of an object with an empty array and an array of two items. -/
def twoArrays : Tree :=
  .object
    [(quotedKey, .array []),
      (plainKey, .array
        [.number "-1.0".toList ⟨_, isNumeral_minusOne⟩, .word "null" ⟨.null, List.mem_cons_self⟩])]

/-- The object with whitespace around some of its tokens. -/
def twoArraysText : Text :=
  Text.ofString "\x7b\"a\\\"\" :[ ],\n\t\"b\":[-1.0,null]\x7d\n"

theorem layoutText_twoArrays : twoArrays.EndsPlainly ∧ Spaced twoArrays.tokens twoArraysText ∧
    layoutText twoArraysText (Text.ofString "  ") = twoArrays.print (Text.ofString "  ") 0 ∧
    twoArrays.print (Text.ofString "  ") 0 = Text.ofString
      "\x7b\n  \"a\\\"\": [\n    \n  ],\n  \"b\": [\n    -1.0,\n    null\n  ]\n\x7d" := by
  have plain : twoArrays.EndsPlainly := by
    intro literal member
    have among : literal ∈ [quotedKey, plainKey] := member
    rcases List.mem_pair.mp among with rfl | rfl <;> unfold Literal.EndsPlainly <;> decide
  have blank : IsGap [.scalar ' '] := fun c member => .inl (List.mem_singleton.mp member)
  have line : IsGap [.scalar '\n'] := fun c member => .inr (.inr (List.mem_singleton.mp member))
  have indented : IsGap [.scalar '\n', .scalar '\t'] := by
    intro c member
    rcases List.mem_cons.mp member with rfl | member
    · exact .inr (.inr rfl)
    · exact .inr (.inl (List.mem_singleton.mp member))
  have none : IsGap [] := nofun
  have spaced : Spaced twoArrays.tokens twoArraysText :=
    .cons _ none (.cons _ none (.cons _ blank (.cons _ none (.cons _ blank (.cons _ none (.cons _ indented
      (.cons _ none (.cons _ none (.cons _ none (.cons _ none (.cons _ none (.cons _ none (.cons _ none
        (.nil line))))))))))))))
  exact ⟨plain, spaced, layoutText_of_spaced plain spaced _, by decide +kernel⟩

end Json

end SchemaLint
