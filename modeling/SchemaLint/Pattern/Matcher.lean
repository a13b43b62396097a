import SchemaLint.Pattern.Node

/-!
# Matching

A pattern is matched by trying its choices in order and going back to the last choice when the rest fails.  The
rest is a continuation, so that a pattern is run by recursion on its tree alone.  Only repetitions need a bound of
their own: an iteration that reads nothing is not followed by another one, hence a text of `n` code points allows at
most `n + 1` iterations that matter.
-/

namespace SchemaLint

namespace Pattern

/-- A place in the text, and what the groups have read, the last reading of a group first. -/
structure Cursor where
  place : Nat
  groups : List (Nat × Nat × Nat)

namespace Cursor

/-- Where a group's last reading begins and ends. -/
def reading? (c : Cursor) (index : Nat) : Option (Nat × Nat) :=
  c.groups.lookup index

def goTo (c : Cursor) (place : Nat) : Cursor :=
  { c with place }

/-- Note what a group has read from `start` to here. -/
def note (c : Cursor) (index start : Nat) : Cursor :=
  { c with groups := (index, start, c.place) :: c.groups }

end Cursor

/-- What is to be matched behind a part of a pattern. -/
abbrev Rest := Cursor → Option Cursor

/-- Whether a place is a boundary between a word and what is no word. -/
def isBoundary (flags : Flags) (subject : Array Nat) (place : Nat) : Bool :=
  let word (i : Nat) : Bool := (subject[i]?.map flags.isWord).getD false
  let before := if place = 0 then false else word (place - 1)
  before != word place

/-- Whether an anchor holds at a place. -/
def Anchor.holds (flags : Flags) (subject : Array Nat) (place : Nat) : Anchor → Bool
  | lineStart => place = 0 || (flags.multiline && subject[place - 1]? = some 0x0A)
  | lineEnd =>
    place = subject.size || (place + 1 = subject.size && subject[place]? = some 0x0A) ||
      (flags.multiline && subject[place]? = some 0x0A)
  | textStart => place = 0
  | textEnd => place = subject.size
  | boundary negated => subject.size != 0 && isBoundary flags subject place != negated

/-- Whether the text at a place repeats what was read before. -/
def repeatsAt (flags : Flags) (subject : Array Nat) (start stop place : Nat) : Bool :=
  place + (stop - start) ≤ subject.size &&
    (List.range (stop - start)).all fun i =>
      match subject[start + i]?, subject[place + i]? with
      | some m, some n => flags.lower m = flags.lower n
      | _, _ => false

def readPoint (subject : Array Nat) (accepts : Nat → Bool) (rest : Rest) (c : Cursor) : Option Cursor :=
  match subject[c.place]? with
  | some n => if accepts n then rest (c.goTo (c.place + 1)) else none
  | none => none

/--
Run the iterations of a repetition.  `count` iterations have been run, the last one from `last`.  Iterations that are
still owed are run first, and once one of them reads nothing the others would not either.
-/
def iterate (step : Rest → Rest) (greedy : Bool) (low : Nat) (high : Option Nat) (rest : Rest) :
    Nat → Nat → Option Nat → Rest
  | 0, _, _, _ => none
  | fuel + 1, count, last, c =>
    let again : Unit → Option Cursor := fun _ =>
      step (fun d =>
        let counted := if d.place = c.place && count + 1 < low then low else count + 1
        iterate step greedy low high rest fuel counted (some c.place) d) c
    if count < low then again ()
    else
      let open_ := (match high with | some h => count < h | none => true) && last != some c.place
      if greedy then
        match (if open_ then again () else none) with
        | some found => some found
        | none => rest c
      else
        match rest c with
        | some found => some found
        | none => if open_ then again () else none

/-- Match a pattern at a cursor, and behind it the rest. -/
def Node.run (subject : Array Nat) : Node → Rest → Rest
  | empty, rest, c => rest c
  | point flags n, rest, c => readPoint subject (flags.alike n) rest c
  | any flags, rest, c => readPoint subject (fun n => flags.dotAll || n != 0x0A) rest c
  | oneOf flags negated items, rest, c =>
    readPoint subject (fun n => (items.any fun item => item.contains flags n) != negated) rest c
  | anchor flags a, rest, c => if a.holds flags subject c.place then rest c else none
  | seq first second, rest, c => first.run subject (second.run subject rest) c
  | alt first second, rest, c =>
    match first.run subject rest c with
    | some found => some found
    | none => second.run subject rest c
  | repetition greed low high body, rest, c =>
    let fuel := subject.size + 3
    match greed with
    | .greedy => iterate (body.run subject) true low high rest fuel 0 none c
    | .lazy => iterate (body.run subject) false low high rest fuel 0 none c
    | .possessive =>
      match iterate (body.run subject) true low high some fuel 0 none c with
      | some found => rest found
      | none => none
  | group index body, rest, c => body.run subject (fun d => rest (d.note index c.place)) c
  | atomic body, rest, c =>
    match body.run subject some c with
    | some found => rest found
    | none => none
  | backReference flags index, rest, c =>
    match c.reading? index with
    | some (start, stop) =>
      if repeatsAt flags subject start stop c.place then rest (c.goTo (c.place + (stop - start))) else none
    | none => none
  | ahead negated body, rest, c =>
    match body.run subject some c with
    | some found => if negated then none else rest (found.goTo c.place)
    | none => if negated then rest c else none
  | behind negated width body, rest, c =>
    let found := if width ≤ c.place then body.run subject some (c.goTo (c.place - width)) else none
    match found with
    | some found => if negated then none else rest (found.goTo c.place)
    | none => if negated then rest c else none
  | conditional index yes no, rest, c =>
    if (c.reading? index).isSome then yes.run subject rest c else no.run subject rest c

/-- Whether a pattern matches somewhere in a text. -/
def Node.found (node : Node) (t : Text) : Bool :=
  let subject := (t.map CodePoint.val).toArray
  (List.range (subject.size + 1)).any fun place => (node.run subject some ⟨place, []⟩).isSome

end Pattern

end SchemaLint
