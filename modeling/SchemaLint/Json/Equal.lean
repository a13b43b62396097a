import SchemaLint.Json.Value

/-!
# Equality of JSON values

A schema compares values as data: numbers by value in whichever kind they are written, members in any order, and
a truth value with nothing but itself.  Whether the items of an array are all different is decided by sorting where
the items can be sorted and comparing neighbours; only arrays that cannot be sorted are compared pair by pair.  The
sorting takes truth values inside of items for the numbers zero and one, and a number that is no number ranks neither
above nor below anything, so equal items need not become neighbours.  What such items end up beside depends on how the
sorting goes: the items that rise or fall from the start on stay in their order or are turned round, and each of the
others is put into its place by halving.
-/

namespace SchemaLint

namespace Json

namespace Value

mutual

/-- Whether two values are the same data. -/
def same : Value → Value → Bool
  | null, null => true
  | bool a, bool b => a == b
  | int m, int n => m == n
  | int m, float y => (Number.int m).same (.float y)
  | float x, int n => (Number.float x).same (.int n)
  | float x, float y => x == y || (Number.float x).same (.float y)
  | string s, string t => s == t
  | array xs, array ys => sameItems xs ys
  | object ms, object ns => ms.length == ns.length && sameMembers ms ns
  | _, _ => false

/-- Whether two arrays hold the same items in the same order. -/
def sameItems : List Value → List Value → Bool
  | [], [] => true
  | x :: xs, y :: ys => same x y && sameItems xs ys
  | _, _ => false

/-- Whether every member is also a member of the other object. -/
def sameMembers : List (Text × Value) → List (Text × Value) → Bool
  | [], _ => true
  | (k, v) :: rest, other =>
    (match Members.get? k other with
      | some w => same v w
      | none => false) &&
      sameMembers rest other

end

/-! ## All different -/

/-- The number that a value counts as when items are sorted: a truth value counts as zero or one. -/
def rank? : Value → Option Number
  | bool b => some (.int (if b then 1 else 0))
  | int n => some (.int n)
  | float x => some (.float x)
  | _ => none

mutual

/-- Whether two values rank the same. -/
def alike : Value → Value → Bool
  | null, null => true
  | bool a, v => match v.rank? with
    | some y => (Number.int (if a then 1 else 0)).same y
    | none => false
  | int m, v => match v.rank? with
    | some y => (Number.int m).same y
    | none => false
  | float x, v => match v with
    | float y => x == y || (Number.float x).same (.float y)
    | _ => match v.rank? with
      | some y => (Number.float x).same y
      | none => false
  | string s, string t => s == t
  | array xs, array ys => alikeItems xs ys
  | object ms, object ns => ms.length == ns.length && alikeMembers ms ns
  | _, _ => false

/-- Whether two arrays rank the same item by item. -/
def alikeItems : List Value → List Value → Bool
  | [], [] => true
  | x :: xs, y :: ys => alike x y && alikeItems xs ys
  | _, _ => false

/-- Whether every member ranks the same as that of the other object. -/
def alikeMembers : List (Text × Value) → List (Text × Value) → Bool
  | [], _ => true
  | (k, v) :: rest, other =>
    (match Members.get? k other with
      | some w => alike v w
      | none => false) &&
      alikeMembers rest other

end

mutual

/-- Whether one value ranks below another; none if the two cannot be ranked. -/
def below? : Value → Value → Option Bool
  | string s, string t => some (Text.compare s t == .lt)
  | array xs, array ys => belowItems? xs ys
  | null, _ | object _, _ => none
  | v, w =>
    match v.rank?, w.rank? with
    | some x, some y => some (x.lt y)
    | _, _ => none

/-- Arrays rank by the first item in which they differ, a proper beginning first. -/
def belowItems? : List Value → List Value → Option Bool
  | _, [] => some false
  | [], _ :: _ => some true
  | x :: xs, y :: ys => if alike x y then belowItems? xs ys else below? x y

end

/-- Rank the items of an array themselves: truth values and null have no rank there. -/
def itemBelow? : Value → Value → Option Bool
  | bool _, _ | _, bool _ => none
  | v, w => below? v w

/-- Put an item into its place among ranked ones, behind those that it does not rank below. -/
def insertRanked? (v : Value) : Nat → List Value → List Value → Option (List Value)
  | 0, low, high => some (low ++ v :: high)
  | fuel + 1, low, high =>
    match high with
    | [] => some (low ++ [v])
    | _ =>
      let middle := high.length / 2
      match high.drop middle with
      | [] => some (low ++ v :: high)
      | w :: above =>
        match itemBelow? v w with
        | none => none
        | some true =>
          (insertRanked? v fuel low (high.take middle)).map fun placed => placed ++ w :: above
        | some false => insertRanked? v fuel (low ++ high.take middle ++ [w]) above

/-- The number of further items that fall, or that do not, one after the other; none if two of them cannot be ranked. -/
def runLength? (falling : Bool) (v : Value) : List Value → Option Nat
  | [] => some 0
  | w :: rest =>
    match itemBelow? w v with
    | none => none
    | some below => if below = falling then (runLength? falling w rest).map (· + 1) else some 0

/-- The items from the start on that rise, or that fall and are turned round, and the items behind them. -/
def leadingRun? : List Value → Option (List Value × List Value)
  | v :: w :: rest =>
    match itemBelow? w v with
    | none => none
    | some falling =>
      (runLength? falling w rest).map fun more =>
        let run := v :: w :: rest.take more
        (if falling then run.reverse else run, rest.drop more)
  | items => some (items, [])

/-- The items in the order of their ranks, if all of them can be ranked. -/
def ranked? (items : List Value) : Option (List Value) :=
  (leadingRun? items).bind fun (run, others) =>
    others.foldlM (fun sorted v => insertRanked? v (sorted.length + 1) [] sorted) run

def sameNeighbours : List Value → Bool
  | v :: w :: rest => same v w || sameNeighbours (w :: rest)
  | _ => false

def samePair : List Value → Bool
  | [] => false
  | v :: rest => rest.any (same v ·) || samePair rest

def allDifferent (items : List Value) : Bool :=
  match ranked? items with
  | some sorted => !sameNeighbours sorted
  | none => !samePair items

end Value

end Json

end SchemaLint
