import SchemaLint.Proofs.Json.Ordered
import SchemaLint.Proofs.Json.Scan
import SchemaLint.Proofs.Json.Visible

/-!
# Escaped values are read back

The limit of a rule is shown as a number or as one line of JSON.  This line is a text of the grammar that the reader
follows, lexeme by lexeme: an escape stands for the code point that it was made of, and the digits of an integer spell
it.  So the strict reader finds the limit in what is shown of it, order of members included, and limits that are not the
same are never shown alike.
-/

namespace SchemaLint

namespace Json

open Token (points hex4? IsBody IsNumeral)

namespace Escaped

/-! ## String literals -/

theorem hexValue?_digitChar : forall n, n < 16 -> Token.hexValue? (.scalar (Nat.digitChar n)) = some n := by
  decide

/-- The digits of a unit spell it. -/
theorem hex4?_unit {n : Nat} (small : n < 0x10000) : hex4? (points ((unit n).drop 2)) = some (n, []) := by
  have digit : forall m, Token.hexValue? (.scalar (Nat.digitChar (m % 16))) = some (m % 16) :=
    fun m => hexValue?_digitChar (m % 16) (Nat.mod_lt m (by decide))
  have number : n / 4096 % 16 * 4096 + n / 256 % 16 * 256 + n / 16 % 16 * 16 + n % 16 = n := by omega
  change hex4? [.scalar (Nat.digitChar (n / 4096 % 16)), .scalar (Nat.digitChar (n / 256 % 16)),
    .scalar (Nat.digitChar (n / 16 % 16)), .scalar (Nat.digitChar (n % 16))] = _
  simp only [hex4?, digit, Option.bind_eq_bind, Option.bind_some, Option.pure_def, number]

theorem points_unit_append (n : Nat) (b : Text) :
    points (unit n) ++ b = .scalar '\\' :: .scalar 'u' :: (points ((unit n).drop 2) ++ b) :=
  rfl

/-- A character without a letter of its own is written as itself, as a unit or as a pair of units. -/
theorem codePoint_of_plain {c : Char} (plain : c ∉ ['"', '\\', '\n', '\r', '\t', '\x0c', '\x08']) :
    codePoint (.scalar c) =
      if 0x20 <= c.toNat && c.toNat <= 0x7E then [c]
      else if c.toNat < 0x10000 then unit c.toNat
      else unit (0xD800 + (c.toNat - 0x10000) / 0x400) ++ unit (0xDC00 + (c.toNat - 0x10000) % 0x400) := by
  have other : forall d, d ∈ ['"', '\\', '\n', '\r', '\t', '\x0c', '\x08'] -> ¬ c.toNat = d.toNat := by
    intro d member same
    rw [Char.toNat_inj] at same
    exact plain (same ▸ member)
  have quote := other '"' (by decide)
  have backslash := other '\\' (by decide)
  have lineFeed := other '\n' (by decide)
  have return_ := other '\r' (by decide)
  have tab := other '\t' (by decide)
  have formFeed := other '\x0c' (by decide)
  have backspace := other '\x08' (by decide)
  exact (if_neg quote).trans ((if_neg backslash).trans ((if_neg lineFeed).trans ((if_neg return_).trans
    ((if_neg tab).trans ((if_neg formFeed).trans (if_neg backspace))))))

/-- What is written for a character stands for this character. -/
theorem isBody_codePoint (c : Char) {b s : Text} (rest : IsBody b s) :
    IsBody (points (codePoint (.scalar c)) ++ b) (.scalar c :: s) := by
  by_cases plain : c ∉ ['"', '\\', '\n', '\r', '\t', '\x0c', '\x08']
  · have valid : c.toNat < 0xD800 ∨ 0xDFFF < c.toNat ∧ c.toNat < 0x110000 := c.valid
    have isPoint : CodePoint.ofNat? c.toNat = some (.scalar c) := dif_pos c.valid
    rw [codePoint_of_plain plain]
    by_cases visible : (0x20 <= c.toNat && c.toNat <= 0x7E) = true
    · rw [if_pos visible]
      simp only [List.mem_cons, not_or] at plain
      have notControl : ¬ (CodePoint.scalar c).val <= 0x1F := by
        simp only [Bool.and_eq_true, decide_eq_true_eq] at visible
        change ¬ c.toNat <= 0x1F
        omega
      exact .plain (.scalar c) (fun same => plain.1 (CodePoint.scalar.inj same))
        (fun same => plain.2.1 (CodePoint.scalar.inj same)) notControl rest
    rw [if_neg visible]
    by_cases small : c.toNat < 0x10000
    · rw [if_pos small, points_unit_append]
      refine .unit _ c.toNat (.scalar c) (hex4?_unit small) isPoint ?_ rest
      intro high
      simp only [Token.isHigh, Bool.and_eq_true, decide_eq_true_eq] at high
      omega
    · rw [if_neg small, Token.points_append, List.append_assoc, points_unit_append, points_unit_append]
      have number : 0x10000 + (0xD800 + (c.toNat - 0x10000) / 0x400 - 0xD800) * 0x400 +
          (0xDC00 + (c.toNat - 0x10000) % 0x400 - 0xDC00) = c.toNat := by
        omega
      refine .pair _ _ _ _ (.scalar c) (hex4?_unit (by omega)) (hex4?_unit (by omega)) ?_ ?_ ?_ rest
      · simp only [Token.isHigh, Bool.and_eq_true, decide_eq_true_eq]
        omega
      · simp only [Token.isLow, Bool.and_eq_true, decide_eq_true_eq]
        omega
      · rw [number]
        exact isPoint
  · rw [not_not] at plain
    simp only [List.mem_cons, List.not_mem_nil, or_false] at plain
    rcases plain with rfl | rfl | rfl | rfl | rfl | rfl | rfl
    · exact .letter '"' '"' rfl rest
    · exact .letter '\\' '\\' rfl rest
    · exact .letter 'n' '\n' rfl rest
    · exact .letter 'r' '\r' rfl rest
    · exact .letter 't' '\t' rfl rest
    · exact .letter 'f' '\x0c' rfl rest
    · exact .letter 'b' '\x08' rfl rest

/-- A text that holds no surrogates. -/
def IsScalar (t : Text) : Prop :=
  forall c, c ∈ t -> exists d, c = .scalar d

theorem isBody_of_isScalar {t : Text} (isScalar : IsScalar t) : IsBody (points (t.flatMap codePoint)) t := by
  induction t with
  | nil => exact .nil
  | cons c t ih =>
    obtain ⟨d, rfl⟩ := isScalar c (List.mem_cons_self ..)
    rw [List.flatMap_cons, Token.points_append]
    exact isBody_codePoint d (ih fun e member => isScalar e (List.mem_cons_of_mem _ member))

/-! ## Integers -/

/-- An integer is written as a minus, if it is negative, and the digits of its size. -/
theorem toList_toString (n : Int) :
    (toString n).toList = Token.minus (decide (n < 0)) ++ Nat.toDigits 10 n.natAbs := by
  cases n with
  | ofNat m =>
    have notNegative : decide (Int.ofNat m < 0) = false := decide_eq_false (Int.not_lt.mpr (Int.natCast_nonneg m))
    rw [notNegative]
    exact Nat.toList_repr
  | negSucc m =>
    have negative : decide (Int.negSucc m < 0) = true := decide_eq_true (Int.negSucc_lt_zero m)
    rw [negative]
    change ("-" ++ (m + 1).repr).toList = '-' :: Nat.toDigits 10 (m + 1)
    rw [String.toList_append, Nat.toList_repr]
    rfl

/-- Only zero is written with a leading zero. -/
theorem eq_nil_of_toDigits {n : Nat} {rest : List Char} (zero : Nat.toDigits 10 n = '0' :: rest) : rest = [] := by
  induction n using Nat.strongRecOn generalizing rest with
  | ind n ih =>
    by_cases single : n < 10
    · rw [Nat.toDigits_of_lt_base single] at zero
      exact (List.cons.inj zero).2.symm
    · rw [Nat.toDigits_eq_if (by decide), if_neg single] at zero
      obtain ⟨d, ds, front⟩ := List.exists_cons_of_ne_nil (Nat.toDigits_ne_nil (n := n / 10) (b := 10))
      rw [front, List.cons_append] at zero
      obtain ⟨rfl, -⟩ := List.cons.inj zero
      have alone := ih (n / 10) (by omega) front
      rw [alone] at front
      have value : Nat.ofDigitChars 10 (Nat.toDigits 10 (n / 10)) 0 = n / 10 :=
        Nat.ofDigitChars_toDigits (by decide) (by decide)
      rw [front] at value
      have none : Nat.ofDigitChars 10 ['0'] 0 = 0 := rfl
      omega

theorem isWhole_toDigits (n : Nat) : Token.IsWhole (Nat.toDigits 10 n) where
  nonempty := Nat.toDigits_ne_nil
  all := fun _ member => Nat.isDigit_of_mem_toDigits (by omega) (Nat.le_refl 10) member
  zero := fun _ zero => eq_nil_of_toDigits zero

theorem spell_toDigits (n : Nat) : Token.spell (Nat.toDigits 10 n) = n := by
  calc
    Token.spell (Nat.toDigits 10 n) = Nat.ofDigitChars 10 (Nat.toDigits 10 n) 0 := by
      rw [Token.spell, Nat.ofDigitChars]
      congr 1
      funext m c
      rw [Nat.mul_comm]
      rfl
    _ = n := Nat.ofDigitChars_toDigits (by decide) (by decide)

/-- An integer whose digits the reader puts up with. -/
def IsShort (n : Int) : Prop :=
  (Nat.toDigits 10 n.natAbs).length <= digitLimit

instance (n : Int) : Decidable (IsShort n) :=
  inferInstanceAs (Decidable (_ <= _))

/-- The literal that an integer is written as. -/
def numeral (n : Int) : NumberLiteral :=
  .int (decide (n < 0)) (Nat.toDigits 10 n.natAbs)

theorem isNumeral_toString (n : Int) : IsNumeral (toString n).toList (numeral n) := by
  rw [toList_toString]
  exact .int _ _ (isWhole_toDigits n.natAbs)

theorem numberValue_numeral {n : Int} (short : IsShort n) : Reader.numberValue (numeral n) = .ok (.int n) := by
  rw [numeral, Reader.numberValue, if_neg (Nat.not_lt.mpr short), spell_toDigits]
  by_cases negative : n < 0
  · have size : -(n.natAbs : Int) = n := by omega
    simp only [negative, decide_true, if_true, size]
  · have size : (n.natAbs : Int) = n := by omega
    simp only [negative, decide_false, Bool.false_eq_true, if_false, size]

/-! ## Lexemes of escaped text -/

/-- Some lexemes spell a text, whatever follows it that ends a word or a number. -/
structure AreSpelled (cs : List Char) (ls : List Lexeme) : Prop where
  text : textOf ls = points cs
  valid : forall {rest}, AreLexemes rest -> IsBounded (textOf rest) -> AreLexemes (ls ++ rest)

/-- A text that begins with whitespace or a mark. -/
def IsParted (cs : List Char) : Prop :=
  forall t, IsBounded t -> IsBounded (points cs ++ t)

theorem isParted_cons {c : Char} (cs : List Char)
    (begins : Token.isBlank (.scalar c) = true ∨ exists token, Token.mark? (.scalar c) = some token) :
    IsParted (c :: cs) := by
  intro t _ d rest same
  cases same
  exact begins

namespace AreSpelled

variable {cs ds : List Char} {ls ms : List Lexeme}

theorem nil : AreSpelled [] [] where
  text := rfl
  valid := fun rest _ => rest

theorem mark {c : Char} {token : Token} (isMark : Token.mark? (.scalar c) = some token) (later : AreSpelled cs ls) :
    AreSpelled (c :: cs) (.mark c token :: ls) where
  text := congrArg (CodePoint.scalar c :: ·) later.text
  valid := fun rest bounded => .cons (.mark _ _ isMark) nofun (later.valid rest bounded)

theorem blank (later : AreSpelled cs ls) : AreSpelled (' ' :: cs) (.blank ' ' :: ls) where
  text := congrArg (CodePoint.scalar ' ' :: ·) later.text
  valid := fun rest bounded => .cons (.blank _ rfl) nofun (later.valid rest bounded)

theorem atom {token : Token} (isValid : (Lexeme.atom cs token).IsValid) : AreSpelled cs [.atom cs token] where
  text := List.append_nil _
  valid := fun rest bounded => .cons isValid (fun _ => bounded) rest

theorem literal {t : Text} (isScalar : IsScalar t) :
    AreSpelled (Escaped.literal t) [.literal (points (t.flatMap codePoint)) t] where
  text := by
    rw [Escaped.literal, Token.points_append, Token.points_cons]
    exact List.append_nil _
  valid := fun rest _ => .cons (.literal _ _ (isBody_of_isScalar isScalar)) nofun rest

/-- Texts one behind the other, the second of which ends what the first one ends with. -/
theorem append (first : AreSpelled cs ls) (second : AreSpelled ds ms) (parted : IsParted ds) :
    AreSpelled (cs ++ ds) (ls ++ ms) where
  text := by
    rw [textOf, List.flatMap_append, ← textOf, ← textOf, first.text, second.text, Token.points_append]
  valid := by
    intro rest areLexemes bounded
    rw [List.append_assoc]
    refine first.valid (second.valid areLexemes bounded) ?_
    rw [textOf, List.flatMap_append, ← textOf, ← textOf, second.text]
    exact parted _ bounded

end AreSpelled

end Escaped

namespace Reader

/-! ## Tokens of escaped text -/

variable {policy : Policy} {stack : List Frame}

/-- Some tokens take the machine from one state to another. -/
inductive Reaches (policy : Policy) : State -> List Token -> State -> Prop
  | nil (state : State) : Reaches policy state [] state
  | cons {state next state' : State} {token : Token} {tokens : List Token} (takes : Takes policy state token next)
    (others : Reaches policy next tokens state') : Reaches policy state (token :: tokens) state'

theorem Reaches.append {state between state' : State} {front back : List Token}
    (first : Reaches policy state front between) (second : Reaches policy between back state') :
    Reaches policy state (front ++ back) state' := by
  induction first with
  | nil _ => exact second
  | cons takes _ ih => exact .cons takes (ih second)

theorem run_of_reaches {state state' : State} {tokens : List Token} (reaches : Reaches policy state tokens state')
    {ps : List Placed} (same : ps.map Placed.token = tokens) : run policy state ps = .ok state' := by
  induction reaches generalizing ps with
  | nil _ =>
    cases List.map_eq_nil_iff.mp same
    rfl
  | cons takes _ ih =>
    obtain ⟨p, rest, rfl, first, others⟩ := List.map_eq_cons_iff.mp same
    exact bind_eq_ok_iff.mpr ⟨_, step_of_takes (first ▸ takes), ih others⟩

/-- Some tokens are read where a value must come. -/
inductive ReadsValue (policy : Policy) (stack : List Frame) : List Token -> State -> Prop
  | mk {token : Token} {tokens : List Token} {next state : State} (begins : Begins policy stack token next)
    (others : Reaches policy next tokens state) : ReadsValue policy stack (token :: tokens) state

theorem ReadsValue.value {tokens : List Token} {state : State} (reads : ReadsValue policy stack tokens state) :
    Reaches policy (.value stack) tokens state := by
  obtain ⟨begins, others⟩ := reads
  exact .cons (.value begins) others

theorem ReadsValue.firstItem {tokens : List Token} {state : State}
    (reads : ReadsValue policy (.array [] :: stack) tokens state) : Reaches policy (.firstItem stack) tokens state := by
  obtain ⟨begins, others⟩ := reads
  exact .cons (.firstItem begins) others

theorem ReadsValue.append {front back : List Token} {between state : State}
    (reads : ReadsValue policy stack front between) (later : Reaches policy between back state) :
    ReadsValue policy stack (front ++ back) state := by
  obtain ⟨begins, others⟩ := reads
  exact .mk begins (others.append later)

theorem ReadsValue.single {token : Token} {v : Value} (isValue : IsValue policy token v) :
    ReadsValue policy stack [token] (complete v stack) :=
  .mk (.value isValue) (.nil _)

end Reader

namespace Members

theorem put_of_not_mem {key : Text} {members : Members} (fresh : key ∉ keys members) (value : Value) :
    put key value members = members ++ [(key, value)] := by
  induction members with
  | nil => rfl
  | cons m rest ih =>
    obtain ⟨k, v⟩ := m
    rw [keys, List.map_cons, List.mem_cons, not_or] at fresh
    rw [put, if_neg (Ne.symm fresh.1), ih fresh.2, List.cons_append]

/-- Members with different keys are the object that they are put together to. -/
theorem ofPairs_of_nodup {members : Members} (distinct : members.keys.Nodup) : ofPairs members = members := by
  have onto : forall before : Members, (before ++ members).keys.Nodup ->
      members.foldl (fun built m => put m.1 m.2 built) before = before ++ members := by
    clear distinct
    induction members with
    | nil => exact fun before _ => (List.append_nil before).symm
    | cons m rest ih =>
      intro before distinct
      have fresh : m.1 ∉ keys before := by
        rw [keys, List.map_append, List.map_cons] at distinct
        exact fun member => (List.nodup_append.mp distinct).2.2 m.1 member m.1 (List.mem_cons_self ..) rfl
      have split : before ++ m :: rest = (before ++ [m]) ++ rest := by
        rw [List.append_assoc, List.singleton_append]
      rw [List.foldl_cons, put_of_not_mem fresh, split]
      exact ih (before ++ [m]) (split ▸ distinct)
  exact onto [] distinct

end Members

/-! ## Values that are shown in full -/

/-- A value without floats, whose integers have no more digits than the reader puts up with and whose texts and keys have
no surrogates. -/
inductive Value.IsShown : Value -> Prop
  | null : IsShown .null
  | bool (b : Bool) : IsShown (.bool b)
  | int (n : Int) (short : Escaped.IsShort n) : IsShown (.int n)
  | string (s : Text) (isScalar : Escaped.IsScalar s) : IsShown (.string s)
  | array (items : List Value) (each : forall v, v ∈ items -> IsShown v) : IsShown (.array items)
  | object (members : Members) (distinct : members.keys.Nodup) (names : forall m, m ∈ members -> Escaped.IsScalar m.1)
      (each : forall m, m ∈ members -> IsShown m.2) : IsShown (.object members)

namespace Reader

open Escaped (AreSpelled IsParted isParted_cons itemsText membersText)

variable {policy : Policy} {stack : List Frame}

/-- Some lexemes are the text of a value and are read as this value wherever there is room for it. -/
structure Spells (policy : Policy) (v : Value) (ls : List Lexeme) : Prop where
  spelled : AreSpelled (Escaped.value v) ls
  read : forall stack, stack.length + v.depth <= policy.depth -> ReadsValue policy stack (tokensOf ls) (complete v stack)

theorem spells_atom {cs : List Char} {token : Token} {v : Value} (text : Escaped.value v = cs)
    (isValid : (Lexeme.atom cs token).IsValid) (isValue : IsValue policy token v) : Spells policy v [.atom cs token] where
  spelled := by
    rw [text]
    exact .atom isValid
  read := fun _ _ => .single isValue

/-- Items of an array, one behind the other. -/
theorem exists_items {v : Value} {rest : List Value} (each : forall w, w ∈ v :: rest -> exists ls, Spells policy w ls) :
    exists ls, AreSpelled (itemsText (v :: rest)) ls ∧ forall seen stack,
      stack.length + 1 + Value.depthItems (v :: rest) <= policy.depth ->
        ReadsValue policy (.array seen :: stack) (tokensOf ls) (.afterItem ((v :: rest).reverse ++ seen) stack) := by
  induction rest generalizing v with
  | nil =>
    obtain ⟨ls, spells⟩ := each v (List.mem_cons_self ..)
    refine ⟨ls, spells.spelled, fun seen stack room => ?_⟩
    rw [Value.depthItems, Value.depthItems, Nat.max_zero] at room
    exact spells.read (.array seen :: stack) room
  | cons w rest ih =>
    obtain ⟨ls, spells⟩ := each v (List.mem_cons_self ..)
    obtain ⟨ms, spelled, read⟩ := ih fun u member => each u (List.mem_cons_of_mem _ member)
    refine ⟨ls ++ .mark ',' .comma :: .blank ' ' :: ms, ?_, fun seen stack room => ?_⟩
    · exact spells.spelled.append (.mark rfl (.blank spelled)) (isParted_cons _ (.inr ⟨_, rfl⟩))
    · rw [Value.depthItems] at room
      have shallow : (.array seen :: stack : List Frame).length + v.depth <= policy.depth := by
        rw [List.length_cons]
        omega
      have first : ReadsValue policy (.array seen :: stack) (tokensOf ls) (.afterItem (v :: seen) stack) :=
        spells.read (.array seen :: stack) shallow
      have others := read (v :: seen) stack (by omega)
      have tokens : tokensOf (ls ++ .mark ',' .comma :: .blank ' ' :: ms) = tokensOf ls ++ .comma :: tokensOf ms := by
        rw [tokensOf, List.flatMap_append]
        rfl
      rw [tokens, List.reverse_cons, List.append_assoc, List.singleton_append]
      exact first.append (.cons (.nextItem _ _) others.value)

/-- Members of an object, one behind the other; the name of the first one has been read. -/
theorem exists_members {k : Text} {v : Value} {rest : List (Text × Value)}
    (names : forall m, m ∈ (k, v) :: rest -> Escaped.IsScalar m.1)
    (each : forall m, m ∈ (k, v) :: rest -> exists ls, Spells policy m.2 ls) :
    exists ls tokens, AreSpelled (membersText ((k, v) :: rest)) ls ∧ tokensOf ls = .string k :: tokens ∧
      forall pairs stack, stack.length + 1 + Value.depthMembers ((k, v) :: rest) <= policy.depth ->
        Reaches policy (.colon pairs k stack) tokens (.afterMember (((k, v) :: rest).reverse ++ pairs) stack) := by
  induction rest generalizing k v with
  | nil =>
    obtain ⟨ls, spells⟩ := each _ (List.mem_cons_self ..)
    have name := AreSpelled.literal (names _ (List.mem_cons_self ..))
    have spelled : AreSpelled (membersText [(k, v)]) _ :=
      name.append (.mark rfl (.blank spells.spelled)) (isParted_cons _ (.inr ⟨_, rfl⟩))
    refine ⟨_, .colon :: tokensOf ls, spelled, rfl, fun pairs stack room => ?_⟩
    rw [Value.depthMembers, Value.depthMembers, Nat.max_zero] at room
    exact .cons (.colon pairs k stack) (spells.read (.object pairs k :: stack) room).value
  | cons m rest ih =>
    obtain ⟨k', v'⟩ := m
    obtain ⟨ls, spells⟩ := each _ (List.mem_cons_self ..)
    obtain ⟨ms, tokens, spelled, front, read⟩ := ih (fun m member => names m (List.mem_cons_of_mem _ member))
      fun m member => each m (List.mem_cons_of_mem _ member)
    have name := AreSpelled.literal (names _ (List.mem_cons_self ..))
    have others : AreSpelled (Escaped.value v ++ ',' :: ' ' :: membersText ((k', v') :: rest)) _ :=
      spells.spelled.append (.mark rfl (.blank spelled)) (isParted_cons _ (.inr ⟨_, rfl⟩))
    have whole : AreSpelled (membersText ((k, v) :: (k', v') :: rest)) _ :=
      name.append (.mark rfl (.blank others)) (isParted_cons _ (.inr ⟨_, rfl⟩))
    refine ⟨_, .colon :: (tokensOf ls ++ .comma :: .string k' :: tokens), whole, ?_, fun pairs stack room => ?_⟩
    · change .string k :: .colon :: tokensOf (ls ++ .mark ',' .comma :: .blank ' ' :: ms) = _
      rw [tokensOf, List.flatMap_append, ← front]
      rfl
    · rw [Value.depthMembers] at room
      have shallow : (.object pairs k :: stack : List Frame).length + v.depth <= policy.depth := by
        rw [List.length_cons]
        omega
      have first : ReadsValue policy (.object pairs k :: stack) (tokensOf ls) (.afterMember ((k, v) :: pairs) stack) :=
        spells.read (.object pairs k :: stack) shallow
      have others := read ((k, v) :: pairs) stack (by omega)
      rw [List.reverse_cons, List.append_assoc, List.singleton_append]
      exact .cons (.colon pairs k stack) (first.value.append (.cons (.nextMember _ _) (.cons (.name _ _ _) others)))

theorem exists_spells_array {items : List Value} (each : forall v, v ∈ items -> exists ls, Spells policy v ls) :
    exists ls, Spells policy (.array items) ls := by
  cases items with
  | nil =>
    refine ⟨[.mark '[' .openArray, .mark ']' .closeArray], .mark rfl (.mark rfl .nil), fun stack room => ?_⟩
    exact .mk (.openArray room) (.cons (.emptyArray _) (.nil _))
  | cons v rest =>
    obtain ⟨ls, spelled, read⟩ := exists_items each
    refine ⟨.mark '[' .openArray :: (ls ++ [.mark ']' .closeArray]),
      .mark rfl (spelled.append (.mark rfl .nil) (isParted_cons _ (.inr ⟨_, rfl⟩))), fun stack room => ?_⟩
    rw [Value.depth] at room
    have tokens : tokensOf (.mark '[' .openArray :: (ls ++ [.mark ']' .closeArray])) =
        .openArray :: (tokensOf ls ++ [.closeArray]) := by
      rw [tokensOf, List.flatMap_cons, List.flatMap_append]
      rfl
    have items := (read [] stack (by omega)).firstItem
    have close : Takes policy (.afterItem (v :: rest).reverse stack) .closeArray
        (complete (.array (v :: rest)) stack) := by
      have closes : Takes policy _ _ _ := .lastItem (v :: rest).reverse stack
      rwa [List.reverse_reverse] at closes
    rw [List.append_nil] at items
    rw [tokens]
    exact .mk (.openArray (by omega)) (items.append (.cons close (.nil _)))

theorem exists_spells_object {members : Members} (distinct : members.keys.Nodup)
    (names : forall m, m ∈ members -> Escaped.IsScalar m.1)
    (each : forall m, m ∈ members -> exists ls, Spells policy m.2 ls) : exists ls, Spells policy (.object members) ls := by
  cases members with
  | nil =>
    refine ⟨[.mark '\x7b' .openObject, .mark '\x7d' .closeObject], .mark rfl (.mark rfl .nil), fun stack room => ?_⟩
    exact .mk (.openObject room) (.cons (.emptyObject _) (.nil _))
  | cons m rest =>
    obtain ⟨k, v⟩ := m
    obtain ⟨ls, names, spelled, front, read⟩ := exists_members names each
    refine ⟨.mark '\x7b' .openObject :: (ls ++ [.mark '\x7d' .closeObject]),
      .mark rfl (spelled.append (.mark rfl .nil) (isParted_cons _ (.inr ⟨_, rfl⟩))), fun stack room => ?_⟩
    rw [Value.depth] at room
    have tokens : tokensOf (.mark '\x7b' .openObject :: (ls ++ [.mark '\x7d' .closeObject])) =
        .openObject :: .string k :: (names ++ [.closeObject]) := by
      rw [tokensOf, List.flatMap_cons, List.flatMap_append, ← List.cons_append, ← front]
      rfl
    have members := read [] stack (by omega)
    have close : Takes policy (.afterMember ((k, v) :: rest).reverse stack) .closeObject
        (complete (.object ((k, v) :: rest)) stack) := by
      have closes : Takes policy _ _ _ := .lastMember ((k, v) :: rest).reverse stack
      rwa [List.reverse_reverse, Members.ofPairs_of_nodup distinct] at closes
    rw [List.append_nil] at members
    rw [tokens]
    exact .mk (.openObject (by omega)) (.cons (.firstName _ _) (members.append (.cons close (.nil _))))

/-- Every value that is shown in full has lexemes that are its text and are read as it. -/
theorem exists_spells (policy : Policy) {v : Value} (shown : v.IsShown) : exists ls, Spells policy v ls := by
  induction shown with
  | null => exact ⟨_, spells_atom rfl (.word "null" .null (by decide)) .null⟩
  | bool b =>
    cases b with
    | true => exact ⟨_, spells_atom rfl (.word "true" (.bool true) (by decide)) (.bool true)⟩
    | false => exact ⟨_, spells_atom rfl (.word "false" (.bool false) (by decide)) (.bool false)⟩
  | int n short =>
    exact ⟨_, spells_atom rfl (.number _ _ (Escaped.isNumeral_toString n)) (.number (Escaped.numberValue_numeral short))⟩
  | string s isScalar => exact ⟨_, .literal isScalar, fun _ _ => .single (.string s)⟩
  | array items each ih => exact exists_spells_array ih
  | object members distinct names each ih => exact exists_spells_object distinct names ih

end Reader

/-- The text of a value that is shown in full is read as this value. -/
theorem read_escaped {policy : Policy} {v : Value} (shown : v.IsShown) (shallow : v.depth <= policy.depth) :
    read policy (points (Escaped.value v)) = .ok v := by
  have noMark : (points (Escaped.value v)).head? ≠ some (.scalar '\uFEFF') := by
    intro front
    obtain ⟨c, member, same⟩ := List.mem_map.mp (List.mem_of_head? front)
    have visible := Escaped.areVisible_value v c member
    rw [CodePoint.scalar.inj same] at visible
    exact absurd visible (by decide)
  obtain ⟨ls, spells⟩ := Reader.exists_spells policy shown
  have areLexemes : AreLexemes ls := by
    have valid := spells.spelled.valid .nil nofun
    rwa [List.append_nil] at valid
  have tokens := tokens_scanFrom areLexemes [] 0
  rw [spells.spelled.text] at tokens
  have reaches : Reader.Reaches policy (.value []) (tokensOf ls ++ [.stop]) (.done v) :=
    (spells.read [] (by rwa [List.length_nil, Nat.zero_add])).value.append (.cons (.stop v) (.nil _))
  have ran : Reader.run policy (.value []) (Token.scan (points (Escaped.value v))) = .ok (.done v) :=
    Reader.run_of_reaches reaches tokens
  rw [read, if_neg noMark, readDecoded, Reader.ofTokens, ran]
  rfl

end Json

namespace Failure

open Json

theorem ofString_limitText {v : Value} (shown : v.IsShown) :
    Text.ofString (limitText v) = Token.points (Escaped.value v) := by
  have chars : (limitText v).toList = Escaped.value v := by
    cases shown with
    | int n short => rfl
    | _ => exact String.toList_ofList
  rw [Text.ofString, chars]
  rfl

/-- The text of a limit without floats is read as this limit, members in their order.  It is written in visible
characters, and no other limit has the same text. -/
theorem read_limitText {v : Value} (shown : v.IsShown) (shallow : v.depth <= Policy.strict.depth) :
    read .strict (Text.ofString (limitText v)) = .ok v ∧ AreVisible (limitText v).toList ∧
      forall w : Value, w.IsShown -> w.depth <= Policy.strict.depth -> limitText w = limitText v -> w = v := by
  have back : forall {w : Value}, w.IsShown -> w.depth <= Policy.strict.depth ->
      read .strict (Text.ofString (limitText w)) = .ok w := by
    intro w shown shallow
    rw [ofString_limitText shown]
    exact read_escaped shown shallow
  refine ⟨back shown shallow, areVisible_limitText v, ?_⟩
  intro w shown' shallow' same
  have again := back shown' shallow'
  rw [same, back shown shallow] at again
  exact (Except.ok.inj again).symm

/-! ### A limit with every kind of value -/

/-- An object whose keys are not in order, with characters that are escaped each in its own way. -/
def mixedLimit : Value :=
  .object
    [(Text.ofString "b\n𝄞", .array [.int (-10), .bool true, .null, .string (Text.ofString "\"\\/\x7f")]),
      (Text.ofString "", .object []), (Text.ofString "a", .array [])]

theorem read_limitText_mixedLimit :
    limitText mixedLimit =
        "\x7b\"b\\n\\ud834\\udd1e\": [-10, true, null, \"\\\"\\\\/\\u007f\"], \"\": \x7b\x7d, \"a\": []\x7d" ∧
      read .strict (Text.ofString (limitText mixedLimit)) = .ok mixedLimit := by
  have isScalar : forall s, Escaped.IsScalar (Text.ofString s) := by
    intro s c member
    obtain ⟨d, -, same⟩ := List.mem_map.mp member
    exact ⟨d, same.symm⟩
  have shown : mixedLimit.IsShown := by
    refine .object _ (by decide) ?_ ?_
    · intro m member
      simp only [List.mem_cons, List.not_mem_nil, or_false] at member
      rcases member with rfl | rfl | rfl <;> exact isScalar _
    · intro m member
      simp only [List.mem_cons, List.not_mem_nil, or_false] at member
      rcases member with rfl | rfl | rfl
      · refine .array _ ?_
        intro v member
        simp only [List.mem_cons, List.not_mem_nil, or_false] at member
        rcases member with rfl | rfl | rfl | rfl
        · exact .int _ (by decide)
        · exact .bool _
        · exact .null
        · exact .string _ (isScalar _)
      · exact .object [] List.nodup_nil nofun nofun
      · exact .array [] nofun
  exact ⟨by decide +kernel, (read_limitText shown (by decide)).1⟩

end Failure

end SchemaLint
