import SchemaLint.Proofs.Json.Grammar
import SchemaLint.Proofs.Json.Lexeme

/-!
# Scanning lexemes

Scanning takes a text apart into its lexemes.  What a text is read as depends on nothing but its tokens, so that texts
with the same tokens have the same value.
-/

namespace SchemaLint

namespace Json

open Token (points mark? IsBody IsNumeral scanFrom)

/-! ## One lexeme after the other -/

theorem scanFrom_skip (seen : List Placed) (offset : Nat) (front behind : Text) :
    scanFrom seen offset front.length (front ++ behind) = scanFrom seen (offset + front.length) 0 behind := by
  induction front generalizing offset with
  | nil => rfl
  | cons c front ih =>
    change scanFrom seen (offset + 1) front.length (front ++ behind) = _
    rw [ih, List.length_cons, Nat.add_assoc, Nat.add_comm 1]

theorem scanFrom_blank {c : CodePoint} (blank : Token.isBlank c = true) (seen : List Placed) (offset : Nat) (rest : Text) :
    scanFrom seen offset 0 (c :: rest) = scanFrom seen (offset + 1) 0 rest := by
  rw [scanFrom, if_pos blank]

theorem scanFrom_mark {c : CodePoint} {token : Token} (isMark : mark? c = some token) (seen : List Placed) (offset : Nat)
    (rest : Text) : scanFrom seen offset 0 (c :: rest) = scanFrom (⟨token, offset⟩ :: seen) (offset + 1) 0 rest := by
  have other : ¬ Token.isBlank c = true ∧ c ≠ .scalar '"' := by
    cases isMark_of_mark? isMark <;> decide
  rw [scanFrom, if_neg other.1, if_neg other.2, isMark]

theorem scanFrom_literal {body said : Text} (isBody : IsBody body said) (seen : List Placed) (offset : Nat)
    (rest : Text) : scanFrom seen offset 0 (.scalar '"' :: (body ++ .scalar '"' :: rest)) =
      scanFrom (⟨.string said, offset⟩ :: seen) (offset + (body.length + 2)) 0 rest := by
  rw [scanFrom, if_neg (by decide), if_pos rfl, isBody.read]
  have length : offset + 1 + body.length + 1 - offset - 1 = (body ++ [CodePoint.scalar '"']).length := by
    rw [List.length_append, List.length_singleton]
    omega
  have split : body ++ .scalar '"' :: rest = (body ++ [.scalar '"']) ++ rest := by
    rw [List.append_assoc, List.singleton_append]
  simp only [List.reverse_nil, List.nil_append]
  rw [length, split, scanFrom_skip, List.length_append, List.length_singleton]
  congr 1
  omega

/-- Behind its first character, the rest of a word or a number is passed over. -/
theorem scanFrom_rest {c : CodePoint} {t behind : Text} {cs : List Char} (split : c :: t = points cs ++ behind)
    (nonempty : cs ≠ []) (seen : List Placed) (offset : Nat) :
    scanFrom seen (offset + 1) (cs.length - 1) t = scanFrom seen (offset + cs.length) 0 behind := by
  obtain ⟨d, ds, rfl⟩ := List.exists_cons_of_ne_nil nonempty
  cases (List.cons.inj split).2
  rw [List.length_cons, Nat.add_sub_cancel, ← Token.length_points ds]
  change scanFrom _ _ _ (points ds ++ behind) = _
  rw [scanFrom_skip, Nat.add_assoc, Nat.add_comm 1]

/-- A word or a number is taken as a whole. -/
theorem scanFrom_atom {cs : List Char} {token : Token} (isValid : (Lexeme.atom cs token).IsValid) {rest : Text}
    (isBounded : IsBounded rest) (seen : List Placed) (offset : Nat) :
    scanFrom seen offset 0 (points cs ++ rest) = scanFrom (⟨token, offset⟩ :: seen) (offset + cs.length) 0 rest := by
  obtain ⟨c, cs', rfl, begins⟩ := exists_beginsAtom isValid
  have onwards : scanFrom (⟨token, offset⟩ :: seen) (offset + 1) ((c :: cs').length - 1) (points cs' ++ rest) =
      scanFrom (⟨token, offset⟩ :: seen) (offset + (c :: cs').length) 0 rest :=
    scanFrom_rest rfl (List.cons_ne_nil c cs') _ offset
  have notBlank : ¬ Token.isBlank (.scalar c) = true := by simp [begins.notBlank]
  have notQuote : CodePoint.scalar c ≠ .scalar '"' := fun same => begins.notQuote (CodePoint.scalar.inj same)
  rw [Token.points_cons, List.cons_append, scanFrom, if_neg notBlank, if_neg notQuote, begins.notMark, ← onwards]
  generalize same : c :: cs' = cs at isValid
  have front : .scalar c :: (points cs' ++ rest) = points cs ++ rest := by rw [← same]; rfl
  cases isValid with
  | word name token isWord => simp only [front, word?_complete isWord]
  | number cs literal isNumeral =>
    simp only [front, word?_of_numeral isNumeral, Token.number?_complete isNumeral isBounded.endsNumber]

/-- The tokens of a text are those of its lexemes. -/
theorem tokens_scanFrom {ls : List Lexeme} (areLexemes : AreLexemes ls) (seen : List Placed) (offset : Nat) :
    (scanFrom seen offset 0 (textOf ls)).map Placed.token = (seen.map Placed.token).reverse ++ (tokensOf ls ++ [.stop]) := by
  induction areLexemes generalizing seen offset with
  | nil => simp [textOf, tokensOf, scanFrom]
  | @cons l ls isValid isBounded rest ih =>
    have onwards : forall token more, (scanFrom (⟨token, offset⟩ :: seen) more 0 (textOf ls)).map Placed.token =
        (seen.map Placed.token).reverse ++ (token :: (tokensOf ls ++ [.stop])) := by
      intro token more
      rw [ih, List.map_cons, List.reverse_cons, List.append_assoc, List.singleton_append]
    unfold textOf tokensOf
    rw [List.flatMap_cons, List.flatMap_cons]
    cases l with
    | blank c =>
      cases isValid with
      | blank c blank =>
        change (scanFrom seen offset 0 (c :: textOf ls)).map Placed.token = _
        rw [scanFrom_blank blank, ih]
        rfl
    | mark c token =>
      cases isValid with
      | mark c token isMark =>
        change (scanFrom seen offset 0 (c :: textOf ls)).map Placed.token = _
        rw [scanFrom_mark isMark, onwards]
        rfl
    | atom cs token =>
      change (scanFrom seen offset 0 (points cs ++ textOf ls)).map Placed.token = _
      rw [scanFrom_atom isValid (isBounded trivial), onwards]
      rfl
    | literal body said =>
      cases isValid with
      | literal body said isBody =>
        change (scanFrom seen offset 0 (.scalar '"' :: ((body ++ [.scalar '"']) ++ textOf ls))).map Placed.token = _
        rw [List.append_assoc, List.singleton_append, scanFrom_literal isBody, onwards]
        rfl

/-! ## From a text to its lexemes -/

/-- What was found before has no part in what is found. -/
theorem scanFrom_seen (seen : List Placed) (offset skip : Nat) (t : Text) :
    scanFrom seen offset skip t = seen.reverse ++ scanFrom [] offset skip t := by
  induction t generalizing seen offset skip with
  | nil => simp [scanFrom]
  | cons c t ih =>
    have onwards : forall token offset' skip', scanFrom (⟨token, offset⟩ :: seen) offset' skip' t =
        seen.reverse ++ scanFrom [⟨token, offset⟩] offset' skip' t := by
      intro token offset' skip'
      rw [ih, ih [_], List.reverse_cons, List.append_assoc]
      rfl
    cases skip with
    | succ skip => exact ih seen (offset + 1) skip
    | zero =>
      simp only [scanFrom]
      split
      next => exact ih seen (offset + 1) 0
      split
      next =>
        split
        next => exact onwards _ _ _
        next => simp
      split
      next => exact onwards _ _ _
      split
      next => exact onwards _ _ _
      split
      next => exact onwards _ _ _
      next => simp

/-- Where a token that closes comes next, a word or a number can end. -/
theorem isBounded_of_closes {offset : Nat} {t : Text} {token : Token} {rest : List Token}
    (next : (scanFrom [] offset 0 t).map Placed.token = token :: rest) (closes : token.Closes) : IsBounded t := by
  rintro c t' rfl
  have first : forall other offset' skip, (scanFrom [⟨other, offset⟩] offset' skip t').map Placed.token = token :: rest ->
      other = token := by
    intro other offset' skip same
    rw [scanFrom_seen] at same
    exact (List.cons.inj same).1
  simp only [scanFrom] at next
  split at next
  next blank => exact Or.inl blank
  split at next
  next =>
    split at next
    next =>
      cases first _ _ _ next
      cases closes
    next =>
      cases next
      cases closes
  split at next
  next found => exact Or.inr ⟨_, found⟩
  split at next
  next found =>
    obtain ⟨name, rest', isWord, -⟩ := word?_sound found
    cases first _ _ _ next
    cases isWord_of_mem isWord <;> cases closes
  split at next
  next =>
    cases first _ _ _ next
    cases closes
  next =>
    cases next
    cases closes

theorem isAtomic_of_word {name : String} {token : Token} (isWord : (name, token) ∈ Token.words) : token.IsAtomic := by
  cases isWord_of_mem isWord <;> trivial

/-- A lexeme at the front of a text, which is scanned as one token. -/
structure IsFront (offset : Nat) (t : Text) (l : Lexeme) (token : Token) (behind : Text) : Prop where
  isValid : l.IsValid
  split : t = l.text ++ behind
  nonempty : l.text ≠ []
  scanned : exists offset', scanFrom [] offset 0 t = scanFrom [⟨token, offset⟩] offset' 0 behind
  atomic : l.IsAtom -> token.IsAtomic

/-- A word or a number at the front of a text. -/
theorem isFront_atom {offset : Nat} {c : CodePoint} {t behind : Text} {cs : List Char} {token : Token}
    (isValid : (Lexeme.atom cs token).IsValid) (split : c :: t = points cs ++ behind) (atomic : token.IsAtomic)
    (scanned : scanFrom [] offset 0 (c :: t) = scanFrom [⟨token, offset⟩] (offset + 1) (cs.length - 1) t) :
    IsFront offset (c :: t) (.atom cs token) token behind := by
  obtain ⟨d, ds, rfl, -⟩ := exists_beginsAtom isValid
  have nonempty : d :: ds ≠ [] := List.cons_ne_nil d ds
  exact ⟨isValid, split, by simp [Lexeme.text, points],
    ⟨_, scanned.trans (scanFrom_rest split nonempty _ offset)⟩, fun _ => atomic⟩

/-- If something other than whitespace stands at the front of a text, and has no complaint, it is a lexeme. -/
theorem exists_front {offset : Nat} {c : CodePoint} {t : Text} (notBlank : ¬ Token.isBlank c = true)
    (sound : forall p ps, scanFrom [] offset 0 (c :: t) = p :: ps -> p.token.IsSound) :
    exists l token behind, IsFront offset (c :: t) l token behind := by
  by_cases quote : c = .scalar '"'
  · subst quote
    cases read : Token.readString offset [] (offset + 1) 0 t with
    | fault fault at_ =>
      have scanned : scanFrom [] offset 0 (.scalar '"' :: t) = [⟨.badString fault at_, offset⟩] := by
        rw [scanFrom, if_neg notBlank, if_pos rfl, read]
        rfl
      exact absurd (sound _ _ scanned) id
    | closed content behind length =>
      obtain ⟨body, said, rfl, -, -, isBody⟩ := Token.exists_body read
      exact ⟨.literal body said, .string said, behind, .literal body said isBody, by simp [Lexeme.text],
        by simp [Lexeme.text], ⟨_, scanFrom_literal isBody [] offset behind⟩, nofun⟩
  cases isMark : mark? c with
  | some token =>
    exact ⟨.mark c token, token, t, .mark c token isMark, rfl, by simp [Lexeme.text],
      ⟨_, scanFrom_mark isMark [] offset t⟩, nofun⟩
  | none =>
    cases word : Token.word? (c :: t) with
    | some pair =>
      obtain ⟨token, length⟩ := pair
      obtain ⟨name, behind, isWord, split, rfl⟩ := word?_sound word
      refine ⟨_, token, behind, isFront_atom (.word name token isWord) split (isAtomic_of_word isWord) ?_⟩
      rw [scanFrom, if_neg notBlank, if_neg quote, isMark]
      simp only [word]
    | none =>
      cases number : Token.number? (c :: t) with
      | some pair =>
        obtain ⟨literal, length⟩ := pair
        obtain ⟨cs, behind, split, rfl, isNumeral⟩ := Token.number?_sound number
        refine ⟨_, .number literal, behind, isFront_atom (.number cs literal isNumeral) split trivial ?_⟩
        rw [scanFrom, if_neg notBlank, if_neg quote, isMark]
        simp only [word, number]
      | none =>
        have scanned : scanFrom [] offset 0 (c :: t) = [⟨.junk, offset⟩] := by
          rw [scanFrom, if_neg notBlank, if_neg quote, isMark]
          simp only [word, number]
          rfl
        exact absurd (sound _ _ scanned) id

/-- A text of which the tokens are sound and apart is made of lexemes. -/
theorem exists_lexemes {offset : Nat} {t : Text} (apart : AreApart ((scanFrom [] offset 0 t).map Placed.token)) :
    exists ls, AreLexemes ls ∧ textOf ls = t := by
  -- The text behind a lexeme is shorter, but it is no tail that the text is built from.
  obtain ⟨size, within⟩ : exists size, t.length <= size := ⟨_, Nat.le_refl _⟩
  induction size generalizing offset t with
  | zero =>
    cases List.eq_nil_of_length_eq_zero (Nat.eq_zero_of_le_zero within)
    exact ⟨[], .nil, rfl⟩
  | succ size ih =>
    cases t with
    | nil => exact ⟨[], .nil, rfl⟩
    | cons c t =>
      by_cases blank : Token.isBlank c = true
      · rw [scanFrom_blank blank] at apart
        obtain ⟨ls, areLexemes, rfl⟩ := ih apart (Nat.le_of_succ_le_succ within)
        exact ⟨.blank c :: ls, .cons (.blank c blank) nofun areLexemes, rfl⟩
      have sound : forall p ps, scanFrom [] offset 0 (c :: t) = p :: ps -> p.token.IsSound := by
        intro p ps scanned
        rw [scanned] at apart
        exact apart.1
      obtain ⟨l, token, behind, front⟩ := exists_front blank sound
      obtain ⟨offset', scanned⟩ := front.scanned
      rw [scanned, scanFrom_seen] at apart
      obtain ⟨-, next, apart⟩ := apart
      have shorter : behind.length <= size := by
        have lengths := congrArg List.length front.split
        have positive := List.length_pos_iff.mpr front.nonempty
        rw [List.length_append] at lengths
        omega
      obtain ⟨ls, areLexemes, rfl⟩ := ih apart shorter
      refine ⟨l :: ls, .cons front.isValid (fun isAtom => ?_) areLexemes, front.split.symm⟩
      cases tokens : (scanFrom [] offset' 0 (textOf ls)).map Placed.token with
      | nil =>
        rw [tokens_scanFrom areLexemes] at tokens
        simp at tokens
      | cons token' rest => exact isBounded_of_closes tokens (next (front.atomic isAtom) token' rest tokens)

/-! ## Reading -/

/-- A text that can be read is made of lexemes, no two of which are words or numbers next to each other. -/
theorem exists_lexemes_of_read {policy : Policy} {t : Text} {v : Value} (accepted : read policy t = .ok v) :
    exists ls, AreLexemes ls ∧ textOf ls = t ∧ AreApart (tokensOf ls ++ [.stop]) := by
  unfold read readDecoded Reader.ofTokens at accepted
  split at accepted
  next => cases accepted
  next =>
    obtain ⟨state, ran, -⟩ := bind_eq_ok_iff.mp (mapError_eq_ok_iff.mp accepted)
    have apart : AreApart ((Token.scan t).map Placed.token) := Reader.areApart_of_run ran
    obtain ⟨ls, areLexemes, rfl⟩ := exists_lexemes apart
    refine ⟨ls, areLexemes, rfl, ?_⟩
    have tokens : (Token.scan (textOf ls)).map Placed.token = tokensOf ls ++ [.stop] := tokens_scanFrom areLexemes [] 0
    rwa [tokens] at apart

/-- No text of lexemes begins with a byte order mark. -/
theorem head_ne_byteOrderMark {ls : List Lexeme} (areLexemes : AreLexemes ls) :
    (textOf ls).head? ≠ some (.scalar '\uFEFF') := by
  cases areLexemes with
  | nil => nofun
  | @cons l ls isValid isBounded rest =>
    intro head
    cases l with
    | blank c =>
      cases isValid with
      | blank c blank =>
        cases Option.some.inj head
        cases blank
    | mark c token =>
      cases isValid with
      | mark c token isMark =>
        cases Option.some.inj head
        cases isMark
    | literal body said => cases Option.some.inj head
    | atom cs token =>
      cases isValid with
      | word name token isWord =>
        cases isWord_of_mem isWord <;> cases head
      | number cs literal isNumeral =>
        obtain ⟨d, ds, digit, rfl | rfl⟩ := exists_digit_of_numeral isNumeral
        · cases Option.some.inj head
          cases digit
        · cases Option.some.inj head

/-- Lexemes with the same tokens are read as the same value. -/
theorem read_of_tokens {policy : Policy} {ls ls' : List Lexeme} {v : Value} (areLexemes : AreLexemes ls)
    (areLexemes' : AreLexemes ls') (same : tokensOf ls' = tokensOf ls) (accepted : read policy (textOf ls) = .ok v) :
    read policy (textOf ls') = .ok v := by
  unfold read readDecoded Reader.ofTokens at accepted ⊢
  rw [if_neg (head_ne_byteOrderMark areLexemes)] at accepted
  rw [if_neg (head_ne_byteOrderMark areLexemes')]
  obtain ⟨state, ran, value⟩ := bind_eq_ok_iff.mp (mapError_eq_ok_iff.mp accepted)
  have tokens : (Token.scan (textOf ls')).map Placed.token = (Token.scan (textOf ls)).map Placed.token := by
    unfold Token.scan
    rw [tokens_scanFrom areLexemes, tokens_scanFrom areLexemes', same]
  exact mapError_eq_ok_iff.mpr (bind_eq_ok_iff.mpr ⟨state, Reader.run_eq_ok_of_tokens tokens ran, value⟩)

end Json

end SchemaLint
