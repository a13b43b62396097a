import Mathlib.Data.List.Infix
import SchemaLint.Config.Settings
import SchemaLint.Files.Wildcard

/-!
# Ignore patterns

Two stars and a slash are a step of a pattern for any number of folders, none included.  The wildcards know nothing of
such steps: to them they are stars and a slash, and stand for one folder at least.  So a path is compared with a pattern
twice, with all steps in it and with none.

Nothing is ignored that a reading of the steps does not ask for.  The reverse is true where the two comparisons are all
that matters.  That is so for patterns with a single step, and for patterns in which each step has a star right behind
it: there the pattern without steps matches whatever the others match, since stars do not stop at slashes.  Elsewhere a
path can be missed that takes some of the steps and not all.
-/

namespace SchemaLint

namespace Wildcard

variable {p q cs : List Char}

/-! ## Patterns without sets -/

/-- What a pattern without sets matches, character by character. -/
inductive Covers : List Char -> List Char -> Prop
  | nil : Covers [] []
  | none {p cs : List Char} (covers : Covers p cs) : Covers ('*' :: p) cs
  | more {p cs : List Char} (c : Char) (covers : Covers ('*' :: p) cs) : Covers ('*' :: p) (c :: cs)
  | one {p cs : List Char} (c : Char) (covers : Covers p cs) : Covers ('?' :: p) (c :: cs)
  | same {p cs : List Char} (c : Char) (covers : Covers p cs) : Covers (c :: p) (c :: cs)

theorem mem_endings_iff {e : List Char} : e ∈ endings cs <-> e <:+ cs := by
  induction cs with
  | nil => simp [endings]
  | cons c cs ih => rw [endings, List.mem_cons, ih, List.suffix_cons_iff]

/-- A star matches any number of characters. -/
theorem covers_star_iff : Covers ('*' :: p) cs <-> exists e, e <:+ cs ∧ Covers p e := by
  induction cs with
  | nil =>
    constructor
    · intro covers
      cases covers with
      | none covers => exact ⟨[], List.suffix_refl [], covers⟩
    · rintro ⟨e, ends, covers⟩
      rw [List.suffix_nil.mp ends] at covers
      exact .none covers
  | cons c cs ih =>
    constructor
    · intro covers
      cases covers with
      | none covers => exact ⟨c :: cs, List.suffix_refl _, covers⟩
      | more _ covers =>
        obtain ⟨e, ends, covers⟩ := ih.mp covers
        exact ⟨e, List.suffix_cons_iff.mpr (.inr ends), covers⟩
      | same _ covers => exact ⟨cs, List.suffix_cons _ cs, covers⟩
    · rintro ⟨e, ends, covers⟩
      rcases List.suffix_cons_iff.mp ends with rfl | ends
      · exact .none covers
      · exact .more c (ih.mpr ⟨e, ends, covers⟩)

/-- A star matches more text in front of what it matches. -/
theorem Covers.suffix {e : List Char} (covers : Covers ('*' :: p) e) (ends : e <:+ cs) : Covers ('*' :: p) cs := by
  obtain ⟨e', ends', covers⟩ := covers_star_iff.mp covers
  exact covers_star_iff.mpr ⟨e', ends'.trans ends, covers⟩

theorem covers_char_iff {c : Char} (notStar : c ≠ '*') (notOne : c ≠ '?') :
    Covers (c :: p) cs <-> exists rest, cs = c :: rest ∧ Covers p rest := by
  constructor
  · intro covers
    cases covers with
    | none _ => exact absurd rfl notStar
    | more _ _ => exact absurd rfl notStar
    | one _ _ => exact absurd rfl notOne
    | same _ covers => exact ⟨_, rfl, covers⟩
  · rintro ⟨rest, rfl, covers⟩
    exact .same c covers

theorem fits_many_iff {parts : List Part} :
    fits (.many :: parts) cs = true <-> exists e, e <:+ cs ∧ fits parts e = true := by
  rw [fits, List.any_eq_true]
  exact exists_congr fun e => and_congr_left fun _ => mem_endings_iff

/-- How a character is read that is neither a star nor the beginning of a set. -/
theorem readFrom_plain {c : Char} (notStar : c ≠ '*') (notSet : c ≠ '[') (star : Bool) :
    readFrom 0 star (c :: p) = (if c = '?' then .one else .char c) :: readFrom 0 false p := by
  by_cases one : c = '?'
  · subst one
    rfl
  · rw [if_neg one, readFrom]
    · exact notStar
    · exact one
    · exact notSet

theorem fits_plain_iff {c : Char} {parts : List Part} (notStar : c ≠ '*')
    (rest : forall cs, fits parts cs = true <-> Covers p cs) :
    fits ((if c = '?' then .one else .char c) :: parts) cs = true <-> Covers (c :: p) cs := by
  cases cs with
  | nil =>
    constructor
    · intro fits
      split at fits <;> cases fits
    · intro covers
      cases covers
      exact absurd rfl notStar
  | cons d cs =>
    split
    next one =>
      subst one
      change fits parts cs = true <-> _
      rw [rest]
      refine ⟨fun covers => .one d covers, fun covers => ?_⟩
      cases covers with
      | one _ covers => exact covers
      | same _ covers => exact covers
    next notOne =>
      change (decide (d = c) && fits parts cs) = true <-> _
      rw [Bool.and_eq_true, decide_eq_true_eq, rest]
      rw [covers_char_iff notStar notOne]
      constructor
      · rintro ⟨rfl, covers⟩
        exact ⟨cs, rfl, covers⟩
      · rintro ⟨rest, same, covers⟩
        cases same
        exact ⟨rfl, covers⟩

/-- Whether a pattern without sets matches is what the relation says, also behind a star. -/
theorem fits_readFrom_iff (noSet : '[' ∉ p) :
    (forall cs, fits (readFrom 0 false p) cs = true <-> Covers p cs) ∧
      forall cs, fits (.many :: readFrom 0 true p) cs = true <-> Covers ('*' :: p) cs := by
  induction p with
  | nil =>
    have empty : forall cs, fits [] cs = true <-> Covers [] cs := by
      intro cs
      cases cs with
      | nil => exact ⟨fun _ => .nil, fun _ => rfl⟩
      | cons c cs => exact ⟨nofun, nofun⟩
    refine ⟨empty, fun cs => ?_⟩
    rw [covers_star_iff, fits_many_iff]
    exact exists_congr fun e => and_congr_right fun _ => empty e
  | cons c p ih =>
    obtain ⟨notSet, noSet⟩ := not_or.mp (List.mem_cons.not.mp noSet)
    obtain ⟨outside, behind⟩ := ih noSet
    by_cases star : c = '*'
    · subst star
      refine ⟨behind, fun cs => ?_⟩
      change fits (.many :: readFrom 0 true p) cs = true <-> _
      rw [behind]
      constructor
      · exact .none
      · intro covers
        obtain ⟨e, ends, covers⟩ := covers_star_iff.mp covers
        exact covers.suffix ends
    · have whole : forall star cs, fits (readFrom 0 star (c :: p)) cs = true <-> Covers (c :: p) cs := by
        intro star' cs
        rw [readFrom_plain star (Ne.symm notSet)]
        exact fits_plain_iff star outside
      refine ⟨whole false, fun cs => ?_⟩
      rw [covers_star_iff, fits_many_iff]
      exact exists_congr fun e => and_congr_right fun _ => whole true e

theorem isMatch_iff_covers {path : String} (noSet : '[' ∉ p) :
    isMatch (String.ofList p) path = true <-> Covers p path.toList := by
  unfold isMatch read
  rw [String.toList_ofList]
  exact (fits_readFrom_iff noSet).1 _

/-- To the wildcards a step for any number of folders is a text with a slash at its end. -/
theorem covers_step_iff : Covers ('*' :: '*' :: '/' :: p) cs <->
    exists front back, cs = front ++ '/' :: back ∧ Covers p back := by
  constructor
  · intro covers
    obtain ⟨e, ends, second⟩ := covers_star_iff.mp covers
    obtain ⟨e', ends', slash⟩ := covers_star_iff.mp second
    obtain ⟨back, rfl, rest⟩ := (covers_char_iff (by decide) (by decide)).mp slash
    obtain ⟨front, rfl⟩ := ends'.trans ends
    exact ⟨front, back, rfl, rest⟩
  · rintro ⟨front, back, rfl, covers⟩
    exact covers_star_iff.mpr ⟨_, List.suffix_refl _, covers_star_iff.mpr ⟨_, List.suffix_append front _, .same '/' covers⟩⟩

/-- A pattern that matches more than another one still does so behind the same character. -/
theorem Covers.mono {c : Char} (covers : Covers (c :: q) cs) (wider : forall cs, Covers q cs -> Covers p cs) :
    Covers (c :: p) cs := by
  by_cases star : c = '*'
  · subst star
    obtain ⟨e, ends, covers⟩ := covers_star_iff.mp covers
    exact covers_star_iff.mpr ⟨e, ends, wider e covers⟩
  · cases covers with
    | none _ => exact absurd rfl star
    | more _ _ => exact absurd rfl star
    | one d covers => exact .one d (wider _ covers)
    | same _ covers => exact .same _ (wider _ covers)

end Wildcard

/-! ## Steps for any number of folders -/

open Wildcard (Covers covers_star_iff covers_step_iff isMatch isMatch_iff_covers)

variable {p q cs : List Char} {path : String} {patterns : List String}

/-- A pattern, and what is left of it when some of its steps for any number of folders are taken away: none of them, some
or all. -/
inductive Thinned : List Char -> List Char -> Prop
  | nil : Thinned [] []
  | keep {p q : List Char} (c : Char) (thinned : Thinned p q) : Thinned (c :: p) (c :: q)
  | drop {p q : List Char} (thinned : Thinned p q) : Thinned ('*' :: '*' :: '/' :: p) q

/-- The number of steps in a pattern. -/
def countAnyFolders : List Char -> Nat
  | '*' :: '*' :: '/' :: rest => countAnyFolders rest + 1
  | _ :: rest => countAnyFolders rest
  | [] => 0

/-- Whether every step of a pattern has a star right behind it. -/
def isLoose : List Char -> Bool
  | '*' :: '*' :: '/' :: rest => rest.head? = some '*' && isLoose rest
  | _ :: rest => isLoose rest
  | [] => true

theorem Thinned.sublist (thinned : Thinned p q) : q.Sublist p := by
  induction thinned with
  | nil => exact List.Sublist.refl []
  | keep c _ ih => exact ih.cons_cons c
  | drop _ ih => exact ((ih.cons '/').cons '*').cons '*'

/-- What stands in front of a pattern can stay. -/
theorem Thinned.append (front : List Char) (thinned : Thinned p q) : Thinned (front ++ p) (front ++ q) := by
  induction front with
  | nil => exact thinned
  | cons c front ih => exact .keep c ih

theorem thinned_self (p : List Char) : Thinned p p := by
  have whole := Thinned.nil.append p
  rwa [List.append_nil] at whole

theorem thinned_dropAnyFolders (p : List Char) : Thinned p (dropAnyFolders p) := by
  fun_induction dropAnyFolders p with
  | case1 rest ih => exact .drop ih
  | case2 c rest _ ih => exact .keep c ih
  | case3 => exact .nil

/-- A step is taken away or stays as it is. -/
theorem thinned_step_iff : Thinned ('*' :: '*' :: '/' :: p) q <->
    Thinned p q ∨ exists q', q = '*' :: '*' :: '/' :: q' ∧ Thinned p q' := by
  constructor
  · intro thinned
    cases thinned with
    | drop thinned => exact .inl thinned
    | keep _ thinned =>
      cases thinned with
      | keep _ thinned =>
        cases thinned with
        | keep _ thinned => exact .inr ⟨_, rfl, thinned⟩
  · rintro (thinned | ⟨q', rfl, thinned⟩)
    · exact .drop thinned
    · exact .keep '*' (.keep '*' (.keep '/' thinned))

/-- Where no step begins, a character stays. -/
theorem exists_of_thinned {c : Char} (noStep : forall rest, c = '*' -> p = '*' :: '/' :: rest -> False)
    (thinned : Thinned (c :: p) q) : exists q', q = c :: q' ∧ Thinned p q' := by
  cases thinned with
  | keep _ thinned => exact ⟨_, rfl, thinned⟩
  | drop _ => exact (noStep _ rfl rfl).elim

/-! ### A single step -/

theorem eq_of_thinned (none : countAnyFolders p = 0) (thinned : Thinned p q) : q = p := by
  fun_induction countAnyFolders p generalizing q with
  | case1 rest ih => cases none
  | case2 c rest noStep ih =>
    obtain ⟨q', rfl, others⟩ := exists_of_thinned noStep thinned
    rw [ih none others]
  | case3 =>
    cases thinned
    rfl

/-- A single step is there or not. -/
theorem thinned_of_count_le_one (single : countAnyFolders p ≤ 1) (thinned : Thinned p q) :
    q = p ∨ q = dropAnyFolders p := by
  fun_induction countAnyFolders p generalizing q with
  | case1 rest ih =>
    have none : countAnyFolders rest = 0 := by omega
    rcases thinned_step_iff.mp thinned with others | ⟨q', rfl, others⟩
    · right
      rw [dropAnyFolders, eq_of_thinned none others, eq_of_thinned none (thinned_dropAnyFolders rest)]
    · rw [eq_of_thinned none others]
      exact .inl rfl
  | case2 c rest noStep ih =>
    obtain ⟨q', rfl, others⟩ := exists_of_thinned noStep thinned
    rw [dropAnyFolders]
    · rcases ih single others with rfl | rfl
      · exact .inl rfl
      · exact .inr rfl
    · exact noStep
  | case3 =>
    cases thinned
    exact .inl rfl

/-! ### Steps with stars behind them -/

theorem head_dropAnyFolders (loose : isLoose p = true) (star : p.head? = some '*') :
    exists rest, dropAnyFolders p = '*' :: rest := by
  fun_induction isLoose p with
  | case1 rest ih =>
    obtain ⟨behind, loose⟩ := Bool.and_eq_true_iff.mp loose
    rw [dropAnyFolders]
    exact ih loose (of_decide_eq_true behind)
  | case2 c rest noStep ih =>
    cases star
    rw [dropAnyFolders]
    · exact ⟨_, rfl⟩
    · exact noStep
  | case3 => cases star

/-- A pattern of which every step has a star behind it matches the most without its steps. -/
theorem covers_dropAnyFolders (loose : isLoose p = true) (thinned : Thinned p q) (covers : Covers q cs) :
    Covers (dropAnyFolders p) cs := by
  fun_induction isLoose p generalizing q cs with
  | case1 rest ih =>
    obtain ⟨behind, loose⟩ := Bool.and_eq_true_iff.mp loose
    rw [dropAnyFolders]
    rcases thinned_step_iff.mp thinned with others | ⟨q', rfl, others⟩
    · exact ih loose others covers
    · obtain ⟨front, back, rfl, remains⟩ := covers_step_iff.mp covers
      -- The star behind the step stands for all that the step stood for.
      have shorter : Covers (dropAnyFolders rest) back := ih loose others remains
      obtain ⟨more, star⟩ := head_dropAnyFolders loose (of_decide_eq_true behind)
      rw [star] at shorter ⊢
      exact shorter.suffix ((List.suffix_cons '/' back).trans (List.suffix_append front ('/' :: back)))
  | case2 c rest noStep ih =>
    obtain ⟨q', rfl, others⟩ := exists_of_thinned noStep thinned
    rw [dropAnyFolders]
    · exact covers.mono fun cs covers => ih loose others covers
    · exact noStep
  | case3 =>
    cases thinned
    exact covers

/-! ## What is ignored -/

/-- Some pattern matches a path once some of its steps are taken away, each by itself. -/
def IsCovered (path : String) (patterns : List String) : Prop :=
  exists pattern, pattern ∈ patterns ∧ exists q, Thinned pattern.toList q ∧ isMatch (String.ofList q) path = true

/-- A pattern with at most one step, or one without sets of which every step has a star right behind it. -/
def IsSettled (pattern : String) : Prop :=
  countAnyFolders pattern.toList ≤ 1 ∨ '[' ∉ pattern.toList ∧ isLoose pattern.toList = true

instance (pattern : String) : Decidable (IsSettled pattern) :=
  inferInstanceAs (Decidable (_ ∨ _))

theorem isIgnored_iff : isIgnored path patterns = true <-> exists pattern, pattern ∈ patterns ∧
    (isMatch pattern path = true ∨ isMatch (String.ofList (dropAnyFolders pattern.toList)) path = true) := by
  unfold isIgnored
  rw [List.any_eq_true]
  exact exists_congr fun pattern => and_congr_right fun _ => Bool.or_eq_true_iff

/-- What is ignored is covered by a pattern.  The reverse holds where a settled pattern covers a path. -/
theorem isCovered_and_isIgnored_of_settled (path : String) (patterns : List String) :
    (isIgnored path patterns = true -> IsCovered path patterns) ∧
      forall pattern, pattern ∈ patterns -> IsSettled pattern -> IsCovered path [pattern] ->
        isIgnored path patterns = true := by
  constructor
  · intro ignored
    obtain ⟨pattern, member, whole | without⟩ := isIgnored_iff.mp ignored
    · exact ⟨pattern, member, pattern.toList, thinned_self _, by rwa [String.ofList_toList]⟩
    · exact ⟨pattern, member, _, thinned_dropAnyFolders _, without⟩
  · rintro pattern member settled ⟨_, only, q, thinned, isMatch⟩
    rw [List.mem_singleton.mp only] at thinned
    refine isIgnored_iff.mpr ⟨pattern, member, ?_⟩
    rcases settled with single | ⟨noSet, loose⟩
    · rcases thinned_of_count_le_one single thinned with rfl | rfl
      · rw [String.ofList_toList] at isMatch
        exact .inl isMatch
      · exact .inr isMatch
    · have noSet' : forall q, Thinned pattern.toList q -> '[' ∉ q := fun q thinned inside =>
        noSet (thinned.sublist.subset inside)
      rw [isMatch_iff_covers (noSet' q thinned)] at isMatch
      rw [isMatch_iff_covers (noSet' _ (thinned_dropAnyFolders _))]
      exact .inr (covers_dropAnyFolders loose thinned isMatch)

/-! ### Two steps -/

/-- A pattern with two steps, each with a star behind it. -/
def looseSteps : String := "src/**/*/**/*.json"

/-- A path that takes the second of these steps and not the first one. -/
theorem isCovered_looseSteps : IsCovered "src/a/b/c.json" [looseSteps] := by
  refine ⟨looseSteps, List.mem_singleton_self _, "src/*/**/*.json".toList, ?_, by decide +kernel⟩
  exact (Thinned.drop (thinned_self "*/**/*.json".toList)).append "src/".toList

theorem isIgnored_looseSteps : IsSettled looseSteps ∧ IsCovered "src/a/b/c.json" [looseSteps] ∧
    isIgnored "src/a/b/c.json" [looseSteps, "docs/*"] = true ∧
    IsCovered "src/a/b/c.json" [looseSteps, "docs/*"] := by
  have settled : IsSettled looseSteps := by decide +kernel
  obtain ⟨sound, complete⟩ := isCovered_and_isIgnored_of_settled "src/a/b/c.json" [looseSteps, "docs/*"]
  have ignored := complete looseSteps List.mem_cons_self settled isCovered_looseSteps
  exact ⟨settled, isCovered_looseSteps, ignored, sound ignored⟩

/-- The first step of this pattern has a name behind it.  A file right inside of a folder of that name which is not at the
top takes the first step and not the second one, and it is missed. -/
theorem not_isIgnored_nestedFolder : IsCovered "a/node_modules/x.json" ["**/node_modules/**/*"] ∧
    isIgnored "a/node_modules/x.json" ["**/node_modules/**/*"] = false := by
  refine ⟨⟨_, List.mem_singleton_self _, "**/node_modules/*".toList, ?_, by decide +kernel⟩, by decide +kernel⟩
  exact (Thinned.drop (thinned_self "*".toList)).append "**/node_modules/".toList

end SchemaLint
