import SchemaLint.Proofs.Files.Tree

/-!
# Walks

A walk to a folder never meets a place behind which nothing lies, so that it comes to the same folder on every disk that
differs only in such places.  A walk along two lists of names is the walk along the first one, all links of it being
followed, and then along the second one.
-/

namespace SchemaLint

namespace Disk

variable {kind kind' : List String -> Option Kind} {last : Bool} {links : Nat} {way names rest goal : List String}
  {name : String}

/-! ## The steps of a walk -/

/-- How a walk goes on from a link. -/
def onward (kind : List String -> Option Kind) (last : Bool) :
    Nat -> List String -> String -> List String -> Except FileFault (List String)
  | 0, _, _, _ => .error .tooManyLinks
  | links + 1, way, target, rest =>
    if target.isEmpty then .error .missing
    else walk kind last links (if isRooted target then [] else way) (steps target ++ rest)

theorem walk_nil : walk kind last links way [] = .ok way := by
  cases links <;> rfl

theorem walk_cons : walk kind last links way (name :: rest) =
    if name = "" || name = "." then walk kind last links way rest
    else if name = ".." then walk kind last links way.dropLast rest
    else if nameLimit < name.utf8ByteSize then .error .nameTooLong
    else
      match kind (way ++ [name]) with
      | none => .error .missing
      | some .folder => walk kind last links (way ++ [name]) rest
      | some (.file _) => if rest.isEmpty then .ok (way ++ [name]) else .error .notFolder
      | some (.link target) =>
        if rest.isEmpty && !last then .ok (way ++ [name]) else onward kind last links way target rest := by
  cases links <;> rfl

/-- A name that stands for an entry of a folder. -/
def IsPlain (name : String) : Prop :=
  name ≠ "" ∧ name ≠ "." ∧ name ≠ ".."

instance (name : String) : Decidable (IsPlain name) :=
  inferInstanceAs (Decidable (_ ∧ _))

theorem walk_name (plain : IsPlain name) (short : name.utf8ByteSize <= nameLimit) :
    walk kind last links way [name] =
      match kind (way ++ [name]) with
      | none => .error .missing
      | some .folder => .ok (way ++ [name])
      | some (.file _) => .ok (way ++ [name])
      | some (.link target) => if last then onward kind last links way target [] else .ok (way ++ [name]) := by
  obtain ⟨notEmpty, notDot, notDots⟩ := plain
  rw [walk_cons, if_neg (by simp [notEmpty, notDot]), if_neg notDots, if_neg (Nat.not_lt.mpr short)]
  split
  · rfl
  · exact walk_nil
  · rfl
  · cases last <;> rfl

theorem walk_long_name (plain : IsPlain name) (long : nameLimit < name.utf8ByteSize) :
    walk kind last links way [name] = .error .nameTooLong := by
  obtain ⟨notEmpty, notDot, notDots⟩ := plain
  rw [walk_cons, if_neg (by simp [notEmpty, notDot]), if_neg notDots, if_pos long]

/-- An induction along a walk: to the names that are left, and from a link to names that are new but with fewer links. -/
theorem walk_induction {motive : Nat -> List String -> List String -> Prop}
    (nil : forall links way, motive links way [])
    (cons : forall links way name rest, (forall way, motive links way rest) ->
      (forall left, links = left + 1 -> forall way names, motive left way names) -> motive links way (name :: rest))
    (links : Nat) (way names : List String) : motive links way names := by
  induction links generalizing way names with
  | zero =>
    induction names generalizing way with
    | nil => exact nil 0 way
    | cons name rest ih => exact cons 0 way name rest ih (fun left positive => by omega)
  | succ links fewer =>
    induction names generalizing way with
    | nil => exact nil (links + 1) way
    | cons name rest ih =>
      refine cons (links + 1) way name rest ih ?_
      intro left same way names
      have equal : links = left := by omega
      exact equal ▸ fewer way names

/-! ## Walks that come to an end -/

/-- A walk comes to a goal: what stands at each of its names, and from where it goes on. -/
inductive Arrives (kind : List String -> Option Kind) (last : Bool) :
    Nat -> List String -> List String -> List String -> Prop
  | nil (links : Nat) (way : List String) : Arrives kind last links way [] way
  | skip {links : Nat} {way rest goal : List String} {name : String} (empty : name = "" ∨ name = ".")
      (later : Arrives kind last links way rest goal) : Arrives kind last links way (name :: rest) goal
  | up {links : Nat} {way rest goal : List String} (later : Arrives kind last links way.dropLast rest goal) :
      Arrives kind last links way (".." :: rest) goal
  | folder {links : Nat} {way rest goal : List String} {name : String} (plain : IsPlain name)
      (fits : name.utf8ByteSize <= nameLimit) (here : kind (way ++ [name]) = some .folder)
      (later : Arrives kind last links (way ++ [name]) rest goal) : Arrives kind last links way (name :: rest) goal
  | file {links : Nat} {way : List String} {name : String} {contents : Bytes} (plain : IsPlain name)
      (fits : name.utf8ByteSize <= nameLimit) (here : kind (way ++ [name]) = some (.file contents)) :
      Arrives kind last links way [name] (way ++ [name])
  /-- The last link is not followed. -/
  | link {links : Nat} {way : List String} {name target : String} (plain : IsPlain name)
      (fits : name.utf8ByteSize <= nameLimit) (here : kind (way ++ [name]) = some (.link target))
      (unfollowed : last = false) : Arrives kind last links way [name] (way ++ [name])
  | follow {links : Nat} {way rest goal : List String} {name target : String} (plain : IsPlain name)
      (fits : name.utf8ByteSize <= nameLimit) (here : kind (way ++ [name]) = some (.link target))
      (followed : rest = [] -> last = true) (nonempty : target.isEmpty = false)
      (later : Arrives kind last links (if isRooted target then [] else way) (steps target ++ rest) goal) :
      Arrives kind last (links + 1) way (name :: rest) goal

theorem arrives_of_walk (found : walk kind last links way names = .ok goal) : Arrives kind last links way names goal := by
  induction links, way, names using walk_induction with
  | nil links way =>
    rw [walk_nil, Except.ok.injEq] at found
    exact found ▸ .nil links way
  | cons links way name rest ih fewer =>
    rw [walk_cons] at found
    by_cases skip : (name = "" || name = ".") = true
    · rw [if_pos skip] at found
      exact .skip (by simpa using skip) (ih way found)
    rw [if_neg skip] at found
    by_cases up : name = ".."
    · rw [if_pos up] at found
      exact up ▸ .up (ih _ found)
    rw [if_neg up] at found
    by_cases long : nameLimit < name.utf8ByteSize
    · rw [if_pos long] at found
      cases found
    rw [if_neg long] at found
    have fits := Nat.le_of_not_lt long
    have plain : IsPlain name := by
      simp only [Bool.or_eq_true, decide_eq_true_eq, not_or] at skip
      exact ⟨skip.1, skip.2, up⟩
    cases here : kind (way ++ [name]) with
    | none =>
      rw [here] at found
      cases found
    | some k =>
      rw [here] at found
      cases k with
      | folder => exact .folder plain fits here (ih _ found)
      | file contents =>
        by_cases final : rest.isEmpty = true
        · simp only [if_pos final, Except.ok.injEq] at found
          rw [List.isEmpty_iff.mp final, ← found]
          exact .file plain fits here
        · simp only [if_neg final] at found
          cases found
      | link target =>
        by_cases final : (rest.isEmpty && !last) = true
        · simp only [if_pos final, Except.ok.injEq] at found
          simp only [Bool.and_eq_true, List.isEmpty_iff, Bool.not_eq_true'] at final
          rw [final.1, ← found]
          exact .link plain fits here final.2
        · simp only [if_neg final] at found
          cases links with
          | zero => cases found
          | succ left =>
            simp only [onward] at found
            by_cases empty : target.isEmpty = true
            · rw [if_pos empty] at found
              cases found
            · rw [if_neg empty] at found
              refine .follow plain fits here ?_ (by simpa using empty) (fewer left rfl _ _ found)
              rintro rfl
              simpa using final

theorem Arrives.walk (arrives : Arrives kind last links way names goal) : walk kind last links way names = .ok goal := by
  induction arrives with
  | nil links way => exact walk_nil
  | skip empty later ih => rw [walk_cons, if_pos (by simpa using empty), ih]
  | up later ih => rw [walk_cons, if_neg (by decide), if_pos rfl, ih]
  | folder plain fits here later ih =>
    rw [walk_cons, if_neg (by simp [plain.1, plain.2.1]), if_neg plain.2.2, if_neg (Nat.not_lt.mpr fits), here]
    exact ih
  | file plain fits here =>
    rw [walk_name plain fits, here]
  | link plain fits here unfollowed =>
    rw [walk_name plain fits, here, unfollowed]
    rfl
  | @follow _ _ rest _ _ _ plain fits here followed nonempty later ih =>
    have further : (rest.isEmpty && !last) = false := by
      cases rest with
      | nil => rw [followed rfl]; rfl
      | cons name more => rfl
    rw [walk_cons, if_neg (by simp [plain.1, plain.2.1]), if_neg plain.2.2, if_neg (Nat.not_lt.mpr fits), here]
    simp only [further, Bool.false_eq_true, if_false, onward, nonempty]
    exact ih

/-- A walk ends without a refusal just if it comes to a goal step by step. -/
theorem walk_eq_ok_iff : walk kind last links way names = .ok goal <-> Arrives kind last links way names goal :=
  ⟨arrives_of_walk, Arrives.walk⟩

/-! ## Walks that come to a folder -/

/-- Behind a place nothing lies. -/
def Closed (kind : List String -> Option Kind) (place : List String) : Prop :=
  kind place = none ∨ exists contents, kind place = some (.file contents)

/-- Nothing lies behind a place that is neither a folder nor a link. -/
theorem closed_of_bare {place : List String} (bare : kind place ≠ some .folder)
    (noLink : forall target, kind place ≠ some (.link target)) : Closed kind place := by
  cases here : kind place with
  | none => exact .inl here
  | some k =>
    cases k with
    | file contents => exact .inr ⟨contents, here⟩
    | folder => exact absurd here bare
    | link target => exact absurd here (noLink target)

/-- A walk to a folder does not depend on places behind which nothing lies. -/
theorem walk_eq_of_closed (agree : forall place, Closed kind place ∨ kind' place = kind place)
    (found : walk kind last links way names = .ok goal) (folder : kind goal = some .folder) :
    walk kind' last links way names = .ok goal := by
  have same : forall {place k}, kind place = some k -> (forall contents, k ≠ .file contents) -> kind' place = some k := by
    intro place k here bare
    rcases agree place with (absent | ⟨contents, file⟩) | same
    · cases absent.symm.trans here
    · exact absurd (Option.some.inj (here.symm.trans file)) (bare contents)
    · exact same.trans here
  rw [walk_eq_ok_iff] at found ⊢
  induction found with
  | nil links way => exact .nil links way
  | skip empty later ih => exact .skip empty (ih folder)
  | up later ih => exact .up (ih folder)
  | folder plain fits here later ih => exact .folder plain fits (same here nofun) (ih folder)
  | file plain fits here => cases here.symm.trans folder
  | link plain fits here unfollowed => cases here.symm.trans folder
  | follow plain fits here followed nonempty later ih =>
    exact .follow plain fits (same here nofun) followed nonempty (ih folder)

/-! ## Walks on trees -/

/-- There is something in folders only, and the root is a folder. -/
structure IsTree (kind : List String -> Option Kind) : Prop where
  root : kind [] = some .folder
  above : forall {place below}, below ≠ [] -> kind (place ++ below) ≠ none -> kind place = some .folder

theorem isTree (root : Contents) : IsTree (kindAt? root) :=
  ⟨kindAt?_nil root, fun nonempty there => folder_of_below _ nonempty there⟩

theorem IsTree.dropLast (tree : IsTree kind) (folder : kind way = some .folder) :
    kind way.dropLast = some .folder := by
  by_cases top : way = []
  · rw [top]
    exact tree.root
  · have split := List.dropLast_concat_getLast top
    refine tree.above (List.cons_ne_nil (way.getLast top) []) ?_
    rw [split, folder]
    exact Option.some_ne_none _

/-- The names of a link are followed from a folder. -/
theorem IsTree.origin (tree : IsTree kind) (start : kind way = some .folder) (target : String) :
    kind (if isRooted target then [] else way) = some .folder := by
  split
  · exact tree.root
  · exact start

/-- What a walk comes to is there. -/
theorem kind_ne_none_of_walk (tree : IsTree kind) (start : kind way = some .folder)
    (found : walk kind last links way names = .ok goal) : kind goal ≠ none := by
  rw [walk_eq_ok_iff] at found
  induction found with
  | nil links way => simp [start]
  | skip empty later ih => exact ih start
  | up later ih => exact ih (tree.dropLast start)
  | folder plain fits here later ih => exact ih here
  | file plain fits here => simp [here]
  | link plain fits here unfollowed => simp [here]
  | follow plain fits here followed nonempty later ih => exact ih (tree.origin start _)

/-- The ways in which a walk along more names can come out, given the walk along the first ones. -/
inductive Continued (kind : List String -> Option Kind) (last : Bool) (rest : List String) :
    Except FileFault (List String) -> Except FileFault (List String) -> Prop
  | folder {goal : List String} (left : Nat) (folder : kind goal = some .folder) :
      Continued kind last rest (.ok goal) (walk kind last left goal rest)
  | other {goal : List String} (other : kind goal ≠ some .folder) : Continued kind last rest (.ok goal) (.error .notFolder)
  | error (fault : FileFault) : Continued kind last rest (.error fault) (.error fault)

/-- Behind a folder a walk goes on. -/
theorem Continued.of_folder {r : Except FileFault (List String)} (continued : Continued kind last rest (.ok goal) r)
    (folder : kind goal = some .folder) : exists left, r = walk kind last left goal rest := by
  cases continued with
  | folder left _ => exact ⟨left, rfl⟩
  | other other => exact absurd folder other

/-- A walk that goes on from somewhere goes on from a folder. -/
theorem Continued.of_ok {r s : Except FileFault (List String)} (continued : Continued kind last rest r s)
    (found : s = .ok goal) :
    exists place left, r = .ok place ∧ kind place = some .folder ∧ walk kind last left place rest = .ok goal := by
  cases continued with
  | folder left folder => exact ⟨_, left, rfl, folder, found⟩
  | other other => cases found
  | error fault => cases found

/-- A walk goes along the names in the order in which they stand. -/
theorem walk_append (tree : IsTree kind) (start : kind way = some .folder) (nonempty : rest ≠ []) :
    Continued kind last rest (walk kind true links way names) (walk kind last links way (names ++ rest)) := by
  induction links, way, names using walk_induction with
  | nil links way =>
    rw [walk_nil, List.nil_append]
    exact .folder links start
  | cons links way name more ih fewer =>
    have further : (more ++ rest).isEmpty = false := by
      rw [List.isEmpty_eq_false_iff]
      exact List.append_ne_nil_of_right_ne_nil more nonempty
    rw [List.cons_append, walk_cons, walk_cons]
    by_cases skip : (name = "" || name = ".") = true
    · rw [if_pos skip, if_pos skip]
      exact ih way start
    rw [if_neg skip, if_neg skip]
    by_cases up : name = ".."
    · rw [if_pos up, if_pos up]
      exact ih _ (tree.dropLast start)
    rw [if_neg up, if_neg up]
    by_cases long : nameLimit < name.utf8ByteSize
    · rw [if_pos long, if_pos long]
      exact .error _
    rw [if_neg long, if_neg long]
    cases here : kind (way ++ [name]) with
    | none => exact .error _
    | some k =>
      cases k with
      | file contents =>
        simp only [further]
        by_cases final : more.isEmpty = true
        · simp only [if_pos final]
          refine .other ?_
          rw [here]
          exact fun equal => Kind.noConfusion (Option.some.inj equal)
        · simp only [if_neg final]
          exact .error _
      | folder => exact ih _ here
      | link target =>
        simp only [further, Bool.not_true, Bool.and_false, Bool.false_and, Bool.false_eq_true, if_false]
        cases links with
        | zero => exact .error _
        | succ left =>
          simp only [onward]
          by_cases empty : target.isEmpty = true
          · rw [if_pos empty, if_pos empty]
            exact .error _
          · rw [if_neg empty, if_neg empty, ← List.append_assoc]
            exact fewer left rfl _ _ (tree.origin start target)

end Disk

end SchemaLint
