import SchemaLint.Proofs.Files.Linked

/-!
# Real paths

The real path of a file is where the path leads.  A walk goes on with the names of a link at once and forgets the link;
the real path is found with a memory of the links, which gives each of them up once it is met a second time before its
own way is complete.  What the two have in common is the number of links that are followed: it depends on the way and the
names alone, and behind a link there are fewer of them than at the link, so a way that ends does not come back to a link
that is not resolved yet.
-/

namespace SchemaLint

namespace Disk

variable {d : Disk} {root : Contents} {way names goal place here : List String} {name target : String} {n m : Nat}
  {seen : List (List String × Option (List String))}

/-! ## Ways and the links on them -/

/-- The folder from which the names of a link are followed. -/
def origin (way : List String) (target : String) : List String :=
  if isRooted target then [] else way

/-- Names lead from a place to another one, and so many links are followed on the way. -/
inductive Follows (root : Contents) : Nat -> List String -> List String -> List String -> Prop
  | nil (way : List String) : Follows root 0 way [] way
  | skip {n : Nat} {way rest goal : List String} {name : String} (empty : name = "" ∨ name = ".")
      (later : Follows root n way rest goal) : Follows root n way (name :: rest) goal
  | up {n : Nat} {way rest goal : List String} (later : Follows root n way.dropLast rest goal) :
      Follows root n way (".." :: rest) goal
  | entry {n : Nat} {way rest goal : List String} {name : String} {e : Entry} (plain : IsPlain name)
      (found : entryAt? root (way ++ [name]) = some e) (noLink : forall target, e ≠ .link target)
      (later : Follows root n (way ++ [name]) rest goal) : Follows root n way (name :: rest) goal
  | link {m n : Nat} {way rest place goal : List String} {name target : String} (plain : IsPlain name)
      (found : entryAt? root (way ++ [name]) = some (.link target))
      (behind : Follows root m (origin way target) (steps target) place) (later : Follows root n place rest goal) :
      Follows root (m + n + 1) way (name :: rest) goal

namespace Follows

/-- Where names lead, and by how many links, depends on nothing else. -/
theorem unique {goal' : List String} (one : Follows root n way names goal) (other : Follows root m way names goal') :
    n = m ∧ goal = goal' := by
  induction one generalizing m goal' with
  | nil way =>
    cases other
    exact ⟨rfl, rfl⟩
  | skip empty later ih =>
    cases other with
    | skip _ later' => exact ih later'
    | up _ => simp at empty
    | entry plain _ _ _ => exact absurd empty (by simp [plain.1, plain.2.1])
    | link plain _ _ _ => exact absurd empty (by simp [plain.1, plain.2.1])
  | up later ih =>
    cases other with
    | skip empty _ => simp at empty
    | up later' => exact ih later'
    | entry plain _ _ _ => exact absurd rfl plain.2.2
    | link plain _ _ _ => exact absurd rfl plain.2.2
  | entry plain found noLink later ih =>
    cases other with
    | skip empty _ => exact absurd empty (by simp [plain.1, plain.2.1])
    | up _ => exact absurd rfl plain.2.2
    | entry _ _ _ later' => exact ih later'
    | link _ found' _ _ => exact absurd (Option.some.inj (found.symm.trans found')) (noLink _)
  | link plain found behind later ihBehind ihLater =>
    cases other with
    | skip empty _ => exact absurd empty (by simp [plain.1, plain.2.1])
    | up _ => exact absurd rfl plain.2.2
    | entry _ found' noLink _ => exact absurd (Option.some.inj (found'.symm.trans found)) (noLink _)
    | link _ found' behind' later' =>
      cases Option.some.inj (found.symm.trans found')
      obtain ⟨rfl, rfl⟩ := ihBehind behind'
      obtain ⟨rfl, rfl⟩ := ihLater later'
      exact ⟨rfl, rfl⟩

/-- A way along two lists of names is the way along the first one and then along the second one. -/
theorem split {before after : List String} (follows : Follows root n way (before ++ after) goal) :
    exists m k place, n = m + k ∧ Follows root m way before place ∧ Follows root k place after goal := by
  induction before generalizing n way with
  | nil => exact ⟨0, n, way, (Nat.zero_add n).symm, .nil way, follows⟩
  | cons name rest ih =>
    cases follows with
    | skip empty later =>
      obtain ⟨m, k, place, sum, first, second⟩ := ih later
      exact ⟨m, k, place, sum, .skip empty first, second⟩
    | up later =>
      obtain ⟨m, k, place, sum, first, second⟩ := ih later
      exact ⟨m, k, place, sum, .up first, second⟩
    | entry plain found noLink later =>
      obtain ⟨m, k, place, sum, first, second⟩ := ih later
      exact ⟨m, k, place, sum, .entry plain found noLink first, second⟩
    | @link b _ _ _ _ _ _ _ plain found behind later =>
      obtain ⟨m, k, place, rfl, first, second⟩ := ih later
      exact ⟨b + m + 1, k, place, by omega, .link plain found behind first, second⟩

/-- Names that are taken from links and paths are names that can be written, and so are those of the place to which they
lead. -/
theorem mem_goal (follows : Follows root n way names goal) (names : forall n, n ∈ names -> '/' ∉ n.toList)
    (above : forall n, n ∈ way -> IsPlain n ∧ '/' ∉ n.toList) : forall n, n ∈ goal -> IsPlain n ∧ '/' ∉ n.toList := by
  induction follows with
  | nil way => exact above
  | skip empty later ih => exact ih (fun n inside => names n (List.mem_cons_of_mem _ inside)) above
  | up later ih =>
    exact ih (fun n inside => names n (List.mem_cons_of_mem _ inside)) fun n inside => above n (List.dropLast_subset _ inside)
  | entry plain found noLink later ih =>
    refine ih (fun n inside => names n (List.mem_cons_of_mem _ inside)) fun n inside => ?_
    rcases List.mem_append.mp inside with earlier | last
    · exact above n earlier
    · rw [List.mem_singleton.mp last]
      exact ⟨plain, names _ (List.mem_cons_self ..)⟩
  | @link _ _ way _ _ _ _ target plain found behind later ihBehind ihLater =>
    refine ihLater (fun n inside => names n (List.mem_cons_of_mem _ inside)) (ihBehind ?_ ?_)
    · intro n inside
      obtain ⟨cs, part, rfl⟩ := List.mem_map.mp inside
      rw [String.toList_ofList]
      exact not_mem_of_mem_splitChars part
    · intro n inside
      unfold origin at inside
      split at inside
      · cases inside
      · exact above n inside

end Follows

/-- A walk that comes to an end follows the links on its way. -/
theorem follows_of_walk {links : Nat} (found : walk (kindAt? root) true links way names = .ok goal) :
    exists n, Follows root n way names goal := by
  rw [walk_eq_ok_iff] at found
  have entry : forall {place k}, kindAt? root place = some k -> exists e, entryAt? root place = some e ∧ e.kind = k :=
    fun here => Option.map_eq_some_iff.mp here
  induction found with
  | nil links way => exact ⟨0, .nil way⟩
  | skip empty later ih =>
    obtain ⟨n, later⟩ := ih
    exact ⟨n, .skip empty later⟩
  | up later ih =>
    obtain ⟨n, later⟩ := ih
    exact ⟨n, .up later⟩
  | folder plain fits here later ih =>
    obtain ⟨n, later⟩ := ih
    obtain ⟨e, found, isFolder⟩ := entry here
    exact ⟨n, .entry plain found (by rintro target rfl; cases isFolder) later⟩
  | file plain fits here =>
    obtain ⟨e, found, isFile⟩ := entry here
    exact ⟨0, .entry plain found (by rintro target rfl; cases isFile) (.nil _)⟩
  | link plain fits here unfollowed => cases unfollowed
  | follow plain fits here followed nonempty later ih =>
    obtain ⟨n, onwards⟩ := ih
    obtain ⟨m, k, place, -, behind, later⟩ := onwards.split
    obtain ⟨e, found, isLink⟩ := entry here
    cases e with
    | link target =>
      cases isLink
      exact ⟨m + k + 1, .link plain found behind later⟩
    | file contents => cases isLink
    | folder inner => cases isLink

/-! ## The steps that are left -/

mutual

/-- The number of steps that the links of a folder which were not met yet can add to a way. -/
def unspent (spent : List String -> Bool) (way : List String) : List (String × Entry) -> Nat
  | [] => 0
  | (name, e) :: rest => unspentOf spent (way ++ [name]) e + unspent spent way rest

/-- The number of steps that the links of an entry which were not met yet can add to a way. -/
def unspentOf (spent : List String -> Bool) (way : List String) : Entry -> Nat
  | .file _ => 0
  | .folder entries => unspent spent way entries
  | .link target => if spent way then 0 else (steps target).length + 1

end

mutual

/-- As long as no link was met, all links are left. -/
theorem unspent_none (way : List String) : (entries : Contents) -> unspent (fun _ => false) way entries = linkSteps entries
  | [] => rfl
  | (name, e) :: rest => by rw [unspent, linkSteps, unspentOf_none, unspent_none way rest]

theorem unspentOf_none (way : List String) : (e : Entry) -> unspentOf (fun _ => false) way e = linkStepsOf e
  | .file _ => rfl
  | .folder entries => by rw [unspentOf, linkStepsOf, unspent_none way entries]
  | .link target => rfl

end

mutual

/-- The more links were met, the fewer are left. -/
theorem unspent_le {spent spent' : List String -> Bool} (more : forall place, spent place = true -> spent' place = true)
    (way : List String) : (entries : Contents) -> unspent spent' way entries <= unspent spent way entries
  | [] => Nat.le_refl _
  | (name, e) :: rest => by
    rw [unspent, unspent]
    exact Nat.add_le_add (unspentOf_le more (way ++ [name]) e) (unspent_le more way rest)

theorem unspentOf_le {spent spent' : List String -> Bool} (more : forall place, spent place = true -> spent' place = true)
    (way : List String) : (e : Entry) -> unspentOf spent' way e <= unspentOf spent way e
  | .file _ => Nat.le_refl _
  | .folder entries => by
    rw [unspentOf, unspentOf]
    exact unspent_le more way entries
  | .link target => by
    rw [unspentOf, unspentOf]
    by_cases met : spent way = true
    · rw [if_pos (more way met)]
      exact Nat.zero_le _
    · rw [if_neg met]
      split <;> omega

end

/-- A link that is met for the first time takes its steps from those that are left. -/
theorem unspent_link {spent spent' : List String -> Bool} (more : forall place, spent place = true -> spent' place = true)
    {above : List String} (found : entryAt? root way = some (.link target)) (fresh : spent (above ++ way) = false)
    (met : spent' (above ++ way) = true) :
    unspent spent' above root + ((steps target).length + 1) <= unspent spent above root := by
  induction way generalizing root above with
  | nil => cases found
  | cons name rest ih =>
    rw [entryAt?] at found
    induction root with
    | nil => cases found
    | cons head others ihOthers =>
      obtain ⟨n, e⟩ := head
      rw [lookup_cons_eq_ite] at found
      rw [unspent, unspent]
      have later := unspent_le more above others
      by_cases same : name = n
      · subst same
        rw [if_pos rfl] at found
        have here : unspentOf spent' (above ++ [name]) e + ((steps target).length + 1) <=
            unspentOf spent (above ++ [name]) e := by
          rw [List.append_cons] at fresh met
          cases e with
          | file contents =>
            by_cases last : rest.isEmpty = true <;> simp [last] at found
          | folder inner => exact ih found fresh met
          | link target' =>
            by_cases last : rest.isEmpty = true
            · simp only [last, if_true, Option.some.injEq, Entry.link.injEq] at found
              rw [List.isEmpty_iff.mp last, List.append_nil] at fresh met
              rw [unspentOf, unspentOf, if_pos met, fresh, found]
              simp
            · simp [last] at found
        omega
      · rw [if_neg same] at found
        have there := ihOthers found
        have first := unspentOf_le more (above ++ [n]) e
        omega

/-! ## Following links with a memory -/

/-- A link leads to a place, and so many links are followed behind it. -/
def Resolves (root : Contents) (n : Nat) (here place : List String) : Prop :=
  exists way name target, here = way ++ [name] ∧ entryAt? root here = some (.link target) ∧
    Follows root n (origin way target) (steps target) place

theorem Resolves.unique {place' : List String} (one : Resolves root n here place) (other : Resolves root m here place') :
    n = m ∧ place = place' := by
  obtain ⟨way, name, target, rfl, found, follows⟩ := one
  obtain ⟨way', name', target', same, found', follows'⟩ := other
  obtain ⟨rfl, -⟩ := List.append_inj' same rfl
  cases Option.some.inj (found.symm.trans found')
  exact follows.unique follows'

/-- What is remembered of the links: those that are resolved lead where it says, and behind those that are not there are at
least so many links. -/
structure Remembers (root : Contents) (n : Nat) (seen : List (List String × Option (List String))) : Prop where
  known : forall {here place}, seen.lookup here = some (some place) -> exists m, Resolves root m here place
  pending : forall {here}, seen.lookup here = some none -> exists m place, n <= m ∧ Resolves root m here place

theorem Remembers.of_le (remembers : Remembers root n seen) (fewer : m <= n) : Remembers root m seen where
  known := remembers.known
  pending := by
    intro here unresolved
    obtain ⟨k, place, least, resolves⟩ := remembers.pending unresolved
    exact ⟨k, place, Nat.le_trans fewer least, resolves⟩

theorem lookup_cons_seen (here place : List String) (known? : Option (List String)) :
    List.lookup place ((here, known?) :: seen) = if place = here then some known? else seen.lookup place := by
  rw [List.lookup_cons]
  by_cases same : place = here
  · rw [if_pos same, beq_iff_eq.mpr same]
  · rw [if_neg same, beq_eq_false_iff_ne.mpr same]

/-- Behind a link that is met there are fewer links than at it, so it may stay unresolved while its names are followed. -/
theorem Remembers.begin (remembers : Remembers root n seen) (resolves : Resolves root m here place) (fewer : m <= n) :
    Remembers root m ((here, none) :: seen) where
  known := by
    intro other known found
    rw [lookup_cons_seen] at found
    by_cases same : other = here
    · rw [if_pos same] at found
      cases found
    · rw [if_neg same] at found
      exact remembers.known found
  pending := by
    intro other found
    rw [lookup_cons_seen] at found
    by_cases same : other = here
    · exact ⟨m, place, Nat.le_refl m, same ▸ resolves⟩
    · rw [if_neg same] at found
      exact (remembers.of_le fewer).pending found

/-- Once a link is resolved, the links that are not are those from before it was met. -/
theorem unresolved_of_finished {seen' : List (List String × Option (List String))} (fresh : seen.lookup here = none)
    (still : forall other, seen'.lookup other = some none <-> List.lookup other ((here, none) :: seen) = some none)
    (other : List String) :
    List.lookup other ((here, some place) :: seen') = some none <-> seen.lookup other = some none := by
  rw [lookup_cons_seen]
  by_cases same : other = here
  · rw [if_pos same, same, fresh]
    simp
  · rw [if_neg same, still, lookup_cons_seen, if_neg same]

/-- What is remembered when a link is resolved, behind which other links were resolved. -/
theorem Remembers.finish {seen' : List (List String × Option (List String))} (remembers : Remembers root n seen)
    (later : Remembers root 0 seen') (resolves : Resolves root m here place) (fresh : seen.lookup here = none)
    (still : forall other, seen'.lookup other = some none <-> List.lookup other ((here, none) :: seen) = some none) :
    Remembers root n ((here, some place) :: seen') where
  known := by
    intro other known found
    rw [lookup_cons_seen] at found
    by_cases same : other = here
    · rw [if_pos same] at found
      cases found
      exact ⟨m, same ▸ resolves⟩
    · rw [if_neg same] at found
      exact later.known found
  pending := fun found => remembers.pending ((unresolved_of_finished fresh still _).mp found)

/-- The links that were met. -/
def met (seen : List (List String × Option (List String))) (place : List String) : Bool :=
  (seen.lookup place).isSome

theorem met_cons {known? : Option (List String)} (place : List String) (there : met seen place = true) :
    met ((here, known?) :: seen) place = true := by
  unfold met at there ⊢
  rw [lookup_cons_seen]
  split
  · rfl
  · exact there

section Steps

variable {fuel : Nat} {rest : List Pending}

theorem realNames_skip (empty : name = "" ∨ name = ".") :
    realNames root (fuel + 1) way (.name name :: rest) seen = realNames root fuel way rest seen := by
  rw [realNames]
  simp [empty]

theorem realNames_up :
    realNames root (fuel + 1) way (.name ".." :: rest) seen = realNames root fuel way.dropLast rest seen := by
  rw [realNames]
  simp

theorem realNames_entry {e : Entry} (plain : IsPlain name) (found : entryAt? root (way ++ [name]) = some e)
    (noLink : forall target, e ≠ .link target) :
    realNames root (fuel + 1) way (.name name :: rest) seen = realNames root fuel (way ++ [name]) rest seen := by
  obtain ⟨notEmpty, notDot, notDots⟩ := plain
  rw [realNames]
  simp only [notEmpty, notDot, notDots, decide_false, Bool.or_self, Bool.false_eq_true, if_false, found]
  cases e with
  | file contents => rfl
  | folder inner => rfl
  | link target => exact absurd rfl (noLink target)

/-- The first time that a link is met its names are followed, and then it is known where they lead. -/
theorem realNames_link (plain : IsPlain name) (found : entryAt? root (way ++ [name]) = some (.link target))
    (fresh : seen.lookup (way ++ [name]) = none) :
    realNames root (fuel + 1) way (.name name :: rest) seen =
      realNames root fuel (origin way target) ((steps target).map .name ++ .done (way ++ [name]) :: rest)
        ((way ++ [name], none) :: seen) := by
  obtain ⟨notEmpty, notDot, notDots⟩ := plain
  rw [realNames]
  simp only [notEmpty, notDot, notDots, decide_false, Bool.or_self, Bool.false_eq_true, if_false, found, fresh, origin]

theorem realNames_known (plain : IsPlain name) (found : entryAt? root (way ++ [name]) = some (.link target))
    (known : seen.lookup (way ++ [name]) = some (some place)) :
    realNames root (fuel + 1) way (.name name :: rest) seen = realNames root fuel place rest seen := by
  obtain ⟨notEmpty, notDot, notDots⟩ := plain
  rw [realNames]
  simp only [notEmpty, notDot, notDots, decide_false, Bool.or_self, Bool.false_eq_true, if_false, found, known]

end Steps

/-- Names that lead somewhere are followed to where they lead.  At least the steps that other names need are left, and the
links that were not resolved before are those that are not resolved then. -/
theorem Follows.realNames {more fuel : Nat} (follows : Follows root n way names goal) (rest : List Pending)
    (remembers : Remembers root n seen) (enough : unspent (met seen) [] root + more <= fuel) :
    exists seen' fuel', Disk.realNames root (names.length + fuel) way (names.map .name ++ rest) seen =
        Disk.realNames root fuel' goal rest seen' ∧
      unspent (met seen') [] root + more <= fuel' ∧ Remembers root 0 seen' ∧
      forall here, seen'.lookup here = some none <-> seen.lookup here = some none := by
  induction follows generalizing seen more fuel rest with
  | nil way =>
    rw [List.length_nil, Nat.zero_add]
    exact ⟨seen, fuel, rfl, enough, remembers, fun here => Iff.rfl⟩
  | skip empty later ih =>
    rw [List.length_cons, Nat.add_right_comm, List.map_cons, List.cons_append, realNames_skip empty]
    exact ih rest remembers enough
  | up later ih =>
    rw [List.length_cons, Nat.add_right_comm, List.map_cons, List.cons_append, realNames_up]
    exact ih rest remembers enough
  | entry plain found noLink later ih =>
    rw [List.length_cons, Nat.add_right_comm, List.map_cons, List.cons_append, realNames_entry plain found noLink]
    exact ih rest remembers enough
  | @link m n way others place goal name target plain found behind later ihBehind ihLater =>
    rw [List.length_cons, Nat.add_right_comm, List.map_cons, List.cons_append]
    have here : Resolves root m (way ++ [name]) place := ⟨way, name, target, rfl, found, behind⟩
    have before : Remembers root n seen := remembers.of_le (by omega)
    cases memory : seen.lookup (way ++ [name]) with
    | none =>
      -- The steps along the names of the link are those that it no longer adds to what is left.
      have spent : unspent (met ((way ++ [name], none) :: seen)) [] root + ((steps target).length + 1) <=
          unspent (met seen) [] root :=
        unspent_link met_cons found (by simp [met, memory]) (by simp [met])
      obtain ⟨slack, parts⟩ : exists slack, others.length + fuel = (steps target).length + slack :=
        Nat.exists_eq_add_of_le (by omega)
      have enough₁ : unspent (met ((way ++ [name], none) :: seen)) [] root + (more + others.length + 1) <= slack := by
        omega
      obtain ⟨seen₁, fuel₁, along, left, remembers₁, open₁⟩ :=
        ihBehind (.done (way ++ [name]) :: (others.map .name ++ rest)) (remembers.begin here (by omega)) enough₁
      obtain ⟨slack₁, rfl⟩ : exists slack₁, fuel₁ = others.length + slack₁ + 1 :=
        ⟨fuel₁ - others.length - 1, by omega⟩
      have fewer : unspent (met ((way ++ [name], some place) :: seen₁)) [] root <= unspent (met seen₁) [] root :=
        unspent_le met_cons [] root
      have enough₂ : unspent (met ((way ++ [name], some place) :: seen₁)) [] root + more <= slack₁ := by
        omega
      obtain ⟨seen₂, fuel₂, onwards, left₂, remembers₂, open₂⟩ :=
        ihLater rest (before.finish remembers₁ here memory open₁) enough₂
      refine ⟨seen₂, fuel₂, ?_, left₂, remembers₂, fun other => ?_⟩
      · rw [realNames_link plain found memory, parts, along, Disk.realNames, onwards]
      · rw [open₂, unresolved_of_finished memory open₁]
    | some known? =>
      cases known? with
      | some known =>
        obtain ⟨k, resolves⟩ := remembers.known memory
        rw [realNames_known plain found memory, ← (here.unique resolves).2]
        exact ihLater rest before enough
      | none =>
        -- Behind a link that is unresolved there are at least as many links as from here on, so this is none of them.
        obtain ⟨k, place', least, resolves⟩ := remembers.pending memory
        have same : m = k := (here.unique resolves).1
        omega

/-- Where names lead is where following all links leads; the steps that are allowed are enough for that. -/
theorem realNames_of_walk {links : Nat} (found : walk (kindAt? root) true links [] names = .ok goal) :
    realNames root (names.length + linkSteps root + 1) [] (names.map .name) [] = goal := by
  obtain ⟨n, follows⟩ := follows_of_walk found
  have nothing : Remembers root n [] := ⟨nofun, nofun⟩
  have all : unspent (met []) [] root = linkSteps root := unspent_none [] root
  have enough : unspent (met []) [] root + 1 <= linkSteps root + 1 := Nat.succ_le_succ (Nat.le_of_eq all)
  obtain ⟨seen, fuel, along, left, -, -⟩ := follows.realNames [] nothing enough
  obtain ⟨fuel, rfl⟩ : exists slack, fuel = slack + 1 := ⟨fuel - 1, by omega⟩
  rw [List.append_nil, Disk.realNames] at along
  exact along

/-! ## Real paths of files -/

/-- A way without links has not too many of them. -/
theorem walk_ne_tooManyLinks {kind : List String -> Option Kind} {last : Bool} {links : Nat}
    (plain : forall name, name ∈ names -> IsPlain name)
    (noLink : forall n target, n < names.length -> kind (way ++ names.take (n + 1)) ≠ some (.link target)) :
    walk kind last links way names ≠ .error .tooManyLinks := by
  induction names generalizing way with
  | nil =>
    rw [walk_nil]
    nofun
  | cons name rest ih =>
    obtain ⟨notEmpty, notDot, notDots⟩ := plain name (List.mem_cons_self ..)
    rw [walk_cons, if_neg (by simp [notEmpty, notDot]), if_neg notDots]
    split
    · nofun
    have first := noLink 0
    cases here : kind (way ++ [name]) with
    | none => nofun
    | some k =>
      cases k with
      | file contents =>
        by_cases final : rest.isEmpty = true <;> simp [final]
      | folder =>
        refine ih (fun n inside => plain n (List.mem_cons_of_mem _ inside)) ?_
        intro n target inside
        have next := noLink (n + 1) target (Nat.succ_lt_succ inside)
        rw [List.take_succ_cons, List.append_cons] at next
        exact next
      | link target => exact absurd here (first target (Nat.succ_pos _))

/-- A path to a file has a name. -/
theorem parts_ne_nil_of_file {contents : Bytes} {p : Path} (located : d.locate true p.text = .ok goal)
    (file : kindAt? d.root goal = some (.file contents)) : p.parts ≠ [] := by
  intro bare
  obtain ⟨start, parts⟩ := p
  cases bare
  have folder : kindAt? d.root goal = some .folder := by
    cases start with
    | here =>
      have dot : d.locate true (Path.text ⟨.here, []⟩) =
          walk (kindAt? d.root) true linkLimit [] (d.current.parts ++ ["."]) := rfl
      obtain ⟨place, left, -, folder, onwards⟩ :=
        (walk_append (isTree d.root) (kindAt?_nil d.root) (List.cons_ne_nil "." [])).of_ok (dot.symm.trans located)
      rw [walk_cons, if_pos (by decide), walk_nil, Except.ok.injEq] at onwards
      exact onwards ▸ folder
    | root =>
      cases located
      exact kindAt?_nil d.root
    | doubleRoot =>
      cases located
      exact kindAt?_nil d.root
  cases folder.symm.trans file

/-- There is no link on the way to the place of a file. -/
theorem kindAt?_take_ne_link {contents : Bytes} (file : kindAt? d.root goal = some (.file contents)) (n : Nat)
    (target : String) : kindAt? d.root (goal.take n) ≠ some (.link target) := by
  by_cases whole : goal.length <= n
  · rw [List.take_of_length_le whole, file]
    nofun
  · have below : goal.drop n ≠ [] := by simpa using whole
    have folder : kindAt? d.root (goal.take n) = some .folder := by
      refine folder_of_below (goal.take n) below ?_
      rw [List.take_append_drop, file]
      nofun
    rw [folder]
    nofun

/-- To ask for the real path of a file again is not to meet too many links. -/
theorem find_place_ne_tooManyLinks {contents : Bytes} (file : kindAt? d.root goal = some (.file contents))
    (names : forall n, n ∈ goal -> IsPlain n ∧ '/' ∉ n.toList) :
    d.find true (⟨.root, goal⟩ : Path).text ≠ .error .tooManyLinks := by
  intro ends
  have located := find_eq_error_iff.mp ends
  have proper : (⟨.root, goal⟩ : Path).IsProper := by
    intro n member
    obtain ⟨⟨notEmpty, notDot, -⟩, noSlash⟩ := names n member
    exact ⟨notEmpty, notDot, noSlash⟩
  have nonempty : goal ≠ [] := by
    rintro rfl
    cases file
  by_cases writable : (⟨.root, goal⟩ : Path).IsWritable
  · rw [locate_text proper writable nonempty] at located
    exact walk_ne_tooManyLinks (fun n member => (names n member).1)
      (fun n target _ => kindAt?_take_ne_link file (n + 1) target) located
  · have bounds := not_and_or.mp writable
    rw [Decidable.not_not, Nat.not_le] at bounds
    rw [locate] at located
    by_cases dirty : (⟨.root, goal⟩ : Path).text.toList.contains '\x00' = true
    · rw [if_pos dirty] at located
      cases located
    · have long : pathLimit < (⟨.root, goal⟩ : Path).text.utf8ByteSize :=
        bounds.resolve_left fun inside => dirty (by simpa using inside)
      rw [if_neg dirty, if_neg (by simp [Path.text_ne_empty proper]), if_pos long] at located
      cases located

/-- The real path of a file is where its path leads. -/
theorem realPath_of_isFile {p : Path} (proper : p.IsProper) (current : d.current.IsProper)
    (isFile : d.isFile p.text = .ok true) :
    exists way, d.locate true p.text = .ok way ∧ d.realPath p = .ok ⟨.root, way⟩ := by
  obtain ⟨way, contents, found⟩ : exists way contents, d.find true p.text = .ok (way, .file contents) := by
    unfold Disk.isFile at isFile
    split at isFile
    · exact ⟨_, _, by assumption⟩
    · cases isFile
    · cases isFile
  have located : d.locate true p.text = .ok way := (find_eq_ok_iff.mp found).1
  have file : kindAt? d.root way = some (.file contents) := kind_of_find found
  have nonempty : p.parts ≠ [] := parts_ne_nil_of_file located file
  have writable : p.IsWritable := isWritable_of_locate located
  have walked : walk (kindAt? d.root) true linkLimit [] (p.names d.current) = .ok way :=
    (locate_text proper writable nonempty).symm.trans located
  have real := realNames_of_walk walked
  have clean : (p.parts.any fun n => n.toList.contains '\x00') = false := by
    rw [List.any_eq_false]
    intro n member
    simpa using writable.name member
  have whole : (if p.start = .here then d.current.parts ++ p.parts else p.parts) = p.names d.current := by
    obtain ⟨start, parts⟩ := p
    cases start <;> rfl
  refine ⟨way, located, ?_⟩
  unfold realPath
  simp only [clean, Bool.false_eq_true, if_false, whole, real]
  obtain ⟨n, follows⟩ := follows_of_walk walked
  have names : forall n, n ∈ p.names d.current -> '/' ∉ n.toList := by
    intro n member
    rw [← whole] at member
    split at member
    · rcases List.mem_append.mp member with above | inside
      · exact (current n above).2.2
      · exact (proper n inside).2.2
    · exact (proper n member).2.2
  have goal := follows.mem_goal names (fun n inside => absurd inside List.not_mem_nil)
  have few := find_place_ne_tooManyLinks file goal
  split
  · exact absurd (by assumption) few
  · rfl

end Disk

end SchemaLint
