import SchemaLint.Files.Glob
import SchemaLint.Proofs.Files.Real

/-!
# Offered files

What an argument offers does not depend on what was selected before it: its candidates that are files and are not
ignored, each with its real path.  The selection is what all arguments offer, one after the other, without what has the
real path of something that was offered before.  So everything about it comes down to a list of offers and to keeping
the first ones.
-/

namespace SchemaLint

open Disk (realPath_of_isFile)

/-! ## Keeping the first ones -/

/-- Of what is offered the first one with each real path is kept, unless that real path was seen before. -/
def kept (seen : List Path) : List (Path × Path) -> List (Path × Path)
  | [] => []
  | offer :: rest => if seen.contains offer.2 then kept seen rest else offer :: kept (seen ++ [offer.2]) rest

section Kept

variable {seen seen' barred : List Path} {offer : Path × Path} {offers : List (Path × Path)}

theorem kept_cons_of_mem (known : offer.2 ∈ seen) : kept seen (offer :: offers) = kept seen offers := by
  rw [kept, if_pos (List.contains_iff_mem.mpr known)]

theorem kept_cons_of_not_mem (new : offer.2 ∉ seen) :
    kept seen (offer :: offers) = offer :: kept (seen ++ [offer.2]) offers := by
  rw [kept, if_neg (by simpa using new)]

theorem kept_sublist (seen : List Path) (offers : List (Path × Path)) : (kept seen offers).Sublist offers := by
  induction offers generalizing seen with
  | nil => exact .slnil
  | cons offer rest ih =>
    by_cases known : offer.2 ∈ seen
    · rw [kept_cons_of_mem known]
      exact (ih seen).cons offer
    · rw [kept_cons_of_not_mem known]
      exact (ih _).cons_cons offer

/-- What is kept has a real path that was not seen before. -/
theorem not_mem_seen (member : offer ∈ kept seen offers) : offer.2 ∉ seen := by
  induction offers generalizing seen with
  | nil => cases member
  | cons first rest ih =>
    by_cases known : first.2 ∈ seen
    · rw [kept_cons_of_mem known] at member
      exact ih member
    · rw [kept_cons_of_not_mem known] at member
      rcases List.mem_cons.mp member with rfl | later
      · exact known
      · exact fun inside => ih later (List.mem_append_left _ inside)

theorem nodup_kept (seen : List Path) (offers : List (Path × Path)) : ((kept seen offers).map Prod.snd).Nodup := by
  induction offers generalizing seen with
  | nil => exact List.nodup_nil
  | cons offer rest ih =>
    by_cases known : offer.2 ∈ seen
    · rw [kept_cons_of_mem known]
      exact ih seen
    · rw [kept_cons_of_not_mem known, List.map_cons, List.nodup_cons]
      refine ⟨?_, ih _⟩
      intro inside
      obtain ⟨later, member, same⟩ := List.mem_map.mp inside
      exact not_mem_seen member (List.mem_append_right _ (List.mem_singleton.mpr same))

/-- Nothing that is offered is lost: its real path was seen before or is that of something kept. -/
theorem mem_seen_or_kept (member : offer ∈ offers) : offer.2 ∈ seen ∨ offer.2 ∈ (kept seen offers).map Prod.snd := by
  induction offers generalizing seen with
  | nil => cases member
  | cons first rest ih =>
    by_cases known : first.2 ∈ seen
    · rw [kept_cons_of_mem known]
      rcases List.mem_cons.mp member with rfl | later
      · exact .inl known
      · exact ih later
    · rw [kept_cons_of_not_mem known, List.map_cons, List.mem_cons]
      rcases List.mem_cons.mp member with rfl | later
      · exact .inr (.inl rfl)
      · rcases @ih (seen ++ [first.2]) later with inside | inside
        · rcases List.mem_append.mp inside with earlier | last
          · exact .inl earlier
          · exact .inr (.inl (List.mem_singleton.mp last))
        · exact .inr (.inr inside)

/-- The real paths of what is kept are those that are offered. -/
theorem mem_map_kept_iff {real : Path} : real ∈ (kept [] offers).map Prod.snd <-> real ∈ offers.map Prod.snd := by
  constructor
  · exact fun inside => ((kept_sublist [] offers).map Prod.snd).subset inside
  · intro inside
    obtain ⟨offer, member, rfl⟩ := List.mem_map.mp inside
    exact (mem_seen_or_kept member).resolve_left List.not_mem_nil

theorem kept_append (seen : List Path) (offers more : List (Path × Path)) :
    kept seen (offers ++ more) = kept seen offers ++ kept (seen ++ (kept seen offers).map Prod.snd) more := by
  induction offers generalizing seen with
  | nil => rw [List.nil_append, kept, List.map_nil, List.append_nil, List.nil_append]
  | cons offer rest ih =>
    rw [List.cons_append]
    by_cases known : offer.2 ∈ seen
    · rw [kept_cons_of_mem known, kept_cons_of_mem known]
      exact ih seen
    · rw [kept_cons_of_not_mem known, kept_cons_of_not_mem known, ih, List.map_cons, List.cons_append,
        List.append_assoc seen, List.singleton_append]

/-- To have seen more is to keep less. -/
theorem kept_eq_filter (same : forall real, real ∈ seen' <-> real ∈ seen ∨ real ∈ barred) :
    kept seen' offers = (kept seen offers).filter fun offer => offer.2 ∉ barred := by
  induction offers generalizing seen seen' with
  | nil => rfl
  | cons offer rest ih =>
    by_cases known : offer.2 ∈ seen
    · rw [kept_cons_of_mem known, kept_cons_of_mem ((same offer.2).mpr (.inl known))]
      exact ih same
    · rw [kept_cons_of_not_mem known]
      by_cases out : offer.2 ∈ barred
      · rw [kept_cons_of_mem ((same offer.2).mpr (.inr out)), List.filter_cons_of_neg (by simpa using out)]
        refine ih fun real => ?_
        rw [same, List.mem_append, List.mem_singleton]
        constructor
        · rintro (earlier | later)
          · exact .inl (.inl earlier)
          · exact .inr later
        · rintro ((earlier | rfl) | later)
          · exact .inl earlier
          · exact .inr out
          · exact .inr later
      · have fresh : offer.2 ∉ seen' := fun inside => ((same offer.2).mp inside).elim known out
        rw [kept_cons_of_not_mem fresh, List.filter_cons_of_pos (by simpa using out)]
        refine congrArg (offer :: ·) (ih fun real => ?_)
        rw [List.mem_append, List.mem_append, same]
        tauto

end Kept

/-! ## Collecting -/

/-- What the members of a list give, one after the other. -/
def collected {α β ε : Type} (f : α -> Except ε (List β)) (xs : List α) : Except ε (List β) :=
  (xs.mapM f).map List.flatten

section Collected

variable {α β ε : Type} {f : α -> Except ε (List β)} {xs ys : List α} {all : List β}

theorem exists_collected_iff :
    (exists all, collected f xs = .ok all) <-> forall x, x ∈ xs -> exists given, f x = .ok given := by
  rw [← exists_mapM_iff]
  constructor
  · rintro ⟨all, done⟩
    obtain ⟨each, gives, -⟩ := map_eq_ok_iff.mp done
    exact ⟨each, gives⟩
  · rintro ⟨each, gives⟩
    exact ⟨each.flatten, map_eq_ok_iff.mpr ⟨each, gives, rfl⟩⟩

/-- What is collected is given by a member, in whatever order the members stand. -/
theorem mem_collected_iff (done : collected f xs = .ok all) {y : β} :
    y ∈ all <-> exists x, x ∈ xs ∧ exists given, f x = .ok given ∧ y ∈ given := by
  obtain ⟨each, gives, rfl⟩ := map_eq_ok_iff.mp done
  rw [List.mem_flatten]
  constructor
  · rintro ⟨given, member, inside⟩
    obtain ⟨x, isMember, same⟩ := exists_of_mem_mapM gives member
    exact ⟨x, isMember, given, same, inside⟩
  · rintro ⟨x, isMember, given, same, inside⟩
    exact ⟨given, mem_of_mapM gives isMember same, inside⟩

theorem collected_append_iff : collected f (xs ++ ys) = .ok all <->
    exists front back, collected f xs = .ok front ∧ collected f ys = .ok back ∧ all = front ++ back := by
  constructor
  · intro done
    obtain ⟨each, gives, rfl⟩ := map_eq_ok_iff.mp done
    rw [List.mapM_append] at gives
    obtain ⟨front, first, more⟩ := bind_eq_ok_iff.mp gives
    obtain ⟨back, second, same⟩ := bind_eq_ok_iff.mp more
    cases same
    exact ⟨_, _, map_eq_ok_iff.mpr ⟨front, first, rfl⟩, map_eq_ok_iff.mpr ⟨back, second, rfl⟩, List.flatten_append⟩
  · rintro ⟨_, _, early, late, rfl⟩
    obtain ⟨front, first, rfl⟩ := map_eq_ok_iff.mp early
    obtain ⟨back, second, rfl⟩ := map_eq_ok_iff.mp late
    refine map_eq_ok_iff.mpr ⟨front ++ back, ?_, List.flatten_append⟩
    rw [List.mapM_append]
    exact bind_eq_ok_iff.mpr ⟨front, first, bind_eq_ok_iff.mpr ⟨back, second, rfl⟩⟩

theorem collected_singleton (x : α) : collected f [x] = f x := by
  unfold collected
  rw [List.mapM_cons, List.mapM_nil]
  cases f x with
  | error e => rfl
  | ok given => exact congrArg Except.ok (List.append_nil given)

end Collected

/-! ## What arguments offer -/

/-- The path of a candidate. -/
def spelled (base : Path) (candidate : String) : Path :=
  base.join (.ofString candidate)

/-- What a candidate offers: its path with its real path, if it is a file and not ignored. -/
def offered (d : Disk) (base : Path) (ignore : List String) (candidate : String) : Except Crash (List (Path × Path)) := do
  let path := spelled base candidate
  match d.isFile path.text with
  | .error fault => throw (fault.crash path.text)
  | .ok false => return []
  | .ok true =>
    if isIgnored (Path.ofString candidate).text ignore then return []
    let real ← d.realPath path
    return [(path, real)]

/-- What the candidates of an argument offer. -/
def offersOf (d : Disk) (base : Path) (ignore : List String) (argument : String) :
    Except Crash (List (Path × Path)) := do
  let found ← candidates d base argument
  collected (offered d base ignore) found

/-- The selection with what is kept of further offers. -/
def Selection.extend (s : Selection) (offers : List (Path × Path)) : Selection where
  paths := s.paths ++ (kept s.seen offers).map Prod.fst
  seen := s.seen ++ (kept s.seen offers).map Prod.snd

variable {d : Disk} {base : Path} {ignore arguments : List String} {argument candidate : String}

theorem Selection.extend_nil (s : Selection) : s.extend [] = s := by
  simp [extend, kept]

theorem Selection.extend_append (s : Selection) (offers more : List (Path × Path)) :
    s.extend (offers ++ more) = (s.extend offers).extend more := by
  simp [extend, kept_append, List.append_assoc]

/-- A selection that goes along a list, each member of which extends it by what it offers, is extended by all offers. -/
theorem foldlM_extend {α : Type} {step : Selection -> α -> Except Crash Selection}
    {offers : α -> Except Crash (List (Path × Path))} (each : forall s x, step s x = (offers x).map s.extend)
    (s : Selection) (xs : List α) : xs.foldlM step s = (collected offers xs).map s.extend := by
  induction xs generalizing s with
  | nil =>
    rw [List.foldlM_nil, collected, List.mapM_nil]
    exact congrArg Except.ok (s.extend_nil).symm
  | cons x rest ih =>
    rw [List.foldlM_cons, collected, List.mapM_cons, each]
    cases offers x with
    | error crash => rfl
    | ok first =>
      change rest.foldlM step (s.extend first) =
        (((rest.mapM offers).bind fun all => .ok (first :: all)).map List.flatten).map s.extend
      rw [ih, collected]
      cases rest.mapM offers with
      | error crash => rfl
      | ok all =>
        change Except.ok ((s.extend first).extend all.flatten) = .ok (s.extend (first :: all).flatten)
        rw [List.flatten_cons, Selection.extend_append]

/-- To select a candidate is to extend the selection by what the candidate offers. -/
theorem add_eq (s : Selection) (candidate : String) :
    s.add d base ignore candidate = (offered d base ignore candidate).map s.extend := by
  have unchanged : (Except.ok s : Except Crash Selection) = (Except.ok []).map s.extend :=
    congrArg Except.ok (s.extend_nil).symm
  unfold Selection.add offered spelled
  simp only
  generalize base.join (.ofString candidate) = path
  cases d.isFile path.text with
  | error fault => rfl
  | ok there =>
    cases there with
    | false => exact unchanged
    | true =>
      by_cases out : isIgnored (Path.ofString candidate).text ignore = true
      · simp only [if_pos out]
        exact unchanged
      · simp only [if_neg out]
        cases d.realPath path with
        | error crash => rfl
        | ok real =>
          change (if s.seen.contains real then Except.ok s else .ok ⟨s.paths ++ [path], s.seen ++ [real]⟩) =
            .ok (s.extend [(path, real)])
          by_cases known : s.seen.contains real = true
          · rw [if_pos known, Selection.extend, kept_cons_of_mem (by simpa using known)]
            simp [kept]
          · rw [if_neg known, Selection.extend, kept_cons_of_not_mem (by simpa using known)]
            simp [kept]

/-- The selection is what all arguments offer, without what has the real path of something that was offered before. -/
theorem selectFiles_eq : selectFiles d arguments ignore base =
    (collected (offersOf d base ignore) arguments).map fun offers => (kept [] offers).map Prod.fst := by
  have each : forall (s : Selection) (argument : String),
      (candidates d base argument >>= fun found => found.foldlM (Selection.add d base ignore) s) =
        (offersOf d base ignore argument).map s.extend := by
    intro s argument
    unfold offersOf
    cases candidates d base argument with
    | error crash => rfl
    | ok found => exact foldlM_extend add_eq s found
  unfold selectFiles
  simp only [foldlM_extend each]
  change ((collected (offersOf d base ignore) arguments).map _).bind _ = _
  cases collected (offersOf d base ignore) arguments with
  | error crash => rfl
  | ok offers => simp [Except.map, Except.bind, Selection.extend, pure, Except.pure]

/-! ## What can be asked -/

/-- A text is a candidate of an argument: the argument itself if it names a file, and else what it stands for as a glob. -/
def IsCandidate (d : Disk) (base : Path) (argument candidate : String) : Prop :=
  if d.isFile (spelled base argument).text = .ok true then candidate = argument
  else candidate.toList ∈ Glob.expand d base argument.toList

/-- An argument of which everything can be asked: whether it and each of its candidates is a file, and what it stands for
as a glob if it is none.  Whether there is a file cannot be asked of a path that is too long. -/
structure Askable (d : Disk) (base : Path) (argument : String) : Prop where
  named : exists there, d.isFile (spelled base argument).text = .ok there
  clean : d.isFile (spelled base argument).text = .ok false -> Glob.asksForbidden argument.toList = false
  matched : forall candidate, IsCandidate d base argument candidate ->
    exists there, d.isFile (spelled base candidate).text = .ok there

/-- Something that arguments offer. -/
structure IsOffer (d : Disk) (base : Path) (ignore : List String) (candidate : String) (offer : Path × Path) : Prop where
  path : offer.1 = spelled base candidate
  file : d.isFile offer.1.text = .ok true
  free : isIgnored (Path.ofString candidate).text ignore = false
  real : d.realPath offer.1 = .ok offer.2

theorem exists_candidates_iff : (exists found, candidates d base argument = .ok found) <->
    (exists there, d.isFile (spelled base argument).text = .ok there) ∧
      (d.isFile (spelled base argument).text = .ok false -> Glob.asksForbidden argument.toList = false) := by
  unfold candidates spelled
  cases named : d.isFile (base.join (.ofString argument)).text with
  | error fault => simp [named]
  | ok there =>
    cases there with
    | true => simp [named]
    | false => by_cases dirty : Glob.asksForbidden argument.toList = true <;> simp [named, dirty]

theorem mem_candidates_iff {found : List String} (asked : candidates d base argument = .ok found) :
    candidate ∈ found <-> IsCandidate d base argument candidate := by
  unfold candidates at asked
  unfold IsCandidate spelled
  cases named : d.isFile (base.join (.ofString argument)).text with
  | error fault =>
    simp only [named] at asked
    cases asked
  | ok there =>
    simp only [named] at asked
    cases there with
    | true =>
      cases asked
      simp
    | false =>
      by_cases dirty : Glob.asksForbidden argument.toList = true
      · simp only [if_pos dirty] at asked
        cases asked
      · simp only [if_neg dirty, Except.ok.injEq] at asked
        subst asked
        rw [if_neg (by simp), List.mem_map]
        constructor
        · rintro ⟨text, inside, rfl⟩
          rw [String.toList_ofList]
          exact (List.mergeSort_perm _ _).mem_iff.mp inside
        · intro inside
          exact ⟨candidate.toList, (List.mergeSort_perm _ _).mem_iff.mpr inside, String.ofList_toList⟩

/-- A candidate offers its own path, unless it is no file or ignored. -/
theorem offered_cases {offers : List (Path × Path)} (asked : offered d base ignore candidate = .ok offers) :
    (offers = [] ∧ forall offer, ¬ IsOffer d base ignore candidate offer) ∨
      exists real, offers = [(spelled base candidate, real)] ∧ IsOffer d base ignore candidate (spelled base candidate, real) := by
  unfold offered at asked
  cases file : d.isFile (spelled base candidate).text with
  | error fault =>
    simp only [file] at asked
    cases asked
  | ok there =>
    simp only [file] at asked
    cases there with
    | false =>
      cases asked
      refine .inl ⟨rfl, fun offer isOffer => ?_⟩
      have isFile := isOffer.file
      rw [isOffer.path, file] at isFile
      cases isFile
    | true =>
      by_cases out : isIgnored (Path.ofString candidate).text ignore = true
      · rw [if_pos out] at asked
        cases asked
        exact .inl ⟨rfl, fun offer isOffer => Bool.noConfusion (out.symm.trans isOffer.free)⟩
      · rw [if_neg out] at asked
        obtain ⟨real, found, same⟩ := bind_eq_ok_iff.mp asked
        cases same
        exact .inr ⟨real, rfl, rfl, file, Bool.not_eq_true _ ▸ out, found⟩

theorem mem_offered_iff {offers : List (Path × Path)} {offer : Path × Path}
    (asked : offered d base ignore candidate = .ok offers) :
    offer ∈ offers <-> IsOffer d base ignore candidate offer := by
  rcases offered_cases asked with ⟨rfl, none⟩ | ⟨real, rfl, only⟩
  · exact ⟨fun inside => absurd inside List.not_mem_nil, fun isOffer => absurd isOffer (none offer)⟩
  · rw [List.mem_singleton]
    constructor
    · rintro rfl
      exact only
    · intro isOffer
      have real' := isOffer.real
      rw [isOffer.path, only.real, Except.ok.injEq] at real'
      exact Prod.ext isOffer.path real'.symm

/-- The offer of a candidate is there if it can be asked whether the candidate is a file. -/
theorem exists_offered_iff (proper : (spelled base candidate).IsProper) (current : d.current.IsProper) :
    (exists offers, offered d base ignore candidate = .ok offers) <->
      exists there, d.isFile (spelled base candidate).text = .ok there := by
  unfold offered
  cases file : d.isFile (spelled base candidate).text with
  | error fault => simp [file]
  | ok there =>
    simp only [file]
    cases there with
    | false => exact ⟨fun _ => ⟨false, rfl⟩, fun _ => ⟨[], rfl⟩⟩
    | true =>
      refine ⟨fun _ => ⟨true, rfl⟩, fun _ => ?_⟩
      by_cases out : isIgnored (Path.ofString candidate).text ignore = true
      · exact ⟨[], by rw [if_pos out]; rfl⟩
      · obtain ⟨way, -, real⟩ := realPath_of_isFile proper current file
        exact ⟨_, by rw [if_neg out, real]; rfl⟩

theorem isProper_spelled (proper : base.IsProper) (candidate : String) : (spelled base candidate).IsProper := by
  have read : (Path.ofString candidate).IsProper := Path.isProper_ofString candidate
  unfold spelled Path.join
  split
  · intro name member
    rcases List.mem_append.mp member with above | inside
    · exact proper name above
    · exact read name inside
  · exact read

/-- What an argument offers is there if everything that is asked of it can be asked. -/
theorem exists_offersOf_iff (proper : base.IsProper) (current : d.current.IsProper) :
    (exists offers, offersOf d base ignore argument = .ok offers) <-> Askable d base argument := by
  have each : forall found, candidates d base argument = .ok found ->
      ((exists offers, collected (offered d base ignore) found = .ok offers) <->
        forall candidate, IsCandidate d base argument candidate ->
          exists there, d.isFile (spelled base candidate).text = .ok there) := by
    intro found asked
    rw [exists_collected_iff]
    refine forall_congr' fun candidate => ?_
    rw [mem_candidates_iff asked, exists_offered_iff (isProper_spelled proper candidate) current]
  constructor
  · rintro ⟨offers, done⟩
    obtain ⟨found, asked, more⟩ := bind_eq_ok_iff.mp done
    obtain ⟨named, clean⟩ := exists_candidates_iff.mp ⟨found, asked⟩
    exact ⟨named, clean, (each found asked).mp ⟨offers, more⟩⟩
  · rintro ⟨named, clean, matched⟩
    obtain ⟨found, asked⟩ := exists_candidates_iff.mpr ⟨named, clean⟩
    obtain ⟨offers, more⟩ := (each found asked).mpr matched
    exact ⟨offers, bind_eq_ok_iff.mpr ⟨found, asked, more⟩⟩

theorem mem_offersOf_iff {offers : List (Path × Path)} {offer : Path × Path}
    (done : offersOf d base ignore argument = .ok offers) :
    offer ∈ offers <-> exists candidate, IsCandidate d base argument candidate ∧ IsOffer d base ignore candidate offer := by
  obtain ⟨found, asked, more⟩ := bind_eq_ok_iff.mp done
  rw [mem_collected_iff more]
  constructor
  · rintro ⟨candidate, isFound, given, same, inside⟩
    exact ⟨candidate, (mem_candidates_iff asked).mp isFound, (mem_offered_iff same).mp inside⟩
  · rintro ⟨candidate, isCandidate, isOffer⟩
    have isFound := (mem_candidates_iff asked).mpr isCandidate
    obtain ⟨given, same⟩ := exists_collected_iff.mp ⟨offers, more⟩ candidate isFound
    exact ⟨candidate, isFound, given, same, (mem_offered_iff same).mpr isOffer⟩

theorem exists_offers_iff (proper : base.IsProper) (current : d.current.IsProper) (ignore : List String) :
    (exists offers, collected (offersOf d base ignore) arguments = .ok offers) <->
      forall argument, argument ∈ arguments -> Askable d base argument := by
  rw [exists_collected_iff]
  exact forall₂_congr fun argument _ => exists_offersOf_iff proper current

/-- What arguments offer does not depend on their order. -/
theorem mem_offers_iff {offers : List (Path × Path)} {offer : Path × Path}
    (done : collected (offersOf d base ignore) arguments = .ok offers) :
    offer ∈ offers <-> exists argument, argument ∈ arguments ∧
      exists candidate, IsCandidate d base argument candidate ∧ IsOffer d base ignore candidate offer := by
  rw [mem_collected_iff done]
  constructor
  · rintro ⟨argument, isArgument, given, same, inside⟩
    exact ⟨argument, isArgument, (mem_offersOf_iff same).mp inside⟩
  · rintro ⟨argument, isArgument, isOffered⟩
    obtain ⟨given, same⟩ := exists_collected_iff.mp ⟨offers, done⟩ argument isArgument
    exact ⟨argument, isArgument, given, same, (mem_offersOf_iff same).mpr isOffered⟩

end SchemaLint
