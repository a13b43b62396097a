import Mathlib.Data.List.Nodup
import SchemaLint.Proofs.Files.Offers

/-!
# Selected files

Files are selected each once, completely and argument by argument.  Everything that can be asked of the arguments must be
so: whether there is a file at a path that is too long is refused, and then nothing is selected at all.
-/

namespace SchemaLint

variable {d : Disk} {base : Path} {ignore arguments : List String} {argument candidate : String} {paths : List Path}

/-! ## The order of candidates -/

/-- A text comes before another one in the order of their code points. -/
def Precedes (s t : String) : Prop :=
  List.Lex (fun a b => a.toNat < b.toNat) s.toList t.toList

theorem inOrder_cons_iff {a b : Char} {s t : List Char} : Glob.inOrder (a :: s) (b :: t) = true <->
    a.toNat < b.toNat ∨ a = b ∧ Glob.inOrder s t = true := by
  rw [Glob.inOrder]
  by_cases same : a = b
  · simp [same]
  · simp [same]

theorem inOrder_trans {s t u : List Char} (first : Glob.inOrder s t = true) (second : Glob.inOrder t u = true) :
    Glob.inOrder s u = true := by
  induction s generalizing t u with
  | nil => rfl
  | cons a s ih =>
    cases t with
    | nil => cases first
    | cons b t =>
      cases u with
      | nil => cases second
      | cons c u =>
        rw [inOrder_cons_iff] at first second ⊢
        rcases first with less | ⟨rfl, first⟩
        · rcases second with less' | ⟨rfl, -⟩
          · exact .inl (Nat.lt_trans less less')
          · exact .inl less
        · rcases second with less' | ⟨rfl, second⟩
          · exact .inl less'
          · exact .inr ⟨rfl, ih first second⟩

theorem inOrder_total (s t : List Char) : Glob.inOrder s t = true ∨ Glob.inOrder t s = true := by
  induction s generalizing t with
  | nil => exact .inl rfl
  | cons a s ih =>
    cases t with
    | nil => exact .inr rfl
    | cons b t =>
      rw [inOrder_cons_iff, inOrder_cons_iff]
      rcases Nat.lt_trichotomy a.toNat b.toNat with less | same | greater
      · exact .inl (.inl less)
      · have equal : a = b := Char.toNat_inj.mp same
        exact (ih t).imp (fun order => .inr ⟨equal, order⟩) fun order => .inr ⟨equal.symm, order⟩
      · exact .inr (.inl greater)

/-- Of two different texts in order the one precedes the other. -/
theorem lex_of_inOrder {s t : List Char} (order : Glob.inOrder s t = true) (different : s ≠ t) :
    List.Lex (fun a b => a.toNat < b.toNat) s t := by
  induction s generalizing t with
  | nil =>
    obtain ⟨b, t, rfl⟩ := List.exists_cons_of_ne_nil different.symm
    exact .nil
  | cons a s ih =>
    cases t with
    | nil => cases order
    | cons b t =>
      rcases inOrder_cons_iff.mp order with less | ⟨rfl, order'⟩
      · exact .rel less
      · exact .cons (ih order' fun same => different (congrArg (a :: ·) same))

theorem pairwise_sorted (texts : List (List Char)) : (Glob.sorted texts).Pairwise fun s t => Glob.inOrder s t = true := by
  have total : forall s t, (Glob.inOrder s t || Glob.inOrder t s) = true := by
    intro s t
    rw [Bool.or_eq_true]
    exact inOrder_total s t
  exact @List.pairwise_mergeSort _ Glob.inOrder (fun _ _ _ => inOrder_trans) total texts

theorem pairwise_candidates {found : List String} (asked : candidates d base argument = .ok found) :
    found.Pairwise fun s t => Glob.inOrder s.toList t.toList = true := by
  unfold candidates at asked
  simp only at asked
  split at asked
  · cases asked
  · cases asked
    exact List.pairwise_singleton _ _
  · split at asked
    · cases asked
    · cases asked
      rw [List.pairwise_map]
      simp only [String.toList_ofList]
      exact pairwise_sorted _

/-- What an argument offers are paths of some of its candidates, in the order of the candidates. -/
theorem exists_texts_of_offersOf {offers : List (Path × Path)} (done : offersOf d base ignore argument = .ok offers) :
    exists texts : List String, offers.map Prod.fst = texts.map (spelled base) ∧
      (texts.Pairwise fun s t => Glob.inOrder s.toList t.toList = true) ∧
        forall text, text ∈ texts -> IsCandidate d base argument text := by
  obtain ⟨found, asked, more⟩ := bind_eq_ok_iff.mp done
  obtain ⟨all, gathered, rfl⟩ := map_eq_ok_iff.mp more
  obtain ⟨texts, sublist, same⟩ :
      exists texts : List String, texts.Sublist found ∧ all.flatten.map Prod.fst = texts.map (spelled base) := by
    have each := mapM_eq_ok_iff.mp gathered
    clear asked gathered done more
    induction each with
    | nil => exact ⟨[], .slnil, rfl⟩
    | @cons text offers rest all first later ih =>
      obtain ⟨texts, sublist, same⟩ := ih
      rcases offered_cases first with ⟨rfl, -⟩ | ⟨real, rfl, -⟩
      · exact ⟨texts, sublist.cons text, same⟩
      · exact ⟨text :: texts, sublist.cons_cons text, congrArg (spelled base text :: ·) same⟩
  exact ⟨texts, same, (pairwise_candidates asked).sublist sublist,
    fun text member => (mem_candidates_iff asked).mp (sublist.subset member)⟩

/-! ## Selections -/

/-- What it is to select files for arguments. -/
structure Selected (d : Disk) (base : Path) (ignore arguments : List String) (paths : List Path) : Prop where
  /-- Only files are selected, and the real path of each is where its path leads. -/
  files : forall path, path ∈ paths -> d.isFile path.text = .ok true ∧
    exists way, d.locate true path.text = .ok way ∧ d.realPath path = .ok ⟨.root, way⟩
  /-- Each of them is the path of a candidate that is not ignored. -/
  candidates : forall path, path ∈ paths -> exists argument, argument ∈ arguments ∧ exists candidate,
    IsCandidate d base argument candidate ∧ isIgnored (Path.ofString candidate).text ignore = false ∧
      path = spelled base candidate
  /-- No two of them have the same real path. -/
  distinct : (paths.map d.realPath).Nodup
  /-- Every candidate that is a file and not ignored is there under its real path. -/
  complete : forall argument, argument ∈ arguments -> forall candidate, IsCandidate d base argument candidate ->
    d.isFile (spelled base candidate).text = .ok true -> isIgnored (Path.ofString candidate).text ignore = false ->
      exists path, path ∈ paths ∧ d.realPath path = d.realPath (spelled base candidate)
  /-- More arguments add what they select by themselves, apart from files that are there already. -/
  composed : forall ps qs, arguments = ps ++ qs -> exists front back, selectFiles d ps ignore base = .ok front ∧
    selectFiles d qs ignore base = .ok back ∧
      paths = front ++ back.filter fun path => d.realPath path ∉ front.map d.realPath
  /-- In another order the arguments select the same files. -/
  permuted : forall others, others.Perm arguments -> exists paths', selectFiles d others ignore base = .ok paths' ∧
    (paths'.map d.realPath).Perm (paths.map d.realPath)
  /-- What an argument adds to those before it are paths of candidates of its own, in the order of their texts. -/
  sorted : forall before argument after, arguments = before ++ argument :: after ->
    exists (front : List Path) (texts : List String) (back : List Path), selectFiles d before ignore base = .ok front ∧
      selectFiles d (before ++ [argument]) ignore base = .ok (front ++ texts.map (spelled base)) ∧
      paths = front ++ texts.map (spelled base) ++ back ∧ texts.Pairwise Precedes ∧
      forall text, text ∈ texts -> IsCandidate d base argument text

theorem selectFiles_eq_ok_iff : selectFiles d arguments ignore base = .ok paths <->
    exists offers, collected (offersOf d base ignore) arguments = .ok offers ∧ (kept [] offers).map Prod.fst = paths := by
  rw [selectFiles_eq, map_eq_ok_iff]

/-- Files are selected if everything can be asked of each argument. -/
theorem exists_selectFiles_iff (proper : base.IsProper) (current : d.current.IsProper) :
    (exists paths, selectFiles d arguments ignore base = .ok paths) <->
      forall argument, argument ∈ arguments -> Askable d base argument := by
  rw [← exists_offers_iff proper current ignore]
  constructor
  · rintro ⟨paths, done⟩
    obtain ⟨offers, asked, -⟩ := selectFiles_eq_ok_iff.mp done
    exact ⟨offers, asked⟩
  · rintro ⟨offers, asked⟩
    exact ⟨_, selectFiles_eq_ok_iff.mpr ⟨offers, asked, rfl⟩⟩

section Kept

variable {offers : List (Path × Path)} {seen : List Path}

theorem real_of_mem (done : collected (offersOf d base ignore) arguments = .ok offers) {offer : Path × Path}
    (member : offer ∈ offers) : d.realPath offer.1 = .ok offer.2 := by
  obtain ⟨_, _, _, _, isOffer⟩ := (mem_offers_iff done).mp member
  exact isOffer.real

/-- The real paths of what is kept are those that it was offered with. -/
theorem map_realPath_kept (done : collected (offersOf d base ignore) arguments = .ok offers) :
    ((kept seen offers).map Prod.fst).map d.realPath = ((kept seen offers).map Prod.snd).map .ok := by
  rw [List.map_map, List.map_map]
  exact List.map_congr_left fun offer member => real_of_mem done ((kept_sublist seen offers).subset member)

theorem ok_injective : Function.Injective (Except.ok : Path -> Except Crash Path) :=
  fun _ _ => Except.ok.inj

theorem nodup_realPath_kept (done : collected (offersOf d base ignore) arguments = .ok offers) :
    (((kept seen offers).map Prod.fst).map d.realPath).Nodup := by
  rw [map_realPath_kept done]
  exact List.Nodup.map ok_injective (nodup_kept seen offers)

/-- After other arguments, arguments add what they select by themselves, apart from files that are there already. -/
theorem map_kept_append {front back : List (Path × Path)} (first : collected (offersOf d base ignore) arguments = .ok front)
    {others : List String} (second : collected (offersOf d base ignore) others = .ok back) :
    (kept [] (front ++ back)).map Prod.fst = (kept [] front).map Prod.fst ++
      ((kept [] back).map Prod.fst).filter fun path => d.realPath path ∉ ((kept [] front).map Prod.fst).map d.realPath := by
  rw [kept_append, List.map_append, List.nil_append, map_realPath_kept first, List.filter_map]
  refine congrArg ((kept [] front).map Prod.fst ++ ·) (congrArg (List.map Prod.fst) ?_)
  have later : kept ((kept [] front).map Prod.snd) back =
      (kept [] back).filter fun offer => offer.2 ∉ (kept [] front).map Prod.snd :=
    kept_eq_filter (by simp)
  rw [later]
  refine List.filter_congr fun offer member => ?_
  have real : d.realPath offer.1 = .ok offer.2 := real_of_mem second ((kept_sublist [] back).subset member)
  simp only [Function.comp, real, List.mem_map_of_injective ok_injective]

/-- The same offers in another order are kept with the same real paths. -/
theorem perm_realPath_kept {others : List String} {offers' : List (Path × Path)} (perm : others.Perm arguments)
    (done : collected (offersOf d base ignore) arguments = .ok offers)
    (done' : collected (offersOf d base ignore) others = .ok offers') :
    (((kept [] offers').map Prod.fst).map d.realPath).Perm (((kept [] offers).map Prod.fst).map d.realPath) := by
  refine (List.perm_ext_iff_of_nodup (nodup_realPath_kept done') (nodup_realPath_kept done)).mpr fun asked => ?_
  have offered : forall offer, offer ∈ offers' <-> offer ∈ offers := by
    intro offer
    simp only [mem_offers_iff done', mem_offers_iff done, perm.mem_iff]
  have reals : forall real, real ∈ (kept [] offers').map Prod.snd <-> real ∈ (kept [] offers).map Prod.snd := by
    intro real
    rw [mem_map_kept_iff, mem_map_kept_iff, List.mem_map, List.mem_map]
    simp only [offered]
  rw [map_realPath_kept done', map_realPath_kept done, List.mem_map, List.mem_map]
  exact exists_congr fun real => and_congr_left fun _ => reals real

/-- What is kept of the offers of one argument are paths of some of its candidates in their order, each once. -/
theorem exists_texts_kept (done : offersOf d base ignore argument = .ok offers) (seen : List Path) :
    exists texts : List String, (kept seen offers).map Prod.fst = texts.map (spelled base) ∧
      texts.Pairwise Precedes ∧ forall text, text ∈ texts -> IsCandidate d base argument text := by
  obtain ⟨texts, same, ordered, areCandidates⟩ := exists_texts_of_offersOf done
  have among : ((kept seen offers).map Prod.fst).Sublist (texts.map (spelled base)) :=
    same ▸ (kept_sublist seen offers).map Prod.fst
  obtain ⟨chosen, sublist, spelt⟩ := List.sublist_map_iff.mp among
  have distinct : chosen.Nodup := by
    have asked : collected (offersOf d base ignore) [argument] = .ok offers := (collected_singleton argument).trans done
    have reals : (((kept seen offers).map Prod.fst).map d.realPath).Nodup := nodup_realPath_kept asked
    rw [spelt] at reals
    exact reals.of_map.of_map
  refine ⟨chosen, spelt, ?_, fun text member => areCandidates text (sublist.subset member)⟩
  refine ((ordered.sublist sublist).and distinct).imp fun ⟨order, different⟩ => ?_
  exact lex_of_inOrder order fun same => different (String.toList_inj.mp same)

end Kept

/-- What comes back is a selection. -/
theorem selected_of_selectFiles (proper : base.IsProper) (current : d.current.IsProper)
    (done : selectFiles d arguments ignore base = .ok paths) : Selected d base ignore arguments paths := by
  obtain ⟨offers, asked, rfl⟩ := selectFiles_eq_ok_iff.mp done
  have isOffer : forall offer, offer ∈ kept [] offers -> exists argument, argument ∈ arguments ∧
      exists candidate, IsCandidate d base argument candidate ∧ IsOffer d base ignore candidate offer :=
    fun offer member => (mem_offers_iff asked).mp ((kept_sublist [] offers).subset member)
  constructor
  case files =>
    intro path member
    obtain ⟨offer, inside, rfl⟩ := List.mem_map.mp member
    obtain ⟨argument, -, candidate, -, offer'⟩ := isOffer offer inside
    have isProper : offer.1.IsProper := offer'.path ▸ isProper_spelled proper candidate
    exact ⟨offer'.file, Disk.realPath_of_isFile isProper current offer'.file⟩
  case candidates =>
    intro path member
    obtain ⟨offer, inside, rfl⟩ := List.mem_map.mp member
    obtain ⟨argument, isArgument, candidate, isCandidate, offer'⟩ := isOffer offer inside
    exact ⟨argument, isArgument, candidate, isCandidate, offer'.free, offer'.path⟩
  case distinct => exact nodup_realPath_kept asked
  case complete =>
    intro argument isArgument candidate isCandidate file free
    obtain ⟨way, -, real⟩ := Disk.realPath_of_isFile (isProper_spelled proper candidate) current file
    have member : (spelled base candidate, (⟨.root, way⟩ : Path)) ∈ offers :=
      (mem_offers_iff asked).mpr ⟨argument, isArgument, candidate, isCandidate, rfl, file, free, real⟩
    obtain ⟨offer, inside, same⟩ := List.mem_map.mp ((mem_seen_or_kept member).resolve_left List.not_mem_nil)
    refine ⟨offer.1, List.mem_map_of_mem inside, ?_⟩
    rw [real_of_mem asked ((kept_sublist [] offers).subset inside), real, same]
  case composed =>
    rintro ps qs rfl
    obtain ⟨front, back, first, second, rfl⟩ := collected_append_iff.mp asked
    exact ⟨_, _, selectFiles_eq_ok_iff.mpr ⟨front, first, rfl⟩, selectFiles_eq_ok_iff.mpr ⟨back, second, rfl⟩,
      map_kept_append first second⟩
  case permuted =>
    intro others perm
    have askable : forall argument, argument ∈ others -> Askable d base argument := fun argument member =>
      (exists_selectFiles_iff proper current).mp ⟨_, done⟩ argument (perm.mem_iff.mp member)
    obtain ⟨offers', asked'⟩ := (exists_offers_iff proper current ignore).mpr askable
    exact ⟨_, selectFiles_eq_ok_iff.mpr ⟨offers', asked', rfl⟩, perm_realPath_kept perm asked asked'⟩
  case sorted =>
    rintro before argument after rfl
    rw [List.append_cons] at asked
    obtain ⟨_, back, early, late, rfl⟩ := collected_append_iff.mp asked
    obtain ⟨front, own, first, second, rfl⟩ := collected_append_iff.mp early
    obtain ⟨texts, spelt, ordered, areCandidates⟩ :=
      exists_texts_kept ((collected_singleton argument).symm.trans second) ((kept [] front).map Prod.snd)
    have added : (kept [] (front ++ own)).map Prod.fst = (kept [] front).map Prod.fst ++ texts.map (spelled base) := by
      rw [kept_append, List.nil_append, List.map_append, spelt]
    rw [kept_append, List.map_append, added]
    exact ⟨_, texts, _, selectFiles_eq_ok_iff.mpr ⟨front, first, rfl⟩,
      selectFiles_eq_ok_iff.mpr ⟨front ++ own, early, added⟩, rfl, ordered, areCandidates⟩

/-- Files are selected if and only if everything can be asked of the arguments, and what is selected then is free of
duplicates, complete and compositional. -/
theorem selectFiles_selects (proper : base.IsProper) (current : d.current.IsProper) (arguments ignore : List String) :
    ((exists paths, selectFiles d arguments ignore base = .ok paths) <->
        forall argument, argument ∈ arguments -> Askable d base argument) ∧
      forall paths, selectFiles d arguments ignore base = .ok paths -> Selected d base ignore arguments paths :=
  ⟨exists_selectFiles_iff proper current, fun _ done => selected_of_selectFiles proper current done⟩

/-! ## A folder with links -/

/-- A folder with three files, a link to one of them, a link that leads nowhere, and a folder. -/
def linkedFolder : Disk where
  root := [("w", .folder [("f.json", .file []), ("e.json", .file []), ("c.json", .link "gone.json"),
    ("b.json", .link "a.json"), ("a.json", .file []), ("d.json", .folder [])])]
  current := ⟨.root, []⟩

theorem isProper_linkedFolder : (⟨.root, ["w"]⟩ : Path).IsProper ∧ linkedFolder.current.IsProper := by
  refine ⟨fun name member => ?_, fun name member => absurd member List.not_mem_nil⟩
  cases List.mem_singleton.mp member
  decide

/-- What the folder holds does not stand in order, but its candidates do. -/
theorem candidates_linkedFolder : candidates linkedFolder ⟨.root, ["w"]⟩ "*.json" =
    .ok ["a.json", "b.json", "c.json", "d.json", "e.json", "f.json"] := by
  have named : linkedFolder.isFile (Path.join ⟨.root, ["w"]⟩ (.ofString "*.json")).text = .ok false := by
    decide +kernel
  have clean : Glob.asksForbidden "*.json".toList = false := by
    decide +kernel
  have found : Glob.expand linkedFolder ⟨.root, ["w"]⟩ "*.json".toList =
      ["f.json".toList, "e.json".toList, "c.json".toList, "b.json".toList, "a.json".toList, "d.json".toList] := by
    decide +kernel
  have ordered : Glob.sorted
      ["f.json".toList, "e.json".toList, "c.json".toList, "b.json".toList, "a.json".toList, "d.json".toList] =
        ["a.json".toList, "b.json".toList, "c.json".toList, "d.json".toList, "e.json".toList, "f.json".toList] := by
    simp [Glob.sorted, List.mergeSort, Glob.inOrder]
  unfold candidates
  simp only [named, clean, found, ordered]
  rfl

/-- The file behind the link is selected once, under the name that was given first; what leads nowhere, a folder and an
ignored file are left out, and the rest is in order. -/
theorem selectFiles_linkedFolder :
    selectFiles linkedFolder ["b.json", "*.json"] ["e*"] ⟨.root, ["w"]⟩ =
        .ok [⟨.root, ["w", "b.json"]⟩, ⟨.root, ["w", "f.json"]⟩] ∧
      Selected linkedFolder ⟨.root, ["w"]⟩ ["e*"] ["b.json", "*.json"]
        [⟨.root, ["w", "b.json"]⟩, ⟨.root, ["w", "f.json"]⟩] := by
  have done : selectFiles linkedFolder ["b.json", "*.json"] ["e*"] ⟨.root, ["w"]⟩ =
      .ok [⟨.root, ["w", "b.json"]⟩, ⟨.root, ["w", "f.json"]⟩] := by
    unfold selectFiles
    simp only [List.foldlM_cons, List.foldlM_nil, candidates_linkedFolder]
    decide +kernel
  obtain ⟨proper, current⟩ := isProper_linkedFolder
  exact ⟨done, (selectFiles_selects proper current ["b.json", "*.json"] ["e*"]).2 _ done⟩

/-! ## A name that is too long -/

/-- A name is spelled as a name in the folder. -/
theorem spelled_of_isName (base : Path) {name : String} (isName : Path.IsName name) : spelled base name = base.child name := by
  obtain ⟨notEmpty, notDot, noSlash⟩ := isName
  have nonempty : name.toList ≠ [] := fun empty => notEmpty (by simpa using empty)
  have isPart : Path.isPart name.toList = true := by
    have noDot : name.toList ≠ ['.'] := fun dot => notDot (by simpa using congrArg String.ofList dot)
    simp [Path.isPart, nonempty, noDot]
  have start : Path.Start.ofChars name.toList = .here := by
    obtain ⟨c, rest, chars⟩ := List.exists_cons_of_ne_nil nonempty
    rw [chars] at noSlash ⊢
    unfold Path.Start.ofChars
    split <;> simp_all
  have read : Path.ofString name = ⟨.here, [name]⟩ := by
    rw [Path.ofString, Path.ofChars, start, splitChars_of_not_mem noSlash, List.filter_cons_of_pos isPart]
    simp
  rw [spelled, read]
  rfl

/-- It cannot be asked whether there is a file under a name that is too long. -/
theorem Disk.isFile_of_long_name {p : Path} {name : String} {goal : List String} (leads : d.Leads p goal) (proper : p.IsProper)
    (isName : Path.IsName name) (plain : Disk.IsPlain name) (writable : (p.child name).IsWritable)
    (long : Disk.nameLimit < name.utf8ByteSize) : d.isFile (p.child name).text = .error .nameTooLong := by
  obtain ⟨left, located⟩ := Disk.locate_child proper isName writable leads
  rw [Disk.isFile, Disk.find_eq_error_iff.mpr (located.trans (Disk.walk_long_name plain long))]

/-- A name that is too long for a folder. -/
def endlessName : String :=
  String.ofList (List.replicate 256 'a')

theorem eq_of_mem_repeated {c a : Char} {n : Nat} (inside : c ∈ (String.ofList (List.replicate n a)).toList) : c = a := by
  rw [String.toList_ofList] at inside
  exact List.eq_of_mem_replicate inside

theorem isFile_endlessName :
    linkedFolder.isFile (spelled ⟨.root, ["w"]⟩ endlessName).text = .error .nameTooLong := by
  have size : endlessName.utf8ByteSize = 256 := by decide +kernel
  have different : forall other : String, other.utf8ByteSize ≠ 256 -> endlessName ≠ other :=
    fun other short equal => short (equal ▸ size)
  have notEmpty : endlessName ≠ "" := different "" (by decide)
  have notDot : endlessName ≠ "." := different "." (by decide)
  have notDots : endlessName ≠ ".." := different ".." (by decide)
  have noSlash : '/' ∉ endlessName.toList := fun inside => absurd (eq_of_mem_repeated inside) (by decide)
  have noNull : '\x00' ∉ endlessName.toList := fun inside => absurd (eq_of_mem_repeated inside) (by decide)
  have isName : Path.IsName endlessName := ⟨notEmpty, notDot, noSlash⟩
  have text : (Path.child ⟨.root, ["w"]⟩ endlessName).text = "/w" ++ "/" ++ endlessName :=
    Path.text_child endlessName (List.cons_ne_nil _ _)
  have writable : (Path.child ⟨.root, ["w"]⟩ endlessName).IsWritable := by
    constructor
    · rw [text, String.toList_append, List.mem_append, not_or]
      exact ⟨by decide, noNull⟩
    · rw [text, String.utf8ByteSize_append, size]
      decide
  have leads : linkedFolder.Leads ⟨.root, ["w"]⟩ ["w"] := ⟨by decide +kernel, by decide⟩
  have long : Disk.nameLimit < endlessName.utf8ByteSize := by
    rw [size]
    decide
  rw [spelled_of_isName _ isName]
  exact Disk.isFile_of_long_name leads isProper_linkedFolder.1 isName ⟨notEmpty, notDot, notDots⟩ writable long

/-- A file that is a candidate and not ignored is not selected beside an argument that is too long to be asked for. -/
theorem not_selected_beside_endlessName :
    IsCandidate linkedFolder ⟨.root, ["w"]⟩ "a.json" "a.json" ∧
      linkedFolder.isFile (spelled ⟨.root, ["w"]⟩ "a.json").text = .ok true ∧
      isIgnored (Path.ofString "a.json").text [] = false ∧
      ¬ exists paths, selectFiles linkedFolder ["a.json", endlessName] [] ⟨.root, ["w"]⟩ = .ok paths := by
  have file : linkedFolder.isFile (spelled ⟨.root, ["w"]⟩ "a.json").text = .ok true := by decide +kernel
  refine ⟨by rw [IsCandidate, if_pos file], file, rfl, ?_⟩
  obtain ⟨proper, current⟩ := isProper_linkedFolder
  rw [exists_selectFiles_iff proper current]
  intro askable
  obtain ⟨there, asked⟩ := (askable endlessName (by simp)).named
  rw [isFile_endlessName] at asked
  cases asked

end SchemaLint
