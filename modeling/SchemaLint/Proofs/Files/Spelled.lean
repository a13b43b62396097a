import SchemaLint.Proofs.Files.Direct
import SchemaLint.Proofs.Files.Selection

/-!
# Spellings of files

Whether a file is ignored is decided on the text that asks for it, and ignore patterns are written for the way from the
folder to the file.  On a disk without links a text that begins in the folder and does not go up can only be this way.
What begins at the root or goes up is another spelling of the file, and so it can select a file that is to be ignored.
-/

namespace SchemaLint

namespace Path

/-- The names on the way from a folder to a place: up to a folder around both, and down from there. -/
def relative : List String -> List String -> List String
  | name :: home, name' :: place =>
    if name = name' then relative home place else (name :: home).map (fun _ => "..") ++ name' :: place
  | home, place => home.map (fun _ => "..") ++ place

theorem relative_append (home rest : List String) : relative home (home ++ rest) = rest := by
  induction home with
  | nil => simp [relative]
  | cons name home ih => rw [List.cons_append, relative, if_pos rfl, ih]

theorem names_join (base current : Path) (parts : List String) :
    (base.join ⟨.here, parts⟩).names current = base.names current ++ parts := by
  obtain ⟨s, above⟩ := base
  cases s with
  | here => exact (List.append_assoc ..).symm
  | root => rfl
  | doubleRoot => rfl

/-- A path that differs from a way although it may lead to the same place: it begins at the root, or it goes up. -/
def IsRoundabout (way : List String) (p : Path) : Prop :=
  p.start ≠ .here ∨ ".." ∈ p.parts ∧ p.parts ≠ way

end Path

namespace Disk

variable {d : Disk} {kind : List String -> Option Kind} {last : Bool} {links : Nat}
  {way names home place : List String} {root : Contents} {base p : Path}

/-- There are no links on the disk. -/
def IsLinkless (d : Disk) : Prop :=
  forall place target, kindAt? d.root place ≠ some (.link target)

theorem isFile_of_locate {path : String} {contents : Bytes} (found : d.locate true path = .ok place)
    (file : kindAt? d.root place = some (.file contents)) : d.isFile path = .ok true := by
  obtain ⟨e, entry, isFile⟩ := Option.map_eq_some_iff.mp file
  cases e with
  | file contents' => simp only [Disk.isFile, find, found, entry]
  | folder inner => cases isFile
  | link target => cases isFile

/-! ## Walks without links -/

/-- A walk that does not go up ends behind the names that it went along. -/
theorem walk_straight (linkless : forall place target, kind place ≠ some (.link target))
    (named : forall name, name ∈ names -> Path.IsName name) (down : ".." ∉ names)
    (found : walk kind last links way names = .ok place) : place = way ++ names := by
  rw [walk_eq_ok_iff] at found
  induction found with
  | nil links way => rw [List.append_nil]
  | skip empty later ih =>
    obtain ⟨notEmpty, notDot, -⟩ := named _ (List.mem_cons_self ..)
    exact (empty.elim notEmpty notDot).elim
  | up later ih => exact absurd (List.mem_cons_self ..) down
  | folder plain fits here later ih =>
    rw [List.mem_cons, not_or] at down
    rw [ih (fun name later => named name (List.mem_cons_of_mem _ later)) down.2, ← List.append_cons]
  | file plain fits here => rfl
  | link plain fits here unfollowed => rfl
  | follow plain fits here followed nonempty later ih => exact absurd here (linkless _ _)

/-- From a folder, a path that begins there and does not go up leads to the place behind its names. -/
theorem straight_of_locate (linkless : d.IsLinkless) (proper : base.IsProper) (leads : d.Leads base home)
    (isProper : p.IsProper) (start : p.start = .here) (down : ".." ∉ p.parts)
    (found : d.locate true (base.join p).text = .ok place) : place = home ++ p.parts := by
  obtain ⟨s, parts⟩ := p
  cases start
  by_cases bare : parts = []
  · rw [bare] at found ⊢
    have same : base.join ⟨.here, []⟩ = base := by rw [Path.join, List.append_nil]
    rw [same, leads.1] at found
    rw [List.append_nil, Except.ok.inj found]
  · have whole : (base.join ⟨.here, parts⟩).IsProper := by
      intro name member
      exact (List.mem_append.mp member).elim (proper name) (isProper name)
    have nonempty : (base.join ⟨.here, parts⟩).parts ≠ [] := List.append_ne_nil_of_right_ne_nil _ bare
    have names : (base.join ⟨.here, parts⟩).names d.current = base.names d.current ++ parts :=
      Path.names_join base d.current parts
    obtain ⟨-, home', folder⟩ := (leads_iff proper).mp leads
    have onward : Continued (kindAt? d.root) true parts (walk (kindAt? d.root) true linkLimit [] (base.names d.current))
        (walk (kindAt? d.root) true linkLimit [] (base.names d.current ++ parts)) :=
      walk_append (isTree d.root) (kindAt?_nil d.root) bare
    rw [home'] at onward
    obtain ⟨left, later⟩ := onward.of_folder folder
    rw [locate_text whole (isWritable_of_locate found) nonempty, names, later] at found
    exact walk_straight linkless isProper down found

/-- A path that leads to a place goes the way to it, unless it is roundabout. -/
theorem relative_or_isRoundabout (linkless : d.IsLinkless) (proper : base.IsProper) (leads : d.Leads base home)
    (isProper : p.IsProper) (found : d.locate true (base.join p).text = .ok place) :
    p = ⟨.here, Path.relative home place⟩ ∨ Path.IsRoundabout (Path.relative home place) p := by
  obtain ⟨start, parts⟩ := p
  by_cases here : start = .here
  · subst here
    by_cases direct : parts = Path.relative home place
    · exact .inl (congrArg (Path.mk .here) direct)
    · refine .inr (.inr ⟨?_, direct⟩)
      by_contra down
      have straight : place = home ++ parts := straight_of_locate linkless proper leads isProper rfl down found
      rw [straight, Path.relative_append] at direct
      exact direct rfl
  · exact .inr (.inl here)

end Disk

variable {d : Disk} {base : Path} {home place : List String} {contents : Bytes}

/-- The name of a file stands for itself only. -/
theorem isCandidate_iff_eq {argument candidate : String} (file : d.isFile (spelled base argument).text = .ok true) :
    IsCandidate d base argument candidate <-> candidate = argument := by
  rw [IsCandidate, if_pos file]

theorem askable_of_isFile {argument : String} (file : d.isFile (spelled base argument).text = .ok true) :
    Askable d base argument := by
  constructor
  case named => exact ⟨true, file⟩
  case clean =>
    rw [file]
    nofun
  case matched =>
    intro candidate isCandidate
    rw [(isCandidate_iff_eq file).mp isCandidate]
    exact ⟨true, file⟩

/-- Arguments select the file at a place, by whatever path. -/
def Selects (d : Disk) (base : Path) (arguments ignore : List String) (place : List String) : Prop :=
  exists paths, selectFiles d arguments ignore base = .ok paths ∧
    exists path, path ∈ paths ∧ d.realPath path = .ok ⟨.root, place⟩

/-- A file that is to be ignored is selected if and only if it is asked for roundabout, with a text that is not to be
ignored itself. -/
theorem selects_ignored_iff (linkless : d.IsLinkless) (proper : base.IsProper) (current : d.current.IsProper)
    (leads : d.Leads base home) (file : Disk.kindAt? d.root place = some (.file contents)) (arguments ignore : List String)
    (ignored : isIgnored (⟨.here, Path.relative home place⟩ : Path).text ignore = true) :
    Selects d base arguments ignore place <->
      (forall argument, argument ∈ arguments -> Askable d base argument) ∧
        exists argument, argument ∈ arguments ∧ exists candidate, IsCandidate d base argument candidate ∧
          d.locate true (spelled base candidate).text = .ok place ∧
          Path.IsRoundabout (Path.relative home place) (.ofString candidate) ∧
          isIgnored (Path.ofString candidate).text ignore = false := by
  have asked : (exists paths, selectFiles d arguments ignore base = .ok paths) <->
      forall argument, argument ∈ arguments -> Askable d base argument := exists_selectFiles_iff proper current
  rw [← asked]
  constructor
  · rintro ⟨paths, done, path, inside, real⟩
    refine ⟨⟨paths, done⟩, ?_⟩
    have selected := selected_of_selectFiles proper current done
    obtain ⟨argument, isArgument, candidate, isCandidate, free, spelt⟩ := selected.candidates path inside
    obtain ⟨-, place', found, real'⟩ := selected.files path inside
    have same : place' = place := by
      rw [real] at real'
      cases real'
      rfl
    rw [spelt, same] at found
    refine ⟨argument, isArgument, candidate, isCandidate, found, ?_, free⟩
    have ways := Disk.relative_or_isRoundabout linkless proper leads (Path.isProper_ofString candidate) found
    refine ways.resolve_left fun direct => ?_
    rw [direct, ignored] at free
    cases free
  · rintro ⟨⟨paths, done⟩, argument, isArgument, candidate, isCandidate, found, -, free⟩
    have selected := selected_of_selectFiles proper current done
    have isFile : d.isFile (spelled base candidate).text = .ok true := Disk.isFile_of_locate found file
    obtain ⟨path, inside, real⟩ := selected.complete argument isArgument candidate isCandidate isFile free
    obtain ⟨place', found', real'⟩ := Disk.realPath_of_isFile (isProper_spelled proper candidate) current isFile
    rw [found] at found'
    cases found'
    exact ⟨paths, done, path, inside, real.trans real'⟩

/-- A folder with a file in a folder that is usually ignored, and another folder beside it. -/
def installed : Disk where
  root := [("w", .folder [("node_modules", .folder [("x.json", .file [])]), ("src", .folder [])])]
  current := ⟨.root, ["w"]⟩

/-- The file is selected by its absolute path, and not by a path that goes straight to it, however it is written. -/
theorem selects_ignored_installed :
    Selects installed ⟨.root, ["w"]⟩ ["/w/node_modules/x.json"] ["node_modules/**/*"] ["w", "node_modules", "x.json"] ∧
      ¬ Selects installed ⟨.root, ["w"]⟩ ["./node_modules//x.json"] ["node_modules/**/*"]
        ["w", "node_modules", "x.json"] := by
  have linkless : installed.IsLinkless := Disk.kindAt?_ne_link (by decide)
  have proper : (⟨.root, ["w"]⟩ : Path).IsProper := by
    intro name member
    cases List.mem_singleton.mp member
    decide
  have leads : installed.Leads ⟨.root, ["w"]⟩ ["w"] := ⟨by decide +kernel, by decide⟩
  have file : Disk.kindAt? installed.root ["w", "node_modules", "x.json"] = some (.file []) := by decide
  have select (argument : String) := selects_ignored_iff linkless proper proper leads file [argument]
    ["node_modules/**/*"] (by decide +kernel)
  constructor
  · have isFile : installed.isFile (spelled ⟨.root, ["w"]⟩ "/w/node_modules/x.json").text = .ok true := by decide +kernel
    refine (select "/w/node_modules/x.json").mpr ⟨?_, _, List.mem_singleton_self _, _, (isCandidate_iff_eq isFile).mpr rfl, ?_⟩
    · intro argument isArgument
      rw [List.mem_singleton.mp isArgument]
      exact askable_of_isFile isFile
    · exact ⟨by decide +kernel, .inl (by decide +kernel), by decide +kernel⟩
  · intro selects
    have isFile : installed.isFile (spelled ⟨.root, ["w"]⟩ "./node_modules//x.json").text = .ok true := by decide +kernel
    obtain ⟨-, argument, isArgument, candidate, isCandidate, -, roundabout, -⟩ := (select "./node_modules//x.json").mp selects
    rw [List.mem_singleton.mp isArgument, isCandidate_iff_eq isFile] at isCandidate
    rw [isCandidate] at roundabout
    rcases roundabout with rooted | ⟨up, -⟩
    · exact rooted (by decide +kernel)
    · exact absurd up (by decide +kernel)

/-- A file in an ignored folder is selected by its absolute path and by a path that goes up on the way. -/
theorem selectFiles_installed :
    isIgnored (⟨.here, Path.relative ["w"] ["w", "node_modules", "x.json"]⟩ : Path).text ["node_modules/**/*"] = true ∧
      selectFiles installed ["/w/node_modules/x.json"] ["node_modules/**/*"] ⟨.root, ["w"]⟩ =
        .ok [⟨.root, ["w", "node_modules", "x.json"]⟩] ∧
      selectFiles installed ["src/../node_modules/x.json"] ["node_modules/**/*"] ⟨.root, ["w"]⟩ =
        .ok [⟨.root, ["w", "src", "..", "node_modules", "x.json"]⟩] := by
  refine ⟨?_, ?_, ?_⟩ <;> decide +kernel

end SchemaLint
