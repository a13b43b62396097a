import SchemaLint.CommandLine.Basic
import SchemaLint.Proofs.Classified
import SchemaLint.Proofs.Config.Decisions
import SchemaLint.Proofs.Yaml.Source

/-!
# Configurations that end in a crash

Settings are made, or they are refused as an error of the configuration, or the search for them ends in a crash.  Here is
said exactly when it does: a folder that cannot be resolved or searched, a file that is no text, values that YAML has no
room for, patterns that are no patterns, or an indentation beyond all measure.
-/

namespace SchemaLint

open Yaml (Value Entries)

namespace Yaml.Entries

/-- What entries say stands in them. -/
theorem exists_mem_of_get?_update {entries later : Entries} {name : String} {v : Value}
    (said : (entries.update later).get? name = some v) : (exists key, (key, v) ∈ later) ∨ entries.get? name = some v := by
  induction later generalizing entries with
  | nil => exact .inr said
  | cons entry rest ih =>
    rcases ih said with ⟨key, inside⟩ | before
    · exact .inl ⟨key, List.mem_cons_of_mem _ inside⟩
    · rw [get?_put] at before
      split at before
      · cases before
        exact .inl ⟨entry.1, List.mem_cons_self ..⟩
      · exact .inr before

theorem exists_mem_of_says? {entries : Entries} {name : String} {v : Value} (said : entries.says? name = some v) :
    exists key, (key, v) ∈ entries := by
  rcases exists_mem_of_get?_update said with inside | nothing
  · exact inside
  · cases nothing

end Yaml.Entries

namespace Config

open Settings

variable {d : Disk} {p q folder : Path} {overrides below values : Entries} {patterns : List String} {c : Crash}

/-- An error of the configuration. -/
def IsConfig (e : LintError) : Prop :=
  e.kind = .config

/-! ## Files -/

/-- Why a file with patterns ends the search in a crash: it cannot be looked for, or it is no text. -/
inductive FileTrouble (d : Disk) (p : Path) : Crash -> Prop
  | refused {fault : FileFault} (refused : d.isFile p.text = .error fault) : FileTrouble d p (fault.crash p.text)
  | binary {bytes : Bytes} (read : d.readFile p.text = .ok bytes) {fault : Encoding.Fault}
    (binary : Encoding.Utf8.decode bytes = .error fault) : FileTrouble d p .decoding

/-- Why a file with values ends the search in a crash: it cannot be looked for, its reader comes to bytes that are no text,
or it holds YAML of which there is no value. -/
inductive ValuesTrouble (d : Disk) (p : Path) : Crash -> Prop
  | refused {fault : FileFault} (refused : d.isFile p.text = .error fault) : ValuesTrouble d p (fault.crash p.text)
  | binary {bytes : Bytes} (read : d.readFile p.text = .ok bytes) {fault : Encoding.Fault}
    (binary : Encoding.Utf8.decode bytes = .error fault) (stop : (Yaml.Source.ofBytes bytes).stop = some .undecodable)
    (reached : Yaml.read (.ofBytes bytes) = .error .cut) : ValuesTrouble d p .decoding
  | valueless {bytes : Bytes} (read : d.readFile p.text = .ok bytes) {fault : Yaml.Fault}
    (unread : Yaml.read (.ofBytes bytes) = .error fault) {c : Crash} (beyond : yamlFailure p none fault = .crash c) :
    ValuesTrouble d p c

theorem yamlFailure_eq_crash_iff {stop : Option Yaml.Stop} {fault : Yaml.Fault} : yamlFailure p stop fault = .crash c <->
    (fault = .cut ∧ stop = some .undecodable ∧ c = .decoding) ∨ yamlFailure p none fault = .crash c := by
  cases fault
  case cut => rcases stop with _ | _ | _ <;> simp [yamlFailure, eq_comm]
  all_goals simp [yamlFailure]

theorem isConfig_of_yamlFailure {stop : Option Yaml.Stop} {fault : Yaml.Fault} {e : LintError}
    (failure : yamlFailure p stop fault = .error e) : IsConfig e := by
  unfold yamlFailure at failure
  split at failure <;> cases failure <;> rfl

/-- What trouble a file with values has once its bytes are known. -/
theorem valuesTrouble_iff_of_read {bytes : Bytes} (read : d.readFile p.text = .ok bytes) :
    ValuesTrouble d p c <-> exists fault, Yaml.read (.ofBytes bytes) = .error fault ∧
      yamlFailure p (Yaml.Source.ofBytes bytes).stop fault = .crash c := by
  constructor
  · rintro (refused | ⟨read', _, stop, reached⟩ | ⟨read', unread, beyond⟩)
    · cases refused.symm.trans (Disk.isFile_eq_true_iff.mpr ⟨_, read⟩)
    · cases read.symm.trans read'
      exact ⟨.cut, reached, yamlFailure_eq_crash_iff.mpr (.inl ⟨rfl, stop, rfl⟩)⟩
    · cases read.symm.trans read'
      exact ⟨_, unread, yamlFailure_eq_crash_iff.mpr (.inr beyond)⟩
  · rintro ⟨fault, unread, failure⟩
    rcases yamlFailure_eq_crash_iff.mp failure with ⟨rfl, stop, rfl⟩ | beyond
    · obtain ⟨fault, binary⟩ := Yaml.Source.exists_fault_of_undecodable stop
      exact .binary read binary stop unread
    · exact .valueless read unread beyond

/-- What trouble a file with patterns has once its bytes are known. -/
theorem fileTrouble_iff_of_read {bytes : Bytes} (read : d.readFile p.text = .ok bytes) :
    FileTrouble d p c <-> (exists fault, Encoding.Utf8.decode bytes = .error fault) ∧ c = .decoding := by
  constructor
  · rintro (refused | ⟨read', binary⟩)
    · cases refused.symm.trans (Disk.isFile_eq_true_iff.mpr ⟨_, read⟩)
    · cases read.symm.trans read'
      exact ⟨⟨_, binary⟩, rfl⟩
  · rintro ⟨⟨fault, binary⟩, rfl⟩
    exact .binary read binary

theorem not_fileTrouble_of_absent (absent : d.isFile p.text = .ok false) : ¬ FileTrouble d p c := by
  rintro (refused | ⟨read, _⟩)
  · cases absent.symm.trans refused
  · cases absent.symm.trans (Disk.isFile_eq_true_iff.mpr ⟨_, read⟩)

theorem fileTrouble_iff_of_refused {fault : FileFault} (refused : d.isFile p.text = .error fault) :
    FileTrouble d p c <-> fault.crash p.text = c := by
  constructor
  · rintro (refused' | ⟨read, _⟩)
    · cases refused.symm.trans refused'
      rfl
    · cases refused.symm.trans (Disk.isFile_eq_true_iff.mpr ⟨_, read⟩)
  · rintro rfl
    exact .refused refused

theorem valuesTrouble_iff_of_not_there (away : d.isFile p.text ≠ .ok true) :
    ValuesTrouble d p c <-> FileTrouble d p c := by
  constructor
  · rintro (refused | ⟨read, _⟩ | ⟨read, _⟩)
    · exact .refused refused
    · exact absurd (Disk.isFile_eq_true_iff.mpr ⟨_, read⟩) away
    · exact absurd (Disk.isFile_eq_true_iff.mpr ⟨_, read⟩) away
  · rintro (refused | ⟨read, _⟩)
    · exact .refused refused
    · exact absurd (Disk.isFile_eq_true_iff.mpr ⟨_, read⟩) away

theorem classified_readIgnore (there : d.isFile p.text = .ok true) :
    Classified IsConfig (FileTrouble d p) (readIgnore d p) := by
  obtain ⟨bytes, read⟩ := Disk.isFile_eq_true_iff.mp there
  unfold readIgnore
  rw [bind_eq_of_ok (fileBytes_eq_ok_iff.mpr read)]
  change Classified IsConfig _ ((decoded bytes).map IgnoreFile.read)
  refine Classified.map ?_
  unfold decoded
  cases decodes : Encoding.Utf8.decode bytes with
  | error fault =>
    refine (Classified.crashed .decoding).congr fun c => ?_
    rw [fileTrouble_iff_of_read read, decodes]
    simp [eq_comm]
  | ok t =>
    refine (Classified.ok _).congr fun c => ?_
    rw [fileTrouble_iff_of_read read, decodes]
    simp

theorem classified_readValues (there : d.isFile p.text = .ok true) :
    Classified IsConfig (ValuesTrouble d p) (readValues d p) := by
  obtain ⟨bytes, read⟩ := Disk.isFile_eq_true_iff.mp there
  refine Classified.congr ?_ fun c => (valuesTrouble_iff_of_read read).symm
  unfold readValues
  rw [bind_eq_of_ok (fileBytes_eq_ok_iff.mpr read)]
  unfold valuesIn
  cases Yaml.read (.ofBytes bytes) with
  | error fault =>
    change Classified IsConfig _ (.error (yamlFailure p (Yaml.Source.ofBytes bytes).stop fault))
    cases failure : yamlFailure p (Yaml.Source.ofBytes bytes).stop fault with
    | error e =>
      refine (Classified.refusal (isConfig_of_yamlFailure failure)).congr fun c => ?_
      simp [failure]
    | crash c =>
      refine (Classified.crashed c).congr fun c' => ?_
      simp [failure]
  | ok v =>
    have silent : forall c, False <-> exists fault, Except.ok v = .error fault ∧
        yamlFailure p (Yaml.Source.ofBytes bytes).stop fault = .crash c := by
      simp
    cases v
    case null => exact (Classified.ok _).congr silent
    case mapping entries => exact (Classified.ok _).congr silent
    all_goals
      have isConfig : IsConfig (.config "Config file must contain a mapping" (some p.text)) := rfl
      exact (Classified.refusal isConfig).congr silent

/-- What is held in a folder fails if its file cannot be looked for, and as the file does if it is there. -/
theorem classified_heldIn? {α : Type} {name : String} {read : Path -> Except Failed α} {trouble : Crash -> Prop}
    (refused : forall fault, d.isFile (q.child name).text = .error fault ->
      forall c, trouble c <-> fault.crash (q.child name).text = c)
    (absent : d.isFile (q.child name).text = .ok false -> forall c, ¬ trouble c)
    (present : d.isFile (q.child name).text = .ok true -> Classified IsConfig trouble (read (q.child name))) :
    Classified IsConfig trouble (heldIn? d name read q) := by
  rcases asked : d.isFile (q.child name).text with fault | there | there
  · rw [heldIn?_of_refused asked]
    exact (Classified.crashed _).congr fun c => (refused fault asked c).symm
  · rw [heldIn?_of_absent asked]
    exact (Classified.ok _).congr fun c => ⟨False.elim, absent asked c⟩
  · rw [heldIn?_of_present asked]
    exact (present asked).map

theorem classified_ignoreIn? (q : Path) :
    Classified IsConfig (FileTrouble d (q.child ignoreName)) (heldIn? d ignoreName (readIgnore d) q) :=
  classified_heldIn? (fun _ refused _ => fileTrouble_iff_of_refused refused)
    (fun absent _ => not_fileTrouble_of_absent absent) classified_readIgnore

theorem classified_valuesIn? (q : Path) :
    Classified IsConfig (ValuesTrouble d (q.child valuesName)) (heldIn? d valuesName (readValues d) q) := by
  refine classified_heldIn? (fun fault refused c => ?_) (fun absent c => ?_) classified_readValues
  · have away : d.isFile (q.child valuesName).text ≠ .ok true := by
      rw [refused]
      nofun
    exact (valuesTrouble_iff_of_not_there away).trans (fileTrouble_iff_of_refused refused)
  · have away : d.isFile (q.child valuesName).text ≠ .ok true := by
      rw [absent]
      nofun
    rw [valuesTrouble_iff_of_not_there away]
    exact not_fileTrouble_of_absent absent

/-! ## Patterns and layers -/

/-- Whether patterns can be taken out of a value. -/
def isIterable : Value -> Bool
  | .string _ | .list _ | .set _ | .pair _ _ | .mapping _ | .bytes _ => true
  | _ => false

/-- A value counts as given, but no patterns can be taken out of it. -/
def IsBare (v? : Option Value) : Prop :=
  exists v, v? = some v ∧ isGivenValue v = true ∧ isIterable v = false

theorem classified_givenPatterns (v? : Option Value) :
    Classified IsConfig (fun c => c = Crash.type ∧ IsBare v?) (givenPatterns v?) := by
  cases v? with
  | none => exact (Classified.ok _).congr fun c => by simp [IsBare]
  | some v =>
    unfold givenPatterns
    dsimp only
    cases given : isGivenValue v with
    | false => exact (Classified.ok _).congr fun c => by simp [IsBare, given]
    | true =>
      have calm : isIterable v = true -> forall c, False <-> c = Crash.type ∧ IsBare (some v) := by
        intro iterable c
        refine ⟨False.elim, ?_⟩
        rintro ⟨-, v', same, -, bare⟩
        cases same
        cases iterable.symm.trans bare
      have bare : isIterable v = false -> forall c, Crash.type = c <-> c = Crash.type ∧ IsBare (some v) :=
        fun single c => ⟨fun same => ⟨same.symm, v, rfl, given, single⟩, fun both => both.1.symm⟩
      cases v
      case string | list | set | pair | mapping | bytes => exact (Classified.ok _).congr (calm rfl)
      all_goals exact (Classified.crashed .type).congr (bare rfl)

theorem classified_combined (values : Entries) (patterns : List String) :
    Classified IsConfig (fun c => patterns ≠ [] ∧ c = Crash.type ∧ IsBare (values.get? "ignore"))
      (combined values patterns) := by
  rw [combined]
  split
  next none =>
    refine (Classified.ok _).congr fun c => ⟨False.elim, fun both => ?_⟩
    exact both.1 (List.isEmpty_iff.mp none)
  next full =>
    have some : patterns ≠ [] := fun none => full (List.isEmpty_iff.mpr none)
    refine ((classified_givenPatterns (values.get? "ignore")).bind fun own _ => Classified.ok _).congr fun c => ?_
    simp [some]

theorem classified_ofLayers (layers : List Entries) :
    Classified IsConfig (fun c => exists n, (layered layers).get? "indent" = some (.int n) ∧ Boundless n c)
      (ofLayers layers) := by
  have ends := ends_ofRaw (layered layers)
  constructor
  · intro e failed
    unfold ofLayers at failed
    rw [failed] at ends
    cases ends with
    | refused _ _ kind => exact kind
  · intro c
    refine ends.eq_crash_iff.trans ?_
    change takeFrom (layered layers) "indent" defaults.indent takeIndent = .crash c <-> _
    unfold takeFrom
    cases (layered layers).get? "indent" with
    | none => simp
    | some v => simp [takeIndent_eq_crash_iff]

/-- What stands in the values of a folder next to its patterns. -/
theorem get?_of_combined (made : combined values patterns = .ok below) {name : String} (other : name ≠ "ignore") :
    below.get? name = values.get? name := by
  rw [combined] at made
  split at made
  · cases made
    rfl
  · obtain ⟨own, -, same⟩ := bind_eq_ok_iff.mp made
    cases same
    exact Entries.get?_put_of_ne other _ _

theorem isKeyed_of_combined (made : combined values patterns = .ok below) (keyed : values.IsKeyed) : below.IsKeyed := by
  rw [combined] at made
  split at made
  · cases made
    exact keyed
  · obtain ⟨own, -, same⟩ := bind_eq_ok_iff.mp made
    cases same
    exact Entries.isKeyed_put keyed

theorem isKeyed_of_valuesOf {chain : List Path} (read : valuesOf d [] chain = .ok values) : values.IsKeyed := by
  rw [valuesOf_eq] at read
  obtain ⟨held, -, rfl⟩ := map_eq_ok_iff.mp read
  exact Entries.isKeyed_layers List.Pairwise.nil _

/-! ## The whole search -/

/-- The files of a chain of folders are read: the values are those of all values files, and the patterns those of all
ignore files. -/
structure Read (d : Disk) (folder : Path) (values : Entries) (patterns : List String) : Prop where
  values : loadValues d folder = .ok values
  patterns : loadIgnore d folder = .ok patterns

/-- Why the search for the settings of a folder ends in a crash. -/
inductive Unsettled (d : Disk) (overrides : Entries) (folder : Path) : Crash -> Prop
  /-- The folder has no real path. -/
  | nowhere {c : Crash} (lost : d.realPath folder = .error c) : Unsettled d overrides folder c
  /-- A values file is in trouble, and none farther away fails. -/
  | values {before after : List Path} {q : Path} (found : searched d folder = .ok (before ++ q :: after))
    (farther : forall q', q' ∈ before -> exists held, heldIn? d valuesName (readValues d) q' = .ok held) {c : Crash}
    (trouble : ValuesTrouble d (q.child valuesName) c) : Unsettled d overrides folder c
  /-- All values files are read, but an ignore file is in trouble, and none farther away fails. -/
  | ignore {before after : List Path} {q : Path} (found : searched d folder = .ok (before ++ q :: after))
    {values : Entries} (read : loadValues d folder = .ok values)
    (farther : forall q', q' ∈ before -> exists held, heldIn? d ignoreName (readIgnore d) q' = .ok held) {c : Crash}
    (trouble : FileTrouble d (q.child ignoreName) c) : Unsettled d overrides folder c
  /-- There are patterns of ignore files, but the values hold something behind which none can stand. -/
  | patterns {values : Entries} {patterns : List String} (read : Read d folder values patterns) (some : patterns ≠ [])
    (bare : IsBare (values.get? "ignore")) : Unsettled d overrides folder .type
  /-- The indentation that decides is beyond all measure. -/
  | indent {values : Entries} {patterns : List String} (read : Read d folder values patterns)
    (joined : patterns = [] ∨ ¬ IsBare (values.get? "ignore")) {n : Int}
    (decides : (overrides.says? "indent").or (values.get? "indent") = some (.int n)) {c : Crash}
    (boundless : Boundless n c) : Unsettled d overrides folder c

theorem classified_searched (d : Disk) (folder : Path) :
    Classified IsConfig (fun c => d.realPath folder = .error c) (searched d folder) := by
  unfold searched
  cases real : d.realPath folder with
  | ok real => exact (Classified.ok _).congr fun c => by simp
  | error c => exact (Classified.crashed c).congr fun c' => by simp

/-- A walk along the chain of a folder fails where the folder has no real path, or at the first file in trouble. -/
theorem classified_walk {α β : Type} (d : Disk) (folder : Path) {name : String} {read : Path -> Except Failed α}
    {trouble : Path -> Crash -> Prop} {gather : List (Option α) -> β} {walk : List Path -> Except Failed β}
    (each : forall q, Classified IsConfig (trouble (q.child name)) (heldIn? d name read q))
    (goes : forall chain, walk chain = (chain.mapM (heldIn? d name read)).map gather) :
    Classified IsConfig (fun c => d.realPath folder = .error c ∨ exists before q after,
      searched d folder = .ok (before ++ q :: after) ∧
        (forall q', q' ∈ before -> exists held, heldIn? d name read q' = .ok held) ∧ trouble (q.child name) c)
      (searched d folder >>= walk) := by
  have walked : forall chain : List Path, Classified IsConfig
      (fun c => exists before q after, chain = before ++ q :: after ∧
        (forall q', q' ∈ before -> exists held, heldIn? d name read q' = .ok held) ∧ trouble (q.child name) c)
      (walk chain) := by
    intro chain
    rw [goes]
    exact (Classified.mapM fun q _ => each q).map
  have steps := (classified_searched d folder).bind fun chain _ => walked chain
  refine steps.congr fun c => or_congr_right ⟨?_, ?_⟩
  · rintro ⟨chain, found, before, q, after, rfl, farther, trouble⟩
    exact ⟨before, q, after, found, farther, trouble⟩
  · rintro ⟨before, q, after, found, farther, trouble⟩
    exact ⟨_, found, before, q, after, rfl, farther, trouble⟩

/-- Values and patterns are never refused when they are put together. -/
theorem combined_ne_refusal (values : Entries) (patterns : List String) (e : LintError) :
    combined values patterns ≠ .error (.error e) := by
  intro failed
  rw [combined] at failed
  split at failed
  · cases failed
  · rcases bind_eq_error_iff.mp failed with failed | ⟨own, -, failed⟩
    · unfold givenPatterns at failed
      split at failed
      · cases failed
      · split at failed
        · cases failed
        · split at failed <;> cases failed
    · cases failed

theorem exists_combined (joined : patterns = [] ∨ ¬ IsBare (values.get? "ignore")) :
    exists below, combined values patterns = .ok below := by
  cases made : combined values patterns with
  | ok below => exact ⟨below, rfl⟩
  | error failed =>
    cases failed with
    | crash c =>
      obtain ⟨some, -, bare⟩ := ((classified_combined values patterns).crash c).mp made
      rcases joined with none | iterable
      · exact absurd none some
      · exact absurd bare iterable
    | error e => exact absurd made (combined_ne_refusal values patterns e)

/-- The settings of a folder are made or refused as an error of the configuration, unless there is trouble. -/
theorem classified_resolve (overrides : Entries) (folder : Path) :
    Classified IsConfig (Unsettled d overrides folder) (resolve d overrides (some folder)) := by
  have steps := (classified_walk d folder classified_valuesIn? (valuesOf_eq [])).bind fun values _ =>
    (classified_walk d folder classified_ignoreIn? (ignoreOf_eq [])).bind fun patterns _ =>
      (classified_combined values patterns).bind fun below _ => classified_ofLayers [below, overrides]
  have indent : forall {values : Entries} {patterns : List String} {below : Entries},
      loadValues d folder = .ok values -> combined values patterns = .ok below ->
        (layered [below, overrides]).get? "indent" = (overrides.says? "indent").or (values.get? "indent") := by
    intro values patterns below read made
    obtain ⟨chain, -, gathered⟩ := bind_eq_ok_iff.mp read
    rw [get?_layered (isKeyed_of_combined made (isKeyed_of_valuesOf gathered)), get?_of_combined made (by decide)]
  refine steps.congr fun c => ⟨?_, ?_⟩
  · rintro ((lost | ⟨before, q, after, found, farther, trouble⟩) | ⟨values, read, later⟩)
    · exact .nowhere lost
    · exact .values found farther trouble
    · rcases later with (lost | ⟨before, q, after, found, farther, trouble⟩) | ⟨patterns, read', later⟩
      · exact .nowhere lost
      · exact .ignore found read farther trouble
      · rcases later with ⟨some, rfl, bare⟩ | ⟨below, made, n, decides, boundless⟩
        · exact .patterns ⟨read, read'⟩ some bare
        · rw [indent read made] at decides
          refine .indent ⟨read, read'⟩ ?_ decides boundless
          rcases Classical.em (patterns = []) with none | some
          · exact .inl none
          · refine .inr fun bare => ?_
            cases made.symm.trans (((classified_combined values patterns).crash .type).mpr ⟨some, rfl, bare⟩)
  · rintro (lost | ⟨found, farther, trouble⟩ | ⟨found, read, farther, trouble⟩ | ⟨read, some, bare⟩ |
      ⟨read, joined, decides, boundless⟩)
    · exact .inl (.inl lost)
    · exact .inl (.inr ⟨_, _, _, found, farther, trouble⟩)
    · exact .inr ⟨_, read, .inl (.inr ⟨_, _, _, found, farther, trouble⟩)⟩
    · exact .inr ⟨_, read.values, .inr ⟨_, read.patterns, .inl ⟨some, rfl, bare⟩⟩⟩
    · obtain ⟨below, made⟩ := exists_combined joined
      refine .inr ⟨_, read.values, .inr ⟨_, read.patterns, .inr ⟨below, made, _, ?_, boundless⟩⟩⟩
      rw [indent read.values made]
      exact decides

/-! ## Without a folder -/

theorem classified_explicit (d : Disk) (overrides : Entries) :
    Classified IsConfig (fun c => exists n, overrides.says? "indent" = some (.int n) ∧ Boundless n c)
      (resolve d overrides none) :=
  classified_ofLayers [overrides]

end Config

namespace CommandLine

open Config Settings

/-- No explicit value of a command line is a number. -/
theorem ne_int_of_mem_overridesOf {given : List Given} {key v : Value} (member : (key, v) ∈ overridesOf given) (n : Int) :
    v ≠ .int n := by
  have last : forall {f name}, (key, v) ∈ lastValue f name given -> v ≠ .int n := by
    intro f name inside
    unfold lastValue at inside
    split at inside
    · cases List.mem_singleton.mp inside
      nofun
    · cases inside
  have flag : forall {f name}, (key, v) ∈ flagValue f name given -> v ≠ .int n := by
    intro f name inside
    unfold flagValue at inside
    split at inside
    · cases List.mem_singleton.mp inside
      nofun
    · cases inside
  unfold overridesOf at member
  simp only [List.mem_append] at member
  rcases member with (((((ignore | inside) | inside) | inside) | inside) | inside) | inside
  · split at ignore
    · cases ignore
    · cases List.mem_singleton.mp ignore
      nofun
  · exact last inside
  · exact last inside
  · exact last inside
  · exact flag inside
  · exact flag inside
  · exact flag inside

end CommandLine

namespace Config

open Settings

/-- Every search for settings ends with the settings, with an error of the configuration, or in a crash; the crashes are
those that an unsettled folder explains, and without a folder the explicit values of a command line never end in one. -/
theorem resolve_classified (d : Disk) (overrides : Entries) (folder : Path) :
    (forall place e, resolve d overrides place = .error (.error e) -> e.kind = .config) ∧
      (forall c, resolve d overrides (some folder) = .error (.crash c) <-> Unsettled d overrides folder c) ∧
      (forall c, resolve d overrides none = .error (.crash c) <->
        exists n, overrides.says? "indent" = some (.int n) ∧ Boundless n c) ∧
      forall given c, resolve d (CommandLine.overridesOf given) none ≠ .error (.crash c) := by
  refine ⟨?_, (classified_resolve overrides folder).crash, (classified_explicit d overrides).crash, ?_⟩
  · intro place e failed
    cases place with
    | none => exact (classified_explicit d overrides).orderly e failed
    | some folder => exact (classified_resolve overrides folder).orderly e failed
  · intro given c crashed
    obtain ⟨n, said, -⟩ := ((classified_explicit d _).crash c).mp crashed
    obtain ⟨key, inside⟩ := Entries.exists_mem_of_says? said
    exact CommandLine.ne_int_of_mem_overridesOf inside n rfl

/-- A disk that holds a values file and an ignore file of one pattern. -/
def withValues (bytes : Bytes) : Disk where
  root := [(valuesName, .file bytes), (ignoreName, .file (Encoding.Utf8.encode "a"))]
  current := ⟨.root, []⟩

/-- Values that are no text, a number for the patterns, and an indentation beyond all measure are not refused as errors of
the configuration. -/
theorem crash_of_brokenValues :
    crashOf? (resolve (withValues [0xff]) [] (some ⟨.root, []⟩)) = some .decoding ∧
      crashOf? (resolve (withValues (Encoding.Utf8.encode "ignore: 5")) [] (some ⟨.root, []⟩)) = some .type ∧
      crashOf? (resolve (withValues (Encoding.Utf8.encode "indent: 9223372036854775808")) [] (some ⟨.root, []⟩)) =
        some .overflow := by
  decide +kernel

end Config

end SchemaLint
