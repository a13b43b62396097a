import SchemaLint.Proofs.Lint.Account
import SchemaLint.Proofs.Lint.Independent

/-!
# Runs in lockstep

Two runs of tasks that are akin, to which the same happens in the same order, come equally far with every file and make the
same calls.  Only a file that crashes in one of them ends this, and then that run does not come to verdicts.
-/

namespace SchemaLint

open Json (Value)

/-- A document was made of what lay at a file at some times: its bytes, its settings and its real path. -/
def Task.Opens (t : Task) (seen : Disk -> Prop) (file : Path) (document : Document) : Prop :=
  exists d₁ d₂ d₃ bytes settings, seen d₁ ∧ seen d₂ ∧ seen d₃ ∧ Task.bytesOf d₁ file = .ok bytes ∧
    t.settingsOf d₂ file = .ok settings ∧ Task.opened d₃ file bytes settings = .ok document

/-- How far the linting of a file has come in two runs, and the documents once they were read. -/
structure Track where
  file : Path
  first : Pipeline
  second : Pipeline
  pair : Option (Document × Document)

namespace Track

/-- The linting of a file has come equally far, and has not failed. -/
inductive Keeps (t t' : Task) (seen seen' : Disk -> Prop) : Track -> Prop
  | reading (file : Path) (bytes : Option Bytes) (settings settings' : Option Settings)
    (read : forall b, bytes = some b -> exists d, seen d ∧ Task.bytesOf d file = .ok b)
    (read' : forall b, bytes = some b -> exists d, seen' d ∧ Task.bytesOf d file = .ok b)
    (found : forall a, settings = some a -> exists d, seen d ∧ t.settingsOf d file = .ok a)
    (found' : forall a, settings' = some a -> exists d, seen' d ∧ t'.settingsOf d file = .ok a)
    (akin : Option.Rel Settings.Akin settings settings') :
    Keeps t t' seen seen'
      ⟨file, .reading (bytes.map .ok) (settings.map .ok), .reading (bytes.map .ok) (settings'.map .ok), none⟩
  | waiting {file : Path} {d d' : Document} (akin : d.Akin d') (opens : t.Opens seen file d)
    (opens' : t'.Opens seen' file d') (v : Value) (reference : String) (call : Nat) :
    Keeps t t' seen seen' ⟨file, .waiting d v reference call, .waiting d' v reference call, some (d, d')⟩
  | ended {file : Path} {d d' : Document} (akin : d.Akin d') (opens : t.Opens seen file d)
    (opens' : t'.Opens seen' file d') {v v' : Verdict} (tells : d.Tells v) (tells' : d'.Tells v')
    (same : v.judgement = v'.judgement) :
    Keeps t t' seen seen' ⟨file, .ended (.ok v), .ended (.ok v'), some (d, d')⟩

/-- What the first run has printed for a file. -/
def printed (k : Track) : List String :=
  k.pair.elim [] fun (d, _) => d.prettyText?.toList

/-- What the second run has printed for a file. -/
def printed' (k : Track) : List String :=
  k.pair.elim [] fun (_, d) => d.prettyText?.toList

end Track

/-- The linting of a file has failed, or is bound to. -/
def Pipeline.IsDoomed : Pipeline -> Prop
  | reading bytes settings => (exists failed, bytes = some (.error failed)) ∨ exists failed, settings = some (.error failed)
  | waiting _ _ _ _ => False
  | ended outcome => exists failed, outcome = .error failed

namespace Pool

variable {t t' : Task} {s : Sources} {seen seen' : Disk -> Prop} {files : List Path} {p p' : Pool} {tracks : List Track}

/-- The linting of some file has failed, or is bound to. -/
def IsDoomed (p : Pool) : Prop :=
  exists entry, entry ∈ p.pipelines ∧ entry.2.IsDoomed

/-- Two runs have come equally far. -/
structure Paired (t t' : Task) (seen seen' : Disk -> Prop) (files : List Path) (p p' : Pool) (tracks : List Track) :
    Prop where
  resolver : p.resolver = p'.resolver
  world : p.world = p'.world
  first : p.pipelines = tracks.map fun k => (k.file, k.first)
  second : p'.pipelines = tracks.map fun k => (k.file, k.second)
  order : tracks.map Track.file = files
  keeps : forall k, k ∈ tracks -> k.Keeps t t' seen seen'
  printed : p.said.printed.Perm (tracks.flatMap Track.printed)
  printed' : p'.said.printed.Perm (tracks.flatMap Track.printed')

/-! ## A run that fails -/

theorem isDoomed_of_set {number : Nat} {entry entry' : Path × Pipeline} (found : p.pipelines[number]? = some entry)
    (pipelines : p'.pipelines = p.pipelines.set number entry') (doomed : entry'.2.IsDoomed) : p'.IsDoomed := by
  refine ⟨entry', ?_, doomed⟩
  rw [pipelines]
  exact List.mem_set (List.getElem?_eq_some_iff.mp found).1 entry'

/-- If one file comes to another state, then what has failed remains so. -/
theorem IsDoomed.set (doomed : p.IsDoomed) {number : Nat} {file : Path} {old new : Pipeline}
    (found : p.pipelines[number]? = some (file, old)) (pipelines : p'.pipelines = p.pipelines.set number (file, new))
    (onwards : old.IsDoomed -> new.IsDoomed) : p'.IsDoomed := by
  obtain ⟨entry, member, isDoomed⟩ := doomed
  obtain ⟨i, there⟩ := List.getElem?_of_mem member
  by_cases here : number = i
  · subst here
    cases found.symm.trans there
    exact isDoomed_of_set found pipelines (onwards isDoomed)
  · refine ⟨entry, ?_, isDoomed⟩
    rw [pipelines]
    apply List.mem_of_getElem? (i := i)
    rw [List.getElem?_set_ne here]
    exact there

/-- A file whose document is started comes to another state; it fails if there is no document. -/
theorem pipelines_begin (out : Output) (p : Pool) (number : Nat) (file : Path) (document : Except Failed Document) :
    exists new, (p.begin out number file document).pipelines = p.pipelines.set number (file, new) ∧
      forall failed, document = .error failed -> new.IsDoomed := by
  unfold begin
  cases document with
  | error failed => exact ⟨.ended (.error failed), rfl, fun _ _ => ⟨failed, rfl⟩⟩
  | ok d =>
    split
    · exact ⟨_, rfl, nofun⟩
    · exact ⟨_, rfl, nofun⟩
    · exact ⟨_, rfl, nofun⟩

theorem ready?_of_doomed {d : Disk} {file : Path} {bytes : Option (Except Failed Bytes)}
    {settings : Option (Except Failed Settings)} {document : Except Failed Document}
    (doomed : (Pipeline.reading bytes settings).IsDoomed) (ready : ready? d file bytes settings = some document) :
    exists failed, document = .error failed := by
  unfold ready? at ready
  split at ready
  · cases ready
    exact ⟨_, rfl⟩
  · cases ready
    exact ⟨_, rfl⟩
  · rcases doomed with ⟨failed, same⟩ | ⟨failed, same⟩ <;> cases same
  · cases ready

/-- What has failed remains so. -/
theorem IsDoomed.take (doomed : p.IsDoomed) (t : Task) (out : Output) (s : Sources) (event : Event) :
    (p.take t out s event).IsDoomed := by
  cases event with
  | handle number deed =>
    unfold Pool.take
    dsimp only
    split
    next file pipeline found =>
      have ways := handled t out p number file pipeline deed
      generalize p.handle t out number file pipeline deed = p' at ways ⊢
      cases ways with
      | nothing => exact doomed
      | read settings =>
        refine doomed.set found rfl ?_
        rintro (⟨failed, same⟩ | same)
        · cases same
        · exact Or.inr same
      | configure bytes =>
        refine doomed.set found rfl ?_
        rintro (same | ⟨failed, same⟩)
        · exact Or.inl same
        · cases same
      | start bytes settings document ready =>
        obtain ⟨new, pipelines, fails⟩ := pipelines_begin out p number file document
        refine doomed.set found pipelines fun isDoomed => ?_
        obtain ⟨failed, same⟩ := ready?_of_doomed isDoomed ready
        exact fails failed same
      | finish d v u call schema answered => exact doomed.set found rfl nofun
    next => exact doomed
  | advance flight => exact doomed
  | refuse flight => exact doomed
  | callback flight => exact doomed

/-- A run that has failed does not come to verdicts. -/
theorem IsDoomed.verdicts? (doomed : p.IsDoomed) : p.verdicts? = none := by
  obtain ⟨⟨file, pipeline⟩, member, isDoomed⟩ := doomed
  refine mapM_eq_none member ?_
  cases pipeline with
  | reading bytes settings => rfl
  | waiting d v u call => cases isDoomed
  | ended outcome =>
    obtain ⟨failed, rfl⟩ := isDoomed
    rfl

/-! ## One step of both runs -/

/-- The file of a number is on the track of that number. -/
theorem Paired.found (paired : Paired t t' seen seen' files p p' tracks) {number : Nat} {k : Track}
    (there : tracks[number]? = some k) :
    p.pipelines[number]? = some (k.file, k.first) ∧ p'.pipelines[number]? = some (k.file, k.second) := by
  rw [paired.first, paired.second, List.getElem?_map, List.getElem?_map, there]
  exact ⟨rfl, rfl⟩

/-- The linting of one file comes further in both runs. -/
theorem Paired.revise (paired : Paired t t' seen seen' files p p' tracks) {number : Nat} {k k' : Track} {q q' : Pool}
    (there : tracks[number]? = some k) (keeps : k'.Keeps t t' seen seen') (file : k'.file = k.file)
    (resolver : q.resolver = q'.resolver) (world : q.world = q'.world)
    (first : q.pipelines = p.pipelines.set number (k.file, k'.first))
    (second : q'.pipelines = p'.pipelines.set number (k.file, k'.second))
    {more more' : List String} (said : q.said.printed = p.said.printed ++ more)
    (said' : q'.said.printed = p'.said.printed ++ more')
    (printed : k'.printed = k.printed ++ more) (printed' : k'.printed' = k.printed' ++ more') :
    Paired t t' seen seen' files q q' (tracks.set number k') where
  resolver := resolver
  world := world
  first := by rw [first, paired.first, List.map_set, file]
  second := by rw [second, paired.second, List.map_set, file]
  order := by
    rw [List.map_set, file, ← paired.order]
    apply set_same
    rw [List.getElem?_map, there]
    rfl
  keeps := by
    intro other member
    rcases List.mem_or_eq_of_mem_set member with kept | rfl
    · exact paired.keeps other kept
    · exact keeps
  printed := by
    rw [said]
    exact (paired.printed.append_right more).trans (perm_flatMap_set Track.printed there printed)
  printed' := by
    rw [said']
    exact (paired.printed'.append_right more').trans (perm_flatMap_set Track.printed' there printed')

/-- The linting of one file comes further in both runs, and nothing else changes. -/
theorem Paired.move (paired : Paired t t' seen seen' files p p' tracks) {number : Nat} {k k' : Track}
    (there : tracks[number]? = some k) (keeps : k'.Keeps t t' seen seen') (file : k'.file = k.file)
    (pair : k'.pair = k.pair) :
    Paired t t' seen seen' files (p.move number k.file k'.first) (p'.move number k.file k'.second)
      (tracks.set number k') := by
  refine paired.revise there keeps file paired.resolver paired.world rfl rfl (List.append_nil _).symm
    (List.append_nil _).symm ?_ ?_
  · rw [Track.printed, pair, List.append_nil]
    rfl
  · rw [Track.printed', pair, List.append_nil]
    rfl

/-- Both runs have come equally far, or one of them has failed. -/
def InStep (t t' : Task) (seen seen' : Disk -> Prop) (files : List Path) (p p' : Pool) : Prop :=
  (exists tracks, Paired t t' seen seen' files p p' tracks) ∨ p.IsDoomed ∨ p'.IsDoomed

/-- A file fails in the first run. -/
theorem inStep_of_first {number : Nat} {entry : Path × Pipeline} {file : Path} {new : Pipeline} {q' : Pool}
    (found : p.pipelines[number]? = some entry) (doomed : new.IsDoomed) :
    InStep t t' seen seen' files (p.move number file new) q' :=
  Or.inr (Or.inl (isDoomed_of_set found rfl doomed))

/-- A file fails in the second run. -/
theorem inStep_of_second {number : Nat} {entry : Path × Pipeline} {file : Path} {new : Pipeline} {q : Pool}
    (found : p'.pipelines[number]? = some entry) (doomed : new.IsDoomed) :
    InStep t t' seen seen' files q (p'.move number file new) :=
  Or.inr (Or.inr (isDoomed_of_set found rfl doomed))

/-- The bytes of a file are read in both runs. -/
theorem Paired.read (paired : Paired t t' seen seen' files p p' tracks) (now : seen p.world.disk)
    (now' : seen' p'.world.disk) {number : Nat} {file : Path} {settings settings' : Option Settings}
    (there : tracks[number]? = some ⟨file, .reading none (settings.map .ok), .reading none (settings'.map .ok), none⟩)
    (found : forall a, settings = some a -> exists d, seen d ∧ t.settingsOf d file = .ok a)
    (found' : forall a, settings' = some a -> exists d, seen' d ∧ t'.settingsOf d file = .ok a)
    (akin : Option.Rel Settings.Akin settings settings') :
    InStep t t' seen seen' files
      (p.move number file (.reading (some (Task.bytesOf p.world.disk file)) (settings.map .ok)))
      (p'.move number file (.reading (some (Task.bytesOf p'.world.disk file)) (settings'.map .ok))) := by
  cases contents : Task.bytesOf p.world.disk file with
  | error failed => exact inStep_of_first (paired.found there).1 (Or.inl ⟨failed, rfl⟩)
  | ok bytes =>
    have contents' : Task.bytesOf p'.world.disk file = .ok bytes := paired.world ▸ contents
    rw [contents']
    refine Or.inl ⟨_, paired.move there (.reading file (some bytes) settings settings' ?_ ?_ found found' akin) rfl rfl⟩
    · rintro b ⟨⟩
      exact ⟨_, now, contents⟩
    · rintro b ⟨⟩
      exact ⟨_, now', contents'⟩

/-- The settings of a file are found in both runs. -/
theorem Paired.configure (paired : Paired t t' seen seen' files p p' tracks) (akin : t.Akin t')
    (now : seen p.world.disk) (now' : seen' p'.world.disk) {number : Nat} {file : Path} {bytes : Option Bytes}
    (there : tracks[number]? = some ⟨file, .reading (bytes.map .ok) none, .reading (bytes.map .ok) none, none⟩)
    (read : forall b, bytes = some b -> exists d, seen d ∧ Task.bytesOf d file = .ok b)
    (read' : forall b, bytes = some b -> exists d, seen' d ∧ Task.bytesOf d file = .ok b) :
    InStep t t' seen seen' files
      (p.move number file (.reading (bytes.map .ok) (some (t.settingsOf p.world.disk file))))
      (p'.move number file (.reading (bytes.map .ok) (some (t'.settingsOf p'.world.disk file)))) := by
  cases came : t.settingsOf p.world.disk file with
  | error failed => exact inStep_of_first (paired.found there).1 (Or.inr ⟨failed, rfl⟩)
  | ok settings =>
    cases came' : t'.settingsOf p'.world.disk file with
    | error failed => exact inStep_of_second (paired.found there).2 (Or.inr ⟨failed, rfl⟩)
    | ok settings' =>
      have alike : settings.Akin settings' := Config.akin_of_resolve akin.overrides came (paired.world ▸ came')
      refine Or.inl ⟨_, paired.move there
        (.reading file bytes (some settings) (some settings') read read' ?_ ?_ (.some alike)) rfl rfl⟩
      · rintro a ⟨⟩
        exact ⟨_, now, came⟩
      · rintro a ⟨⟩
        exact ⟨_, now', came'⟩

/-- A document is started in both runs. -/
theorem Paired.begin (paired : Paired t t' seen seen' files p p' tracks) {number : Nat} {file : Path}
    {first second : Pipeline} (there : tracks[number]? = some ⟨file, first, second, none⟩) {d d' : Document}
    (akin : d.Akin d') (opens : t.Opens seen file d) (opens' : t'.Opens seen' file d') :
    InStep t t' seen seen' files (p.begin .sound number file (.ok d)) (p'.begin .sound number file (.ok d')) := by
  have steps : Document.Step.Akin d d' d.firstStep d'.firstStep := akin.firstStep
  have started : forall d : Document, Task.start .sound (.ok d) =
      .ok ({ printed := d.prettyText?.toList, warnings := [] }, d, d.firstStep) := by
    intro d
    rw [Task.start_ok, d.start_sound]
  unfold Pool.begin
  rw [started, started]
  generalize d.firstStep = step at steps ⊢
  generalize d'.firstStep = step' at steps ⊢
  cases steps with
  | ended tells tells' same =>
    exact Or.inl ⟨_, paired.revise there (.ended akin opens opens' tells tells' same) rfl paired.resolver paired.world
      rfl rfl rfl rfl rfl rfl⟩
  | waiting v reference =>
    dsimp only
    rw [← paired.resolver]
    exact Or.inl ⟨_, paired.revise there (.waiting akin opens opens' v reference _) rfl rfl paired.world
      rfl rfl rfl rfl rfl rfl⟩

/-- A document is finished in both runs. -/
theorem Paired.finish (paired : Paired t t' seen seen' files p p' tracks) {number : Nat} {file : Path} {d d' : Document}
    {v : Value} {reference : String} {call : Nat}
    (there : tracks[number]? = some ⟨file, .waiting d v reference call, .waiting d' v reference call, some (d, d')⟩)
    (akin : d.Akin d') (opens : t.Opens seen file d) (opens' : t'.Opens seen' file d') (schema : Except Failed Value) :
    InStep t t' seen seen' files
      (p.move number file (.ended ((d.finish p.world.disk v reference schema).mapError .crash)))
      (p'.move number file (.ended ((d'.finish p'.world.disk v reference schema).mapError .crash))) := by
  have judged := akin.finish p.world.disk v reference schema
  cases finished : d.finish p.world.disk v reference schema with
  | error c => exact inStep_of_first (paired.found there).1 ⟨.crash c, rfl⟩
  | ok verdict =>
    cases finished' : d'.finish p'.world.disk v reference schema with
    | error c => exact inStep_of_second (paired.found there).2 ⟨.crash c, rfl⟩
    | ok verdict' =>
      rw [paired.world, finished', ← paired.world, finished] at judged
      exact Or.inl ⟨_, paired.move there (.ended akin opens opens' (Document.tells_of_finish finished)
        (Document.tells_of_finish finished') (Except.ok.inj judged)) rfl rfl⟩

/-- Something is done about a file in both runs. -/
theorem Paired.handle (paired : Paired t t' seen seen' files p p' tracks) (akin : t.Akin t')
    (now : seen p.world.disk) (now' : seen' p'.world.disk) {number : Nat} {k : Track}
    (there : tracks[number]? = some k) (deed : Deed) :
    InStep t t' seen seen' files (p.handle t .sound number k.file k.first deed)
      (p'.handle t' .sound number k.file k.second deed) := by
  have unchanged : InStep t t' seen seen' files p p' := Or.inl ⟨tracks, paired⟩
  cases paired.keeps k (List.mem_of_getElem? there) with
  | reading file bytes settings settings' read read' found found' alike =>
    cases deed with
    | read =>
      cases bytes with
      | none => exact paired.read now now' there found found' alike
      | some b => exact unchanged
    | configure =>
      cases alike with
      | none => exact paired.configure akin now now' there read read'
      | some same => exact unchanged
    | start =>
      cases alike with
      | none => cases bytes <;> exact unchanged
      | @some a a' same =>
        cases bytes with
        | none => exact unchanged
        | some b =>
          change InStep t t' seen seen' files (p.begin .sound number file (Task.opened p.world.disk file b a))
            (p'.begin .sound number file (Task.opened p'.world.disk file b a'))
          cases made : Task.opened p.world.disk file b a with
          | error failed => exact inStep_of_first (paired.found there).1 ⟨failed, rfl⟩
          | ok d =>
            cases made' : Task.opened p'.world.disk file b a' with
            | error failed => exact inStep_of_second (paired.found there).2 ⟨failed, rfl⟩
            | ok d' =>
              obtain ⟨d₁, seen₁, contents⟩ := read b rfl
              obtain ⟨d₂, seen₂, came⟩ := found a rfl
              obtain ⟨d₁', seen₁', contents'⟩ := read' b rfl
              obtain ⟨d₂', seen₂', came'⟩ := found' a' rfl
              exact paired.begin there (Task.akin_of_opened same made (paired.world ▸ made'))
                ⟨d₁, d₂, _, b, a, seen₁, seen₂, now, contents, came, made⟩
                ⟨d₁', d₂', _, b, a', seen₁', seen₂', now', contents', came', made'⟩
    | finish => exact unchanged
  | waiting same opens opens' v reference call =>
    cases deed with
    | read => exact unchanged
    | configure => exact unchanged
    | start => exact unchanged
    | finish =>
      unfold Pool.handle
      dsimp only
      rw [← paired.resolver]
      cases (p.resolver.calls[call]?).bind Resolver.Call.answer with
      | none => exact unchanged
      | some schema => exact paired.finish there same opens opens' schema
  | ended same opens opens' tells tells' judged => cases deed <;> exact unchanged

/-- The resolver takes a turn in both runs. -/
theorem Paired.serve (paired : Paired t t' seen seen' files p p' tracks) (s : Sources) (action : Resolver.Action) :
    Paired t t' seen seen' files (p.serve s action) (p'.serve s action) tracks where
  resolver := by
    unfold Pool.serve
    rw [paired.resolver, paired.world]
  world := by
    unfold Pool.serve
    rw [paired.resolver, paired.world]
  first := paired.first
  second := paired.second
  order := paired.order
  keeps := paired.keeps
  printed := paired.printed
  printed' := paired.printed'

theorem Paired.take (paired : Paired t t' seen seen' files p p' tracks) (akin : t.Akin t')
    (now : seen p.world.disk) (now' : seen' p'.world.disk) (event : Event) :
    InStep t t' seen seen' files (p.take t .sound s event) (p'.take t' .sound s event) := by
  cases event with
  | handle number deed =>
    unfold Pool.take
    dsimp only
    cases there : tracks[number]? with
    | none =>
      have gone : p.pipelines[number]? = none ∧ p'.pipelines[number]? = none := by
        rw [paired.first, paired.second, List.getElem?_map, List.getElem?_map, there]
        exact ⟨rfl, rfl⟩
      rw [gone.1, gone.2]
      exact Or.inl ⟨tracks, paired⟩
    | some k =>
      rw [(paired.found there).1, (paired.found there).2]
      exact paired.handle akin now now' there deed
  | advance flight => exact Or.inl ⟨tracks, paired.serve s _⟩
  | refuse flight => exact Or.inl ⟨tracks, paired.serve s _⟩
  | callback flight => exact Or.inl ⟨tracks, paired.serve s _⟩

/-! ## Both runs -/

/-- A disk that there is at some time in a history. -/
def Sees (t : Task) (s : Sources) (p : Pool) (history : List Event) (d : Disk) : Prop :=
  exists before, before <+: history ∧ d = (p.after t .sound s before).world.disk

/-- Whatever happens, both runs come equally far or one of them fails. -/
theorem InStep.after (inStep : InStep t t' seen seen' files p p') (akin : t.Akin t') (history : List Event)
    (sees : forall d, Sees t s p history d -> seen d) (sees' : forall d, Sees t' s p' history d -> seen' d) :
    InStep t t' seen seen' files (p.after t .sound s history) (p'.after t' .sound s history) := by
  induction history generalizing p p' with
  | nil => exact inStep
  | cons event rest ih =>
    have next : InStep t t' seen seen' files (p.take t .sound s event) (p'.take t' .sound s event) := by
      rcases inStep with ⟨tracks, paired⟩ | doomed | doomed
      · exact paired.take akin (sees _ ⟨[], List.nil_prefix, rfl⟩) (sees' _ ⟨[], List.nil_prefix, rfl⟩) event
      · exact Or.inr (Or.inl (doomed.take t .sound s event))
      · exact Or.inr (Or.inr (doomed.take t' .sound s event))
    refine ih next ?_ ?_
    · rintro d ⟨before, isBefore, rfl⟩
      exact sees _ ⟨event :: before, List.cons_prefix_cons.mpr ⟨rfl, isBefore⟩, rfl⟩
    · rintro d ⟨before, isBefore, rfl⟩
      exact sees' _ ⟨event :: before, List.cons_prefix_cons.mpr ⟨rfl, isBefore⟩, rfl⟩

theorem paired_start (t t' : Task) (seen seen' : Disk -> Prop) (files : List Path) (w : World) :
    Paired t t' seen seen' files (start files w) (start files w)
      (files.map fun file => ⟨file, .reading none none, .reading none none, none⟩) where
  resolver := rfl
  world := rfl
  first := by
    rw [List.map_map]
    rfl
  second := by
    rw [List.map_map]
    rfl
  order := by
    rw [List.map_map]
    exact List.map_id files
  keeps := by
    intro k member
    obtain ⟨file, -, rfl⟩ := List.mem_map.mp member
    exact .reading file none none none nofun nofun nofun nofun .none
  printed := by
    rw [List.flatMap_map]
    change [].Perm (files.flatMap fun _ => [])
    simp
  printed' := by
    rw [List.flatMap_map]
    change [].Perm (files.flatMap fun _ => [])
    simp

/-- What two runs come to that have come to the end equally far. -/
theorem account_of_keeps {tracks : List Track} (keeps : forall k, k ∈ tracks -> k.Keeps t t' seen seen')
    {verdicts verdicts' : List Verdict}
    (ended : (tracks.map fun k => (k.file, k.first)).mapM (fun entry => entry.2.verdict?) = some verdicts)
    (ended' : (tracks.map fun k => (k.file, k.second)).mapM (fun entry => entry.2.verdict?) = some verdicts') :
    exists documents documents',
      List.Forall₂ (t.Opens seen) (tracks.map Track.file) documents ∧
      List.Forall₂ (t'.Opens seen') (tracks.map Track.file) documents' ∧
      List.Forall₂ Document.Akin documents documents' ∧
      List.Forall₂ Document.Tells documents verdicts ∧ List.Forall₂ Document.Tells documents' verdicts' ∧
      verdicts.map Verdict.judgement = verdicts'.map Verdict.judgement ∧
      tracks.flatMap Track.printed = documents.filterMap Document.prettyText? ∧
      tracks.flatMap Track.printed' = documents'.filterMap Document.prettyText? := by
  induction tracks generalizing verdicts verdicts' with
  | nil =>
    cases ended
    cases ended'
    exact ⟨[], [], .nil, .nil, .nil, .nil, .nil, rfl, rfl, rfl⟩
  | cons k rest ih =>
    rw [List.map_cons, List.mapM_cons] at ended ended'
    obtain ⟨v, first, ended⟩ := Option.bind_eq_some_iff.mp ended
    obtain ⟨vs, later, ended⟩ := Option.bind_eq_some_iff.mp ended
    obtain ⟨v', first', ended'⟩ := Option.bind_eq_some_iff.mp ended'
    obtain ⟨vs', later', ended'⟩ := Option.bind_eq_some_iff.mp ended'
    cases ended
    cases ended'
    obtain ⟨documents, documents', opens, opens', akin, tells, tells', same, printed, printed'⟩ :=
      ih (fun k inside => keeps k (List.mem_cons_of_mem _ inside)) later later'
    cases keeps k (List.mem_cons_self ..) with
    | reading => cases first
    | waiting => cases first
    | @ended file d d' akin₁ opens₁ opens₁' u u' tells₁ tells₁' same₁ =>
      cases first
      cases first'
      refine ⟨d :: documents, d' :: documents', .cons opens₁ opens, .cons opens₁' opens', .cons akin₁ akin,
        .cons tells₁ tells, .cons tells₁' tells', congrArg₂ List.cons same₁ same, ?_, ?_⟩
      · rw [List.flatMap_cons, List.filterMap_cons, printed, Track.printed]
        dsimp only [Option.elim]
        cases d.prettyText? <;> rfl
      · rw [List.flatMap_cons, List.filterMap_cons, printed', Track.printed']
        dsimp only [Option.elim]
        cases d'.prettyText? <;> rfl

end Pool

end SchemaLint
