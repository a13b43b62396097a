import SchemaLint.Lint.Pool
import SchemaLint.Proofs.Lint.Separate
import SchemaLint.Proofs.Lists

/-!
# Linting in any order

Whatever happens while separate files are linted, each of them comes to what it comes to alone, and what is printed is
what would be printed for each alone, in some order.
-/

namespace SchemaLint

open Json (Value)

/-- What was printed for a file, by how far its linting has come. -/
def Pipeline.printed (t : Task) (out : Output) (s : Sources) (w : World) (file : Path) : Pipeline -> List String
  | reading _ _ => []
  | _ => (t.alone out s w file).said.printed

namespace Pool

variable {t : Task} {out : Output} {s : Sources} {w : World} {files : List Path} {p p' : Pool} {number : Nat}
  {file : Path} {old new : Pipeline}

/-- The linting of a file has come to nothing else than it would have come to alone.  The references are those that were
called for, in the order of the calls. -/
inductive Faithful (t : Task) (out : Output) (s : Sources) (w : World) (references : List String) (file : Path) :
    Pipeline -> Prop
  | reading {bytes : Option (Except Failed Bytes)} {settings : Option (Except Failed Settings)}
    (sameBytes : forall found, bytes = some found -> found = Task.bytesOf w.disk file)
    (sameSettings : forall found, settings = some found -> found = t.settingsOf w.disk file) :
    Faithful t out s w references file (.reading bytes settings)
  | waiting {d : Document} {v : Value} {u : String} {call : Nat} (waits : t.Waits out w.disk file d v u)
    (called : references[call]? = some u) : Faithful t out s w references file (.waiting d v u call)
  | ended {outcome : Except Failed Verdict} (same : outcome.toOption = (t.alone out s w file).outcome.toOption) :
    Faithful t out s w references file (.ended outcome)

/-- More calls do not matter to a file. -/
theorem Faithful.append {references : List String} (faithful : Faithful t out s w references file new)
    (more : List String) : Faithful t out s w (references ++ more) file new := by
  cases faithful with
  | reading sameBytes sameSettings => exact .reading sameBytes sameSettings
  | waiting waits called =>
    refine .waiting waits ?_
    rw [List.getElem?_append_left (List.getElem?_eq_some_iff.mp called).1]
    exact called
  | ended same => exact .ended same

/-- The files of a pool have not got in each other's way. -/
structure Independent (t : Task) (out : Output) (s : Sources) (w : World) (files : List Path) (p : Pool) : Prop where
  order : p.pipelines.map Prod.fst = files
  sound : p.resolver.Sound
  isolated : Session.Isolated s w (t.Wants out w.disk files) ⟨[p.resolver], p.world⟩
  faithful : forall {file pipeline}, (file, pipeline) ∈ p.pipelines ->
    Faithful t out s w (p.resolver.calls.map Resolver.Call.reference) file pipeline
  printed : p.said.printed.Perm (p.pipelines.flatMap fun entry => entry.2.printed t out s w entry.1)

theorem Independent.mem_files (independent : Independent t out s w files p) (member : (file, old) ∈ p.pipelines) :
    file ∈ files := by
  rw [← independent.order]
  exact List.mem_map_of_mem (f := Prod.fst) member

theorem independent_start (separate : t.Separate out s w files) : Independent t out s w files (start files w) where
  order := by
    change (files.map fun file => (file, Pipeline.reading none none)).map Prod.fst = files
    rw [List.map_map]
    exact List.map_id files
  sound := .fresh
  isolated := Session.isolated_start separate.apart 1
  faithful := by
    intro file pipeline member
    obtain ⟨f, -, same⟩ := List.mem_map.mp member
    cases same
    exact .reading nofun nofun
  printed := by
    have silent : forall l : List Path, ((l.map fun file => (file, Pipeline.reading none none)).flatMap fun entry =>
        entry.2.printed t out s w entry.1) = [] := by
      intro l
      induction l with
      | nil => rfl
      | cons f rest ih => exact ih
    change [].Perm ((files.map fun file => (file, Pipeline.reading none none)).flatMap _)
    rw [silent]

/-! ## What is done about a file -/

/-- The ways in which it can come out to do something about a file. -/
inductive Handled (t : Task) (out : Output) (p : Pool) (number : Nat) (file : Path) : Pipeline -> Pool -> Prop
  | nothing {pipeline : Pipeline} : Handled t out p number file pipeline p
  | read (settings : Option (Except Failed Settings)) : Handled t out p number file (.reading none settings)
    (p.move number file (.reading (some (Task.bytesOf p.world.disk file)) settings))
  | configure (bytes : Option (Except Failed Bytes)) : Handled t out p number file (.reading bytes none)
    (p.move number file (.reading bytes (some (t.settingsOf p.world.disk file))))
  | start (bytes : Option (Except Failed Bytes)) (settings : Option (Except Failed Settings))
    (document : Except Failed Document) (ready : ready? p.world.disk file bytes settings = some document) :
    Handled t out p number file (.reading bytes settings) (p.begin out number file document)
  | finish (d : Document) (v : Value) (u : String) (call : Nat) (schema : Except Failed Value)
    (answered : (p.resolver.calls[call]?).bind Resolver.Call.answer = some schema) :
    Handled t out p number file (.waiting d v u call)
      (p.move number file (.ended ((d.finish p.world.disk v u schema).mapError .crash)))

theorem handled (t : Task) (out : Output) (p : Pool) (number : Nat) (file : Path) (pipeline : Pipeline) (deed : Deed) :
    Handled t out p number file pipeline (p.handle t out number file pipeline deed) := by
  cases pipeline with
  | reading bytes settings =>
    cases deed with
    | read =>
      cases bytes with
      | none => exact .read settings
      | some found => exact .nothing
    | configure =>
      cases settings with
      | none => exact .configure bytes
      | some found => exact .nothing
    | start =>
      unfold Pool.handle
      dsimp only
      cases ready : ready? p.world.disk file bytes settings with
      | none => exact .nothing
      | some document => exact .start bytes settings document ready
    | finish => exact .nothing
  | waiting d v u call =>
    cases deed with
    | read => exact .nothing
    | configure => exact .nothing
    | start => exact .nothing
    | finish =>
      unfold Pool.handle
      dsimp only
      cases answered : (p.resolver.calls[call]?).bind Resolver.Call.answer with
      | none => exact .nothing
      | some schema => exact .finish d v u call schema answered
  | ended outcome => cases deed <;> exact .nothing

/-- One file comes to another state, and the resolver is called at most. -/
theorem Independent.revise (independent : Independent t out s w files p)
    (found : p.pipelines[number]? = some (file, old)) (pipelines : p'.pipelines = p.pipelines.set number (file, new))
    (sound : p'.resolver.Sound) (isolated : Session.Isolated s w (t.Wants out w.disk files) ⟨[p'.resolver], p'.world⟩)
    (calls : exists more, p'.resolver.calls.map Resolver.Call.reference =
      p.resolver.calls.map Resolver.Call.reference ++ more)
    (faithful : Faithful t out s w (p'.resolver.calls.map Resolver.Call.reference) file new)
    (more : List String) (said : p'.said.printed = p.said.printed ++ more)
    (printed : new.printed t out s w file = old.printed t out s w file ++ more) :
    Independent t out s w files p' where
  order := by
    rw [pipelines, List.map_set, ← independent.order]
    refine List.ext_getElem? fun n => ?_
    rw [List.getElem?_set]
    split
    · rename_i here
      subst here
      have inside := (List.getElem?_eq_some_iff.mp found).1
      rw [if_pos (by simpa using inside), List.getElem?_map, found]
      rfl
    · rfl
  sound := sound
  isolated := isolated
  faithful := by
    intro other pipeline member
    rw [pipelines] at member
    rcases List.mem_or_eq_of_mem_set member with kept | same
    · obtain ⟨later, called⟩ := calls
      rw [called]
      exact (independent.faithful kept).append later
    · cases same
      exact faithful
  printed := by
    rw [said, pipelines]
    exact (List.Perm.append_right more independent.printed).trans
      (perm_flatMap_set (fun entry => entry.2.printed t out s w entry.1) found printed)

/-- One file comes to another state, and nothing else changes. -/
theorem Independent.move (independent : Independent t out s w files p)
    (found : p.pipelines[number]? = some (file, old))
    (faithful : Faithful t out s w (p.resolver.calls.map Resolver.Call.reference) file new)
    (printed : new.printed t out s w file = old.printed t out s w file) :
    Independent t out s w files (p.move number file new) :=
  independent.revise found rfl independent.sound independent.isolated ⟨[], (List.append_nil _).symm⟩ faithful []
    (List.append_nil _).symm (printed.trans (List.append_nil _).symm)

/-- What is ready to be started is the document of the file, or it fails where the document would fail. -/
theorem ready?_eq_some {bytes : Option (Except Failed Bytes)} {settings : Option (Except Failed Settings)}
    {document : Except Failed Document} {d : Disk}
    (sameBytes : forall found, bytes = some found -> found = Task.bytesOf w.disk file)
    (sameSettings : forall found, settings = some found -> found = t.settingsOf w.disk file)
    (samePath : d.realPath file = w.disk.realPath file) (ready : ready? d file bytes settings = some document) :
    document = t.document w.disk file ∨
      exists failed failed', document = .error failed ∧ t.document w.disk file = .error failed' := by
  have failsFirst : forall {failed}, Task.bytesOf w.disk file = .error failed ->
      t.document w.disk file = .error failed := by
    intro failed came
    unfold Task.document
    rw [came]
    rfl
  have failsSecond : forall {failed}, t.settingsOf w.disk file = .error failed ->
      exists failed', t.document w.disk file = .error failed' := by
    intro failed came
    unfold Task.document
    cases Task.bytesOf w.disk file with
    | error earlier => exact ⟨earlier, rfl⟩
    | ok contents =>
      rw [came]
      exact ⟨failed, rfl⟩
  unfold ready? at ready
  split at ready
  · rename_i failed
    cases ready
    exact Or.inr ⟨failed, failed, rfl, failsFirst (sameBytes _ rfl).symm⟩
  · rename_i failed _
    cases ready
    obtain ⟨failed', came⟩ := failsSecond (sameSettings _ rfl).symm
    exact Or.inr ⟨failed, failed', rfl, came⟩
  · rename_i contents found
    cases ready
    left
    unfold Task.document
    rw [← sameBytes _ rfl, ← sameSettings _ rfl]
    change Task.opened d file contents found = Task.opened w.disk file contents found
    unfold Task.opened
    rw [samePath]
  · cases ready

/-- A file whose document fails to start has failed alone. -/
theorem Independent.give_up (independent : Independent t out s w files p)
    {bytes : Option (Except Failed Bytes)} {settings : Option (Except Failed Settings)}
    (found : p.pipelines[number]? = some (file, .reading bytes settings)) {failed failed' : Failed}
    (started : Task.start out (t.document w.disk file) = .error failed') :
    Independent t out s w files (p.move number file (.ended (.error failed))) := by
  have same : t.alone out s w file = ⟨.error failed', .nothing, .fresh, w⟩ := by
    rw [Task.alone_eq, started]
  refine independent.move found (.ended ?_) ?_
  · rw [same]
    rfl
  · change (t.alone out s w file).said.printed = []
    rw [same]
    rfl

/-- A document is started. -/
theorem Independent.begin (independent : Independent t out s w files p) (separate : t.Separate out s w files)
    {bytes : Option (Except Failed Bytes)} {settings : Option (Except Failed Settings)}
    (found : p.pipelines[number]? = some (file, .reading bytes settings)) {document : Except Failed Document}
    (same : document = t.document w.disk file ∨
      exists failed failed', document = .error failed ∧ t.document w.disk file = .error failed') :
    Independent t out s w files (p.begin out number file document) := by
  have member : file ∈ files := independent.mem_files (List.mem_of_getElem? found)
  rcases same with rfl | ⟨failed, failed', rfl, came⟩
  · unfold Pool.begin
    cases started : Task.start out (t.document w.disk file) with
    | error failed => exact independent.give_up found started
    | ok begun =>
      obtain ⟨said, d, step⟩ := begun
      cases step with
      | ended v =>
        have alone : t.alone out s w file = ⟨.ok v, said, .fresh, w⟩ := by
          rw [Task.alone_eq, started]
        refine independent.revise found rfl independent.sound independent.isolated ⟨[], (List.append_nil _).symm⟩
          (.ended ?_) said.printed rfl ?_
        · rw [alone]
        · change (t.alone out s w file).said.printed = _
          rw [alone]
          rfl
      | waiting v u =>
        have waits : t.Waits out w.disk file d v u := ⟨said, started⟩
        obtain ⟨-, alone⟩ := separate.alone_waiting member started
        refine independent.revise found rfl (independent.sound.call u) ?_ ⟨[u], p.resolver.callReferences_call u⟩ ?_
          said.printed rfl ?_
        · refine independent.isolated.act separate.apart 0 (.call u) ?_
          intro u' same
          cases same
          exact ⟨file, d, v, member, waits⟩
        · refine .waiting waits ?_
          change ((p.resolver.call u).calls.map Resolver.Call.reference)[p.resolver.calls.length]? = some u
          rw [Resolver.callReferences_call]
          simp
        · change (t.alone out s w file).said.printed = _
          rw [alone]
          rfl
  · refine independent.give_up found (?_ : Task.start out (t.document w.disk file) = .error failed')
    rw [came]
    rfl

/-- A document is finished. -/
theorem Independent.finish (independent : Independent t out s w files p) (separate : t.Separate out s w files)
    {d : Document} {v : Value} {u : String} {call : Nat} {schema : Except Failed Value}
    (found : p.pipelines[number]? = some (file, .waiting d v u call))
    (answered : (p.resolver.calls[call]?).bind Resolver.Call.answer = some schema) :
    Independent t out s w files (p.move number file (.ended ((d.finish p.world.disk v u schema).mapError .crash))) := by
  have isThere := List.mem_of_getElem? found
  have member : file ∈ files := independent.mem_files isThere
  obtain ⟨c, there, answer⟩ : exists c, p.resolver.calls[call]? = some c ∧ c.answer = some schema :=
    Option.bind_eq_some_iff.mp answered
  cases independent.faithful isThere with
  | waiting waits called =>
    have reference : c.reference = u := by
      rw [List.getElem?_map, there] at called
      cases called
      rfl
    have expected : schema = Load.expected s u w := by
      rw [← reference]
      exact independent.isolated.answer (j := 0) independent.sound rfl (List.mem_of_getElem? there) answer
    obtain ⟨said, started⟩ := id waits
    obtain ⟨alone, -⟩ := separate.alone_waiting member started
    refine independent.move found (.ended ?_) rfl
    rw [expected, separate.schemas member waits independent.isolated.filled, alone]

/-- Something is done about a file. -/
theorem Independent.handle (independent : Independent t out s w files p) (separate : t.Separate out s w files)
    (found : p.pipelines[number]? = some (file, old)) (deed : Deed) :
    Independent t out s w files (p.handle t out number file old deed) := by
  have isThere := List.mem_of_getElem? found
  have member : file ∈ files := independent.mem_files isThere
  have filled : Cache.Filled s.cache w.disk p.world.disk := independent.isolated.filled
  have faithful := independent.faithful isThere
  have ways := handled t out p number file old deed
  generalize p.handle t out number file old deed = p' at ways ⊢
  cases ways with
  | nothing => exact independent
  | read settings =>
    cases faithful with
    | reading sameBytes sameSettings =>
      refine independent.move found (.reading ?_ sameSettings) rfl
      rintro _ ⟨⟩
      exact separate.bytes member filled
  | configure bytes =>
    cases faithful with
    | reading sameBytes sameSettings =>
      refine independent.move found (.reading sameBytes ?_) rfl
      rintro _ ⟨⟩
      exact separate.settings member filled
  | start bytes settings document ready =>
    cases faithful with
    | reading sameBytes sameSettings =>
      exact independent.begin separate found (ready?_eq_some sameBytes sameSettings (separate.path member filled) ready)
  | finish d v u call schema answered => exact independent.finish separate found answered

/-! ## Any order of events -/

/-- The resolver takes a turn. -/
theorem Independent.serve (independent : Independent t out s w files p) (separate : t.Separate out s w files)
    {action : Resolver.Action} (noCall : forall u, action ≠ .call u) :
    Independent t out s w files (p.serve s action) where
  order := independent.order
  sound := independent.sound.act s p.world action
  isolated := independent.isolated.act separate.apart 0 action fun u same => absurd same (noCall u)
  faithful := by
    intro file pipeline member
    change Faithful t out s w ((p.resolver.act s p.world action).1.calls.map Resolver.Call.reference) file pipeline
    rw [Resolver.callReferences_act s p.world noCall]
    exact independent.faithful member
  printed := independent.printed

theorem Independent.take (independent : Independent t out s w files p) (separate : t.Separate out s w files)
    (event : Event) : Independent t out s w files (p.take t out s event) := by
  cases event with
  | handle number deed =>
    unfold Pool.take
    dsimp only
    cases found : p.pipelines[number]? with
    | none => exact independent
    | some entry => exact independent.handle separate found deed
  | advance flight => exact independent.serve separate (by simp)
  | refuse flight => exact independent.serve separate (by simp)
  | callback flight => exact independent.serve separate (by simp)

/-- Whatever happens, the files do not get in each other's way. -/
theorem Independent.after (independent : Independent t out s w files p) (separate : t.Separate out s w files)
    (history : List Event) : Independent t out s w files (p.after t out s history) := by
  induction history generalizing p with
  | nil => exact independent
  | cons event rest ih => exact ih (independent.take separate event)

end Pool

end SchemaLint
