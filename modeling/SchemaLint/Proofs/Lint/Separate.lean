import SchemaLint.Proofs.Lint.Beside
import SchemaLint.Proofs.Resolver.Apart
import SchemaLint.Proofs.Results

/-!
# Files that do not get in each other's way

Files are separate if the loads that their documents wait for are apart, and if nothing that is read for a document lies
in the cache.  A run over separate files comes to what each file comes to alone.
-/

namespace SchemaLint

open Json (Value)

namespace Task

/-- The document in a file waits for a reference once it was started. -/
def Waits (t : Task) (out : Output) (d : Disk) (file : Path) (document : Document) (v : Value) (u : String) : Prop :=
  exists said, start out (t.document d file) = .ok (said, document, .waiting v u)

/-- The references that the documents in some files wait for. -/
def Wants (t : Task) (out : Output) (d : Disk) (files : List Path) (u : String) : Prop :=
  exists file document v, file ∈ files ∧ t.Waits out d file document v u

/-- Files whose documents cannot get in each other's way: neither can the loads of their schemas, nor does anything that
is read for a document lie in the cache. -/
structure Separate (t : Task) (out : Output) (s : Sources) (w : World) (files : List Path) : Prop where
  apart : Session.Apart s w (t.Wants out w.disk files)
  bytes : forall {file d}, file ∈ files -> Cache.Filled s.cache w.disk d -> bytesOf d file = bytesOf w.disk file
  settings : forall {file d}, file ∈ files -> Cache.Filled s.cache w.disk d ->
    t.settingsOf d file = t.settingsOf w.disk file
  path : forall {file d}, file ∈ files -> Cache.Filled s.cache w.disk d -> d.realPath file = w.disk.realPath file
  /-- The schemas that a schema refers to. -/
  schemas : forall {file d document v u}, file ∈ files -> t.Waits out w.disk file document v u ->
    Cache.Filled s.cache w.disk d ->
    document.finish d v u (Load.expected s u w) = document.finish w.disk v u (Load.expected s u w)

variable {t : Task} {out : Output} {s : Sources} {w : World} {files : List Path} {file : Path}

/-- Files beside the cache are separate if the loads of their schemas are apart. -/
theorem separate_of_beside (apart : Session.Apart s w (t.Wants out w.disk files))
    (beside : forall file, file ∈ files ->
      exists folder name, file = folder.child name ∧ Beside s.cache w.disk folder name)
    (schemas : forall {file d document v u}, file ∈ files -> t.Waits out w.disk file document v u ->
      Cache.Filled s.cache w.disk d ->
      document.finish d v u (Load.expected s u w) = document.finish w.disk v u (Load.expected s u w)) :
    t.Separate out s w files where
  apart := apart
  bytes := by
    intro file d member filled
    obtain ⟨folder, name, rfl, beside⟩ := beside file member
    exact beside.bytes filled
  settings := by
    intro file d member filled
    obtain ⟨folder, name, rfl, beside⟩ := beside file member
    exact beside.settings filled
  path := by
    intro file d member filled
    obtain ⟨folder, name, rfl, beside⟩ := beside file member
    exact beside.path filled
  schemas := schemas

/-! ## What comes of a file alone -/

theorem start_ok (out : Output) (d : Document) : start out (.ok d) =
    match d.start out with
    | .error c => .error (.crash c)
    | .ok (said, step) => .ok (said, d, step) := by
  unfold start
  dsimp only [bind, Except.bind]
  cases d.start out with
  | error c => rfl
  | ok started => rfl

theorem alone_eq (t : Task) (out : Output) (s : Sources) (w : World) (file : Path) : t.alone out s w file =
    match start out (t.document w.disk file) with
    | .error failed => ⟨.error failed, .nothing, .fresh, w⟩
    | .ok (said, _, .ended v) => ⟨.ok v, said, .fresh, w⟩
    | .ok (said, d, .waiting v u) =>
      let (schema, r, w) := Resolver.fresh.resolve s w u
      ⟨(d.finish w.disk v u schema).mapError .crash, said, r, w⟩ := by
  unfold alone lintFile
  cases t.document w.disk file with
  | error failed => rfl
  | ok d =>
    rw [start_ok]
    change d.lint out s .fresh w = _
    unfold Document.lint
    cases d.start out with
    | error c => rfl
    | ok started =>
      obtain ⟨said, step⟩ := started
      cases step with
      | ended v => rfl
      | waiting v u => rfl

/-- Alone, a document that waits for a schema is judged by the one that is expected. -/
theorem Separate.alone_waiting (separate : Separate t out s w files) (member : file ∈ files) {said : Said}
    {d : Document} {v : Value} {u : String}
    (started : start out (t.document w.disk file) = .ok (said, d, .waiting v u)) :
    (t.alone out s w file).outcome = (d.finish w.disk v u (Load.expected s u w)).mapError .crash ∧
      (t.alone out s w file).said = said := by
  have waits : t.Waits out w.disk file d v u := ⟨said, started⟩
  obtain ⟨came, filled⟩ := Session.resolve_of_apart separate.apart ⟨file, d, v, member, waits⟩
  rw [alone_eq, started]
  refine ⟨?_, rfl⟩
  rw [← separate.schemas member waits filled, ← came]

end Task

end SchemaLint
