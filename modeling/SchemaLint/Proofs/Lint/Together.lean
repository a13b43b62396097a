import SchemaLint.Proofs.Lint.Separate
import SchemaLint.Proofs.Lists

/-!
# A run over separate files

A run starts all documents, resolves their references together and finishes the documents in their order.  Over separate
files it comes to what each of them comes to alone.
-/

namespace SchemaLint

open Json (Value)

namespace Task

variable {t : Task} {out : Output} {s : Sources} {w : World} {files : List Path}

/-! ## Lists of results -/

theorem toOption_mapError {α ε δ : Type} (f : ε -> δ) (x : Except ε α) : (x.mapError f).toOption = x.toOption := by
  cases x <;> rfl

/-- Two lists of results are the same if they are so one by one. -/
theorem toOption_mapM {α β γ ε : Type} {f : β -> Except ε γ} {g : α -> Option γ} {R : α -> β -> Prop} {xs : List α}
    {ys : List β} (related : List.Forall₂ R xs ys)
    (same : forall {x y}, x ∈ xs -> y ∈ ys -> R x y -> (f y).toOption = g x) : (ys.mapM f).toOption = xs.mapM g := by
  induction related with
  | nil => rfl
  | @cons x y xs ys first rest ih =>
    have head := same (List.mem_cons_self ..) (List.mem_cons_self ..) first
    have tail := ih fun inside inside' => same (List.mem_cons_of_mem _ inside) (List.mem_cons_of_mem _ inside')
    rw [List.mapM_cons, List.mapM_cons, ← head, ← tail]
    cases f y with
    | error e => rfl
    | ok z =>
      cases ys.mapM f with
      | error e => rfl
      | ok zs => rfl

/-! ## Starting and finishing -/

/-- The document of a file was started, and this is what came of it. -/
def Started (t : Task) (out : Output) (w : World) (file : Path) (started : Document × Document.Step) : Prop :=
  exists said, start out (t.document w.disk file) = .ok (said, started)

/-- Either a document fails to start, or all are started and print what they would print alone. -/
theorem startAll_cases (separate : t.Separate out s w files) {part : List Path}
    (inside : forall {file}, file ∈ part -> file ∈ files) :
    ((exists file failed, file ∈ part ∧ start out (t.document w.disk file) = .error failed) ∧
        exists said failed, startAll out (part.map (t.document w.disk)) = (said, .error failed)) ∨
      exists said started, startAll out (part.map (t.document w.disk)) = (said, .ok started) ∧
        List.Forall₂ (t.Started out w) part started ∧
        said.printed = part.flatMap fun file => (t.alone out s w file).said.printed := by
  induction part with
  | nil => exact Or.inr ⟨.nothing, [], rfl, .nil, rfl⟩
  | cons file rest ih =>
    have member : file ∈ files := inside (List.mem_cons_self ..)
    rw [List.map_cons]
    unfold startAll
    cases begun : start out (t.document w.disk file) with
    | error failed => exact Or.inl ⟨⟨file, failed, List.mem_cons_self .., begun⟩, .nothing, failed, rfl⟩
    | ok begun' =>
      obtain ⟨said, started⟩ := begun'
      have alone : (t.alone out s w file).said = said := by
        obtain ⟨d, v | ⟨v, u⟩⟩ := started
        · rw [alone_eq, begun]
        · exact (separate.alone_waiting member begun).2
      rcases ih fun later => inside (List.mem_cons_of_mem _ later) with
        ⟨⟨other, failed, later, fails⟩, more, failed', same⟩ | ⟨more, others, same, related, printed⟩
      · left
        refine ⟨⟨other, failed, List.mem_cons_of_mem _ later, fails⟩, said.append more, failed', ?_⟩
        rw [same]
        rfl
      · right
        refine ⟨said.append more, started :: others, ?_, .cons ⟨said, begun⟩ related, ?_⟩
        · rw [same]
          rfl
        · rw [List.flatMap_cons, alone, ← printed]
          rfl

theorem mem_references {started : List (Document × Document.Step)} {d : Document} {v : Value} {u : String}
    (member : (d, .waiting v u) ∈ started) : u ∈ references started :=
  List.mem_filterMap.mpr ⟨_, member, rfl⟩

theorem wants_of_references {started : List (Document × Document.Step)}
    (related : List.Forall₂ (t.Started out w) files started) {u : String} (member : u ∈ references started) :
    t.Wants out w.disk files u := by
  obtain ⟨⟨d, step⟩, inside, waits⟩ := List.mem_filterMap.mp member
  cases step with
  | ended v => cases waits
  | waiting v u' =>
    cases waits
    obtain ⟨n, here⟩ := List.getElem?_of_mem inside
    obtain ⟨short, same⟩ := List.getElem?_eq_some_iff.mp here
    have short' : n < files.length := by
      rw [related.length_eq]
      exact short
    obtain ⟨said, begun⟩ := related.get short' short
    rw [List.get_eq_getElem, List.get_eq_getElem, same] at begun
    exact ⟨files[n], d, v, List.getElem_mem short', said, begun⟩

/-- A run over separate files comes to what each of them comes to alone. -/
theorem lintAll_of_separate (separate : t.Separate out s w files) :
    (lintAll out s .fresh w (files.map (t.document w.disk))).outcome.toOption =
        (files.mapM fun file => (t.alone out s w file).outcome.toOption) ∧
      forall verdicts, (lintAll out s .fresh w (files.map (t.document w.disk))).outcome = .ok verdicts ->
        (lintAll out s .fresh w (files.map (t.document w.disk))).said.printed =
          files.flatMap fun file => (t.alone out s w file).said.printed := by
  unfold lintAll
  rcases startAll_cases separate id with ⟨⟨file, failed, member, fails⟩, said, failed', same⟩ |
    ⟨said, started, same, related, printed⟩
  · rw [same]
    refine ⟨?_, nofun⟩
    refine (mapM_eq_none member ?_).symm
    rw [alone_eq, fails]
    rfl
  · rw [same]
    obtain ⟨came, filled⟩ := Session.resolveAll_of_apart separate.apart (references started)
      fun u => wants_of_references related
    refine ⟨?_, fun verdicts _ => printed⟩
    have each : forall {file : Path} {begun : Document × Document.Step}, file ∈ files -> begun ∈ started ->
        t.Started out w file begun ->
        (finish (Resolver.fresh.resolveAll s w (references started)).2.2.disk
          ((references started).zip (Resolver.fresh.resolveAll s w (references started)).1) begun).toOption =
            (t.alone out s w file).outcome.toOption := by
      rintro file ⟨d, step⟩ member inside ⟨said', begun⟩
      cases step with
      | ended v =>
        rw [alone_eq, begun]
        rfl
      | waiting v u =>
        have found := lookup_zip_map (fun u => Load.expected s u w) (mem_references inside)
        rw [(separate.alone_waiting member begun).1, came, toOption_mapError]
        unfold finish
        dsimp only
        rw [found, Option.getD_some, separate.schemas member ⟨said', begun⟩ filled]
    rw [← toOption_mapM related each]
    exact toOption_mapError _ _

end Task

end SchemaLint
