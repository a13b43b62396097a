import Mathlib.Algebra.BigOperators.Group.List.Basic
import Mathlib.Algebra.GroupWithZero.Nat
import SchemaLint.Lint.Pool
import SchemaLint.Proofs.Lint.Independent
import SchemaLint.Proofs.Lists

/-!
# How long linting takes

Every event either changes nothing or leaves less to be done.  Where no event changes anything any more, all files are
linted.  So linting ends in whatever order things happen, as long as something happens while something can.
-/

namespace SchemaLint

open Json (Value)

/-- A bound on what is left to be done about a load. -/
def Resolver.Flight.left (f : Flight) : Nat :=
  f.load.left + f.due.length

/-- A bound on what is left to be done about all loads. -/
def Resolver.left (r : Resolver) : Nat :=
  (r.flights.map Flight.left).sum

/-- A bound on what is left to be done about a file, its load being counted until it is begun. -/
def Pipeline.left : Pipeline -> Nat
  | reading bytes settings => 11 + bytes.elim 1 (fun _ => 0) + settings.elim 1 fun _ => 0
  | waiting _ _ _ _ => 1
  | ended _ => 0

namespace Pipeline

theorem left_read (bytes : Except Failed Bytes) (settings : Option (Except Failed Settings)) :
    (reading (some bytes) settings).left < (reading none settings).left := by
  simp [left]

theorem left_configure (bytes : Option (Except Failed Bytes)) (settings : Except Failed Settings) :
    (reading bytes (some settings)).left < (reading bytes none).left := by
  simp [left]

theorem left_finish (d : Document) (v : Value) (u : String) (call : Nat) (outcome : Except Failed Verdict) :
    (ended outcome).left < (waiting d v u call).left :=
  Nat.zero_lt_one

theorem left_ended_lt (bytes : Option (Except Failed Bytes)) (settings : Option (Except Failed Settings))
    (outcome : Except Failed Verdict) : (ended outcome).left < (reading bytes settings).left := by
  simp only [left]
  omega

end Pipeline

/-- A bound on the number of events that can still change something. -/
def Pool.left (p : Pool) : Nat :=
  (p.pipelines.map fun entry => entry.2.left).sum + p.resolver.left

/-- What one member of a list adds to a sum is exchanged. -/
theorem sum_map_set {α : Type} (f : α -> Nat) {l : List α} {n : Nat} {x : α} (found : l[n]? = some x) (y : α) :
    ((l.set n y).map f).sum + f x = (l.map f).sum + f y := by
  induction l generalizing n with
  | nil => cases found
  | cons z rest ih =>
    cases n with
    | zero =>
      cases found
      simp only [List.set_cons_zero, List.map_cons, List.sum_cons]
      omega
    | succ n =>
      have later := ih found
      simp only [List.set_cons_succ, List.map_cons, List.sum_cons]
      omega

namespace Resolver

variable {r : Resolver} {i : Nat} {f : Flight}

/-- A load comes to another state. -/
theorem left_set (found : r.flights[i]? = some f) (g : Flight) :
    ({ r with flights := r.flights.set i g } : Resolver).left + f.left = r.left + g.left :=
  sum_map_set Flight.left found g

/-- To call is to wait for a load, and it may be a new one. -/
theorem left_call (r : Resolver) (u : String) : (r.call u).left <= r.left + 9 := by
  rcases r.call_cases u with ⟨v, -, next⟩ | ⟨-, n, f, -, found, next⟩ | ⟨-, -, next⟩
  · rw [next]
    exact Nat.le_add_right _ _
  · rcases r.join_cases u n f with ⟨outcome, -, joined⟩ | ⟨-, joined⟩
    · rw [next, joined]
      exact Nat.le_add_right _ _
    · rw [next, joined]
      have more := left_set found { f with due := f.due ++ [.wake r.calls.length] }
      simp only [Flight.left, List.length_append, List.length_singleton] at more
      change ({ r with flights := _ } : Resolver).left <= _
      omega
  · rw [next]
    unfold depart left
    rw [List.map_append, List.sum_append]
    exact Nat.le_refl _

theorem left_refuse (w : World) (load : Load) : load.refuse w = (load, w) ∨ (load.refuse w).1.left < load.left := by
  cases load with
  | begun => exact Or.inl rfl
  | asking => exact Or.inl rfl
  | storing schema body writing => exact Or.inr (Nat.succ_pos _)
  | ended outcome => exact Or.inl rfl

/-- A turn of a load that does not leave less of it changes nothing. -/
theorem left_progress (w : World) (n : Nat) {step : String -> Load -> Load × World}
    (fewer : forall u load, step u load = (load, w) ∨ (step u load).1.left < load.left) :
    r.progress w n step = (r, w) ∨ (r.progress w n step).1.left < r.left := by
  unfold progress
  cases found : r.flights[n]? with
  | none => exact Or.inl rfl
  | some f =>
    rcases fewer f.reference f.load with same | less
    · left
      simp only [same, set_same found]
    · right
      have exchanged := left_set found { f with load := (step f.reference f.load).1 }
      simp only [Flight.left] at exchanged
      simp only
      omega

theorem step_or_left (s : Sources) (w : World) (u : String) (load : Load) :
    load.step s u w = (load, w) ∨ (load.step s u w).1.left < load.left := by
  by_cases finished : load.left = 0
  · obtain ⟨outcome, rfl⟩ := Load.eq_ended_of_left finished
    exact Or.inl rfl
  · have fewer := Load.left_step s u w load
    right
    omega

theorem left_settle (r : Resolver) (u : String) (outcome : Except Failed Value) : (r.settle u outcome).left = r.left := by
  rfl

theorem left_answer (r : Resolver) (n : Nat) (outcome : Except Failed Value) : (r.answer n outcome).left = r.left := by
  rfl

/-- What is done that was due leaves less. -/
theorem left_callback (r : Resolver) (n : Nat) :
    (r.callback n = r ∧ forall f outcome, r.flights[n]? = some f -> f.outcome? = some outcome -> f.due = []) ∨
      (r.callback n).left < r.left := by
  rcases r.callback_cases n with same | ⟨f, outcome, due, found, -, ⟨isDue, next⟩ | ⟨k, isDue, next⟩⟩
  · exact Or.inl same
  · right
    have exchanged := left_set found { f with due }
    simp only [Flight.left, isDue, List.length_cons] at exchanged
    rw [next, left_settle]
    omega
  · right
    have exchanged := left_set found { f with due }
    simp only [Flight.left, isDue, List.length_cons] at exchanged
    rw [next, left_answer]
    omega

/-- A turn that changes nothing leaves no less. -/
theorem left_act (s : Sources) (w : World) {action : Action} (noCall : forall u, action ≠ .call u) :
    r.act s w action = (r, w) ∨ (r.act s w action).1.left < r.left := by
  cases action with
  | call u => exact absurd rfl (noCall u)
  | advance n => exact left_progress w n (step_or_left s w)
  | refuse n => exact left_progress w n fun _ => left_refuse w
  | callback n =>
    rcases r.left_callback n with ⟨same, -⟩ | less
    · exact Or.inl (congrArg (fun r => (r, w)) same)
    · exact Or.inr less

/-- If no load can take a turn that changes anything, nothing is left to be done about any. -/
theorem isDone_of_still {s : Sources} {w : World} (advance : forall n, (r.act s w (.advance n)).1 = r)
    (callback : forall n, r.callback n = r) : r.IsDone := by
  intro i f found
  have finished : f.load.left = 0 := by
    have still := congrArg (fun r => r.flights[i]?) (advance i)
    have moved : (r.act s w (.advance i)).1.flights[i]? = some { f with load := (f.load.step s f.reference w).1 } := by
      change (r.progress w i _).1.flights[i]? = _
      unfold progress
      rw [found]
      exact found_set found _
    have same : (f.load.step s f.reference w).1 = f.load := by
      have equal := Option.some.inj (moved.symm.trans (still.trans found))
      exact congrArg Flight.load equal
    have fewer := Load.left_step s f.reference w f.load
    rw [same] at fewer
    omega
  obtain ⟨outcome, ended⟩ := Load.eq_ended_of_left finished
  have isOver : f.outcome? = some outcome := Flight.outcome?_eq_some_iff.mpr ended
  refine ⟨⟨outcome, isOver⟩, ?_⟩
  rcases r.left_callback i with ⟨-, nothing⟩ | less
  · exact nothing f outcome found isOver
  · rw [callback i] at less
    exact absurd less (Nat.lt_irrefl _)

end Resolver

namespace Pool

variable {t : Task} {out : Output} {s : Sources} {w : World} {files : List Path} {p p' : Pool} {number : Nat}
  {file : Path} {old : Pipeline}

theorem left_move (found : p.pipelines[number]? = some (file, old)) (new : Pipeline) :
    (p.move number file new).left + old.left = p.left + new.left := by
  have exchanged := sum_map_set (fun entry : Path × Pipeline => entry.2.left) found (file, new)
  unfold left move
  simp only at exchanged ⊢
  omega

theorem left_move_lt (found : p.pipelines[number]? = some (file, old)) (new : Pipeline)
    (less : new.left < old.left) :
    (p.move number file new).left < p.left := by
  have exchanged := left_move found new
  omega

/-- To start a document leaves less, even if a load is begun for it. -/
theorem left_begin (out : Output) {bytes : Option (Except Failed Bytes)} {settings : Option (Except Failed Settings)}
    (found : p.pipelines[number]? = some (file, .reading bytes settings)) (document : Except Failed Document) :
    (p.begin out number file document).left < p.left := by
  unfold begin
  cases Task.start out document with
  | error failed => exact left_move_lt found _ (Pipeline.left_ended_lt bytes settings _)
  | ok started =>
    obtain ⟨said, d, step⟩ := started
    cases step with
    | ended v => exact left_move_lt found (.ended (.ok v)) (Pipeline.left_ended_lt bytes settings _)
    | waiting v u =>
      have exchanged := left_move found (.waiting d v u p.resolver.calls.length)
      have called := p.resolver.left_call u
      simp only [Pipeline.left] at exchanged
      unfold left at exchanged ⊢
      simp only [move] at exchanged ⊢
      omega

/-- Whatever is done about a file leaves less, or it changes nothing. -/
theorem Handled.left (ways : Handled t out p number file old p') (found : p.pipelines[number]? = some (file, old)) :
    p' = p ∨ p'.left < p.left := by
  cases ways with
  | nothing => exact Or.inl rfl
  | read settings => exact Or.inr (left_move_lt found _ (Pipeline.left_read _ settings))
  | configure bytes => exact Or.inr (left_move_lt found _ (Pipeline.left_configure bytes _))
  | start bytes settings document ready => exact Or.inr (left_begin out found document)
  | finish d v u call schema answered => exact Or.inr (left_move_lt found _ (Pipeline.left_finish d v u call _))

theorem left_serve (s : Sources) (p : Pool) {action : Resolver.Action} (noCall : forall u, action ≠ .call u) :
    p.serve s action = p ∨ (p.serve s action).left < p.left := by
  rcases Resolver.left_act (r := p.resolver) s p.world noCall with same | less
  · left
    unfold serve
    rw [same]
  · right
    exact Nat.add_lt_add_left less _

/-- Every event leaves less to be done, or it changes nothing. -/
theorem left_take (t : Task) (out : Output) (s : Sources) (p : Pool) (event : Event) :
    p.take t out s event = p ∨ (p.take t out s event).left < p.left := by
  cases event with
  | handle number deed =>
    unfold take
    dsimp only
    cases found : p.pipelines[number]? with
    | none => exact Or.inl rfl
    | some entry => exact (handled t out p number entry.1 entry.2 deed).left found
  | advance flight => exact left_serve s p (by simp)
  | refuse flight => exact left_serve s p (by simp)
  | callback flight => exact left_serve s p (by simp)

/-- Where no event changes anything, all files are linted. -/
theorem Independent.isOver_of_still (independent : Independent t out s w files p)
    (still : forall event, p.take t out s event = p) : p.isOver = true := by
  have done : p.resolver.IsDone :=
    Resolver.isDone_of_still (s := s) (w := p.world) (fun n => congrArg Pool.resolver (still (.advance n)))
      fun n => congrArg Pool.resolver (still (.callback n))
  refine List.all_eq_true.mpr ?_
  rintro ⟨file, pipeline⟩ member
  obtain ⟨number, found⟩ := List.getElem?_of_mem member
  have unhandled : forall deed, p.handle t out number file pipeline deed = p := by
    intro deed
    have same := still (.handle number deed)
    rw [Pool.take, found] at same
    exact same
  cases pipeline with
  | ended outcome => rfl
  | reading bytes settings =>
    exfalso
    cases bytes with
    | none =>
      have less := left_move_lt found (.reading (some (Task.bytesOf p.world.disk file)) settings)
        (Pipeline.left_read _ settings)
      exact absurd (congrArg Pool.left (unhandled .read)) (Nat.ne_of_lt less)
    | some bytes =>
      cases settings with
      | none =>
        have less := left_move_lt found (.reading (some bytes) (some (t.settingsOf p.world.disk file)))
          (Pipeline.left_configure _ _)
        exact absurd (congrArg Pool.left (unhandled .configure)) (Nat.ne_of_lt less)
      | some settings =>
        obtain ⟨document, ready⟩ : exists document, ready? p.world.disk file (some bytes) (some settings) = some document := by
          cases bytes with
          | error failed => exact ⟨_, rfl⟩
          | ok bytes =>
            cases settings with
            | error failed => exact ⟨_, rfl⟩
            | ok settings => exact ⟨_, rfl⟩
        have less := left_begin out found document
        have same := unhandled .start
        rw [Pool.handle, ready] at same
        exact absurd (congrArg Pool.left same) (Nat.ne_of_lt less)
  | waiting d v u call =>
    exfalso
    cases independent.faithful member with
    | waiting waits called =>
      rw [List.getElem?_map] at called
      obtain ⟨c, there, -⟩ : exists c, p.resolver.calls[call]? = some c ∧ c.reference = u :=
        Option.map_eq_some_iff.mp called
      obtain ⟨outcome, answered⟩ := independent.sound.answered done (List.mem_of_getElem? there)
      have less := left_move_lt found (.ended ((d.finish p.world.disk v u outcome).mapError .crash))
        (Pipeline.left_finish d v u call _)
      have same := unhandled .finish
      rw [Pool.handle, there, Option.bind_some, answered] at same
      exact absurd (congrArg Pool.left same) (Nat.ne_of_lt less)

end Pool

end SchemaLint
