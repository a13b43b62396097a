import SchemaLint.Proofs.Results

/-!
# Results and what their crashes are due to

A computation ends with a result, with an error of the linter, or in a crash.  To classify it is to say which errors it
can end with, and exactly what its crashes are due to, which follows from what the crashes of its parts are due to.
-/

namespace SchemaLint

/-- The crash that a result is, if it is one. -/
def crashOf? {α : Type} : Except Failed α -> Option Crash
  | .error (.crash c) => some c
  | _ => none

/-- A result of which every error is an orderly one, and which is a crash exactly where there is trouble. -/
structure Classified {α : Type} (orderly : LintError -> Prop) (trouble : Crash -> Prop) (r : Except Failed α) : Prop where
  orderly : forall e, r = .error (.error e) -> orderly e
  crash : forall c, r = .error (.crash c) <-> trouble c

namespace Classified

variable {α β : Type} {orderly : LintError -> Prop} {trouble trouble' : Crash -> Prop} {r : Except Failed α}

theorem congr (classified : Classified orderly trouble r) (same : forall c, trouble c <-> trouble' c) :
    Classified orderly trouble' r where
  orderly := classified.orderly
  crash := fun c => (classified.crash c).trans (same c)

theorem ok (a : α) : Classified orderly (fun _ => False) (.ok a : Except Failed α) where
  orderly := nofun
  crash := fun _ => ⟨nofun, False.elim⟩

theorem refusal {e : LintError} (isOrderly : orderly e) :
    Classified orderly (fun _ => False) (.error (.error e) : Except Failed α) where
  orderly := by
    intro e' same
    cases same
    exact isOrderly
  crash := fun _ => ⟨nofun, False.elim⟩

theorem crashed (c : Crash) : Classified orderly (fun c' => c = c') (.error (.crash c) : Except Failed α) where
  orderly := nofun
  crash := fun c' => by simp

/-- The trouble of a step, or of what comes after it. -/
theorem bind {f : α -> Except Failed β} {later : α -> Crash -> Prop} (first : Classified orderly trouble r)
    (next : forall a, r = .ok a -> Classified orderly (later a) (f a)) :
    Classified orderly (fun c => trouble c ∨ exists a, r = .ok a ∧ later a c) (r >>= f) where
  orderly := by
    intro e failed
    rcases bind_eq_error_iff.mp failed with failed | ⟨a, done, failed⟩
    · exact first.orderly e failed
    · exact (next a done).orderly e failed
  crash := by
    intro c
    rw [bind_eq_error_iff, first.crash c]
    refine or_congr_right (exists_congr fun a => and_congr_right fun done => ?_)
    exact (next a done).crash c

theorem map {f : α -> β} (classified : Classified orderly trouble r) : Classified orderly trouble (r.map f) where
  orderly := by
    cases r with
    | error failed =>
      intro e same
      cases same
      exact classified.orderly e rfl
    | ok a => nofun
  crash := by
    intro c
    rw [← classified.crash c]
    cases r <;> simp [Except.map]

/-- The trouble of the first step that fails. -/
theorem mapM {f : α -> Except Failed β} {each : α -> Crash -> Prop} {xs : List α}
    (steps : forall x, x ∈ xs -> Classified orderly (each x) (f x)) :
    Classified orderly (fun c => exists before x after, xs = before ++ x :: after ∧
      (forall y, y ∈ before -> exists b, f y = .ok b) ∧ each x c) (xs.mapM f) where
  orderly := by
    intro e failed
    obtain ⟨before, x, after, rfl, -, failed⟩ := mapM_eq_error_iff.mp failed
    exact (steps x (List.mem_append_right _ (List.mem_cons_self ..))).orderly e failed
  crash := by
    intro c
    rw [mapM_eq_error_iff]
    refine exists_congr fun before => exists_congr fun x => exists_congr fun after => ?_
    refine and_congr_right fun parts => and_congr_right fun _ => ?_
    exact (steps x (parts ▸ List.mem_append_right _ (List.mem_cons_self ..))).crash c

end Classified

end SchemaLint
