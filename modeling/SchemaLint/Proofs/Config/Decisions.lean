import SchemaLint.Proofs.Config.Chain

/-!
# What raw values decide

Settings are made exactly of values that are all taken.  A value that is not taken is a fault, and faults are told as an
error of the configuration; only an indentation that is a number beyond all measure ends in a crash.
-/

namespace SchemaLint

open Yaml (Value Entries)

namespace Settings

/-- A raw value has faults. -/
def Taken.IsRefused {α : Type} (t : Taken α) : Prop :=
  exists fs, t = .faults fs

/-- A raw value is not beyond all measure. -/
def Taken.IsCalm {α : Type} (t : Taken α) : Prop :=
  forall c, t ≠ .crash c

section Taken

variable {α : Type} {t : Taken α}

theorem Taken.value_or_refused (calm : t.IsCalm) : (exists a, t = .value a) ∨ t.IsRefused := by
  cases t with
  | value a => exact .inl ⟨a, rfl⟩
  | faults fs => exact .inr ⟨fs, rfl⟩
  | crash c => exact absurd rfl (calm c)

theorem Taken.not_isRefused_of_value {a : α} (taken : t = .value a) : ¬ t.IsRefused := by
  rintro ⟨fs, refused⟩
  cases taken.symm.trans refused

theorem Taken.isCalm_value (a : α) : (Taken.value a).IsCalm := by
  intro c isCrash
  cases isCrash

theorem Taken.isCalm_fault (place : List String) (problem : SettingProblem) :
    (Taken.fault place problem : Taken α).IsCalm := by
  intro c isCrash
  cases isCrash

end Taken

/-! ## Values that are taken calmly -/

theorem isCalm_takeText (name : String) (v : Value) : (takeText name v).IsCalm := by
  unfold takeText
  split
  · exact Taken.isCalm_value _
  · exact Taken.isCalm_fault _ _

theorem isCalm_takeTextOrNone (name : String) (v : Value) : (takeTextOrNone name v).IsCalm := by
  unfold takeTextOrNone
  split
  · exact Taken.isCalm_value _
  · split
    · exact Taken.isCalm_value _
    · exact Taken.isCalm_fault _ _

theorem isCalm_takeTexts (name : String) (v : Value) : (takeTexts name v).IsCalm := by
  unfold takeTexts
  split
  · exact Taken.isCalm_value _
  · split
    · exact Taken.isCalm_fault _ _
    · split
      · exact Taken.isCalm_value _
      · nofun

theorem isCalm_flagOfInt (name : String) (n : Int) : (flagOfInt name n).IsCalm := by
  unfold flagOfInt
  split
  · exact Taken.isCalm_fault _ _
  · split
    · exact Taken.isCalm_value _
    · split
      · exact Taken.isCalm_value _
      · exact Taken.isCalm_fault _ _

theorem isCalm_flagOfWord (name : String) (word : Text) : (flagOfWord name word).IsCalm := by
  unfold flagOfWord
  split
  · exact Taken.isCalm_fault _ _
  · split
    · exact Taken.isCalm_value _
    · exact Taken.isCalm_fault _ _

theorem isCalm_takeFlag (name : String) (v : Value) : (takeFlag name v).IsCalm := by
  unfold takeFlag
  split
  · exact Taken.isCalm_value _
  · exact isCalm_flagOfInt _ _
  · split
    · split
      · exact Taken.isCalm_fault _ _
      · exact isCalm_flagOfInt _ _
    · exact Taken.isCalm_fault _ _
  · exact isCalm_flagOfWord _ _
  · split
    · exact isCalm_flagOfWord _ _
    · exact Taken.isCalm_fault _ _
  · exact Taken.isCalm_fault _ _

/-- Why a number is no indentation: it has more than 64 bits, or asks for more spaces than there is room for. -/
inductive Boundless : Int -> Crash -> Prop
  | long {n : Int} (long : isLong n = false) : Boundless n .overflow
  | wide {n : Int} (long : isLong n = true) (wide : (roomLimit : Int) < n) : Boundless n .memory

theorem takeIndent_eq_crash_iff {name : String} {v : Value} {c : Crash} :
    takeIndent name v = .crash c <-> exists n, v = .int n ∧ Boundless n c := by
  constructor
  · intro crashed
    unfold takeIndent at crashed
    split at crashed
    next n =>
      refine ⟨n, rfl, ?_⟩
      split at crashed
      next notLong =>
        cases crashed
        exact .long (by simpa using notLong)
      next long =>
        split at crashed
        next wide =>
          cases crashed
          exact .wide (by simpa using long) wide
        next => cases crashed
    next => exact absurd crashed (isCalm_takeText _ _ c)
  · rintro ⟨n, rfl, notLong | ⟨long, wide⟩⟩
    · simp [takeIndent, notLong]
    · simp [takeIndent, long, wide]

/-- Whether a value for an indentation is no number beyond all measure. -/
def isBounded : Value -> Bool
  | .int n => isLong n && n <= roomLimit
  | _ => true

theorem isBounded_iff {n : Int} : isBounded (.int n) = true <-> forall c, ¬ Boundless n c := by
  rw [isBounded, Bool.and_eq_true, decide_eq_true_iff]
  constructor
  · rintro ⟨long, room⟩ c (notLong | ⟨-, wide⟩)
    · rw [long] at notLong
      cases notLong
    · exact absurd wide (Int.not_lt.mpr room)
  · intro bounded
    have long : isLong n = true := by
      cases long : isLong n with
      | false => exact absurd (.long long) (bounded .overflow)
      | true => rfl
    exact ⟨long, Int.not_lt.mp fun wide => bounded .memory (.wide long wide)⟩

/-! ## All settings together -/

/-- Explicit values win over those below, which say what they hold. -/
theorem get?_layered {below overrides : Entries} (keyed : below.IsKeyed) (name : String) :
    (layered [below, overrides]).get? name = (overrides.says? name).or (below.get? name) := by
  change ((Entries.update [] below).update overrides).get? name = _
  rw [Entries.get?_update_says?, Entries.get?_update_of_isKeyed keyed]
  exact congrArg _ Option.or_none

/-- What becomes of each setting. -/
structure Decisions where
  ignore : Taken (List Text)
  schema : Taken (Option Text)
  indent : Taken Text
  env : Taken Text
  quiet : Taken Bool
  pretty : Taken Bool
  sort : Taken Bool

namespace Decisions

/-- Every setting is decided, and these are the settings. -/
structure Make (t : Decisions) (s : Settings) : Prop where
  ignore : t.ignore = .value s.ignore
  schema : t.schema = .value s.schema
  indent : t.indent = .value s.indent
  env : t.env = .value s.env
  quiet : t.quiet = .value s.quiet
  pretty : t.pretty = .value s.pretty
  sort : t.sort = .value s.sort

/-- A value that decides a setting is not valid for it. -/
def Refuse (t : Decisions) : Prop :=
  t.ignore.IsRefused ∨ t.schema.IsRefused ∨ t.indent.IsRefused ∨ t.env.IsRefused ∨ t.quiet.IsRefused ∨
    t.pretty.IsRefused ∨ t.sort.IsRefused

/-- No setting but the indentation can be beyond all measure. -/
structure Tame (t : Decisions) : Prop where
  ignore : t.ignore.IsCalm
  schema : t.schema.IsCalm
  env : t.env.IsCalm
  quiet : t.quiet.IsCalm
  pretty : t.pretty.IsCalm
  sort : t.sort.IsCalm

variable {t : Decisions}

theorem not_refuse_of_make {s : Settings} (make : t.Make s) : ¬ t.Refuse := by
  rintro (refused | refused | refused | refused | refused | refused | refused)
  · exact Taken.not_isRefused_of_value make.ignore refused
  · exact Taken.not_isRefused_of_value make.schema refused
  · exact Taken.not_isRefused_of_value make.indent refused
  · exact Taken.not_isRefused_of_value make.env refused
  · exact Taken.not_isRefused_of_value make.quiet refused
  · exact Taken.not_isRefused_of_value make.pretty refused
  · exact Taken.not_isRefused_of_value make.sort refused

theorem Make.unique {s s' : Settings} (make : t.Make s) (make' : t.Make s') : s = s' := by
  obtain ⟨ignore, schema, indent, env, quiet, pretty, sort⟩ := s
  obtain ⟨ignore', schema', indent', env', quiet', pretty', sort'⟩ := s'
  cases make.ignore.symm.trans make'.ignore
  cases make.schema.symm.trans make'.schema
  cases make.indent.symm.trans make'.indent
  cases make.env.symm.trans make'.env
  cases make.quiet.symm.trans make'.quiet
  cases make.pretty.symm.trans make'.pretty
  cases make.sort.symm.trans make'.sort
  rfl

theorem make_or_refuse (tame : t.Tame) (calm : t.indent.IsCalm) : (exists s, t.Make s) ∨ t.Refuse := by
  rcases Taken.value_or_refused tame.ignore with ⟨ignore, isIgnore⟩ | refused
  swap
  · exact .inr (.inl refused)
  rcases Taken.value_or_refused tame.schema with ⟨schema, isSchema⟩ | refused
  swap
  · exact .inr (.inr (.inl refused))
  rcases Taken.value_or_refused calm with ⟨indent, isIndent⟩ | refused
  swap
  · exact .inr (.inr (.inr (.inl refused)))
  rcases Taken.value_or_refused tame.env with ⟨env, isEnv⟩ | refused
  swap
  · exact .inr (.inr (.inr (.inr (.inl refused))))
  rcases Taken.value_or_refused tame.quiet with ⟨quiet, isQuiet⟩ | refused
  swap
  · exact .inr (.inr (.inr (.inr (.inr (.inl refused)))))
  rcases Taken.value_or_refused tame.pretty with ⟨pretty, isPretty⟩ | refused
  swap
  · exact .inr (.inr (.inr (.inr (.inr (.inr (.inl refused))))))
  rcases Taken.value_or_refused tame.sort with ⟨sort, isSort⟩ | refused
  swap
  · exact .inr (.inr (.inr (.inr (.inr (.inr (.inr refused))))))
  exact .inl ⟨⟨ignore, schema, indent, env, quiet, pretty, sort⟩,
    ⟨isIgnore, isSchema, isIndent, isEnv, isQuiet, isPretty, isSort⟩⟩

end Decisions

/-- The decisions of raw values. -/
def decisionsOf (raw : Entries) : Decisions :=
  { ignore := takeFrom raw "ignore" defaults.ignore takeTexts
    schema := takeSchema raw
    indent := takeFrom raw "indent" defaults.indent takeIndent
    env := takeFrom raw "env" defaults.env takeText
    quiet := takeFrom raw "quiet" defaults.quiet takeFlag
    pretty := takeFrom raw "pretty" defaults.pretty takeFlag
    sort := takeFrom raw "sort" defaults.sort takeFlag }

theorem isCalm_takeFrom {α : Type} {raw : Entries} {name : String} {fallback : α} {take : String -> Value -> Taken α}
    (calm : forall v, (take name v).IsCalm) : (takeFrom raw name fallback take).IsCalm := by
  unfold takeFrom
  split
  · exact calm _
  · exact Taken.isCalm_value _

theorem tame_decisionsOf (raw : Entries) : (decisionsOf raw).Tame where
  ignore := isCalm_takeFrom (isCalm_takeTexts _)
  schema := by
    change (takeSchema raw).IsCalm
    unfold takeSchema
    split
    · exact isCalm_takeTextOrNone _ _
    · exact isCalm_takeFrom (isCalm_takeTextOrNone _)
  env := isCalm_takeFrom (isCalm_takeText _)
  quiet := isCalm_takeFrom (isCalm_takeFlag _)
  pretty := isCalm_takeFrom (isCalm_takeFlag _)
  sort := isCalm_takeFrom (isCalm_takeFlag _)

/-- How making settings ends: with the settings, in a crash because of the indentation, or with the faults. -/
inductive Ends (t : Decisions) : Except Failed Settings -> Prop
  | made {s : Settings} (make : t.Make s) : Ends t (.ok s)
  | boundless {c : Crash} (indent : t.indent = .crash c) : Ends t (.error (.crash c))
  | refused {e : LintError} (refuse : t.Refuse) (calm : t.indent.IsCalm) (kind : e.kind = .config) :
    Ends t (.error (.error e))

theorem ends_ofRaw (raw : Entries) : Ends (decisionsOf raw) (ofRaw raw) := by
  unfold ofRaw
  dsimp only
  split
  next c isIndent => exact .boundless isIndent
  next calm =>
    split
    next isIgnore isSchema isIndent isEnv isQuiet isPretty isSort =>
      exact .made ⟨isIgnore, isSchema, isIndent, isEnv, isQuiet, isPretty, isSort⟩
    next unmade =>
      rcases Decisions.make_or_refuse (tame_decisionsOf raw) calm with ⟨s, make⟩ | refuse
      · exact absurd make.sort (unmade _ _ _ _ _ _ _ make.ignore make.schema make.indent make.env make.quiet make.pretty)
      · exact .refused refuse calm rfl

section Ends

variable {t : Decisions} {r : Except Failed Settings}

theorem Ends.eq_ok_iff (ends : Ends t r) {s : Settings} : r = .ok s <-> t.Make s := by
  constructor
  · rintro rfl
    cases ends with
    | made make => exact make
  · intro make
    cases ends with
    | made make' =>
      rw [make.unique make']
    | boundless crash => cases crash.symm.trans make.indent
    | refused refuse _ _ => exact absurd refuse (Decisions.not_refuse_of_make make)

theorem Ends.eq_crash_iff (ends : Ends t r) {c : Crash} : r = .error (.crash c) <-> t.indent = .crash c := by
  constructor
  · rintro rfl
    cases ends with
    | boundless indent => exact indent
  · intro indent
    cases ends with
    | made make => cases indent.symm.trans make.indent
    | boundless indent' =>
      cases indent.symm.trans indent'
      rfl
    | refused _ calm _ => exact absurd indent (calm c)

theorem Ends.eq_error_iff (ends : Ends t r) :
    (exists e, r = .error (.error e) ∧ e.kind = .config) <-> t.Refuse ∧ t.indent.IsCalm := by
  constructor
  · rintro ⟨e, rfl, _⟩
    cases ends with
    | refused refuse calm _ => exact ⟨refuse, calm⟩
  · rintro ⟨refuse, calm⟩
    cases ends with
    | made make => exact absurd refuse (Decisions.not_refuse_of_make make)
    | boundless indent => exact absurd indent (calm _)
    | refused _ _ kind => exact ⟨_, rfl, kind⟩

theorem Ends.make_or_refuse (ends : Ends t r) (calm : t.indent.IsCalm) : (exists s, t.Make s) ∨ t.Refuse := by
  cases ends with
  | made make => exact .inl ⟨_, make⟩
  | boundless indent => exact absurd indent (calm _)
  | refused refuse _ _ => exact .inr refuse

end Ends

end Settings

end SchemaLint
