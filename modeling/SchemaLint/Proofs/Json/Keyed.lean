import SchemaLint.Proofs.Json.Grammar
import SchemaLint.Proofs.Json.Sorted

/-!
# What is read has no repeated keys

The reader keeps one member for each key, in every object that it closes.
-/

namespace SchemaLint

namespace Json

open Value (IsKeyed)

namespace Members

variable {ms : Members}

theorem mem_keys_put {key other : Text} {value : Value} : other ∈ keys (put key value ms) <-> other = key ∨ other ∈ keys ms := by
  induction ms with
  | nil => simp [put, keys]
  | cons m rest ih =>
    obtain ⟨k, v⟩ := m
    unfold keys at ih ⊢
    rw [put]
    split
    next same =>
      subst same
      simp
    next => simp [ih, or_left_comm]

theorem nodup_put (key : Text) (value : Value) (distinct : (keys ms).Nodup) : (keys (put key value ms)).Nodup := by
  induction ms with
  | nil => simp [put, keys]
  | cons m rest ih =>
    obtain ⟨k, v⟩ := m
    obtain ⟨fresh, others⟩ := List.nodup_cons.mp distinct
    rw [put]
    split
    next => exact distinct
    next differ =>
      refine List.nodup_cons.mpr ⟨fun member => ?_, ih others⟩
      rcases mem_keys_put.mp member with same | old
      · exact differ same
      · exact fresh old

theorem mem_of_mem_put {key : Text} {value : Value} {m : Text × Value} (member : m ∈ put key value ms) :
    m.2 = value ∨ m ∈ ms := by
  induction ms with
  | nil =>
    cases List.mem_singleton.mp member
    exact Or.inl rfl
  | cons n rest ih =>
    obtain ⟨k, v⟩ := n
    rw [put] at member
    split at member
    next =>
      rcases List.mem_cons.mp member with rfl | later
      · exact Or.inl rfl
      · exact Or.inr (List.mem_cons_of_mem _ later)
    next =>
      rcases List.mem_cons.mp member with rfl | later
      · exact Or.inr (List.mem_cons_self ..)
      · exact (ih later).imp_right (List.mem_cons_of_mem _)

/-- Pairs that are written one after the other make an object without repeated keys. -/
theorem isKeyed_ofPairs {pairs : List (Text × Value)} (each : forall p, p ∈ pairs -> p.2.IsKeyed) :
    IsKeyed (.object (ofPairs pairs)) := by
  have onto : forall ms : Members, IsKeyed (.object ms) ->
      IsKeyed (.object (pairs.foldl (fun members pair => put pair.1 pair.2 members) ms)) := by
    induction pairs with
    | nil => exact fun _ => id
    | cons p rest ih =>
      intro ms keyed
      refine ih (fun q inside => each q (List.mem_cons_of_mem _ inside)) _ (.object _ (nodup_put _ _ keyed.distinct) ?_)
      intro m member
      rcases mem_of_mem_put member with same | old
      · rw [same]
        exact each p (List.mem_cons_self ..)
      · exact keyed.member old
  exact onto [] (.object [] List.nodup_nil nofun)

end Members

namespace Reader

/-- What an open array or object holds so far has no repeated keys inside. -/
def Frame.IsKeyed : Frame -> Prop
  | .array items => forall v, v ∈ items -> v.IsKeyed
  | .object pairs _ => forall p, p ∈ pairs -> p.2.IsKeyed

/-- Everything that was read so far has no repeated keys. -/
def State.IsKeyed : State -> Prop
  | .value stack | .firstItem stack | .firstName stack => forall f, f ∈ stack -> f.IsKeyed
  | .afterItem items stack => (forall v, v ∈ items -> v.IsKeyed) ∧ forall f, f ∈ stack -> f.IsKeyed
  | .name pairs stack | .colon pairs _ stack | .afterMember pairs stack =>
    (forall p, p ∈ pairs -> p.2.IsKeyed) ∧ forall f, f ∈ stack -> f.IsKeyed
  | .done v => v.IsKeyed

variable {policy : Policy} {stack : List Frame} {state state' : State}

theorem isKeyed_complete {v : Value} (keyed : v.IsKeyed) (frames : forall f, f ∈ stack -> f.IsKeyed) :
    (complete v stack).IsKeyed := by
  cases stack with
  | nil => exact keyed
  | cons f rest =>
    have first := frames f (List.mem_cons_self ..)
    have others : forall f, f ∈ rest -> f.IsKeyed := fun g inside => frames g (List.mem_cons_of_mem _ inside)
    cases f with
    | array items => exact ⟨List.forall_mem_cons.mpr ⟨keyed, first⟩, others⟩
    | object pairs key => exact ⟨List.forall_mem_cons.mpr ⟨keyed, first⟩, others⟩

theorem IsValue.isKeyed {token : Token} {v : Value} (isValue : IsValue policy token v) : v.IsKeyed := by
  cases isValue with
  | null => exact .null
  | bool b => exact .bool b
  | string s => exact .string s
  | constant c lenient => exact .float _
  | number given =>
    unfold numberValue at given
    split at given
    · split at given <;> cases given
      exact .int _
    · cases given
      exact .float _

theorem Begins.isKeyed {token : Token} (begins : Begins policy stack token state)
    (frames : forall f, f ∈ stack -> f.IsKeyed) : state.IsKeyed := by
  cases begins with
  | value isValue => exact isKeyed_complete isValue.isKeyed frames
  | openArray room => exact frames
  | openObject room => exact frames

/-- A token does not bring in repeated keys. -/
theorem Takes.isKeyed {token : Token} (takes : Takes policy state token state') (keyed : state.IsKeyed) :
    state'.IsKeyed := by
  have empty : Frame.IsKeyed (.array []) := fun v inside => absurd inside List.not_mem_nil
  cases takes with
  | value begins => exact begins.isKeyed keyed
  | firstItem begins => exact begins.isKeyed (List.forall_mem_cons.mpr ⟨empty, keyed⟩)
  | emptyArray stack => exact isKeyed_complete (.array [] nofun) keyed
  | nextItem items stack => exact List.forall_mem_cons.mpr ⟨keyed.1, keyed.2⟩
  | lastItem items stack =>
    exact isKeyed_complete (.array _ fun v inside => keyed.1 v (List.mem_reverse.mp inside)) keyed.2
  | emptyObject stack => exact isKeyed_complete (.object [] List.nodup_nil nofun) keyed
  | firstName stack s => exact ⟨fun p inside => absurd inside List.not_mem_nil, keyed⟩
  | name pairs stack s => exact keyed
  | colon pairs key stack => exact List.forall_mem_cons.mpr ⟨keyed.1, keyed.2⟩
  | nextMember pairs stack => exact keyed
  | lastMember pairs stack =>
    exact isKeyed_complete (Members.isKeyed_ofPairs fun p inside => keyed.1 p (List.mem_reverse.mp inside)) keyed.2
  | stop v => exact keyed

theorem isKeyed_run {tokens : List Placed} (keyed : state.IsKeyed) (ended : run policy state tokens = .ok state') :
    state'.IsKeyed := by
  induction tokens generalizing state with
  | nil =>
    cases ended
    exact keyed
  | cons p rest ih =>
    obtain ⟨between, next, later⟩ := run_cons ended
    exact ih ((takes_of_step next).isKeyed keyed) later

end Reader

/-- What is read has no repeated keys. -/
theorem isKeyed_of_read {policy : Policy} {t : Text} {v : Value} (accepted : read policy t = .ok v) : v.IsKeyed := by
  unfold read at accepted
  split at accepted
  · cases accepted
  · obtain ⟨state, ended, done⟩ := bind_eq_ok_iff.mp (mapError_eq_ok_iff.mp accepted)
    have start : Reader.State.IsKeyed (.value []) := fun f inside => absurd inside List.not_mem_nil
    have keyed : state.IsKeyed := Reader.isKeyed_run start ended
    cases state with
    | done w =>
      cases done
      exact keyed
    | _ => cases done

end Json

end SchemaLint
