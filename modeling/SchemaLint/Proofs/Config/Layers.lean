import SchemaLint.Config.Discovery
import SchemaLint.Proofs.Results

/-!
# Settings of different layers

What a layer leaves open is for the layers below it to say.  So explicit settings that differ in a few names make settings
that differ in these names at most.
-/

namespace SchemaLint

namespace Yaml

/-- A key is the same as a text only if it is that text. -/
theorem Value.sameKey_string {v : Value} {t : Text} : v.sameKey (.string t) = true <-> v = .string t := by
  cases v <;> simp [Value.sameKey, Value.rank?]

/-- A text is the same as a key only if the key is that text. -/
theorem Value.string_sameKey {v : Value} {t : Text} : (Value.string t).sameKey v = true <-> v = .string t := by
  cases v <;> simp [Value.sameKey, Value.rank?, eq_comm]

namespace Entries

theorem get?_put (key value : Value) (entries : Entries) (name : String) :
    (entries.put key value).get? name =
      if key.sameKey (.string (Text.ofString name)) then some value else entries.get? name := by
  induction entries with
  | nil => rfl
  | cons entry rest ih =>
    obtain ⟨k, v⟩ := entry
    rw [put]
    by_cases same : k.sameKey key = true
    · -- Here the value is exchanged: the old key stands for a name just if the new one does.
      rw [if_pos same, get?, get?]
      by_cases named : k.sameKey (.string (Text.ofString name)) = true
      · cases Value.sameKey_string.mp named
        rw [Value.string_sameKey.mp same]
        simp only [named, if_true]
      · have other : ¬ key.sameKey (.string (Text.ofString name)) = true := by
          intro named'
          cases Value.sameKey_string.mp named'
          exact named same
        rw [if_neg named, if_neg other, if_neg named]
    · rw [if_neg same, get?, get?, ih]
      by_cases named : k.sameKey (.string (Text.ofString name)) = true
      · have other : ¬ key.sameKey (.string (Text.ofString name)) = true := by
          intro named'
          cases Value.sameKey_string.mp named'
          exact same named
        rw [if_pos named, if_neg other, if_pos named]
      · rw [if_neg named, if_neg named]

/-- Later entries win, and what they leave open the earlier ones say. -/
theorem get?_update (entries later : Entries) (name : String) :
    (entries.update later).get? name = (get? name (update [] later)).or (entries.get? name) := by
  induction later generalizing entries with
  | nil => rfl
  | cons entry rest ih =>
    change (update (put entry.1 entry.2 entries) rest).get? name =
      (get? name (update (put entry.1 entry.2 []) rest)).or (entries.get? name)
    rw [ih, ih (put entry.1 entry.2 []), get?_put, get?_put, Option.or_assoc]
    split <;> rfl

/-- Entries that say the same, once they are written one after the other, of all names but some. -/
def AgreeBut (names : List String) (a b : Entries) : Prop :=
  forall name, name ∉ names -> get? name (update [] a) = get? name (update [] b)

end Entries

end Yaml

open Yaml (Entries)

namespace Settings

/-- The settings that say what is printed. -/
def outputNames : List String :=
  ["quiet", "pretty", "indent"]

/-- Settings that differ in what is printed at most. -/
structure Akin (a b : Settings) : Prop where
  ignore : a.ignore = b.ignore
  schema : a.schema = b.schema
  env : a.env = b.env
  sort : a.sort = b.sort

/-- Which raw values a setting is made of. -/
structure Taking (raw : Entries) (a : Settings) : Prop where
  ignore : takeFrom raw "ignore" defaults.ignore takeTexts = .value a.ignore
  schema : takeSchema raw = .value a.schema
  env : takeFrom raw "env" defaults.env takeText = .value a.env
  sort : takeFrom raw "sort" defaults.sort takeFlag = .value a.sort

theorem taking_of_ofRaw {raw : Entries} {a : Settings} (made : ofRaw raw = .ok a) : Taking raw a := by
  unfold ofRaw at made
  dsimp only at made
  split at made
  · cases made
  · split at made
    next ignore schema indent env quiet pretty sort isIgnore isSchema isIndent isEnv isQuiet isPretty isSort =>
      cases made
      exact ⟨isIgnore, isSchema, isEnv, isSort⟩
    next => cases made

theorem takeFrom_congr {α : Type} {raw raw' : Entries} {name : String} (same : raw.get? name = raw'.get? name)
    (fallback : α) (take : String -> Yaml.Value -> Taken α) :
    takeFrom raw name fallback take = takeFrom raw' name fallback take := by
  unfold takeFrom
  rw [same]

/-- Raw values that agree on all names but those of the output make settings that are akin. -/
theorem akin_of_ofRaw {raw raw' : Entries} {a b : Settings}
    (same : forall name, name ∉ outputNames -> raw.get? name = raw'.get? name)
    (made : ofRaw raw = .ok a) (made' : ofRaw raw' = .ok b) : a.Akin b := by
  have left := taking_of_ofRaw made
  have right := taking_of_ofRaw made'
  have injective : forall {α : Type} {x y : α} {t : Taken α}, t = .value x -> t = .value y -> x = y := by
    rintro α x y t rfl isSame
    cases isSame
    rfl
  have schema : takeSchema raw = takeSchema raw' := by
    unfold takeSchema
    rw [same "validate" (by decide), takeFrom_congr (same "schema_uri" (by decide))]
  constructor
  · exact injective (takeFrom_congr (same "ignore" (by decide)) _ _ ▸ left.ignore) right.ignore
  · exact injective (schema ▸ left.schema) right.schema
  · exact injective (takeFrom_congr (same "env" (by decide)) _ _ ▸ left.env) right.env
  · exact injective (takeFrom_congr (same "sort" (by decide)) _ _ ▸ left.sort) right.sort

end Settings

namespace Config

/-- Explicit settings that agree on all names but those of the output make settings that are akin, in every folder. -/
theorem akin_of_resolve {d : Disk} {overrides overrides' : Entries} {folder : Option Path} {a b : Settings}
    (agree : overrides.AgreeBut Settings.outputNames overrides')
    (found : resolve d overrides folder = .ok a) (found' : resolve d overrides' folder = .ok b) : a.Akin b := by
  have layered : forall (below : Entries) name, name ∉ Settings.outputNames ->
      (Settings.layered [below, overrides]).get? name = (Settings.layered [below, overrides']).get? name := by
    intro below name other
    change ((Entries.update [] below).update overrides).get? name =
      ((Entries.update [] below).update overrides').get? name
    rw [Entries.get?_update, agree name other, ← Entries.get?_update]
  cases folder with
  | none => exact Settings.akin_of_ofRaw (fun name other => agree name other) found found'
  | some folder =>
    obtain ⟨values, read, found⟩ := bind_eq_ok_iff.mp found
    obtain ⟨patterns, readToo, found⟩ := bind_eq_ok_iff.mp found
    obtain ⟨below, combined, found⟩ := bind_eq_ok_iff.mp found
    obtain ⟨values', read', found'⟩ := bind_eq_ok_iff.mp found'
    obtain ⟨patterns', readToo', found'⟩ := bind_eq_ok_iff.mp found'
    obtain ⟨below', combined', found'⟩ := bind_eq_ok_iff.mp found'
    cases read.symm.trans read'
    cases readToo.symm.trans readToo'
    cases combined.symm.trans combined'
    exact Settings.akin_of_ofRaw (layered below) found found'

end Config

end SchemaLint
