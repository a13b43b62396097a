import SchemaLint.Proofs.Config.Precedence
import SchemaLint.Proofs.Config.Troubles

/-!
# The two names of the schema

The reference of the schema goes by two names, and layers are put together name by name before either is read.  So the
two names live side by side, each with what the last layer says that uses it, and then the documented name is heard and
the other one only where no layer uses the documented one.  Later layers win among those that use one name.  A later
layer that uses the other name is not heard, however near it is.
-/

namespace SchemaLint

open Yaml (Value Entries)

namespace Yaml.Entries

/-- What is said last is heard. -/
theorem says?_cons (key value : Value) (rest : Entries) (name : String) :
    says? ((key, value) :: rest) name =
      (says? rest name).or (if key.sameKey (.string (Text.ofString name)) then some value else none) := by
  calc
    says? ((key, value) :: rest) name = (update (put key value []) rest).get? name := rfl
    _ = (says? rest name).or ((put key value []).get? name) := get?_update_says? _ _ _
    _ = _ := by rw [get?_put, get?]

end Yaml.Entries

namespace Settings

variable {layers : List Entries} {layer : Entries}

/-! ## What layers give -/

/-- The names under which a layer may give the reference of the schema. -/
def schemaNames : List String :=
  ["validate", "schema_uri"]

/-- Whether a value is a text. -/
def isText : Value -> Bool
  | .string _ => true
  | _ => false

/-- Under either name a layer gives a text, if it gives anything. -/
def GivesTexts (layer : Entries) : Prop :=
  forall name, name ∈ schemaNames -> (layer.says? name).all isText = true

instance (layer : Entries) : Decidable (GivesTexts layer) :=
  inferInstanceAs (Decidable (forall name, name ∈ schemaNames -> _))

/-- The reference that the last of the layers gives that use a name. -/
def lastUnder? (name : String) (layers : List Entries) : Option Text :=
  (nearest? layers name).bind textOf?

/-- The reference that is heard: the one under the documented name, and else the one under the other name. -/
def heard? (layers : List Entries) : Option Text :=
  (lastUnder? "validate" layers).or (lastUnder? "schema_uri" layers)

/-- The reference that the last of the layers gives that give one, under whichever name. -/
def lastGiven? (layers : List Entries) : Option Text :=
  (layers.reverse.findSome? fun layer => (layer.says? "validate").or (layer.says? "schema_uri")).bind textOf?

/-- Whether a key is one of the names under which the reference is given. -/
def namesSchema (key : Value) : Bool :=
  schemaNames.any fun name => key.sameKey (.string (Text.ofString name))

/-- Behind the last layer that uses the documented name no other reference is given. -/
def IsUncontested (layers : List Entries) : Prop :=
  forall before layer after t, layers = before ++ layer :: after -> layer.says? "validate" = some (.string t) ->
    (forall later, later ∈ after -> later.says? "validate" = none) ->
      forall reference, lastUnder? "schema_uri" after = some reference -> reference = t

/-- A layer without the reference of the schema. -/
def silenced (layer : Entries) : Entries :=
  layer.filter fun e => !namesSchema e.1

/-- Settings with a reference in the place of their own. -/
def referring (reference : Option Text) (s : Settings) : Settings :=
  { s with schema := reference }

theorem namesSchema_ofString (name : String) :
    namesSchema (.string (Text.ofString name)) = true <-> name ∈ schemaNames := by
  rw [namesSchema, List.any_eq_true]
  constructor
  · rintro ⟨other, isName, same⟩
    have names := congrArg Text.toString (Value.string.inj (Value.sameKey_string.mp same))
    rw [Text.toString_ofString, Text.toString_ofString] at names
    rwa [names]
  · intro isName
    exact ⟨name, isName, Value.sameKey_string.mpr rfl⟩

theorem says?_silenced (layer : Entries) (name : String) :
    (silenced layer).says? name = if name ∈ schemaNames then none else layer.says? name := by
  induction layer with
  | nil => split <;> rfl
  | cons entry rest ih =>
    obtain ⟨key, value⟩ := entry
    rw [Entries.says?_cons]
    by_cases named : key.sameKey (.string (Text.ofString name)) = true
    · -- The entry speaks of the name, so it goes just if the name is one of the two.
      cases Value.sameKey_string.mp named
      by_cases isName : name ∈ schemaNames
      · have gone : silenced ((.string (Text.ofString name), value) :: rest) = silenced rest :=
          List.filter_cons_of_neg (by simp [(namesSchema_ofString name).mpr isName])
        rw [gone, ih, if_pos isName, if_pos isName]
      · have other : namesSchema (.string (Text.ofString name)) = false :=
          Bool.eq_false_iff.mpr fun among => isName ((namesSchema_ofString name).mp among)
        have stays : silenced ((.string (Text.ofString name), value) :: rest) =
            (.string (Text.ofString name), value) :: silenced rest :=
          List.filter_cons_of_pos (by simp [other])
        rw [stays, Entries.says?_cons, ih, if_neg isName, if_neg isName]
    · have unheard : (silenced ((key, value) :: rest)).says? name = (silenced rest).says? name := by
        cases among : namesSchema key with
        | true => rw [silenced, List.filter_cons_of_neg (by simp [among]), silenced]
        | false =>
          rw [silenced, List.filter_cons_of_pos (by simp [among]), Entries.says?_cons, if_neg named, Option.or_none,
            silenced]
      rw [unheard, ih, if_neg named, Option.or_none]

theorem get?_silenced (layers : List Entries) (name : String) :
    (layered (layers.map silenced)).get? name = if name ∈ schemaNames then none else (layered layers).get? name := by
  have heard : forall layers, (layered layers).get? name = nearest? layers name := fun layers => get?_written layers name
  rw [heard, heard, nearest?, ← List.map_reverse, List.findSome?_map]
  split
  next isName =>
    rw [List.findSome?_eq_none_iff]
    intro layer _
    exact (says?_silenced layer name).trans (if_pos isName)
  next other =>
    refine congrArg (List.findSome? · layers.reverse) (funext fun layer => ?_)
    exact (says?_silenced layer name).trans (if_neg other)

/-! ## What is heard -/

theorem exists_text_of_nearest? {name : String} (isName : name ∈ schemaNames)
    (texts : forall layer, layer ∈ layers -> GivesTexts layer) {v : Value} (said : nearest? layers name = some v) :
    exists t, v = .string t := by
  obtain ⟨layer, inside, said⟩ := List.exists_of_findSome?_eq_some said
  have text : isText v = true :=
    (Option.all_eq_true ..).mp (texts layer (List.mem_reverse.mp inside) name isName) v said
  cases v with
  | string t => exact ⟨t, rfl⟩
  | null | bool | int | float | date | bytes | list | pair | mapping | set | endless => cases text

/-- Of raw values that say of the reference what layers say, the one that is heard is taken. -/
theorem takeSchema_of_said {raw : Entries} (said : forall name, name ∈ schemaNames -> raw.get? name = nearest? layers name)
    (texts : forall layer, layer ∈ layers -> GivesTexts layer) : takeSchema raw = .value (heard? layers) := by
  unfold takeSchema takeFrom heard? lastUnder?
  rw [said "validate" (by decide), said "schema_uri" (by decide)]
  cases first : nearest? layers "validate" with
  | some v =>
    obtain ⟨t, rfl⟩ := exists_text_of_nearest? (by decide) texts first
    rfl
  | none =>
    cases second : nearest? layers "schema_uri" with
    | some v =>
      obtain ⟨t, rfl⟩ := exists_text_of_nearest? (by decide) texts second
      rfl
    | none => rfl

theorem takeSchema_silenced (layers : List Entries) : takeSchema (layered (layers.map silenced)) = .value none := by
  have silent : forall name, name ∈ schemaNames -> (layered (layers.map silenced)).get? name = none := by
    intro name isName
    rw [get?_silenced, if_pos isName]
  unfold takeSchema takeFrom
  rw [silent "validate" (by decide), silent "schema_uri" (by decide)]
  rfl

/-- Raw values that agree on all other settings make the same settings but for the reference, or fail alike. -/
theorem ofRaw_eq_referring {raw raw' : Entries} {reference : Option Text}
    (same : forall name, name ∉ schemaNames -> raw.get? name = raw'.get? name)
    (taken : takeSchema raw = .value reference) (silent : takeSchema raw' = .value none) :
    ofRaw raw = (ofRaw raw').map (referring reference) := by
  unfold ofRaw
  rw [takeFrom_congr (same "ignore" (by decide)), takeFrom_congr (same "indent" (by decide)),
    takeFrom_congr (same "env" (by decide)), takeFrom_congr (same "quiet" (by decide)),
    takeFrom_congr (same "pretty" (by decide)), takeFrom_congr (same "sort" (by decide)), taken, silent]
  generalize takeFrom raw' "ignore" _ _ = ignore, takeFrom raw' "indent" _ _ = indent, takeFrom raw' "env" _ _ = env,
    takeFrom raw' "quiet" _ _ = quiet, takeFrom raw' "pretty" _ _ = pretty, takeFrom raw' "sort" _ _ = sort
  dsimp only
  split
  · rfl
  next calm =>
    split
    next isReference =>
      cases isReference
      rfl
    next unmade =>
      split
      · exact (unmade _ _ _ _ _ _ _ rfl rfl rfl rfl rfl rfl rfl).elim
      · rfl

/-- Layers make the settings that they make without the reference, with the one that is taken put in. -/
theorem ofLayers_eq_referring {reference : Option Text} (taken : takeSchema (layered layers) = .value reference) :
    ofLayers layers = (ofLayers (layers.map silenced)).map (referring reference) := by
  apply ofRaw_eq_referring _ taken (takeSchema_silenced layers)
  intro name other
  rw [get?_silenced, if_neg other]

/-! ## Where later layers win -/

/-- The last layer that uses a name is the last one to say anything under it. -/
theorem nearest?_of_last {before after : List Entries} {name : String} {v : Value} (said : layer.says? name = some v)
    (silent : forall later, later ∈ after -> later.says? name = none) :
    nearest? (before ++ layer :: after) name = some v := by
  have nothing : after.reverse.findSome? (·.says? name) = none := by
    rw [List.findSome?_eq_none_iff]
    exact fun later inside => silent later (List.mem_reverse.mp inside)
  rw [nearest?, List.reverse_append, List.reverse_cons, List.findSome?_append, List.findSome?_append, nothing,
    List.findSome?_singleton, said]
  rfl

/-- A name that is used is used by a last layer. -/
theorem exists_last_of_nearest? {name : String} {v : Value} (said : nearest? layers name = some v) :
    exists before layer after, layers = before ++ layer :: after ∧ layer.says? name = some v ∧
      forall later, later ∈ after -> later.says? name = none := by
  rw [nearest?, List.findSome?_eq_some_iff] at said
  obtain ⟨after, layer, before, same, said, silent⟩ := said
  refine ⟨before.reverse, layer, after.reverse, ?_, said, fun later inside => silent later (List.mem_reverse.mp inside)⟩
  rw [← List.reverse_reverse layers, same]
  simp

/-- Where the documented name is not used, the other name has the last word. -/
theorem findSome?_of_undocumented (silent : forall later, later ∈ layers -> later.says? "validate" = none) :
    (layers.reverse.findSome? fun later => (later.says? "validate").or (later.says? "schema_uri")) =
      nearest? layers "schema_uri" := by
  rw [nearest?, ← List.head?_filterMap, ← List.head?_filterMap]
  refine congrArg List.head? (List.filterMap_congr fun later inside => ?_)
  rw [silent later (List.mem_reverse.mp inside), Option.none_or]

/-- Behind the last layer that uses the documented name only the other name is used. -/
theorem lastGiven?_of_last {before after : List Entries} {t : Text} (said : layer.says? "validate" = some (.string t))
    (silent : forall later, later ∈ after -> later.says? "validate" = none) :
    lastGiven? (before ++ layer :: after) = ((nearest? after "schema_uri").or (some (.string t))).bind textOf? := by
  rw [lastGiven?, List.reverse_append, List.reverse_cons, List.findSome?_append, List.findSome?_append,
    findSome?_of_undocumented silent, List.findSome?_singleton, said, Option.some_or, Option.or_assoc, Option.some_or]

theorem heard?_of_last {before after : List Entries} {t : Text} (said : layer.says? "validate" = some (.string t))
    (silent : forall later, later ∈ after -> later.says? "validate" = none) :
    heard? (before ++ layer :: after) = some t := by
  rw [heard?, lastUnder?, nearest?_of_last said silent]
  rfl

/-- The last reference is heard just if it is not given behind another one that has the documented name. -/
theorem heard?_eq_lastGiven?_iff (texts : forall layer, layer ∈ layers -> GivesTexts layer) :
    heard? layers = lastGiven? layers <-> IsUncontested layers := by
  constructor
  · rintro same before layer after t rfl said silent reference last
    obtain ⟨v, nearest, isText⟩ := Option.bind_eq_some_iff.mp last
    rw [heard?_of_last said silent, lastGiven?_of_last said silent, nearest, Option.some_or, Option.bind_some, isText]
      at same
    exact (Option.some.inj same).symm
  · intro agree
    cases used : nearest? layers "validate" with
    | none =>
      have silent : forall later, later ∈ layers -> later.says? "validate" = none := by
        intro later inside
        exact List.findSome?_eq_none_iff.mp used later (List.mem_reverse.mpr inside)
      rw [heard?, lastUnder?, used, Option.bind_none, Option.none_or, lastGiven?, findSome?_of_undocumented silent, lastUnder?]
    | some v =>
      obtain ⟨t, rfl⟩ := exists_text_of_nearest? (by decide) texts used
      obtain ⟨before, layer, after, rfl, said, silent⟩ := exists_last_of_nearest? used
      rw [heard?_of_last said silent, lastGiven?_of_last said silent]
      cases last : nearest? after "schema_uri" with
      | none => rfl
      | some v =>
        have inside : forall layer', layer' ∈ after -> GivesTexts layer' := fun layer' later =>
          texts layer' (List.mem_append_right _ (List.mem_cons_of_mem _ later))
        obtain ⟨t', rfl⟩ := exists_text_of_nearest? (by decide) inside last
        have reference : lastUnder? "schema_uri" after = some t' := by
          rw [lastUnder?, last]
          rfl
        rw [← agree before layer after t rfl said silent _ reference]
        rfl

end Settings

namespace Config

open Settings

variable {d : Disk} {overrides values below : Entries} {patterns : List String} {folder : Path} {chain : List Path}

/-! ## The files of a folder -/

/-- What a folder holds under a name is what can be read of it. -/
theorem eq_toOption_of_heldIn? {held : Option Entries} {q : Path} (found : heldIn? d valuesName (readValues d) q = .ok held) :
    held = valuesAt? d q := by
  rcases asked : d.isFile (q.child valuesName).text with fault | there | there
  · cases (heldIn?_of_refused asked).symm.trans found
  · obtain ⟨e, failed⟩ := exists_readValues_eq_error asked
    cases (heldIn?_of_absent asked).symm.trans found
    rw [valuesAt?, failed]
    rfl
  · have read := (heldIn?_of_present asked).symm.trans found
    obtain ⟨values, done, rfl⟩ := map_eq_ok_iff.mp read
    rw [valuesAt?, done]
    rfl

/-- Values that were read of a chain of folders are those of its files. -/
theorem eq_written_of_valuesOf (read : valuesOf d [] chain = .ok values) :
    values = written (chain.filterMap (valuesAt? d)) := by
  rw [valuesOf_eq] at read
  obtain ⟨held, found, rfl⟩ := map_eq_ok_iff.mp read
  have each : held = chain.map (valuesAt? d) := by
    have pairs := mapM_eq_ok_iff.mp found
    clear found read
    induction pairs with
    | nil => rfl
    | cons first _ ih => rw [List.map_cons, eq_toOption_of_heldIn? first, ih]
  have present : (chain.map (valuesAt? d)).reduceOption = chain.filterMap (valuesAt? d) := List.filterMap_map
  rw [each, written, present]

theorem nearest?_concat (files : List Entries) (overrides : Entries) (name : String) :
    nearest? (files ++ [overrides]) name = (overrides.says? name).or (nearest? files name) := by
  rw [nearest?, List.reverse_append, List.findSome?_append, List.reverse_singleton, List.findSome?_singleton,
    nearest?]

/-- The settings of a folder are those without the reference, with the one put in that is heard of the values files and of
the explicit values, which come last. -/
theorem resolve_eq_referring (found : searched d folder = .ok chain) (values? : valuesOf d [] chain = .ok values)
    (read : ignoreOf d [] chain = .ok patterns)
    (texts : forall layer, layer ∈ chain.filterMap (valuesAt? d) ++ [overrides] -> GivesTexts layer) :
    resolve d overrides (some folder) =
      (combined values patterns >>= fun below => ofLayers [silenced below, silenced overrides]).map
        (referring (heard? (chain.filterMap (valuesAt? d) ++ [overrides]))) := by
  have asked := eq_written_of_valuesOf values?
  subst asked
  rw [resolve_eq_combined found values? read]
  cases made : combined (written (chain.filterMap (valuesAt? d))) patterns with
  | error failed => rfl
  | ok below =>
    apply ofLayers_eq_referring
    apply takeSchema_of_said _ texts
    intro name isName
    have other : name ≠ "ignore" := by
      rintro rfl
      exact absurd isName (by decide)
    rw [get?_layered (isKeyed_of_combined made (isKeyed_written _)), get?_of_combined made other, get?_written,
      nearest?_concat]

/-- In layers that give the reference as texts the documented name is heard first, and under each name the last layer that
uses it.  This comes to the last reference that is given just if that is not contested by the documented name.  The values
files of a folder are such layers, the farthest first, and the explicit values are the last one. -/
theorem referring_by_name (d : Disk) (overrides : Entries) :
    (forall layers : List Entries, (forall layer, layer ∈ layers -> GivesTexts layer) ->
      ofLayers layers = (ofLayers (layers.map silenced)).map (referring (heard? layers)) ∧
        (heard? layers = lastGiven? layers <-> IsUncontested layers)) ∧
      forall folder chain values patterns, searched d folder = .ok chain -> valuesOf d [] chain = .ok values ->
        ignoreOf d [] chain = .ok patterns ->
          (forall layer, layer ∈ chain.filterMap (valuesAt? d) ++ [overrides] -> GivesTexts layer) ->
            resolve d overrides (some folder) =
              (combined values patterns >>= fun below => ofLayers [silenced below, silenced overrides]).map
                (referring (heard? (chain.filterMap (valuesAt? d) ++ [overrides]))) := by
  constructor
  · intro layers texts
    have taken : takeSchema (layered layers) = .value (heard? layers) :=
      takeSchema_of_said (fun name _ => get?_written layers name) texts
    exact ⟨ofLayers_eq_referring taken, heard?_eq_lastGiven?_iff texts⟩
  · intro folder chain values patterns found values? read texts
    exact resolve_eq_referring found values? read texts

/-- A layer that gives a reference under a name. -/
def giving (name reference : String) : Entries :=
  [(.string (Text.ofString name), .string (Text.ofString reference))]

/-- A folder whose values give a reference under the other name, in a folder whose values give one under the documented
name. -/
def namedApart : Disk where
  root := [(valuesName, textFile "validate: far"), ("p", .folder [(valuesName, textFile "schema_uri: near")])]
  current := ⟨.root, []⟩

/-- The farther reference is heard, even above an explicit one, because it has the documented name. -/
theorem referring_namedApart :
    (resolve namedApart (giving "schema_uri" "explicit") (some ⟨.root, ["p"]⟩)).toOption =
        some { Settings.defaults with schema := some "far" } ∧
      (exists values patterns, resolve namedApart (giving "schema_uri" "explicit") (some ⟨.root, ["p"]⟩) =
        (combined values patterns >>= fun below => ofLayers [silenced below, silenced (giving "schema_uri" "explicit")]).map
          (referring (some "far"))) ∧
      ofLayers [giving "schema_uri" "first", giving "schema_uri" "second"] =
        (ofLayers [[], []]).map (referring (some "second")) := by
  obtain ⟨layers, files⟩ := referring_by_name namedApart (giving "schema_uri" "explicit")
  refine ⟨by decide +kernel, ?_, ?_⟩
  · have read : (valuesOf namedApart [] [⟨.root, []⟩, ⟨.root, ["p"]⟩]).toOption.isSome = true ∧
        (ignoreOf namedApart [] [⟨.root, []⟩, ⟨.root, ["p"]⟩]).toOption.isSome = true := by
      decide +kernel
    obtain ⟨values, readValues⟩ := Option.isSome_iff_exists.mp read.1
    obtain ⟨patterns, readIgnore⟩ := Option.isSome_iff_exists.mp read.2
    have far : heard? ([⟨.root, []⟩, ⟨.root, ["p"]⟩].filterMap (valuesAt? namedApart) ++
        [giving "schema_uri" "explicit"]) = some (Text.ofString "far") := by
      decide +kernel
    refine ⟨values, patterns, ?_⟩
    rw [← far]
    exact files ⟨.root, ["p"]⟩ [⟨.root, []⟩, ⟨.root, ["p"]⟩] values patterns (by rfl)
      (toOption_eq_some_iff.mp readValues) (toOption_eq_some_iff.mp readIgnore) (by decide +kernel)
  · exact (layers [giving "schema_uri" "first", giving "schema_uri" "second"] (by decide)).1

/-- A later layer is not heard that uses the other name. -/
theorem not_lastGiven_of_otherName :
    (forall layer, layer ∈ [giving "validate" "a", giving "schema_uri" "b"] -> GivesTexts layer ∧
      (layer.says? "validate" = none ∨ layer.says? "schema_uri" = none)) ∧
    lastGiven? [giving "validate" "a", giving "schema_uri" "b"] = some (Text.ofString "b") ∧
    (ofLayers [giving "validate" "a", giving "schema_uri" "b"]).toOption =
      some { Settings.defaults with schema := some "a" } := by
  refine ⟨?_, by decide, by decide +kernel⟩
  intro layer inside
  rcases List.mem_pair.mp inside with rfl | rfl
  · exact ⟨by decide, .inr (by decide)⟩
  · exact ⟨by decide, .inl (by decide)⟩

end Config

end SchemaLint
