import SchemaLint.Text.Split

/-!
# What splitting leaves

The parts that splitting leaves do not have the character at which it splits.  What was put together with this character
between the parts is split into what each of the parts is split into.
-/

namespace SchemaLint

theorem splitChars_eq_splitOn (c : Char) (cs : List Char) : splitChars c cs = cs.splitOn c := by
  induction cs with
  | nil => simp [splitChars]
  | cons d rest ih =>
    rw [List.splitOn_cons_eq_if_modifyHead, splitChars, ih]
    by_cases same : d = c
    · simp [same]
    · rw [if_neg same, if_neg (by simpa using same)]
      cases split : rest.splitOn c with
      | nil => exact absurd split (List.splitOn_ne_nil c rest)
      | cons part parts => rfl

theorem not_mem_of_mem_splitChars {c : Char} {cs part : List Char} (member : part ∈ splitChars c cs) : c ∉ part := by
  induction cs generalizing part with
  | nil =>
    rw [splitChars, List.mem_singleton] at member
    rw [member]
    exact List.not_mem_nil
  | cons d rest ih =>
    rw [splitChars] at member
    by_cases same : d = c
    · rw [if_pos same, List.mem_cons] at member
      rcases member with empty | member
      · rw [empty]
        exact List.not_mem_nil
      · exact ih member
    · rw [if_neg same] at member
      cases split : splitChars c rest with
      | nil =>
        rw [split, List.mem_singleton] at member
        rw [member, List.mem_singleton]
        exact Ne.symm same
      | cons first parts =>
        rw [split] at member ih
        rcases List.mem_cons.mp member with equal | later
        · rw [equal, List.mem_cons]
          rintro (here | inside)
          · exact same here.symm
          · exact ih (List.mem_cons_self ..) inside
        · exact ih (List.mem_cons_of_mem _ later)

theorem splitChars_of_not_mem {c : Char} {cs : List Char} (absent : c ∉ cs) : splitChars c cs = [cs] := by
  rw [splitChars_eq_splitOn, List.splitOn_eq_singleton absent]

theorem splitChars_append_cons (c : Char) (front back : List Char) :
    splitChars c (front ++ c :: back) = splitChars c front ++ splitChars c back := by
  simp only [splitChars_eq_splitOn, List.splitOn_append_cons_self]

/-- What was put together is split where it was put together, and further wherever one of the parts is split. -/
theorem splitChars_intercalate (c : Char) {parts : List (List Char)} (nonempty : parts ≠ []) :
    splitChars c ([c].intercalate parts) = parts.flatMap (splitChars c) := by
  induction parts with
  | nil => exact absurd rfl nonempty
  | cons first rest ih =>
    cases rest with
    | nil => rw [List.intercalate_singleton, List.flatMap_singleton]
    | cons second more =>
      rw [List.intercalate_cons_cons, List.append_assoc, List.singleton_append, splitChars_append_cons,
        ih (List.cons_ne_nil second more)]
      exact List.flatMap_cons.symm

/-- Every occurrence of the character makes one more part. -/
theorem length_splitChars (c : Char) (cs : List Char) : (splitChars c cs).length = cs.count c + 1 := by
  induction cs with
  | nil => rfl
  | cons d rest ih =>
    rw [splitChars, List.count_cons]
    by_cases same : d = c
    · simp [same, ih]
    · rw [if_neg same, if_neg (by simpa using same), Nat.add_zero, ← ih]
      cases split : splitChars c rest with
      | nil =>
        rw [split] at ih
        cases ih
      | cons part parts => rfl

end SchemaLint
