import Mathlib.Data.List.Nodup
import Mathlib.Data.List.Perm.Subperm
import SchemaLint.Cache.Writing
import SchemaLint.Proofs.Files.Paths

/-!
# Names in the cache

The entries of references and the files that are still being written lie side by side in one folder.  All their names
are names of files, an entry is never mistaken for a new file, and a new file takes a name that nothing has.
-/

namespace SchemaLint

/-! ## Digests -/

namespace Digest

theorem digitChar_ne_slash {n : Nat} (small : n < 16) : Nat.digitChar n ≠ '/' := by
  have all : forall digit : Fin 16, Nat.digitChar digit ≠ '/' := by decide
  exact all ⟨n, small⟩

theorem slash_not_mem_digest (bytes : Bytes) : '/' ∉ (digest bytes).toList := by
  rw [digest, String.toList_ofList, List.mem_flatMap]
  rintro ⟨b, -, member⟩
  have byte : b.toNat < 256 := b.toNat_lt
  rw [hex, List.mem_cons, List.mem_singleton] at member
  rcases member with high | low
  · exact digitChar_ne_slash (by omega) high.symm
  · exact digitChar_ne_slash (by omega) low.symm

end Digest

namespace Cache

/-! ## Names of files -/

/-- A text that ends in something longer than two dots is the name of a file if it has no slash. -/
theorem isName_append {front back : String} (noSlash : '/' ∉ front.toList) (noSlash' : '/' ∉ back.toList)
    (long : 2 < back.length) : Path.IsName (front ++ back) ∧ Disk.IsPlain (front ++ back) := by
  have length : 2 < (front ++ back).length := by
    rw [String.length_append]
    omega
  have other : forall short : String, short.length <= 2 -> front ++ back ≠ short := by
    intro short small same
    rw [same] at length
    omega
  have slash : '/' ∉ (front ++ back).toList := by
    rw [String.toList_append, List.mem_append]
    rintro (inFront | inBack)
    · exact noSlash inFront
    · exact noSlash' inBack
  have notEmpty := other "" (by decide)
  have notDot := other "." (by decide)
  have notDots := other ".." (by decide)
  exact ⟨⟨notEmpty, notDot, slash⟩, notEmpty, notDot, notDots⟩

theorem isName_entryName (reference : String) :
    Path.IsName (entryName reference) ∧ Disk.IsPlain (entryName reference) :=
  isName_append (Digest.slash_not_mem_digest _) (by decide) (by decide)

theorem key_of_entryName {u v : String} (same : entryName u = entryName v) : key u = key v := by
  unfold entryName at same
  exact (String.append_left_inj _).mp same

theorem toList_temporaryName (n : Nat) :
    (temporaryName n).toList = ['t', 'm', 'p'] ++ Nat.toDigits 10 n ++ ['.', 't', 'm', 'p'] := by
  have text : temporaryName n = "tmp" ++ toString n ++ ".tmp" := rfl
  have digits : (toString n).toList = Nat.toDigits 10 n := by
    rw [Nat.toString_eq_ofList_toDigits, String.toList_ofList]
  rw [text, String.toList_append, String.toList_append, digits]
  rfl

theorem isName_temporaryName (n : Nat) :
    Path.IsName (temporaryName n) ∧ Disk.IsPlain (temporaryName n) := by
  have digits : (toString n).toList = Nat.toDigits 10 n := by
    rw [Nat.toString_eq_ofList_toDigits, String.toList_ofList]
  have noSlash : '/' ∉ ("tmp" ++ toString n).toList := by
    rw [String.toList_append, digits, List.mem_append]
    rintro (inFront | inDigits)
    · exact absurd inFront (by decide)
    · have digit : '/'.isDigit = true := Nat.isDigit_of_mem_toDigits (by omega : 0 < 10) (Nat.le_refl 10) inDigits
      exact absurd digit (by decide)
  change Path.IsName ("tmp" ++ toString n ++ ".tmp") ∧ Disk.IsPlain ("tmp" ++ toString n ++ ".tmp")
  exact isName_append noSlash (by decide) (by decide)

/-- A new file is not called like an entry. -/
theorem temporaryName_ne_entryName (n : Nat) (reference : String) : temporaryName n ≠ entryName reference := by
  intro same
  have ends := congrArg (fun name => name.toList.getLast?) same
  simp only [toList_temporaryName, entryName, String.toList_append] at ends
  rw [show ".json".toList = ['.', 'j', 's', 'o', 'n'] from rfl] at ends
  rw [List.getLast?_append, List.getLast?_append] at ends
  simp at ends

theorem temporaryName_injective : Function.Injective temporaryName := by
  intro m n same
  have chars := congrArg String.toList same
  rw [toList_temporaryName, toList_temporaryName, List.append_left_inj, List.append_right_inj] at chars
  have value := congrArg (fun digits => Nat.ofDigitChars 10 digits 0) chars
  simpa only [Nat.ofDigitChars_toDigits (by decide : 1 < 10) (Nat.le_refl 10)] using value

/-! ## Names that nothing has -/

theorem exists_freshName (taken : List String) (fuel n : Nat) : exists m, freshName taken fuel n = temporaryName m := by
  induction fuel generalizing n with
  | zero => exact ⟨n, rfl⟩
  | succ fuel ih =>
    unfold freshName
    by_cases used : taken.contains (temporaryName n) = true
    · rw [if_pos used]
      exact ih (n + 1)
    · rw [if_neg used]
      exact ⟨n, rfl⟩

/-- If the name that was chosen is taken, then so are all that were tried. -/
theorem all_taken_of_freshName {taken : List String} {fuel n : Nat} (used : freshName taken fuel n ∈ taken) {m : Nat}
    (least : n <= m) (most : m <= n + fuel) : temporaryName m ∈ taken := by
  induction fuel generalizing n with
  | zero =>
    have same : m = n := by omega
    exact same ▸ used
  | succ fuel ih =>
    unfold freshName at used
    by_cases first : taken.contains (temporaryName n) = true
    · rw [if_pos first] at used
      by_cases here : m = n
      · rw [here]
        exact List.contains_iff_mem.mp first
      · exact ih used (by omega) (by omega)
    · rw [if_neg first] at used
      exact absurd (List.contains_iff_mem.mpr used) first

/-- Nothing has the name of a new file: there are more names than taken ones. -/
theorem freshName_not_mem (taken : List String) : freshName taken taken.length 0 ∉ taken := by
  intro used
  have tried : (List.range (taken.length + 1)).map temporaryName ⊆ taken := by
    intro name member
    obtain ⟨m, below, rfl⟩ := List.mem_map.mp member
    exact all_taken_of_freshName used (Nat.zero_le m) (by rw [List.mem_range] at below; omega)
  have different : ((List.range (taken.length + 1)).map temporaryName).Nodup :=
    List.Nodup.map temporaryName_injective List.nodup_range
  have shorter := (List.subperm_of_subset different tried).length_le
  rw [List.length_map, List.length_range] at shorter
  omega

end Cache

end SchemaLint
