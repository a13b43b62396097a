import SchemaLint.Proofs.Cache.Names
import SchemaLint.Proofs.Files.Changes

/-!
# Reading entries

An entry can be read only if the path of the cache leads to a folder.  If the entry is no link, then what is read is what
lies in this folder under its name.
-/

namespace SchemaLint

open Disk (kindAt? Fits)

namespace Cache

variable {c : Cache} {d d' : Disk} {home : List String} {u : String}

theorem exists_leads_of_read {body : Bytes} (proper : c.folder.IsProper) (stored : c.read d u = some body) :
    exists home, d.Leads c.folder home := by
  cases located : d.locate true (c.entry u).text with
  | ok place => exact Disk.exists_leads_of_locate_child proper (isName_entryName u).1 located
  | error fault =>
    unfold read Disk.readFile at stored
    rw [Disk.find_eq_error_iff.mpr located] at stored
    cases stored

/-- An entry that is no link is read from the folder of the cache. -/
theorem file_of_read {body : Bytes} (proper : c.folder.IsProper) (leads : d.Leads c.folder home)
    (noLink : forall target, kindAt? d.root (home ++ [entryName u]) ≠ some (.link target))
    (stored : c.read d u = some body) :
    Fits c.folder (entryName u) ∧ kindAt? d.root (home ++ [entryName u]) = some (.file body) := by
  obtain ⟨isName, plain⟩ := isName_entryName u
  unfold read Disk.readFile at stored
  cases found : d.find true (c.entry u).text with
  | error fault =>
    rw [found] at stored
    cases stored
  | ok result =>
    obtain ⟨place, e⟩ := result
    have located := (Disk.find_eq_ok_iff.mp found).1
    have fits : Fits c.folder (entryName u) := Disk.fits_of_locate proper leads isName plain (Or.inl ⟨place, located⟩)
    have here : d.locate true (c.entry u).text = _ := Disk.locate_fitting proper fits leads (Or.inr noLink)
    by_cases absent : kindAt? d.root (home ++ [entryName u]) = none
    · rw [if_pos absent, located] at here
      cases here
    · rw [if_neg absent, located, Except.ok.injEq] at here
      have kind := Disk.kind_of_find found
      rw [found] at stored
      cases e with
      | file contents =>
        cases stored
        exact ⟨fits, here ▸ kind⟩
      | folder entries => cases stored
      | link target => cases stored

/-- Nothing is read where the path of the cache leads nowhere. -/
theorem read_eq_none_of_nowhere (proper : c.folder.IsProper) (nowhere : forall home, ¬ d.Leads c.folder home) :
    c.read d u = none := by
  rw [Option.eq_none_iff_forall_ne_some]
  intro body stored
  obtain ⟨home, leads⟩ := exists_leads_of_read proper stored
  exact nowhere home leads

/-- Nothing is read where neither a file nor a link stands. -/
theorem read_eq_none_of_bare (proper : c.folder.IsProper) (leads : d.Leads c.folder home)
    (noFile : forall body, kindAt? d.root (home ++ [entryName u]) ≠ some (.file body))
    (noLink : forall target, kindAt? d.root (home ++ [entryName u]) ≠ some (.link target)) : c.read d u = none := by
  rw [Option.eq_none_iff_forall_ne_some]
  intro body stored
  exact noFile body (file_of_read proper leads noLink stored).2

theorem read_of_file {body : Bytes} (proper : c.folder.IsProper) (leads : d.Leads c.folder home)
    (fits : Fits c.folder (entryName u)) (file : kindAt? d.root (home ++ [entryName u]) = some (.file body)) :
    c.read d u = some body := by
  unfold read entry
  rw [Disk.readFile_child proper leads fits file]
  rfl

/-- Where the folder is at the same place and the entry is the same, the same is read. -/
theorem read_eq_of_same (proper : c.folder.IsProper) (leads : d.Leads c.folder home) (leads' : d'.Leads c.folder home)
    (noLink : forall target, kindAt? d.root (home ++ [entryName u]) ≠ some (.link target))
    (same : kindAt? d'.root (home ++ [entryName u]) = kindAt? d.root (home ++ [entryName u])) :
    c.read d' u = c.read d u := by
  have noLink' : forall target, kindAt? d'.root (home ++ [entryName u]) ≠ some (.link target) := by
    rw [same]
    exact noLink
  cases old : c.read d u with
  | some body =>
    obtain ⟨fits, file⟩ := file_of_read proper leads noLink old
    exact read_of_file proper leads' fits (same.trans file)
  | none =>
    cases new : c.read d' u with
    | none => rfl
    | some body =>
      obtain ⟨fits, file⟩ := file_of_read proper leads' noLink' new
      rw [read_of_file proper leads fits (same.symm.trans file)] at old
      cases old

end Cache

end SchemaLint
