import SchemaLint.Yaml.Source

/-!
# What can be read of a file

A source holds the beginning of the text of a file, and all of it if nothing is wrong with it.  No character of it is one
that is shown behind a text, so a cursor tells the end and the cut from everything else.
-/

namespace SchemaLint

namespace Yaml

theorem wholeBlocks_le (place : Nat) : wholeBlocks place <= place := by
  unfold wholeBlocks
  split
  · exact Nat.zero_le place
  · exact Nat.div_mul_le_self place blockLength

namespace Source

variable {bytes : Bytes} {text : List Char} {stop : Option Stop}

theorem begins_ofText (text : List Char) (stop : Option Stop) : (ofText text stop).text <+: text := by
  unfold ofText
  split
  · exact List.take_prefix ..
  · exact List.prefix_refl text

/-- The characters in front of the first forbidden one are allowed. -/
theorem isAllowed_of_mem_ofText {c : Char} (inside : c ∈ (ofText text stop).text) : isAllowed c = true := by
  unfold ofText at inside
  split at inside
  next place found =>
    obtain ⟨bound, -, first⟩ := List.findIdx?_eq_some_iff_getElem.mp found
    obtain ⟨i, early, rfl⟩ := List.mem_iff_getElem.mp inside
    rw [List.length_take] at early
    have allowed := first i (by have := wholeBlocks_le place; omega)
    rw [List.getElem_take]
    simpa using allowed
  next none =>
    have allowed := List.findIdx?_eq_none_iff.mp none c inside
    simpa using allowed

/-- Every character that can be read is allowed. -/
theorem isAllowed_of_mem {c : Char} (inside : c ∈ (ofBytes bytes).text) : isAllowed c = true := by
  unfold ofBytes at inside
  split at inside <;> exact isAllowed_of_mem_ofText inside

/-- No character that can be read is one that is shown behind a text. -/
theorem ne_mark_of_mem {c : Char} (inside : c ∈ (ofBytes bytes).text) : c ≠ endMark ∧ c ≠ cutMark := by
  constructor <;> rintro rfl <;> cases isAllowed_of_mem inside

/-- What can be read is the beginning of what can be decoded. -/
theorem begins_ofBytes (bytes : Bytes) : (ofBytes bytes).text <+: unifyBreaks (decodable bytes) := by
  unfold ofBytes
  split
  next t decodes =>
    unfold decodable
    rw [decodes]
    exact begins_ofText ..
  next fault broken => exact (begins_ofText ..).trans <| List.take_prefix ..

theorem stop_of_ofText (cut : (ofText text stop).stop = some .undecodable) : stop = some .undecodable := by
  unfold ofText at cut
  split at cut
  · cases cut
  · exact cut

/-- Only bytes that are no text make a source that stops there. -/
theorem exists_fault_of_undecodable (cut : (ofBytes bytes).stop = some .undecodable) :
    exists fault, Encoding.Utf8.decode bytes = .error fault := by
  unfold ofBytes at cut
  split at cut
  next => cases stop_of_ofText cut
  next fault broken => exact ⟨fault, broken⟩

/-- A file without faults can be read as a whole. -/
theorem ofBytes_of_allowed {t : Text} (decodes : Encoding.Utf8.decode bytes = .ok t)
    (allowed : forall c, c ∈ unifyBreaks (t.map CodePoint.toChar) -> isAllowed c = true) :
    ofBytes bytes = { text := unifyBreaks (t.map CodePoint.toChar), stop := none } := by
  unfold ofBytes ofText
  rw [decodes]
  dsimp only
  rw [List.findIdx?_eq_none_iff.mpr fun c inside => by simp [allowed c inside]]

end Source

end Yaml

end SchemaLint
