import SchemaLint.Proofs.Config.Precedence
import SchemaLint.Proofs.Text.Encoding

/-!
# The lines of ignore files

An ignore file is read line by line, and a line may hold a pattern.  Here is said how patterns are written: blanks may
stand around a pattern, and an equals sign with any text behind it.  Such a file is read back as its patterns, each once.
The files of a folder and of the folders around it are read one after the other, so what holds in a folder also holds in
all folders in it, and stands first there.
-/

namespace SchemaLint

namespace IgnoreFile

variable {cs line rest before after m pattern value : List Char} {c : Char} {patterns : List (List Char)}

/-! ## Blanks -/

/-- Nothing but blanks. -/
def AreBlank (cs : List Char) : Prop :=
  forall c, c ∈ cs -> isBlank c = true

instance : Decidable (AreBlank cs) :=
  List.decidableBAll (isBlank · = true) cs

/-- There are no blanks at either end. -/
structure IsBare (cs : List Char) : Prop where
  front : forall c, cs.head? = some c -> isBlank c = false
  back : forall c, cs.getLast? = some c -> isBlank c = false

instance : Decidable (IsBare cs) :=
  decidable_of_iff (cs.head?.all (!isBlank ·) = true ∧ cs.getLast?.all (!isBlank ·) = true) <| by
    simp only [Option.all_eq_true, Bool.not_eq_true']
    exact ⟨fun ⟨front, back⟩ => ⟨front, back⟩, fun ⟨front, back⟩ => ⟨front, back⟩⟩

theorem dropWhile_blanks (blank : AreBlank before) (front : forall c, cs.head? = some c -> isBlank c = false) :
    (before ++ cs).dropWhile isBlank = cs := by
  induction before with
  | nil =>
    cases cs with
    | nil => rfl
    | cons c cs => rw [List.nil_append, List.dropWhile_cons_of_neg (by simp [front c rfl])]
  | cons c before ih =>
    rw [List.cons_append, List.dropWhile_cons_of_pos (blank c (List.mem_cons_self ..))]
    exact ih fun c inside => blank c (List.mem_cons_of_mem _ inside)

/-- Blanks around a text that has none at its ends are taken away, and nothing else. -/
theorem strip_surrounded (blank : AreBlank before) (bare : IsBare m) (blank' : AreBlank after) :
    strip (before ++ (m ++ after)) = m := by
  have reversed : AreBlank after.reverse := fun c inside => blank' c (List.mem_reverse.mp inside)
  have back : (after.reverse ++ m.reverse).dropWhile isBlank = m.reverse := by
    apply dropWhile_blanks reversed
    rw [List.head?_reverse]
    exact bare.back
  by_cases empty : m = []
  · have blanks : AreBlank (before ++ after) := by
      intro c inside
      exact (List.mem_append.mp inside).elim (blank c) (blank' c)
    have nothing : ((before ++ after) ++ []).dropWhile isBlank = [] := dropWhile_blanks blanks nofun
    rw [List.append_nil] at nothing
    rw [strip, empty, List.nil_append, nothing]
    rfl
  · have front : forall c, (m ++ after).head? = some c -> isBlank c = false := by
      rw [List.head?_append_of_ne_nil m empty]
      exact bare.front
    rw [strip, dropWhile_blanks blank front, List.reverse_append, back, List.reverse_reverse]

/-- Up to a character that is no blank nothing is taken away at the end. -/
theorem exists_strip (blank : AreBlank before) (front : forall d, (m ++ c :: rest).head? = some d -> isBlank d = false)
    (inked : isBlank c = false) : exists rest', strip (before ++ (m ++ c :: rest)) = m ++ c :: rest' := by
  have kept : exists w, (rest.reverse ++ c :: m.reverse).dropWhile isBlank = w ++ c :: m.reverse := by
    rw [List.dropWhile_append]
    split
    · exact ⟨[], List.dropWhile_cons_of_neg (by simp [inked])⟩
    · exact ⟨_, rfl⟩
  obtain ⟨w, same⟩ := kept
  refine ⟨w.reverse, ?_⟩
  rw [strip, dropWhile_blanks blank front, List.reverse_append, List.reverse_cons, List.append_assoc,
    List.singleton_append, same]
  simp

/-! ## Lines -/

/-- There is no end of a line. -/
def IsOneLine (cs : List Char) : Prop :=
  forall c, c ∈ cs -> isLineEnd c = false

instance : Decidable (IsOneLine cs) :=
  List.decidableBAll (isLineEnd · = false) cs

/-- A text that can be written as a pattern: it has no blanks at its ends, is no comment and fits in front of an equals
sign. -/
structure IsPattern (cs : List Char) : Prop extends IsBare cs where
  nonempty : cs ≠ []
  valueless : '=' ∉ cs
  whole : IsOneLine cs
  spoken : isComment cs = false

instance : Decidable (IsPattern cs) :=
  decidable_of_iff (IsBare cs ∧ cs ≠ [] ∧ '=' ∉ cs ∧ IsOneLine cs ∧ isComment cs = false)
    ⟨fun ⟨bare, nonempty, valueless, whole, spoken⟩ => ⟨bare, nonempty, valueless, whole, spoken⟩,
      fun ⟨bare, nonempty, valueless, whole, spoken⟩ => ⟨bare, nonempty, valueless, whole, spoken⟩⟩

/-- A line, and the pattern that stands on it. -/
inductive Stands : List Char -> Option (List Char) -> Prop
  | blank {line : List Char} (blank : AreBlank line) : Stands line none
  | comment {before : List Char} (blank : AreBlank before) (mark : Char) (isMark : mark = '#' ∨ mark = ';')
    (text : List Char) : Stands (before ++ mark :: text) none
  | head {before after : List Char} (blank : AreBlank before) (text : List Char) (blank' : AreBlank after) :
    Stands (before ++ ('[' :: (text ++ [']']) ++ after)) none
  | pattern {before pattern after tail : List Char} (blank : AreBlank before) (isPattern : IsPattern pattern)
    (blank' : AreBlank after) (value : tail = [] ∨ exists text, tail = '=' :: text)
    (noHead : isHead (strip (before ++ (pattern ++ (after ++ tail)))) = false) :
    Stands (before ++ (pattern ++ (after ++ tail))) (some pattern)

/-- What ends a line. -/
inductive Ends : List Char -> Prop
  | one {c : Char} (isEnd : isLineEnd c = true) : Ends [c]
  | both : Ends ['\r', '\n']

/-- A text of lines, and the patterns that stand on them. -/
inductive Written : List Char -> List (List Char) -> Prop
  | last {line : List Char} {pattern? : Option (List Char)} (whole : IsOneLine line)
    (stands : Stands line pattern?) : Written line pattern?.toList
  | more {line ends rest : List Char} {pattern? : Option (List Char)} {patterns : List (List Char)}
    (whole : IsOneLine line) (stands : Stands line pattern?) (isEnd : Ends ends)
    (written : Written rest patterns) : Written (line ++ (ends ++ rest)) (pattern?.toList ++ patterns)

theorem isBlank_of_mark {mark : Char} (isMark : mark = '#' ∨ mark = ';') : isBlank mark = false := by
  rcases isMark with rfl | rfl <;> decide

theorem valueless_of_blank (blank : AreBlank cs) : '=' ∉ cs :=
  fun inside => absurd (blank '=' inside) (by decide)

/-- Whatever stands in front of a value is kept of a stripped line, with the blanks before the equals sign. -/
theorem takeWhile_valueless (valueless : '=' ∉ cs) (tail : rest = [] ∨ exists text, rest = '=' :: text) :
    (cs ++ rest).takeWhile (· != '=') = cs := by
  have all : forall c, c ∈ cs -> (c != '=') = true := by
    intro c inside
    rw [bne_iff_ne]
    rintro rfl
    exact valueless inside
  rw [List.takeWhile_append_of_pos all]
  rcases tail with rfl | ⟨text, rfl⟩
  · exact List.append_nil cs
  · rw [List.takeWhile_cons_of_neg (by decide), List.append_nil]

/-- The stripped line of a pattern begins with the pattern, and a value may follow it. -/
theorem exists_strip_pattern {tail : List Char} (blank : AreBlank before) (isPattern : IsPattern pattern)
    (blank' : AreBlank after) (value : tail = [] ∨ exists text, tail = '=' :: text) :
    exists blanks tail', strip (before ++ (pattern ++ (after ++ tail))) = (pattern ++ blanks) ++ tail' ∧
      AreBlank blanks ∧ (tail' = [] ∨ exists text, tail' = '=' :: text) := by
  rcases value with rfl | ⟨text, rfl⟩
  · refine ⟨[], [], ?_, nofun, .inl rfl⟩
    rw [List.append_nil, List.append_nil, List.append_nil]
    exact strip_surrounded blank isPattern.toIsBare blank'
  · have front : forall d, ((pattern ++ after) ++ '=' :: text).head? = some d -> isBlank d = false := by
      rw [List.append_assoc, List.head?_append_of_ne_nil _ isPattern.nonempty]
      exact isPattern.front
    obtain ⟨text', same⟩ := exists_strip blank front (by decide : isBlank '=' = false)
    refine ⟨after, '=' :: text', ?_, blank', .inr ⟨text', rfl⟩⟩
    rw [← List.append_assoc pattern]
    exact same

/-- The pattern of a line is the one that stands on it. -/
theorem patternOf?_of_stands {pattern? : Option (List Char)} (stands : Stands line pattern?) :
    patternOf? line = pattern? := by
  cases stands with
  | blank blank =>
    have nothing : strip line = [] := by
      have surrounded : strip (line ++ ([] ++ [])) = [] := strip_surrounded blank ⟨nofun, nofun⟩ nofun
      rwa [List.append_nil, List.append_nil] at surrounded
    simp only [patternOf?, nothing, List.isEmpty_nil, Bool.true_or, if_true]
  | @comment before blank mark isMark text =>
    have inked : isBlank mark = false := isBlank_of_mark isMark
    have front : forall d, ([] ++ mark :: text).head? = some d -> isBlank d = false := by
      intro d same
      rw [← Option.some.inj same]
      exact inked
    obtain ⟨text', same⟩ := exists_strip blank front inked
    rw [List.nil_append, List.nil_append] at same
    have comment : isComment (mark :: text') = true := by
      rcases isMark with rfl | rfl <;> rfl
    simp only [patternOf?, same, comment, Bool.or_true, Bool.true_or, if_true]
  | @head before after blank text blank' =>
    have bare : IsBare ('[' :: (text ++ [']'])) := by
      constructor
      · rintro c ⟨⟩
        decide
      · intro c last
        rw [← List.cons_append, List.getLast?_concat] at last
        cases last
        decide
    have isHead : isHead ('[' :: (text ++ [']'])) = true := by
      rw [IgnoreFile.isHead, ← List.cons_append, List.getLast?_concat]
      rfl
    simp only [patternOf?, strip_surrounded blank bare blank', isHead, Bool.or_true, if_true]
  | @pattern before pattern after tail blank isPattern blank' value noHead =>
    obtain ⟨blanks, tail', same, areBlank, value'⟩ := exists_strip_pattern blank isPattern blank' value
    have valueless : '=' ∉ pattern ++ blanks := by
      rw [List.mem_append]
      exact fun inside => inside.elim isPattern.valueless (valueless_of_blank areBlank)
    have nothing : AreBlank [] := nofun
    have bare : strip (pattern ++ blanks) = pattern := strip_surrounded nothing isPattern.toIsBare areBlank
    obtain ⟨c, others, chars⟩ := List.exists_cons_of_ne_nil isPattern.nonempty
    have spoken : isComment ((pattern ++ blanks) ++ tail') = false := by
      have here := isPattern.spoken
      rw [chars] at here ⊢
      exact here
    have nonempty : ((pattern ++ blanks) ++ tail').isEmpty = false := by
      rw [chars]
      rfl
    rw [same] at noHead
    simp only [patternOf?, same, nonempty, spoken, noHead, Bool.or_self, Bool.false_eq_true, if_false,
      takeWhile_valueless valueless value', bare]
    rw [chars]

/-! ## Texts -/

/-- What ends no line stands on the first one. -/
theorem lines_append {first : List Char} {others : List (List Char)} (whole : IsOneLine line)
    (behind : lines rest = first :: others) : lines (line ++ rest) = (line ++ first) :: others := by
  induction line with
  | nil => exact behind
  | cons c line ih =>
    have inside : isLineEnd c = false := whole c (List.mem_cons_self ..)
    have rest := ih fun c later => whole c (List.mem_cons_of_mem _ later)
    rw [List.cons_append, lines]
    · simp only [inside, Bool.false_eq_true, if_false, rest, List.cons_append]
    · rintro rest' rfl
      cases inside

theorem lines_of_isLineEnd (isEnd : isLineEnd c = true) (alone : forall rest', c = '\r' -> rest ≠ '\n' :: rest') :
    lines (c :: rest) = [] :: lines rest := by
  rw [lines, if_pos isEnd]
  exact alone

/-- The end of a line is followed by the lines behind it; a line feed behind a carriage return may take a blank line
with it. -/
theorem lines_ends {ends : List Char} (isEnd : Ends ends) (rest : List Char) :
    exists others, lines (ends ++ rest) = [] :: others ∧
      others.filterMap patternOf? = (lines rest).filterMap patternOf? := by
  cases isEnd with
  | both => exact ⟨lines rest, by rw [List.cons_append, List.singleton_append, lines], rfl⟩
  | @one c isEnd =>
    rw [List.singleton_append]
    by_cases both : c = '\r' ∧ exists rest', rest = '\n' :: rest'
    · obtain ⟨rfl, rest', rfl⟩ := both
      have feed : lines ('\n' :: rest') = [] :: lines rest' := lines_of_isLineEnd (by decide) nofun
      refine ⟨lines rest', by rw [lines], ?_⟩
      rw [feed]
      rfl
    · exact ⟨lines rest, lines_of_isLineEnd isEnd fun rest' same next => both ⟨same, rest', next⟩, rfl⟩

/-- The patterns of the lines of a text are those that stand on them. -/
theorem filterMap_lines {text : List Char} (written : Written text patterns) :
    (lines text).filterMap patternOf? = patterns := by
  induction written with
  | @last line pattern? whole stands =>
    have alone : lines (line ++ []) = [line ++ []] := lines_append whole rfl
    rw [List.append_nil] at alone
    rw [alone, List.filterMap_cons, patternOf?_of_stands stands]
    cases pattern? <;> rfl
  | @more line ends rest pattern? patterns whole stands isEnd written ih =>
    obtain ⟨others, behind, same⟩ := lines_ends isEnd rest
    rw [lines_append whole behind, List.append_nil, List.filterMap_cons, patternOf?_of_stands stands, same, ih]
    cases pattern? <;> rfl

/-- A text is read as the patterns that stand on its lines, each where it first stands. -/
theorem read_of_written {text : List Char} (written : Written text patterns) :
    read text = (patterns.map String.ofList).eraseDups := by
  rw [read, filterMap_lines written, ← foldl_addOnce_nil, List.foldl_map]

/-- Put each pattern on a line of its own. -/
def write (patterns : List (List Char)) : List Char :=
  patterns.flatMap (· ++ ['\n'])

/-- A line may hold nothing but a pattern, unless it is the head of a section then. -/
theorem stands_alone (isPattern : IsPattern pattern) (noHead : isHead pattern = false) :
    Stands pattern (some pattern) := by
  have nothing : AreBlank [] := nofun
  have alone : strip ([] ++ (pattern ++ [])) = pattern := strip_surrounded nothing isPattern.toIsBare nothing
  have stands : Stands ([] ++ (pattern ++ ([] ++ []))) (some pattern) := by
    apply Stands.pattern nothing isPattern nothing (.inl rfl)
    rw [List.append_nil, alone]
    exact noHead
  rwa [List.append_nil, List.append_nil] at stands

theorem written_write (each : forall p, p ∈ patterns -> IsPattern p ∧ isHead p = false) :
    Written (write patterns) patterns := by
  induction patterns with
  | nil =>
    have empty : Stands [] none := .blank (List.forall_mem_nil _)
    exact .last (List.forall_mem_nil _) empty
  | cons p patterns ih =>
    obtain ⟨isPattern, noHead⟩ := each p (List.mem_cons_self ..)
    have later := ih fun q member => each q (List.mem_cons_of_mem _ member)
    rw [write, List.flatMap_cons, List.append_assoc]
    exact .more isPattern.whole (stands_alone isPattern noHead) (.one (by decide)) later

/-! ## Patterns, each once -/

theorem mem_foldl_addOnce {p : String} {known more : List String} :
    p ∈ more.foldl addOnce known <-> p ∈ known ∨ p ∈ more := by
  rw [foldl_addOnce, List.mem_append, List.mem_eraseDups, List.mem_filter]
  by_cases seen : p ∈ known <;> simp [seen]

/-- Patterns that were gathered before are added as if they had not been. -/
theorem foldl_addOnce_foldl (more known patterns : List String) :
    (more.foldl addOnce known).foldl addOnce patterns = more.foldl addOnce (known.foldl addOnce patterns) := by
  induction more generalizing known with
  | nil => rfl
  | cons p more ih =>
    have first : (addOnce known p).foldl addOnce patterns = addOnce (known.foldl addOnce patterns) p := by
      by_cases seen : p ∈ known
      · have there : p ∈ known.foldl addOnce patterns := mem_foldl_addOnce.mpr (.inr seen)
        rw [addOnce, addOnce, if_pos (List.contains_iff_mem.mpr seen), if_pos (List.contains_iff_mem.mpr there)]
      · rw [addOnce, if_neg (mt List.contains_iff_mem.mp seen), List.foldl_append, List.foldl_cons, List.foldl_nil]
    rw [List.foldl_cons, ih, first, List.foldl_cons]

/-- Within its list and over all lists a pattern counts once either way. -/
theorem eraseDups_flatMap_eraseDups {α : Type} (l : List α) (held : α -> List String) :
    (l.flatMap fun a => (held a).eraseDups).eraseDups = (l.flatMap held).eraseDups := by
  have each : forall patterns a, (held a).eraseDups.foldl addOnce patterns = (held a).foldl addOnce patterns := by
    intro patterns a
    rw [← foldl_addOnce_nil, foldl_addOnce_foldl, List.foldl_nil]
  rw [← foldl_addOnce_nil, ← foldl_addOnce_nil, List.foldl_flatMap, List.foldl_flatMap]
  simp only [each]

end IgnoreFile

namespace Config

variable {d : Disk} {q : Path}

/-! ## Folders -/

/-- The patterns of the ignore file of a folder; there are none without a file. -/
inductive Holds (d : Disk) (q : Path) : List String -> Prop
  | nothing (absent : d.isFile (q.child ignoreName).text = .ok false) : Holds d q []
  | file {text : List Char} {patterns : List (List Char)}
    (bytes : d.readFile (q.child ignoreName).text = .ok (Encoding.Utf8.encode (String.ofList text)))
    (written : IgnoreFile.Written text patterns) : Holds d q (patterns.map String.ofList)

theorem decoded_encode (cs : List Char) : decoded (Encoding.Utf8.encode (String.ofList cs)) = .ok cs := by
  have chars : (Text.ofString (String.ofList cs)).map CodePoint.toChar = cs := by
    rw [Text.ofString, String.toList_ofList, List.map_map]
    exact List.map_id cs
  rw [decoded, Encoding.Utf8.decode_encode]
  exact congrArg Except.ok chars

theorem readIgnore_of_written {text : List Char} {patterns : List (List Char)}
    (bytes : d.readFile (q.child ignoreName).text = .ok (Encoding.Utf8.encode (String.ofList text)))
    (written : IgnoreFile.Written text patterns) :
    readIgnore d (q.child ignoreName) = .ok (patterns.map String.ofList).eraseDups := by
  rw [readIgnore, fileBytes_eq_ok_iff.mpr bytes, ← IgnoreFile.read_of_written written]
  show (decoded _ >>= fun text => .ok (IgnoreFile.read text)) = _
  rw [decoded_encode]
  rfl

theorem Holds.exists_isFile {patterns : List String} (holds : Holds d q patterns) :
    exists there, d.isFile (q.child ignoreName).text = .ok there := by
  cases holds with
  | nothing absent => exact ⟨false, absent⟩
  | file bytes written => exact ⟨true, Disk.isFile_eq_true_iff.mpr ⟨_, bytes⟩⟩

theorem Holds.exists_readIgnore {patterns : List String} (holds : Holds d q patterns)
    (present : d.isFile (q.child ignoreName).text = .ok true) :
    exists read, readIgnore d (q.child ignoreName) = .ok read := by
  cases holds with
  | nothing absent =>
    rw [absent] at present
    cases present
  | file bytes written => exact ⟨_, readIgnore_of_written bytes written⟩

theorem Holds.patternsAt {patterns : List String} (holds : Holds d q patterns) :
    patternsAt d q = patterns.eraseDups := by
  cases holds with
  | nothing absent =>
    obtain ⟨e, failed⟩ := exists_readIgnore_eq_error absent
    rw [Config.patternsAt, failed]
    rfl
  | file bytes written =>
    rw [Config.patternsAt, readIgnore_of_written bytes written]
    rfl

/-- The patterns that hold in a folder are those of the folders on the way to it. -/
theorem loadIgnore_eq {folder real : Path} {held : Path -> List String} (found : d.realPath folder = .ok real)
    (holds : forall q, q ∈ real.lineage -> Holds d q (held q)) :
    loadIgnore d folder = .ok (real.lineage.flatMap held).eraseDups := by
  have chain : searched d folder = .ok real.lineage := by rw [searched, found]
  have each : real.lineage.flatMap (patternsAt d) = real.lineage.flatMap fun q => (held q).eraseDups :=
    List.flatMap_congr fun q inside => (holds q inside).patternsAt
  have readable := ignoreOf_of_readable (fun q inside => (holds q inside).exists_isFile)
    fun q inside => (holds q inside).exists_readIgnore
  rw [loadIgnore, chain, ← IgnoreFile.eraseDups_flatMap_eraseDups, ← each]
  exact readable

/-- The folders on the way to a folder are the first ones on the way to every folder in it. -/
theorem lineage_prefix (p : Path) (names : List String) :
    p.lineage <+: ({ p with parts := p.parts ++ names } : Path).lineage := by
  have parts : p.lineage = (List.range (p.parts.length + 1)).map fun n => { p with parts := (p.parts ++ names).take n } := by
    apply List.map_congr_left
    intro n inside
    rw [List.take_append_of_le_length (Nat.le_of_lt_succ (List.mem_range.mp inside))]
  have numbers : List.range (p.parts.length + 1) <+: List.range ((p.parts ++ names).length + 1) := by
    rw [List.length_append, Nat.add_right_comm _ names.length, List.range_add (n := p.parts.length + 1)]
    exact List.prefix_append ..
  rw [parts]
  exact numbers.map _

/-- The patterns in the ignore files of a folder and the folders around it are read top to bottom, the farthest file
first, each once; and those of a folder around it come first. -/
theorem loadIgnore_of_holds {folder real : Path} {held : Path -> List String} (found : d.realPath folder = .ok real)
    (holds : forall q, q ∈ real.lineage -> Holds d q (held q)) :
    loadIgnore d folder = .ok (real.lineage.flatMap held).eraseDups ∧
      forall (around above : Path) (names : List String), d.realPath around = .ok above ->
        real = { above with parts := above.parts ++ names } ->
        exists patterns, loadIgnore d around = .ok patterns ∧ patterns <+: (real.lineage.flatMap held).eraseDups := by
  refine ⟨loadIgnore_eq found holds, ?_⟩
  intro around above names foundAround inside
  obtain ⟨later, folders⟩ := lineage_prefix above names
  rw [← inside] at folders
  have holdsAbove : forall q, q ∈ above.lineage -> Holds d q (held q) := by
    intro q member
    apply holds
    rw [← folders]
    exact List.mem_append_left _ member
  refine ⟨_, loadIgnore_eq foundAround holdsAbove, ?_⟩
  rw [← folders, List.flatMap_append, List.eraseDups_append]
  exact List.prefix_append ..

/-- An ignore file in a folder, and one in a folder around it, which share a pattern. -/
def twoIgnoreFiles : Disk where
  root := [(ignoreName, textFile "  b;[c] = x\r\n# note\n[head=]"),
    ("p", .folder [(ignoreName, textFile "b;[c]\n[d]e\n")])]
  current := ⟨.root, []⟩

theorem holds_twoIgnoreFiles :
    Holds twoIgnoreFiles ⟨.root, []⟩ ["b;[c]"] ∧ Holds twoIgnoreFiles ⟨.root, ["p"]⟩ ["b;[c]", "[d]e"] := by
  have inner : IgnoreFile.Written (IgnoreFile.write ["b;[c]".toList, "[d]e".toList]) ["b;[c]".toList, "[d]e".toList] := by
    apply IgnoreFile.written_write
    intro p member
    rcases List.mem_pair.mp member with rfl | rfl <;> decide
  have isPattern : IgnoreFile.IsPattern "b;[c]".toList := by decide
  have nothing : IgnoreFile.AreBlank [] := nofun
  have first : IgnoreFile.Stands ("  ".toList ++ ("b;[c]".toList ++ (" ".toList ++ "= x".toList))) (some "b;[c]".toList) :=
    .pattern (by decide) isPattern (by decide) (.inr ⟨_, rfl⟩) (by decide)
  have second : IgnoreFile.Stands ([] ++ '#' :: " note".toList) none := .comment nothing '#' (.inl rfl) _
  have third : IgnoreFile.Stands ([] ++ ('[' :: ("head=".toList ++ [']']) ++ [])) none := .head nothing _ nothing
  have outer := IgnoreFile.Written.more (by decide) first .both
    (.more (by decide) second (.one (by decide : IgnoreFile.isLineEnd '\n' = true)) (.last (by decide) third))
  exact ⟨.file (by decide +kernel) outer, .file (by decide +kernel) inner⟩

/-- The patterns of the outer file are read first, and the one that both files have is not read again. -/
theorem loadIgnore_twoIgnoreFiles :
    loadIgnore twoIgnoreFiles ⟨.here, ["p"]⟩ = .ok ["b;[c]", "[d]e"] ∧
      exists patterns, loadIgnore twoIgnoreFiles ⟨.root, []⟩ = .ok patterns ∧ patterns <+: ["b;[c]", "[d]e"] := by
  let held : Path -> List String := fun q => if q.parts = [] then ["b;[c]"] else ["b;[c]", "[d]e"]
  have found : twoIgnoreFiles.realPath ⟨.here, ["p"]⟩ = .ok ⟨.root, ["p"]⟩ := by rfl
  have holds : forall q, q ∈ (⟨.root, ["p"]⟩ : Path).lineage -> Holds twoIgnoreFiles q (held q) := by
    intro q inside
    rcases List.mem_pair.mp inside with rfl | rfl
    · exact holds_twoIgnoreFiles.1
    · exact holds_twoIgnoreFiles.2
  obtain ⟨loaded, first⟩ := loadIgnore_of_holds found holds
  have all : ((⟨.root, ["p"]⟩ : Path).lineage.flatMap held).eraseDups = ["b;[c]", "[d]e"] := by decide
  rw [all] at loaded first
  exact ⟨loaded, first ⟨.root, []⟩ ⟨.root, []⟩ ["p"] (by rfl) rfl⟩

/-- Where it cannot be said whether there is a file, no patterns are read at all. -/
theorem loadIgnore_ne_ok {folder : Path} {chain : List Path} {fault : FileFault} (found : searched d folder = .ok chain)
    (inside : q ∈ chain) (refused : d.isFile (q.child ignoreName).text = .error fault) (patterns : List String) :
    loadIgnore d folder ≠ .ok patterns := by
  intro loaded
  rw [loadIgnore, bind_eq_ok_iff] at loaded
  obtain ⟨chain', found', read⟩ := loaded
  rw [found] at found'
  cases found'
  rw [ignoreOf_eq, map_eq_ok_iff] at read
  obtain ⟨all, walked, -⟩ := read
  obtain ⟨held, isHeld⟩ := exists_ok_of_mapM walked inside
  rw [heldIn?_of_refused refused] at isHeld
  cases isHeld

/-- In a folder that is too deep to be searched no patterns are read, and not because of an ignore file: there is no
file at all. -/
theorem loadIgnore_deepFolder :
    deepDisk.isFolder deepFolder.text = true ∧ searched deepDisk deepFolder = .ok deepPath.lineage ∧
      (forall path bytes, deepDisk.readFile path ≠ .ok bytes) ∧
      forall patterns, loadIgnore deepDisk deepFolder ≠ .ok patterns := by
  refine ⟨Disk.isFolder_iff.mpr ⟨_, linked_deepDisk.leads⟩, searched_deepFolder, readFile_deepDisk_ne_ok, ?_⟩
  have tooLong := isFile_deepPath (List.mem_cons_of_mem _ (List.mem_cons_self ..))
  exact loadIgnore_ne_ok searched_deepFolder (Disk.mem_lineage_self deepPath) tooLong

end Config

end SchemaLint
