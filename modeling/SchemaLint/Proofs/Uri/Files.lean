import Mathlib.Data.List.TakeWhile
import SchemaLint.Proofs.Text.Encoding
import SchemaLint.Resolver.Load

/-!
# File URIs

Encoding leaves no character in a text at which a reference is cut, and decoding gives the text back, whatever it holds:
an escape that the text itself contains arrives with its percent sign encoded, and the bytes of a character are put
together before they are read.  A path that begins at the root therefore comes back from its file URI as it was, and a
schema named by the URI is read from the file at this path.
-/

namespace SchemaLint

namespace Percent

/-- The characters that an encoded text consists of. -/
def isEncoded (c : Char) : Bool :=
  isUnreserved c || c = '%'

/-! ## Encoded texts -/

theorem hexValue?_digit : forall n, n < 16 -> hexValue? (Nat.digitChar n).toUpper = some n := by
  decide

theorem isEncoded_digit : forall n, n < 16 -> isEncoded (Nat.digitChar n).toUpper = true := by
  decide

theorem isEncoded_of_mem_escape {b : UInt8} {c : Char} (member : c ∈ escape b) : isEncoded c = true := by
  have small := b.toNat_lt
  simp only [escape, List.mem_cons, List.not_mem_nil, or_false] at member
  rcases member with rfl | rfl | rfl
  · rfl
  · exact isEncoded_digit _ (by omega)
  · exact isEncoded_digit _ (by omega)

theorem isEncoded_of_mem_encode {cs : List Char} {c : Char} (member : c ∈ encode cs) : isEncoded c = true := by
  obtain ⟨d, -, inside⟩ := List.mem_flatMap.mp member
  by_cases unreserved : isUnreserved d = true
  · rw [if_pos unreserved, List.mem_singleton] at inside
    rw [inside, isEncoded, unreserved, Bool.true_or]
  · rw [if_neg unreserved] at inside
    obtain ⟨b, -, escaped⟩ := List.mem_flatMap.mp inside
    exact isEncoded_of_mem_escape escaped

theorem range_of_isAlphanum {c : Char} (isAlphanum : c.isAlphanum = true) : 0x20 < c.toNat ∧ c.toNat < 0x80 := by
  -- The classes of characters are opened as they are defined, one `or` after the other.
  rcases (Bool.or_eq_true _ _).mp isAlphanum with letter | digit
  · rcases (Bool.or_eq_true _ _).mp letter with upper | lower
    · have range : 'A'.val <= c.val ∧ c.val <= 'Z'.val := of_decide_eq_true upper
      change 65 <= c.toNat ∧ c.toNat <= 90 at range
      omega
    · have range := (Bool.and_eq_true _ _).mp lower
      rw [decide_eq_true_eq, decide_eq_true_eq] at range
      change 97 <= c.toNat ∧ c.toNat <= 122 at range
      omega
  · have range := (Bool.and_eq_true _ _).mp digit
    rw [decide_eq_true_eq, decide_eq_true_eq] at range
    change 48 <= c.toNat ∧ c.toNat <= 57 at range
    omega

/-- The characters of an encoded text are visible ASCII characters. -/
theorem range_of_isEncoded {c : Char} (encoded : isEncoded c = true) : 0x20 < c.toNat ∧ c.toNat < 0x80 := by
  simp only [isEncoded, isUnreserved, Bool.or_eq_true, decide_eq_true_eq] at encoded
  rcases encoded with (((((alphanum | rfl) | rfl) | rfl) | rfl) | rfl) | rfl
  · exact range_of_isAlphanum alphanum
  all_goals decide

/-! ## Decoding -/

theorem bytes_cons {c : Char} (plain : c ≠ '%') (rest : List Char) :
    bytes (c :: rest) = String.utf8EncodeChar c ++ bytes rest := by
  rw [bytes]
  rintro a b more rfl
  exact absurd rfl plain

theorem bytes_escape (b : UInt8) (rest : List Char) : bytes (escape b ++ rest) = b :: bytes rest := by
  have small := b.toNat_lt
  have number : b.toNat / 16 * 16 + b.toNat % 16 = b.toNat := by omega
  rw [escape, List.cons_append, List.cons_append, List.cons_append, List.nil_append, bytes,
    hexValue?_digit _ (by omega), hexValue?_digit _ (by omega)]
  dsimp only
  rw [number, UInt8.ofNat_toNat]

theorem bytes_escapes (bs : Bytes) (rest : List Char) : bytes (bs.flatMap escape ++ rest) = bs ++ bytes rest := by
  induction bs with
  | nil => rfl
  | cons b bs ih => rw [List.flatMap_cons, List.append_assoc, bytes_escape, ih, List.cons_append]

/-- An encoded text stands for the bytes of the text. -/
theorem bytes_encode (cs : List Char) : bytes (encode cs) = cs.flatMap String.utf8EncodeChar := by
  induction cs with
  | nil => rfl
  | cons c cs ih =>
    rw [encode, List.flatMap_cons, List.flatMap_cons, ← encode, ← ih]
    by_cases unreserved : isUnreserved c = true
    · rw [if_pos unreserved]
      refine bytes_cons ?_ _
      rintro rfl
      exact absurd unreserved (by decide)
    · rw [if_neg unreserved, bytes_escapes]

theorem decodeReplacing_skip (passed rest : Bytes) :
    decodeReplacing passed.length (passed ++ rest) = decodeReplacing 0 rest := by
  induction passed with
  | nil => rfl
  | cons b passed ih => rw [List.length_cons, List.cons_append, decodeReplacing, ih]

/-- The bytes of a text are read as this text, without a replacement. -/
theorem decodeReplacing_utf8 (cs : List Char) : decodeReplacing 0 (cs.flatMap String.utf8EncodeChar) = cs := by
  induction cs with
  | nil => rfl
  | cons c cs ih =>
    rw [List.flatMap_cons]
    have front := Encoding.Utf8.front_utf8EncodeChar c (cs.flatMap String.utf8EncodeChar)
    cases bytes : String.utf8EncodeChar c with
    | nil => exact absurd bytes String.utf8EncodeChar_ne_nil
    | cons b others =>
      rw [bytes, List.cons_append] at front
      rw [List.cons_append, decodeReplacing, front]
      dsimp only [List.length_cons]
      rw [Nat.add_sub_cancel, decodeReplacing_skip, ih]
      rfl

/-- A text of ASCII characters is a single run. -/
theorem decodeRuns_of_ascii {cs : List Char} (ascii : forall c, c ∈ cs -> c.toNat < 0x80) (run : List Char) :
    decodeRuns run cs = decodeReplacing 0 (bytes (run.reverse ++ cs)) := by
  induction cs generalizing run with
  | nil => rw [decodeRuns, List.append_nil]
  | cons c cs ih =>
    rw [decodeRuns, if_pos (ascii c (List.mem_cons_self ..)), ih fun d member => ascii d (List.mem_cons_of_mem _ member),
      List.reverse_cons, List.append_assoc, List.singleton_append]

theorem bytes_of_not_mem {cs : List Char} (plain : '%' ∉ cs) : bytes cs = cs.flatMap String.utf8EncodeChar := by
  induction cs with
  | nil => rfl
  | cons c cs ih =>
    rw [List.mem_cons, not_or] at plain
    rw [bytes_cons (Ne.symm plain.1), ih plain.2, List.flatMap_cons]

theorem decode_of_ascii {cs : List Char} (ascii : forall c, c ∈ cs -> c.toNat < 0x80) :
    decode cs = decodeReplacing 0 (bytes cs) := by
  rw [decode]
  by_cases escaped : cs.contains '%' = true
  · rw [if_pos escaped, decodeRuns_of_ascii ascii, List.reverse_nil, List.nil_append]
  · rw [if_neg escaped, bytes_of_not_mem (by simpa using escaped), decodeReplacing_utf8]

/-- What was encoded is decoded again. -/
theorem decode_encode (cs : List Char) : decode (encode cs) = cs := by
  have ascii : forall c, c ∈ encode cs -> c.toNat < 0x80 :=
    fun c member => (range_of_isEncoded (isEncoded_of_mem_encode member)).2
  rw [decode_of_ascii ascii, bytes_encode, decodeReplacing_utf8]

end Percent

namespace Uri

/-- A text in which a character does not stand is not cut at it. -/
theorem cutAt?_eq_none {c : Char} {cs : List Char} (absent : c ∉ cs) : cutAt? c cs = none := by
  have all : cs.dropWhile (· != c) = [] := by
    rw [List.dropWhile_eq_nil_iff]
    intro d member
    rw [bne_iff_ne]
    rintro rfl
    exact absent member
  rw [cutAt?, all]

/-- A reference without control characters is read as it stands. -/
theorem clean_of_visible {cs : List Char} (visible : forall c, c ∈ cs -> 0x20 < c.toNat) : clean cs = cs := by
  have start : cs.dropWhile isControl = cs := by
    cases cs with
    | nil => rfl
    | cons c rest =>
      refine List.dropWhile_cons_of_neg ?_
      rw [isControl, decide_eq_true_eq]
      exact Nat.not_le.mpr (visible c (List.mem_cons_self ..))
  rw [clean, start, List.filter_eq_self]
  intro c member
  have := visible c member
  simp only [Bool.and_eq_true, bne_iff_ne]
  refine ⟨⟨?_, ?_⟩, ?_⟩ <;> rintro rfl <;> exact absurd this (by decide)

/-- The file URI of an encoded path is cut into its scheme and its path; every other part is empty. -/
theorem split?_file {path : List Char} (encoded : forall c, c ∈ path -> Percent.isEncoded c = true)
    (rooted : path.head? = some '/') :
    split? ("file://".toList ++ path) =
      some { scheme := "file".toList, authority := [], path, params := [], query := [], fragment := [] } := by
  have plain : forall {c}, Percent.isEncoded c = false -> c ∉ path := by
    intro c other member
    rw [encoded c member] at other
    cases other
  have visible : forall c, c ∈ "file://".toList ++ path -> 0x20 < c.toNat := by
    intro c member
    have scheme : ("file://".toList.all fun c => decide (0x20 < c.toNat)) = true := by decide
    rcases List.mem_append.mp member with front | inside
    · exact of_decide_eq_true (List.all_eq_true.mp scheme c front)
    · exact (Percent.range_of_isEncoded (encoded c inside)).1
  have scheme : cutScheme ("file://".toList ++ path) = ("file".toList, "//".toList ++ path) := rfl
  have authority : cutAuthority ("//".toList ++ path) = ([], path) := by
    obtain ⟨rest, rfl⟩ := List.head?_eq_some_iff.mp rooted
    rfl
  have whole : splitWhole? [] ("file://".toList ++ path) =
      some { scheme := "file".toList, authority := [], path, params := [], query := [], fragment := [] } := by
    simp only [splitWhole?, clean_of_visible visible, scheme, authority, cutAt?_eq_none (plain (c := '#') rfl),
      cutAt?_eq_none (plain (c := '?') rfl), Option.getD_none]
    rfl
  rw [split?, splitWith?, whole]
  rfl

end Uri

namespace Path

/-- The file URI of a written path. -/
def fileUri (path : String) : String :=
  "file://" ++ String.ofList (Percent.encode path.toList)

end Path

namespace Reference

theorem parts_fileUri {path : String} (rooted : path.toList.head? = some '/') :
    parts (Path.fileUri path) =
      .ok { scheme := "file".toList, authority := [], path := Percent.encode path.toList, params := [], query := [],
            fragment := [] } := by
  have first : (Percent.encode path.toList).head? = some '/' := by
    obtain ⟨rest, chars⟩ := List.head?_eq_some_iff.mp rooted
    rw [chars]
    rfl
  have chars : (Path.fileUri path).toList = "file://".toList ++ Percent.encode path.toList := by
    rw [Path.fileUri, String.toList_append]
    exact congrArg ("file://".toList ++ ·) String.toList_ofList
  rw [parts, chars, Uri.split?_file (fun _ => Percent.isEncoded_of_mem_encode) first]

theorem isRemote_fileUri {path : String} (rooted : path.toList.head? = some '/') :
    isRemote (Path.fileUri path) = .ok false := by
  rw [isRemote, parts_fileUri rooted]
  rfl

/-- The path of a file URI is the path that was encoded, read without a home folder. -/
theorem localPath_fileUri (homes : Homes) {path : String} (rooted : path.toList.head? = some '/') :
    localPath homes (Path.fileUri path) = .ok (.ofString path) := by
  rw [localPath, parts_fileUri rooted]
  dsimp only [bind, Except.bind]
  rw [if_pos rfl, Percent.decode_encode]
  rfl

/-- The file URI of a path from the root, written the way paths are written, is no remote reference and stands for this
very path, and a schema that it names is what the file at the path holds. -/
theorem load_fileUri (s : Sources) (w : World) {path : String} (rooted : path.toList.head? = some '/')
    (written : (Path.ofString path).text = path) :
    isRemote (Path.fileUri path) = .ok false ∧
      (exists p, localPath s.homes (Path.fileUri path) = .ok p ∧ p.text = path) ∧
      forall bytes, w.disk.readFile path = .ok bytes ->
        Load.step s (Path.fileUri path) w .begun = (.ended (Schema.read (Path.fileUri path) (.bytes bytes)), w) := by
  have found := localPath_fileUri s.homes rooted
  refine ⟨isRemote_fileUri rooted, ⟨_, found, written⟩, ?_⟩
  intro bytes read
  have loaded : Load.ofFile s (Path.fileUri path) w.disk = Schema.read (Path.fileUri path) (.bytes bytes) := by
    rw [Load.ofFile, found]
    dsimp only [Except.mapError, bind, Except.bind]
    rw [written, read]
  rw [Load.step, isRemote_fileUri rooted]
  dsimp only
  rw [loaded]

/-- A path with delimiters, with an escape of its own and with characters beyond ASCII. -/
def delimitedPath : String :=
  "/a b/100%25;v=1?#é𝄞.json"

/-- A world with a single file, which lies at this path. -/
def delimitedWorld : World where
  disk := { root := [("a b", .folder [("100%25;v=1?#é𝄞.json", .file [0x7B, 0x7D])])], current := ⟨.root, []⟩ }
  network := ⟨[], []⟩

/-- Sources that are not asked for a local schema. -/
def otherSources : Sources where
  homes := ⟨"/home", []⟩
  cache := ⟨⟨.root, ["cache"]⟩⟩

theorem load_delimitedPath :
    let uri := "file:///a%20b/100%2525%3Bv%3D1%3F%23%C3%A9%F0%9D%84%9E.json"
    isRemote uri = .ok false ∧
      (exists p, localPath otherSources.homes uri = .ok p ∧ p.text = delimitedPath) ∧
      Load.step otherSources uri delimitedWorld .begun =
        (.ended (Schema.read uri (.bytes [0x7B, 0x7D])), delimitedWorld) := by
  intro uri
  have encoded : Path.fileUri delimitedPath = uri := by decide +kernel
  have written : (Path.ofString delimitedPath).text = delimitedPath := by decide +kernel
  have rooted : delimitedPath.toList.head? = some '/' := rfl
  have unwrapped := load_fileUri otherSources delimitedWorld rooted written
  rw [encoded] at unwrapped
  obtain ⟨here, found, loaded⟩ := unwrapped
  exact ⟨here, found, loaded [0x7B, 0x7D] rfl⟩

end Reference

end SchemaLint
