import SchemaLint.Proofs.Classified
import SchemaLint.Proofs.Resolver.Apart
import SchemaLint.Proofs.Resolver.Lone

/-!
# How loads end

The load of a reference ends with a schema, with the error that the schema cannot be had, which names the reference, or in
a crash.  Crashes are due to references that cannot be cut into parts, to homes that nobody has, to characters that no
path can hold, to addresses that are none, and to texts that JSON has no room for: integers of too many digits, and too
many arrays and objects inside one another.
-/

namespace SchemaLint

open Json (Value)

/-- The error that a schema cannot be had, which names the reference. -/
def Carries (u : String) (e : LintError) : Prop :=
  exists reason, e = .schemaUnavailable reason (some u)

/-! ## Reading schemas -/

/-- Why bytes end the reading of a schema in a crash. -/
inductive Unreadable (bytes : Bytes) : Crash -> Prop
  | long {t : Text} (text : Encoding.decodeDetected bytes = .ok t) {count : Nat}
    (long : Json.readDecoded .lenient t = .error (.tooManyDigits count)) : Unreadable bytes .value
  | deep {t : Text} (text : Encoding.decodeDetected bytes = .ok t)
    (deep : Json.readDecoded .lenient t = .error .tooDeep) : Unreadable bytes .recursion

theorem classified_read (u : String) (bytes : Bytes) :
    Classified (Carries u) (Unreadable bytes) (Schema.read u (.bytes bytes)) := by
  unfold Schema.read
  dsimp only
  cases text : Encoding.decodeDetected bytes with
  | error fault =>
    refine (Classified.refusal ⟨_, rfl⟩).congr fun c => ⟨False.elim, ?_⟩
    rintro (⟨text', -⟩ | ⟨text', -⟩)
    · cases text.symm.trans text'
    · cases text.symm.trans text'
  | ok t =>
    dsimp only
    have other : forall {e c}, Json.readDecoded .lenient t = .error e -> Unreadable bytes c ->
        (exists count, e = .tooManyDigits count ∧ c = .value) ∨ (e = .tooDeep ∧ c = .recursion) := by
      rintro e c read (⟨text', long⟩ | ⟨text', deep⟩)
      · cases text.symm.trans text'
        cases read.symm.trans long
        exact .inl ⟨_, rfl, rfl⟩
      · cases text.symm.trans text'
        cases read.symm.trans deep
        exact .inr ⟨rfl, rfl⟩
    cases read : Json.readDecoded .lenient t with
    | ok v =>
      refine (Classified.ok v).congr fun c => ⟨False.elim, ?_⟩
      rintro (⟨text', long⟩ | ⟨text', deep⟩)
      · cases text.symm.trans text'
        cases read.symm.trans long
      · cases text.symm.trans text'
        cases read.symm.trans deep
    | error e =>
      cases e with
      | tooManyDigits count =>
        refine (Classified.crashed .value).congr fun c => ⟨?_, fun unreadable => ?_⟩
        · rintro rfl
          exact .long text read
        · rcases other read unreadable with ⟨_, _, rfl⟩ | ⟨same, _⟩
          · rfl
          · cases same
      | tooDeep =>
        refine (Classified.crashed .recursion).congr fun c => ⟨?_, fun unreadable => ?_⟩
        · rintro rfl
          exact .deep text read
        · rcases other read unreadable with ⟨_, same, _⟩ | ⟨_, rfl⟩
          · cases same
          · rfl
      | malformed complaint position =>
        refine (Classified.refusal ⟨_, rfl⟩).congr fun c => ⟨False.elim, fun unreadable => ?_⟩
        rcases other read unreadable with ⟨_, same, _⟩ | ⟨same, _⟩ <;> cases same
      | constant constant =>
        refine (Classified.refusal ⟨_, rfl⟩).congr fun c => ⟨False.elim, fun unreadable => ?_⟩
        rcases other read unreadable with ⟨_, same, _⟩ | ⟨same, _⟩ <;> cases same

/-! ## Requests -/

namespace Http

/-- A request is led to an address that is none, at once or later. -/
inductive Strays (accept : String) : Nat -> String -> Address -> Network -> Prop
  | here {hops : Nat} {method : String} {address : Address} {n n' : Network} {r : Reply} {location : String}
    {fault : AddressFault} (sent : n.send ⟨method, address.text, accept⟩ = (.reply r, n'))
    (leads : r.location? = some location) (astray : nextAddress address location = .error (.address fault)) :
    Strays accept (hops + 1) method address n
  | later {hops : Nat} {method : String} {address next : Address} {n n' : Network} {r : Reply} {location : String}
    (sent : n.send ⟨method, address.text, accept⟩ = (.reply r, n')) (leads : r.location? = some location)
    (onward : nextAddress address location = .ok next) (strays : Strays accept hops (r.nextMethod method) next n') :
    Strays accept (hops + 1) method address n

theorem sendFollowing_strays (accept : String) (hops : Nat) (method : String) (address : Address) (n : Network) :
    (exists fault, (sendFollowing accept hops method address n).1 = .error (.address fault)) <->
      Strays accept hops method address n := by
  induction hops generalizing method address n with
  | zero =>
    constructor
    · rintro ⟨fault, same⟩
      cases same
    · intro strays
      cases strays
  | succ hops ih =>
    constructor
    · rintro ⟨fault, failed⟩
      unfold sendFollowing at failed
      split at failed
      · cases failed
      · cases failed
      next r n' sent =>
        split at failed
        · cases failed
        next location leads =>
          split at failed
          next fault' astray =>
            cases failed
            exact .here sent leads astray
          next next onward => exact .later sent leads onward ((ih ..).mp ⟨fault, failed⟩)
    · rintro (⟨sent, leads, astray⟩ | ⟨sent, leads, onward, strays⟩)
      · unfold sendFollowing
        rw [sent]
        simp only [leads, astray]
        exact ⟨_, rfl⟩
      · obtain ⟨fault, failed⟩ := (ih ..).mpr strays
        unfold sendFollowing
        rw [sent]
        simp only [leads, onward]
        exact ⟨fault, failed⟩

/-- Why a request ends in a crash. -/
inductive Misdirected (url accept : String) (n : Network) : Prop
  | none {fault : AddressFault} (unread : Address.ofRequest url = .error fault) : Misdirected url accept n
  | strays {address : Address} (read : Address.ofRequest url = .ok address)
    (strays : Strays accept (hopLimit + 1) "GET" address n) : Misdirected url accept n

theorem request_eq_crash_iff (url accept : String) (n : Network) (c : Crash) :
    (request "GET" url accept n).1 = .error (.crash c) <-> c = .address ∧ Misdirected url accept n := by
  have upper : "GET".toUpper = "GET" := by decide +kernel
  have strays := sendFollowing_strays accept (hopLimit + 1) "GET"
  unfold request
  rw [upper]
  cases read : Address.ofRequest url with
  | error fault =>
    constructor
    · intro crashed
      cases crashed
      exact ⟨rfl, .none read⟩
    · rintro ⟨rfl, -⟩
      rfl
  | ok address =>
    change (sendFollowing accept (hopLimit + 1) "GET" address n).1.mapError _ = _ <-> _
    rw [mapError_eq_error_iff]
    constructor
    · rintro ⟨fault, failed, crashed⟩
      cases fault with
      | broken reason => cases crashed
      | late => cases crashed
      | address fault =>
        cases crashed
        exact ⟨rfl, .strays read ((strays address n).mp ⟨fault, failed⟩)⟩
    · rintro ⟨rfl, unread | ⟨read', astray⟩⟩
      · cases read.symm.trans ‹Address.ofRequest url = .error _›
      · cases read.symm.trans read'
        obtain ⟨fault, failed⟩ := (strays address n).mpr astray
        exact ⟨.address fault, failed, rfl⟩

end Http

namespace Load

variable {s : Sources} {u : String} {w : World} {n : Http.Network}

/-- Why asking the network for a reference ends in a crash. -/
inductive Unfetchable (u : String) (n : Http.Network) : Crash -> Prop
  | address (misdirected : Http.Misdirected u schemaContent n) : Unfetchable u n .address
  | body {reply : Http.Reply} (answered : (Http.request "GET" u schemaContent n).1 = .ok reply)
    (good : reply.isOk = true) {c : Crash} (unreadable : Unreadable reply.body c) : Unfetchable u n c

theorem classified_fetch (u : String) (n : Http.Network) :
    Classified (Carries u) (Unfetchable u n) (fetch u n).1 := by
  have crash := Http.request_eq_crash_iff u schemaContent n
  unfold fetch
  split
  next e n' answered =>
    rw [answered] at crash
    refine (Classified.refusal ⟨_, rfl⟩).congr fun c => ⟨False.elim, ?_⟩
    rintro (misdirected | ⟨answered', -, -⟩)
    · cases (crash _).mpr ⟨rfl, misdirected⟩
    · rw [answered] at answered'
      cases answered'
  next c n' answered =>
    rw [answered] at crash
    refine (Classified.crashed c).congr fun c' => ⟨?_, ?_⟩
    · rintro rfl
      obtain ⟨rfl, misdirected⟩ := (crash c).mp rfl
      exact .address misdirected
    · rintro (misdirected | ⟨answered', -, -⟩)
      · cases (crash _).mpr ⟨rfl, misdirected⟩
        rfl
      · rw [answered] at answered'
        cases answered'
  next reply n' answered =>
    rw [answered] at crash
    split
    next good =>
      refine (classified_read u reply.body).map.congr fun c => ⟨?_, ?_⟩
      · intro unreadable
        exact .body (by rw [answered]) good unreadable
      · rintro (misdirected | ⟨answered', -, unreadable⟩)
        · cases (crash _).mpr ⟨rfl, misdirected⟩
        · rw [answered] at answered'
          cases answered'
          exact unreadable
    next bad =>
      refine (Classified.refusal ⟨_, rfl⟩).congr fun c => ⟨False.elim, ?_⟩
      rintro (misdirected | ⟨answered', good, -⟩)
      · cases (crash _).mpr ⟨rfl, misdirected⟩
      · rw [answered] at answered'
        cases answered'
        exact bad good

/-! ## Files and entries of the cache -/

/-- Why reading the file of a local reference ends in a crash: nobody has the home that it names or can have it, no path can
hold one of its characters, or the file cannot be read as a schema. -/
inductive Unopened (s : Sources) (u : String) (d : Disk) : Crash -> Prop
  | home (homeless : Reference.localPath s.homes u = .error .runtime) : Unopened s u d .runtime
  | name (nameless : Reference.localPath s.homes u = .error .value) : Unopened s u d .value
  | character {p : Path} (path : Reference.localPath s.homes u = .ok p)
    (refused : d.readFile p.text = .error .badCharacter) : Unopened s u d .value
  | contents {p : Path} (path : Reference.localPath s.homes u = .ok p) {bytes : Bytes}
    (read : d.readFile p.text = .ok bytes) {c : Crash} (unreadable : Unreadable bytes c) : Unopened s u d c

theorem isRemote_eq_error_iff {c : Crash} :
    Reference.isRemote u = .error c <-> c = .value ∧ Uri.split? u.toList = none := by
  unfold Reference.isRemote Reference.parts
  cases Uri.split? u.toList with
  | none => simp [bind, Except.bind, eq_comm]
  | some uri => simp [bind, Except.bind, pure, Except.pure]

theorem eq_of_expand {homes : Homes} {p : Path} {c : Crash} (lost : homes.expand p = .error c) :
    c = .runtime ∨ c = .value := by
  unfold Homes.expand at lost
  split at lost
  · split at lost
    · split at lost
      · cases lost
        exact .inr rfl
      · split at lost
        · split at lost
          · cases lost
            exact .inl rfl
          · cases lost
        · cases lost
          exact .inl rfl
    · cases lost
  · cases lost

/-- The path of a reference that can be cut into parts is missing only if a home is. -/
theorem eq_of_localPath {c : Crash} {remote : Bool} (cut : Reference.isRemote u = .ok remote)
    (lost : Reference.localPath s.homes u = .error c) : c = .runtime ∨ c = .value := by
  unfold Reference.localPath at lost
  rcases bind_eq_error_iff.mp lost with uncut | ⟨uri, -, lost⟩
  · have failed : Reference.isRemote u = .error c := bind_eq_error_iff.mpr (.inl uncut)
    cases cut.symm.trans failed
  · split at lost
    · cases lost
    · exact eq_of_expand lost

theorem classified_ofFile {remote : Bool} (cut : Reference.isRemote u = .ok remote) (d : Disk) :
    Classified (Carries u) (Unopened s u d) (ofFile s u d) := by
  unfold ofFile
  cases path : Reference.localPath s.homes u with
  | error c =>
    refine (Classified.crashed c).congr fun c' => ⟨?_, ?_⟩
    · rintro rfl
      rcases eq_of_localPath cut path with rfl | rfl
      · exact .home path
      · exact .name path
    · rintro (homeless | nameless | ⟨path', -⟩ | ⟨path', -⟩)
      · cases path.symm.trans homeless
        rfl
      · cases path.symm.trans nameless
        rfl
      · cases path.symm.trans path'
      · cases path.symm.trans path'
  | ok p =>
    dsimp only [Except.mapError, bind, Except.bind]
    have unopened : forall {c}, Unopened s u d c <-> (d.readFile p.text = .error .badCharacter ∧ c = .value) ∨
        exists bytes, d.readFile p.text = .ok bytes ∧ Unreadable bytes c := by
      intro c
      constructor
      · rintro (homeless | nameless | ⟨path', refused⟩ | ⟨path', read, unreadable⟩)
        · cases path.symm.trans homeless
        · cases path.symm.trans nameless
        · cases path.symm.trans path'
          exact .inl ⟨refused, rfl⟩
        · cases path.symm.trans path'
          exact .inr ⟨_, read, unreadable⟩
      · rintro (⟨refused, rfl⟩ | ⟨bytes, read, unreadable⟩)
        · exact .character path refused
        · exact .contents path read unreadable
    cases read : d.readFile p.text with
    | ok bytes =>
      refine (classified_read u bytes).congr fun c => ?_
      rw [unopened, read]
      simp
    | error fault =>
      have orderly : fault ≠ .badCharacter -> forall c, False <-> Unopened s u d c := by
        intro other c
        rw [unopened, read]
        simp [other]
      cases fault with
      | badCharacter =>
        refine (Classified.crashed .value).congr fun c => ?_
        rw [unopened, read]
        simp [eq_comm]
      | missing | present | notFolder | isFolder | nameTooLong | tooManyLinks | notEmpty =>
        exact (Classified.refusal ⟨_, rfl⟩).congr (orderly (by simp))

/-- What the cache has for a reference is a schema, or it is why the load ends in a crash. -/
theorem classified_ofCache? {d : Disk} {outcome : Except Failed Value} (found : ofCache? s u d = some outcome) :
    Classified (Carries u) (fun c => exists bytes, s.cache.read d u = some bytes ∧ Unreadable bytes c) outcome := by
  unfold ofCache? at found
  split at found
  · cases found
  next bytes cached =>
    have read := classified_read u bytes
    split at found
    · cases found
    · cases found
      exact read.congr fun c => by simp [cached]

/-! ## Loads -/

/-- Why the load of a reference that begins with a disk, and asks a network if it has to, ends in a crash. -/
inductive Breaks (s : Sources) (u : String) (d : Disk) (n : Http.Network) : Crash -> Prop
  /-- The reference cannot be cut into parts. -/
  | parts (uncut : Uri.split? u.toList = none) : Breaks s u d n .value
  | file (here : Reference.isRemote u = .ok false) {c : Crash} (unopened : Unopened s u d c) : Breaks s u d n c
  /-- An entry of the cache that cannot be read is not passed over. -/
  | entry (remote : Reference.isRemote u = .ok true) {bytes : Bytes} (cached : s.cache.read d u = some bytes) {c : Crash}
    (unreadable : Unreadable bytes c) : Breaks s u d n c
  | network (remote : Reference.isRemote u = .ok true) (absent : ofCache? s u d = none) {c : Crash}
    (unfetchable : Unfetchable u n c) : Breaks s u d n c

/-- Where the cache has nothing, no entry of it is in the way. -/
theorem not_unreadable_of_absent {d : Disk} (absent : ofCache? s u d = none) {bytes : Bytes}
    (cached : s.cache.read d u = some bytes) {c : Crash} : ¬ Unreadable bytes c := by
  intro unreadable
  have crashed := ((classified_read u bytes).crash c).mpr unreadable
  unfold ofCache? at absent
  rw [cached] at absent
  simp only [crashed] at absent
  cases absent

/-- A load that is left alone is classified. -/
theorem classified_expected (s : Sources) (u : String) (w : World) :
    Classified (Carries u) (Breaks s u w.disk w.network) (expected s u w) := by
  have uncut : forall {remote}, Reference.isRemote u = .ok remote -> Uri.split? u.toList ≠ none := by
    intro remote cut none
    cases cut.symm.trans (isRemote_eq_error_iff.mpr ⟨rfl, none⟩)
  unfold expected
  rcases remote : Reference.isRemote u with c | local? | _
  · obtain ⟨rfl, none⟩ := isRemote_eq_error_iff.mp remote
    refine (Classified.crashed .value).congr fun c => ⟨?_, ?_⟩
    · rintro rfl
      exact .parts none
    · rintro (_ | ⟨here, _⟩ | ⟨remote', _⟩ | ⟨remote', _⟩)
      · rfl
      · cases remote.symm.trans here
      · cases remote.symm.trans remote'
      · cases remote.symm.trans remote'
  · refine (classified_ofFile remote w.disk).congr fun c => ⟨.file remote, ?_⟩
    rintro (none | ⟨here, unopened⟩ | ⟨remote', _⟩ | ⟨remote', _⟩)
    · exact absurd none (uncut remote)
    · exact unopened
    · cases remote.symm.trans remote'
    · cases remote.symm.trans remote'
  · dsimp only
    cases found : ofCache? s u w.disk with
    | some outcome =>
      refine (classified_ofCache? found).congr fun c => ⟨?_, ?_⟩
      · rintro ⟨bytes, cached, unreadable⟩
        exact .entry remote cached unreadable
      · rintro (none | ⟨here, _⟩ | ⟨_, cached, unreadable⟩ | ⟨_, absent, _⟩)
        · exact absurd none (uncut remote)
        · cases remote.symm.trans here
        · exact ⟨_, cached, unreadable⟩
        · cases found.symm.trans absent
    | none =>
      refine (classified_fetch u w.network).map.congr fun c => ⟨.network remote found, ?_⟩
      rintro (none | ⟨here, _⟩ | ⟨_, cached, unreadable⟩ | ⟨_, _, unfetchable⟩)
      · exact absurd none (uncut remote)
      · cases remote.symm.trans here
      · exact absurd unreadable (not_unreadable_of_absent found cached)
      · exact unfetchable

/-- How a load may end that saw certain worlds: with a schema, with the error that the schema cannot be had, or in a crash
that one of the worlds explains, or two of them. -/
inductive Ends (s : Sources) (u : String) (seen : World -> Prop) : Except Failed Value -> Prop
  | schema (v : Value) : Ends s u seen (.ok v)
  | unavailable {e : LintError} (carries : Carries u e) : Ends s u seen (.error (.error e))
  | crash {w w' : World} (first : seen w) (second : seen w') {c : Crash} (breaks : Breaks s u w.disk w'.network c) :
    Ends s u seen (.error (.crash c))

theorem ends_of_classified {seen : World -> Prop} {trouble : Crash -> Prop} {r : Except Failed Value}
    (classified : Classified (Carries u) trouble r)
    (explained : forall c, trouble c -> exists w w', seen w ∧ seen w' ∧ Breaks s u w.disk w'.network c) :
    Ends s u seen r := by
  rcases r with (e | c) | v
  · exact .unavailable (classified.orderly e rfl)
  · obtain ⟨w, w', first, second, breaks⟩ := explained c ((classified.crash c).mp rfl)
    exact .crash first second breaks
  · exact .schema v

/-- How far a load may have come that saw certain worlds. -/
inductive Comes (s : Sources) (u : String) (seen : World -> Prop) : Load -> Prop
  | begun : Comes s u seen begun
  | asking {w : World} (first : seen w) (remote : Reference.isRemote u = .ok true) (absent : ofCache? s u w.disk = none) :
    Comes s u seen asking
  | storing {schema : Value} {body : Bytes} {writing : Cache.Writing} : Comes s u seen (storing schema body writing)
  | ended {outcome : Except Failed Value} (ends : Ends s u seen outcome) : Comes s u seen (ended outcome)

/-- A load that ends in its first step ends as it would if it were left alone. -/
theorem expected_of_step_begun {outcome : Except Failed Value} (ended : (begun.step s u w).1 = ended outcome) :
    outcome = expected s u w := by
  revert ended
  unfold step expected
  cases Reference.isRemote u with
  | error c => exact fun ended => (Load.ended.inj ended).symm
  | ok remote =>
    cases remote with
    | false => exact fun ended => (Load.ended.inj ended).symm
    | true =>
      dsimp only
      cases ofCache? s u w.disk with
      | some outcome' => exact fun ended => (Load.ended.inj ended).symm
      | none => exact fun ended => nomatch ended

theorem Comes.next {seen : World -> Prop} {load : Load} {next : Load × World} (comes : Comes s u seen load) (now : seen w)
    (taken : Next s u w load next) : Comes s u seen next.1 := by
  cases comes with
  | begun =>
    rcases taken with rfl | rfl
    · rcases step_begun s u w with ⟨outcome, ended⟩ | ⟨remote, absent, asks⟩
      · rw [ended]
        have same := expected_of_step_begun (congrArg Prod.fst ended)
        rw [same]
        exact .ended (ends_of_classified (classified_expected s u w) fun c breaks => ⟨w, w, now, now, breaks⟩)
      · rw [asks]
        exact .asking now remote absent
    · exact .begun
  | asking first remote absent =>
    rcases taken with rfl | rfl
    · rcases step_asking s u w with ⟨failed, failing, ended⟩ | ⟨schema, body, -, stores⟩
      · rw [ended]
        have classified := (classified_fetch u w.network).map (f := Prod.fst)
        rw [failing] at classified
        exact .ended (ends_of_classified classified fun c unfetchable =>
          ⟨_, w, first, now, .network remote absent unfetchable⟩)
      · rw [stores]
        exact .storing
    · exact .asking first remote absent
  | storing =>
    rcases next_of_storing taken with ⟨writing, same⟩ | same
    · rw [same]
      exact .storing
    · rw [same]
      exact .ended (.schema _)
  | ended ends =>
    rw [next_of_ended taken]
    exact .ended ends

end Load

namespace Session

variable {s : Sources} {σ : Session} {events left : List Event}

/-- The worlds that a session comes through. -/
def Seen (s : Sources) (σ : Session) (events : List Event) (w : World) : Prop :=
  exists σ' left, Passes s σ events σ' left ∧ σ'.world = w

/-- Whatever happens in a session, every load of it comes as far as the worlds explain. -/
theorem comes_of_passes {count : Nat} {w : World} (passes : Passes s (start count w) events σ left) {key : Nat × Nat}
    {u : String} {load : Load} (found : σ.loads key = some (u, load)) :
    load.Comes s u (Seen s (start count w) events) := by
  have all : forall key u load, σ.loads key = some (u, load) -> Load.Comes s u (Seen s (start count w) events) load := by
    refine passes.invariant (motive := fun σ => forall key u load, σ.loads key = some (u, load) ->
      Load.Comes s u (Seen s (start count w) events) load) ?_ ?_
    · intro key u load found
      rw [loads_start] at found
      cases found
    · intro σ' event rest passes comes
      cases event with
      | change world => exact comes
      | act j action =>
        refine (concerns_take s σ' j action).all_loads comes (fun _ _ _ => .begun) ?_
        intro i u load next there taken _
        exact (comes _ _ _ there).next ⟨σ', _, passes, rfl⟩ (taken.imp And.right And.right)
  exact all key u load found

/-- Whatever happens in a session, every answer is one that the worlds explain. -/
theorem ends_of_passes {count : Nat} {w : World} (passes : Passes s (start count w) events σ left) {j : Nat}
    {r : Resolver} (found : σ.resolvers[j]? = some r) {c : Resolver.Call} (member : c ∈ r.calls)
    {outcome : Except Failed Value} (answered : c.answer = some outcome) :
    Load.Ends s c.reference (Seen s (start count w) events) outcome := by
  have sound : r.Sound :=
    passes.invariant (isSound_start count w) (fun _ sound => sound.take s _) j r found
  obtain ⟨i, f, there, reference, ended⟩ := sound.exists_of_answer member answered
  have finished : σ.loads (j, i) = some (f.reference, .ended outcome) := by
    rw [loads_of_found found, Resolver.loadAt, there, Option.map_some, Resolver.Flight.outcome?_eq_some_iff.mp ended]
  have comes := comes_of_passes passes finished
  rw [reference] at comes
  cases comes with
  | ended ends => exact ends

end Session

/-! ## A load alone -/

namespace Load

variable {s : Sources} {u : String} {w : World}

/-- How far the only load can have come that began in a world, and what the world is then. -/
inductive OnWay (s : Sources) (u : String) (w : World) : Load -> World -> Prop
  | begun : OnWay s u w begun w
  | asking (remote : Reference.isRemote u = .ok true) (absent : ofCache? s u w.disk = none) : OnWay s u w asking w
  | storing {schema : Value} {body : Bytes} {writing : Cache.Writing} {now : World}
    (came : expected s u w = .ok schema) : OnWay s u w (storing schema body writing) now
  | ended {outcome : Except Failed Value} {now : World} (came : expected s u w = outcome) :
    OnWay s u w (ended outcome) now

theorem OnWay.next {load : Load} {now : World} {next : Load × World} (onWay : OnWay s u w load now)
    (taken : Next s u now load next) : OnWay s u w next.1 next.2 := by
  cases onWay with
  | begun =>
    rcases taken with rfl | rfl
    · rcases step_begun s u w with ⟨outcome, ended⟩ | ⟨remote, absent, asks⟩
      · rw [ended]
        exact .ended (expected_of_step_begun (congrArg Prod.fst ended)).symm
      · rw [asks]
        exact .asking remote absent
    · exact .begun
  | asking remote absent =>
    have asked : expected s u w = (fetch u w.network).1.map Prod.fst := by
      unfold expected
      simp only [remote, absent]
    rcases taken with rfl | rfl
    · rcases step_asking s u w with ⟨failed, failing, ended⟩ | ⟨schema, body, came, stores⟩
      · rw [ended]
        exact .ended (by rw [asked, failing]; rfl)
      · rw [stores]
        exact .storing (by rw [asked, came]; rfl)
    · exact .asking remote absent
  | storing came =>
    obtain ⟨load', world'⟩ := next
    rcases next_of_storing taken with ⟨writing, same⟩ | same
    · cases same
      exact .storing came
    · cases same
      exact .ended came
  | ended came =>
    rw [next_of_ended taken]
    exact .ended came

theorem OnWay.of_ended {outcome : Except Failed Value} {now : World} (onWay : OnWay s u w (.ended outcome) now) :
    expected s u w = outcome := by
  cases onWay with
  | ended came => exact came

end Load

namespace Resolver

theorem lasts_onWay (s : Sources) (u : String) (w : World) : Lasts s u fun _ => Load.OnWay s u w where
  step := fun onWay => onWay.next (.inl rfl)
  refuse := fun onWay => onWay.next (.inr rfl)

/-- A reference that a new resolver is asked for comes to what is expected of a load that is left alone. -/
theorem resolve_fresh (s : Sources) (w : World) (u : String) : (fresh.resolve s w u).1 = Load.expected s u w := by
  obtain ⟨c, calls, answered⟩ := exists_answer_inTurn s w u
  have onWay := holds_of_answer (lasts_onWay s u w) .begun (noCalls_inTurn _) (calls ▸ List.mem_singleton_self c) answered
  exact onWay.of_ended.symm

/-- A new resolver answers a reference with its schema or with the error that it cannot be had, which names the reference,
or the load of it breaks; and so does every call of every resolver, whatever happens in a session. -/
theorem answers_classified (s : Sources) (w : World) (u : String) :
    Classified (Carries u) (Load.Breaks s u w.disk w.network) (fresh.resolve s w u).1 ∧
      forall count events σ left, Session.Passes s (Session.start count w) events σ left ->
        forall (j : Nat) (r : Resolver), σ.resolvers[j]? = some r -> forall c, c ∈ r.calls ->
          forall outcome, c.answer = some outcome ->
            Load.Ends s c.reference (Session.Seen s (Session.start count w) events) outcome := by
  constructor
  · rw [resolve_fresh]
    exact Load.classified_expected s u w
  · intro count events σ left passes j r found c member outcome answered
    exact Session.ends_of_passes passes found member answered

/-- A disk whose only schema is an integer of one digit too many. -/
def withLongInteger : Disk where
  root := [("s.json", .file (List.replicate 4301 49))]
  current := ⟨.root, []⟩

/-- One who runs the linter alone, with a cache. -/
def lone : Sources where
  homes := ⟨"/home", []⟩
  cache := ⟨.ofString "/cache"⟩

/-- An integer of too many digits, a home of nobody, brackets that enclose no host and a port that is no number are not
answered with the error that the schema cannot be had. -/
theorem crash_of_brokenReference :
    crashOf? (fresh.resolve lone ⟨withLongInteger, .silent⟩ "s.json").1 = some .value ∧
      crashOf? (fresh.resolve lone ⟨withLongInteger, .silent⟩ "~nobody/s.json").1 = some .runtime ∧
      crashOf? (fresh.resolve lone ⟨withLongInteger, .silent⟩ "http://[").1 = some .value ∧
      crashOf? (fresh.resolve lone ⟨withLongInteger, .silent⟩ "http://a:b/s.json").1 = some .address := by
  decide +kernel

end Resolver

end SchemaLint
