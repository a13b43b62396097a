import SchemaLint.Resolver.Load

/-!
# Steady networks

A network is steady if every address always gives the same answer.  What comes of a request then depends on the answers
alone and not on what was asked for before.
-/

namespace SchemaLint

open Json (Value)

namespace Http

namespace Network

variable {n n' : Network} {answers : String -> Answer}

/-- Every address has one answer for ever. -/
def IsSteady (n : Network) : Prop :=
  forall address row, (address, row) ∈ n.answers -> forall first second, first ∈ row -> second ∈ row -> first = second

/-- A network is steady and gives certain answers. -/
structure Gives (n : Network) (answers : String -> Answer) : Prop where
  steady : n.IsSteady
  same : forall address, n.answerOf address = answers address

/-- The answers of a network without those that were given. -/
def spent (address : String) (entry : String × List Answer) : String × List Answer :=
  if entry.1 = address then (entry.1, leftOf entry.2) else entry

theorem mem_of_mem_leftOf {row : List Answer} {answer : Answer} (member : answer ∈ leftOf row) : answer ∈ row := by
  match row with
  | [] => exact member
  | [_] => exact member
  | _ :: second :: rest => exact List.mem_cons_of_mem _ member

theorem head?_leftOf {row : List Answer} (same : forall first second, first ∈ row -> second ∈ row -> first = second) :
    (leftOf row).head? = row.head? := by
  match row with
  | [] => rfl
  | [_] => rfl
  | first :: second :: rest =>
    have equal : first = second := same first second (List.mem_cons_self ..) (by simp)
    rw [equal]
    rfl

theorem lookup_spent (address x : String) (entries : List (String × List Answer)) :
    (entries.map (spent address)).lookup x = (entries.lookup x).map fun row => if x = address then leftOf row else row := by
  induction entries with
  | nil => rfl
  | cons entry rest ih =>
    obtain ⟨name, row⟩ := entry
    have head : spent address (name, row) = (name, if name = address then leftOf row else row) := by
      unfold spent
      by_cases here : name = address
      · rw [if_pos here, if_pos here]
      · rw [if_neg here, if_neg here]
    rw [List.map_cons, head, List.lookup_cons, List.lookup_cons, ih]
    by_cases same : x = name
    · subst same
      simp
    · have differs : (x == name) = false := beq_eq_false_iff_ne.mpr same
      rw [differs]

theorem answerOf_eq (n : Network) (address : String) :
    n.answerOf address = (((n.answers.lookup address).bind List.head?).getD (.broken "No route")) := by
  unfold answerOf
  cases n.answers.lookup address with
  | none => rfl
  | some row =>
    cases row with
    | nil => rfl
    | cons answer rest => rfl

theorem mem_of_lookup {entries : List (String × List Answer)} {x : String} {row : List Answer}
    (found : entries.lookup x = some row) : (x, row) ∈ entries := by
  obtain ⟨front, back, same, -⟩ := List.lookup_eq_some_iff.mp found
  rw [same]
  simp

/-- Sending a request does not change what a steady network answers. -/
theorem Gives.send (gives : n.Gives answers) (r : Request) : (n.send r).2.Gives answers := by
  obtain ⟨steady, same⟩ := gives
  have left : (n.send r).2.answers = n.answers.map (spent r.address) := rfl
  constructor
  · intro address row member first second inFirst inSecond
    rw [left] at member
    obtain ⟨⟨name, old⟩, inside, made⟩ := List.mem_map.mp member
    unfold spent at made
    by_cases here : name = r.address
    · rw [if_pos here] at made
      obtain ⟨rfl, rfl⟩ := Prod.mk.inj made
      exact steady name old inside first second (mem_of_mem_leftOf inFirst) (mem_of_mem_leftOf inSecond)
    · rw [if_neg here] at made
      obtain ⟨rfl, rfl⟩ := Prod.mk.inj made
      exact steady name old inside first second inFirst inSecond
  · intro address
    rw [← same address, answerOf_eq, answerOf_eq, left, lookup_spent]
    cases found : n.answers.lookup address with
    | none => rfl
    | some row =>
      by_cases here : address = r.address
      · have head := head?_leftOf (steady address row (mem_of_lookup found))
        simp [here, head]
      · simp [here]

end Network

variable {n n' : Network} {answers : String -> Answer}

/-- What comes of a request that is followed depends on the answers alone. -/
theorem sendFollowing_of_gives (accept : String) (hops : Nat) (method : String) (address : Address)
    (gives : n.Gives answers) (gives' : n'.Gives answers) :
    (sendFollowing accept hops method address n).1 = (sendFollowing accept hops method address n').1 ∧
      (sendFollowing accept hops method address n).2.Gives answers := by
  induction hops generalizing method address n n' with
  | zero => exact ⟨rfl, gives⟩
  | succ hops ih =>
    have sent := gives.send ⟨method, address.text, accept⟩
    have sent' := gives'.send ⟨method, address.text, accept⟩
    have answer : (n.send ⟨method, address.text, accept⟩).1 = answers address.text := gives.same _
    have answer' : (n'.send ⟨method, address.text, accept⟩).1 = answers address.text := gives'.same _
    unfold sendFollowing
    generalize n.send ⟨method, address.text, accept⟩ = r at sent answer
    generalize n'.send ⟨method, address.text, accept⟩ = r' at sent' answer'
    obtain ⟨given, m⟩ := r
    obtain ⟨given', m'⟩ := r'
    obtain rfl : given = given' := answer.trans answer'.symm
    cases given with
    | broken reason => exact ⟨rfl, sent⟩
    | late => exact ⟨rfl, sent⟩
    | reply reply =>
      dsimp only
      cases reply.location? with
      | none => exact ⟨rfl, sent⟩
      | some location =>
        dsimp only
        cases nextAddress address location with
        | error fault => exact ⟨rfl, sent⟩
        | ok next => exact ih (reply.nextMethod method) next sent sent'

theorem request_of_gives (method url accept : String) (gives : n.Gives answers) (gives' : n'.Gives answers) :
    (request method url accept n).1 = (request method url accept n').1 ∧
      (request method url accept n).2.Gives answers := by
  unfold request
  cases Address.ofRequest url with
  | error fault => exact ⟨rfl, gives⟩
  | ok address =>
    obtain ⟨same, after⟩ := sendFollowing_of_gives accept (hopLimit + 1) method.toUpper address gives gives'
    exact ⟨congrArg (Except.mapError (RequestFault.failed method url)) same, after⟩

end Http

/-- What is fetched depends on the answers alone. -/
theorem Load.fetch_of_gives (u : String) {n n' : Http.Network} {answers : String -> Http.Answer}
    (gives : n.Gives answers) (gives' : n'.Gives answers) :
    (fetch u n).1 = (fetch u n').1 ∧ (fetch u n).2.Gives answers := by
  obtain ⟨same, after⟩ := Http.request_of_gives "GET" u schemaContent gives gives'
  unfold fetch
  generalize Http.request "GET" u schemaContent n = r at same after
  generalize Http.request "GET" u schemaContent n' = r' at same
  obtain ⟨outcome, m⟩ := r
  obtain ⟨outcome', m'⟩ := r'
  obtain rfl : outcome = outcome' := same
  rcases outcome with (e | c) | reply
  · exact ⟨rfl, after⟩
  · exact ⟨rfl, after⟩
  · by_cases good : reply.isOk = true
    · simp only [if_pos good]
      exact ⟨trivial, after⟩
    · simp only [if_neg good]
      exact ⟨trivial, after⟩

end SchemaLint
