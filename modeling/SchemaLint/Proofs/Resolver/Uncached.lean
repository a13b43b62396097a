import SchemaLint.Proofs.Cache.Stored
import SchemaLint.Proofs.Files.Linked
import SchemaLint.Proofs.Resolver.Lone

/-!
# A cache that does not help

The entry of a reference may be missing, it may not be readable, or there may be bytes in it that are no schema.  Then a
call is answered as if the folder of the cache were empty, and the same is asked of the network.  If the call returns a
schema, then the body in which it came is in the entry, provided that storing succeeded; otherwise the entry is as it was,
and so is everything else in any case.

The disk may refuse any step of storing.  This is never seen in the answer.
-/

namespace SchemaLint

open Json (Value)
open Disk (kindAt?)

variable {s : Sources} {u : String} {w : World} {d : Disk}

namespace Cache

/-- Nothing that is a schema can be read from the entry of a reference. -/
def Lacks (c : Cache) (d : Disk) (u : String) : Prop :=
  forall bytes, c.read d u = some bytes -> exists e, Schema.read u (.bytes bytes) = .error (.error e)

/-- Nothing can be read from an empty folder. -/
theorem read_eq_none {c : Cache} (proper : c.folder.IsProper) (empty : d.entriesOf? c.folder.text = some []) (u : String) :
    c.read d u = none := by
  rw [Option.eq_none_iff_forall_ne_some]
  intro body stored
  obtain ⟨home, leads⟩ := exists_leads_of_read proper stored
  obtain ⟨e, found, folder⟩ := Disk.find_of_kind leads.1 leads.2
  have bare : kindAt? d.root (home ++ [entryName u]) = none := by
    unfold Disk.entriesOf? at empty
    rw [found] at empty
    cases e with
    | file contents => cases empty
    | link target => cases empty
    | folder entries =>
      cases empty
      exact Disk.kindAt?_eq_none_of_not_mem (Disk.find_eq_ok_iff.mp found).2 List.not_mem_nil
  have unread : c.read d u = none := read_eq_none_of_bare proper leads (by simp [bare]) (by simp [bare])
  rw [unread] at stored
  cases stored

theorem lacks_of_empty {c : Cache} (proper : c.folder.IsProper) (empty : d.entriesOf? c.folder.text = some [])
    (u : String) : c.Lacks d u := by
  intro bytes stored
  rw [read_eq_none proper empty u] at stored
  cases stored

end Cache

namespace Load

theorem ofCache?_eq_none (lacks : s.cache.Lacks d u) : ofCache? s u d = none := by
  unfold ofCache?
  cases stored : s.cache.read d u with
  | none => rfl
  | some bytes =>
    obtain ⟨e, failed⟩ := lacks bytes stored
    simp only [failed]

/-- How a load stands that the cache does not help, and whether storing has succeeded. -/
inductive Unaided (s : Sources) (u : String) (w : World) : Bool -> Load -> World -> Prop
  | begun : Unaided s u w false begun w
  | asking : Unaided s u w false asking w
  | failed {failed : Failed} (came : (fetch u w.network).1 = .error failed) :
    Unaided s u w false (ended (.error failed)) ⟨w.disk, (fetch u w.network).2⟩
  | storing {schema : Value} {body : Bytes} {writing : Cache.Writing} {d : Disk}
    (came : (fetch u w.network).1 = .ok (schema, body)) (going : s.cache.Storing w.disk body writing d) :
    Unaided s u w false (storing schema body writing) ⟨d, (fetch u w.network).2⟩
  | ended {schema : Value} {body : Bytes} {stored : Bool} {d : Disk}
    (came : (fetch u w.network).1 = .ok (schema, body)) (remains : s.cache.Remains u w.disk body stored d) :
    Unaided s u w stored (ended (.ok schema)) ⟨d, (fetch u w.network).2⟩

theorem ofWriting_eq_storing {schema : Value} {body : Bytes} {writing : Cache.Writing}
    (going : forall written, writing ≠ .ended written) : ofWriting schema body writing = storing schema body writing := by
  cases writing with
  | ended written => exact absurd rfl (going written)
  | folder => rfl
  | creation => rfl
  | filling temporary => rfl
  | installing temporary => rfl

/-- A load without the help of the cache goes on without it, whether its steps are taken or refused. -/
theorem lasts_unaided (proper : s.cache.folder.IsProper) (remote : Reference.isRemote u = .ok true)
    (absent : ofCache? s u w.disk = none) : Resolver.Lasts s u (Unaided s u w) where
  step := by
    intro stored load now unaided
    cases unaided with
    | begun =>
      have asks : step s u w begun = (asking, w) := by
        unfold step
        simp only [remote, absent]
      rw [asks]
      exact .asking
    | asking =>
      rcases step_asking s u w with ⟨failed, came, ends⟩ | ⟨schema, body, came, stores⟩
      · rw [ends]
        exact .failed came
      · rw [stores]
        exact .storing came .folder
    | failed came => exact .failed came
    | @storing schema body writing d came going =>
      rw [step_storing, succeeds]
      have goes : s.cache.Goes u w.disk body (s.cache.writeStep u body d writing) := going.next proper
      generalize s.cache.writeStep u body d writing = next at goes
      cases goes with
      | on further =>
        rw [ofWriting_eq_storing further.ne_ended, decide_eq_false (further.ne_ended true)]
        exact .storing came further
      | @out written d' remains =>
        have same : decide (Cache.Writing.ended written = .ended true) = written := by cases written <;> rfl
        rw [same]
        exact .ended came remains
    | ended came remains =>
      rw [succeeds, Bool.or_false]
      exact .ended came remains
  refuse := by
    intro stored load now unaided
    cases unaided with
    | begun => exact .begun
    | asking => exact .asking
    | failed came => exact .failed came
    | storing came going => exact .ended came (going.abandon proper)
    | ended came remains => exact .ended came remains

end Load

namespace Resolver

/-- How a call for a reference ends if the cache does not help, and whether storing has succeeded. -/
structure EndsUnaided (s : Sources) (u : String) (w : World) (outcome : Except Failed Value) (stored : Bool)
    (w' : World) : Prop where
  /-- The answer is what comes over the network. -/
  answer : outcome = (Load.fetch u w.network).1.map Prod.fst
  network : w'.network = (Load.fetch u w.network).2
  /-- Without a schema the disk is left alone. -/
  failed : forall failed, outcome = .error failed -> w'.disk = w.disk
  /-- With a schema the body is in the entry, or all is as it was. -/
  returned : forall schema, outcome = .ok schema -> exists body, (Load.fetch u w.network).1 = .ok (schema, body) ∧
    s.cache.Remains u w.disk body stored w'.disk
  /-- A body that was stored is read from the entry. -/
  entry : stored = true -> (forall home target, kindAt? w.disk.root (home ++ [Cache.entryName u]) ≠ some (.link target)) ->
    exists schema body, (Load.fetch u w.network).1 = .ok (schema, body) ∧ s.cache.read w'.disk u = some body
  /-- Other entries are read as before, and so is the own one if nothing was stored. -/
  others : forall home v, w.disk.Leads s.cache.folder home ->
    (stored = true -> Cache.entryName v ≠ Cache.entryName u ∧
      forall name, name ∈ [Cache.entryName u, Cache.entryName v] -> forall target,
        kindAt? w.disk.root (home ++ [name]) ≠ some (.link target)) ->
    s.cache.read w'.disk v = s.cache.read w.disk v

theorem endsUnaided_of_ended {outcome : Except Failed Value} {stored : Bool} {w' : World}
    (proper : s.cache.folder.IsProper) (unaided : Load.Unaided s u w stored (.ended outcome) w') :
    EndsUnaided s u w outcome stored w' := by
  cases unaided with
  | @failed failed came =>
    constructor
    case answer =>
      rw [came]
      rfl
    case network => rfl
    case failed => exact fun _ _ => rfl
    case returned => nofun
    case entry => nofun
    case others => exact fun _ _ _ _ => rfl
  | @ended schema body _ d came remains =>
    constructor
    case answer =>
      rw [came]
      rfl
    case network => rfl
    case failed => nofun
    case returned =>
      intro schema' same
      cases same
      exact ⟨body, came, remains⟩
    case entry =>
      intro succeeded noLink
      cases succeeded
      exact ⟨schema, body, came, remains.read_entry proper noLink⟩
    case others => exact fun home v leads other => remains.read_eq proper leads other

/-- A cache that holds nothing of use under a reference is as good as an empty one: the call is answered in the same way,
and the same is asked of the network.  If a schema is returned and storing succeeded, then the entry holds the body that
was fetched, and otherwise nothing has changed, be it that the disk refuses steps of storing. -/
theorem endsUnaided_of_lacks (proper : s.cache.folder.IsProper) (remote : Reference.isRemote u = .ok true) (w : World)
    (lacks : s.cache.Lacks w.disk u) :
    (forall d, d.entriesOf? s.cache.folder.text = some [] ->
      (fresh.resolve s w u).1 = (fresh.resolve s ⟨d, w.network⟩ u).1 ∧
        (fresh.resolve s w u).2.2.network = (fresh.resolve s ⟨d, w.network⟩ u).2.2.network) ∧
    EndsUnaided s u w (fresh.resolve s w u).1 ((fresh.call u).stores s w (fresh.call u).inTurn)
      (fresh.resolve s w u).2.2 ∧
    forall actions, (forall v, .call v ∉ actions) -> forall c, c ∈ ((fresh.call u).run s w actions).1.calls ->
      forall outcome, c.answer = some outcome ->
        EndsUnaided s u w outcome ((fresh.call u).stores s w actions) ((fresh.call u).run s w actions).2 := by
  have ends : forall now : World, s.cache.Lacks now.disk u -> forall actions, (forall v, .call v ∉ actions) ->
      forall c, c ∈ ((fresh.call u).run s now actions).1.calls -> forall outcome, c.answer = some outcome ->
        EndsUnaided s u now outcome ((fresh.call u).stores s now actions) ((fresh.call u).run s now actions).2 := by
    intro now lacks actions noCalls c member outcome answered
    have lasts := Load.lasts_unaided proper remote (Load.ofCache?_eq_none lacks)
    exact endsUnaided_of_ended proper (holds_of_answer lasts .begun noCalls member answered)
  have resolved : forall now : World, s.cache.Lacks now.disk u ->
      EndsUnaided s u now (fresh.resolve s now u).1 ((fresh.call u).stores s now (fresh.call u).inTurn)
        (fresh.resolve s now u).2.2 := by
    intro now lacks
    obtain ⟨c, calls, answered⟩ := exists_answer_inTurn s now u
    exact ends now lacks _ (noCalls_inTurn _) c (calls ▸ List.mem_singleton_self c) _ answered
  refine ⟨?_, resolved w lacks, ends w lacks⟩
  intro d empty
  have here := resolved w lacks
  have there := resolved ⟨d, w.network⟩ (Cache.lacks_of_empty proper empty u)
  exact ⟨here.answer.trans there.answer.symm, here.network.trans there.network.symm⟩

/-- One whose cache is in a folder at the root. -/
def inFront : Sources where
  homes := ⟨"/", []⟩
  cache := ⟨.ofString "/c"⟩

/-- The entry of a reference is no schema, another one may be anything, and the network has a schema. -/
def brokenWorld : World where
  disk := ⟨[("c", .folder [(Cache.entryName "http://a/", .file [120]), (Cache.entryName "http://b/", .file [91])])],
    ⟨.root, []⟩⟩
  network := ⟨[("http://a/", [.reply ⟨200, [], [123, 125]⟩])], []⟩

/-- The schema is fetched as if there were no entries, and its body takes the place of its entry only. -/
theorem resolve_brokenWorld :
    (fresh.resolve inFront brokenWorld "http://a/").1 =
        (fresh.resolve inFront ⟨⟨[("c", .folder [])], ⟨.root, []⟩⟩, brokenWorld.network⟩ "http://a/").1 ∧
      inFront.cache.read (fresh.resolve inFront brokenWorld "http://a/").2.2.disk "http://a/" = some [123, 125] ∧
      inFront.cache.read (fresh.resolve inFront brokenWorld "http://a/").2.2.disk "http://b/" = some [91] := by
  have stands : inFront.cache.read brokenWorld.disk "http://a/" = some [120] := by decide +kernel
  have lacks : inFront.cache.Lacks brokenWorld.disk "http://a/" := by
    intro bytes stored
    cases stands.symm.trans stored
    exact ⟨_, rfl⟩
  have noLink := Disk.kindAt?_ne_link (show Disk.linkSteps brokenWorld.disk.root = 0 by decide +kernel)
  have leads : brokenWorld.disk.Leads inFront.cache.folder ["c"] := ⟨by decide +kernel, by decide +kernel⟩
  have different : Cache.entryName "http://b/" ≠ Cache.entryName "http://a/" := by decide +kernel
  have fetched : (Load.fetch "http://a/" brokenWorld.network).1.toOption.map Prod.snd = some [123, 125] := by
    decide +kernel
  obtain ⟨same, ends, -⟩ := endsUnaided_of_lacks (Path.isProper_ofString "/c") (by rfl) brokenWorld lacks
  refine ⟨(same _ (by rfl)).1, ?_, ?_⟩
  · obtain ⟨schema, body, came, read⟩ := ends.entry (by decide +kernel) fun home => noLink _
    rw [came] at fetched
    rw [read, ← fetched]
    rfl
  · rw [ends.others ["c"] "http://b/" leads fun _ => ⟨different, fun name _ => noLink _⟩]
    decide +kernel

end Resolver

end SchemaLint
