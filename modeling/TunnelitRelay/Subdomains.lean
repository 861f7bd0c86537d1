import TunnelitRelay.Ownership
import TunnelitRelay.Results

namespace TunnelitRelay

open Concurrent Data

/-! # Subdomains

A subdomain is looked up and written in two critical sections, so that a
request that has found a name free may find it gone when it writes.
-/

/-! ## Trimmed names -/

theorem dropWhile_of_head {α : Type} {drops : α → Bool} {items : List α}
    (kept : ∀ item, items.head? = some item → drops item = false) : items.dropWhile drops = items := by
  cases items with
  | nil => rfl
  | cons first rest => simp [kept first rfl]

theorem head_dropWhile {α : Type} {drops : α → Bool} {items : List α} :
    ∀ item, (items.dropWhile drops).head? = some item → drops item = false := by
  intro item first
  have kept := List.head?_dropWhile_not drops items
  rwa [first] at kept

theorem head_reverse_dropWhile {α : Type} {drops : α → Bool} {items : List α}
    (kept : ∀ item, items.head? = some item → drops item = false) :
    ∀ item, (items.reverse.dropWhile drops).reverse.head? = some item → drops item = false := by
  intro item first
  obtain ⟨gone, whole⟩ := List.dropWhile_suffix (l := items.reverse) drops
  have back := congrArg List.reverse whole
  rw [List.reverse_append, List.reverse_reverse] at back
  refine kept item ?_
  cases shape : (items.reverse.dropWhile drops).reverse with
  | nil => simp [shape] at first
  | cons other rest =>
      rw [shape] at first back
      rw [← back]
      exact first

/-- Trimming a second time changes nothing. -/
theorem trim_trim (text : String) : trim (trim text) = trim text := by
  have front := @head_dropWhile _ isWhiteSpace text.toList
  have whole := head_reverse_dropWhile front
  have back := @head_dropWhile _ isWhiteSpace (text.toList.dropWhile isWhiteSpace).reverse
  simp only [trim, String.toList_ofList]
  rw [dropWhile_of_head whole, List.reverse_reverse, dropWhile_of_head back]

theorem cleanSubdomain_trimmed {subdomain : Option String} {name : String}
    (clean : cleanSubdomain subdomain = some name) : name ≠ "" ∧ trim name = name := by
  simp only [cleanSubdomain, Option.filter_eq_some_iff, Option.map_eq_some_iff] at clean
  obtain ⟨⟨text, _, rfl⟩, nonempty⟩ := clean
  exact ⟨by simpa using nonempty, trim_trim text⟩

section Runs

variable [Externals]

/-! ## Looking up and writing -/

/-- The name a query writes, with the row it is written to if that exists already. -/
def Query.writesName : Query → Option (String × Option String)
  | .createTunnel _ _ _ _ _ _ (some name) => some (name, none)
  | .updateTunnel id _ _ _ (some name) => some (name, some id)
  | _ => none

/-- The event has found the name free for a row other than the given one. -/
def findsFree (name : String) (id : Option String) : Event relaySignature → Bool
  | ⟨.db (.isSubdomainTaken _ _), .ok true⟩ => false
  | ⟨.db (.isSubdomainTaken other excludeId), _⟩ =>
      lower other == lower name && (id.isNone || excludeId != id)
  | _ => false

def writesTunnel : Event relaySignature → Bool
  | ⟨.db (.createTunnel ..), _⟩ | ⟨.db (.updateTunnel ..), _⟩ => true
  | _ => false

/-- The request is still running, has found the name free and has not written yet. -/
def mayWrite (name : String) (id : Option String) (thread : Thread relay) : Bool :=
  !thread.isFinished && thread.past.any (findsFree name id) && !thread.past.any writesTunnel

/-- No lookup is refused by the database, and a name is written only while no
other running request has found it free for another row and is yet to write. -/
def writesAlone : Check relay := fun config _ choice op =>
  match op with
  | .db (.isSubdomainTaken ..) => (choice.refuses 0).isNone
  | .db query => query.writesName.all fun (name, id) =>
      config.threads.countP (mayWrite name id) ≤ if id.isNone then 1 else 0
  | _ => true

/-- A row with a subdomain had it before, or the call has written it. -/
theorem subdomain_origin {choice : Choice} {db after : Database} {query : Query}
    (change : Change choice db query after) {row : TunnelRecord} {name : String}
    (member : row ∈ after.tunnels) (named : row.subdomain = some name) :
    (∃ old ∈ db.tunnels, old.id = row.id ∧ old.subdomain = some name) ∨
      ∃ id, query.writesName = some (name, id) ∧ row.id = id.getD (uuidToString choice.id) := by
  cases change with
  | kept | registered | banned | requested | issued | claimed | touched => exact .inl ⟨row, member, rfl, named⟩
  | detached | deleted | closed => exact .inl ⟨row, List.mem_of_mem_filter member, rfl, named⟩
  | opened fresh unused attached fields =>
      rcases List.mem_append.mp member with old | new
      · exact .inl ⟨row, old, rfl, named⟩
      · obtain rfl := List.mem_singleton.mp new
        obtain ⟨_, _, _, written, _⟩ := fields
        rw [named] at written
        subst written
        exact .inr ⟨none, rfl, fresh⟩
  | switched =>
      obtain ⟨old, there, rfl⟩ := List.mem_map.mp member
      refine .inl ⟨old, there, ?_, ?_⟩
      · split <;> rfl
      · rw [← named]
        split <;> rfl
  | @edited id =>
      obtain ⟨old, there, rfl⟩ := List.mem_map.mp member
      by_cases hit : old.id = id
      · simp only [hit, beq_self_eq_true, if_true] at named
        subst named
        exact .inr ⟨some id, rfl, by simp [hit]⟩
      · simp only [beq_iff_eq, hit, if_false] at named ⊢
        exact .inl ⟨old, there, rfl, named⟩

omit [Externals] in
theorem two_le_countP {α : Type} {selects : α → Bool} {items : List α} {index other : Nat} {left right : α}
    (apart : index ≠ other) (first : items[index]? = some left) (second : items[other]? = some right)
    (here : selects left = true) (there : selects right = true) : 2 ≤ items.countP selects := by
  induction items generalizing index other with
  | nil => simp at first
  | cons item rest ih =>
      rw [List.countP_cons]
      cases index with
      | zero =>
          cases other with
          | zero => exact absurd rfl apart
          | succ other =>
              cases first
              have later : rest[other]? = some right := second
              have more := List.countP_pos_iff.mpr ⟨right, List.mem_of_getElem? later, there⟩
              rw [if_pos here]
              omega
      | succ index =>
          cases other with
          | zero =>
              cases second
              have later : rest[index]? = some left := first
              have more := List.countP_pos_iff.mpr ⟨left, List.mem_of_getElem? later, here⟩
              rw [if_pos there]
              omega
          | succ other =>
              have more := ih (fun same => apart (congrArg _ same)) first second
              omega

/-! ## Runs -/

/-- Nobody else's row carries the name a running request has found free. -/
structure Separate (config : Config relay) : Prop where
  clean : ∀ row ∈ config.state.db.tunnels, ∀ name, row.subdomain = some name →
    name ≠ "" ∧ trim name = name
  unique : ∀ row ∈ config.state.db.tunnels, ∀ other ∈ config.state.db.tunnels, ∀ name name',
    row.subdomain = some name → other.subdomain = some name' → lower name = lower name' →
      row.id = other.id
  free : ∀ thread ∈ config.threads, ¬ thread.finished → Unwritten thread.past → ∀ name id result,
    Did thread.past (.db (.isSubdomainTaken name id)) result → result ≠ .ok true →
      ∀ row ∈ config.state.db.tunnels, ∀ name', row.subdomain = some name' →
        lower name' = lower name → some row.id = id

/-- What the law says about the name a request writes. -/
theorem writesName_lawful {job : Job} {past : Past} {held : Held} {query : Query} {name : String}
    {id : Option String} (lawful : discipline job past held (.call (.db query)))
    (writes : query.writesName = some (name, id)) :
    (name ≠ "" ∧ trim name = name) ∧ Unwritten past ∧ FoundFree past (some name) id := by
  unfold Query.writesName at writes
  split at writes
  · cases writes
    obtain ⟨_, _, _, _, _, _, _, _, _, _, _, _, _, clean, free, first⟩ := (lawful.2.2.general fun _ => id).1
    exact ⟨cleanSubdomain_trimmed clean.symm, first, free⟩
  · cases writes
    obtain ⟨_, _, clean, free, first⟩ := (lawful.2.2.general fun _ => id).1
    exact ⟨cleanSubdomain_trimmed clean.symm, first, free⟩
  · contradiction

omit [Externals] in
theorem any_writesTunnel {past : Past} (unwritten : Unwritten past) : past.any writesTunnel = false := by
  rw [List.any_eq_false]
  intro event member writes
  unfold writesTunnel at writes
  split at writes
  · exact unwritten.1 _ _ _ _ _ _ _ _ member
  · exact unwritten.2 _ _ _ _ _ _ member
  · contradiction

theorem mayWrite_of_free {thread : Thread relay} {name looked : String} {id excludeId : Option String}
    {result : Except Failure Bool} (running : ¬ thread.finished) (unwritten : Unwritten thread.past)
    (did : Did thread.past (.db (.isSubdomainTaken looked excludeId)) result) (free : result ≠ .ok true)
    (same : lower looked = lower name) (other : id = none ∨ excludeId ≠ id) :
    mayWrite name id thread = true := by
  have unfinished : thread.isFinished = false := by
    rw [Bool.eq_false_iff, ne_eq, Thread.isFinished_iff]
    exact running
  simp only [mayWrite, unfinished, any_writesTunnel unwritten, Bool.not_false, Bool.and_true,
    Bool.true_and, List.any_eq_true]
  refine ⟨_, did, ?_⟩
  unfold findsFree
  split
  · rename_i taken
    cases taken
    exact absurd rfl free
  · rename_i shape
    cases shape
    rcases other with rfl | different
    · simp [same]
    · simp [same, different]
  · rename_i unlike
    exact absurd rfl (unlike _ _ _)

omit [Externals] in
theorem Unwritten.before {past : Past} {event : Event relaySignature}
    (unwritten : Unwritten (event :: past)) : Unwritten past :=
  ⟨fun _ _ _ _ _ _ _ _ did => unwritten.1 _ _ _ _ _ _ _ _ (List.mem_cons_of_mem _ did),
    fun _ _ _ _ _ _ did => unwritten.2 _ _ _ _ _ _ (List.mem_cons_of_mem _ did)⟩

/-- Nothing changes while the rows stay and no task looks anything up. -/
theorem Separate.quiet {before after : Config relay} (separate : Separate before)
    (same : after.state.db = before.state.db)
    (tasks : ∀ thread ∈ after.threads, ∀ name id result,
      Did thread.past (.db (.isSubdomainTaken name id)) result →
        ∃ old ∈ before.threads, Did old.past (.db (.isSubdomainTaken name id)) result ∧
          (¬ thread.finished → ¬ old.finished) ∧ (Unwritten thread.past → Unwritten old.past)) :
    Separate after := by
  refine ⟨by rw [same]; exact separate.clean, by rw [same]; exact separate.unique, ?_⟩
  intro thread member unfinished unwritten name id result did free
  obtain ⟨old, there, saw, running, clear⟩ := tasks thread member name id result did
  rw [same]
  exact separate.free old there (running unfinished) (clear unwritten) name id result saw free

theorem Separate.call {before after : Config relay} {task : Nat} {thread : Thread relay} {choice : Choice}
    {op : Op} {result : op.Result} (separate : Separate before) (lawful : before.Lawful contract)
    (alone : writesAlone before thread choice op = true)
    (called : Called before task thread choice op result after) : Separate after := by
  have running : ¬ thread.finished := by
    obtain ⟨next, head, _⟩ := called.moved
    rintro ⟨value, returned⟩
    rw [returned] at head
    contradiction
  by_cases queries : ∃ query, op = .db query
  · obtain ⟨query, rfl⟩ := queries
    obtain ⟨stored, answered, _⟩ := @exec_db _ _ _ _ query _ called.executed
    have change : Change choice before.state.db query after.state.db := stored ▸ query.run_change
    have origin {row : TunnelRecord} {name : String} (member : row ∈ after.state.db.tunnels)
        (named : row.subdomain = some name) := subdomain_origin change member named
    -- A name just written is on no other row, and no other request still counts on it.
    have written {name : String} {id : Option String} (writes : query.writesName = some (name, id)) :
        (∀ old ∈ before.state.db.tunnels, ∀ name', old.subdomain = some name' → lower name' = lower name →
          some old.id = id) ∧
        ∀ (index : Nat) other, index ≠ task → before.threads[index]? = some other → ¬ other.finished →
          Unwritten other.past → ∀ looked excludeId answer,
          Did other.past (.db (.isSubdomainTaken looked excludeId)) answer → answer ≠ .ok true →
            lower name = lower looked → id.isSome = true ∧ excludeId = id := by
      obtain ⟨_, unwritten, found⟩ := writesName_lawful (called.law lawful) writes
      obtain ⟨taken, did, untaken⟩ := found name rfl
      refine ⟨separate.free thread called.member running unwritten name id taken did untaken, ?_⟩
      intro index other elsewhere there unfinished clear looked excludeId answer saw free same
      have few : before.threads.countP (mayWrite name id) ≤ if id.isNone then 1 else 0 := by
        unfold writesAlone at alone
        split at alone
        · rename_i shape
          cases shape
          contradiction
        · rename_i shape
          cases shape
          simpa [writes] using alone
        · rename_i shape
          exact absurd rfl (shape _)
      cases id with
      | none =>
          have many := two_le_countP elsewhere there called.found
            (mayWrite_of_free unfinished clear saw free same.symm (.inl rfl))
            (mayWrite_of_free running unwritten did untaken rfl (.inl rfl))
          simp only [Option.isNone_none, if_true] at few
          omega
      | some id =>
          refine ⟨rfl, ?_⟩
          by_contra different
          have more := List.countP_pos_iff.mpr ⟨other, List.mem_of_getElem? there,
            mayWrite_of_free unfinished clear saw free same.symm (.inr different)⟩
          simp only [Option.isNone_some, Bool.false_eq_true, if_false] at few
          omega
    refine ⟨?_, ?_, ?_⟩
    · intro row member name named
      rcases origin member named with ⟨old, there, _, carried⟩ | ⟨id, writes, _⟩
      · exact separate.clean old there name carried
      · exact (writesName_lawful (called.law lawful) writes).1
    · intro row member other listed name name' named named' same
      rcases origin member named with ⟨old, there, oldId, carried⟩ | ⟨id, writes, rowId⟩
      · rcases origin listed named' with ⟨old', there', oldId', carried'⟩ | ⟨id', writes', rowId'⟩
        · rw [← oldId, ← oldId']
          exact separate.unique old there old' there' name name' carried carried' same
        · have own := (written writes').1 old there name carried same
          rw [← oldId, rowId', ← own]
          rfl
      · rcases origin listed named' with ⟨old', there', oldId', carried'⟩ | ⟨id', writes', rowId'⟩
        · have own := (written writes).1 old' there' name' carried' same.symm
          rw [rowId, ← oldId', ← own]
          rfl
        · rw [writes, Option.some.injEq, Prod.mk.injEq] at writes'
          rw [rowId, rowId', writes'.2]
    · intro other member unfinished unwritten looked excludeId answer did free row listed name named same
      obtain ⟨index, there⟩ := List.mem_iff_getElem?.mp member
      rcases called.origin there with ⟨rfl, _, _, past⟩ | ⟨elsewhere, old⟩
      · rw [past] at did unwritten
        have silent : query.writesName = none := by
          unfold Query.writesName
          split
          · exact absurd List.mem_cons_self (unwritten.1 _ _ _ _ _ _ _ _)
          · exact absurd List.mem_cons_self (unwritten.2 _ _ _ _ _ _)
          · rfl
        rcases origin listed named with ⟨before', there', sameId, carried⟩ | ⟨id, writes, _⟩
        · rw [← sameId]
          rcases did_cons.mp did with new | earlier
          · -- The lookup itself: it was not refused, so it has counted the rows.
            cases new
            have heard : choice.refuses 0 = none := Option.isNone_iff_eq_none.mp alone
            simp only [Query.run, Db.isSubdomainTaken, Choice.statement, heard] at answered
            have none : ¬ 0 < List.countP (fun tunnel : TunnelRecord =>
                tunnel.subdomain.map lower == some (lower looked) && excludeId != some tunnel.id)
                before.state.db.tunnels :=
              fun some => free (by rw [answered, decide_eq_true some])
            have excluded := List.countP_eq_zero.mp (Nat.eq_zero_of_not_pos none) before' there'
            simp only [carried, Option.map_some, same, BEq.rfl, Bool.true_and, bne_iff_ne, ne_eq,
              not_not] at excluded
            exact excluded.symm
          · exact separate.free thread called.member running unwritten.before looked excludeId answer
              earlier free before' there' name carried same
        · rw [silent] at writes
          contradiction
      · rcases origin listed named with ⟨before', there', sameId, carried⟩ | ⟨id, writes, rowId⟩
        · rw [← sameId]
          exact separate.free other (List.mem_of_getElem? old) unfinished unwritten looked excludeId
            answer did free before' there' name carried same
        · obtain ⟨known, rfl⟩ := (written writes).2 index other elsewhere old unfinished unwritten looked
            excludeId answer did free same
          obtain ⟨id, rfl⟩ := Option.isSome_iff_exists.mp known
          rw [rowId]
          rfl
  · have same : after.state.db = before.state.db := by
      rcases exec_change called.executed with ⟨query, calls, _⟩ | ⟨same, _⟩
      · exact absurd ⟨query, calls⟩ queries
      · exact same
    refine separate.quiet same fun other member looked excludeId answer did => ?_
    obtain ⟨index, there⟩ := List.mem_iff_getElem?.mp member
    rcases called.origin there with ⟨rfl, _, _, past⟩ | ⟨_, old⟩
    · rw [past] at did ⊢
      rcases did_cons.mp did with new | earlier
      · exact absurd ⟨_, (congrArg Sigma.fst new).symm⟩ queries
      · exact ⟨thread, called.member, earlier, fun _ => running, Unwritten.before⟩
    · exact ⟨other, List.mem_of_getElem? old, did, id, id⟩

variable {portRange : UInt16 × UInt16}

theorem Reached.separate {config : Config relay}
    (reached : Reached writesAlone.condition portRange config) : Separate config := by
  refine Reachable.induct ?_ ?_ reached
  · exact ⟨fun _ member => by contradiction, fun _ member => by contradiction,
      fun _ member => by contradiction⟩
  · intro before action after earlier separate permitted step
    cases step with
    | start admitted =>
        obtain ⟨sessions, rfl⟩ := accept_same admitted
        refine separate.quiet rfl fun thread member _ _ _ did => ?_
        rcases List.mem_append.mp member with old | new
        · exact ⟨thread, old, did, id, id⟩
        · rw [List.mem_singleton.mp new] at did
          contradiction
    | call found head executed =>
        exact separate.call (Reached.lawful earlier) (permitted _ _ _ found head)
          ⟨found, executed, _, head, rfl⟩
    | acquire found head free =>
        refine separate.quiet rfl fun thread member _ _ _ did => ?_
        rcases List.mem_or_eq_of_mem_set member with old | rfl
        · exact ⟨thread, old, did, id, id⟩
        · exact ⟨_, List.mem_of_getElem? found, did, fun _ ⟨_, returned⟩ => by simp [head] at returned, id⟩
    | release found head =>
        refine separate.quiet rfl fun thread member _ _ _ did => ?_
        rcases List.mem_or_eq_of_mem_set member with old | rfl
        · exact ⟨thread, old, did, id, id⟩
        · exact ⟨_, List.mem_of_getElem? found, did, fun _ ⟨_, returned⟩ => by simp [head] at returned, id⟩
    | reboot => exact ⟨separate.clean, separate.unique, fun _ member => by contradiction⟩

end Runs

/-- A request for a tunnel under the name `web`. -/
def namedTunnel (agentId : Uuid) : CreateTunnelRequest := { webTunnel agentId with subdomain := some " web" }

/-- Alice and Bob, each with an agent. -/
def neighbours : List (Job × Choice) :=
  [(.register { username := "alice", password := "secret" }, answer 1 0),
    (.register { username := "bob", password := "secret" }, answer 2 0),
    (.generateAgentToken (signedIn 1), answer 3 0),
    (.generateAgentToken (signedIn 2), answer 4 0)]

end TunnelitRelay
