import TunnelitRelay.Discipline

namespace TunnelitRelay

open Concurrent Program

variable [Externals]

/-! # The handlers keep the discipline -/

section Evidence

variable {job : Job} {past grown : Past} {held : Held} {op op' : Op}

omit [Externals] in
theorem did_cons {result : op.Result} {result' : op'.Result} :
    Did (⟨op, result⟩ :: past) op' result' ↔
      (⟨op', result'⟩ : Event relaySignature) = ⟨op, result⟩ ∨ Did past op' result' :=
  List.mem_cons

omit [Externals] in
@[simp] theorem did_nil {result : op.Result} : ¬ Did [] op result :=
  List.not_mem_nil

omit [Externals] in
theorem Did.later {result : op.Result} (did : Did past op result) (grows : past <:+ grown) :
    Did grown op result :=
  grows.subset did

omit [Externals] in
@[simp] theorem live_nil : Live job [] := fun _ _ _ => ⟨did_nil, did_nil⟩

/-- The operations after which a frame does nothing more. -/
def Op.last : Op → Bool
  | .awaitFrame _ | .returnSession _ => true
  | _ => false

omit [Externals] in
theorem live_cons {result : op.Result} (live : Live job past) (goesOn : op.last = false) :
    Live job (⟨op, result⟩ :: past) := by
  intro session frame framed
  obtain ⟨awaits, returns⟩ := live session frame framed
  constructor
  · rw [did_cons, not_or]
    refine ⟨fun same => ?_, awaits⟩
    cases same
    simp [Op.last] at goesOn
  · rw [did_cons, not_or]
    refine ⟨fun same => ?_, returns⟩
    cases same
    simp [Op.last] at goesOn

theorem Entitled.later {agentId : Uuid} {sender : Channel} (entitled : Entitled job past agentId sender)
    (grows : past <:+ grown) : Entitled job grown agentId sender := by
  obtain ⟨agent, parsed, ⟨token, hostname, framed, read, unclaimed⟩ |
    ⟨code, headers, userId, requested, claimed, found⟩⟩ := entitled
  · exact ⟨agent, parsed, .inl ⟨token, hostname, framed, read.later grows, unclaimed⟩⟩
  · exact ⟨agent, parsed, .inr ⟨code, headers, userId, requested, claimed.later grows,
      found.later grows⟩⟩

theorem Serves.later {agentId : Uuid} {sender : Channel} {more : Held}
    (serves : Serves job past held agentId sender) (grows : past <:+ grown) (keeps : held ⊆ more) :
    Serves job grown more agentId sender := by
  rcases serves with entitled | ⟨http, read, guarded⟩
  · exact .inl (entitled.later grows)
  · exact .inr ⟨http, read.later grows, keeps guarded⟩

omit [Externals] in
theorem SawRow.later {row : TunnelRecord} (saw : SawRow past row) (grows : past <:+ grown) :
    SawRow grown row := by
  rcases saw with ⟨id, rows, did, member⟩ | ⟨id, did⟩ |
    ⟨agentId, userId, name, localPort, protocol, publicPort, subdomain, did⟩
  · exact .inl ⟨id, rows, did.later grows, member⟩
  · exact .inr (.inl ⟨id, did.later grows⟩)
  · exact .inr (.inr ⟨agentId, userId, name, localPort, protocol, publicPort, subdomain, did.later grows⟩)

omit [Externals] in
theorem Reserved.later {port : UInt16} (reserved : Reserved past port) (grows : past <:+ grown) :
    Reserved grown port :=
  reserved.imp (·.later grows) (·.later grows)

omit [Externals] in
theorem FoundFree.later {subdomain excludeId : Option String} (free : FoundFree past subdomain excludeId)
    (grows : past <:+ grown) : FoundFree grown subdomain excludeId := by
  intro name same
  obtain ⟨result, did, untaken⟩ := free name same
  exact ⟨result, did.later grows, untaken⟩

theorem permitted_of_justified (running : ∀ session, job ≠ .frame session .hangup)
    (justified : Justified job past held op) : Permitted job past held op := by
  unfold Permitted
  split
  · exact absurd rfl (running _)
  · exact justified

end Evidence

/-! ## Blocks -/

section Blocks

variable {job : Job} {past : Past} {held : Held}

theorem access_obeys {op : Op} {post} (live : Live job past) (goesOn : op.last = false)
    (unprotected : op.guard = none) (permitted : Permitted job past held op)
    (after : ∀ result, Live job (⟨op, result⟩ :: past) → post (⟨op, result⟩ :: past) held result) :
    (access op).Obeys (discipline job) post past held :=
  ⟨⟨live, by simp [unprotected], permitted⟩, fun result => after result (live_cons live goesOn)⟩

/-- One operation under a guard of its own. -/
theorem withLock_obeys {op : Op} {lock : Lock} {mode : Mode} {post}
    (live : Live job past) (goesOn : op.last = false) (protects : op.guard = some (lock, mode))
    (order : ∀ own ∈ held, own.1.rank < lock.rank)
    (fresh : lock = .agentSenders → ∀ agentId sender, ¬ Did past (.agentSender agentId) sender)
    (settled : lock = .db → ∀ session hostname, job ≠ .frame session (.message (.requestClaim hostname)))
    (permitted : Permitted job past ((lock, mode) :: held) op)
    (after : ∀ result, Live job (⟨op, result⟩ :: past) → post (⟨op, result⟩ :: past) held result) :
    (withLock lock mode (access op)).Obeys (discipline job) post past held := by
  rw [obeys_guarded]
  refine ⟨⟨order, fresh⟩, ⟨live, ?_, permitted⟩, fun result => ⟨?_, ?_⟩⟩
  · intro guard needed
    rw [protects, Option.some.injEq] at needed
    exact needed ▸ List.mem_cons_self
  · rintro database session code token ⟨hostname, record, framed, _⟩
    exact absurd framed (settled database session hostname)
  · simpa [dropGuard] using after result (live_cons live goesOn)

theorem query_obeys {query' : Query} {post}
    (live : Live job past) (order : ∀ own ∈ held, own.1.rank < Lock.db.rank)
    (settled : ∀ session hostname, job ≠ .frame session (.message (.requestClaim hostname)))
    (permitted : Permitted job past ((.db, .exclusive) :: held) (.db query'))
    (after : ∀ result, Live job (⟨.db query', result⟩ :: past) →
      post (⟨.db query', result⟩ :: past) held result) :
    (query query').Obeys (discipline job) post past held :=
  withLock_obeys live rfl rfl order (by simp) (fun _ => settled) permitted after

theorem ifSome_obeys {γ : Type} {body : γ → Relay Unit} {item : Option γ} {post}
    (absent : item = none → post past held ())
    (present : ∀ value, item = some value → (body value).Obeys (discipline job) post past held) :
    (ifSome body item).Obeys (discipline job) post past held := by
  cases item with
  | none => exact absent rfl
  | some value => exact present value rfl

theorem stopTunnelListener_obeys {tunnelId : Uuid} {post}
    (live : Live job past) (order : ∀ own ∈ held, own.1.rank < Lock.tunnelTasks.rank)
    (permitted : Permitted job past ((.tunnelTasks, .exclusive) :: held) (.removeTunnelTask tunnelId))
    (after : Live job (⟨.removeTunnelTask tunnelId, ()⟩ :: past) →
      post (⟨.removeTunnelTask tunnelId, ()⟩ :: past) held ()) :
    (stopTunnelListener tunnelId).Obeys (discipline job) post past held :=
  withLock_obeys live rfl rfl order (by simp) (by simp) permitted fun _ => after

theorem startTunnelListener_obeys {tunnel : TunnelConfig} {sender : Channel} {post}
    (live : Live job past) (running : ∀ session, job ≠ .frame session .hangup)
    (order : ∀ own ∈ held, own.1.rank < Lock.tunnelTasks.rank)
    (serves : Serves job past held tunnel.agentId sender) (reserved : Reserved past tunnel.publicPort)
    (saw : ∃ row, SawRow past row ∧ parseUuid row.id = some tunnel.id)
    (after : ∀ grown result, past <:+ grown →
      (∀ query reply, Did grown (.db query) reply → Did past (.db query) reply) → Live job grown →
      post grown held result) :
    (startTunnelListener tunnel sender).Obeys (discipline job) post past held := by
  simp only [startTunnelListener, bind_eq, obeys_bind]
  refine access_obeys live rfl rfl (permitted_of_justified running ⟨serves, saw⟩) fun entered live => ?_
  refine stopTunnelListener_obeys live order (permitted_of_justified running trivial) fun live => ?_
  refine access_obeys live rfl rfl (permitted_of_justified running trivial) fun bound live => ?_
  cases bound with
  | error error =>
      refine after _ _ (by simp [List.suffix_cons_iff]) (fun query reply did => ?_) live
      simpa [Did] using did
  | ok _ =>
      simp only [obeys_bind]
      refine access_obeys live rfl rfl (permitted_of_justified running trivial) fun handle live => ?_
      refine withLock_obeys live rfl rfl order (by simp) (by simp)
        (permitted_of_justified running ?_) fun _ live => after _ _ ?_ (fun query reply did => ?_) live
      · refine ⟨tunnel, sender, by simp [Did], rfl, serves.later ?_ (List.subset_cons_self _ _),
          by simp [Did], reserved.later ?_⟩ <;> simp [List.suffix_cons_iff]
      · simp [List.suffix_cons_iff]
      · simpa [Did] using did

/-- The rows of one agent are synchronised by a task that serves the agent. -/
theorem syncRows_obeys {agentId : Uuid} {sender : Channel} {rows : List TunnelRecord} {post}
    (live : Live job past) (running : ∀ session, job ≠ .frame session .hangup)
    (order : ∀ own ∈ held, own.1.rank < Lock.allocatedPorts.rank)
    (serves : Serves job past held agentId sender)
    (listed : ∀ row ∈ rows, ∃ id all, Did past (.db (.listTunnelsForAgent id)) (.ok all) ∧ row ∈ all)
    (after : ∀ grown configs, past <:+ grown → Live job grown → post grown held configs) :
    (syncRows agentId sender rows).Obeys (discipline job) post past held := by
  have above : ∀ own ∈ held, own.1.rank < Lock.tunnelTasks.rank :=
    fun own member => Nat.lt_succ_of_lt (order own member)
  induction rows generalizing past post with
  | nil => exact after _ _ List.suffix_rfl live
  | cons tunnel rest ih =>
      obtain ⟨id, all, did, member⟩ := listed tunnel List.mem_cons_self
      have others {grown : Past} (grows : past <:+ grown) : ∀ row ∈ rest, ∃ id all,
          Did grown (.db (.listTunnelsForAgent id)) (.ok all) ∧ row ∈ all := by
        intro row later
        obtain ⟨id, all, did, member⟩ := listed row (List.mem_cons_of_mem _ later)
        exact ⟨id, all, did.later grows, member⟩
      simp only [syncRows]
      split
      · exact ih live serves (others List.suffix_rfl) after
      · rename_i tunnelId parsed
        simp only [bind_eq]
        split
        · rename_i enabled
          rw [obeys_bind]
          refine withLock_obeys live rfl rfl order (by simp) (by simp)
            (permitted_of_justified running (.inr ⟨id, all, tunnel, did, member, enabled, rfl⟩))
            fun _ live => ?_
          rw [obeys_bind]
          refine startTunnelListener_obeys live running above
            (serves.later (List.suffix_cons _ _) (List.Subset.refl _)) (.inl (by simp [Did]))
            ⟨tunnel, .inl ⟨id, all, did.later (List.suffix_cons _ _), member⟩, parsed⟩
            fun started _ grows _ live => ?_
          have grows := (List.suffix_cons _ _).trans grows
          rw [obeys_bind]
          refine ih live (serves.later grows (List.Subset.refl _)) (others grows)
            fun grown configs more live => ?_
          exact after _ _ (grows.trans more) live
        · rw [obeys_bind]
          exact ih live serves (others List.suffix_rfl) fun grown configs more live => after _ _ more live

theorem syncAgentTunnels_obeys {agentId : Uuid} {sender : Channel} {post}
    (live : Live job past) (running : ∀ session, job ≠ .frame session .hangup)
    (settled : ∀ session hostname, job ≠ .frame session (.message (.requestClaim hostname)))
    (order : ∀ own ∈ held, own.1.rank < Lock.db.rank)
    (serves : Serves job past held agentId sender)
    (after : ∀ grown, past <:+ grown → Live job grown → post grown held ()) :
    (syncAgentTunnels agentId sender).Obeys (discipline job) post past held := by
  have above : ∀ own ∈ held, own.1.rank < Lock.allocatedPorts.rank :=
    fun own member => Nat.lt_of_lt_of_le (order own member) (by decide)
  simp only [syncAgentTunnels, bind_eq, obeys_bind]
  refine query_obeys live order settled (permitted_of_justified running trivial) fun rows live => ?_
  have listed : ∀ row ∈ rowsOrNone rows, ∃ id all,
      Did (⟨.db (.listTunnelsForAgent (uuidToString agentId)), rows⟩ :: past)
        (.db (.listTunnelsForAgent id)) (.ok all) ∧ row ∈ all := by
    intro row member
    cases rows with
    | error failure => contradiction
    | ok all => exact ⟨_, all, List.mem_cons_self, member⟩
  refine syncRows_obeys live running above
    (serves.later (List.suffix_cons _ _) (List.Subset.refl _)) listed fun grown configs grows live => ?_
  refine access_obeys live rfl rfl (permitted_of_justified running trivial) fun _ live => ?_
  exact after _ (((List.suffix_cons _ _).trans grows).trans (List.suffix_cons _ _)) live

/-- The task may stop the listener of the row and release its port. -/
def MayStop (job : Job) (past : Past) (row : TunnelRecord) : Prop :=
  ∀ grown held, past <:+ grown →
    (∀ tunnelId, parseUuid row.id = some tunnelId → Permitted job grown held (.removeTunnelTask tunnelId)) ∧
    Permitted job grown held (.freePort row.publicPort)

theorem stopRow_obeys {row : TunnelRecord} {post} (live : Live job past) (may : MayStop job past row)
    (order : ∀ own ∈ held, own.1.rank < Lock.allocatedPorts.rank)
    (after : ∀ grown, past <:+ grown → Live job grown →
      (∀ tunnelId, parseUuid row.id = some tunnelId → Did grown (.removeTunnelTask tunnelId) ()) →
        post grown held ()) :
    (stopRow row).Obeys (discipline job) post past held := by
  simp only [stopRow]
  split
  · rename_i unparsed
    exact after _ List.suffix_rfl live (by simp [unparsed])
  · rename_i tunnelId parsed
    simp only [bind_eq, obeys_bind]
    refine stopTunnelListener_obeys live (fun own member => Nat.lt_succ_of_lt (order own member))
      ((may _ _ List.suffix_rfl).1 tunnelId parsed) fun live => ?_
    refine withLock_obeys live rfl rfl order (by simp) (by simp) ((may _ _ (List.suffix_cons _ _)).2)
      fun _ live => ?_
    refine after _ ((List.suffix_cons _ _).trans (List.suffix_cons _ _)) live fun other same => ?_
    rw [parsed, Option.some.injEq] at same
    subst same
    simp [Did]

theorem stopRows_obeys {rows : List TunnelRecord} {post} (live : Live job past)
    (may : ∀ row ∈ rows, MayStop job past row)
    (order : ∀ own ∈ held, own.1.rank < Lock.allocatedPorts.rank)
    (after : ∀ grown, past <:+ grown → Live job grown →
      (∀ row ∈ rows, ∀ tunnelId, parseUuid row.id = some tunnelId →
        Did grown (.removeTunnelTask tunnelId) ()) → post grown held ()) :
    (forEach stopRow rows).Obeys (discipline job) post past held := by
  induction rows generalizing past with
  | nil => exact after _ List.suffix_rfl live (by simp)
  | cons row rest ih =>
      simp only [forEach, obeys_bind]
      refine stopRow_obeys live (may row (by simp)) order fun grown grows live stopped => ?_
      refine ih live (fun other member later held further => may other (by simp [member]) later held
        (grows.trans further)) fun last more live others => ?_
      refine after last (grows.trans more) live fun other member tunnelId parsed => ?_
      rcases List.mem_cons.mp member with rfl | later
      · exact (stopped tunnelId parsed).later more
      · exact others other later tunnelId parsed

end Blocks

/-! ## WebSocket frames -/

section Frames

variable {session : SessionId}

theorem answered_frame {past : Past} {frame : Frame} {reply : Reply} :
    answered (.frame session frame) past [] reply :=
  ⟨rfl, fun _ ⟨_, _, _, toggled, _⟩ => by contradiction, fun _ _ claimed => by contradiction,
    fun _ _ banned => by contradiction⟩

theorem cleanupAgent_obeys {past : Past} {agentId : Uuid} {code : Option String} {post}
    (live : Live (.frame session .hangup) past)
    (locals : Did past (.sessionLocals session) (some agentId, code))
    (unread : ∀ other sender, ¬ Did past (.agentSender other) sender)
    (unstopped : ∀ tunnelId, ¬ Did past (.removeTunnelTask tunnelId) ())
    (after : ∀ grown rows, past <:+ grown → Live (.frame session .hangup) grown →
      Did grown (.db (.listTunnelsForAgent (uuidToString agentId))) rows →
      (∀ row ∈ rowsOrNone rows, ∀ tunnelId, parseUuid row.id = some tunnelId →
        Did grown (.removeTunnelTask tunnelId) ()) → post grown [] ()) :
    (cleanupAgent agentId).Obeys (discipline (.frame session .hangup)) post past [] := by
  simp only [cleanupAgent, bind_eq, obeys_bind]
  refine withLock_obeys live rfl rfl (by simp) (fun _ => unread) (by simp) ⟨code, locals⟩ fun sender live => ?_
  refine query_obeys live (by simp) (by simp) ⟨agentId, code, ?_, rfl, rfl, rfl⟩ fun online live => ?_
  · exact locals.later (List.suffix_cons _ _)
  refine query_obeys live (by simp) (by simp) ⟨agentId, code, sender, ?_, rfl, by simp [Did], ?_⟩
    fun rows live => ?_
  · exact locals.later ((List.suffix_cons _ _).trans (List.suffix_cons _ _))
  · simpa [Did] using unstopped
  refine stopRows_obeys live ?_ (by simp) fun grown grows live stopped => ?_
  · intro row member later held grows
    have listed : Listed later session row := by
      cases rows with
      | error failure => simp [rowsOrNone] at member
      | ok rows =>
          refine ⟨agentId, code, rows, locals.later ?_, Did.later (by simp [Did]) grows, member⟩
          refine List.IsSuffix.trans ?_ grows
          simp [List.suffix_cons_iff]
    exact ⟨fun tunnelId parsed => ⟨row, listed, parsed⟩, ⟨row, listed, rfl⟩⟩
  · refine after grown rows (List.IsSuffix.trans ?_ grows) live (Did.later (by simp [Did]) grows) stopped
    simp [List.suffix_cons_iff]

theorem teardown_obeys :
    (teardown session).Obeys (discipline (.frame session .hangup))
      (fun past held _ => answered (.frame session .hangup) past held .none) [] [] := by
  simp only [teardown, bind_eq, obeys_bind]
  refine access_obeys live_nil rfl rfl ⟨rfl, rfl⟩ fun _ live => ?_
  refine access_obeys live rfl rfl ⟨rfl, by simp [Did]⟩ fun locals live => ?_
  obtain ⟨agentId, code⟩ := locals
  have cleans : ∀ past, Live (.frame session .hangup) past →
      Did past (.sessionLocals session) (agentId, code) →
      (∀ other sender, ¬ Did past (.agentSender other) sender) →
      (∀ tunnelId, ¬ Did past (.removeTunnelTask tunnelId) ()) →
      (∀ code', code = some code' → ∃ sender, Did past (.removePendingClaim code') sender) →
      (ifSome cleanupAgent agentId).Obeys (discipline (.frame session .hangup)) (fun past held _ =>
        (access (.returnSession session)).Obeys (discipline (.frame session .hangup))
          (fun past held _ => answered (.frame session .hangup) past held .none) past held) past [] := by
    intro past alive locals unread unstopped removed
    cases agentId with
    | none =>
        exact ⟨⟨alive, by simp [Op.guard], rfl, none, code, locals, removed, by simp⟩,
          fun _ => answered_frame⟩
    | some agentId =>
        refine cleanupAgent_obeys alive locals unread unstopped fun grown rows grows alive listed stopped => ?_
        refine ⟨⟨alive, by simp [Op.guard], rfl, some agentId, code, locals.later grows, ?_, ?_⟩,
          fun _ => answered_frame⟩
        · intro code' same
          obtain ⟨sender, did⟩ := removed code' same
          exact ⟨sender, did.later grows⟩
        · rintro agentId' ⟨⟩
          exact ⟨rows, listed, stopped⟩
  cases code with
  | none => exact cleans _ live (by simp [Did]) (by simp [Did]) (by simp [Did]) (by simp)
  | some code =>
      simp only [ifSome, obeys_bind]
      refine withLock_obeys live rfl rfl (by simp) (by simp) (by simp) ⟨agentId, by simp [Did]⟩
        fun sender live => cleans _ live (by simp [Did]) (by simp [Did]) (by simp [Did]) ?_
      rintro code' ⟨⟩
      exact ⟨sender, by simp [Did]⟩

theorem requestClaim_obeys {hostname : String} {post}
    (after : ∀ past, Live (.frame session (.message (.requestClaim hostname))) past → post past [] ()) :
    (requestClaim session hostname).Obeys
      (discipline (.frame session (.message (.requestClaim hostname)))) post [] [] := by
  simp only [requestClaim, bind_eq, obeys_guarded, obeys_bind]
  refine ⟨⟨by simp, by simp⟩, ⟨live_nil, by simp [Op.guard], rfl, session, rfl⟩, fun created => ?_⟩
  have live : Live (.frame session (.message (.requestClaim hostname)))
    [⟨.db (.createAgentClaim hostname), created⟩] := live_cons live_nil rfl
  cases created with
  | error failure =>
      refine access_obeys live rfl rfl trivial fun _ live => ⟨fun _ => ?_, after _ live⟩
      rintro other code token ⟨hostname', record, same, drew, _⟩
      cases same
      simp [Did] at drew
  | ok created =>
      obtain ⟨record, code⟩ := created
      have drew {grown} (grows : [⟨.db (.createAgentClaim hostname), .ok (record, code)⟩] <:+ grown) :
          DrewCode (.frame session (.message (.requestClaim hostname))) grown session code record.token :=
        ⟨hostname, record, rfl, Did.later (by simp [Did]) grows, rfl⟩
      simp only [obeys_done, obeys_bind]
      refine access_obeys live rfl rfl ⟨_, rfl⟩ fun _ live => ?_
      refine withLock_obeys live rfl rfl (by simp [Lock.rank]) (by simp) (by simp)
        ⟨record.token, .inr (drew (by simp)), by simp [Announced, Did]⟩
        fun _ live => ?_
      refine access_obeys live rfl rfl
        ⟨record.token, rfl, .inr (drew (by simp [List.suffix_cons_iff])), by simp [Did]⟩
        fun _ live => ⟨fun _ => ?_, after _ live⟩
      rintro other code' token ⟨hostname', record', same, drew', rfl⟩
      cases same
      simp [Did] at drew'
      obtain ⟨rfl, rfl⟩ := drew'
      simp [Announced, Did, claimReady]

theorem auth_obeys {token hostname : String} {post}
    (after : ∀ past, Live (.frame session (.message (.auth token hostname))) past → post past [] ()) :
    (auth session token hostname).Obeys
      (discipline (.frame session (.message (.auth token hostname)))) post [] [] := by
  simp only [auth, bind_eq, obeys_bind]
  refine query_obeys live_nil (by simp) (by simp) ⟨session, hostname, rfl⟩ fun found live => ?_
  match found with
  | .error failure => exact access_obeys live rfl rfl trivial fun _ live => after _ live
  | .ok none => exact access_obeys live rfl rfl trivial fun _ live => after _ live
  | .ok (some agent) =>
      simp only []
      split
      · rename_i code carries
        have read {grown} (grows : [⟨.db (.getAgentByToken token), .ok (some agent)⟩] <:+ grown) :
            ReadCode (.frame session (.message (.auth token hostname))) grown session code token :=
          ⟨hostname, agent, rfl, Did.later (by simp [Did]) grows, carries⟩
        simp only [obeys_bind]
        refine access_obeys live rfl rfl ⟨_, rfl⟩ fun _ live => ?_
        refine withLock_obeys live rfl rfl (by simp) (by simp) (by simp)
          ⟨token, .inl (read (by simp)), by simp [Announced, Did]⟩ fun _ live => ?_
        exact access_obeys live rfl rfl
          ⟨token, rfl, .inl (read (by simp [List.suffix_cons_iff])), by simp [Did]⟩ fun _ live => after _ live
      · rename_i unclaimed
        split
        · exact access_obeys live rfl rfl trivial fun _ live => after _ live
        · rename_i agentId parsed
          have entitled {grown} (grows : [⟨.db (.getAgentByToken token), .ok (some agent)⟩] <:+ grown) :
              Authenticated (.frame session (.message (.auth token hostname))) grown agent session :=
            ⟨token, hostname, rfl, Did.later (by simp [Did]) grows, unclaimed⟩
          simp only [obeys_bind]
          refine access_obeys live rfl rfl ⟨_, rfl⟩ fun _ live => ?_
          refine query_obeys live (by simp) (by simp) trivial fun _ live => ?_
          refine withLock_obeys live rfl rfl (by simp) (by simp [Did]) (by simp)
            ⟨agent, parsed, .inl (entitled (by simp [List.suffix_cons_iff]))⟩ fun _ live => ?_
          refine access_obeys live rfl rfl
            ⟨agent, parsed, rfl, .inl (entitled (by simp [List.suffix_cons_iff]))⟩ fun _ live => ?_
          exact syncAgentTunnels_obeys live (by simp) (by simp) (by simp)
            (.inl ⟨agent, parsed, .inl (entitled (by simp [List.suffix_cons_iff]))⟩)
            fun grown _ live => after grown live

theorem handleFrame_obeys {frame : Frame} :
    (serve (.frame session frame)).Obeys (discipline (.frame session frame))
      (answered (.frame session frame)) [] [] := by
  simp only [serve, bind_eq, obeys_bind]
  cases frame with
  | hangup => exact teardown_obeys.mono (fun _ _ _ lawful => lawful) fun _ _ _ done => done
  | ignored => exact ⟨⟨live_nil, by simp [Op.guard], _, rfl, by simp⟩, fun _ => answered_frame⟩
  | message message =>
      have awaits : ∀ past, Live (.frame session (.message message)) past →
          (∀ connId payload data, Frame.message message = .message (.data connId payload) →
            decodeBase64 payload = some data → Did past (.enqueueData connId data) ()) →
          (access (.awaitFrame session)).Obeys (discipline (.frame session (.message message)))
            (fun past held _ => answered (.frame session (.message message)) past held .none) past [] :=
        fun past live delivered => ⟨⟨live, by simp [Op.guard], _, rfl, delivered⟩, fun _ => answered_frame⟩
      simp only [handleFrame, bind_eq, obeys_bind]
      cases message with
      | auth token hostname => exact auth_obeys fun past live => awaits past live (by simp)
      | requestClaim hostname => exact requestClaim_obeys fun past live => awaits past live (by simp)
      | data connId payload =>
          simp only [handleMessage]
          cases decoded : decodeBase64 payload with
          | some data =>
              refine withLock_obeys live_nil rfl rfl (by simp) (by simp) (by simp)
                ⟨rfl, session, payload, rfl, decoded⟩ fun _ live => awaits _ live ?_
              rintro _ _ data' ⟨⟩ same
              rw [decoded, Option.some.injEq] at same
              rw [same]
              exact List.mem_cons_self
          | none =>
              refine awaits _ live_nil ?_
              rintro _ _ data ⟨⟩ same
              rw [decoded] at same
              contradiction
      | closeConnection connId =>
          exact withLock_obeys live_nil rfl rfl (by simp) (by simp) (by simp) ⟨rfl, session, rfl⟩
            fun _ live => awaits _ live (by simp)
      | ping => exact access_obeys live_nil rfl rfl trivial fun _ live => awaits _ live (by simp)

end Frames

/-! ## HTTP requests -/

section Requests

variable {job : Job} {past : Past} {held : Held}

theorem answered_plain {reply : Reply} (toggles : ∀ id, job ≠ .toggleTunnel id)
    (claims : ∀ code headers, job ≠ .claimAgent code headers)
    (bans : ∀ id headers, job ≠ .adminBanUser id headers) : answered job past [] reply :=
  ⟨rfl, fun _ ⟨id, _, _, toggled, _⟩ => toggles id toggled,
    fun code headers claimed => absurd claimed (claims code headers),
    fun id headers banned => absurd banned (bans id headers)⟩

theorem getCurrentUserId_obeys {headers : HeaderMap} {post} (live : Live job past)
    (running : ∀ session, job ≠ .frame session .hangup)
    (order : ∀ own ∈ held, own.1.rank < Lock.userSessions.rank)
    (anonymous : post past held none)
    (known : ∀ token user, extractToken headers = some token →
      Live job (⟨.userSession token, user⟩ :: past) → post (⟨.userSession token, user⟩ :: past) held user) :
    (getCurrentUserId headers).Obeys (discipline job) post past held := by
  simp only [getCurrentUserId]
  split
  · exact anonymous
  · rename_i token extracted
    exact withLock_obeys live rfl rfl order (by simp) (by simp)
      (permitted_of_justified running trivial) fun user live => known token user extracted live

theorem isAdmin_obeys {headers : HeaderMap} {post} (live : Live job past)
    (running : ∀ session, job ≠ .frame session .hangup)
    (order : ∀ own ∈ held, own.1.rank < Lock.adminSessions.rank)
    (after : ∀ grown result, (∀ op answer, Did grown op answer → Did past op answer ∨
      ∃ token, op = .isAdminSession token) → Live job grown → post grown held result) :
    (isAdmin headers).Obeys (discipline job) post past held := by
  simp only [isAdmin]
  split
  · exact after _ _ (fun _ _ => .inl) live
  · refine withLock_obeys live rfl rfl order (by simp) (by simp)
      (permitted_of_justified running trivial) fun _ live => after _ _ (fun op answer did => ?_) live
    rcases List.mem_cons.mp did with same | old
    · exact .inr ⟨_, congrArg Sigma.fst same⟩
    · exact .inl old

theorem issueSession_obeys {code : StatusCode} {user : UserRecord} {post} (live : Live job past)
    (running : ∀ session, job ≠ .frame session .hangup)
    (after : ∀ grown reply, past <:+ grown → post grown [] reply) :
    (issueSession code user).Obeys (discipline job) post past [] := by
  simp only [issueSession, bind_eq, obeys_bind]
  refine access_obeys live rfl rfl (permitted_of_justified running trivial) fun id live => ?_
  refine withLock_obeys live rfl rfl (by simp) (by simp) (by simp)
    (permitted_of_justified running trivial) fun _ _ => after _ _ ?_
  simp [List.suffix_cons_iff]

theorem firstOrNewAgent_obeys {userId : String} {agents : List AgentRecord} {post}
    (live : Live job past) (running : ∀ session, job ≠ .frame session .hangup)
    (locked : (Lock.db, Mode.exclusive) ∈ held)
    (after : ∀ grown result, past <:+ grown → post grown held result) :
    (firstOrNewAgent userId agents).Obeys (discipline job) post past held := by
  cases agents with
  | cons first rest => exact after _ _ List.suffix_rfl
  | nil =>
      refine ⟨⟨live, ?_, permitted_of_justified running trivial⟩, fun _ => after _ _ (List.suffix_cons _ _)⟩
      simpa [Op.guard] using locked

theorem register_obeys {body : AuthRequest} :
    (register body).Obeys (discipline (.register body)) (answered (.register body)) [] [] := by
  simp only [register]
  split
  · exact answered_plain (by simp) (by simp) (by simp)
  split
  · exact answered_plain (by simp) (by simp) (by simp)
  simp only [bind_eq, obeys_bind]
  refine query_obeys live_nil (by simp) (by simp) trivial fun created live => ?_
  cases created with
  | error failure => exact answered_plain (by simp) (by simp) (by simp)
  | ok user => exact issueSession_obeys live (by simp) fun _ _ _ => answered_plain (by simp) (by simp) (by simp)

theorem login_obeys {body : AuthRequest} :
    (login body).Obeys (discipline (.login body)) (answered (.login body)) [] [] := by
  simp only [login, bind_eq, obeys_bind]
  refine query_obeys live_nil (by simp) (by simp) trivial fun found live => ?_
  match found with
  | .error failure => exact answered_plain (by simp) (by simp) (by simp)
  | .ok none => exact answered_plain (by simp) (by simp) (by simp)
  | .ok (some user) =>
      simp only []
      split
      · exact answered_plain (by simp) (by simp) (by simp)
      · exact issueSession_obeys live (by simp) fun _ _ _ => answered_plain (by simp) (by simp) (by simp)

theorem logout_obeys {headers : HeaderMap} :
    (logout headers).Obeys (discipline (.logout headers)) (answered (.logout headers)) [] [] := by
  simp only [logout, bind_eq, obeys_bind]
  refine ifSome_obeys (fun _ => answered_plain (by simp) (by simp) (by simp)) fun token _ => ?_
  exact withLock_obeys live_nil rfl rfl (by simp) (by simp) (by simp) trivial
    fun _ _ => answered_plain (by simp) (by simp) (by simp)

theorem adminLogin_obeys {password : String} :
    (adminLogin password).Obeys (discipline (.adminLogin password)) (answered (.adminLogin password))
      [] [] := by
  simp only [adminLogin]
  split
  · simp only [bind_eq, obeys_bind]
    refine access_obeys live_nil rfl rfl trivial fun id live => ?_
    exact withLock_obeys live rfl rfl (by simp) (by simp) (by simp) trivial
      fun _ _ => answered_plain (by simp) (by simp) (by simp)
  · exact answered_plain (by simp) (by simp) (by simp)

theorem adminBanUser_obeys {id : String} {headers : HeaderMap} :
    (adminBanUser id headers).Obeys (discipline (.adminBanUser id headers))
      (answered (.adminBanUser id headers)) [] [] := by
  simp only [adminBanUser, bind_eq, obeys_bind]
  have finished {past : Past} {reply : Reply} (stopped : StoppedListed past id) :
      answered (.adminBanUser id headers) past [] reply :=
    ⟨rfl, fun _ ⟨_, _, _, toggled, _⟩ => by contradiction, fun _ _ claimed => by contradiction,
      fun _ _ same => by cases same; exact stopped⟩
  refine isAdmin_obeys live_nil (by simp) (by simp) fun past admin only live => ?_
  have asked {op : Op} {answer : op.Result} (did : Did past op answer) : ∃ token, op = .isAdminSession token :=
    (only op answer did).resolve_left did_nil
  cases admin with
  | false =>
      refine finished fun result did => ?_
      obtain ⟨_, impossible⟩ := asked did
      contradiction
  | true =>
      simp only [if_true, obeys_bind, obeys_guarded]
      refine ⟨⟨by simp, by simp⟩, ⟨live, by simp [Op.guard], fun _ rows did => ?_⟩, fun banned => ?_⟩
      · obtain ⟨_, impossible⟩ := asked did
        contradiction
      have live : Live _ (⟨.db (.toggleUserBan id true), banned⟩ :: past) := live_cons live rfl
      refine ⟨⟨live, by simp [Op.guard], ⟨headers, rfl⟩, fun tunnelId did => ?_⟩, fun rows => ?_⟩
      · rcases List.mem_cons.mp did with same | old
        · cases same
        · obtain ⟨_, impossible⟩ := asked old
          contradiction
      have live : Live _ (⟨.db (.listTunnelsForUser id), rows⟩ :: _) := live_cons live rfl
      refine stopRows_obeys live (fun _ _ _ _ _ => ⟨fun _ _ => trivial, .inl ⟨id, headers, rfl⟩⟩) (by simp [Lock.rank])
        fun grown grows _ stopped => ⟨fun _ _ _ _ drew => ?_, ?_⟩
      · obtain ⟨_, _, framed, _⟩ := drew
        contradiction
      · exact finished fun _ _ => ⟨rows, grows.subset List.mem_cons_self, stopped⟩

theorem adminUnbanUser_obeys {id : String} {headers : HeaderMap} :
    (adminUnbanUser id headers).Obeys (discipline (.adminUnbanUser id headers))
      (answered (.adminUnbanUser id headers)) [] [] := by
  simp only [adminUnbanUser, bind_eq, obeys_bind]
  refine isAdmin_obeys live_nil (by simp) (by simp) fun past admin _ live => ?_
  cases admin with
  | false => exact answered_plain (by simp) (by simp) (by simp)
  | true =>
      simp only [if_true, obeys_bind]
      exact query_obeys live (by simp) (by simp) (fun lifted => by contradiction)
        fun _ _ => answered_plain (by simp) (by simp) (by simp)

theorem confirmClaim_obeys {code userId : String} {headers : HeaderMap} {agentId : Uuid}
    {agent : AgentRecord} {sender : Channel} {post} (live : Live (.claimAgent code headers) past)
    (unread : ∀ other sender, ¬ Did past (.agentSender other) sender)
    (parsed : parseUuid agent.id = some agentId)
    (claimed : Did past (.db (.claimAgentToUser code userId)) (.ok (some agent)))
    (found : Did past (.removePendingClaim code) (some sender))
    (after : ∀ grown, past <:+ grown → post grown [] ()) :
    (confirmClaim agentId agent sender).Obeys (discipline (.claimAgent code headers)) post past [] := by
  have confirmed {grown} (grows : past <:+ grown) :
      Confirmed (.claimAgent code headers) grown agent sender :=
    ⟨code, headers, userId, rfl, claimed.later grows, found.later grows⟩
  simp only [confirmClaim, bind_eq, obeys_bind]
  refine query_obeys live (by simp) (by simp) trivial fun _ live => ?_
  refine withLock_obeys live rfl rfl (by simp) ?_ (by simp)
    ⟨agent, parsed, .inr (confirmed (by simp))⟩ fun _ live => ?_
  · simpa [Did] using unread
  refine access_obeys live rfl rfl
    ⟨agent, parsed, rfl, .inr (confirmed (by simp [List.suffix_cons_iff]))⟩ fun _ live => ?_
  refine syncAgentTunnels_obeys live (by simp) (by simp) (by simp)
    (.inl ⟨agent, parsed, .inr (confirmed (by simp [List.suffix_cons_iff]))⟩)
    fun grown grows live => after grown (List.IsSuffix.trans ?_ grows)
  simp [List.suffix_cons_iff]

theorem claimAgent_obeys {code : String} {headers : HeaderMap} :
    (claimAgent code headers).Obeys (discipline (.claimAgent code headers))
      (answered (.claimAgent code headers)) [] [] := by
  have refused {past : Past} {reply : Reply} (other : reply ≠ .text .ok "Agent claimed successfully") :
      answered (.claimAgent code headers) past [] reply :=
    ⟨rfl, fun _ ⟨_, _, _, toggled, _⟩ => by contradiction, fun _ _ _ same => absurd same other,
      fun _ _ banned => by contradiction⟩
  simp only [claimAgent, bind_eq, obeys_bind]
  refine getCurrentUserId_obeys live_nil (by simp) (by simp) (refused (by simp)) fun token user _ live => ?_
  cases user with
  | none => exact refused (by simp)
  | some userId =>
      simp only [obeys_bind]
      refine query_obeys live (by simp) (by simp) ⟨headers, token, rfl, by simp [Did], by simp [Did]⟩ fun taken live => ?_
      match taken with
      | .error (.error _) => exact refused (by simp)
      | .error .panicked => exact refused (by simp)
      | .ok none => exact refused (by simp)
      | .ok (some agent) =>
          simp only []
          split
          · exact refused (by simp)
          · rename_i agentId parsed
            have accepted {past} (did : Did past (.db (.claimAgentToUser code userId)) (.ok (some agent))) :
                answered (.claimAgent code headers) past [] (.text .ok "Agent claimed successfully") := by
              refine ⟨rfl, fun _ ⟨_, _, _, toggled, _⟩ => by contradiction, ?_,
                fun _ _ banned => by contradiction⟩
              rintro _ _ ⟨⟩ _
              exact ⟨userId, agent, did⟩
            simp only [obeys_bind]
            refine withLock_obeys live rfl rfl (by simp) (by simp) (by simp)
              ⟨headers, userId, agent, rfl, by simp [Did], by simp [Did]⟩ fun waiting live => ?_
            refine ifSome_obeys (fun _ => accepted (by simp [Did])) fun sender found => ?_
            subst found
            have asked : Did ([⟨.removePendingClaim code, some sender⟩,
                ⟨.db (.claimAgentToUser code userId), .ok (some agent)⟩,
                ⟨.userSession token, some userId⟩] : Past) (.db (.claimAgentToUser code userId))
                (.ok (some agent)) := by simp [Did]
            refine confirmClaim_obeys live (by simp [Did]) parsed asked
              (by simp [Did]) fun grown grows => accepted ?_
            exact Did.later (by simp [Did]) grows

theorem generateAgentToken_obeys {headers : HeaderMap} :
    (generateAgentToken headers).Obeys (discipline (.generateAgentToken headers))
      (answered (.generateAgentToken headers)) [] [] := by
  have plain {past : Past} {reply : Reply} : answered (.generateAgentToken headers) past [] reply :=
    answered_plain (by simp) (by simp) (by simp)
  have undrawn {past : Past} {session code token} :
      ¬ DrewCode (.generateAgentToken headers) past session code token := by simp [DrewCode]
  simp only [generateAgentToken, bind_eq, obeys_bind]
  refine getCurrentUserId_obeys live_nil (by simp) (by simp) plain fun token user _ live => ?_
  cases user with
  | none => exact plain
  | some userId =>
      simp only [obeys_guarded, obeys_bind]
      refine ⟨⟨by simp, by simp⟩, ⟨live, by simp [Op.guard], trivial⟩, fun listed => ?_⟩
      cases listed with
      | error failure => exact ⟨fun _ _ _ _ drew => absurd drew undrawn, plain⟩
      | ok agents =>
          simp only [obeys_done, obeys_bind]
          refine firstOrNewAgent_obeys (live_cons live rfl) (by simp) (by simp) fun grown result _ => ?_
          cases result <;> exact ⟨fun _ _ _ _ drew => absurd drew undrawn, plain⟩

theorem deleteAgent_obeys {id : String} :
    (deleteAgent id).Obeys (discipline (.deleteAgent id)) (answered (.deleteAgent id)) [] [] := by
  have deletes {past : Past} (live : Live (.deleteAgent id) past) :
      (query (.deleteAgent id)).Obeys (discipline (.deleteAgent id)) (fun past held _ =>
        (done (.status .ok) : Relay Reply).Obeys (discipline (.deleteAgent id))
          (answered (.deleteAgent id)) past held) past [] :=
    query_obeys live (by simp) (by simp) rfl fun _ _ => answered_plain (by simp) (by simp) (by simp)
  simp only [deleteAgent, bind_eq, obeys_bind]
  refine ifSome_obeys (fun _ => deletes live_nil) fun agentId parsed => ?_
  simp only [obeys_guarded, obeys_bind]
  refine ⟨⟨by simp, by simp⟩, ⟨live_nil, by simp [Op.guard], id, rfl, parsed⟩, fun sender => ?_⟩
  have live : Live (.deleteAgent id) [⟨.removeAgentSender agentId, sender⟩] := live_cons live_nil rfl
  refine ifSome_obeys (fun _ => ⟨by simp [discipline], by simpa [dropGuard] using deletes live⟩)
    fun sender _ => ?_
  refine access_obeys live rfl rfl trivial fun _ live => ?_
  exact ⟨by simp [discipline], by simpa [dropGuard] using deletes live⟩

theorem subdomainTaken_obeys {subdomain excludeId : Option String} {post} (live : Live job past)
    (running : ∀ session, job ≠ .frame session .hangup)
    (settled : ∀ session hostname, job ≠ .frame session (.message (.requestClaim hostname)))
    (order : ∀ own ∈ held, own.1.rank < Lock.db.rank)
    (after : ∀ grown taken, (∀ op result, Did grown op result → Did past op result ∨
        ∃ query, op = .db (.isSubdomainTaken query excludeId)) →
      (taken = false → FoundFree grown subdomain excludeId) →
      past <:+ grown → Live job grown → post grown held taken) :
    (subdomainTaken subdomain excludeId).Obeys (discipline job) post past held := by
  cases subdomain with
  | none => exact after _ _ (fun _ _ did => .inl did) (fun _ _ same => by contradiction) List.suffix_rfl live
  | some subdomain =>
      simp only [subdomainTaken, bind_eq, obeys_bind]
      refine query_obeys live order settled (permitted_of_justified running trivial) fun taken live => ?_
      have only : ∀ op result, Did (⟨.db (.isSubdomainTaken subdomain excludeId), taken⟩ :: past) op result →
          Did past op result ∨ ∃ query, op = .db (.isSubdomainTaken query excludeId) := by
        intro op result did
        rcases List.mem_cons.mp did with same | old
        · exact .inr ⟨subdomain, congrArg Sigma.fst same⟩
        · exact .inl old
      cases taken with
      | error failure =>
          refine after _ _ only (fun _ name same => ?_) (List.suffix_cons _ _) live
          cases same
          exact ⟨_, List.mem_cons_self, by simp⟩
      | ok taken =>
          refine after _ _ only (fun free name same => ?_) (List.suffix_cons _ _) live
          cases same
          exact ⟨_, List.mem_cons_self, by simpa using free⟩

/-- The dashboard looks up the agent's channel and starts the tunnel on it. -/
theorem announceTunnel_obeys {agentId : Uuid} {config : TunnelConfig} {post} (live : Live job past)
    (http : job.isHttp) (running : ∀ session, job ≠ .frame session .hangup)
    (unread : ∀ other sender, ¬ Did past (.agentSender other) sender)
    (same : config.agentId = agentId) (reserved : Reserved past config.publicPort)
    (saw : ∃ row, SawRow past row ∧ parseUuid row.id = some config.id)
    (after : ∀ grown, past <:+ grown → post grown [] ()) :
    (announceTunnel agentId config).Obeys (discipline job) post past [] := by
  simp only [announceTunnel, bind_eq, obeys_guarded, obeys_bind]
  refine ⟨⟨by simp, fun _ => unread⟩,
    ⟨live, by simp [Op.guard], permitted_of_justified running trivial⟩, fun sender => ?_⟩
  have live : Live _ (⟨.agentSender agentId, sender⟩ :: _) := live_cons live rfl
  refine ifSome_obeys (fun _ => ⟨by simp [discipline], after _ (List.suffix_cons _ _)⟩) fun channel found => ?_
  subst found
  simp only [obeys_bind]
  refine startTunnelListener_obeys live running (by simp [Lock.rank])
    (.inr ⟨http, by simp [Did, same], by simp⟩) (reserved.later (List.suffix_cons _ _))
    (saw.imp fun _ saw => ⟨saw.1.later (List.suffix_cons _ _), saw.2⟩) fun grown started grows _ live => ?_
  refine access_obeys live rfl rfl (permitted_of_justified running trivial)
    fun _ _ => ⟨by simp [discipline], after _ ?_⟩
  exact ((List.suffix_cons _ _).trans grows).trans (List.suffix_cons _ _)

theorem createTunnel_obeys {headers : HeaderMap} {body : CreateTunnelRequest} :
    (createTunnel headers body).Obeys (discipline (.createTunnel headers body))
      (answered (.createTunnel headers body)) [] [] := by
  have plain {past : Past} {reply : Reply} : answered (.createTunnel headers body) past [] reply :=
    answered_plain (by simp) (by simp) (by simp)
  simp only [createTunnel, bind_eq, obeys_bind]
  refine getCurrentUserId_obeys live_nil (by simp) (by simp) plain fun token user extracted live => ?_
  cases user with
  | none => exact plain
  | some uid =>
      simp only []
      split
      · exact plain
      rename_i agentId parsed
      simp only [obeys_bind]
      refine subdomainTaken_obeys live (by simp) (by simp) (by simp) fun past taken only free grows live => ?_
      split
      · exact plain
      rename_i untaken
      have known : Did past (.userSession token) (some uid) := Did.later (by simp [Did]) grows
      have early : ∀ op result, Did past op result →
          (∃ token, op = .userSession token) ∨ ∃ query, op = .db (.isSubdomainTaken query none) := by
        intro op result did
        rcases only op result did with first | second
        · exact .inl ⟨token, congrArg Sigma.fst (List.mem_singleton.mp first)⟩
        · exact .inr second
      simp only [reservePort, bind_eq, obeys_bind]
      refine query_obeys live (by simp) (by simp) trivial fun account live => ?_
      match account with
      | .error failure => exact plain
      | .ok none => exact plain
      | .ok (some user) =>
          simp only [obeys_bind]
          refine withLock_obeys live rfl rfl (by simp) (by simp) (by simp) ⟨headers, body, rfl⟩
            fun reserved live => ?_
          cases reserved with
          | none => exact plain
          | some port =>
              simp only []
              split
              · rename_i dedicated
                subst dedicated
                simp only [insertTunnel, bind_eq, obeys_bind]
                refine query_obeys live (by simp) (by simp) ?_ fun inserted live => ?_
                · refine ⟨headers, body, token, uid, user, rfl, extracted,
                    known.later (by simp [List.suffix_cons_iff]), by simp [Did], rfl, by simp [Did],
                    rfl, rfl, rfl, ?_, ?_, ?_⟩
                  · exact (free (by simpa using untaken)).later (by simp [List.suffix_cons_iff])
                  · intro agentId userId name localPort protocol publicPort subdomain result did
                    simp [Did] at did
                    rcases early _ _ did with ⟨_, ⟨⟩⟩ | ⟨_, ⟨⟩⟩
                  · intro id name localPort protocol subdomain result did
                    simp [Did] at did
                    rcases early _ _ did with ⟨_, ⟨⟩⟩ | ⟨_, ⟨⟩⟩
                · cases inserted with
                  | error failure => exact plain
                  | ok record =>
                      simp only []
                      split
                      · exact plain
                      · rename_i named
                        simp only [obeys_bind]
                        refine announceTunnel_obeys live rfl (by simp) ?_ rfl (.inr (by simp [Did]))
                          ⟨record, .inr (.inr ⟨_, _, _, _, _, _, _, List.mem_cons_self⟩), named⟩ fun _ _ => plain
                        intro other sender did
                        simp [Did] at did
                        rcases early _ _ did with ⟨_, ⟨⟩⟩ | ⟨_, ⟨⟩⟩
              · exact plain

theorem updateTunnel_obeys {id : String} {body : UpdateTunnelRequest} :
    (updateTunnel id body).Obeys (discipline (.updateTunnel id body))
      (answered (.updateTunnel id body)) [] [] := by
  have plain {past : Past} {reply : Reply} : answered (.updateTunnel id body) past [] reply :=
    answered_plain (by simp) (by simp) (by simp)
  simp only [updateTunnel, bind_eq, obeys_bind]
  refine query_obeys live_nil (by simp) (by simp) trivial fun found live => ?_
  match found with
  | .error failure => exact plain
  | .ok none => exact plain
  | .ok (some tunnel) =>
      simp only [obeys_bind]
      refine subdomainTaken_obeys live (by simp) (by simp) (by simp) fun past taken only free grows live => ?_
      split
      · exact plain
      rename_i untaken
      simp only [obeys_bind]
      refine query_obeys live (by simp) (by simp) ⟨body, rfl, rfl, free (by simpa using untaken), ?_, ?_⟩
        fun updated live => ?_
      · intro agentId userId name localPort protocol publicPort subdomain result did
        rcases only _ _ did with old | ⟨_, ⟨⟩⟩
        simp [Did] at old
      · intro id name localPort protocol subdomain result did
        rcases only _ _ did with old | ⟨_, ⟨⟩⟩
        simp [Did] at old
      cases updated with
      | error failure => exact plain
      | ok _ =>
          simp only [obeys_bind]
          refine ifSome_obeys (fun _ => plain) fun agentId _ => ?_
          simp only [resyncAgent, bind_eq, obeys_guarded, obeys_bind]
          refine ⟨⟨by simp, fun _ other sender did => ?_⟩, ⟨live, by simp [Op.guard], trivial⟩, fun sender => ?_⟩
          · simp [Did] at did
            rcases only _ _ did with old | ⟨_, same⟩
            · simp [Did] at old
            · contradiction
          · have live : Live _ (⟨.agentSender agentId, sender⟩ :: _) := live_cons live rfl
            refine ifSome_obeys (fun _ => ⟨by simp [discipline], by simpa [dropGuard] using plain⟩)
              fun channel there => ?_
            subst there
            refine syncAgentTunnels_obeys live (by simp) (by simp) (by simp [Lock.rank])
              (.inr ⟨rfl, by simp [Did], by simp⟩) fun _ _ _ => ⟨by simp [discipline], ?_⟩
            simpa [dropGuard] using plain

theorem toggleTunnel_obeys {id : String} :
    (toggleTunnel id).Obeys (discipline (.toggleTunnel id)) (answered (.toggleTunnel id)) [] [] := by
  have finished {past : Past} {reply : Reply}
      (paid : ∀ tunnelId, ¬ OwesStop (.toggleTunnel id) past tunnelId) :
      answered (.toggleTunnel id) past [] reply :=
    ⟨rfl, paid, fun _ _ claimed => by contradiction, fun _ _ banned => by contradiction⟩
  simp only [toggleTunnel, bind_eq, obeys_bind]
  refine query_obeys live_nil (by simp) (by simp) trivial fun found live => ?_
  match found with
  | .error failure => exact finished (by simp [OwesStop, Did])
  | .ok none => exact finished (by simp [OwesStop, Did])
  | .ok (some tunnel) =>
      simp only []
      split
      · exact finished (by simp [OwesStop, Did])
      · exact finished (by simp [OwesStop, Did])
      · rename_i tunnelId agentId parsed agentParsed
        generalize switches : (!tunnel.enabled) = newEnabled
        simp only [obeys_bind]
        refine query_obeys live (by simp) (by simp)
          ⟨tunnel, tunnelId, rfl, by simp [Did], switches.symm, parsed, by simp [Did]⟩
          fun switched live => ?_
        simp only [switchTunnel, bind_eq, obeys_guarded, obeys_bind]
        refine ⟨⟨by simp, by simp [Did]⟩, ⟨live, by simp [Op.guard], trivial⟩, fun sender => ?_⟩
        have live : Live _ (⟨.agentSender agentId, sender⟩ :: _) := live_cons live rfl
        cases newEnabled with
        | true =>
            have never {past : Past} (only : ∀ query reply, Did past (.db query) reply →
                Did ((⟨.db (.setTunnelEnabled id true), switched⟩ : Event relaySignature) ::
                  [⟨.db (.getTunnelById id), .ok (some tunnel)⟩]) (.db query) reply) (other : Uuid) :
                ¬ OwesStop (.toggleTunnel id) past other := by
              rintro ⟨_, _, result, ⟨⟩, _, _, switchedOff, _⟩
              have impossible := only _ _ switchedOff
              simp [Did] at impossible
            simp only [if_true, obeys_guarded, obeys_bind]
            refine ⟨⟨by simp [Lock.rank], by simp⟩, ⟨live, by simp [Op.guard], .inl ⟨id, rfl⟩⟩,
              fun reserved => ?_⟩
            have live : Live _ (⟨.insertAllocatedPort tunnel.publicPort, reserved⟩ :: _) := live_cons live rfl
            refine ifSome_obeys (fun _ => ⟨by simp [discipline], by simp [discipline], ?_⟩)
              fun channel there => ?_
            · exact finished (never (by simp [Did]))
            · subst there
              simp only [obeys_bind]
              refine startTunnelListener_obeys live (by simp) (by simp [Lock.rank])
                (.inr ⟨rfl, by simp [Did, tunnelConfig], by simp⟩)
                (.inl (by simp [Did, tunnelConfig]))
                ⟨tunnel, .inr (.inl ⟨id, by simp [Did]⟩), parsed⟩ fun grown started _ only live => ?_
              refine access_obeys live rfl rfl trivial
                fun _ _ => ⟨by simp [discipline], by simp [discipline], ?_⟩
              refine finished (never fun query reply did => ?_)
              have earlier := only query reply (by simpa [Did] using did)
              simpa [Did] using earlier
        | false =>
            have paid {past : Past} (stopped : Did past (.removeTunnelTask tunnelId) ())
                (only : ∀ other, Did past (.db (.getTunnelById id)) (.ok (some other)) → other = tunnel)
                (other : Uuid) : ¬ OwesStop (.toggleTunnel id) past other := by
              rintro ⟨_, row, result, ⟨⟩, found, named, _, unpaid⟩
              rw [only row found, parsed, Option.some.injEq] at named
              exact unpaid (named ▸ stopped)
            simp only [Bool.false_eq_true, if_false, obeys_bind]
            refine stopTunnelListener_obeys live (by simp [Lock.rank]) trivial fun live => ?_
            refine withLock_obeys live rfl rfl (by simp [Lock.rank]) (by simp) (by simp)
              (.inr (.inl ⟨id, rfl⟩)) fun _ live => ?_
            refine ifSome_obeys (fun _ => ⟨by simp [discipline], ?_⟩) fun channel _ => ?_
            · exact finished (paid (by simp [Did]) (by simp [Did]))
            · refine access_obeys live rfl rfl trivial fun _ _ => ⟨by simp [discipline], ?_⟩
              exact finished (paid (by simp [Did]) (by simp [Did]))

theorem deleteTunnel_obeys {id : String} :
    (deleteTunnel id).Obeys (discipline (.deleteTunnel id)) (answered (.deleteTunnel id)) [] [] := by
  have plain {past : Past} {reply : Reply} : answered (.deleteTunnel id) past [] reply :=
    answered_plain (by simp) (by simp) (by simp)
  have deletes {past : Past} (live : Live (.deleteTunnel id) past) :
      (query (.deleteTunnel id)).Obeys (discipline (.deleteTunnel id)) (fun past held _ =>
        (done (.status .ok) : Relay Reply).Obeys (discipline (.deleteTunnel id))
          (answered (.deleteTunnel id)) past held) past [] :=
    query_obeys live (by simp) (by simp) rfl fun _ _ => plain
  simp only [deleteTunnel, bind_eq, obeys_bind]
  refine query_obeys live_nil (by simp) (by simp) trivial fun found live => ?_
  match found with
  | .error failure => exact plain
  | .ok none => exact plain
  | .ok (some tunnel) =>
      simp only [obeys_bind]
      refine ifSome_obeys (fun _ => deletes live) fun tunnelId _ => ?_
      simp only [stopDeleted, bind_eq, obeys_bind]
      refine stopTunnelListener_obeys live (by simp) trivial fun live => ?_
      refine withLock_obeys live rfl rfl (by simp) (by simp) (by simp) (.inr (.inr ⟨id, rfl⟩))
        fun _ live => ?_
      refine ifSome_obeys (fun _ => deletes live) fun agentId _ => ?_
      simp only [obeys_guarded, obeys_bind]
      refine ⟨⟨by simp, by simp [Did]⟩, ⟨live, by simp [Op.guard], trivial⟩, fun sender => ?_⟩
      have live : Live _ (⟨.agentSender agentId, sender⟩ :: _) := live_cons live rfl
      refine ifSome_obeys (fun _ => ⟨by simp [discipline], by simpa [dropGuard] using deletes live⟩)
        fun channel _ => ?_
      refine access_obeys live rfl rfl trivial fun _ live => ?_
      exact ⟨by simp [discipline], by simpa [dropGuard] using deletes live⟩

/-- The rest of the resolution, once the caller is known or known to be nobody. -/
theorem tokenOfCaller_obeys {user : Option String} {past : Past} {post}
    (running : ∀ session frame, job ≠ .frame session frame) (after : ∀ past token, post past [] token)
    (live : Live job past) :
    (match user with
      | some userId => tokenOfUser userId
      | none => done none : Relay (Option String)).Obeys (discipline job) post past [] := by
  have undrawn {past : Past} {session code token} : ¬ DrewCode job past session code token := by
    intro drew
    obtain ⟨_, _, framed, _⟩ := drew
    exact running _ _ framed
  cases user with
  | none => exact after _ _
  | some userId =>
      simp only [tokenOfUser, bind_eq, obeys_guarded, obeys_bind]
      refine ⟨⟨by simp, by simp⟩, ⟨live, by simp [Op.guard],
        permitted_of_justified (fun session => running session _) trivial⟩, fun listed => ?_⟩
      refine firstOrNewAgent_obeys (live_cons live rfl) (fun session => running session _) (by simp)
        fun grown result _ => ?_
      cases result <;> exact ⟨fun _ _ _ _ drew => absurd drew undrawn, after _ _⟩

theorem resolveTokenForScript_obeys {query : ScriptQuery} {headers : HeaderMap} {post}
    (running : ∀ session frame, job ≠ .frame session frame)
    (after : ∀ past token, post past [] token) :
    (resolveTokenForScript query headers).Obeys (discipline job) post [] [] := by
  simp only [resolveTokenForScript]
  split
  · exact after _ _
  · simp only [bind_eq, obeys_bind, scriptUser]
    split
    · exact withLock_obeys live_nil rfl rfl (by simp) (by simp) (by simp)
        (permitted_of_justified (fun session => running session _) trivial)
        fun user live => tokenOfCaller_obeys running after live
    · exact getCurrentUserId_obeys live_nil (fun session => running session _) (by simp)
        (@tokenOfCaller_obeys _ _ none _ _ running after live_nil)
        fun token user _ live => tokenOfCaller_obeys running after live

end Requests

/-- Every handler keeps the discipline. -/
theorem relay_lawful : relay.Lawful contract := by
  intro job
  change (serve job).Obeys (discipline job) (answered job) [] []
  cases job with
  | frame session frame => exact handleFrame_obeys
  | register body =>
      rw [serve]
      exact register_obeys
  | login body =>
      rw [serve]
      exact login_obeys
  | logout headers =>
      rw [serve]
      exact logout_obeys
  | adminLogin password =>
      rw [serve]
      exact adminLogin_obeys
  | adminBanUser id headers =>
      rw [serve]
      exact adminBanUser_obeys
  | adminUnbanUser id headers =>
      rw [serve]
      exact adminUnbanUser_obeys
  | claimAgent code headers =>
      rw [serve]
      exact claimAgent_obeys
  | generateAgentToken headers =>
      rw [serve]
      exact generateAgentToken_obeys
  | deleteAgent id =>
      rw [serve]
      exact deleteAgent_obeys
  | createTunnel headers body =>
      rw [serve]
      exact createTunnel_obeys
  | updateTunnel id body =>
      rw [serve]
      exact updateTunnel_obeys
  | toggleTunnel id =>
      rw [serve]
      exact toggleTunnel_obeys
  | deleteTunnel id =>
      rw [serve]
      exact deleteTunnel_obeys
  | getLauncherSh query headers =>
      simp only [serve, getLauncherSh, bind_eq, obeys_bind]
      exact resolveTokenForScript_obeys (by simp) fun _ _ => answered_plain (by simp) (by simp) (by simp)
  | getLauncherBat query headers =>
      simp only [serve, getLauncherBat, bind_eq, obeys_bind]
      exact resolveTokenForScript_obeys (by simp) fun _ _ => answered_plain (by simp) (by simp) (by simp)
  | connect session => exact answered_plain (by simp) (by simp) (by simp)

theorem Reached.lawful {allowed : Condition relay} {portRange : UInt16 × UInt16}
    {config : Config relay} (reached : Reached allowed portRange config) : config.Lawful contract :=
  Reachable.lawful relay_lawful reached

end TunnelitRelay
