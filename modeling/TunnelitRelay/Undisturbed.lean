import TunnelitRelay.Concurrent.Postcondition
import TunnelitRelay.Effects
import TunnelitRelay.Server
import TunnelitRelay.Tables

namespace TunnelitRelay

open Concurrent Program

variable [Externals] {world : World} {rows : List TunnelRecord}

/-! # The blocks of the handlers in undisturbed runs -/

/-- One operation under no guard, or under a guard of the caller. -/
theorem access_always {op : Op} {rest : op.Result → Relay α} {post : World → α → Prop}
    (performed : ∀ choice after result, exec world choice op = some (after, result) →
      (rest result).Always relay post after) : ((access op).bind rest).Always relay post world :=
  performed

/-- One operation under a guard of its own. -/
theorem withLock_always {op : Op} {lock : Lock} {mode : Mode} {post : World → op.Result → Prop}
    (performed : ∀ choice after result, exec world choice op = some (after, result) → post after result) :
    (withLock lock mode (access op)).Always relay post world :=
  always_guarded.mpr performed

/-- A database call under a guard of the caller. -/
theorem database_always {query' : Query} {rest : Except Failure query'.Value → Relay α}
    {post : World → α → Prop}
    (answered : ∀ choice drawn, (rest (query'.run choice world.portRange world.db).2).Always relay post
      { world with db := (query'.run choice world.portRange world.db).1, drawn }) :
    ((access (.db query')).bind rest).Always relay post world := by
  refine access_always fun choice after result executed => ?_
  obtain ⟨rfl, rfl, _⟩ := exec_db executed
  exact answered choice _

theorem query_always {query' : Query} {post : World → Except Failure query'.Value → Prop}
    (answered : ∀ choice drawn, post { world with
      db := (query'.run choice world.portRange world.db).1, drawn }
      (query'.run choice world.portRange world.db).2) :
    (query query').Always relay post world := by
  refine withLock_always fun choice after result executed => ?_
  obtain ⟨rfl, rfl, _⟩ := exec_db executed
  exact answered choice _

/-- A database call that is performed under a condition. -/
theorem query_restricted {meets : World → Choice → Op → Bool} {query' : Query}
    {post : World → Except Failure query'.Value → Prop}
    (answered : ∀ choice, meets world choice (.db query') = true →
      (∀ id ∈ query'.draws choice, id ∉ world.drawn) →
      post { world with
        db := (query'.run choice world.portRange world.db).1
        drawn := query'.draws choice ++ world.drawn } (query'.run choice world.portRange world.db).2) :
    (query query').Always (relay.restrict meets) post world := by
  refine always_guarded.mpr fun choice after result executed => ?_
  obtain ⟨met, executed⟩ := System.restrict_exec.mp executed
  obtain ⟨rfl, rfl, fresh⟩ := exec_db executed
  exact answered choice met fresh

theorem ifSome_always {γ : Type} {body : γ → Relay Unit} {item : Option γ} {post : World → Unit → Prop}
    (absent : item = none → post world ())
    (present : ∀ value, item = some value → (body value).Always relay post world) :
    (ifSome body item).Always relay post world := by
  cases item with
  | none => exact absent rfl
  | some value => exact present value rfl

/-! ## Stopping the listeners of a list of rows -/

/-- The listener of the row is gone and its port released. -/
def World.stopRow (world : World) (row : TunnelRecord) : World :=
  match parseUuid row.id with
  | none => world
  | some tunnelId => { world with
      tunnelTasks := Function.update world.tunnelTasks tunnelId none
      allocatedPorts := world.allocatedPorts.erase row.publicPort }

theorem stopRow_always {row : TunnelRecord} :
    (stopRow row).Always relay (fun after _ => after = world.stopRow row) world := by
  unfold stopRow World.stopRow
  cases parsed : parseUuid row.id with
  | none => rfl
  | some tunnelId =>
      intro choice after result executed choice' after' result' executed'
      cases executed
      cases executed'
      rfl

theorem stopRows_always :
    (forEach stopRow rows).Always relay (fun after _ => after = rows.foldl World.stopRow world) world := by
  -- Stopping the remaining rows always leads to the same end.
  refine @always_forEach _ relay _ _ _ rows (fun remaining state =>
    remaining.foldl World.stopRow state = rows.foldl World.stopRow world) ?_ rfl
  intro row rest state invariant
  exact stopRow_always.mono fun after _ same => same ▸ invariant

theorem stopRows_tasks {tunnelId : Uuid} {handle : JoinHandle} :
    (rows.foldl World.stopRow world).tunnelTasks tunnelId = some handle ↔
      world.tunnelTasks tunnelId = some handle ∧ ∀ row ∈ rows, parseUuid row.id ≠ some tunnelId := by
  induction rows generalizing world with
  | nil => simp
  | cons row rest ih =>
      rw [List.foldl_cons, ih, List.forall_mem_cons, ← and_assoc]
      refine and_congr_left fun _ => ?_
      unfold World.stopRow
      split
      · rename_i unparsed
        simp [unparsed]
      · rename_i other parsed
        by_cases same : tunnelId = other
        · simp [parsed, same]
        · simp [parsed, Function.update_of_ne same, Ne.symm same]

theorem stopRows_ports {port : UInt16} :
    port ∈ (rows.foldl World.stopRow world).allocatedPorts ↔
      port ∈ world.allocatedPorts ∧ ∀ row ∈ rows, parseUuid row.id ≠ none → row.publicPort ≠ port := by
  induction rows generalizing world with
  | nil => simp
  | cons row rest ih =>
      rw [List.foldl_cons, ih, List.forall_mem_cons, ← and_assoc]
      refine and_congr_left fun _ => ?_
      unfold World.stopRow
      split
      · rename_i unparsed
        simp [unparsed]
      · rename_i other parsed
        simp [parsed, eq_comm, and_comm]

end TunnelitRelay
