import SnapshotEngine.Proofs.Engine.Account
import SnapshotEngine.Proofs.Wiring

/-!
# Which commands are run

Whatever an operation moves, it calls for as the last thing it does.  So at most one command is
run for it, and for a backup or a restore whose job was accepted it is run at once: it is told
the very address that the job was told, and the object that the order stands for.  How the
command comes out is all that the operation learns of it.

* `HasMoved`, `Spent` — whoever has called for a transfer calls for nothing more;
* `exists_step_of_split` — a run, seen from one of its events;
* `Wiring.commandsOf`, `commandsOf_of_split` — the commands of an operation;
* `moves_once_accepted` — a job that was accepted has its data moved;
* `Account.of_moved` — what comes of a transfer that is over;
* `commands_of_backup`, `commands_of_restore`, `commands_of_removal`, `taken_of_command` — the
  commands of each kind of order, and what comes of them;
* `commands_meet_requests` — the commands of a run.
-/

namespace SnapshotEngine

namespace Operation

variable {op next : Operation} {r r' : Registry} {signal : Signal} {action : TransferAction}
  {object : String}

/-- An operation has called for its data to be moved, or for its object to be deleted. -/
def HasMoved (op : Operation) : Prop :=
  (∃ c, op.confirmation? = some c) ∨ ∃ d s, op = .removal d ∧ d.stage = .erasing s

theorem hasMoved_of_call? (h : op.call? = some (.move action object)) : op.HasMoved := by
  rcases of_call?_move h with ⟨c, hc, _⟩ | ⟨d, s, rfl, hstage, _⟩
  · exact .inl ⟨c, hc⟩
  · exact .inr ⟨d, s, rfl, hstage⟩

/-- If it goes on, it does so without calling for anything. -/
theorem HasMoved.goesOn (h : op.HasMoved) (resume : op.resume r signal = some (.waits r' next)) :
    next.HasMoved ∧ next.call? = none := by
  rcases h with ⟨c, hc⟩ | ⟨d, s, rfl, hstage⟩
  · cases goesOn_of_resume resume with
    | approached before | accepted before => cases hc.symm.trans before
    | took free => cases hc.symm.trans (confirmation?_of_free free)
    | continued before after advance =>
        refine ⟨.inl ⟨_, after⟩, ?_⟩
        rw [call?_of_confirmation after, Confirmation.call?_eq]
        rcases Confirmation.advance_eq_continues advance with ⟨_, _, rfl⟩ | ⟨_, _, rfl⟩ <;> rfl
  · obtain ⟨_, hp, rfl⟩ := Progress.some_waits_of_map resume
    cases (Removal.goesOn_of_resume hp).2 with
    | located stage | retracted stage => cases hstage.symm.trans stage

/-- Whoever has ordered a job has its data moved as soon as the job was accepted. -/
theorem moves_of_accepted {call : Call} (h : op.call? = some call) (horders : call.job?.isSome)
    (r : Registry) (job : JobHandle) :
    ∃ next action object, op.transfer? = some (action, object) ∧
      op.resume r (.answered (.accepted (.ok job))) = some (.waits r next) ∧
      next.call? = some (.move action object) := by
  cases call with
  | createBackup request =>
      obtain ⟨b, rfl, hstage, _⟩ := of_call?_createBackup h
      refine ⟨.backup { b with stage := .confirming (.start job .upload b.object) }, .upload,
        b.object, rfl, ?_, rfl⟩
      simp only [resume, Backup.resume, hstage, Option.map_some, Progress.map]
  | createRestore request =>
      obtain ⟨t, target, rfl, hstage, _⟩ := of_call?_createRestore h
      refine ⟨.restore { t with stage := .confirming target (.start job .download t.object) },
        .download, t.object, rfl, ?_, rfl⟩
      simp only [resume, Restore.resume, hstage, Option.map_some, Progress.map]
  | _ => cases horders

end Operation

namespace Engine

variable {e e' : Engine} {s : Stimulus} {events : List Event} {id : Nat} {call : Call}

/-- An operation that was started calls for nothing more: it is over, or it has called for its
transfer. -/
def Spent (e : Engine) (id : Nat) : Prop :=
  id < e.next ∧ ∀ op, e.operations.get? id = some op → op.HasMoved

/-- **Step.** -/
theorem Spent.effect (h : Spent e id) (heffect : Effect e s e' events) :
    Spent e' id ∧ callsOf id events = [] := by
  obtain ⟨hid, hmoved⟩ := h
  refine ⟨⟨Nat.lt_of_lt_of_le hid heffect.next_le, fun op hop => ?_⟩, ?_⟩
  · cases heffect.operation hop with
    | started number => exact absurd number (Nat.ne_of_lt hid)
    | wentOn found registry resume => exact ((hmoved _ found).goesOn resume).1
    | kept found => exact hmoved op found
  · refine List.eq_nil_iff_forall_not_mem.mpr fun call hcall => ?_
    cases heffect.calledBy (mem_callsOf.mp hcall) with
    | started number => exact absurd number (Nat.ne_of_lt hid)
    | wentOn found resume waits => cases ((hmoved _ found).goesOn resume).2.symm.trans waits

/-- **Run.** -/
theorem Spent.run (h : Spent e id) (rest : List Stimulus) : callsOf id (e.run rest).2 = [] := by
  induction rest generalizing e with
  | nil => rfl
  | cons s more ih =>
      obtain ⟨hspent, hcalls⟩ := h.effect (effect_step e s)
      rw [Engine.run, callsOf_append, hcalls, ih hspent, List.append_nil]

/-- An operation makes one call at a time. -/
theorem Effect.callsOf_eq_singleton (h : Effect e s e' events) (hmem : .called id call ∈ events) :
    callsOf id events = [call] := by
  have hsingle : ∀ op, .called id call ∈ callEvents id op →
      callsOf id (callEvents id op) = [call] := by
    intro op hop
    obtain ⟨_, hcall, heq⟩ := mem_callEvents.mp hop
    cases heq
    rw [(calls_answered_callEvents id op).1, hcall]
    rfl
  cases h with
  | started start =>
      obtain ⟨_, _, heq⟩ := mem_callEvents.mp hmem
      cases heq
      exact hsingle _ hmem
  | wentOn found admits resume =>
      rcases List.mem_append.mp hmem with hmem | hmem
      · exact absurd hmem (not_mem_answerEvents fun _ _ heq => by cases heq)
      · obtain ⟨_, _, heq⟩ := mem_callEvents.mp hmem
        cases heq
        rw [callsOf_append, (calls_answered_answerEvents id _ _).1, hsingle _ hmem]
        rfl
  | ended found admits resume =>
      rcases List.mem_append.mp hmem with hmem | hmem
      · exact absurd hmem (not_mem_answerEvents fun _ _ heq => by cases heq)
      · simp at hmem
  | _ => simp at hmem

/-- A run, seen from one of its events: the step that it was seen in, and what was seen before
and after it. -/
theorem exists_step_of_split {stimuli : List Stimulus} {past later : List Event} {event : Event}
    (h : (e.run stimuli).2 = past ++ event :: later) :
    ∃ first s rest seen tail, stimuli = first ++ s :: rest ∧ past = (e.run first).2 ++ seen ∧
      ((e.run first).1.step s).2 = seen ++ event :: tail ∧
      later = tail ++ (((e.run first).1.step s).1.run rest).2 := by
  induction stimuli generalizing e past with
  | nil => simp [run] at h
  | cons s more ih =>
      rcases List.append_eq_append_iff.mp h with ⟨seen, rfl, hlater⟩ | ⟨tail, hnow, hlater⟩
      · obtain ⟨first, s', rest, seen', tail, rfl, rfl, hstep, rfl⟩ := ih hlater
        exact ⟨s :: first, s', rest, seen', tail, rfl, by simp [run], hstep, rfl⟩
      · cases tail with
        | cons event' tail =>
            cases hlater
            exact ⟨[], s, more, past, tail, rfl, rfl, hnow, rfl⟩
        | nil =>
            rw [List.append_nil] at hnow
            have hnext : ((e.step s).1.run more).2 = [] ++ event :: later := hlater.symm
            obtain ⟨first, s', rest, seen, tail, rfl, hpast, hstep, rfl⟩ := ih hnext
            refine ⟨s :: first, s', rest, seen, tail, rfl, ?_, hstep, rfl⟩
            rw [run, List.append_assoc, ← hpast, List.append_nil, hnow]

theorem callsOf_called (id : Nat) (call : Call) (later : List Event) :
    callsOf id (.called id call :: later) = call :: callsOf id later :=
  List.filterMap_cons_some (if_pos rfl)

/-- Whoever has called for a transfer calls for nothing more. -/
theorem callsOf_after_move {r : Registry} {stimuli : List Stimulus} {past later : List Event}
    {action : TransferAction} {object : String}
    (h : ((ofRegistry r).run stimuli).2 = past ++ .called id (.move action object) :: later) :
    callsOf id later = [] := by
  obtain ⟨first, s, rest, seen, tail, rfl, rfl, hstep, rfl⟩ := exists_step_of_split h
  have heffect := effect_step ((ofRegistry r).run first).1 s
  have hmem : .called id (.move action object) ∈ (((ofRegistry r).run first).1.step s).2 := by
    simp [hstep]
  have htail : callsOf id tail = [] := by
    have hcalls := heffect.callsOf_eq_singleton hmem
    rw [hstep, callsOf_append, callsOf_called, List.append_eq_singleton_iff] at hcalls
    rcases hcalls with ⟨_, htail⟩ | ⟨_, hnil⟩
    · exact (List.cons.inj htail).2
    · cases hnil
  obtain ⟨op, hop, hcall⟩ := heffect.of_called hmem
  have hspent : Spent (((ofRegistry r).run first).1.step s).1 id := by
    refine ⟨(owned_trace ((trace_run r first).step s)).numbered id op hop, fun op' hop' => ?_⟩
    cases hop.symm.trans hop'
    exact Operation.hasMoved_of_call? hcall
  rw [callsOf_append, htail, hspent.run rest]
  rfl

/-- An operation whose job was accepted has its data moved at once. -/
theorem moves_once_accepted {r : Registry} {stimuli : List Stimulus} {past later : List Event}
    {job : JobHandle} (hcall : call.job?.isSome)
    (h : ((ofRegistry r).run stimuli).2 =
      past ++ .answered id call (.accepted (.ok job)) :: later) :
    ∃ (op : Operation) (settings : Settings) (order : Order) (action : TransferAction)
      (object : String) (more : List Event), op.call? = some call ∧ op.Serves settings order ∧
        (ordersOf stimuli)[id]? = some (settings, order) ∧
        op.transfer? = some (action, object) ∧
        later = .called id (.move action object) :: more := by
  obtain ⟨first, s, rest, seen, tail, rfl, rfl, hstep, rfl⟩ := exists_step_of_split h
  have hmem :
      .answered id call (.accepted (.ok job)) ∈ (((ofRegistry r).run first).1.step s).2 := by
    simp [hstep]
  obtain ⟨rfl, op, hop, hwaits⟩ := (effect_step _ s).of_answered hmem
  obtain ⟨settings, order, horder, hserves⟩ := (serving_trace (trace_run r first)).serves id op hop
  obtain ⟨next, action, object, htransfer, hresume, hnext⟩ :=
    Operation.moves_of_accepted hwaits hcall ((ofRegistry r).run first).1.registry job
  rw [step_goesOn hop rfl hresume] at hstep
  simp only [answerEvents, hwaits, callEvents, hnext, List.singleton_append] at hstep
  obtain rfl : tail = [.called id (.move action object)] := by
    cases seen with
    | nil => exact (List.cons.inj hstep).2.symm
    | cons event more => cases more <;> simp at hstep
  refine ⟨op, settings, order, action, object, _, hwaits, hserves, ?_, htransfer, rfl⟩
  rw [ordersOf, List.filterMap_append]
  exact (List.getElem?_append_left (List.getElem?_eq_some_iff.mp horder).1).trans horder

end Engine

/-! ## Commands -/

namespace Wiring

variable {w : Wiring} {world : Nat → Surroundings} {id : Nat} {action : TransferAction}
  {object : String}

/-- The commands that a call has run. -/
def commandsFor (w : Wiring) (s : Surroundings) (call : Call) : List Command :=
  ((w.perform s call).map (·.commands)).getD []

/-- The commands that an operation has run, if each operation has surroundings of its own. -/
def commandsOf (w : Wiring) (world : Nat → Surroundings) (id : Nat) (events : List Event) :
    List Command :=
  (callsOf id events).flatMap (w.commandsFor (world id))

/-- Whatever is carried out for an operation is answered with what it comes to. -/
def Answers (w : Wiring) (world : Nat → Surroundings) (events : List Event) : Prop :=
  ∀ id call answer performed, .answered id call answer ∈ events →
    w.perform (world id) call = some performed → answer = performed.answer

theorem commandsOf_append (past later : List Event) :
    w.commandsOf world id (past ++ later) =
      w.commandsOf world id past ++ w.commandsOf world id later := by
  rw [commandsOf, callsOf_append, List.flatMap_append]
  rfl

theorem commandsOf_called_move (later : List Event) :
    w.commandsOf world id (.called id (.move action object) :: later) =
      w.mover.command action object :: w.commandsOf world id later := by
  rw [commandsOf, Engine.callsOf_called, List.flatMap_cons]
  rfl

/-- Whoever has moved nothing has run nothing. -/
theorem commandsOf_eq_nil {events : List Event}
    (h : ∀ action object, .called id (.move action object) ∉ events) :
    w.commandsOf world id events = [] := by
  refine List.flatMap_eq_nil_iff.mpr fun call hcall => ?_
  cases call with
  | move action object => exact absurd (mem_callsOf.mp hcall) (h action object)
  | _ => rfl

/-- **One command.**  The command for a transfer is the only one that its operation has run. -/
theorem commandsOf_of_split (w : Wiring) (world : Nat → Surroundings) {r : Registry}
    {stimuli : List Stimulus} {past later : List Event}
    (h : ((Engine.ofRegistry r).run stimuli).2 =
      past ++ .called id (.move action object) :: later) :
    w.commandsOf world id past = [] ∧ w.commandsOf world id later = [] := by
  constructor
  · refine commandsOf_eq_nil fun action' object' hmem => ?_
    -- an earlier transfer would have been the last call of the operation
    obtain ⟨before, between, rfl⟩ := List.append_of_mem hmem
    rw [List.append_assoc, List.cons_append] at h
    have hnone := Engine.callsOf_after_move h
    rw [callsOf_append, Engine.callsOf_called] at hnone
    exact List.cons_ne_nil _ _ (List.append_eq_nil_iff.mp hnone).2
  · rw [commandsOf, Engine.callsOf_after_move h]
    rfl

theorem commandsOf_eq_singleton {r : Registry} {stimuli : List Stimulus}
    (h : .called id (.move action object) ∈ ((Engine.ofRegistry r).run stimuli).2) :
    w.commandsOf world id ((Engine.ofRegistry r).run stimuli).2 =
      [w.mover.command action object] := by
  obtain ⟨past, later, hsplit⟩ := List.append_of_mem h
  obtain ⟨hpast, hlater⟩ := commandsOf_of_split w world hsplit
  rw [hsplit, commandsOf_append, commandsOf_called_move, hpast, hlater]
  rfl

end Wiring

/-! ## How a transfer comes out -/

/-- The failure of an operation whose transfer, or deletion, has failed. -/
def TransferAction.failure (action : TransferAction) (object : String) : Failure :=
  match action with
  | .delete => .remoteDeleteFailed object
  | .upload | .download => .transferFailed ⟨action, object⟩

/-- How an operation may end once its object was deleted, or its data has moved: then only its
job and the time limit are left to decide. -/
def TransferAction.Leaves (action : TransferAction) (settings : Settings) (outcome : Outcome) :
    Prop :=
  match action with
  | .delete => outcome = .ok .deleted
  | .upload | .download => (∃ status, Outcome.status? outcome = some status) ∨
      ∃ volumeId, outcome = .error (.timeout volumeId settings.operationTimeout)

/-- Whoever has left a transfer behind does not fail of it any more. -/
theorem TransferAction.not_leaves_failure {action : TransferAction} {settings : Settings}
    {object : String} : ¬ action.Leaves settings (.error (action.failure object)) := by
  cases action <;> simp [Leaves, failure, Outcome.status?]

/-- Nothing is moved before a job was accepted. -/
theorem SetsOut.unmoved {settings : Settings} {order : Order} {before : List Answered}
    {job : JobHandle} {action action' : TransferAction} {object object' : String} {answer : Answer}
    (h : SetsOut settings order before job action object) :
    (.move action' object', answer) ∉ before := by
  cases h <;> simp

/-- Nothing is moved before a backup was deleted in the control plane. -/
theorem Withdraws.unmoved {s : Snapshot} {before : List Answered} {action : TransferAction}
    {object : String} {answer : Answer} (h : Withdraws s before) :
    (.move action object, answer) ∉ before := by
  cases h <;> simp

/-- A backup is deleted in the control plane before anything is moved. -/
theorem Withdraws.retracts {s : Snapshot} {before : List Answered} (h : Withdraws s before) :
    .deleteBackup s.volumeId s.backupName s.claimNamespace ∈ before.map Prod.fst := by
  cases h <;> simp

/-- Of a failed transfer an operation fails, and a successful one leaves the rest to its job. -/
theorem Account.of_moved {settings : Settings} {order : Order} {noted : Registry}
    {calls : List Call} {answered : List Answered} {outcome : Outcome} {action : TransferAction}
    {object : String} {done : Bool} (h : Account settings order noted calls answered outcome)
    (hcall : .move action object ∈ calls)
    (hanswered : (.move action object, .moved done) ∈ answered) :
    (done = false ∧ outcome = .error (action.failure object)) ∨
      (done = true ∧ action.Leaves settings outcome) := by
  cases h with
  | refused | unsuited | unlocated => simp at hcall
  | uncommanded failed still => exact absurd hcall (still action object)
  | unmoved out =>
      rcases List.mem_append.mp hanswered with hbefore | hlast
      · exact absurd hbefore out.unmoved
      · cases List.mem_singleton.mp hlast
        refine .inl ⟨rfl, ?_⟩
        cases out <;> rfl
  | timedOut out early =>
      rcases List.mem_append.mp hanswered with hbefore | hlast
      · exact absurd hbefore out.unmoved
      · rcases early with rfl | rfl
        · cases hlast
        · cases List.mem_singleton.mp hlast
          refine .inr ⟨rfl, ?_⟩
          cases out <;> exact .inr ⟨_, rfl⟩
  | decided out status =>
      rcases List.mem_append.mp hanswered with hbefore | hlast
      · exact absurd hbefore out.unmoved
      · cases List.mem_singleton.mp hlast
        refine .inr ⟨rfl, ?_⟩
        cases out <;> exact .inl ⟨_, status⟩
  | erased removes withdraws =>
      rcases List.mem_append.mp hanswered with hbefore | hlast
      · exact absurd hbefore withdraws.unmoved
      · cases List.mem_singleton.mp hlast
        exact .inr ⟨rfl, rfl⟩
  | unerased removes withdraws =>
      rcases List.mem_append.mp hanswered with hbefore | hlast
      · exact absurd hbefore withdraws.unmoved
      · cases List.mem_singleton.mp hlast
        exact .inl ⟨rfl, rfl⟩

/-- What is moved for a job is not deleted. -/
theorem Operation.Moves.action_ne {op : Operation} {c : Confirmation} (h : op.Moves)
    (hc : op.confirmation? = some c) : c.action ≠ .delete := by
  intro heq
  have htransfer := h c hc
  rw [heq] at htransfer
  cases op <;> cases htransfer

/-- A transfer that has failed ends its operation, and a deletion that has succeeded does. -/
theorem Operation.ends_of_moved {op : Operation} {action : TransferAction} {object : String}
    (h : op.call? = some (.move action object)) (hmoves : op.Moves) (r : Registry) (done : Bool)
    (hends : done = false ∨ action = .delete) :
    ∃ r', op.resume r (.answered (.moved done)) =
      some (.ends r' (if done then .ok .deleted else .error (action.failure object))) := by
  rcases of_call?_move h with ⟨c, hc, hstage, rfl, rfl⟩ | ⟨d, s, rfl, hstage, rfl, rfl⟩
  · have hkept := hmoves.action_ne hc
    obtain rfl : done = false := hends.resolve_right hkept
    have hfailed : c.advance (.answered (.moved false)) = some (.failed ⟨c.action, c.object⟩) := by
      simp [Confirmation.advance, hstage, TransferAction.outcome]
    have hcause : c.action.failure c.object = .transferFailed ⟨c.action, c.object⟩ := by
      cases haction : c.action with
      | delete => exact absurd haction hkept
      | _ => rfl
    refine ⟨r, ?_⟩
    rw [hcause]
    rcases of_confirmation? hc with ⟨b, rfl, hb⟩ | ⟨t, target, rfl, ht⟩
    · simp [resume, Backup.resume, hb, hfailed, Progress.map]
    · simp [resume, Restore.resume, ht, hfailed, Progress.map]
  · cases done with
    | true =>
        refine ⟨r.removeSnapshot d.snapshotId, ?_⟩
        simp [resume, Removal.resume_erasing hstage, Progress.map]
    | false =>
        refine ⟨r, ?_⟩
        simp [resume, Removal.resume, hstage, TransferAction.failure, Progress.map]

namespace Engine

variable {r : Registry} {stimuli : List Stimulus} {id : Nat} {action : TransferAction}
  {object : String} {done : Bool}

/-- Whoever has ended after a transfer has failed of it, or has left it behind. -/
theorem taken_of_ended {settings : Settings} {order : Order} {outcome : Outcome}
    (horder : (ordersOf stimuli)[id]? = some (settings, order))
    (hmoved : .answered id (.move action object) (.moved done) ∈ ((ofRegistry r).run stimuli).2)
    (hended : .ended id outcome ∈ ((ofRegistry r).run stimuli).2) :
    (done = false ∧ outcome = .error (action.failure object)) ∨
      (done = true ∧ action.Leaves settings outcome) := by
  obtain ⟨settings', order', noted, horder', haccount⟩ := account_of_mem hended
  cases horder.symm.trans horder'
  have hcalled := (trace_run r stimuli).called_of_answered hmoved
  exact haccount.of_moved (mem_callsOf.mpr hcalled)
    (List.mem_filterMap.mpr ⟨_, hmoved, if_pos rfl⟩)

/-- A transfer that has failed ends its operation, and a deletion that has succeeded does. -/
theorem ended_of_moved
    (hmoved : .answered id (.move action object) (.moved done) ∈ ((ofRegistry r).run stimuli).2)
    (hends : done = false ∨ action = .delete) :
    .ended id (if done then .ok .deleted else .error (action.failure object)) ∈
      ((ofRegistry r).run stimuli).2 := by
  obtain ⟨first, s, rest, rfl, hstep⟩ := exists_step_of_mem hmoved
  obtain ⟨rfl, op, hop, hcall⟩ := (effect_step _ s).of_answered hstep
  have hmoves := (serving_trace (trace_run r first)).moves id op hop
  obtain ⟨r', hresume⟩ := Operation.ends_of_moved hcall hmoves _ done hends
  refine mem_run_of_step rfl ?_
  rw [step_ends hop rfl hresume]
  exact List.mem_append_right _ (List.mem_singleton_self _)

/-- **Transfers.**  An operation fails of its transfer, or deletion, exactly if that has failed,
and is done with a deletion exactly if that has succeeded; a transfer that has succeeded is left
behind. -/
theorem taken_of_moved {settings : Settings} {order : Order}
    (horder : (ordersOf stimuli)[id]? = some (settings, order))
    (hmoved : .answered id (.move action object) (.moved done) ∈ ((ofRegistry r).run stimuli).2) :
    (.ended id (.error (action.failure object)) ∈ ((ofRegistry r).run stimuli).2 ↔
      done = false) ∧
    (action = .delete →
      (.ended id (.ok .deleted) ∈ ((ofRegistry r).run stimuli).2 ↔ done = true)) ∧
    (done = true → ∀ outcome, .ended id outcome ∈ ((ofRegistry r).run stimuli).2 →
      action.Leaves settings outcome) := by
  have htaken : ∀ outcome, .ended id outcome ∈ ((ofRegistry r).run stimuli).2 →
      (done = false ∧ outcome = .error (action.failure object)) ∨
        (done = true ∧ action.Leaves settings outcome) :=
    fun _ hended => taken_of_ended horder hmoved hended
  cases done with
  | false =>
      refine ⟨iff_of_true (ended_of_moved hmoved (.inl rfl)) rfl, fun _ => ?_, nofun⟩
      refine iff_of_false (fun hended => ?_) Bool.false_ne_true
      rcases htaken _ hended with ⟨_, heq⟩ | ⟨heq, _⟩ <;> cases heq
  | true =>
      refine ⟨iff_of_false (fun hended => ?_) Bool.noConfusion, fun hdelete => ?_,
        fun _ outcome hended => ?_⟩
      · rcases htaken _ hended with ⟨heq, _⟩ | ⟨_, hleaves⟩
        · cases heq
        · exact action.not_leaves_failure hleaves
      · exact iff_of_true (ended_of_moved hmoved (.inr hdelete)) rfl
      · rcases htaken _ hended with ⟨heq, _⟩ | ⟨_, hleaves⟩
        · cases heq
        · exact hleaves

/-- An operation has run nothing before its job was accepted, and then the command that moves
its data. -/
theorem commands_once_accepted {w : Wiring} {world : Nat → Surroundings} {call : Call}
    {past later : List Event} {job : JobHandle} (hcall : call.job?.isSome)
    (h : ((ofRegistry r).run stimuli).2 =
      past ++ .answered id call (.accepted (.ok job)) :: later) :
    ∃ (op : Operation) (settings : Settings) (order : Order) (action : TransferAction)
      (object : String), op.call? = some call ∧ op.Serves settings order ∧
        (ordersOf stimuli)[id]? = some (settings, order) ∧
        op.transfer? = some (action, object) ∧ w.commandsOf world id past = [] ∧
        w.commandsOf world id later = [w.mover.command action object] := by
  obtain ⟨op, settings, order, action, object, more, hwaits, hserves, horder, htransfer, rfl⟩ :=
    moves_once_accepted hcall h
  rw [List.append_cons] at h
  obtain ⟨hpast, hmore⟩ := Wiring.commandsOf_of_split w world h
  rw [Wiring.commandsOf_append] at hpast
  refine ⟨op, settings, order, action, object, hwaits, hserves, horder, htransfer,
    (List.append_eq_nil_iff.mp hpast).1, ?_⟩
  rw [Wiring.commandsOf_called_move, hmore]

/-- What is deleted is the object of a backup that was to be deleted in the control plane, and
that the identifier of the order stands for. -/
theorem erases_retracted
    (hcalled : .called id (.move .delete object) ∈ (empty.run stimuli).2) :
    ∃ settings snapshotId volumeId backupName claimNamespace,
      (ordersOf stimuli)[id]? = some (settings, .removal snapshotId) ∧
      StandsFor (ordersOf stimuli) (empty.run stimuli).2 snapshotId volumeId backupName ∧
      .called id (.deleteBackup volumeId backupName claimNamespace) ∈ (empty.run stimuli).2 ∧
      object = settings.namer.objectName volumeId backupName := by
  obtain ⟨first, rest, e, past, later, op, rfl, hevents, htrace, hop, hwaits⟩ :=
    (trace_run .empty stimuli).caller hcalled
  obtain ⟨settings, order, horder, hserves, hcame, hmade⟩ := recorded_trace htrace id op hop
  have horder' : (ordersOf (first ++ rest))[id]? = some (settings, order) := by
    rw [ordersOf, List.filterMap_append]
    exact (List.getElem?_append_left (List.getElem?_eq_some_iff.mp horder).1).trans horder
  rcases Operation.of_call?_move hwaits with ⟨c, hc, _, haction, _⟩ | ⟨d, s, rfl, hstage, _, rfl⟩
  · exact absurd haction (((serving_trace htrace).moves id op hop).action_ne hc)
  · obtain ⟨rfl, rfl⟩ := hserves.of_removal
    have hstands := (sourced_trace htrace fun _ => rfl).removals id d hop
    simp only [Removal.subject, hstage] at hstands
    simp only [Operation.CameBy, hstage] at hcame
    have hretracts : .deleteBackup s.volumeId s.backupName s.claimNamespace ∈ callsOf id past := by
      rw [hmade]
      exact List.mem_append_left _ hcame.retracts
    have hevents' : (empty.run (first ++ rest)).2 = past ++ later := hevents
    refine ⟨d.settings, d.snapshotId, s.volumeId, s.backupName, s.claimNamespace, horder', ?_, ?_,
      rfl⟩
    · rw [hevents', ordersOf, List.filterMap_append]
      exact hstands.append _ _
    · rw [hevents']
      exact List.mem_append_left _ (mem_callsOf.mp hretracts)

section Configured

variable {c : Config} {stimuli : List Stimulus} {world : Nat → Surroundings} {id : Nat}

/-- All orders are placed with the settings that the configuration makes. -/
def PlacedWith (settings : Settings) (stimuli : List Stimulus) : Prop :=
  ∀ settings' order, (settings', order) ∈ ordersOf stimuli → settings' = settings

theorem PlacedWith.eq {settings settings' : Settings} {order : Order}
    (h : PlacedWith settings stimuli) (horder : (ordersOf stimuli)[id]? = some (settings', order)) :
    settings' = settings :=
  h settings' order (List.mem_of_getElem? horder)

/-- For a backup the command uploads, to the address that its job was told. -/
theorem commands_of_backup (hplaced : PlacedWith c.asSettings stimuli) {request : BackupRequest}
    {job : JobHandle} {past later : List Event}
    (h : (empty.run stimuli).2 =
      past ++ .answered id (.createBackup request) (.accepted (.ok job)) :: later) :
    ∃ volumeId backupName,
      (ordersOf stimuli)[id]? = some (c.asSettings, .backup volumeId backupName) ∧
      request.volumeId = volumeId ∧ request.backupName = backupName ∧
      request.destination = Text.trim c.serverAddr ∧
      c.asWiring.commandsOf world id past = [] ∧
      c.asWiring.commandsOf world id later = [⟨Text.trim c.moverProgram,
        ["upload", (ObjectNamer.ofSetting c.objectDirectory).objectName volumeId backupName,
          "--listen", request.destination]⟩] := by
  obtain ⟨op, settings, order, _, _, hcall, hserves, horder, htransfer, hpast, hlater⟩ :=
    commands_once_accepted rfl h
  obtain rfl := hplaced.eq horder
  obtain ⟨b, rfl, _, rfl⟩ := Operation.of_call?_createBackup hcall
  obtain ⟨rfl, hb, _⟩ := hserves.of_backup
  cases htransfer
  have haddress : b.request.destination = Text.trim c.serverAddr := by
    rw [Backup.request, hb]
    rfl
  refine ⟨b.volumeId, b.backupName, horder, rfl, rfl, haddress, hpast, ?_⟩
  rw [hlater, haddress, Backup.object, hb]
  rfl

/-- For a restore it downloads, from the address that its job was told. -/
theorem commands_of_restore (hplaced : PlacedWith c.asSettings stimuli) {request : RestoreRequest}
    {job : JobHandle} {past later : List Event}
    (h : (empty.run stimuli).2 =
      past ++ .answered id (.createRestore request) (.accepted (.ok job)) :: later) :
    ∃ snapshotId kind volumeId backupName,
      (ordersOf stimuli)[id]? = some (c.asSettings, .restore snapshotId kind) ∧
      SnapshotId.decode snapshotId = .ok (volumeId, backupName) ∧
      request.backupName = backupName ∧ request.source = Text.trim c.serverAddr ∧
      c.asWiring.commandsOf world id past = [] ∧
      c.asWiring.commandsOf world id later = [⟨Text.trim c.moverProgram,
        ["download", (ObjectNamer.ofSetting c.objectDirectory).objectName volumeId backupName,
          "--listen", request.source]⟩] := by
  obtain ⟨op, settings, order, _, _, hcall, hserves, horder, htransfer, hpast, hlater⟩ :=
    commands_once_accepted rfl h
  obtain rfl := hplaced.eq horder
  obtain ⟨t, target, rfl, _, rfl⟩ := Operation.of_call?_createRestore hcall
  obtain ⟨snapshotId, kind, rfl, ht, hdecode⟩ := hserves.of_restore
  cases htransfer
  have haddress : (t.request target).source = Text.trim c.serverAddr := by
    rw [Restore.request, ht]
    rfl
  refine ⟨snapshotId, kind, t.volumeId, t.backupName, horder, hdecode, rfl, haddress, hpast, ?_⟩
  rw [hlater, haddress, Restore.object, ht]
  rfl

/-- For a removal it deletes the object of the backup that was to be deleted. -/
theorem commands_of_removal (hplaced : PlacedWith c.asSettings stimuli) {object : String}
    (hcalled : .called id (.move .delete object) ∈ (empty.run stimuli).2) :
    ∃ snapshotId volumeId backupName claimNamespace,
      (ordersOf stimuli)[id]? = some (c.asSettings, .removal snapshotId) ∧
      StandsFor (ordersOf stimuli) (empty.run stimuli).2 snapshotId volumeId backupName ∧
      .called id (.deleteBackup volumeId backupName claimNamespace) ∈ (empty.run stimuli).2 ∧
      object = (ObjectNamer.ofSetting c.objectDirectory).objectName volumeId backupName ∧
      c.asWiring.commandsOf world id (empty.run stimuli).2 =
        [⟨Text.trim c.moverProgram, ["delete", object]⟩] := by
  obtain ⟨settings, snapshotId, volumeId, backupName, claimNamespace, horder, hstands, hretracts,
    rfl⟩ := erases_retracted hcalled
  obtain rfl := hplaced.eq horder
  exact ⟨snapshotId, volumeId, backupName, claimNamespace, horder, hstands, hretracts, rfl,
    Wiring.commandsOf_eq_singleton hcalled⟩

/-- A command that is over counts as done exactly if its exit code is zero. -/
theorem taken_of_command (hplaced : PlacedWith c.asSettings stimuli)
    (hworld : c.asWiring.Answers world (empty.run stimuli).2) {action : TransferAction}
    {object : String} {answer : Answer}
    (hanswered : .answered id (.move action object) answer ∈ (empty.run stimuli).2) :
    let exitsWell := ∃ result,
      (world id).run (c.asWiring.mover.command action object) = .ok result ∧ result.code = some 0
    (.ended id (.error (action.failure object)) ∈ (empty.run stimuli).2 ↔ ¬ exitsWell) ∧
    (action = .delete → (.ended id (.ok .deleted) ∈ (empty.run stimuli).2 ↔ exitsWell)) ∧
    (exitsWell → ∀ outcome, .ended id outcome ∈ (empty.run stimuli).2 →
      action.Leaves c.asSettings outcome) := by
  intro exitsWell
  obtain rfl := hworld id _ answer _ hanswered rfl
  have htrace := trace_run .empty stimuli
  have hid := htrace.number_lt hanswered rfl
  rw [(serving_trace htrace).placed] at hid
  have horder := List.getElem?_eq_getElem hid
  obtain ⟨hfails, hdeletes, hleaves⟩ := taken_of_moved horder hanswered
  rw [hplaced.eq horder] at hleaves
  have hwell : exitsWell ↔
      ((world id).run (c.asWiring.mover.command action object)).succeeded = true :=
    CommandOutcome.succeeded_iff.symm
  rw [hwell, Bool.not_eq_true]
  exact ⟨hfails, hdeletes, hleaves⟩

end Configured

/-- **Commands.**  In an engine that a configuration has wired up, whatever its surroundings
make of its calls: for a backup or a restore nothing is run until its job was accepted, and then
one command, with the object that the order stands for and the address that the job was told.
For a removal one command deletes the object of the backup that the control plane was told to
delete.  And a command that comes to its end in time counts as done exactly if its exit code is
zero; otherwise it is what the operation fails of. -/
theorem commands_meet_requests {c : Config} {w : Wiring} (hw : c.wiring = .ok w)
    (stimuli : List Stimulus)
    (hsettings : ∀ settings order, (settings, order) ∈ ordersOf stimuli → settings = w.settings)
    (world : Nat → Surroundings) (hworld : w.Answers world (empty.run stimuli).2) :
    let events := (empty.run stimuli).2
    let namer := ObjectNamer.ofSetting c.objectDirectory
    (∀ id request job past later,
      events = past ++ .answered id (.createBackup request) (.accepted (.ok job)) :: later →
        ∃ volumeId backupName,
          (ordersOf stimuli)[id]? = some (w.settings, .backup volumeId backupName) ∧
          request.volumeId = volumeId ∧ request.backupName = backupName ∧
          request.destination = Text.trim c.serverAddr ∧
          w.commandsOf world id past = [] ∧
          w.commandsOf world id later = [⟨Text.trim c.moverProgram,
            ["upload", namer.objectName volumeId backupName, "--listen", request.destination]⟩]) ∧
    (∀ id request job past later,
      events = past ++ .answered id (.createRestore request) (.accepted (.ok job)) :: later →
        ∃ snapshotId kind volumeId backupName,
          (ordersOf stimuli)[id]? = some (w.settings, .restore snapshotId kind) ∧
          SnapshotId.decode snapshotId = .ok (volumeId, backupName) ∧
          request.backupName = backupName ∧ request.source = Text.trim c.serverAddr ∧
          w.commandsOf world id past = [] ∧
          w.commandsOf world id later = [⟨Text.trim c.moverProgram,
            ["download", namer.objectName volumeId backupName, "--listen", request.source]⟩]) ∧
    (∀ id object, .called id (.move .delete object) ∈ events →
      ∃ snapshotId volumeId backupName claimNamespace,
        (ordersOf stimuli)[id]? = some (w.settings, .removal snapshotId) ∧
        StandsFor (ordersOf stimuli) events snapshotId volumeId backupName ∧
        .called id (.deleteBackup volumeId backupName claimNamespace) ∈ events ∧
        object = namer.objectName volumeId backupName ∧
        w.commandsOf world id events = [⟨Text.trim c.moverProgram, ["delete", object]⟩]) ∧
    (∀ id action object answer, .answered id (.move action object) answer ∈ events →
      let exitsWell := ∃ result,
        (world id).run (w.mover.command action object) = .ok result ∧ result.code = some 0
      (.ended id (.error (action.failure object)) ∈ events ↔ ¬ exitsWell) ∧
      (action = .delete → (.ended id (.ok .deleted) ∈ events ↔ exitsWell)) ∧
      (exitsWell → ∀ outcome, .ended id outcome ∈ events →
        action.Leaves w.settings outcome)) := by
  intro events namer
  obtain ⟨_, rfl⟩ := Config.wiring_eq_ok_iff.mp hw
  exact ⟨fun _ _ _ _ _ hsplit => commands_of_backup hsettings hsplit,
    fun _ _ _ _ _ hsplit => commands_of_restore hsettings hsplit,
    fun _ _ hcalled => commands_of_removal hsettings hcalled,
    fun _ _ _ _ hanswered => taken_of_command hsettings hworld hanswered⟩

/-- A backup whose data mover is killed. -/
def moverKilled : List Stimulus :=
  [.reported ⟨"pvc-1", "cstor", some "apps", .ofList [(engineLabel, engineName)], .bound⟩,
    .ordered (Config.withOptions (some "http://mgmt:5656") (some "site")).asSettings
      (.backup "pvc-1" "daily-01"),
    .signalled 0 (.answered (.preserved (.ok ()))),
    .signalled 0 (.answered (.accepted (.ok ⟨.backup, "daily-01", "pvc-1", "apps"⟩))),
    .signalled 0 (.answered (.moved false))]

/-- What is seen of it. -/
def moverKilledEvents : List Event :=
  let record := { Volume.fresh "pvc-1" "apps" "cstor" with backupName := "daily-01" }
  let request : BackupRequest := ⟨"pvc-1", "daily", "daily-01", "mover:9000", "apps"⟩
  [.discovered (.ok (some "pvc-1")), .called 0 (.preserveClaim record),
    .answered 0 (.preserveClaim record) (.preserved (.ok ())), .called 0 (.createBackup request),
    .answered 0 (.createBackup request) (.accepted (.ok request.job)),
    .called 0 (.move .upload "site/backups/daily-01/cstor-pvc-1"),
    .answered 0 (.move .upload "site/backups/daily-01/cstor-pvc-1") (.moved false),
    .ended 0 (.error (.transferFailed ⟨.upload, "site/backups/daily-01/cstor-pvc-1"⟩))]

theorem commands_meet_requests_daily :
    let c := Config.withOptions (some "http://mgmt:5656") (some "site")
    let world : Nat → Surroundings :=
      fun _ => ⟨fun _ => .complete 200 [], fun _ => .ok ⟨none, "", ""⟩⟩
    let events := (empty.run moverKilled).2
    let object := "site/backups/daily-01/cstor-pvc-1"
    c.wiring = .ok c.asWiring ∧
    (∀ settings order, (settings, order) ∈ ordersOf moverKilled → settings = c.asWiring.settings) ∧
    c.asWiring.Answers world events ∧
    (∃ past accepted later, events = past ++ accepted :: later ∧
      c.asWiring.commandsOf world 0 past = [] ∧
      c.asWiring.commandsOf world 0 later =
        [⟨"cstor-transfer", ["upload", object, "--listen", "mover:9000"]⟩]) ∧
    .ended 0 (.error (.transferFailed ⟨.upload, object⟩)) ∈ events := by
  intro c world events object
  have hw : c.wiring = .ok c.asWiring := Config.wiring_eq_ok_iff.mpr ⟨by decide, rfl⟩
  have hsettings : ∀ settings order, (settings, order) ∈ ordersOf moverKilled →
      settings = c.asWiring.settings := by
    intro settings order hmem
    cases List.mem_singleton.mp hmem
    rfl
  have hevents : events = moverKilledEvents := rfl
  have haccepted : ∀ request : BackupRequest,
      (c.asWiring.client.createBackup (world 0).transport request).result = .ok request.job := by
    intro request
    have hurl : (c.asWiring.client.url? JobKind.backup.collection).isSome := by decide
    obtain ⟨url, hurl⟩ := Option.isSome_iff_exists.mp hurl
    rw [ControlPlaneClient.createBackup, ControlPlaneClient.order?, hurl]
    rfl
  have hworld : c.asWiring.Answers world events := by
    intro id call answer performed hmem hperform
    simp only [hevents, moverKilledEvents, List.mem_cons, List.not_mem_nil, reduceCtorEq, false_or,
      or_false, Event.answered.injEq] at hmem
    rcases hmem with ⟨rfl, rfl, rfl⟩ | ⟨rfl, rfl, rfl⟩ | ⟨rfl, rfl, rfl⟩
    · cases hperform
    · obtain rfl := Option.some.inj hperform
      exact congrArg Answer.accepted (haccepted _).symm
    · obtain rfl := Option.some.inj hperform
      rfl
  obtain ⟨hbackups, _, _, htransfers⟩ :=
    commands_meet_requests hw moverKilled hsettings world hworld
  have hsplit : events = moverKilledEvents.take 4 ++
      .answered 0 (.createBackup ⟨"pvc-1", "daily", "daily-01", "mover:9000", "apps"⟩)
        (.accepted (.ok ⟨.backup, "daily-01", "pvc-1", "apps"⟩)) :: moverKilledEvents.drop 5 := rfl
  obtain ⟨_, _, _, rfl, rfl, _, hpast, hlater⟩ := hbackups 0 _ _ _ _ hsplit
  have hmoved : .answered 0 (.move .upload object) (.moved false) ∈ events := by
    simp [hevents, moverKilledEvents, object]
  obtain ⟨hfails, _⟩ := htransfers 0 .upload object (.moved false) hmoved
  refine ⟨hw, hsettings, hworld, ⟨_, _, _, hsplit, hpast, ?_⟩, hfails.mpr ?_⟩
  · rw [hlater]
    decide
  · rintro ⟨result, hresult, hcode⟩
    cases hresult
    cases hcode

end Engine

end SnapshotEngine
