import SnapshotEngine.Proofs.Engine.Heard
import SnapshotEngine.Proofs.Engine.Ownership

/-!
# What confirms an operation

What decides an operation is read from the record of a volume, which outlives
the operation and is shared with all others.  It is the right status all the
same: the one that the poller of this very operation heard last.  The status is
reset as the marker is taken, nobody else reaches the record until the marker is
given back, and so it says at any time what the poller has heard so far.

* `serving_trace` — an operation serves its order and has moved its own data;
* `noted_trace` — the record says what the poller has heard last;
* `confirmation_is_own` — so an outcome is decided by the poller, the transfer and
  the order of the operation itself.
-/

namespace SnapshotEngine

theorem ordersOf_concat (stimuli : List Stimulus) (s : Stimulus) :
    ordersOf (stimuli ++ [s]) = ordersOf stimuli ++ s.order?.toList := by
  unfold ordersOf
  rw [List.filterMap_append]
  cases h : s.order? <;> simp [h]

namespace Engine

/-! ## Orders and transfers -/

/-- Operations are numbered like their orders, serve them, and move their own
data; the data has moved once the transfer is over. -/
structure Serving (orders : List (Settings × Order)) (e : Engine) (events : List Event) :
    Prop where
  placed : e.next = orders.length
  serves : ∀ id op, e.operations.get? id = some op →
    ∃ settings order, orders[id]? = some (settings, order) ∧ op.Serves settings order
  moves : ∀ id op, e.operations.get? id = some op → op.Moves
  moved : ∀ id op c, e.operations.get? id = some op → op.confirmation? = some c →
    c.stage ≠ .transferring → .answered id (.move c.action c.object) (.moved true) ∈ events

/-- An order takes the next number, and nothing else does. -/
theorem Effect.placed {e e' : Engine} {s : Stimulus} {events : List Event}
    {orders : List (Settings × Order)} (h : Effect e s e' events)
    (placed : e.next = orders.length) : e'.next = (orders ++ s.order?.toList).length := by
  rw [List.length_append, ← placed]
  cases h with
  | idle unordered => simp [unordered]
  | started start => exact next_keep ..
  | wentOn found admits resume => exact next_keep ..
  | _ => rfl

/-- The transfer of an operation that has gone on is over only if it was over
before or the data has moved just now. -/
theorem moved_of_goesOn {op next : Operation} {r r' : Registry} {signal : Signal}
    {c : Confirmation} {k : Nat} {past : List Event} (goes : op.GoesOn r signal r' next)
    (hc : next.confirmation? = some c) (hstage : c.stage ≠ .transferring)
    (hpast : ∀ c₀, op.confirmation? = some c₀ → c₀.stage ≠ .transferring →
      .answered k (.move c₀.action c₀.object) (.moved true) ∈ past) :
    .answered k (.move c.action c.object) (.moved true) ∈
      past ++ (answerEvents k op signal ++ callEvents k next) := by
  cases goes with
  | approached unstarted after kept => cases after.symm.trans hc
  | took free after holds unknown takes => cases after.symm.trans hc
  | accepted unstarted waited ordered kept after handle stage =>
      cases after.symm.trans hc
      exact absurd stage hstage
  | continued transfer after advance kept =>
      cases after.symm.trans hc
      rcases Confirmation.advance_eq_continues advance with ⟨rfl, hmoving, rfl⟩ | ⟨_, hover, rfl⟩
      · have hcall := Operation.call?_of_transferring transfer hmoving
        apply List.mem_append_right
        apply List.mem_append_left
        exact mem_answerEvents.mpr ⟨_, _, hcall, rfl, rfl⟩
      · have hbefore := hpast _ transfer (by simp [hover])
        exact List.mem_append_left _ hbefore

/-- **Step.** -/
theorem Serving.effect {orders : List (Settings × Order)} {e e' : Engine} {s : Stimulus}
    {past events : List Event} (h : Serving orders e past) (heffect : Effect e s e' events) :
    Serving (orders ++ s.order?.toList) e' (past ++ events) where
  placed := heffect.placed h.placed
  serves id op hop := by
    have hkept : ∀ op₀, e.operations.get? id = some op₀ → ∃ settings order,
        (orders ++ s.order?.toList)[id]? = some (settings, order) ∧
          op₀.Serves settings order := by
      intro op₀ found
      obtain ⟨settings, order, horder, hserves⟩ := h.serves id op₀ found
      have hid := (List.getElem?_eq_some_iff.mp horder).1
      exact ⟨settings, order, (List.getElem?_append_left hid).trans horder, hserves⟩
    cases heffect.operation hop with
    | started number registry start =>
        rename_i settings order r
        refine ⟨settings, order, ?_, (Operation.start_waits start).1⟩
        rw [number, h.placed]
        simp [Stimulus.order?]
    | wentOn found registry resume =>
        obtain ⟨settings, order, horder, hserves⟩ := hkept _ found
        exact ⟨settings, order, horder, Operation.serves_of_resume resume hserves⟩
    | kept found unanswered => exact hkept op found
  moves id op hop := by
    cases heffect.operation hop with
    | started number registry start =>
        intro c hc
        cases (Operation.start_waits start).2.1.symm.trans hc
    | wentOn found registry resume => exact Operation.moves_of_resume resume (h.moves id _ found)
    | kept found unanswered => exact h.moves id op found
  moved id op c hop hc hstage := by
    cases heffect.operation hop with
    | started number registry start => cases (Operation.start_waits start).2.1.symm.trans hc
    | wentOn found registry resume =>
        exact moved_of_goesOn (Operation.goesOn_of_resume resume) hc hstage
          fun c₀ hc₀ => h.moved id _ c₀ found hc₀
    | kept found unanswered => exact List.mem_append_left events (h.moved id op c found hc hstage)

/-- **Run.** -/
theorem serving_trace {r : Registry} {stimuli : List Stimulus} {e : Engine}
    {events : List Event} (h : Trace r stimuli e events) : Serving (ordersOf stimuli) e events := by
  induction h with
  | start =>
      have hnone : ∀ id, (ofRegistry r).operations.get? id = none := fun _ => rfl
      refine ⟨rfl, ?_, ?_, ?_⟩ <;> simp [hnone]
  | step before s ih =>
      rw [ordersOf_concat]
      exact ih.effect (effect_step _ s)

/-! ## What is noted -/

/-- The record of a volume at which an operation is at work says what the poller
of that operation has heard last. -/
def Noted (e : Engine) (events : List Event) : Prop :=
  ∀ id op job, e.operations.get? id = some op → op.job? = some job →
    (∃ v, e.registry.volume? job.volumeId = some v) ∧
      e.registry.statusOf job = (lastHeard id events).getD .pending

/-- Nothing was heard of a job for which the marker was taken just now. -/
theorem noted_of_takes {r r' : Registry} {job : JobHandle} {k : Nat} {events : List Event}
    (takes : r.Takes r' job) (silent : answersTo k events = []) :
    (∃ v, r'.volume? job.volumeId = some v) ∧
      r'.statusOf job = (lastHeard k events).getD .pending := by
  rw [lastHeard_eq_none silent]
  exact ⟨takes.known, takes.reset⟩

/-- A stimulus that does not concern an operation leaves it as it is. -/
theorem Effect.operation_of_ne {e e' : Engine} {s : Stimulus} {events : List Event} {k : Nat}
    {op : Operation} (h : Effect e s e' events) (hactor : e.actor? s ≠ some k)
    (hop : e'.operations.get? k = some op) : e.operations.get? k = some op := by
  cases h.operation hop with
  | started number registry start => exact absurd (congrArg some number.symm) hactor
  | wentOn found registry resume => exact absurd rfl hactor
  | kept found unanswered => exact found

/-- What is noted for one operation is out of reach for all others. -/
theorem Noted.effect_other {e e' : Engine} {s : Stimulus} {past events : List Event} {k : Nat}
    {op : Operation} {job : JobHandle} (h : Noted e past) (hown : Owned e) (hjobs : JobsKept e)
    (heffect : Effect e s e' events) (hactor : e.actor? s ≠ some k)
    (hop : e'.operations.get? k = some op) (hjob : op.job? = some job) :
    (∃ v, e'.registry.volume? job.volumeId = some v) ∧
      e'.registry.statusOf job = (lastHeard k (past ++ events)).getD .pending := by
  obtain ⟨⟨v, hv⟩, hstatus⟩ := h k op job (heffect.operation_of_ne hactor hop) hjob
  have hsilent : answersTo k events = [] := by
    apply heffect.silent
    rintro signal rfl
    exact hactor rfl
  obtain ⟨v', hv', hsame | ⟨id, owner, hid, howner, hmarker, _⟩⟩ :=
    alters_step hown hjobs heffect hv
  · subst hsame
    refine ⟨⟨v', hv'⟩, ?_⟩
    rw [Registry.statusOf_congr (hv'.trans hv.symm), hstatus,
      (last_append_of_silent hsilent past).1]
  · have hmine : op.marker? = some job.volumeId := by
      rw [Operation.marker?_eq, hjob]
      rfl
    have heq := (hown.effect heffect).apart id k owner op _ howner hop hmarker hmine
    exact absurd (heq ▸ hid) hactor

/-- An operation that goes on has either taken its marker just now or had it before. -/
theorem Noted.goesOn {e : Engine} {r : Registry} {signal : Signal} {past events : List Event}
    {k : Nat} {op next : Operation} {job : JobHandle} (h : Noted e past) (hown : Owned e)
    (found : e.operations.get? k = some op) (goes : op.GoesOn e.registry signal r next)
    (hfresh : e.pollers.get? k = none → answersTo k (past ++ events) = [])
    (silent : answersTo k events = []) (hjob : next.job? = some job) :
    (∃ v, r.volume? job.volumeId = some v) ∧
      r.statusOf job = (lastHeard k (past ++ events)).getD .pending := by
  have hkept : next.job? = op.job? →
      (∃ v, e.registry.volume? job.volumeId = some v) ∧
        e.registry.statusOf job = (lastHeard k (past ++ events)).getD .pending := by
    intro kept
    rw [(last_append_of_silent silent past).1]
    exact h k op job found (kept ▸ hjob)
  cases goes with
  | took free after holds unknown takes =>
      cases holds.symm.trans hjob
      have habsent := hown.poller_absent found (Operation.confirmation?_of_free free)
      exact noted_of_takes takes (hfresh habsent)
  | approached before after kept => exact hkept kept
  | accepted before waited ordered kept after handle stage => exact hkept kept
  | continued before after advance kept => exact hkept kept

/-- What the poller of an operation hears is noted with the volume of that
operation. -/
theorem Noted.heard {e : Engine} {past : List Event} {k : Nat} {op : Operation} {p : Poller}
    {job : JobHandle} (h : Noted e past) (hown : Owned e) (hjobs : JobsKept e)
    (found : e.pollers.get? k = some p) (hop : e.operations.get? k = some op)
    (hjob : op.job? = some job) (status : JobStatus) :
    (∃ v, (e.registry.record p.job status).volume? job.volumeId = some v) ∧
      (e.registry.record p.job status).statusOf job =
        (lastHeard k (past ++ [.served k p.job (.ok status)])).getD .pending := by
  obtain ⟨c, hc, hask⟩ := hown.asks k p op found hop
  have hpolled : p.job = job := by
    have hordered := hjobs k op c hop hc
    rw [hjob] at hordered
    cases hordered
    exact hask.symm
  subst hpolled
  obtain ⟨⟨v, hv⟩, _⟩ := h k op _ hop hjob
  have hserved : answersTo k [Event.served k p.job (.ok status)] = [(p.job, .ok status)] := by
    simp [answersTo, Event.servedTo?]
  refine ⟨⟨v.withStatus p.job.kind status, ?_⟩, ?_⟩
  · rw [Registry.volume?_record, if_pos rfl, hv]
    rfl
  · rw [Registry.statusOf_record hv, (last_append_of_status hserved past).1]
    rfl

/-- **Step.**  The record says what the poller has heard, before and after. -/
theorem Noted.effect {e e' : Engine} {s : Stimulus} {past events : List Event}
    (h : Noted e past) (hown : Owned e) (hjobs : JobsKept e) (hheard : Heard e past)
    (heffect : Effect e s e' events) : Noted e' (past ++ events) := by
  intro k op job hop hjob
  have hfresh : e.pollers.get? k = none → answersTo k (past ++ events) = [] := by
    intro absent
    rw [answersTo_append, hheard.unserved k absent, heffect.silent_of_absent absent]
    rfl
  have hsame : answersTo k events = [] → e.operations.get? k = some op →
      (∃ v, e.registry.volume? job.volumeId = some v) ∧
        e.registry.statusOf job = (lastHeard k (past ++ events)).getD .pending := by
    intro silent found
    rw [(last_append_of_silent silent past).1]
    exact h k op job found hjob
  by_cases hactor : e.actor? s = some k
  · cases heffect with
    | idle unordered => exact hsame rfl hop
    | started start =>
        cases hactor
        rw [get?_operations_keep, if_pos rfl] at hop
        cases hop
        rw [registry_keep]
        rcases (Operation.start_waits start).2.2 with ⟨hfree, _⟩ | ⟨_, hholds, htakes⟩
        · cases hfree.symm.trans hjob
        · cases hholds.symm.trans hjob
          exact noted_of_takes htakes (hfresh hown.absent_next.2)
    | refused start =>
        cases hactor
        cases hown.absent_next.1.symm.trans hop
    | looked => cases hactor
    | wentOn found admits resume =>
        cases hactor
        have hsilent : answersTo k _ = [] :=
          (Effect.wentOn found admits resume).silent fun _ heq => by cases heq
        rw [get?_operations_keep, if_pos rfl] at hop
        cases hop
        rw [registry_keep]
        exact h.goesOn hown found (Operation.goesOn_of_resume resume) hfresh hsilent hjob
    | ended found admits resume =>
        cases hactor
        rw [get?_operations_remove, if_pos rfl] at hop
        cases hop
    | dropped found => cases hactor
    | heard found asking live =>
        cases hactor
        exact h.heard hown hjobs found hop hjob _
    | unheard found asking live =>
        rename_i p cause
        cases hactor
        have hserved : answersTo k [Event.served k p.job (.error cause)] =
            [(p.job, .error cause)] := by
          simp [answersTo, Event.servedTo?]
        rw [lastHeard_append_of_error hserved past]
        exact h k op job hop hjob
    | unserved found => exact hsame rfl hop
  · exact h.effect_other hown hjobs heffect hactor hop hjob

/-- **Run.** -/
theorem noted_trace {r : Registry} {stimuli : List Stimulus} {e : Engine} {events : List Event}
    (h : Trace r stimuli e events) (hkeeps : KeepsJobs events) : Noted e events := by
  induction h with
  | start => exact fun _ _ _ hop => by cases hop
  | step before s ih =>
      have hpast := hkeeps.of_append.1
      exact (ih hpast).effect (owned_trace before) (jobsKept_trace before hpast)
        (heard_trace before) (effect_step _ s)

/-! ## What decides -/

/-- What an operation has to show for its success: its own data has moved, and the
last answer to its poller was that its own job is done. -/
def Confirmed (id : Nat) (past : List Event) (settings : Settings) : Order → Success → Prop
  | .backup volumeId backupName, .backedUp snapshotId =>
      SnapshotId.encode volumeId backupName = .ok snapshotId ∧
        .answered id (.move .upload (settings.namer.objectName volumeId backupName))
          (.moved true) ∈ past ∧
        ∃ job, lastAnswer id past = some (job, .ok .done) ∧ job.kind = .backup ∧
          job.volumeId = volumeId ∧ job.name = backupName
  | .restore snapshotId _, .restored target =>
      ∃ volumeId backupName, SnapshotId.decode snapshotId = .ok (volumeId, backupName) ∧
        .answered id (.move .download (settings.namer.objectName volumeId backupName))
          (.moved true) ∈ past ∧
        ∃ job, lastAnswer id past = some (job, .ok .done) ∧ job.kind = .restore ∧
          job.volumeId = target ∧ job.name = backupName
  | .removal _, .deleted => True
  | _, _ => False

/-- What is shown stays shown, as long as nothing more is served. -/
theorem Confirmed.append {id : Nat} {past later : List Event} {settings : Settings}
    {order : Order} {success : Success} (h : Confirmed id past settings order success)
    (silent : answersTo id later = []) : Confirmed id (past ++ later) settings order success := by
  have hlast := (last_append_of_silent silent past).2
  unfold Confirmed at h ⊢
  rw [hlast]
  cases order <;> cases success <;> try exact h
  · obtain ⟨hid, hmoved, hjob⟩ := h
    exact ⟨hid, List.mem_append_left later hmoved, hjob⟩
  · obtain ⟨volumeId, backupName, hdecode, hmoved, hjob⟩ := h
    exact ⟨volumeId, backupName, hdecode, List.mem_append_left later hmoved, hjob⟩

/-- The status that decides is the one that the poller has heard last. -/
theorem status_of_ends {e : Engine} {past : List Event} {id : Nat} {op : Operation}
    {signal : Signal} {r : Registry} {outcome : Outcome} {status : JobStatus}
    (hnoted : Noted e past) (hjobs : JobsKept e) (found : e.operations.get? id = some op)
    (ends : op.Ends e.registry signal r outcome) (hstatus : Outcome.status? outcome = some status) :
    status = (lastHeard id past).getD .pending := by
  obtain ⟨c, hc, _, rfl⟩ := ends.status hstatus
  exact (hnoted id op c.job found (hjobs id op c found hc)).2

/-- An operation that a job has confirmed has moved its data, and its poller has
heard of the job last. -/
theorem own_of_done {orders : List (Settings × Order)} {e : Engine} {past : List Event}
    {id : Nat} {op : Operation} {c : Confirmation} {signal : Signal}
    (hserving : Serving orders e past) (hown : Owned e) (hheard : Heard e past)
    (hnoted : Noted e past) (hjobs : JobsKept e) (found : e.operations.get? id = some op)
    (hc : op.confirmation? = some c) (advance : c.advance signal = some .settled)
    (hdone : e.registry.statusOf c.job = .done) :
    op.transfer? = some (c.action, c.object) ∧ op.job? = some c.job ∧
      .answered id (.move c.action c.object) (.moved true) ∈ past ∧
      lastAnswer id past = some (c.job, .ok .done) := by
  have hjob := hjobs id op c found hc
  refine ⟨hserving.moves id op found c hc, hjob, ?_, ?_⟩
  · exact hserving.moved id op c found hc (Confirmation.advance_eq_settled advance).2
  · have hlast : lastHeard id past = some .done := by
      have hread := (hnoted id op c.job found hjob).2
      rw [hdone] at hread
      cases hlast : lastHeard id past with
      | none =>
          rw [hlast] at hread
          cases hread
      | some status =>
          rw [hlast] at hread
          exact congrArg some hread.symm
    cases hget : e.pollers.get? id with
    | none =>
        rw [lastHeard_eq_none (hheard.unserved id hget)] at hlast
        cases hlast
    | some p =>
        obtain ⟨c₀, hc₀, hask⟩ := hown.asks id p op hget found
        cases hc.symm.trans hc₀
        rw [hask]
        exact (hheard.stopped id p .done hget hlast rfl).2

/-- What an operation that ends well has to show, it has. -/
theorem confirmed_of_ends {orders : List (Settings × Order)} {e : Engine} {past : List Event}
    {id : Nat} {op : Operation} {signal : Signal} {r : Registry} {success : Success}
    (hserving : Serving orders e past) (hown : Owned e) (hheard : Heard e past)
    (hnoted : Noted e past) (hjobs : JobsKept e) (found : e.operations.get? id = some op)
    (ends : op.Ends e.registry signal r (.ok success)) :
    ∃ settings order, orders[id]? = some (settings, order) ∧
      Confirmed id past settings order success := by
  obtain ⟨settings, order, horder, hserves⟩ := hserving.serves id op found
  refine ⟨settings, order, horder, ?_⟩
  cases ends with
  | backedUp stage advance hdone =>
      rename_i b c
      have hc : (Operation.backup b).confirmation? = some c := by
        simp only [Operation.confirmation?, stage]
      obtain ⟨hmoves, hjob, hmoved, hlast⟩ :=
        own_of_done hserving hown hheard hnoted hjobs found hc advance hdone
      obtain ⟨haction, hobject⟩ := Prod.mk.inj (Option.some.inj hmoves)
      obtain ⟨rfl, rfl, hid⟩ := hserves.of_backup
      rw [← haction, ← hobject] at hmoved
      rw [← Option.some.inj hjob] at hlast
      exact ⟨hid, hmoved, _, hlast, rfl, rfl, rfl⟩
  | restored stage advance hdone =>
      rename_i t target c
      have hc : (Operation.restore t).confirmation? = some c := by
        simp only [Operation.confirmation?, stage]
      obtain ⟨hmoves, hjob, hmoved, hlast⟩ :=
        own_of_done hserving hown hheard hnoted hjobs found hc advance hdone
      obtain ⟨haction, hobject⟩ := Prod.mk.inj (Option.some.inj hmoves)
      have hask : (t.request target).job = c.job := by
        simpa [Operation.job?, stage] using hjob
      obtain ⟨snapshotId, kind, rfl, rfl, hdecode⟩ := hserves.of_restore
      rw [← haction, ← hobject] at hmoved
      rw [← hask] at hlast
      exact ⟨t.volumeId, t.backupName, hdecode, hmoved, _, hlast, rfl, rfl, rfl⟩
  | deleted stage =>
      obtain ⟨rfl, _⟩ := hserves.of_removal
      trivial

/-- **Confirmation is never stale or borrowed.**  Whenever a status decides an
operation, it is the last one that the poller of this operation has heard, and
pending if there was none; and an operation that ends well has moved the data that
its order names and was told last of its own job that it is done. -/
theorem confirmation_is_own (r : Registry) (stimuli : List Stimulus)
    (hkeeps : KeepsJobs ((ofRegistry r).run stimuli).2) (id : Nat) (outcome : Outcome)
    (past later : List Event)
    (hended : ((ofRegistry r).run stimuli).2 = past ++ .ended id outcome :: later) :
    (∀ status, Outcome.status? outcome = some status →
        status = (lastHeard id past).getD .pending) ∧
      ∀ success, outcome = .ok success →
        ∃ settings order, (ordersOf stimuli)[id]? = some (settings, order) ∧
          Confirmed id past settings order success := by
  obtain ⟨first, s, rest, e, before, seen, tail, hstimuli, htrace, hpast, hstep⟩ :=
    (trace_run r stimuli).split hended
  rcases (effect_step e s).of_ended hstep with
    ⟨_, cause, rfl, hphase⟩ | ⟨op, signal, r', found, resume, _, hseen⟩
  · refine ⟨?_, fun success hok => by cases hok⟩
    intro status hstatus
    rw [Outcome.status?_error (by rw [hphase]; exact Phase.noConfusion)] at hstatus
    cases hstatus
  · have hbefore : KeepsJobs before := by
      rw [hended, hpast, List.append_assoc] at hkeeps
      exact hkeeps.of_append.1
    have hsilent : answersTo id seen = [] := by
      apply answersTo_eq_nil
      intro job answer hmem
      rw [hseen] at hmem
      exact not_mem_answerEvents (fun _ _ heq => by cases heq) hmem
    have hlast := (last_append_of_silent hsilent before).1
    have hends := Operation.ends_of_resume resume
    have hnoted := noted_trace htrace hbefore
    have hjobs := jobsKept_trace htrace hbefore
    subst hpast
    refine ⟨?_, ?_⟩
    · intro status hstatus
      rw [hlast]
      exact status_of_ends hnoted hjobs found hends hstatus
    · rintro success rfl
      obtain ⟨settings, order, horder, hconfirmed⟩ := confirmed_of_ends (serving_trace htrace)
        (owned_trace htrace) (heard_trace htrace) hnoted hjobs found hends
      refine ⟨settings, order, ?_, ?_⟩
      · have hid := (List.getElem?_eq_some_iff.mp horder).1
        rw [hstimuli, ordersOf, List.filterMap_append]
        exact (List.getElem?_append_left hid).trans horder
      · exact hconfirmed.append hsilent

theorem confirmation_is_own_daily :
    let stimuli := backupUnderWay ++ [.woken 0 (.answered (.ok .done)),
      .signalled 0 (.answered (.moved true)), .signalled 0 .pollerExited]
    KeepsJobs ((ofRegistry oneVolume).run stimuli).2 ∧
      ∃ past, ((ofRegistry oneVolume).run stimuli).2 =
          past ++ [.ended 0 (.ok (.backedUp "pvc-1-velero-bkp-daily-01"))] ∧
        ∃ settings order, (ordersOf stimuli)[0]? = some (settings, order) ∧
          Confirmed 0 past settings order (.backedUp "pvc-1-velero-bkp-daily-01") := by
  intro stimuli
  have hkeeps : KeepsJobs ((ofRegistry oneVolume).run stimuli).2 := by decide
  have hended : ((ofRegistry oneVolume).run stimuli).2 =
      ((ofRegistry oneVolume).run stimuli).2.dropLast ++
        [.ended 0 (.ok (.backedUp "pvc-1-velero-bkp-daily-01"))] := rfl
  refine ⟨hkeeps, _, hended, ?_⟩
  exact (confirmation_is_own oneVolume stimuli hkeeps 0 _ _ [] hended).2 _ rfl

end Engine

end SnapshotEngine
