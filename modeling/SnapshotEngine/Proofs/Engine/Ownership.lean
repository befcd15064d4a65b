import SnapshotEngine.Proofs.Engine.Owned

/-!
# Who may change the record of a volume

A record that is there belongs to whoever holds the marker of its volume: nobody
else changes it, and the holder reaches it directly or through its poller.  The
poller is cancelled as its operation ends, so it does not outlive it.

* `jobsKept_trace` — every transfer is for the job that was ordered;
* `alters_step` — what one step makes of a record;
* `finished_of_ended`, `Finished.run` — an operation that has ended stays away;
* `records_have_one_owner` — both together, for every run.
-/

namespace SnapshotEngine

namespace Event

/-- Whether the job that is accepted, if one is, is the one that was ordered. -/
def keepsJob : Event → Bool
  | .answered _ call (.accepted (.ok job)) => call.job? = some job
  | _ => true

/-- The operation that is over with an event. -/
def closes? : Event → Option Nat
  | .ended id _ | .dropped id => some id
  | _ => none

end Event

/-- Every job that is accepted is the one that was ordered. -/
def KeepsJobs (events : List Event) : Prop := ∀ event ∈ events, event.keepsJob

instance (events : List Event) : Decidable (KeepsJobs events) :=
  inferInstanceAs (Decidable (∀ event ∈ events, event.keepsJob))

theorem KeepsJobs.of_append {past later : List Event} (h : KeepsJobs (past ++ later)) :
    KeepsJobs past ∧ KeepsJobs later :=
  ⟨fun event hmem => h event (List.mem_append_left later hmem),
    fun event hmem => h event (List.mem_append_right past hmem)⟩

/-- What of the record of a volume an operation may change. -/
def Operation.Alters : Operation → Volume → Volume → Prop
  | .backup _, old, new =>
      new = { old with backupName := new.backupName, backupStatus := new.backupStatus }
  | .restore _, old, new => new = { old with restoreStatus := new.restoreStatus }
  | .removal _, old, new => new = old

namespace Engine

/-- The operation that a stimulus concerns, itself or its poller. -/
def actor? (e : Engine) : Stimulus → Option Nat
  | .ordered _ _ => some e.next
  | .signalled id _ | .woken id _ => some id
  | .reported _ | .dropped _ => none

/-- The job of every transfer is the one that its operation has ordered. -/
def JobsKept (e : Engine) : Prop :=
  ∀ id op c, e.operations.get? id = some op → op.confirmation? = some c → op.job? = some c.job

/-! ## Records -/

/-- **Step.**  A transfer starts with the job that was ordered, and keeps it. -/
theorem JobsKept.effect {e e' : Engine} {s : Stimulus} {events : List Event} (h : JobsKept e)
    (hkeeps : KeepsJobs events) (heffect : Effect e s e' events) : JobsKept e' := by
  intro k op c hop hc
  cases heffect.operation hop with
  | started number registry start =>
      have hnone := (Operation.start_waits start).2.1
      cases hnone.symm.trans hc
  | kept found unanswered => exact h k op c found hc
  | wentOn found registry resume =>
      rename_i before signal r
      cases Operation.goesOn_of_resume resume with
      | approached unstarted after kept => cases after.symm.trans hc
      | took free after holds unknown takes => cases after.symm.trans hc
      | accepted unstarted waited ordered kept after handle stage =>
          rename_i call job c₀
          cases after.symm.trans hc
          have hevent : Event.answered k call (.accepted (.ok job)) ∈
              answerEvents k before (.answered (.accepted (.ok job))) ++ callEvents k op := by
            simp [answerEvents, waited]
          have hjob : call.job? = some job := of_decide_eq_true (hkeeps _ hevent)
          rw [kept, ← ordered, hjob, handle]
      | continued transfer after advance kept =>
          cases after.symm.trans hc
          rw [kept, (Confirmation.advance_continues advance).1]
          exact h k before _ found transfer

theorem jobsKept_trace {r : Registry} {stimuli : List Stimulus} {e : Engine}
    {events : List Event} (h : Trace r stimuli e events) (hkeeps : KeepsJobs events) :
    JobsKept e := by
  induction h with
  | start => exact fun id op c hop => by cases hop
  | step before s ih =>
      obtain ⟨hpast, hlater⟩ := hkeeps.of_append
      exact (ih hpast).effect hlater (effect_step _ s)

/-- What a poller notes is for its operation to change. -/
theorem alters_withStatus {op : Operation} {job : JobHandle} (h : op.job? = some job)
    (v : Volume) (heard : JobStatus) : op.Alters v (v.withStatus job.kind heard) := by
  cases op with
  | backup b =>
      cases h
      rfl
  | restore t =>
      simp only [Operation.job?] at h
      split at h <;> cases h <;> rfl
  | removal d => cases h

/-- What taking the marker does to an earlier record is for the operation to
change. -/
theorem alters_of_takes {r r' : Registry} {op : Operation} {job : JobHandle} {v : Volume}
    (hjob : op.job? = some job) (htakes : r.Takes r' job)
    (hv : r.volume? job.volumeId = some v) :
    ∃ v', r'.volume? job.volumeId = some v' ∧ op.Alters v v' := by
  obtain ⟨hkind, hv'⟩ := htakes.earlier v hv
  refine ⟨_, hv', ?_⟩
  cases op with
  | backup b => rfl
  | restore t =>
      simp only [Operation.job?] at hjob
      split at hjob <;> cases hjob <;> cases hkind
  | removal d => cases hjob

/-- **Step.**  What becomes of a record: it stays as it is, or the operation that
holds the marker has changed its own part of it. -/
theorem alters_step {e e' : Engine} {s : Stimulus} {events : List Event} {name : String}
    {v : Volume} (h : Owned e) (hjobs : JobsKept e) (heffect : Effect e s e' events)
    (hv : e.registry.volume? name = some v) :
    ∃ v', e'.registry.volume? name = some v' ∧
      (v' = v ∨ ∃ id op, e.actor? s = some id ∧ e'.operations.get? id = some op ∧
        op.marker? = some name ∧ op.Alters v v') := by
  cases heffect with
  | idle unordered => exact ⟨v, hv, .inl rfl⟩
  | started start =>
      rename_i settings order r op
      rw [registry_keep]
      obtain ⟨_, _, hjob⟩ := Operation.start_waits start
      rcases hjob with ⟨_, rfl⟩ | ⟨job, hjob, htakes⟩
      · exact ⟨v, hv, .inl rfl⟩
      · by_cases hname : name = job.volumeId
        · subst hname
          obtain ⟨v', hv', halters⟩ := alters_of_takes hjob htakes hv
          refine ⟨v', hv', .inr ⟨e.next, op, rfl, ?_, ?_, halters⟩⟩
          · rw [get?_operations_keep, if_pos rfl]
          · rw [Operation.marker?_eq, hjob]
            rfl
        · exact ⟨v, (htakes.others name hname).trans hv, .inl rfl⟩
  | refused start =>
      obtain ⟨rfl, _⟩ := Operation.start_ends start
      exact ⟨v, hv, .inl rfl⟩
  | looked => exact ⟨v, (looked_discover _ _).keeps.1 name v hv, .inl rfl⟩
  | wentOn found admits resume =>
      rename_i id signal op next r
      rw [registry_keep]
      cases Operation.goesOn_of_resume resume with
      | took free after holds unknown takes =>
          rename_i job
          have hname : name ≠ job.volumeId := by
            rintro rfl
            cases unknown.symm.trans hv
          exact ⟨v, (takes.others name hname).trans hv, .inl rfl⟩
      | _ => exact ⟨v, hv, .inl rfl⟩
  | ended found admits resume =>
      rename_i id signal op r outcome
      obtain ⟨hvolumes, _⟩ := (Operation.ends_of_resume resume).volumes_held
      refine ⟨v, ?_, .inl rfl⟩
      rw [volume?_remove]
      unfold Registry.volume? at hv ⊢
      rw [hvolumes]
      exact hv
  | dropped found => exact ⟨v, (volume?_remove ..).trans hv, .inl rfl⟩
  | heard found asking live =>
      rename_i id p status
      have hrecord := Registry.volume?_record e.registry p.job status name
      by_cases hname : p.job.volumeId = name
      · rw [if_pos hname, hv] at hrecord
        obtain ⟨op, hop⟩ := h.followed id p found live
        obtain ⟨c, hc, hjob⟩ := h.asks id p op found hop
        have hown : op.job? = some p.job := hjob ▸ hjobs id op c hop hc
        refine ⟨_, hrecord, .inr ⟨id, op, rfl, hop, ?_, alters_withStatus hown v status⟩⟩
        rw [Operation.marker?_eq, hown, Option.map_some, hname]
      · rw [if_neg hname] at hrecord
        exact ⟨v, hrecord.trans hv, .inl rfl⟩
  | unheard found asking live => exact ⟨v, hv, .inl rfl⟩
  | unserved found => exact ⟨v, hv, .inl rfl⟩

/-! ## After the end -/

/-- An operation that was started and is not in progress any more. -/
def Finished (e : Engine) (id : Nat) : Prop := id < e.next ∧ e.operations.get? id = none

/-- An operation that has ended does not come back. -/
theorem Finished.effect {e e' : Engine} {s : Stimulus} {events : List Event} {id : Nat}
    (h : Finished e id) (heffect : Effect e s e' events) : Finished e' id := by
  obtain ⟨hid, hnone⟩ := h
  cases heffect with
  | started start =>
      refine ⟨?_, ?_⟩
      · rw [next_keep]
        exact Nat.lt_succ_of_lt hid
      · rw [get?_operations_keep, if_neg (fun heq => Nat.lt_irrefl _ (heq ▸ hid))]
        exact hnone
  | refused start => exact ⟨Nat.lt_succ_of_lt hid, hnone⟩
  | wentOn found admits resume =>
      refine ⟨?_, ?_⟩
      · rw [next_keep]
        exact hid
      · rw [get?_operations_keep, if_neg]
        · exact hnone
        · rintro rfl
          cases hnone.symm.trans found
  | ended found admits resume =>
      refine ⟨hid, ?_⟩
      rw [get?_operations_remove]
      split
      · rfl
      · exact hnone
  | dropped found =>
      refine ⟨hid, ?_⟩
      rw [get?_operations_remove]
      split
      · rfl
      · exact hnone
  | _ => exact ⟨hid, hnone⟩

/-- With the event that closes it an operation is refused its number or taken out. -/
theorem Effect.of_closes {e e' : Engine} {s : Stimulus} {events : List Event} {event : Event}
    {id : Nat} (h : Effect e s e' events) (hmem : event ∈ events)
    (hcloses : event.closes? = some id) :
    (id = e.next ∧ e'.next = e.next + 1 ∧ e'.operations = e.operations) ∨
      ∃ r op, e.operations.get? id = some op ∧ e' = { e with registry := r }.remove id op := by
  have hcalled : ∀ k op, event ∉ callEvents k op := by
    intro k op
    apply not_mem_callEvents
    rintro call rfl
    cases hcloses
  have hanswered : ∀ k op signal, event ∉ answerEvents k op signal := by
    intro k op signal
    apply not_mem_answerEvents
    rintro call answer rfl
    cases hcloses
  cases h with
  | idle unordered => cases hmem
  | started start => exact (hcalled _ _ hmem).elim
  | refused start =>
      rw [List.mem_singleton] at hmem
      subst hmem
      cases hcloses
      exact .inl ⟨rfl, rfl, rfl⟩
  | wentOn found admits resume =>
      rcases List.mem_append.mp hmem with hmem | hmem
      · exact (hanswered _ _ _ hmem).elim
      · exact (hcalled _ _ hmem).elim
  | ended found admits resume =>
      rcases List.mem_append.mp hmem with hmem | hmem
      · exact (hanswered _ _ _ hmem).elim
      · rw [List.mem_singleton] at hmem
        subst hmem
        cases hcloses
        exact .inr ⟨_, _, found, rfl⟩
  | dropped found =>
      rw [List.mem_singleton] at hmem
      subst hmem
      cases hcloses
      exact .inr ⟨_, _, found, rfl⟩
  | looked | heard | unheard =>
      rw [List.mem_singleton] at hmem
      subst hmem
      cases hcloses
  | unserved => cases hmem

/-- An operation is in progress until it ends or is dropped, and then no more. -/
theorem Owned.finished {e e' : Engine} {s : Stimulus} {events : List Event} {event : Event}
    {id : Nat} (h : Owned e) (heffect : Effect e s e' events) (hmem : event ∈ events)
    (hcloses : event.closes? = some id) : Finished e' id := by
  rcases heffect.of_closes hmem hcloses with ⟨rfl, hnext, hsame⟩ | ⟨r, op, found, rfl⟩
  · refine ⟨hnext ▸ Nat.lt_succ_self _, ?_⟩
    rw [hsame]
    exact h.absent_next.1
  · refine ⟨h.numbered id op found, ?_⟩
    rw [get?_operations_remove, if_pos rfl]

/-- **Run.**  Whatever has ended or was dropped is finished. -/
theorem finished_of_ended {r : Registry} {stimuli : List Stimulus} {e : Engine}
    {events : List Event} {event : Event} {id : Nat} (h : Trace r stimuli e events)
    (hmem : event ∈ events) (hcloses : event.closes? = some id) : Finished e id := by
  induction h with
  | start => cases hmem
  | step before s ih =>
      rcases List.mem_append.mp hmem with hpast | hnow
      · exact (ih hpast).effect (effect_step _ s)
      · exact (owned_trace before).finished (effect_step _ s) hnow hcloses

/-- The poller of a finished operation was cancelled. -/
theorem Finished.cancelled {e : Engine} {id : Nat} {p : Poller} (h : Finished e id)
    (hown : Owned e) (found : e.pollers.get? id = some p) : p.cancelled = true := by
  cases hlive : p.cancelled with
  | true => rfl
  | false =>
      obtain ⟨op, hop⟩ := hown.followed id p found hlive
      cases h.2.symm.trans hop

/-- The poller of a finished operation is served nothing, and what wakes it
leaves the registry alone. -/
theorem Finished.silent {e e' : Engine} {s : Stimulus} {events : List Event} {id : Nat}
    (h : Finished e id) (hown : Owned e) (heffect : Effect e s e' events) :
    (∀ job answer, Event.served id job answer ∉ events) ∧
      ∀ signal, s = .woken id signal → e'.registry = e.registry := by
  have hcancelled : ∀ p, e.pollers.get? id = some p → p.cancelled = false → False := by
    intro p found live
    cases (h.cancelled hown found).symm.trans live
  refine ⟨?_, ?_⟩
  · intro job answer hmem
    obtain ⟨_, p, found, _, _, live⟩ := heffect.of_served hmem
    exact hcancelled p found live
  · rintro signal rfl
    cases heffect with
    | heard found asking live => exact (hcancelled _ found live).elim
    | _ => rfl

/-- **Run.**  From then on the poller is never served again and never reaches the
registry. -/
theorem Finished.run {e : Engine} {id : Nat} (h : Finished e id) (hown : Owned e)
    (rest : List Stimulus) :
    (∀ job answer, Event.served id job answer ∉ (e.run rest).2) ∧
      ∀ signal, ((e.run rest).1.step (.woken id signal)).1.registry =
        (e.run rest).1.registry := by
  induction rest generalizing e with
  | nil =>
      refine ⟨fun _ _ => List.not_mem_nil, fun signal => ?_⟩
      exact (h.silent hown (effect_step e (.woken id signal))).2 signal rfl
  | cons s more ih =>
      have heffect := effect_step e s
      obtain ⟨hmore, hstep⟩ := ih (h.effect heffect) (hown.effect heffect)
      refine ⟨?_, hstep⟩
      intro job answer hmem
      rcases List.mem_append.mp hmem with hhere | hthere
      · exact (h.silent hown heffect).1 job answer hhere
      · exact hmore job answer hthere

/-- **One owner for each record, and no poller outlives its operation.**  In every
engine that is reached, whatever comes next, a record that is there stays as it
is, or the one operation that holds the marker of its volume has changed its own
part of it, itself or through its poller, as long as jobs are accepted as they were
ordered.  And once an operation has ended or was dropped, its poller is never served
an answer again and never again changes the registry. -/
theorem records_have_one_owner (r : Registry) (stimuli : List Stimulus) :
    let e := ((ofRegistry r).run stimuli).1
    (KeepsJobs ((ofRegistry r).run stimuli).2 →
      ∀ s name v, e.registry.volume? name = some v →
        ∃ v', (e.step s).1.registry.volume? name = some v' ∧
          (v' = v ∨ ∃ id op, e.actor? s = some id ∧
            (e.step s).1.operations.get? id = some op ∧ op.marker? = some name ∧
            (e.step s).1.registry.inFlight name ∧
            (∀ k other, (e.step s).1.operations.get? k = some other →
              other.marker? = some name → k = id) ∧
            op.Alters v v')) ∧
      ∀ event ∈ ((ofRegistry r).run stimuli).2, ∀ id, event.closes? = some id → ∀ rest,
        (∀ job answer, Event.served id job answer ∉ (e.run rest).2) ∧
          ∀ signal, ((e.run rest).1.step (.woken id signal)).1.registry =
            (e.run rest).1.registry := by
  intro e
  have htrace := trace_run r stimuli
  have hown := owned_trace htrace
  refine ⟨?_, ?_⟩
  · intro hkeeps s name v hv
    have heffect := effect_step e s
    have hafter := hown.effect heffect
    obtain ⟨v', hv', hsame | ⟨id, op, hactor, hop, hmarker, halters⟩⟩ :=
      alters_step hown (jobsKept_trace htrace hkeeps) heffect hv
    · exact ⟨v', hv', .inl hsame⟩
    · refine ⟨v', hv', .inr ⟨id, op, hactor, hop, hmarker, ?_, ?_, halters⟩⟩
      · exact hafter.holds id op name hop hmarker
      · intro k other hk hother
        exact hafter.apart k id other op name hk hop hother hmarker
  · intro event hmem id hcloses rest
    exact (finished_of_ended htrace hmem hcloses).run hown rest

/-- A registry that knows one volume. -/
def oneVolume : Registry := Registry.empty.insert (.fresh "pvc-1" "apps" "cstor")

/-- A backup of that volume, up to the start of its transfer. -/
def backupUnderWay : List Stimulus :=
  [.ordered (.default "mover:9000") (.backup "pvc-1" "daily-01"),
    .signalled 0 (.answered (.preserved (.ok ()))),
    .signalled 0 (.answered (.accepted (.ok ⟨.backup, "daily-01", "pvc-1", "apps"⟩)))]

theorem records_have_one_owner_daily :
    KeepsJobs ((ofRegistry oneVolume).run backupUnderWay).2 ∧
      ∃ (id : Nat) (op : Operation), ((ofRegistry oneVolume).run backupUnderWay).1.actor?
          (.woken 0 (.answered (.ok .done))) = some id ∧
        op.marker? = some "pvc-1" ∧
        op.Alters ⟨"pvc-1", "apps", "cstor", "daily-01", .pending, .pending⟩
          ⟨"pvc-1", "apps", "cstor", "daily-01", .done, .pending⟩ := by
  have hkeeps : KeepsJobs ((ofRegistry oneVolume).run backupUnderWay).2 := by decide
  obtain ⟨v', hv', hor⟩ := (records_have_one_owner oneVolume backupUnderWay).1 hkeeps
    (.woken 0 (.answered (.ok .done))) "pvc-1"
    ⟨"pvc-1", "apps", "cstor", "daily-01", .pending, .pending⟩ rfl
  cases hv'
  rcases hor with hsame | ⟨id, op, hactor, _, hmarker, _, _, halters⟩
  · cases hsame
  · exact ⟨hkeeps, id, op, hactor, hmarker, halters⟩

end Engine

end SnapshotEngine
