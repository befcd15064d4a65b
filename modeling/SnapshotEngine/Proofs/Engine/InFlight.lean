import SnapshotEngine.Proofs.Engine.Calls

/-!
# Which volumes are being worked on

A marker is taken by the one operation that goes to work on a volume, and given
back when that operation ends or is dropped, whichever way that comes about.  So
the volumes that are marked are those of the operations in progress: of every
backup from its start on, and of every restore from the time on at which it orders
its job.  Whoever finds a marker taken ends there, and leaves everything as it was.

* `Engaged`, `Trace.engaged_iff` — who is at work on a volume, read off the events;
* `Exact`, `exact_trace` — no marker is left behind;
* `AsksFor`, `AsksFor.refused`, `Effect.asksFor` — who asks for a marker that
  is taken;
* `in_flight_is_exact` — all of it, for every run.
-/

namespace SnapshotEngine

namespace Operation

/-- An operation that orders the job of a restore holds the marker of the volume
that is to be filled. -/
theorem marker?_of_createRestore {op : Operation} {request : RestoreRequest}
    (h : op.call? = some (.createRestore request)) : op.marker? = some request.volumeId := by
  obtain ⟨t, target, rfl, hstage, rfl⟩ := of_call?_createRestore h
  simp only [marker?, hstage]
  rfl

/-- A restore that holds a marker and has no transfer yet orders its job. -/
theorem createRestore_of_marker? {t : Restore} {name : String}
    (hmarker : (restore t).marker? = some name) (hc : (restore t).confirmation? = none) :
    ∃ request, (restore t).call? = some (.createRestore request) ∧ request.volumeId = name := by
  cases hstage : t.stage with
  | provisioning => simp [marker?, hstage] at hmarker
  | confirming target c => simp [confirmation?, hstage] at hc
  | ordering target =>
      simp only [marker?, hstage, Option.some.injEq] at hmarker
      exact ⟨t.request target, by simp only [call?, Restore.call?, hstage], hmarker⟩

/-- An operation that goes on keeps its marker, or takes one that was free. -/
theorem GoesOn.marker? {r r' : Registry} {op next : Operation} {signal : Signal}
    (h : op.GoesOn r signal r' next) :
    (r' = r ∧ next.marker? = op.marker?) ∨
      op.marker? = none ∧ next.confirmation? = none ∧
        ∃ job, next.marker? = some job.volumeId ∧ r.Takes r' job := by
  have hkept : next.job? = op.job? → next.marker? = op.marker? := by
    intro kept
    rw [marker?_eq, kept, marker?_eq]
  cases h with
  | approached before after kept => exact .inl ⟨rfl, hkept kept⟩
  | accepted before waited ordered kept after handle stage => exact .inl ⟨rfl, hkept kept⟩
  | continued before after advance kept => exact .inl ⟨rfl, hkept kept⟩
  | took free after holds unknown takes =>
      refine .inr ⟨?_, after, _, ?_, takes⟩
      · rw [marker?_eq, free]
        rfl
      · rw [marker?_eq, holds]
        rfl

end Operation

/-! ## Who is at work on a volume -/

/-- An operation in progress that is at work on a volume: it was ordered to back the
volume up, or it has ordered the job that is to fill the volume. -/
def Engaged (orders : List (Settings × Order)) (events : List Event) (id : Nat)
    (name : String) : Prop :=
  Live events id ∧
    ((∃ settings backupName, orders[id]? = some (settings, .backup name backupName)) ∨
      ∃ request, .called id (.createRestore request) ∈ events ∧ request.volumeId = name)

namespace Engine

/-- Whoever has ordered the job of a restore holds the marker of its volume, and no
restore holds a marker otherwise. -/
structure Marked (e : Engine) (events : List Event) : Prop where
  holds : ∀ id op request, e.operations.get? id = some op →
    .called id (.createRestore request) ∈ events → op.marker? = some request.volumeId
  asked : ∀ id t name, e.operations.get? id = some (.restore t) →
    (Operation.restore t).marker? = some name →
      ∃ request, .called id (.createRestore request) ∈ events ∧ request.volumeId = name
  /-- A restore without a volume has called for nothing but that volume. -/
  provided : ∀ id t call, e.operations.get? id = some (.restore t) → t.stage = .provisioning →
    .called id call ∈ events → call = .provision t.volumeId t.backupName

/-- **Step.** -/
theorem Marked.effect {e e' : Engine} {s : Stimulus} {past events : List Event}
    (h : Marked e past) (hfresh : ∀ call, .called e.next call ∉ past)
    (heffect : Effect e s e' events) : Marked e' (past ++ events) where
  holds id op request hop hmem := by
    rcases List.mem_append.mp hmem with hpast | hnow
    · cases heffect.operation hop with
      | started number registry start => exact absurd (number ▸ hpast) (hfresh _)
      | kept found unanswered => exact h.holds id op request found hpast
      | wentOn found registry resume =>
          have hbefore := h.holds id _ request found hpast
          rcases (Operation.goesOn_of_resume resume).marker? with ⟨_, hsame⟩ | ⟨hnone, _⟩
          · exact hsame.trans hbefore
          · cases hnone.symm.trans hbefore
    · obtain ⟨op', hop', hcall⟩ := heffect.of_called hnow
      cases hop.symm.trans hop'
      exact Operation.marker?_of_createRestore hcall
  asked id t name hop hmarker := by
    -- Whoever has taken a marker just now orders its job at once.
    have htaken : (Operation.restore t).confirmation? = none →
        (∀ call, (Operation.restore t).call? = some call → .called id call ∈ events) →
          ∃ request, .called id (.createRestore request) ∈ past ++ events ∧
            request.volumeId = name := by
      intro hc hcalled
      obtain ⟨request, hcall, hname⟩ := Operation.createRestore_of_marker? hmarker hc
      exact ⟨request, List.mem_append_right past (hcalled _ hcall), hname⟩
    have hbefore : ∀ t₀, e.operations.get? id = some (.restore t₀) →
        (Operation.restore t₀).marker? = some name →
          ∃ request, .called id (.createRestore request) ∈ past ++ events ∧
            request.volumeId = name := by
      intro t₀ found hmarker₀
      obtain ⟨request, hmem, hname⟩ := h.asked id t₀ name found hmarker₀
      exact ⟨request, List.mem_append_left events hmem, hname⟩
    cases heffect.operation hop with
    | started number registry start =>
        refine htaken (Operation.start_waits start).2.1 fun call hcall => ?_
        exact mem_callEvents.mpr ⟨call, hcall, rfl⟩
    | kept found unanswered => exact hbefore t found hmarker
    | wentOn found registry resume =>
        obtain ⟨t₀, rfl, _⟩ := Operation.restore_of_resume resume
        rcases (Operation.goesOn_of_resume resume).marker? with ⟨_, hsame⟩ | ⟨_, hc, _⟩
        · exact hbefore t₀ found (hsame.symm.trans hmarker)
        · refine htaken hc fun call hcall => List.mem_append_right _ ?_
          exact mem_callEvents.mpr ⟨call, hcall, rfl⟩
  provided id t call hop hstage hmem := by
    rcases List.mem_append.mp hmem with hpast | hnow
    · cases heffect.operation hop with
      | started number registry start => exact absurd (number ▸ hpast) (hfresh _)
      | kept found unanswered => exact h.provided id t call found hstage hpast
      | wentOn found registry resume =>
          obtain ⟨t₀, rfl, hgoes⟩ := Operation.restore_of_resume resume
          cases hgoes with
          | provided stage target =>
              obtain ⟨_, rfl, _⟩ := Restore.target_waits target
              cases hstage
          | accepted stage => cases hstage
          | continued stage advance => cases hstage
    · obtain ⟨op, hop', hcall⟩ := heffect.of_called hnow
      cases hop.symm.trans hop'
      simp only [Operation.call?, Restore.call?, hstage, Option.some.injEq] at hcall
      exact hcall.symm

/-- **Run.** -/
theorem marked_trace {r : Registry} {stimuli : List Stimulus} {e : Engine} {events : List Event}
    (h : Trace r stimuli e events) : Marked e events := by
  induction h with
  | start => refine ⟨?_, ?_, ?_⟩ <;> exact fun _ _ _ hop => (by cases hop)
  | step before s ih =>
      refine ih.effect ?_ (effect_step _ s)
      intro call hmem
      exact Nat.lt_irrefl _ (before.number_lt hmem rfl)

/-- **Who is at work.**  An operation is at work on a volume exactly if the engine
keeps it with the marker of that volume. -/
theorem Trace.engaged_iff {r : Registry} {stimuli : List Stimulus} {e : Engine}
    {events : List Event} (h : Trace r stimuli e events) (id : Nat) (name : String) :
    Engaged (ordersOf stimuli) events id name ↔
      ∃ op, e.operations.get? id = some op ∧ op.marker? = some name := by
  have hmarked := marked_trace h
  have hserving := serving_trace h
  constructor
  · rintro ⟨hlive, hwork⟩
    obtain ⟨op, hop⟩ := (h.live_iff id).mp hlive
    refine ⟨op, hop, ?_⟩
    rcases hwork with ⟨settings, backupName, horder⟩ | ⟨request, hmem, rfl⟩
    · obtain ⟨settings', order, horder', hserves⟩ := hserving.serves id op hop
      cases horder.symm.trans horder'
      obtain ⟨b, rfl, _, hvolume, _⟩ := hserves.by_backup
      exact congrArg some hvolume
    · exact hmarked.holds id op request hop hmem
  · rintro ⟨op, hop, hmarker⟩
    refine ⟨(h.live_iff id).mpr ⟨op, hop⟩, ?_⟩
    cases op with
    | backup b =>
        obtain ⟨settings, order, horder, hserves⟩ := hserving.serves id _ hop
        obtain ⟨rfl, _⟩ := hserves.of_backup
        cases hmarker
        exact .inl ⟨settings, b.backupName, horder⟩
    | restore t => exact .inr (hmarked.asked id t name hop hmarker)
    | removal d => cases hmarker

/-! ## No marker is left behind -/

/-- Every marker that is taken is held by an operation in progress. -/
def Exact (e : Engine) : Prop :=
  ∀ name, e.registry.inFlight name →
    ∃ id op, e.operations.get? id = some op ∧ op.marker? = some name

/-- Volumes and snapshots may change. -/
theorem Exact.of_held {e e' : Engine} (h : Exact e) (hheld : e'.registry.held = e.registry.held)
    (hoperations : e'.operations = e.operations) : Exact e' := by
  intro name hin
  have hbefore : e.registry.inFlight name := by
    unfold Registry.inFlight at hin ⊢
    rw [← hheld]
    exact hin
  rw [hoperations]
  exact h name hbefore

/-- An operation that is kept may take a marker, and gives up none. -/
theorem Exact.keep {e : Engine} {id : Nat} {r : Registry} {op : Operation} (h : Exact e)
    (hin : ∀ name, r.inFlight name → op.marker? = some name ∨ e.registry.inFlight name)
    (hkept : ∀ op₀ name, e.operations.get? id = some op₀ → op₀.marker? = some name →
      op.marker? = some name) : Exact (e.keep id r op) := by
  intro name hname
  rw [registry_keep] at hname
  have hmine : op.marker? = some name →
      ∃ k op', (e.keep id r op).operations.get? k = some op' ∧ op'.marker? = some name := by
    intro hmarker
    exact ⟨id, op, by rw [get?_operations_keep, if_pos rfl], hmarker⟩
  rcases hin name hname with hmarker | hbefore
  · exact hmine hmarker
  · obtain ⟨k, op', hop', hmarker⟩ := h name hbefore
    by_cases hk : id = k
    · subst hk
      exact hmine (hkept op' name hop' hmarker)
    · refine ⟨k, op', ?_, hmarker⟩
      rw [get?_operations_keep, if_neg hk]
      exact hop'

/-- An operation that is taken out takes its marker with it. -/
theorem Exact.remove {e : Engine} {id : Nat} {op : Operation} (h : Exact e)
    (found : e.operations.get? id = some op) : Exact (e.remove id op) := by
  intro name hname
  obtain ⟨hother, hbefore⟩ := (inFlight_remove e id op name).mp hname
  obtain ⟨k, op', hop', hmarker⟩ := h name hbefore
  refine ⟨k, op', ?_, hmarker⟩
  rw [get?_operations_remove, if_neg]
  · exact hop'
  · rintro rfl
    cases found.symm.trans hop'
    exact hother hmarker

/-- **Step.**  No step leaves a marker behind. -/
theorem Exact.effect {e e' : Engine} {s : Stimulus} {events : List Event} (h : Exact e)
    (hown : Owned e) (heffect : Effect e s e' events) : Exact e' := by
  cases heffect with
  | idle unordered => exact h
  | started start =>
      rename_i settings order r op
      have hnext : Exact { e with next := e.next + 1 } := h.of_held rfl rfl
      refine hnext.keep ?_ ?_
      · intro name hname
        rcases (Operation.start_waits start).2.2 with ⟨_, rfl⟩ | ⟨job, hjob, htakes⟩
        · exact .inr hname
        · rcases (htakes.inFlight name).mp hname with rfl | hbefore
          · refine .inl ?_
            rw [Operation.marker?_eq, hjob]
            rfl
          · exact .inr hbefore
      · intro op₀ name found
        cases hown.absent_next.1.symm.trans found
  | refused start =>
      obtain ⟨rfl, _⟩ := Operation.start_ends start
      exact h.of_held rfl rfl
  | looked => exact h.of_held (looked_discover _ _).keeps.2.2 rfl
  | wentOn found admits resume =>
      rcases (Operation.goesOn_of_resume resume).marker? with
        ⟨rfl, hsame⟩ | ⟨hnone, _, job, hmarker, htakes⟩
      · refine h.keep (fun _ => .inr) ?_
        intro op₀ name found' hmarker
        cases found.symm.trans found'
        exact hsame.trans hmarker
      · refine h.keep ?_ ?_
        · intro name hname
          rcases (htakes.inFlight name).mp hname with rfl | hbefore
          · exact .inl hmarker
          · exact .inr hbefore
        · intro op₀ name found' hmarker₀
          cases found.symm.trans found'
          cases hnone.symm.trans hmarker₀
  | ended found admits resume =>
      obtain ⟨_, hheld⟩ := (Operation.ends_of_resume resume).volumes_held
      exact (h.of_held hheld rfl : Exact { e with registry := _ }).remove found
  | dropped found => exact h.remove found
  | heard found asking live => exact h.of_held (Registry.snapshots_held_record _ _ _).2 rfl
  | unheard found asking live => exact h.of_held rfl rfl
  | unserved found => exact h.of_held rfl rfl

/-- Whoever is closed gives its marker back. -/
theorem Owned.released {e e' : Engine} {s : Stimulus} {events : List Event} {event : Event}
    {id : Nat} {op : Operation} {name : String} (h : Owned e) (heffect : Effect e s e' events)
    (found : e.operations.get? id = some op) (hmarker : op.marker? = some name)
    (hmem : event ∈ events) (hcloses : event.closes? = some id) :
    e'.registry.inFlight name = false := by
  rcases heffect.of_closes hmem hcloses with ⟨rfl, _, _⟩ | ⟨r, op', found', rfl⟩
  · cases h.absent_next.1.symm.trans found
  · cases found.symm.trans found'
    apply eq_false_of_ne_true
    intro hin
    exact ((inFlight_remove _ id op name).mp hin).1 hmarker

/-- **Run.** -/
theorem exact_trace {r : Registry} {stimuli : List Stimulus} {e : Engine} {events : List Event}
    (h : Trace r stimuli e events) (hfree : ∀ name, r.inFlight name = false) : Exact e := by
  induction h with
  | start =>
      intro name hname
      cases (hfree name).symm.trans hname
  | step before s ih => exact ih.effect (owned_trace before) (effect_step _ s)

/-! ## Markers that are taken -/

/-- The stimuli with which an operation comes to ask for the marker of a volume, all
that is checked before being in order: the order of a backup, and the volume that a
restore is given. -/
inductive AsksFor (e : Engine) : Stimulus → Nat → String → Prop where
  | backup {settings : Settings} {volumeId backupName snapshotId : String} {v : Volume}
      (known : e.registry.volume? volumeId = some v) (usable : Text.blank backupName = false)
      (encodes : SnapshotId.encode volumeId backupName = .ok snapshotId) :
      AsksFor e (.ordered settings (.backup volumeId backupName)) e.next volumeId
  | restore {id : Nat} {t : Restore} {provided : Volume}
      (found : e.operations.get? id = some (.restore t)) (stage : t.stage = .provisioning)
      (named : Text.blank provided.name = false)
      (claimed : Text.blank provided.claimNamespace = false) :
      AsksFor e (.signalled id (.answered (.provisioned (.ok provided)))) id provided.name

/-- **Refusal.**  Whoever asks for a marker that is taken is told so, and leaves the
registry, all other operations and all pollers as they are. -/
theorem AsksFor.refused {e : Engine} {s : Stimulus} {id : Nat} {name : String}
    (h : AsksFor e s id name) (hown : Owned e) (taken : e.registry.inFlight name) :
    .ended id (.error (.operationInProgress name)) ∈ (e.step s).2 ∧
      (e.step s).1.registry = e.registry ∧
      (∀ k, k ≠ id → (e.step s).1.operations.get? k = e.operations.get? k) ∧
      ∀ k, (e.step s).1.pollers.get? k = e.pollers.get? k := by
  cases h with
  | backup known usable encodes =>
      rename_i settings backupName snapshotId v
      have hstart : Operation.start e.registry settings (.backup name backupName) =
          .ends e.registry (.error (.operationInProgress name)) := by
        rw [Operation.start, Backup.start_inProgress_iff.mpr
          ⟨rfl, rfl, taken, ⟨v, known⟩, usable, snapshotId, encodes⟩]
        rfl
      simp [step, order, hstart]
  | restore found stage named claimed =>
      rename_i t provided
      have htarget : t.target e.registry provided =
          .ends e.registry (.error (.operationInProgress provided.name)) :=
        Restore.target_inProgress_iff.mpr ⟨rfl, rfl, taken, named, claimed⟩
      have hresume : (Operation.restore t).resume e.registry
          (.answered (.provisioned (.ok provided))) =
            some (.ends e.registry (.error (.operationInProgress provided.name))) := by
        simp only [Operation.resume, Restore.resume, stage, Option.map_some, htarget, Progress.map]
      have hmarker : (Operation.restore t).marker? = none := by
        simp only [Operation.marker?, stage]
      have habsent : e.pollers.get? id = none :=
        hown.poller_absent found (by simp only [Operation.confirmation?, stage])
      have hstep : e.step (.signalled id (.answered (.provisioned (.ok provided)))) =
          (e.remove id (.restore t),
            answerEvents id (.restore t) (.answered (.provisioned (.ok provided))) ++
              [.ended id (.error (.operationInProgress provided.name))]) := by
        simp only [step, signal, found, admits, if_true, hresume]
      rw [hstep]
      refine ⟨by simp, ?_, ?_, ?_⟩
      · simp only [remove, hmarker, cancelPoller]
      · intro k hk
        rw [get?_operations_remove, if_neg hk.symm]
      · intro k
        rw [get?_pollers_remove]
        split
        · rename_i heq
          rw [← heq, habsent]
          rfl
        · rfl

/-- Whoever is told that a marker is taken has asked for it. -/
theorem Effect.asksFor {e e' : Engine} {s : Stimulus} {events : List Event} {id : Nat}
    {name : String} (heffect : Effect e s e' events)
    (h : .ended id (.error (.operationInProgress name)) ∈ events) :
    AsksFor e s id name ∧ e.registry.inFlight name := by
  cases heffect.endedBy h with
  | refused number start =>
      subst number
      obtain ⟨volumeId, backupName, rfl, hstart⟩ := Operation.backup_of_start_inProgress start
      obtain ⟨_, rfl, hin, ⟨v, hv⟩, husable, snapshotId, hid⟩ :=
        Backup.start_inProgress_iff.mp hstart
      exact ⟨.backup hv husable hid, hin⟩
  | ended found admits resume =>
      obtain ⟨t, provided, rfl, rfl, hstage, htarget⟩ :=
        Operation.restore_of_resume_inProgress resume
      obtain ⟨_, rfl, hin, hnamed, hclaimed⟩ := Restore.target_inProgress_iff.mp htarget
      exact ⟨.restore found hstage hnamed hclaimed, hin⟩

/-- Whoever asks for a marker has called for nothing so far but for a volume to be
provided. -/
theorem AsksFor.called {r : Registry} {stimuli : List Stimulus} {e : Engine}
    {events : List Event} {s : Stimulus} {id : Nat} {name : String} {call : Call}
    (h : AsksFor e s id name) (htrace : Trace r stimuli e events)
    (hmem : .called id call ∈ events) :
    ∃ volumeId backupName, call = .provision volumeId backupName := by
  cases h with
  | backup known usable encodes => exact absurd (htrace.number_lt hmem rfl) (Nat.lt_irrefl _)
  | restore found stage named claimed =>
      exact ⟨_, _, (marked_trace htrace).provided id _ call found stage hmem⟩

/-- **Run.**  Whoever is told that a marker is taken calls for nothing afterwards. -/
theorem AsksFor.provisions {r : Registry} {stimuli : List Stimulus} {e : Engine}
    {events : List Event} {s : Stimulus} {id : Nat} {name : String} {call : Call}
    (h : AsksFor e s id name) (htrace : Trace r stimuli e events)
    (taken : e.registry.inFlight name) (rest : List Stimulus)
    (hmem : .called id call ∈ events ++ (e.run (s :: rest)).2) :
    ∃ volumeId backupName, call = .provision volumeId backupName := by
  have hown := owned_trace htrace
  have heffect := effect_step e s
  have hfinished := hown.finished heffect (h.refused hown taken).1 rfl
  rcases List.mem_append.mp hmem with hpast | hlater
  · exact h.called htrace hpast
  · rcases List.mem_append.mp hlater with hnow | hrest
    · obtain ⟨op, hop, _⟩ := heffect.of_called hnow
      cases hfinished.2.symm.trans hop
    · exact absurd hrest (hfinished.uncalled rest call)

/-- **The volumes being worked on are known exactly.**  In every engine that is
reached from a registry without markers, a volume is marked exactly if one operation
in progress is at work on it, never are there two, and its end, however it comes
about, gives the marker back; so there are no markers while no operation is in
progress.  Whoever asks for a marker is refused exactly if it is taken; then the
registry, all other operations and all pollers stay as they are, and nothing was or is
ever called for by the operation but the volume that was to be filled. -/
theorem in_flight_is_exact (r : Registry) (hfree : ∀ name, r.inFlight name = false)
    (stimuli : List Stimulus) :
    let e := ((ofRegistry r).run stimuli).1
    let events := ((ofRegistry r).run stimuli).2
    (∀ name, e.registry.inFlight name ↔ ∃! id, Engaged (ordersOf stimuli) events id name) ∧
      (∀ name i j, Engaged (ordersOf stimuli) events i name →
        Engaged (ordersOf stimuli) events j name → i = j) ∧
      (∀ s name id event, Engaged (ordersOf stimuli) events id name → event ∈ (e.step s).2 →
        event.closes? = some id → (e.step s).1.registry.inFlight name = false) ∧
      ((∀ id, ¬ Live events id) → ∀ name, e.registry.inFlight name = false) ∧
      ∀ s id name,
        (.ended id (.error (.operationInProgress name)) ∈ (e.step s).2 ↔
          AsksFor e s id name ∧ e.registry.inFlight name) ∧
        (AsksFor e s id name → e.registry.inFlight name →
          (e.step s).1.registry = e.registry ∧
          (∀ k, k ≠ id → (e.step s).1.operations.get? k = e.operations.get? k) ∧
          (∀ k, (e.step s).1.pollers.get? k = e.pollers.get? k) ∧
          ∀ rest call, .called id call ∈ ((ofRegistry r).run (stimuli ++ s :: rest)).2 →
            ∃ volumeId backupName, call = .provision volumeId backupName) := by
  intro e events
  have htrace : Trace r stimuli e events := trace_run r stimuli
  have hown := owned_trace htrace
  have hexact := exact_trace htrace hfree
  have hapart : ∀ name i j, Engaged (ordersOf stimuli) events i name →
      Engaged (ordersOf stimuli) events j name → i = j := by
    intro name i j hi hj
    obtain ⟨op, hop, hmarker⟩ := (htrace.engaged_iff i name).mp hi
    obtain ⟨op', hop', hmarker'⟩ := (htrace.engaged_iff j name).mp hj
    exact hown.apart i j op op' name hop hop' hmarker hmarker'
  have hinFlight : ∀ name, e.registry.inFlight name ↔
      ∃ id, Engaged (ordersOf stimuli) events id name := by
    intro name
    constructor
    · intro hin
      obtain ⟨id, hholds⟩ := hexact name hin
      exact ⟨id, (htrace.engaged_iff id name).mpr hholds⟩
    · rintro ⟨id, hengaged⟩
      obtain ⟨op, hop, hmarker⟩ := (htrace.engaged_iff id name).mp hengaged
      exact hown.holds id op name hop hmarker
  refine ⟨?_, hapart, ?_, ?_, ?_⟩
  · intro name
    rw [hinFlight]
    constructor
    · rintro ⟨id, hengaged⟩
      exact ⟨id, hengaged, fun j hj => hapart name j id hj hengaged⟩
    · rintro ⟨id, hengaged, _⟩
      exact ⟨id, hengaged⟩
  · intro s name id event hengaged hmem hcloses
    obtain ⟨op, hop, hmarker⟩ := (htrace.engaged_iff id name).mp hengaged
    exact hown.released (effect_step e s) hop hmarker hmem hcloses
  · intro hidle name
    apply eq_false_of_ne_true
    intro hin
    obtain ⟨id, hengaged⟩ := (hinFlight name).mp hin
    exact hidle id hengaged.1
  · intro s id name
    refine ⟨⟨(effect_step e s).asksFor, fun h => (h.1.refused hown h.2).1⟩, ?_⟩
    intro hasks htaken
    obtain ⟨_, hregistry, hothers, hpollers⟩ := hasks.refused hown htaken
    refine ⟨hregistry, hothers, hpollers, ?_⟩
    intro rest call hmem
    rw [run_append] at hmem
    exact hasks.provisions htrace htaken rest hmem

theorem in_flight_is_exact_daily :
    let e := ((ofRegistry oneVolume).run backupUnderWay).1
    let events := ((ofRegistry oneVolume).run backupUnderWay).2
    let second := Stimulus.ordered (.default "mover:9000") (.backup "pvc-1" "daily-02")
    (∀ name, oneVolume.inFlight name = false) ∧
      (∃! id, Engaged (ordersOf backupUnderWay) events id "pvc-1") ∧
      .ended 1 (.error (.operationInProgress "pvc-1")) ∈ (e.step second).2 ∧
      (e.step second).1.registry = e.registry ∧
      (e.step (.dropped 0)).1.registry.inFlight "pvc-1" = false := by
  intro e events second
  have hfree : ∀ name, oneVolume.inFlight name = false := fun _ => rfl
  have htaken : e.registry.inFlight "pvc-1" := by decide
  have hknown : e.registry.volume? "pvc-1" =
      some ⟨"pvc-1", "apps", "cstor", "daily-01", .pending, .pending⟩ := rfl
  have hencodes : SnapshotId.encode "pvc-1" "daily-02" = .ok "pvc-1-velero-bkp-daily-02" := by
    decide
  have hasks : AsksFor e second 1 "pvc-1" := .backup hknown (by decide) hencodes
  obtain ⟨hexact, _, hreleased, _, hrefused⟩ := in_flight_is_exact oneVolume hfree backupUnderWay
  obtain ⟨htold, hleaves⟩ := hrefused second 1 "pvc-1"
  have hengaged := (hexact "pvc-1").mp htaken
  refine ⟨hfree, hengaged, htold.mpr ⟨hasks, htaken⟩, (hleaves hasks htaken).1, ?_⟩
  refine hreleased (.dropped 0) "pvc-1" 0 (.dropped 0) ?_ ?_ rfl
  · exact ((trace_run oneVolume backupUnderWay).engaged_iff 0 "pvc-1").mpr ⟨_, rfl, rfl⟩
  · exact List.mem_singleton_self _

end Engine

end SnapshotEngine
