import SnapshotEngine.Proofs.Depot.Moved
import SnapshotEngine.Proofs.Rehearsal.World
import SnapshotEngine.Rehearsal.Script

/-!
# A rehearsal is a run

The engine of a rehearsal and its object store go through a run of a depot.  The
script, the clock and the other players only choose which run it is.

* `Leads` — one depot comes of another in a run;
* `leads_of_effect` — whatever happens at an instant is a step of such a run;
* `leads_run`, `run_of_rehearsal` — and so is every rehearsal that leaves the registry
  to the engine.
-/

namespace SnapshotEngine

/-- The engine of a rehearsal with the store of its cast. -/
def World.depot (w : World Cast) : Depot := ⟨w.engine, w.site.store⟩

theorem World.eq_depot {w : World Cast} {d : Depot} (engine : w.engine = d.engine)
    (store : w.site.store = d.store) : d = w.depot := by
  unfold depot
  rw [engine, store]

/-- An answer says that an object was moved only if it was, and no other answer
touches the store. -/
theorem Cast.of_answer? {c c' : Cast} {call : Call} {answer : Answer}
    (h : c.answer? call = some (answer, c')) :
    (∃ action object done, call = .move action object ∧ answer = .moved done ∧
        c.store.move object action = some (done, c'.store)) ∨
      ((∀ done, answer ≠ .moved done) ∧ c'.store = c.store) := by
  cases call with
  | move action object =>
      left
      obtain ⟨⟨done, store⟩, hmove, heq⟩ := Option.map_eq_some_iff.mp h
      cases heq
      exact ⟨action, object, done, rfl, rfl, hmove⟩
  | _ =>
      right
      cases h
      exact ⟨nofun, rfl⟩

namespace Depot

/-- One depot comes of another in a run whose stimuli fit. -/
def Leads (namer : ObjectNamer) (d d' : Depot) : Prop :=
  ∃ stimuli, (∀ s ∈ stimuli, s.fits namer) ∧ (d.run stimuli).1 = d'

theorem Leads.refl (namer : ObjectNamer) (d : Depot) : Leads namer d d :=
  ⟨[], by simp, rfl⟩

theorem Leads.trans {namer : ObjectNamer} {d₁ d₂ d₃ : Depot} (h : Leads namer d₁ d₂)
    (h' : Leads namer d₂ d₃) : Leads namer d₁ d₃ := by
  obtain ⟨first, hfirst, rfl⟩ := h
  obtain ⟨rest, hrest, rfl⟩ := h'
  refine ⟨first ++ rest, ?_, ?_⟩
  · intro s hs
    rcases List.mem_append.mp hs with hs | hs
    · exact hfirst s hs
    · exact hrest s hs
  · rw [run_append]

/-- A step is a short run. -/
theorem Leads.step {namer : ObjectNamer} {d d' : Depot} {s : Stimulus} (hfits : s.fits namer)
    (h : (d.step s).1 = d') : Leads namer d d' := by
  refine ⟨[s], ?_, h⟩
  intro t ht
  cases List.mem_singleton.mp ht
  exact hfits

/-- What reaches the engine and ends no transfer is a step of a run. -/
theorem leads_of_quiet {namer : ObjectNamer} {w after : World Cast}
    {s : SnapshotEngine.Stimulus} (hfits : (Stimulus.toEngine s).fits namer)
    (hquiet : ∀ id done, s ≠ .signalled id (.answered (.moved done)))
    (engine : after.engine = (w.engine.step s).1) (store : after.site.store = w.site.store) :
    Leads namer w.depot after.depot := by
  have hstep : (w.depot.step (.toEngine s)).1 = { w.depot with engine := (w.engine.step s).1 } :=
    congrArg Prod.fst (step_toEngine hquiet)
  exact .step hfits (hstep.trans (World.eq_depot engine store))

/-- **Step.**  Whatever happens at an instant is a step of a run. -/
theorem leads_of_effect {w after : World Cast} (namer : ObjectNamer)
    (h : World.Effect Cast.backend w after) : Leads namer w.depot after.depot := by
  cases h with
  | ripe ripe engine site =>
      have hstore : after.site.store = w.site.store := by rw [site]
      rcases World.of_ripeSignal? ripe with rfl | ⟨signal, rfl, hother⟩
      · exact leads_of_quiet rfl (fun _ _ heq => by cases heq) engine hstore
      · refine leads_of_quiet rfl ?_ engine hstore
        intro k done heq
        cases heq
        exact hother _ rfl
  | answered found waited answers engine =>
      rename_i id op call answer
      rcases Cast.of_answer? answers with ⟨action, object, done, rfl, rfl, hmove⟩ | ⟨hother, hstore⟩
      · have hfits : (Stimulus.toEngine (.signalled id (.answered (.moved done)))).fits namer := rfl
        exact .step hfits ((congrArg Prod.fst (step_moved found waited hmove)).trans
          (World.eq_depot engine rfl))
      · refine leads_of_quiet rfl ?_ engine hstore
        intro k done heq
        cases heq
        exact hother done rfl
  | arrived engine site =>
      rename_i call
      cases call with
      | move action object =>
          have hfits : (Stimulus.arrived action object).fits namer := rfl
          exact .step hfits (World.eq_depot engine (by rw [site]; rfl))
      | _ =>
          have hsame : w.depot = after.depot := World.eq_depot engine (by rw [site]; rfl)
          exact hsame ▸ Leads.refl namer w.depot
  | woken engine site =>
      have hstore : after.site.store = w.site.store := by rw [site]
      exact leads_of_quiet rfl (fun _ _ heq => by cases heq) engine hstore
  | asked answers engine =>
      have hsite := (Prod.mk.inj (Option.some.inj answers)).2
      have hstore : after.site.store = w.site.store := by rw [← hsite]
      exact leads_of_quiet rfl (fun _ _ heq => by cases heq) engine hstore

/-- **Run.**  Any time that passes is a run. -/
theorem leads_course (namer : ObjectNamer) :
    World.Course Cast.backend fun w after => Leads namer w.depot after.depot where
  refl w := .refl namer w.depot
  trans := .trans
  act h := leads_of_effect namer (World.effect_act h)
  clock w _ := .refl namer w.depot

/-! ## Scripts -/

/-- Whether a task leaves the registry to the engine and the objects to the store,
and names no volume with a slash. -/
def taskFits : Task → Bool
  | .deed (.registry _) | .deed (.store (.insert _)) => false
  | .order order _ => order.isFlat
  | _ => true

/-- A deed that fits is at most one step of a run. -/
theorem leads_perform {namer : ObjectNamer} {deed : Deed} (r : Rehearsal)
    (hfits : taskFits (.deed deed)) :
    Leads namer r.world.depot (r.perform deed).2.world.depot ∧
      (r.perform deed).2.settings = r.settings := by
  cases deed with
  | registry request => cases hfits
  | store cue =>
      refine ⟨@Leads.step _ _ _ (.toStore cue) ?_ rfl, rfl⟩
      cases cue with
      | insert object => cases hfits
      | _ => rfl
  | discover claim =>
      have hquiet : ∀ id done, SnapshotEngine.Stimulus.reported claim ≠
          .signalled id (.answered (.moved done)) := fun _ _ heq => by cases heq
      exact ⟨leads_of_quiet rfl hquiet rfl rfl, rfl⟩
  | plane cue => exact ⟨.refl .., rfl⟩
  | directory cue => exact ⟨.refl .., rfl⟩
  | delays query command transfer => exact ⟨.refl .., rfl⟩
  | volumeInfo name => exact ⟨.refl .., rfl⟩

theorem leads_begin {namer : ObjectNamer} {task : Task} (r : Rehearsal)
    (hnamer : r.settings.namer = namer) (hfits : taskFits task) :
    Leads namer r.world.depot (r.begin task).2.world.depot ∧
      (r.begin task).2.settings = r.settings := by
  cases task with
  | deed deed => exact leads_perform r hfits
  | sleep d => exact ⟨.refl .., rfl⟩
  | order order patience =>
      refine ⟨?_, rfl⟩
      have hordered : Leads namer r.world.depot
          (r.world.order Cast.backend r.settings order (patience.map (·.nanos))).depot := by
        have hsettled : (Stimulus.toEngine (.ordered r.settings order)).fits namer := by
          simpa [Stimulus.fits, taskFits, hnamer] using hfits
        refine leads_of_quiet hsettled (fun _ _ heq => by cases heq) (World.engine_feed ..) ?_
        rw [World.order, World.site_feed]
      exact hordered.trans ((leads_course namer).settleOperations _)

theorem leads_beginAll {namer : ObjectNamer} (tasks : List (Nat × Nat × Task)) (r : Rehearsal)
    (hnamer : r.settings.namer = namer) (hfits : ∀ entry ∈ tasks, taskFits entry.2.2) :
    Leads namer r.world.depot (r.beginAll tasks).2.world.depot ∧
      (r.beginAll tasks).2.settings = r.settings := by
  induction tasks generalizing r with
  | nil => exact ⟨.refl .., rfl⟩
  | cons entry more ih =>
      obtain ⟨index, start, task⟩ := entry
      have hwait := (leads_course namer).runTo r.world start
      obtain ⟨hbegin, hsettings⟩ :=
        leads_begin { r with world := r.world.runTo Cast.backend start } hnamer
          (hfits (index, start, task) List.mem_cons_self)
      obtain ⟨hmore, hkept⟩ := ih _ (hsettings ▸ hnamer)
        fun entry hmem => hfits entry (List.mem_cons_of_mem _ hmem)
      exact ⟨(hwait.trans hbegin).trans hmore, hkept.trans hsettings⟩

/-- A step of a script fits if all of its tasks do. -/
def StepFits (s : ScriptStep) : Prop :=
  ∀ start, ∀ entry ∈ Rehearsal.tasks start s, taskFits entry.2

theorem leads_step {namer : ObjectNamer} {s : ScriptStep} (r : Rehearsal)
    (hnamer : r.settings.namer = namer) (hfits : StepFits s) :
    Leads namer r.world.depot (r.step s).2.world.depot ∧
      (r.step s).2.settings = r.settings := by
  let numbered := (Rehearsal.tasks r.world.now s).zipIdx.map fun entry => (entry.2, entry.1)
  let inTime := numbered.mergeSort fun a b => decide (a.2.1 ≤ b.2.1)
  have htasks : ∀ entry ∈ inTime, taskFits entry.2.2 := by
    intro entry hmem
    obtain ⟨⟨task, index⟩, hindex, rfl⟩ := List.mem_map.mp (List.mem_mergeSort.mp hmem)
    exact hfits r.world.now task (List.fst_mem_of_mem_zipIdx hindex)
  obtain ⟨hbegin, hsettings⟩ := leads_beginAll inTime r hnamer htasks
  let begun := (r.beginAll inTime).2.world
  let finished := begun.runUntilOver Cast.backend (Rehearsal.runningIds (r.beginAll inTime).1)
  have hover : Leads namer begun.depot finished.depot := (leads_course namer).runUntilOver begun _
  have hawake : Leads namer finished.depot (r.step s).2.world.depot :=
    (leads_course namer).runTo finished (Rehearsal.lastWake (r.beginAll inTime).1)
  exact ⟨(hbegin.trans hover).trans hawake, hsettings⟩

/-- **Rehearsals are runs.**  In a rehearsal that leaves the registry to the engine, the
engine and its store have at any time come through a run of a depot. -/
theorem leads_run {namer : ObjectNamer} {steps : List ScriptStep} (r : Rehearsal)
    (hnamer : r.settings.namer = namer) (hfits : ∀ s ∈ steps, StepFits s) :
    ∀ entry ∈ r.run steps, Leads namer r.world.depot entry.2.world.depot := by
  induction steps generalizing r with
  | nil => simp [Rehearsal.run]
  | cons s rest ih =>
      intro entry hmem
      obtain ⟨hstep, hsettings⟩ := leads_step r hnamer (hfits s List.mem_cons_self)
      rcases List.mem_cons.mp hmem with rfl | hmem
      · exact hstep
      · exact hstep.trans (ih _ (hsettings ▸ hnamer)
          (fun t ht => hfits t (List.mem_cons_of_mem s ht)) entry hmem)

/-- The engine and the store of a rehearsal from its beginning. -/
theorem run_of_rehearsal (settings : Settings) (claims : Table String String)
    {steps : List ScriptStep} (hfits : ∀ s ∈ steps, StepFits s) :
    ∀ entry ∈ (Rehearsal.ofSettings settings claims).run steps,
      ∃ stimuli, (∀ s ∈ stimuli, s.fits settings.namer) ∧
        ((start .empty .empty).run stimuli).1 = entry.2.world.depot :=
  leads_run (Rehearsal.ofSettings settings claims) rfl hfits

end Depot

end SnapshotEngine
