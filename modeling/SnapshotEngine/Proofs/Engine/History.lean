import SnapshotEngine.Proofs.Engine.Provenance
import SnapshotEngine.Proofs.Operation.Course

/-!
# The history of a removal

Whatever other operations do in between, the calls of a removal, the answers that
reached it and its end are those of its course, and its course starts with the
snapshot that is kept under its identifier, or else with what the identifier says.

* `callsOf`, `repliesTo`, `outcomeOf?` — the history of an operation;
* `Effect.bystander` — what happens to others leaves no trace in it;
* `Begins` — how a removal starts;
* `Courses`, `Courses.effect` — the history of a removal is its course;
* `Followed`, `followed_trace` — and so it is for all removals of a run.
-/

namespace SnapshotEngine

/-- The call that an event has an operation make. -/
def Event.calledBy? (id : Nat) : Event → Option Call
  | .called other call => if other = id then some call else none
  | _ => none

/-- The answer that an event brings to an operation. -/
def Event.repliedTo? (id : Nat) : Event → Option Answer
  | .answered other _ answer => if other = id then some answer else none
  | _ => none

/-- The outcome that an event ends an operation with. -/
def Event.endOf? (id : Nat) : Event → Option Outcome
  | .ended other outcome => if other = id then some outcome else none
  | _ => none

/-- The calls of an operation, one after another. -/
def callsOf (id : Nat) (events : List Event) : List Call :=
  events.filterMap (Event.calledBy? id)

/-- The answers to an operation, one after another. -/
def repliesTo (id : Nat) (events : List Event) : List Answer :=
  events.filterMap (Event.repliedTo? id)

/-- How an operation has ended, if it has. -/
def outcomeOf? (id : Nat) (events : List Event) : Option Outcome :=
  events.findSome? (Event.endOf? id)

theorem mem_callsOf {id : Nat} {events : List Event} {call : Call} :
    call ∈ callsOf id events ↔ .called id call ∈ events := by
  unfold callsOf
  rw [List.mem_filterMap]
  constructor
  · rintro ⟨event, hmem, hcall⟩
    cases event with
    | called other call' =>
        simp only [Event.calledBy?, Option.ite_none_right_eq_some, Option.some.injEq] at hcall
        obtain ⟨rfl, rfl⟩ := hcall
        exact hmem
    | _ => cases hcall
  · intro hmem
    exact ⟨_, hmem, if_pos rfl⟩

theorem callsOf_append (id : Nat) (past later : List Event) :
    callsOf id (past ++ later) = callsOf id past ++ callsOf id later :=
  List.filterMap_append

theorem repliesTo_append (id : Nat) (past later : List Event) :
    repliesTo id (past ++ later) = repliesTo id past ++ repliesTo id later :=
  List.filterMap_append

theorem outcomeOf?_append (id : Nat) (past later : List Event) :
    outcomeOf? id (past ++ later) = (outcomeOf? id past).or (outcomeOf? id later) :=
  List.findSome?_append

theorem history_cons_answered (id : Nat) (call : Call) (answer : Answer) (later : List Event) :
    callsOf id (.answered id call answer :: later) = callsOf id later ∧
      repliesTo id (.answered id call answer :: later) = answer :: repliesTo id later ∧
        outcomeOf? id (.answered id call answer :: later) = outcomeOf? id later := by
  refine ⟨rfl, ?_, rfl⟩
  exact List.filterMap_cons_some (if_pos rfl)

/-- Events about others are no part of the history of an operation. -/
theorem history_eq_nil {id : Nat} {events : List Event}
    (h : ∀ event ∈ events, event.number? ≠ some id) :
    callsOf id events = [] ∧ repliesTo id events = [] ∧ outcomeOf? id events = none := by
  have hother : ∀ event ∈ events, event.calledBy? id = none ∧ event.repliedTo? id = none ∧
      event.endOf? id = none := by
    intro event hmem
    have hne := h event hmem
    cases event with
    | called other call => exact ⟨if_neg fun heq => hne (congrArg some heq), rfl, rfl⟩
    | answered other call answer => exact ⟨rfl, if_neg fun heq => hne (congrArg some heq), rfl⟩
    | ended other outcome => exact ⟨rfl, rfl, if_neg fun heq => hne (congrArg some heq)⟩
    | served | dropped | discovered => exact ⟨rfl, rfl, rfl⟩
  exact ⟨List.filterMap_eq_nil_iff.mpr fun event hmem => (hother event hmem).1,
    List.filterMap_eq_nil_iff.mpr fun event hmem => (hother event hmem).2.1,
    List.findSome?_eq_none_iff.mpr fun event hmem => (hother event hmem).2.2⟩

namespace Engine

/-- The operation that a stimulus starts, resumes or drops. -/
def subject? (e : Engine) : Stimulus → Option Nat
  | .ordered _ _ => some e.next
  | .signalled id _ | .dropped id => some id
  | .reported _ | .woken _ _ => none

/-- **Bystanders.**  What happens to others leaves an operation as it is, and none of
it is seen of the operation. -/
theorem Effect.bystander {e e' : Engine} {s : Stimulus} {events : List Event} {k : Nat}
    (h : Effect e s e' events) (hk : e.subject? s ≠ some k) :
    e'.operations.get? k = e.operations.get? k ∧ ∀ event ∈ events, event.number? ≠ some k := by
  have hcalled : ∀ id op, id ≠ k → ∀ event ∈ callEvents id op, event.number? ≠ some k := by
    intro id op hne event hmem
    obtain ⟨call, _, rfl⟩ := mem_callEvents.mp hmem
    exact fun heq => hne (Option.some.inj heq)
  have hanswered : ∀ id op signal, id ≠ k → ∀ event ∈ answerEvents id op signal,
      event.number? ≠ some k := by
    intro id op signal hne event hmem
    obtain ⟨call, answer, _, _, rfl⟩ := mem_answerEvents.mp hmem
    exact fun heq => hne (Option.some.inj heq)
  have hsubject : ∀ id, e.subject? s = some id → id ≠ k := by
    rintro id hid rfl
    exact hk hid
  cases h with
  | idle unordered => exact ⟨rfl, by simp⟩
  | started start =>
      have hne := hsubject _ rfl
      exact ⟨by rw [get?_operations_keep, if_neg hne], hcalled _ _ hne⟩
  | refused start =>
      refine ⟨rfl, ?_⟩
      rw [List.forall_mem_singleton]
      exact fun heq => hsubject _ rfl (Option.some.inj heq)
  | wentOn found admits resume =>
      have hne := hsubject _ rfl
      refine ⟨by rw [get?_operations_keep, if_neg hne], ?_⟩
      rw [List.forall_mem_append]
      exact ⟨hanswered _ _ _ hne, hcalled _ _ hne⟩
  | ended found admits resume =>
      have hne := hsubject _ rfl
      refine ⟨by rw [get?_operations_remove, if_neg hne], ?_⟩
      rw [List.forall_mem_append, List.forall_mem_singleton]
      exact ⟨hanswered _ _ _ hne, fun heq => hne (Option.some.inj heq)⟩
  | dropped found =>
      have hne := hsubject _ rfl
      refine ⟨by rw [get?_operations_remove, if_neg hne], ?_⟩
      rw [List.forall_mem_singleton]
      exact fun heq => hne (Option.some.inj heq)
  | looked | heard | unheard => exact ⟨rfl, by simp [Event.number?]⟩
  | unserved => exact ⟨rfl, by simp⟩

/-- How a removal starts: with the snapshot that is kept, which was backed up and has
the namespace of its volume, or with what its identifier says, or not at all. -/
inductive Begins (orders : List (Settings × Order)) (e : Engine) (events : List Event)
    (snapshotId : String) : RemovalStage ⊕ Outcome → Prop where
  | cached {s : Snapshot} (settings : Settings)
      (source : BackedUp orders events snapshotId s.volumeId s.backupName)
      (housed : ∃ v, e.registry.volume? s.volumeId = some v ∧
        v.claimNamespace = s.claimNamespace) :
      Begins orders e events snapshotId
        (Removal.standing (Removal.retract .empty settings "" s))
  | read {volumeId backupName : String}
      (decode : SnapshotId.decode snapshotId = .ok (volumeId, backupName)) :
      Begins orders e events snapshotId (.inl (.locating volumeId backupName))
  | malformed {cause : IdentifierError} (decode : SnapshotId.decode snapshotId = .error cause) :
      Begins orders e events snapshotId (.inr (.error (.malformedIdentifier cause)))

/-- What a removal has started with stays what it was. -/
theorem Begins.effect {orders : List (Settings × Order)} {e e' : Engine} {s : Stimulus}
    {past events : List Event} {snapshotId : String} {start : RemovalStage ⊕ Outcome}
    (h : Begins orders e past snapshotId start) (heffect : Effect e s e' events)
    (later : List (Settings × Order)) :
    Begins (orders ++ later) e' (past ++ events) snapshotId start := by
  cases h with
  | read decode => exact .read decode
  | malformed decode => exact .malformed decode
  | cached settings source housed =>
      obtain ⟨v, hv, hnamespace⟩ := housed
      obtain ⟨v', hv', hsame⟩ := heffect.registered hv
      exact .cached settings (source.append later events)
        ⟨v', hv', hsame.claimNamespace.trans hnamespace⟩

/-- A removal that is ordered starts in one of these ways. -/
theorem begins_of_start {orders : List (Settings × Order)} {e : Engine} {events : List Event}
    (hsourced : Sourced orders e events) (hhoused : Housed e) (settings : Settings)
    (snapshotId : String) :
    Begins orders e events snapshotId
      (Removal.standing (Removal.start e.registry settings snapshotId)) := by
  unfold Removal.start
  cases hsnapshot : e.registry.snapshot? snapshotId with
  | some s =>
      dsimp only
      rw [Removal.standing_retract, ← Removal.standing_retract .empty settings "" s]
      exact .cached settings (hsourced.cached snapshotId s hsnapshot)
        (hhoused.cached snapshotId s hsnapshot)
  | none =>
      dsimp only
      cases hdecode : SnapshotId.decode snapshotId with
      | error cause => exact .malformed hdecode
      | ok parts => exact .read hdecode

/-- The history of a removal from its start on: the calls, the answers, the end, and where
it stands while it is in progress. -/
structure Courses (e : Engine) (events : List Event) (j : Nat) (settings : Settings)
    (start stands : RemovalStage ⊕ Outcome) : Prop where
  course : Removal.course settings start (repliesTo j events) = some (callsOf j events, stands)
  outcome : outcomeOf? j events = stands.getRight?
  stage : ∀ op, e.operations.get? j = some op → ∃ d, op = .removal d ∧ stands = .inl d.stage

/-- The history of a removal, and how it starts. -/
structure Follows (orders : List (Settings × Order)) (e : Engine) (events : List Event) (j : Nat)
    (settings : Settings) (snapshotId : String) (start stands : RemovalStage ⊕ Outcome) :
    Prop extends Courses e events j settings start stands where
  begins : Begins orders e events snapshotId start

/-- Every removal that was ordered has a history. -/
def Followed (orders : List (Settings × Order)) (e : Engine) (events : List Event) : Prop :=
  ∀ j settings snapshotId, orders[j]? = some (settings, .removal snapshotId) →
    ∃ start stands, Follows orders e events j settings snapshotId start stands

/-- A removal always waits for a call. -/
theorem callEvents_removal (j : Nat) (d : Removal) :
    ∃ call, d.call? = some call ∧ callEvents j (.removal d) = [.called j call] ∧
      Removal.callsAt d.settings (.inl d.stage) = [call] ∧
        ∀ answer, answerEvents j (.removal d) (.answered answer) = [.answered j call answer] := by
  obtain ⟨settings, snapshotId, stage⟩ := d
  cases stage <;> exact ⟨_, rfl, rfl, rfl, fun _ => rfl⟩

/-- A removal that is in progress has come there with an answer. -/
theorem answered_of_resume {r : Registry} {d : Removal} {signal : Signal} {p : Progress Removal}
    (h : d.resume r signal = some p) : ∃ answer, signal = .answered answer := by
  rcases Removal.goesOn_or_ends_of_resume h with ⟨d', _, hgoes⟩ | ⟨r', outcome, _, hends⟩
  · cases hgoes <;> exact ⟨_, rfl⟩
  · cases hends <;> exact ⟨_, rfl⟩

/-- A step that adds nothing to the history of a removal leaves it as it is. -/
theorem Courses.unmoved {e e' : Engine} {past events : List Event} {j : Nat}
    {settings : Settings} {start stands : RemovalStage ⊕ Outcome}
    (h : Courses e past j settings start stands)
    (hsilent : callsOf j events = [] ∧ repliesTo j events = [] ∧ outcomeOf? j events = none)
    (hstays : ∀ op, e'.operations.get? j = some op → e.operations.get? j = some op) :
    Courses e' (past ++ events) j settings start stands := by
  obtain ⟨hcalls, hreplies, houtcome⟩ := hsilent
  refine ⟨?_, ?_, fun op hop => h.stage op (hstays op hop)⟩
  · rw [callsOf_append, repliesTo_append, hcalls, hreplies, List.append_nil, List.append_nil]
    exact h.course
  · rw [outcomeOf?_append, houtcome, Option.or_none]
    exact h.outcome

/-- **Start.** -/
theorem courses_of_start {e e' : Engine} {past : List Event} {settings : Settings}
    {snapshotId : String} {events : List Event} (hown : Owned e)
    (hnew : ∀ event ∈ past, event.number? ≠ some e.next)
    (heffect : Effect e (.ordered settings (.removal snapshotId)) e' events) :
    ∃ stands, Courses e' (past ++ events) e.next settings
      (Removal.standing (Removal.start e.registry settings snapshotId)) stands := by
  obtain ⟨hcalls, hreplies, houtcome⟩ := history_eq_nil hnew
  generalize hstarts : Removal.start e.registry settings snapshotId = starts
  have hstart : Operation.start e.registry settings (.removal snapshotId) =
      starts.map .removal := by rw [← hstarts]; rfl
  cases heffect with
  | idle unordered => cases unordered
  | refused start =>
      rw [hstart] at start
      cases starts with
      | waits r d => cases start
      | ends r outcome =>
          cases start
          rename_i r outcome
          refine ⟨.inr outcome, ?_, ?_, ?_⟩
          · rw [callsOf_append, repliesTo_append, hcalls, hreplies]
            rfl
          · rw [outcomeOf?_append, houtcome]
            simp [outcomeOf?, Event.endOf?]
          · intro op hop
            cases hown.absent_next.1.symm.trans hop
  | started start =>
      rw [hstart] at start
      cases starts with
      | ends r outcome => cases start
      | waits r d =>
          cases start
          obtain ⟨_, rfl, _⟩ := Removal.start_waits hstarts
          obtain ⟨call, _, hevents, hmade, _⟩ := callEvents_removal e.next d
          refine ⟨.inl d.stage, ?_, ?_, ?_⟩
          · have hcall : callsOf e.next [.called e.next call] = [call] := by
              simp [callsOf, Event.calledBy?]
            rw [callsOf_append, repliesTo_append, hcalls, hreplies, hevents, hcall, ← hmade]
            rfl
          · rw [outcomeOf?_append, houtcome, hevents]
            simp [outcomeOf?, Event.endOf?]
          · intro op hop
            rw [get?_operations_keep, if_pos rfl] at hop
            cases hop
            exact ⟨d, rfl, rfl⟩

/-- **Answers.**  An answer has the removal that waits for it follow its course. -/
theorem Courses.answered {e e' : Engine} {past events : List Event} {j : Nat} {d : Removal}
    {answer : Answer} {call : Call} {later : List Event}
    {start stands next : RemovalStage ⊕ Outcome} (h : Courses e past j d.settings start stands)
    (found : e.operations.get? j = some (.removal d))
    (hnext : (d.resume e.registry (.answered answer)).map Removal.standing = some next)
    (hevents : events = .answered j call answer :: later)
    (hlater : callsOf j later = Removal.callsAt d.settings next ∧ repliesTo j later = [] ∧
      outcomeOf? j later = next.getRight?)
    (hstage : ∀ op, e'.operations.get? j = some op →
      ∃ d', op = .removal d' ∧ next = .inl d'.stage) :
    Courses e' (past ++ events) j d.settings start next := by
  obtain ⟨hcalls, hreplies, houtcome⟩ := hlater
  obtain ⟨hcall, hreply, hending⟩ := history_cons_answered j call answer later
  obtain ⟨_, heq, rfl⟩ := h.stage _ found
  cases heq
  refine ⟨?_, ?_, hstage⟩
  · rw [callsOf_append, repliesTo_append, hevents, hcall, hreply, hcalls, hreplies,
      Removal.course_concat, h.course, Option.bind_some, Removal.follow,
      ← Removal.standing_resume e.registry, hnext, Option.map_some]
  · rw [outcomeOf?_append, h.outcome, hevents, hending, houtcome]
    rfl

/-- **Signals.** -/
theorem Courses.signalled {e e' : Engine} {past events : List Event} {j : Nat}
    {settings : Settings} {signal : Signal} {start stands : RemovalStage ⊕ Outcome}
    (h : Courses e past j settings start stands)
    (hsettings : ∀ d, e.operations.get? j = some (.removal d) → d.settings = settings)
    (heffect : Effect e (.signalled j signal) e' events) :
    ∃ stands, Courses e' (past ++ events) j settings start stands := by
  cases heffect with
  | idle unordered => exact ⟨stands, h.unmoved ⟨rfl, rfl, rfl⟩ fun op hop => hop⟩
  | wentOn found admits resume =>
      rename_i op next r
      obtain ⟨d, rfl, _⟩ := h.stage op found
      cases hsettings d found
      obtain ⟨d', hp, rfl⟩ := Progress.some_waits_of_map resume
      obtain ⟨answer, rfl⟩ := answered_of_resume hp
      obtain ⟨call, _, _, _, hanswer⟩ := callEvents_removal j d
      obtain ⟨call', _, hmade, hcalls, _⟩ := callEvents_removal j d'
      refine ⟨.inl d'.stage, h.answered found (by rw [hp]; rfl)
        (by rw [hanswer]; rfl) ⟨?_, ?_, ?_⟩ ?_⟩
      · rw [hmade, ← (Removal.goesOn_of_resume hp).2.same.1, hcalls]
        simp [callsOf, Event.calledBy?]
      · rw [hmade]
        rfl
      · rw [hmade]
        rfl
      · intro op hop
        rw [get?_operations_keep, if_pos rfl] at hop
        cases hop
        exact ⟨d', rfl, rfl⟩
  | ended found admits resume =>
      rename_i op r outcome
      obtain ⟨d, rfl, _⟩ := h.stage op found
      cases hsettings d found
      have hp := Progress.some_ends_of_map resume
      obtain ⟨answer, rfl⟩ := answered_of_resume hp
      obtain ⟨call, _, _, _, hanswer⟩ := callEvents_removal j d
      refine ⟨.inr outcome, h.answered found (by rw [hp]; rfl)
        (by rw [hanswer]; rfl) ⟨rfl, rfl, ?_⟩ ?_⟩
      · simp [outcomeOf?, Event.endOf?]
      · intro op hop
        rw [get?_operations_remove, if_pos rfl] at hop
        cases hop

/-- **Step.**  A removal that was ordered before follows its course. -/
theorem Courses.effect {orders : List (Settings × Order)} {e e' : Engine} {s : Stimulus}
    {past events : List Event} {j : Nat} {settings : Settings} {snapshotId : String}
    {start stands : RemovalStage ⊕ Outcome} (h : Courses e past j settings start stands)
    (hserving : Serving orders e past)
    (horder : orders[j]? = some (settings, .removal snapshotId))
    (heffect : Effect e s e' events) :
    ∃ stands, Courses e' (past ++ events) j settings start stands := by
  have hj : j ≠ e.next := by
    rw [hserving.placed]
    exact Nat.ne_of_lt (List.getElem?_eq_some_iff.mp horder).1
  by_cases hsubject : e.subject? s = some j
  · -- The step is about this very operation.
    cases s with
    | reported claim => cases hsubject
    | woken id signal => cases hsubject
    | ordered settings' order => exact absurd (Option.some.inj hsubject).symm hj
    | dropped id =>
        cases hsubject
        refine ⟨stands, h.unmoved ?_ ?_⟩
        · cases heffect <;> exact ⟨rfl, rfl, rfl⟩
        · intro op hop
          cases heffect with
          | idle unordered => exact hop
          | dropped found =>
              rw [get?_operations_remove, if_pos rfl] at hop
              cases hop
    | signalled id signal =>
        cases hsubject
        refine h.signalled (fun d found => ?_) heffect
        obtain ⟨settings', order, horder', hserves⟩ := hserving.serves j _ found
        cases horder.symm.trans horder'
        exact hserves.1
  · obtain ⟨hsame, hsilent⟩ := heffect.bystander hsubject
    exact ⟨stands, h.unmoved (history_eq_nil hsilent) fun op hop => hsame ▸ hop⟩

/-- **Step.** -/
theorem Followed.effect {orders : List (Settings × Order)} {e e' : Engine} {s : Stimulus}
    {past events : List Event} (h : Followed orders e past) (hown : Owned e)
    (hserving : Serving orders e past) (hsourced : Sourced orders e past) (hhoused : Housed e)
    (hnumber : ∀ event ∈ past, event.number? ≠ some e.next) (heffect : Effect e s e' events) :
    Followed (orders ++ s.order?.toList) e' (past ++ events) := by
  intro j settings snapshotId horder
  by_cases hj : j < orders.length
  · have hbefore := (List.getElem?_append_left hj).symm.trans horder
    obtain ⟨start, stands, hfollows⟩ := h j settings snapshotId hbefore
    obtain ⟨stands', hcourses⟩ := hfollows.toCourses.effect hserving hbefore heffect
    exact ⟨start, stands', hcourses, hfollows.begins.effect heffect _⟩
  · -- The step orders this very operation.
    have hnew : s.order? = some (settings, .removal snapshotId) ∧ j = orders.length := by
      rw [List.getElem?_append_right (Nat.le_of_not_lt hj)] at horder
      have hlt := (List.getElem?_eq_some_iff.mp horder).1
      cases hs : s.order? with
      | none => simp [hs] at hlt
      | some placed =>
          simp only [hs, Option.toList_some, List.length_singleton] at hlt horder
          have hzero : j - orders.length = 0 := by omega
          rw [hzero] at horder
          exact ⟨horder, by omega⟩
    obtain ⟨hs, rfl⟩ := hnew
    cases s with
    | ordered settings' order =>
        cases hs
        rw [← hserving.placed]
        obtain ⟨stands, hcourses⟩ := courses_of_start hown hnumber heffect
        exact ⟨_, stands, hcourses,
          (begins_of_start hsourced hhoused settings snapshotId).effect heffect _⟩
    | _ => cases hs

/-- **Run.** -/
theorem followed_trace {r : Registry} {stimuli : List Stimulus} {e : Engine}
    {events : List Event} (h : Trace r stimuli e events)
    (hempty : ∀ id, r.snapshot? id = none) : Followed (ordersOf stimuli) e events := by
  induction h with
  | start => exact fun j settings snapshotId horder => by cases horder
  | step before s ih =>
      rw [ordersOf_concat]
      refine ih.effect (owned_trace before) (serving_trace before) (sourced_trace before hempty)
        (housed_trace before hempty) ?_ (effect_step _ s)
      intro event hmem hnumber
      exact Nat.lt_irrefl _ (before.number_lt hmem hnumber)

end Engine

end SnapshotEngine
