import Mathlib.Order.WellFounded
import SnapshotEngine.Rehearsal.Cast

/-!
# What is asked after a job

Whoever asks after one job again and again is given one answer after the other,
each after the same while, or none at all.  That is all that a poller sees of the
control plane, whatever else there is to it.

* `Inquiry` — collaborators that answer the questions after a job one by one;
* `ofScript`, `ofCast` — every script of answers is one, and so is a played control
  plane that does not bring anybody down;
* `answeredAt`, `heard` — when each answer comes, and what was heard last.
-/

namespace SnapshotEngine

variable {σ : Type}

/-- Collaborators that answer the questions after a job one by one. -/
structure Inquiry (b : Backend σ) (job : JobHandle) where
  /-- How long each question takes to be answered, if it ever is. -/
  latency : Option Nat
  answers : Nat → Except ControlPlaneError JobStatus
  /-- The collaborators after so many answers. -/
  site : Nat → σ
  /-- How many answers they have given. -/
  queries : σ → Nat
  queries_site : ∀ k, queries (site k) = k
  queryDelay_site : ∀ k, b.queryDelay (site k) = latency.getD 0
  ask_site : ∀ k, b.ask? (site k) job =
    latency.map fun _ => (.answered (answers k), site (k + 1))

namespace Inquiry

/-! ## Who answers like that -/

/-- Collaborators of which nothing is known but how they answer questions; their
state is how many they have answered. -/
def script (latency : Option Nat) (answers : Nat → Except ControlPlaneError JobStatus) :
    Backend Nat where
  callDelay _ _ := 0
  arrive asked _ := asked
  answer? _ _ := none
  queryDelay _ := latency.getD 0
  ask? asked _ := latency.map fun _ => (.answered (answers asked), asked + 1)

/-- Any answers can be given, after any while. -/
def ofScript (latency : Option Nat) (answers : Nat → Except ControlPlaneError JobStatus)
    (job : JobHandle) : Inquiry (script latency answers) job where
  latency := latency
  answers := answers
  site k := k
  queries asked := asked
  queries_site _ := rfl
  queryDelay_site _ := rfl
  ask_site _ := rfl

end Inquiry

namespace ScriptedPlane

/-- The control plane after it has answered so many questions. -/
def after (p : ScriptedPlane) : Nat → ScriptedPlane
  | 0 => p
  | k + 1 => (p.after k).ask.2

/-- The answer that it gives to a question after so many. -/
def answerTo (p : ScriptedPlane) (k : Nat) : Except ControlPlaneError JobStatus :=
  match (p.after k).ask.1 with
  | .answered answer => answer
  | _ => .ok .unknown

/-- A control plane that brings nobody down answers, counts the question, and goes on
like that. -/
theorem ask_of_steady {p : ScriptedPlane} (h : p.crashAt = none) :
    (∃ answer, p.ask.1 = .answered answer) ∧ p.ask.2.queries = p.queries + 1 ∧
      p.ask.2.crashAt = none := by
  unfold ask
  rw [if_neg (by simp [h])]
  dsimp only
  split
  · exact ⟨⟨_, rfl⟩, rfl, h⟩
  · split
    · exact ⟨⟨_, rfl⟩, rfl, h⟩
    · exact ⟨⟨_, rfl⟩, rfl, h⟩

/-- **Run.**  It counts every question. -/
theorem after_of_steady {p : ScriptedPlane} (h : p.crashAt = none) (k : Nat) :
    (p.after k).queries = p.queries + k ∧ (p.after k).crashAt = none := by
  induction k with
  | zero => exact ⟨rfl, h⟩
  | succ k ih =>
      obtain ⟨_, hqueries, hsteady⟩ := ask_of_steady ih.2
      have hcount : (p.after (k + 1)).queries = (p.after k).queries + 1 := hqueries
      refine ⟨?_, hsteady⟩
      rw [hcount, ih.1]
      omega

theorem ask_after {p : ScriptedPlane} (h : p.crashAt = none) (k : Nat) :
    (p.after k).ask = (.answered (p.answerTo k), p.after (k + 1)) := by
  obtain ⟨⟨answer, hanswer⟩, _⟩ := ask_of_steady (after_of_steady h k).2
  refine Prod.ext ?_ rfl
  unfold answerTo
  rw [hanswer]

end ScriptedPlane

namespace Inquiry

/-- A played control plane answers like that, unless it brings somebody down. -/
def ofCast (cast : Cast) (steady : cast.plane.crashAt = none) (job : JobHandle) :
    Inquiry Cast.backend job where
  latency := some cast.queryDelay.nanos
  answers := cast.plane.answerTo
  site k := { cast with plane := cast.plane.after k }
  queries later := later.plane.queries - cast.plane.queries
  queries_site k := by
    rw [(ScriptedPlane.after_of_steady steady k).1]
    omega
  queryDelay_site _ := rfl
  ask_site k := by
    simp only [Cast.backend, Cast.ask?, Option.map_some]
    rw [ScriptedPlane.ask_after steady k]

/-! ## What is heard, and when -/

variable {b : Backend σ} {job : JobHandle} (x : Inquiry b job)

/-- Whether a question is answered by a terminal status. -/
def isTerminal (k : Nat) : Bool :=
  match x.answers k with
  | .ok status => status.isTerminal
  | .error _ => false

/-- The last status among the first answers, if there is one. -/
def heard (k : Nat) : Option JobStatus :=
  ((List.range k).filterMap fun j => (x.answers j).toOption).getLast?

/-- When a question is answered, if it is asked at all: each is on its way for a
while, and between two of them there is a pause. -/
def answeredAt (pause k : Nat) : Nat := (k + 1) * x.latency.getD 0 + k * pause

/-- A question is answered before an instant. -/
def AnswersBefore (pause instant k : Nat) : Prop :=
  x.latency.isSome ∧ x.answeredAt pause k < instant

variable {x}

/-- A status that is heard replaces the one before, and an error does not. -/
theorem heard_succ (k : Nat) :
    x.heard (k + 1) =
      match x.answers k with
      | .ok status => some status
      | .error _ => x.heard k := by
  unfold heard
  rw [List.range_succ, List.filterMap_append]
  cases h : x.answers k <;> simp [h, Except.toOption]

theorem isTerminal_iff {k : Nat} :
    x.isTerminal k ↔ ∃ status, x.answers k = .ok status ∧ status.isTerminal := by
  unfold isTerminal
  cases x.answers k <;> simp

theorem answeredAt_zero (pause : Nat) : x.answeredAt pause 0 = x.latency.getD 0 := by
  simp [answeredAt]

theorem answeredAt_succ (pause k : Nat) :
    x.answeredAt pause (k + 1) = x.answeredAt pause k + pause + x.latency.getD 0 := by
  simp only [answeredAt, Nat.succ_mul]
  omega

/-- The answers come one after another. -/
theorem strictMono_answeredAt {pause : Nat} (h : 0 < pause + x.latency.getD 0) :
    StrictMono (x.answeredAt pause) := by
  apply strictMono_nat_of_lt_succ
  intro k
  rw [answeredAt_succ]
  omega

theorem le_answeredAt {pause : Nat} (h : 0 < pause + x.latency.getD 0) (k : Nat) :
    k ≤ x.answeredAt pause k :=
  (strictMono_answeredAt h).le_apply

/-- No answer comes before an earlier one. -/
theorem monotone_answeredAt (pause : Nat) : Monotone (x.answeredAt pause) := by
  apply monotone_nat_of_le_succ
  intro k
  rw [answeredAt_succ]
  omega

end Inquiry

end SnapshotEngine
