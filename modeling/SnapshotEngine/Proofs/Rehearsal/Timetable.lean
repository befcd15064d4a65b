import Mathlib.Data.List.Basic
import Mathlib.Data.Nat.Find
import Mathlib.Order.WellFounded
import SnapshotEngine.Proofs.Operation.Resolution
import SnapshotEngine.Rehearsal.World

/-!
# What a timetable comes to

A timetable says how long a transfer takes and whether it succeeds, how long each
question after the job is on its way, and how it is answered.  With the settings of
an operation that fixes everything: what comes out of the transfer and its
confirmation, and when.

* `answeredAt`, `terminalAt?` — when the answers come, and when the first terminal
  one does;
* `resolution` — what comes out, and when;
* `resolution_of_terminal`, `resolution_of_graceOver`, `resolution_of_limit` — the three ways
  in which a transfer that succeeds may come out.
-/

namespace SnapshotEngine

/-- How the collaborators of one operation take their time. -/
structure Timetable where
  /-- How long the transfer takes, if it ever comes to an end. -/
  transferTime : Option Nat
  /-- Whether the transfer succeeds when it comes to an end. -/
  succeeds : Bool
  /-- How long a question after the job is on its way. -/
  queryDelay : Nat
  /-- How each question is answered. -/
  answers : Nat → Except ControlPlaneError JobStatus

namespace Timetable

/-- The collaborators that keep to a timetable; their state is how many questions
they were asked. -/
def backend (t : Timetable) : Backend Nat where
  callDelay _ _ := t.transferTime.getD 0
  arrive asked _ := asked
  answer? asked _ := t.transferTime.map fun _ => (.moved t.succeeds, asked)
  queryDelay _ := t.queryDelay
  ask? asked _ := some (.answered (t.answers asked), asked + 1)

/-- Whether a question is answered by a terminal status. -/
def isTerminal (t : Timetable) (k : Nat) : Bool :=
  match t.answers k with
  | .ok status => status.isTerminal
  | .error _ => false

/-- When a question is answered, if all before it were asked too: each is on its way
for a while, and between two of them the poller rests. -/
def answeredAt (t : Timetable) (pause k : Nat) : Nat := (k + 1) * t.queryDelay + k * pause

open scoped Classical in
/-- When the first terminal answer comes, if one ever does. -/
noncomputable def terminalAt? (t : Timetable) (pause : Nat) : Option Nat :=
  if h : ∃ k, t.isTerminal k then some (t.answeredAt pause (Nat.find h)) else none

/-- The statuses among the answers that have come by some time, up to and including
the first terminal one.  No answer comes before the time that is its number. -/
def heardBy (t : Timetable) (pause e : Nat) : List JobStatus :=
  (List.range (e + 1)).filterMap fun k =>
    if t.answeredAt pause k ≤ e ∧ ∀ j < k, t.isTerminal j = false then (t.answers k).toOption
    else none

/-- The last status that was heard by some time, and pending if there is none. -/
def statusBy (t : Timetable) (pause e : Nat) : JobStatus :=
  (t.heardBy pause e).getLast?.getD .pending

/-- When a transfer that has succeeded is settled unless the time limit is reached
before: when the first terminal answer is there, or the grace is over. -/
noncomputable def settledAt (t : Timetable) (pause grace moved : Nat) : Nat :=
  match t.terminalAt? pause with
  | some terminal => if terminal < moved then moved else min terminal (moved + grace)
  | none => moved + grace

/-- What comes of a transfer and its confirmation, and when: with the pause of the
poller, the grace and the time limit. -/
noncomputable def resolution (t : Timetable) (pause grace limit : Nat) : Resolution × Nat :=
  match t.transferTime with
  | none => (.timedOut, limit)
  | some moved =>
      if limit < moved then (.timedOut, limit)
      else if t.succeeds then
        let e := t.settledAt pause grace moved
        -- When the grace is over the poller is still to stop, and the limit comes first.
        if limit < e ∨
            (e = moved + grace ∧ (∀ terminal ∈ t.terminalAt? pause, e < terminal) ∧
              limit ≤ moved + grace) then
          (.timedOut, limit)
        else (.heard (t.statusBy pause e), e)
      else (.failed, moved)

/-- The last status among the first answers, and pending if there is none. -/
def statusAfter (t : Timetable) (asked : Nat) : JobStatus :=
  (((List.range asked).filterMap fun k => (t.answers k).toOption).getLast?).getD .pending

variable {t : Timetable} {pause : Nat}

/-- A status that is heard replaces the one before, and an error does not. -/
theorem statusAfter_succ (k : Nat) :
    t.statusAfter (k + 1) =
      match t.answers k with
      | .ok status => status
      | .error _ => t.statusAfter k := by
  unfold statusAfter
  rw [List.range_succ, List.filterMap_append]
  cases h : t.answers k <;> simp [h, Except.toOption]

/-! ## When the answers come -/

theorem answeredAt_succ (t : Timetable) (pause k : Nat) :
    t.answeredAt pause (k + 1) = t.answeredAt pause k + pause + t.queryDelay := by
  simp only [answeredAt, Nat.succ_mul]
  omega

/-- The answers come one after another. -/
theorem strictMono_answeredAt (h : 0 < pause + t.queryDelay) : StrictMono (t.answeredAt pause) := by
  apply strictMono_nat_of_lt_succ
  intro k
  rw [answeredAt_succ]
  omega

theorem le_answeredAt (h : 0 < pause + t.queryDelay) (k : Nat) : k ≤ t.answeredAt pause k :=
  (strictMono_answeredAt h).le_apply

/-- The first terminal answer comes when it is its turn. -/
theorem terminalAt?_eq {k : Nat} (h : t.isTerminal k) (first : ∀ j < k, t.isTerminal j = false) :
    t.terminalAt? pause = some (t.answeredAt pause k) := by
  have hex : ∃ k, t.isTerminal k := ⟨k, h⟩
  have hfind : Nat.find hex = k :=
    (Nat.find_eq_iff hex).mpr ⟨h, fun j hj => by simp [first j hj]⟩
  unfold terminalAt?
  rw [dif_pos hex, hfind]

/-- What comes at the time of the first terminal answer is a terminal answer. -/
theorem exists_of_terminalAt? {terminal : Nat} (h : terminal ∈ t.terminalAt? pause) :
    ∃ k, t.isTerminal k ∧ terminal = t.answeredAt pause k := by
  unfold terminalAt? at h
  split at h
  · rename_i hex
    cases h
    exact ⟨_, Nat.find_spec hex, rfl⟩
  · cases h

/-- What was heard by some time is what the answers say that have come by then. -/
theorem statusBy_eq (hpause : 0 < pause + t.queryDelay) {asked e : Nat}
    (h : ∀ k, (t.answeredAt pause k ≤ e ∧ ∀ j < k, t.isTerminal j = false) ↔ k < asked) :
    t.statusBy pause e = t.statusAfter asked := by
  have hasked : asked ≤ e + 1 := by
    by_contra hlt
    have hlate := ((h (e + 1)).mpr (by omega)).1
    have := le_answeredAt hpause (e + 1)
    omega
  have hheard :
      t.heardBy pause e = (List.range asked).filterMap fun k => (t.answers k).toOption := by
    obtain ⟨rest, hrest⟩ := Nat.exists_eq_add_of_le hasked
    unfold heardBy
    rw [hrest, List.range_add, List.filterMap_append]
    have hlater : ((List.range rest).map (asked + ·)).filterMap (fun k =>
        if t.answeredAt pause k ≤ e ∧ ∀ j < k, t.isTerminal j = false then (t.answers k).toOption
        else none) = [] := by
      apply List.filterMap_eq_nil_iff.mpr
      intro k hk
      obtain ⟨i, _, rfl⟩ := List.mem_map.mp hk
      apply if_neg
      rw [h]
      omega
    rw [hlater, List.append_nil]
    apply List.filterMap_congr
    intro k hk
    exact if_pos ((h k).mpr (List.mem_range.mp hk))
  unfold statusBy statusAfter
  rw [hheard]

/-! ## What comes out -/

section Resolution

variable {grace limit moved : Nat}

theorem resolution_of_never (h : t.transferTime = none) :
    t.resolution pause grace limit = (.timedOut, limit) := by
  simp only [resolution, h]

theorem resolution_of_late (h : t.transferTime = some moved) (late : limit < moved) :
    t.resolution pause grace limit = (.timedOut, limit) := by
  simp only [resolution, h, if_pos late]

theorem resolution_of_failure (h : t.transferTime = some moved) (early : moved ≤ limit)
    (fails : t.succeeds = false) : t.resolution pause grace limit = (.failed, moved) := by
  simp only [resolution, h, if_neg (Nat.not_lt.mpr early), fails, Bool.false_eq_true, if_false]

/-- A transfer that has succeeded is settled in time or not. -/
theorem resolution_of_success (h : t.transferTime = some moved) (early : moved ≤ limit)
    (succeeds : t.succeeds) {e : Nat} (settled : t.settledAt pause grace moved = e) :
    t.resolution pause grace limit =
      if limit < e ∨ (e = moved + grace ∧ (∀ terminal ∈ t.terminalAt? pause, e < terminal) ∧
          limit ≤ moved + grace) then (.timedOut, limit)
      else (.heard (t.statusBy pause e), e) := by
  simp only [resolution, h, if_neg (Nat.not_lt.mpr early), if_pos succeeds, settled]

/-- A terminal answer settles a transfer that has succeeded, at once if it was there
before. -/
theorem resolution_of_terminal (hpause : 0 < pause + t.queryDelay) (h : t.transferTime = some moved)
    (succeeds : t.succeeds) {k : Nat} (terminal : t.isTerminal k)
    (first : ∀ j < k, t.isTerminal j = false) (graced : t.answeredAt pause k ≤ moved + grace)
    (early : max moved (t.answeredAt pause k) ≤ limit) :
    t.resolution pause grace limit =
      (.heard (t.statusAfter (k + 1)), max moved (t.answeredAt pause k)) := by
  have hterminal : t.terminalAt? pause = some (t.answeredAt pause k) :=
    terminalAt?_eq terminal first
  have hsettled : t.settledAt pause grace moved = max moved (t.answeredAt pause k) := by
    unfold settledAt
    rw [hterminal]
    dsimp only
    split <;> omega
  have hheard : t.statusBy pause (max moved (t.answeredAt pause k)) = t.statusAfter (k + 1) := by
    apply statusBy_eq hpause
    intro j
    constructor
    · rintro ⟨_, hfirst⟩
      by_contra hlt
      exact absurd (hfirst k (by omega)) (by simp [terminal])
    · intro hj
      have hle := (strictMono_answeredAt hpause).monotone (Nat.le_of_lt_succ hj)
      exact ⟨hle.trans (Nat.le_max_right ..), fun i hi => first i (by omega)⟩
  rw [resolution_of_success h (by omega) succeeds hsettled, hheard, if_neg]
  rintro (hlate | ⟨_, hnone, _⟩)
  · omega
  · have := hnone _ hterminal
    omega

/-- With the grace over before the limit and before any terminal answer, what was
heard so far decides. -/
theorem resolution_of_graceOver (hpause : 0 < pause + t.queryDelay)
    (h : t.transferTime = some moved) (succeeds : t.succeeds)
    (later : ∀ k, t.isTerminal k → moved + grace < t.answeredAt pause k)
    (early : moved + grace < limit) {asked : Nat}
    (heard : ∀ k, t.answeredAt pause k ≤ moved + grace ↔ k < asked) :
    t.resolution pause grace limit = (.heard (t.statusAfter asked), moved + grace) := by
  have hsettled : t.settledAt pause grace moved = moved + grace := by
    unfold settledAt
    split
    · rename_i terminal hterminal
      obtain ⟨k, hk, rfl⟩ := exists_of_terminalAt? hterminal
      have := later k hk
      split <;> omega
    · rfl
  have hheard : t.statusBy pause (moved + grace) = t.statusAfter asked := by
    apply statusBy_eq hpause
    intro k
    rw [heard]
    refine and_iff_left_of_imp fun hk j hj => ?_
    by_contra hterminal
    have := later j (by simpa using hterminal)
    have := (heard j).mpr (by omega)
    omega
  rw [resolution_of_success h (by omega) succeeds hsettled, hheard, if_neg]
  omega

/-- With the limit reached before any terminal answer, and not after the grace, the
time is over. -/
theorem resolution_of_limit (h : t.transferTime = some moved) (early : moved ≤ limit)
    (succeeds : t.succeeds) (later : ∀ k, t.isTerminal k → limit < t.answeredAt pause k)
    (graced : limit ≤ moved + grace) : t.resolution pause grace limit = (.timedOut, limit) := by
  rw [resolution_of_success h early succeeds rfl, if_pos]
  unfold settledAt
  split
  · rename_i terminal hterminal
    obtain ⟨k, hk, rfl⟩ := exists_of_terminalAt? hterminal
    have := later k hk
    simp only [hterminal, Option.mem_def, Option.some.injEq, forall_eq']
    split <;> omega
  · rename_i hterminal
    by_cases hlate : limit < moved + grace
    · exact .inl hlate
    · exact .inr ⟨rfl, by simp [hterminal], graced⟩

end Resolution

end Timetable

end SnapshotEngine
