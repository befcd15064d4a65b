import SnapshotEngine.Poller

/-!
# How a poller ends

A poller that was cancelled stays cancelled, one that has stopped stays as it
is, and one that hears a terminal status stops.
-/

namespace SnapshotEngine

namespace Poller

@[simp] theorem cancelled_advance (p : Poller) (signal : PollerSignal) :
    (p.advance signal).cancelled = p.cancelled := by
  unfold advance
  split
  · rfl
  split
  · rfl
  split <;> rfl

/-- A poller that has stopped is not reached any more. -/
theorem advance_of_exited {p : Poller} (h : p.stage = .exited) (signal : PollerSignal) :
    p.advance signal = p := by
  unfold advance
  rw [if_pos h]

/-- A poller that hears a terminal status stops. -/
theorem stage_advance_of_isTerminal {p : Poller} {status : JobStatus} (asking : p.stage = .asking)
    (live : p.cancelled = false) (h : status.isTerminal) :
    (p.advance (.answered (.ok status))).stage = .exited := by
  simp [advance, asking, live, h]

end Poller

end SnapshotEngine
