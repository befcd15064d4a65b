import SnapshotEngine.Transfer

/-!
# An object store in memory

The store of a rehearsal keeps a set of objects and a record of every attempt.
An upload adds its object, a download succeeds if its object is there, and a
deletion succeeds whether or not there is anything to delete.  Each of the three
can be made to fail from then on, and uploads and downloads can be held: then
they have arrived, and wait.

* `take_eq_self_iff` — what is not there cannot be taken away;
* `mem_objects_upload`, `mem_objects_download`, `mem_objects_delete` — what a
  transfer that went through does to the objects;
* `eq_of_move_false` — one that failed does nothing.
-/

namespace SnapshotEngine

/-- An object store in memory. -/
structure MemoryStore where
  objects : List String
  uploads : List String
  downloads : List String
  deletions : List String
  uploadsFail : Bool
  downloadsFail : Bool
  deletionsFail : Bool
  /-- Whether uploads and downloads wait. -/
  held : Bool
deriving DecidableEq, Repr, Inhabited

/-- What may be arranged with a store between transfers. -/
inductive StoreCue where
  /-- An object is there already. -/
  | insert (object : String)
  | failUploads
  | failDownloads
  | failDeletions
  | hold
  | release
deriving DecidableEq, Repr, Inhabited

namespace MemoryStore

/-- The store that holds nothing and does as asked. -/
def empty : MemoryStore where
  objects := []
  uploads := []
  downloads := []
  deletions := []
  uploadsFail := false
  downloadsFail := false
  deletionsFail := false
  held := false

/-- Whether an object is there. -/
def contains (s : MemoryStore) (object : String) : Bool := s.objects.contains object

/-- Puts an object where it may be already. -/
def put (s : MemoryStore) (object : String) : MemoryStore :=
  if s.contains object then s else { s with objects := object :: s.objects }

/-- Takes an object away, if it is there. -/
def take (s : MemoryStore) (object : String) : MemoryStore :=
  { s with objects := s.objects.filter (· ≠ object) }

/-- Does as arranged. -/
def cue (s : MemoryStore) : StoreCue → MemoryStore
  | .insert object => s.put object
  | .failUploads => { s with uploadsFail := true }
  | .failDownloads => { s with downloadsFail := true }
  | .failDeletions => { s with deletionsFail := true }
  | .hold => { s with held := true }
  | .release => { s with held := false }

/-- Records that a transfer has arrived. -/
def arrive (s : MemoryStore) (object : String) : TransferAction → MemoryStore
  | .upload => { s with uploads := s.uploads ++ [object] }
  | .download => { s with downloads := s.downloads ++ [object] }
  | .delete => { s with deletions := s.deletions ++ [object] }

/-- Carries a transfer that has arrived out; nothing while it is held. -/
def move (s : MemoryStore) (object : String) : TransferAction → Option (Bool × MemoryStore)
  | .upload =>
      if s.held then none
      else if s.uploadsFail then some (false, s)
      else some (true, s.put object)
  | .download =>
      if s.held then none
      else some (!s.downloadsFail && s.contains object, s)
  | .delete =>
      if s.deletionsFail then some (false, s) else some (true, s.take object)

/-- All objects in order. -/
def listing (s : MemoryStore) : List String :=
  s.objects.mergeSort (fun a b => decide (a ≤ b))

@[simp] theorem mem_objects_put (s : MemoryStore) (object other : String) :
    other ∈ (s.put object).objects ↔ other = object ∨ other ∈ s.objects := by
  unfold put contains
  split
  · rename_i h
    constructor
    · exact Or.inr
    · rintro (rfl | h')
      · simpa using h
      · exact h'
  · simp

@[simp] theorem mem_objects_take (s : MemoryStore) (object other : String) :
    other ∈ (s.take object).objects ↔ other ≠ object ∧ other ∈ s.objects := by
  simp [take, and_comm]

/-- A store stays as it is exactly if what is taken from it is not there. -/
theorem take_eq_self_iff {s : MemoryStore} {object : String} :
    s.take object = s ↔ object ∉ s.objects := by
  constructor
  · intro h hmem
    rw [← h, mem_objects_take] at hmem
    exact hmem.1 rfl
  · intro h
    have hfilter : s.objects.filter (· ≠ object) = s.objects := by
      refine List.filter_eq_self.mpr fun other hmem => ?_
      exact decide_eq_true fun heq => h (heq ▸ hmem)
    unfold take
    rw [hfilter]

/-- An upload that went through has added its object and nothing else. -/
theorem mem_objects_upload {s s' : MemoryStore} {object : String}
    (h : s.move object .upload = some (true, s')) (other : String) :
    other ∈ s'.objects ↔ other = object ∨ other ∈ s.objects := by
  simp only [move] at h
  split at h
  · simp at h
  split at h
  · simp at h
  · simp only [Option.some.injEq, Prod.mk.injEq, true_and] at h
    subst h
    exact mem_objects_put s object other

/-- A download that went through has found its object and changed nothing. -/
theorem mem_objects_download {s s' : MemoryStore} {object : String}
    (h : s.move object .download = some (true, s')) : object ∈ s.objects ∧ s' = s := by
  simp only [move] at h
  split at h
  · simp at h
  · simp only [Option.some.injEq, Prod.mk.injEq, Bool.and_eq_true] at h
    exact ⟨by simpa [contains] using h.1.2, h.2.symm⟩

/-- A deletion that went through has taken its object away and nothing else. -/
theorem mem_objects_delete {s s' : MemoryStore} {object : String}
    (h : s.move object .delete = some (true, s')) (other : String) :
    other ∈ s'.objects ↔ other ≠ object ∧ other ∈ s.objects := by
  simp only [move] at h
  split at h
  · simp at h
  · simp only [Option.some.injEq, Prod.mk.injEq, true_and] at h
    subst h
    exact mem_objects_take s object other

/-- A transfer that failed has changed nothing. -/
theorem eq_of_move_false {s s' : MemoryStore} {object : String} {action : TransferAction}
    (h : s.move object action = some (false, s')) : s' = s := by
  cases action <;> simp only [move] at h <;> split at h
  · simp at h
  · split at h <;> simp_all
  · simp at h
  · simp_all
  · simp_all
  · simp at h

end MemoryStore

end SnapshotEngine
