import SnapshotEngine.Registry.Session
import SnapshotEngine.Rehearsal.Cast

/-!
# Rehearsals

A rehearsal runs an engine through a script, with a cast for its collaborators.
A step of the script arranges something with the cast, asks the registry for
something, lets the engine look at a claim, lets time pass, or has an operation
carried out; or it starts several steps together, each after a wait of its own,
and goes on when all of them are over.

Of steps that start at one instant the earlier one in the script goes first, as
far as it can go without waiting.
-/

namespace SnapshotEngine

/-- What may be done at once. -/
inductive Deed where
  | registry (request : RegistryRequest)
  | store (cue : StoreCue)
  | plane (cue : PlaneCue)
  | directory (cue : DirectoryCue)
  /-- Set how long it takes to reach the collaborators, where given. -/
  | delays (query command transfer : Option Duration)
  | discover (claim : Claim)
  | volumeInfo (name : String)
deriving Inhabited

/-- A step that is taken by itself. -/
inductive Task where
  | deed (deed : Deed)
  | sleep (d : Duration)
  /-- Carry an operation out, unless the caller loses patience before. -/
  | order (order : Order) (patience : Option Duration)
deriving Inhabited

/-- A step of a script. -/
inductive ScriptStep where
  | single (task : Task)
  /-- Start steps together, each after a wait of its own. -/
  | together (steps : List (Duration × ScriptStep))
deriving Inhabited

/-- What comes of a step. -/
inductive Finding where
  | nothing
  | reply (reply : RegistryReply)
  | discovered (result : Except Failure (Option String))
  | volumeInfo (kind : String) (rate : Option Int)
  | operation (ending : Ending)
  /-- The findings of steps that were started together, and how long it took
  until all of them were over. -/
  | together (findings : List Finding) (elapsed : Duration)
deriving Inhabited

/-- A rehearsal: an engine with its cast, the settings it goes by, and the
markers that the script keeps. -/
structure Rehearsal where
  world : World Cast
  settings : Settings
  markers : Table String String

namespace Rehearsal

/-- A rehearsal that is about to begin. -/
def ofSettings (settings : Settings) (claims : Table String String) : Rehearsal where
  world := .ofEngine .empty (.ofDirectory (.ofClaims claims))
  settings := settings
  markers := .empty

/-- The registry. -/
def registry (r : Rehearsal) : Registry := r.world.engine.registry

/-- The same rehearsal with another cast. -/
def withCast (r : Rehearsal) (cast : Cast) : Rehearsal :=
  { r with world := { r.world with site := cast } }

/-- Does at once what a script says. -/
def perform (r : Rehearsal) : Deed → Finding × Rehearsal
  | .registry request =>
      let (reply, session) := RegistrySession.ask ⟨r.registry, r.markers⟩ request
      let engine := { r.world.engine with registry := session.registry }
      (.reply reply,
        { r with world := { r.world with engine := engine }, markers := session.markers })
  | .store cue =>
      let cast := r.world.site
      (.nothing, r.withCast { cast with store := cast.store.cue cue })
  | .plane cue =>
      let cast := r.world.site
      (.nothing, r.withCast { cast with plane := cast.plane.cue cue })
  | .directory cue =>
      let cast := r.world.site
      (.nothing, r.withCast { cast with directory := cast.directory.cue cue })
  | .delays query command transfer =>
      let cast := r.world.site
      (.nothing,
        r.withCast
          { cast with
            queryDelay := query.getD cast.queryDelay
            commandDelay := command.getD cast.commandDelay
            transferDelay := transfer.getD cast.transferDelay })
  | .discover claim =>
      let (engine, events) := r.world.engine.step (.reported claim)
      let result := events.findSome? fun
        | .discovered result => some result
        | _ => none
      (.discovered (result.getD (.ok none)), { r with world := { r.world with engine := engine } })
  | .volumeInfo name =>
      let (kind, rate) := SnapshotEngine.volumeInfo name
      (.volumeInfo kind rate, r)

/-- What a task that was started has come to, or what it waits for. -/
inductive Started where
  | found (finding : Finding)
  | sleeping (wakesAt : Nat)
  | running (id : Nat)
deriving Inhabited

/-- Starts a task.  An operation goes as far as it can go without waiting. -/
def begin (r : Rehearsal) : Task → Started × Rehearsal
  | .deed deed =>
      let (finding, after) := r.perform deed
      (.found finding, after)
  | .sleep d => (.sleeping (r.world.now + d.nanos), r)
  | .order order patience =>
      let id := r.world.engine.next
      let ordered :=
        r.world.order Cast.backend r.settings order (patience.map (·.nanos))
      (.running id, { r with world := ordered.settleOperations Cast.backend })

/-- The tasks of a step in the order of the script, each with the instant at
which it starts. -/
def tasks (start : Nat) : ScriptStep → List (Nat × Task)
  | .single task => [(start, task)]
  | .together steps => tasksOf start steps
where
  /-- The tasks of steps that are started together. -/
  tasksOf (start : Nat) : List (Duration × ScriptStep) → List (Nat × Task)
    | [] => []
    | (wait, step) :: more => tasks (start + wait.nanos) step ++ tasksOf start more

/-- Starts tasks that are given in the order of their instants. -/
def beginAll (r : Rehearsal) : List (Nat × Nat × Task) → List (Nat × Nat × Started) × Rehearsal
  | [] => ([], r)
  | (index, start, task) :: more =>
      let r := { r with world := r.world.runTo Cast.backend start }
      let (started, r) := r.begin task
      let (rest, r) := r.beginAll more
      ((index, start, started) :: rest, r)

/-- The numbers of the operations among the tasks that were started. -/
def runningIds (started : List (Nat × Nat × Started)) : List Nat :=
  started.filterMap fun
    | (_, _, .running id) => some id
    | _ => none

/-- The last instant at which a sleeping task wakes. -/
def lastWake (started : List (Nat × Nat × Started)) : Nat :=
  (started.filterMap fun
    | (_, _, .sleeping t) => some t
    | _ => none).foldl max 0

/-- What a task has come to, and when it was over. -/
def outcome (w : World Cast) (start : Nat) : Started → Finding × Nat
  | .found finding => (finding, start)
  | .sleeping t => (.nothing, t)
  | .running id =>
      match w.endings.get? id with
      | some ending => (.operation ending, ending.endedAt)
      | none => (.nothing, start)

/-- Takes the findings of the tasks of a step, in the order of the script, off a
list and puts them together; with the instant at which all were over. -/
def assemble (start : Nat) :
    ScriptStep → List (Finding × Nat) → (Finding × Nat) × List (Finding × Nat)
  | .single _, [] => ((.nothing, start), [])
  | .single _, found :: more => (found, more)
  | .together steps, found =>
      let (parts, more) := assembleAll start steps found
      let last := (parts.map (·.2)).foldl max start
      ((.together (parts.map (·.1)) ⟨last - start⟩, last), more)
where
  /-- The same for steps that were started together. -/
  assembleAll (start : Nat) :
      List (Duration × ScriptStep) → List (Finding × Nat) →
        List (Finding × Nat) × List (Finding × Nat)
    | [], found => ([], found)
    | (wait, step) :: rest, found =>
        let (part, more) := assemble (start + wait.nanos) step found
        let (parts, more) := assembleAll start rest more
        (part :: parts, more)

/-- Takes a step of the script. -/
def step (r : Rehearsal) (s : ScriptStep) : Finding × Rehearsal :=
  let start := r.world.now
  let tasks := (tasks start s).zipIdx.map fun (task, index) => (index, task)
  let inTime := tasks.mergeSort (fun a b => decide (a.2.1 ≤ b.2.1))
  let (started, r) := r.beginAll inTime
  let world := r.world.runUntilOver Cast.backend (runningIds started)
  let world := world.runTo Cast.backend (lastWake started)
  let found :=
    (started.mergeSort (fun a b => decide (a.1 ≤ b.1))).map fun (_, start, task) =>
      outcome world start task
  ((assemble start s found).1.1, { r with world := world })

/-- Takes one step after the other; after each, what came of it and the
rehearsal as it then is. -/
def run (r : Rehearsal) : List ScriptStep → List (Finding × Rehearsal)
  | [] => []
  | s :: rest =>
      let (finding, after) := r.step s
      (finding, after) :: after.run rest

end Rehearsal

/-- What was received by the collaborators. -/
structure Record where
  backups : List BackupRequest
  restores : List RestoreRequest
  deletions : List (String × String × String)
  uploads : List String
  downloads : List String
  removals : List String
  preserved : List String
  provisioned : List (String × String)
deriving Inhabited

/-- All that a cast has received so far. -/
def Cast.record (c : Cast) : Record where
  backups := c.plane.backups
  restores := c.plane.restores
  deletions := c.plane.deletions
  uploads := c.store.uploads
  downloads := c.store.downloads
  removals := c.store.deletions
  preserved := c.directory.preserved
  provisioned := c.directory.provisioned

/-- What was received beyond an earlier record. -/
def Record.since (later earlier : Record) : Record where
  backups := later.backups.drop earlier.backups.length
  restores := later.restores.drop earlier.restores.length
  deletions := later.deletions.drop earlier.deletions.length
  uploads := later.uploads.drop earlier.uploads.length
  downloads := later.downloads.drop earlier.downloads.length
  removals := later.removals.drop earlier.removals.length
  preserved := later.preserved.drop earlier.preserved.length
  provisioned := later.provisioned.drop earlier.provisioned.length

end SnapshotEngine
