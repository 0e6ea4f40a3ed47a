import GradleMigration.Scan.Scanner

/-
  Looking into scripts with several workers.

  Key definitions include:
    * `Harvest.gather`
    * `ScanPool`
    * `ScanPool.act`
    * `ScanPool.run`
    * `ScanPool.outcome`

  Each script is looked into by one worker.  The workers take
  the scripts in turn and may come to an end in any order;
  what they have found is put together in the order of the
  scripts.  A run is told by the list of what is done in turn.
-/

------------------------------------------------------------
-- Putting Results Together
------------------------------------------------------------

namespace GradleMigration

/- What has come of looking into one script. -/
abbrev ScriptResult :=
  Except ScanFault (List Occurrence)

/-
  Put the results of scripts together.  Those that cannot be
  read are skipped; the first other fault counts for all.
-/
def Harvest.gather :
    List (Path × ScriptResult) → Except ScanFault Harvest
| [] => .ok ⟨[], []⟩
| (file, result) :: rest =>
    match result with
    | .error (.read _) =>
        (gather rest).map fun later =>
          { later with skipped := file :: later.skipped }
    | .error fault => .error fault
    | .ok found =>
        (gather rest).map fun later =>
          { later with
            occurrences := found ++ later.occurrences }

end GradleMigration

------------------------------------------------------------
-- Workers
------------------------------------------------------------

namespace GradleMigration

/-
  The positions of the scripts that no worker has taken yet
  and of those that workers look into, and the results so far.
-/
structure ScanPool where
  waiting : List Nat
  running : List Nat
  results : List (Option ScriptResult)

/- What may be done next; workers are told by their place. -/
inductive ScanAction where
| take
| finish (worker : Nat)
deriving DecidableEq, Repr

namespace ScanPool

/- A pool with nothing done yet. -/
def start
    (files : List Path) : ScanPool where
  waiting := List.range files.length
  running := []
  results := List.replicate files.length none

/- Whether all scripts have been looked into. -/
def isDone
    (pool : ScanPool) : Bool :=
  pool.waiting.isEmpty && pool.running.isEmpty

/-
  Do one thing, if it can be done: take the next script while
  there are fewer scripts than workers, or finish a script.
-/
def act
    (scanner : Scanner)
    (tree : FileTree)
    (root : Path)
    (files : List Path)
    (workers : Nat)
    (pool : ScanPool) : ScanAction → Option ScanPool
| .take =>
    match pool.waiting with
    | [] => none
    | index :: waiting =>
        if pool.running.length < workers then
          some { pool with
            waiting := waiting
            running := pool.running ++ [index] }
        else
          none
| .finish worker =>
    match pool.running[worker]? with
    | none => none
    | some index =>
        match files[index]? with
        | none => none
        | some file =>
            some { pool with
              running := pool.running.eraseIdx worker
              results := pool.results.set index
                (some (scanner.scanFile tree file root)) }

/- Do one thing after another. -/
def run
    (scanner : Scanner)
    (tree : FileTree)
    (root : Path)
    (files : List Path)
    (workers : Nat)
    (pool : ScanPool) : List ScanAction → Option ScanPool
| [] => some pool
| action :: actions =>
    match pool.act scanner tree root files workers action with
    | none => none
    | some next =>
        run scanner tree root files workers next actions

/- What comes of the scripts, once there is a result of each. -/
def outcome
    (files : List Path)
    (pool : ScanPool) : Option (Except ScanFault Harvest) :=
  if pool.results.all Option.isSome then
    some (Harvest.gather
      (files.zip (pool.results.filterMap id)))
  else
    none

end ScanPool

end GradleMigration
