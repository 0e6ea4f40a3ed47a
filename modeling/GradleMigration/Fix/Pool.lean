import GradleMigration.Fix.Basic

/-
  Fixing findings with several workers.

  Key definitions include:
    * `Finding.groups`
    * `FixPool`
    * `FixPool.act`
    * `FixPool.run`

  The findings of one file are a group, and a group is fixed
  by one worker in the order of its findings.  Each finding is
  fixed as a whole; between two of them any other worker may
  act.  A run is told by the list of what is done in turn.
-/

------------------------------------------------------------
-- Groups
------------------------------------------------------------

namespace GradleMigration

namespace Finding

/- The positions of findings, by file. -/
abbrev Groups :=
  List (Path × List Nat)

/- Add a position to the group of a file. -/
def addToGroup
    (file : Path)
    (index : Nat) : Groups → Groups
| [] => [(file, [index])]
| (other, group) :: rest =>
    if other = file then
      (other, group ++ [index]) :: rest
    else
      (other, group) :: addToGroup file index rest

/- Add the positions of findings from a given one on. -/
def groupsFrom
    (index : Nat)
    (groups : Groups) : List Finding → Groups
| [] => groups
| finding :: findings =>
    groupsFrom (index + 1)
      (addToGroup finding.file index groups) findings

/-
  The positions of findings by file, the files in the order in
  which they come up.
-/
def groups
    (findings : List Finding) : Groups :=
  groupsFrom 0 [] findings

end Finding

end GradleMigration

------------------------------------------------------------
-- Workers
------------------------------------------------------------

namespace GradleMigration

/-
  The groups that no worker has taken yet, what is left of the
  groups of the workers, and the results so far.
-/
structure FixPool where
  workspace : Workspace
  waiting : List (List Nat)
  running : List (List Nat)
  results : List (Option FixResult)

/- What may be done next; workers are told by their place. -/
inductive PoolAction where
| take
| fix (worker : Nat)
| leave (worker : Nat)
deriving DecidableEq, Repr

namespace FixPool

/- A pool with nothing done yet. -/
def start
    (workspace : Workspace)
    (findings : List Finding) : FixPool where
  workspace := workspace
  waiting := (Finding.groups findings).map Prod.snd
  running := []
  results := List.replicate findings.length none

/- Whether all groups have been fixed. -/
def isDone
    (pool : FixPool) : Bool :=
  pool.waiting.isEmpty && pool.running.isEmpty

/-
  Do one thing, if it can be done: take the next group while
  there are fewer groups than workers, fix the next finding of
  a group, or leave a group that has been fixed.
-/
def act
    (registry : Registry)
    (findings : List Finding)
    (workers : Nat)
    (pool : FixPool) : PoolAction → Option FixPool
| .take =>
    match pool.waiting with
    | [] => none
    | group :: waiting =>
        if pool.running.length < workers then
          some { pool with
            waiting := waiting
            running := pool.running ++ [group] }
        else
          none
| .fix worker =>
    match pool.running[worker]? with
    | some (index :: group) =>
        match findings[index]? with
        | none => none
        | some finding =>
            match registry.applyFix pool.workspace finding with
            | .error _ => none
            | .ok (after, result) =>
                some { pool with
                  workspace := after
                  running := pool.running.set worker group
                  results := pool.results.set index
                    (some result) }
    | _ => none
| .leave worker =>
    match pool.running[worker]? with
    | some [] =>
        some { pool with
          running := pool.running.eraseIdx worker }
    | _ => none

/- Do one thing after another. -/
def run
    (registry : Registry)
    (findings : List Finding)
    (workers : Nat)
    (pool : FixPool) : List PoolAction → Option FixPool
| [] => some pool
| action :: actions =>
    match pool.act registry findings workers action with
    | none => none
    | some next => run registry findings workers next actions

end FixPool

end GradleMigration
