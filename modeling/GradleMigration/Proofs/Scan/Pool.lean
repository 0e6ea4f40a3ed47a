import GradleMigration.Scan.Pool
import Mathlib.Data.List.Perm.Basic

/-
  Scanning with several workers comes to the same as looking
  into one script after the other, whatever is done in turn.

  Main declarations:
    * `Scanner.scanFiles_eq_gather`
    * `ScanPool.OnTrack`
    * `ScanPool.onTrack_act`
    * `ScanPool.onTrack_run`
    * `ScanPool.OnTrack.outcome`
    * `ScanPool.OnTrack.exists_run`
    * `ScanPool.Yields`
    * `ScanPool.yields_iff`
-/

------------------------------------------------------------
-- Results in Order
------------------------------------------------------------

namespace GradleMigration

namespace Scanner

/- What a scanner makes of scripts, one by one. -/
def resultsOf
    (scanner : Scanner)
    (tree : FileTree)
    (root : Path)
    (files : List Path) : List ScriptResult :=
  files.map fun file => scanner.scanFile tree file root

/- A scan puts together what it makes of the scripts. -/
theorem scanFiles_eq_gather
    (scanner : Scanner)
    (tree : FileTree)
    (root : Path)
    (files : List Path) :
    scanner.scanFiles tree root files =
      Harvest.gather
        (files.zip (scanner.resultsOf tree root files)) := by
  induction files with
  | nil => rfl
  | cons file rest ih =>
      unfold resultsOf at ih ⊢
      rw [List.map_cons, List.zip_cons_cons]
      unfold scanFiles Harvest.gather
      rw [ih]
      cases scanner.scanFile tree file root with
      | ok found => rfl
      | error fault =>
          cases fault with
          | project fault => rfl
          | read fault => rfl
          | template fault => rfl

end Scanner

end GradleMigration

------------------------------------------------------------
-- Steps and Runs
------------------------------------------------------------

namespace GradleMigration

namespace ScanPool

section

variable {scanner : Scanner}
variable {tree : FileTree}
variable {root : Path}
variable {files : List Path}
variable {workers : Nat}
variable {pool next : ScanPool}

/-
  A pool in the middle of a run: each script waits, is looked
  into, or has its result, and there are no other positions.
-/
structure OnTrack
    (scanner : Scanner)
    (tree : FileTree)
    (root : Path)
    (files : List Path)
    (pool : ScanPool) : Prop where
  size : pool.results.length = files.length
  bound : ∀ index ∈ pool.waiting ++ pool.running,
    index < files.length
  filled : ∀ index < files.length,
    index ∈ pool.waiting ++ pool.running ∨
      pool.results[index]? =
        (scanner.resultsOf tree root files)[index]?.map some

/- A pool with nothing done yet is on track. -/
theorem onTrack_start
    (scanner : Scanner)
    (tree : FileTree)
    (root : Path)
    (files : List Path) :
    OnTrack scanner tree root files (start files) where
  size := List.length_replicate
  bound index hIndex := by
    rw [start, List.append_nil, List.mem_range] at hIndex
    exact hIndex
  filled index hIndex := by
    left
    rw [start, List.append_nil, List.mem_range]
    exact hIndex

/- Taking a script only moves its position. -/
theorem OnTrack.take
    (h : OnTrack scanner tree root files pool)
    {index : Nat}
    {waiting : List Nat}
    (hWaiting : pool.waiting = index :: waiting) :
    OnTrack scanner tree root files
      { pool with
        waiting := waiting
        running := pool.running ++ [index] } := by
  have hPerm : (waiting ++ (pool.running ++ [index])).Perm
      (pool.waiting ++ pool.running) := by
    rw [hWaiting, ← List.append_assoc]
    exact List.perm_append_singleton _ _
  exact
    { size := h.size
      bound := fun other hOther =>
        h.bound other (hPerm.mem_iff.mp hOther)
      filled := fun other hOther =>
        (h.filled other hOther).imp_left hPerm.mem_iff.mpr }

/- A script among those that wait or are looked into. -/
theorem perm_running
    {worker index : Nat}
    (h : pool.running[worker]? = some index) :
    (pool.waiting ++ pool.running).Perm
      (index :: (pool.waiting ++
        pool.running.eraseIdx worker)) := by
  rcases List.getElem?_eq_some_iff.mp h with ⟨hLess, hIndex⟩
  have hPerm := List.getElem_cons_eraseIdx_perm hLess
  rw [hIndex] at hPerm
  exact (hPerm.symm.append_left _).trans List.perm_middle

/- A finished script has the result of looking into it. -/
theorem OnTrack.finish
    (h : OnTrack scanner tree root files pool)
    {worker index : Nat}
    {file : Path}
    (hIndex : pool.running[worker]? = some index)
    (hFile : files[index]? = some file) :
    OnTrack scanner tree root files
      { pool with
        running := pool.running.eraseIdx worker
        results := pool.results.set index
          (some (scanner.scanFile tree file root)) } := by
  have hPerm := perm_running hIndex
  refine
    { size := ?_
      bound := ?_
      filled := ?_ }
  · rw [List.length_set, h.size]
  · intro other hOther
    exact h.bound other
      (hPerm.mem_iff.mpr (List.mem_cons_of_mem _ hOther))
  · intro other hOther
    by_cases hEq : other = index
    · right
      subst hEq
      rw [List.getElem?_set_self (by rw [h.size]; exact hOther),
        Scanner.resultsOf, List.getElem?_map, hFile]
      rfl
    · rw [List.getElem?_set_ne (Ne.symm hEq)]
      refine (h.filled other hOther).imp_left ?_
      intro hMem
      exact (List.mem_cons.mp
        (hPerm.mem_iff.mp hMem)).resolve_left hEq

/- Whatever is done, a pool stays on track. -/
theorem onTrack_act
    {action : ScanAction}
    (h : OnTrack scanner tree root files pool)
    (hAct : pool.act scanner tree root files workers action =
      some next) :
    OnTrack scanner tree root files next := by
  unfold act at hAct
  cases action with
  | take =>
      simp only at hAct
      split at hAct
      · cases hAct
      · next index waiting hWaiting =>
          split at hAct
          · cases hAct
            exact h.take hWaiting
          · cases hAct
  | finish worker =>
      simp only at hAct
      split at hAct
      · cases hAct
      · next index hIndex =>
          split at hAct
          · cases hAct
          · next file hFile =>
              cases hAct
              exact h.finish hIndex hFile

/- A run of a pool stays on track. -/
theorem onTrack_run
    {actions : List ScanAction}
    (h : OnTrack scanner tree root files pool)
    (hRun : pool.run scanner tree root files workers actions =
      some next) :
    OnTrack scanner tree root files next := by
  induction actions generalizing pool with
  | nil =>
      cases hRun
      exact h
  | cons action actions ih =>
      unfold run at hRun
      split at hRun
      · cases hRun
      · next between hAct => exact ih (onTrack_act h hAct) hRun

/- A pool that is done has the outcome of the scan. -/
theorem OnTrack.outcome
    (h : OnTrack scanner tree root files pool)
    (hDone : pool.isDone = true) :
    pool.outcome files =
      some (scanner.scanFiles tree root files) := by
  unfold isDone at hDone
  rw [Bool.and_eq_true, List.isEmpty_iff,
    List.isEmpty_iff] at hDone
  have hResults : pool.results =
      (scanner.resultsOf tree root files).map some := by
    apply List.ext_getElem?
    intro index
    rw [List.getElem?_map]
    by_cases hIndex : index < files.length
    · rcases h.filled index hIndex with hLeft | hFilled
      · rw [hDone.1, hDone.2] at hLeft
        cases hLeft
      · exact hFilled
    · have hSize : (scanner.resultsOf tree root
          files).length = files.length := List.length_map _
      rw [List.getElem?_eq_none (by rw [h.size]; omega),
        List.getElem?_eq_none (by omega)]
      rfl
  unfold ScanPool.outcome
  rw [hResults, if_pos (by simp), List.filterMap_map,
    scanner.scanFiles_eq_gather]
  simp

/- A pool that is not done can do something. -/
theorem OnTrack.exists_act
    (hWorkers : 0 < workers)
    (h : OnTrack scanner tree root files pool)
    (hNot : pool.isDone = false) :
    ∃ action after,
      pool.act scanner tree root files workers action =
        some after := by
  cases hRunning : pool.running with
  | nil =>
      cases hWaiting : pool.waiting with
      | nil => simp [isDone, hRunning, hWaiting] at hNot
      | cons index waiting =>
          have hRoom : pool.running.length < workers := by
            rw [hRunning]
            exact hWorkers
          refine ⟨.take, { pool with
            waiting := waiting
            running := pool.running ++ [index] }, ?_⟩
          unfold act
          simp only [hWaiting, if_pos hRoom]
  | cons index running =>
      have hFirst : pool.running[0]? = some index := by
        rw [hRunning]
        rfl
      have hBound : index < files.length := by
        apply h.bound
        rw [hRunning]
        simp
      have hFile := List.getElem?_eq_getElem hBound
      refine ⟨.finish 0, { pool with
        running := pool.running.eraseIdx 0
        results := pool.results.set index
          (some (scanner.scanFile tree files[index] root)) }, ?_⟩
      unfold act
      simp only [hFirst, hFile]

/- How much there is left to do. -/
def cost
    (pool : ScanPool) : Nat :=
  2 * pool.waiting.length + pool.running.length

/- Whatever is done, there is less left to do. -/
theorem cost_act
    {action : ScanAction}
    (h : pool.act scanner tree root files workers action =
      some next) :
    next.cost < pool.cost := by
  unfold act at h
  unfold cost
  cases action with
  | take =>
      simp only at h
      split at h
      · cases h
      · next index waiting hWaiting =>
          split at h
          · cases h
            simp only [hWaiting, List.length_append,
              List.length_cons, List.length_nil]
            omega
          · cases h
  | finish worker =>
      simp only at h
      split at h
      · cases h
      · next index hIndex =>
          split at h
          · cases h
          · cases h
            rcases List.getElem?_eq_some_iff.mp hIndex with
              ⟨hWorker, _⟩
            simp only [List.length_eraseIdx, hWorker, if_true]
            omega

/- From every pool on track all can be done. -/
theorem OnTrack.exists_run
    (hWorkers : 0 < workers)
    (h : OnTrack scanner tree root files pool) :
    ∃ actions final,
      pool.run scanner tree root files workers actions =
          some final ∧
        final.isDone = true := by
  -- The induction is on how much there is left to do.
  induction hCost : pool.cost using Nat.strongRecOn
    generalizing pool with
  | ind amount ih =>
      by_cases hDone : pool.isDone = true
      · exact ⟨[], pool, rfl, hDone⟩
      · rcases h.exists_act hWorkers
            (Bool.eq_false_iff.mpr hDone) with
          ⟨action, after, hAct⟩
        have hLess : after.cost < amount :=
          hCost ▸ cost_act hAct
        rcases ih after.cost hLess (onTrack_act h hAct) rfl with
          ⟨actions, final, hRun, hFinal⟩
        refine ⟨action :: actions, final, ?_, hFinal⟩
        rw [run, hAct]
        exact hRun

end

/-
  What some workers may come to: the outcome of a run in which
  all scripts are looked into.
-/
def Yields
    (scanner : Scanner)
    (tree : FileTree)
    (root : Path)
    (files : List Path)
    (workers : Nat)
    (harvest : Except ScanFault Harvest) : Prop :=
  ∃ actions pool,
    (start files).run scanner tree root files workers
        actions = some pool ∧
      pool.isDone = true ∧
      pool.outcome files = some harvest

/- Workers can come to one thing only, and do come to it. -/
theorem yields_iff
    (scanner : Scanner)
    (tree : FileTree)
    (root : Path)
    (files : List Path)
    {workers : Nat}
    (hWorkers : 0 < workers)
    (harvest : Except ScanFault Harvest) :
    Yields scanner tree root files workers harvest ↔
      harvest = scanner.scanFiles tree root files := by
  have hStart := onTrack_start scanner tree root files
  constructor
  · rintro ⟨actions, pool, hRun, hDone, hOutcome⟩
    rw [(onTrack_run hStart hRun).outcome hDone] at hOutcome
    exact (Option.some.inj hOutcome).symm
  · intro hHarvest
    rcases hStart.exists_run hWorkers with
      ⟨actions, pool, hRun, hDone⟩
    refine ⟨actions, pool, hRun, hDone, ?_⟩
    rw [(onTrack_run hStart hRun).outcome hDone, hHarvest]

end ScanPool

end GradleMigration
