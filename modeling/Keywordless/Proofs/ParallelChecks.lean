import Keywordless.Proofs.CachedChecks

/-!
# Checks at the same time

The workers of a call run at the same time and share the files and the cache. A `Pool` has a worker
for each file, and a schedule says which of them takes the next step. What a worker has so far comes
from its own file and from what was kept for the same text, however the steps of the others fall in
between. So the results do not hang on the schedule, and they are those of files that are checked
alone.
-/

namespace Keywordless

namespace Worker

def isFinished : Worker → Bool
  | finished _ => true
  | _ => false

theorem isFinished_iff {worker : Worker} : worker.isFinished = true ↔ ∃ r, worker = finished r := by
  cases worker <;> simp [isFinished]

def stepsLeft : Worker → Nat
  | waiting => stepLimit
  | loaded .. => 3
  | missed .. => 2
  | compiled .. => 1
  | finished _ => 0

end Worker

structure Pool where
  workers : List (Bytes × Worker)
  log : TraceLog

namespace Pool

def start (paths : List Bytes) (log : TraceLog) : Pool where
  workers := paths.map (·, .waiting)
  log

/-- How many workers may be at work at once: as many as are asked for or else as there are
processors, and no more than there are files. -/
def slots (processors : Nat) (jobs : Int) (files : Nat) : Nat :=
  min (if jobs ≤ 0 then processors else jobs.toNat) files

/-- Whether a worker may take the next step. Workers are called up in the order of the files, and
each of them holds a slot until it is finished. -/
def admits (p : Pool) (slots i : Nat) : Bool :=
  (p.workers[i]?.any fun w => !w.2.isFinished) &&
    decide ((p.workers.take i).countP (fun w => !w.2.isFinished) < slots)

def step (options : CheckOptions) (store : ResultStore (StateM FileTree)) (i : Nat) (p : Pool) :
    StateM FileTree Pool :=
  match p.workers[i]? with
  | none => return p
  | some (path, worker) => do
    let progress ← worker.step options store path p.log
    return { workers := p.workers.set i (path, progress.worker), log := progress.log }

def run (options : CheckOptions) (store : ResultStore (StateM FileTree)) (slots : Nat) :
    List Nat → Pool → StateM FileTree (Option Pool)
  | [], p => return some p
  | i :: schedule, p => do
    if p.admits slots i then
      run options store slots schedule (← p.step options store i)
    else
      return none

def isFinished (p : Pool) : Bool := p.workers.all (·.2.isFinished)

def results (p : Pool) : List CheckResult := p.workers.map fun w => w.2.result w.1

def stepsLeft (p : Pool) : Nat := (p.workers.map (·.2.stepsLeft)).sum

end Pool

/-- The diagnostics of a file that is checked alone and without a cache. -/
def FileTree.bagAlone (t : FileTree) (options : CheckOptions) (path : Bytes) : Bag :=
  match t.content path with
  | .error e =>
    { Bag.ofLimit options.maxDiagnostics with
      items := [.error .loadFailed {} ("failed to load file: " ++ e.message)] }
  | .ok raw =>
    let (file, files) := FileSet.single path raw
    (compileTimed { maxDiagnostics := options.maxDiagnostics } files file {} : Id Compilation).bag

/-- What a tree has been through that holds a cache, with the checks that were made since it was
empty: files outside of the cache were edited, files were checked with the cache at the same time,
and the cache was cleared. A call may have been cut off. -/
inductive CacheHistory (codec : PayloadCodec) (cache : DiskCache) (place : Place)
    (build : Build) : FileTree → List (Nat × Bytes) → Prop
  | start {t : FileTree} (vacant : t.Vacant place) : CacheHistory codec cache place build t []
  | edit {t t' : FileTree} {past : List (Nat × Bytes)}
      (before : CacheHistory codec cache place build t past) (housed : t'.Housed place)
      (kept : ∀ q, place <+: q → t'.entryAt? q = t.entryAt? q) :
      CacheHistory codec cache place build t' past
  | run {t u : FileTree} {past : List (Nat × Bytes)} {options : CheckOptions}
      {paths : List Bytes} {log : TraceLog} {slots : Nat} {schedule : List Nat} {p : Pool}
      (before : CacheHistory codec cache place build t past) (same : options.build = build)
      (checkable : ∀ path ∈ paths, Checkable codec place options t path)
      (called : Pool.run options (cache.store codec) slots schedule (.start paths log) t =
        (some p, u)) :
      CacheHistory codec cache place build u (t.checks options paths ++ past)
  | clear {t : FileTree} {past : List (Nat × Bytes)}
      (before : CacheHistory codec cache place build t past) :
      CacheHistory codec cache place build
        ((cache.clear : StateM FileTree (Except FileError Unit)) t).2
        (if (t.lstat cache.dir).isOk then [] else past)

/-! ### One step of a worker -/

namespace Worker

open FileTree (SameOutside)

variable {options : CheckOptions} {path : Bytes} {log : TraceLog}

private theorem stepsLeft_step (options : CheckOptions) (store : ResultStore (StateM FileTree))
    (path : Bytes) (log : TraceLog) (t : FileTree) {worker : Worker}
    (h : worker.isFinished = false) :
    ((worker.step options store path log : StateM FileTree Progress) t).1.worker.stepsLeft <
      worker.stepsLeft := by
  cases worker with
  | waiting =>
    cases hcontent : t.content path with
    | error e =>
      rw [step_waiting_error hcontent]
      simp [stepsLeft, stepLimit]
    | ok raw =>
      rw [step_waiting_ok hcontent]
      simp [stepsLeft, stepLimit]
  | loaded files file =>
    rcases hlookup : store.lookup (.ofFile options.build file) t with ⟨_ | p, t'⟩
    · rw [step_loaded_none hlookup]
      simp [stepsLeft]
    · rw [step_loaded_some hlookup]
      simp [stepsLeft]
  | missed files file =>
    obtain ⟨_, hstep⟩ := step_missed options store path log t files file
    rw [hstep]
    simp [stepsLeft]
  | compiled file c =>
    obtain ⟨_, hstep⟩ := step_compiled options store path log t file c
    rw [hstep]
    simp [stepsLeft]
  | finished r => cases h

/-- What a worker has comes from its file alone, up to what was kept for a text of the same key. -/
def Sound (options : CheckOptions) (t : FileTree) (past : List (Nat × Bytes)) (path : Bytes) :
    Worker → Prop
  | waiting => True
  | loaded files file | missed files file =>
    ∃ raw, t.content path = .ok raw ∧ file = (FileSet.single path raw).1 ∧
      files = (FileSet.single path raw).2
  | compiled file c =>
    ∃ raw, t.content path = .ok raw ∧ file = (FileSet.single path raw).1 ∧
      CheckResult.payload options path c = CheckResult.kept options path file ∧
      (CheckResult.ofCompilation path c).Shows options t past path
  | finished r => r.Shows options t past path

variable {store : ResultStore (StateM FileTree)} {t u : FileTree} {past : List (Nat × Bytes)}
  {paths : List Bytes} {ready : FileTree → Prop} {worker : Worker}

/-- A step keeps what is known about its worker and about the store. -/
theorem Sound.step (h : worker.Sound options t past path)
    (hstore : store.Serves options t past paths ready) (hmem : path ∈ paths) (hready : ready u)
    (log : TraceLog) :
    let out := (worker.step options store path log : StateM FileTree Progress) u
    out.1.worker.Sound options t past path ∧ ready out.2 := by
  cases worker with
  | waiting =>
    have hcontent : u.content path = t.content path := hstore.apart u hready path hmem
    cases hread : t.content path with
    | error e =>
      rw [step_waiting_error (hcontent.trans hread)]
      refine ⟨⟨rfl, ?_⟩, hready⟩
      rw [hread]
    | ok raw =>
      rw [step_waiting_ok (hcontent.trans hread)]
      exact ⟨⟨raw, hread, rfl, rfl⟩, hready⟩
  | loaded files file =>
    obtain ⟨raw, hread, rfl, rfl⟩ := h
    obtain ⟨found, hlookup, hkept⟩ :=
      hstore.lookup u hready (.ofFile options.build (FileSet.single path raw).1)
    cases found with
    | none =>
      rw [step_loaded_none hlookup]
      exact ⟨⟨raw, hread, rfl, rfl⟩, hready⟩
    | some p =>
      -- The entry may be from any worker or from an earlier call.
      rw [step_loaded_some hlookup]
      exact ⟨Checker.restored_shows hread (hkept p rfl), hready⟩
  | missed files file =>
    obtain ⟨raw, hread, rfl, rfl⟩ := h
    obtain ⟨hpayload, -⟩ := Checker.compiled_outcome options path raw log
    obtain ⟨_, hstep⟩ := step_missed options store path log u
      (FileSet.single path raw).2 (FileSet.single path raw).1
    have hown := hstore.own (FileTree.mem_checks options hmem hread)
    rw [hstep]
    exact ⟨⟨raw, hread, rfl, hpayload, Checker.compiled_shows hread hown log⟩, hready⟩
  | compiled file c =>
    obtain ⟨raw, hread, rfl, hpayload, hshows⟩ := h
    obtain ⟨_, hstep⟩ := step_compiled options store path log u (FileSet.single path raw).1 c
    rw [hstep, hpayload]
    exact ⟨hshows, hstore.keep u hready path hmem raw hread⟩
  | finished r => exact ⟨h, hready⟩

end Worker

/-! ### Every schedule -/

namespace Pool

open FileTree (SameOutside)

variable {options : CheckOptions} {store : ResultStore (StateM FileTree)} {slots i : Nat}
  {schedule : List Nat} {p pool : Pool} {t u : FileTree} {paths : List Bytes}
  {before after : List (Bytes × Worker)} {path : Bytes} {worker : Worker} {log : TraceLog}

def stepped (before after : List (Bytes × Worker)) (path : Bytes) (progress : Worker.Progress) :
    Pool where
  workers := before ++ (path, progress.worker) :: after
  log := progress.log

private theorem admits_iff : p.admits slots i = true ↔ ∃ before path worker after,
    p.workers = before ++ (path, worker) :: after ∧ before.length = i ∧
      worker.isFinished = false ∧ before.countP (fun w => !w.2.isFinished) < slots := by
  simp only [admits, Bool.and_eq_true, decide_eq_true_eq, Option.any_eq_true]
  constructor
  · rintro ⟨⟨⟨path, worker⟩, hworker, hworking⟩, hcount⟩
    obtain ⟨hi, hget⟩ := List.getElem?_eq_some_iff.mp hworker
    refine ⟨p.workers.take i, path, worker, p.workers.drop (i + 1), ?_, ?_, ?_, hcount⟩
    · rw [← hget, List.getElem_cons_drop, List.take_append_drop]
    · exact List.length_take_of_le hi.le
    · simpa using hworking
  · rintro ⟨before, path, worker, after, hworkers, rfl, hworking, hcount⟩
    refine ⟨⟨(path, worker), ?_, ?_⟩, ?_⟩
    · simp [hworkers]
    · simpa using hworking
    · simpa [hworkers] using hcount

private theorem step_eq (hworkers : p.workers = before ++ (path, worker) :: after) :
    p.step options store before.length t =
      let out := (worker.step options store path p.log : StateM FileTree Worker.Progress) t
      (stepped before after path out.1, out.2) := by
  have hworker : p.workers[before.length]? = some (path, worker) := by simp [hworkers]
  simp only [step, hworker, bind, StateT.bind]
  rcases (worker.step options store path p.log : StateM FileTree Worker.Progress) t with
    ⟨progress, u⟩
  simp [stepped, hworkers, pure, StateT.pure]

private theorem run_cons (hworkers : p.workers = before ++ (path, worker) :: after)
    (hworking : worker.isFinished = false)
    (hcount : before.countP (fun w => !w.2.isFinished) < slots) :
    run options store slots (before.length :: schedule) p t =
      let out := (worker.step options store path p.log : StateM FileTree Worker.Progress) t
      run options store slots schedule (stepped before after path out.1) out.2 := by
  have hadmits : p.admits slots before.length = true :=
    admits_iff.mpr ⟨before, path, worker, after, hworkers, rfl, hworking, hcount⟩
  simp only [run, hadmits, if_true, bind, StateT.bind, step_eq hworkers]

theorem exists_of_run_cons (h : run options store slots (i :: schedule) p t = (some pool, u)) :
    ∃ before path worker after, p.workers = before ++ (path, worker) :: after ∧
      before.length = i ∧ worker.isFinished = false ∧
      let out := (worker.step options store path p.log : StateM FileTree Worker.Progress) t
      run options store slots schedule (stepped before after path out.1) out.2 =
        (some pool, u) := by
  by_cases hadmits : p.admits slots i = true
  · obtain ⟨before, path, worker, after, hworkers, rfl, hworking, hcount⟩ := admits_iff.mp hadmits
    rw [run_cons hworkers hworking hcount] at h
    exact ⟨before, path, worker, after, hworkers, rfl, hworking, h⟩
  · simp only [run, hadmits] at h
    cases h

private theorem length_add_stepsLeft_le
    (h : run options store slots schedule p t = (some pool, u)) :
    schedule.length + pool.stepsLeft ≤ p.stepsLeft := by
  induction schedule generalizing p t with
  | nil =>
    obtain rfl : p = pool := Option.some.inj (congrArg Prod.fst h)
    simp
  | cons i schedule ih =>
    obtain ⟨before, path, worker, after, hworkers, -, hworking, hrest⟩ := exists_of_run_cons h
    have hrest := ih hrest
    have hless := Worker.stepsLeft_step options store path p.log t hworking
    simp only [stepsLeft, stepped, hworkers, List.map_append, List.map_cons, List.sum_append,
      List.sum_cons, List.length_cons] at hrest ⊢
    omega

private theorem stepsLeft_start (paths : List Bytes) (log : TraceLog) :
    (start paths log).stepsLeft = Worker.stepLimit * paths.length := by
  induction paths with
  | nil => rfl
  | cons path rest ih =>
    simp only [stepsLeft, start, List.map_cons, List.sum_cons, List.length_cons] at ih ⊢
    rw [ih]
    simp only [Worker.stepsLeft]
    ring

private theorem countP_lt_slots (hslots : 0 < slots) (hdone : ∀ w ∈ before, w.2.isFinished = true) :
    before.countP (fun w => !w.2.isFinished) < slots := by
  rw [List.countP_eq_zero.mpr fun w hw => by simp [hdone w hw]]
  exact hslots

/-- The first worker that is not finished may take a step. -/
theorem exists_admits (hslots : 0 < slots) (h : p.isFinished = false) :
    ∃ i, p.admits slots i = true := by
  obtain ⟨w, hw, hworking⟩ := List.all_eq_false.mp h
  obtain ⟨⟨path, worker⟩, hfirst⟩ :
      ∃ w, p.workers.find? (fun w => !w.2.isFinished) = some w := by
    rw [← Option.isSome_iff_exists, List.find?_isSome]
    exact ⟨w, hw, by simpa using hworking⟩
  obtain ⟨hworker, before, after, hworkers, hdone⟩ := List.find?_eq_some_iff_append.mp hfirst
  refine ⟨before.length, admits_iff.mpr ⟨before, path, worker, after, hworkers, rfl, ?_, ?_⟩⟩
  · simpa using hworker
  · exact countP_lt_slots hslots fun w hw => by simpa using hdone w hw

private theorem slots_pos {processors files : Nat} (hprocessors : 0 < processors)
    (hfiles : 0 < files) (jobs : Int) : 0 < Pool.slots processors jobs files := by
  unfold Pool.slots
  split <;> omega

/-- All workers are sound, and the store that they share goes on to serve them. -/
structure Sound (options : CheckOptions) (t : FileTree) (past : List (Nat × Bytes))
    (paths : List Bytes) (ready : FileTree → Prop) (p : Pool) (u : FileTree) : Prop where
  order : p.workers.map Prod.fst = paths
  workers : ∀ w ∈ p.workers, w.2.Sound options t past w.1
  ready : ready u

variable {past : List (Nat × Bytes)} {ready : FileTree → Prop}

private theorem Sound.start (h : ready t) (past : List (Nat × Bytes)) (paths : List Bytes)
    (log : TraceLog) : Sound options t past paths ready (.start paths log) t where
  order := by simp [Pool.start, Function.comp_def]
  workers w hw := by
    obtain ⟨path, -, rfl⟩ := List.mem_map.mp hw
    trivial
  ready := h

private theorem Sound.stepped (h : Sound options t past paths ready p u)
    (hstore : store.Serves options t past paths ready)
    (hworkers : p.workers = before ++ (path, worker) :: after) :
    let out := (worker.step options store path p.log : StateM FileTree Worker.Progress) u
    Sound options t past paths ready (stepped before after path out.1) out.2 := by
  intro out
  have horder : paths = before.map Prod.fst ++ path :: after.map Prod.fst := by
    rw [← h.order, hworkers]
    simp
  have hsound := h.workers
  rw [hworkers, List.forall_mem_append, List.forall_mem_cons] at hsound
  obtain ⟨hbefore, hworker, hafter⟩ := hsound
  obtain ⟨hstepped, hready⟩ := hworker.step hstore (by simp [horder]) h.ready p.log
  refine ⟨?_, ?_, hready⟩
  · simp [Pool.stepped, horder]
  · exact List.forall_mem_append.mpr ⟨hbefore, List.forall_mem_cons.mpr ⟨hstepped, hafter⟩⟩

private theorem Sound.run (h : Sound options t past paths ready p u)
    (hstore : store.Serves options t past paths ready) {u' : FileTree}
    (hrun : Pool.run options store slots schedule p u = (some pool, u')) :
    Sound options t past paths ready pool u' := by
  induction schedule generalizing p u with
  | nil =>
    obtain ⟨hpool, rfl⟩ := Prod.mk.inj hrun
    exact Option.some.inj hpool ▸ h
  | cons i schedule ih =>
    obtain ⟨before, path, worker, after, hworkers, -, -, hrest⟩ := exists_of_run_cons hrun
    exact ih (h.stepped hstore hworkers) hrest

private theorem sound_of_run (hstore : store.Serves options t past paths ready)
    (hrun : run options store slots schedule (.start paths log) t = (some p, u)) :
    Sound options t past paths ready p u :=
  (Sound.start hstore.start past paths log).run hstore hrun

private theorem Sound.files_pos (h : Sound options t past paths ready p u)
    (hworking : p.isFinished = false) : 0 < paths.length := by
  obtain ⟨w, hw, -⟩ := List.all_eq_false.mp hworking
  rw [← h.order, List.length_map]
  exact List.length_pos_of_mem hw

private theorem Sound.results_show (h : Sound options t past paths ready p u)
    (hfinished : p.isFinished = true) :
    List.Forall₂ (fun path r => path ∈ paths ∧ r.Shows options t past path) paths p.results := by
  rw [← h.order, results, List.forall₂_map_left_iff, List.forall₂_map_right_iff, List.forall₂_same]
  rintro ⟨path, worker⟩ hmem
  obtain ⟨r, rfl⟩ := Worker.isFinished_iff.mp (List.all_eq_true.mp hfinished _ hmem)
  exact ⟨List.mem_map_of_mem hmem, h.workers _ hmem⟩

end Pool

private theorem CacheHistory.recorded {codec : PayloadCodec} {cache : DiskCache} {place : Place}
    {build : Build} {t : FileTree} {past : List (Nat × Bytes)} (hcache : cache.At place)
    (h : CacheHistory codec cache place build t past) : Recorded codec place build past t := by
  induction h with
  | start vacant => exact .of_vacant vacant
  | edit before housed kept ih => exact ih.edited housed kept
  | run before same checkable called ih =>
    subst same
    exact (Pool.sound_of_run (DiskCache.serves hcache ih checkable) called).ready.2
  | @clear t past before ih =>
    cases hfound : t.lstat cache.dir with
    | error e =>
      rw [DiskCache.clear_missing hfound]
      exact ih
    | ok kind => exact .of_vacant (DiskCache.clear_run hcache ih.housed hfound)

/-! ### What a file shows alone -/

namespace FileTree

variable {t : FileTree} {options : CheckOptions} {path : Bytes}

private theorem bagAlone_error {e : FileError} (h : t.content path = .error e) :
    t.bagAlone options path = (CheckResult.unreadable options path e).bag := by
  simp only [bagAlone, h]
  exact (if_pos (Bag.ofLimit_pos options.maxDiagnostics)).symm

private theorem bagAlone_ok {raw : Bytes} (h : t.content path = .ok raw) :
    t.bagAlone options path = (Bag.ofLimit options.maxDiagnostics).addAll
      (SourceFile.ofText (FileSet.single path raw).1.content).findings := by
  simp only [bagAlone, h]
  exact (Checker.compiled_outcome options path raw {}).2

private theorem length_bagAlone_le (t : FileTree) (options : CheckOptions) (path : Bytes) :
    (t.bagAlone options path).items.length ≤ options.room := by
  have hroom (ds : List Diagnostic) :
      ((Bag.ofLimit options.maxDiagnostics).addAll ds).items.length ≤ options.room := by
    rw [Bag.ofLimit_addAll]
    exact List.length_take_le _ _
  cases hcontent : t.content path with
  | error e =>
    rw [bagAlone_error hcontent]
    exact hroom [_]
  | ok raw =>
    rw [bagAlone_ok hcontent]
    exact hroom _

end FileTree

private theorem Bag.addAll_take (limit : Int) (ds : List Diagnostic) (count : Nat) :
    (ofLimit limit).addAll (ds.take count) =
      { (ofLimit limit).addAll ds with items := ((ofLimit limit).addAll ds).items.take count } := by
  simp [ofLimit_addAll, List.take_take, Nat.min_comm]

namespace CheckResult.Shows

variable {options : CheckOptions} {t : FileTree} {past : List (Nat × Bytes)} {path : Bytes}
  {paths : List Bytes} {r : CheckResult}

/-- Among texts with keys of their own, the result shows as many diagnostics as this check or an
earlier one of the same text had room for. -/
theorem curtailed (h : r.Shows options t (t.checks options paths ++ past) path)
    (hmem : path ∈ paths) (hkeys : Set.InjOn (CacheKey.ofText options.build)
      {text | ∃ limit, (limit, text) ∈ t.checks options paths ++ past}) :
    ∃ limit,
      r.bag = { t.bagAlone options path with
        items := (t.bagAlone options path).items.take limit } ∧
      (limit = options.room ∨ ∃ text, t.text? path = some text ∧ (limit, text) ∈ past) := by
  obtain ⟨-, hbag⟩ := h
  cases hcontent : t.content path with
  | error e =>
    rw [hcontent] at hbag
    refine ⟨options.room, ?_, .inl rfl⟩
    rw [List.take_of_length_le (t.length_bagAlone_le options path), hbag,
      FileTree.bagAlone_error hcontent]
  | ok raw =>
    rw [hcontent] at hbag
    obtain ⟨⟨limit, text⟩, hcheck, hkey, hbag⟩ := hbag
    have hown := FileTree.mem_checks options hmem hcontent
    -- The entry was kept for a text with the same key, which is this text.
    obtain rfl : text = (FileSet.single path raw).1.content :=
      hkeys ⟨limit, hcheck⟩ ⟨_, List.mem_append_left _ hown⟩ hkey
    refine ⟨limit, ?_, ?_⟩
    · rw [hbag, Bag.addAll_take, FileTree.bagAlone_ok hcontent]
    · obtain hcheck | hcheck := List.mem_append.mp hcheck
      · obtain ⟨_, -, hroom⟩ := List.mem_map.mp hcheck
        exact .inl (congrArg Prod.fst hroom).symm
      · exact .inr ⟨_, FileTree.text?_ok hcontent, hcheck⟩

/-- Unless an earlier check of the same text had less room, the file shows what it shows alone. -/
theorem bag_alone (h : r.Shows options t (t.checks options paths ++ past) path)
    (hmem : path ∈ paths) (hkeys : Set.InjOn (CacheKey.ofText options.build)
      {text | ∃ limit, (limit, text) ∈ t.checks options paths ++ past})
    (hroom : ∀ text limit, t.text? path = some text → (limit, text) ∈ past →
      options.room ≤ limit) :
    r.bag = t.bagAlone options path := by
  obtain ⟨limit, hbag, hlimit⟩ := h.curtailed hmem hkeys
  have hle : options.room ≤ limit := by
    obtain rfl | ⟨text, htext, hcheck⟩ := hlimit
    · exact le_rfl
    · exact hroom text limit htext hcheck
  rw [hbag, List.take_of_length_le ((t.length_bagAlone_le options path).trans hle)]

end CheckResult.Shows

/-! ### One file after the other -/

def Checker.quiet (options : CheckOptions) (store : ResultStore (StateM FileTree)) :
    Checker (StateM FileTree) where
  options
  store
  tell _ := pure ()

namespace Worker

variable {options : CheckOptions} {store : ResultStore (StateM FileTree)} {path : Bytes}
  {log : TraceLog} {t : FileTree}

private theorem run_of_step {worker : Worker} {p : Progress} {t' : FileTree}
    (h : (worker.step options store path log : StateM FileTree Progress) t = (p, t'))
    (steps : Nat) :
    (run options store (fun _ => pure ()) path (steps + 1) log worker :
      StateM FileTree (Worker × TraceLog)) t =
      (run options store (fun _ => pure ()) path steps p.log p.worker :
        StateM FileTree (Worker × TraceLog)) t' := by
  have hquiet (news : List CheckEvent) (t : FileTree) :
      (news.forM fun _ => (pure () : StateM FileTree Unit)) t = ((), t) := by
    induction news with
    | nil => rfl
    | cons event rest ih => exact ih
  simp only [run, bind, StateT.bind, h, hquiet]

private theorem run_finished (steps : Nat) (result : CheckResult) :
    (run options store (fun _ => pure ()) path steps log (.finished result) :
      StateM FileTree (Worker × TraceLog)) t = ((.finished result, log), t) := by
  induction steps with
  | zero => rfl
  | succ steps ih =>
    have hstep : ((finished result).step options store path log : StateM FileTree Progress) t =
        (⟨.finished result, [], log⟩, t) := rfl
    rw [run_of_step hstep, ih]

variable (options store path)

private theorem run_isFinished {steps : Nat} {worker : Worker} (h : worker.stepsLeft ≤ steps)
    (log : TraceLog) (t : FileTree) :
    ((run options store (fun _ => pure ()) path steps log worker :
      StateM FileTree (Worker × TraceLog)) t).1.1.isFinished = true := by
  induction steps generalizing worker log t with
  | zero =>
    cases worker with
    | finished r => rfl
    | _ => cases h
  | succ steps ih =>
    cases hworking : worker.isFinished with
    | true =>
      obtain ⟨r, rfl⟩ := isFinished_iff.mp hworking
      rw [run_finished]
      rfl
    | false =>
      have hless := stepsLeft_step options store path log t hworking
      rcases hstep : (worker.step options store path log : StateM FileTree Progress) t with
        ⟨progress, u⟩
      rw [hstep] at hless
      rw [run_of_step hstep]
      exact ih (Nat.le_of_lt_succ (hless.trans_le h)) progress.log u

end Worker

namespace Checker

variable {options : CheckOptions} {store : ResultStore (StateM FileTree)} {path : Bytes}
  {log log' : TraceLog} {t t' : FileTree}

private theorem checkFile_of_run {result : CheckResult}
    (h : (Worker.run options store (fun _ => pure ()) path Worker.stepLimit log .waiting :
      StateM FileTree (Worker × TraceLog)) t = ((.finished result, log'), t')) :
    (quiet options store).checkFile log path t = ((result, log'), t') := by
  simp only [checkFile, quiet, bind, StateT.bind, pure, StateT.pure] at h ⊢
  rw [h]
  rfl

private theorem checkFiles_cons {r : CheckResult}
    (h : (quiet options store).checkFile log path t = ((r, log'), t'))
    (rest : List Bytes) : (quiet options store).checkFiles log (path :: rest) t =
      let more := (quiet options store).checkFiles log' rest t'
      ((r :: more.1.1, more.1.2), more.2) := by
  simp only [checkFiles, bind, StateT.bind, h]
  rfl

end Checker

namespace Pool

variable (options : CheckOptions) (store : ResultStore (StateM FileTree)) {slots : Nat}

private theorem exists_run_worker (hslots : 0 < slots) {before : List (Bytes × Worker)}
    (hdone : ∀ w ∈ before, w.2.isFinished = true) (after : List (Bytes × Worker)) (path : Bytes)
    (steps : Nat) (log : TraceLog) (worker : Worker) (t : FileTree) :
    let out := (Worker.run options store (fun _ => pure ()) path steps log worker :
      StateM FileTree (Worker × TraceLog)) t
    ∃ schedule, ∀ more, run options store slots (schedule ++ more)
        ⟨before ++ (path, worker) :: after, log⟩ t =
      run options store slots more ⟨before ++ (path, out.1.1) :: after, out.1.2⟩ out.2 := by
  induction steps generalizing worker log t with
  | zero => exact ⟨[], fun more => rfl⟩
  | succ steps ih =>
    cases hworking : worker.isFinished with
    | true =>
      obtain ⟨r, rfl⟩ := Worker.isFinished_iff.mp hworking
      rw [Worker.run_finished]
      exact ⟨[], fun more => rfl⟩
    | false =>
      rcases hstep : (worker.step options store path log : StateM FileTree Worker.Progress) t with
        ⟨progress, u⟩
      rw [Worker.run_of_step hstep]
      obtain ⟨schedule, hschedule⟩ := ih progress.log progress.worker u
      refine ⟨before.length :: schedule, fun more => ?_⟩
      rw [List.cons_append, run_cons rfl hworking (countP_lt_slots hslots hdone), hstep]
      exact hschedule more

/-- Checking one file after the other is one of the schedules. -/
theorem exists_run_checkFiles (hslots : 0 < slots) (paths : List Bytes)
    -- The workers of the files before.
    {before : List (Bytes × Worker)} (hdone : ∀ w ∈ before, w.2.isFinished = true)
    (log : TraceLog) (t : FileTree) :
    let out := (Checker.quiet options store).checkFiles log paths t
    ∃ schedule p, run options store slots schedule
        ⟨before ++ paths.map (·, .waiting), log⟩ t = (some p, out.2) ∧
      p.isFinished = true ∧ p.log = out.1.2 ∧
      p.results = before.map (fun w => w.2.result w.1) ++ out.1.1 := by
  induction paths generalizing before log t with
  | nil =>
    refine ⟨[], ⟨before, log⟩, ?_, List.all_eq_true.mpr hdone, rfl, ?_⟩
    · rw [List.map_nil, List.append_nil]
      rfl
    · exact (List.append_nil _).symm
  | cons path rest ih =>
    have hfinished := Worker.run_isFinished options store path
      (le_refl Worker.waiting.stepsLeft) log t
    obtain ⟨first, hfirst⟩ := exists_run_worker options store hslots hdone
      (rest.map (·, .waiting)) path Worker.waiting.stepsLeft log .waiting t
    rcases hone : (Worker.run options store (fun _ => pure ()) path Worker.waiting.stepsLeft log
      .waiting : StateM FileTree (Worker × TraceLog)) t with ⟨⟨worker, log'⟩, u⟩
    rw [hone] at hfinished hfirst
    obtain ⟨r, rfl⟩ := Worker.isFinished_iff.mp hfinished
    have hdone' : ∀ w ∈ before ++ [(path, .finished r)], w.2.isFinished = true :=
      List.forall_mem_append.mpr ⟨hdone, List.forall_mem_singleton.mpr rfl⟩
    obtain ⟨schedule, p, hrun, hall, hlog, hresults⟩ := ih hdone' log' u
    rw [Checker.checkFiles_cons (Checker.checkFile_of_run hone)]
    refine ⟨first ++ schedule, p, ?_, hall, hlog, ?_⟩
    · rw [List.append_assoc] at hrun
      exact (hfirst schedule).trans hrun
    · rw [hresults, List.map_append, List.append_assoc]
      rfl

private theorem forall₂_of_common {α β γ : Type} {r : α → β → Prop} {s : α → γ → Prop}
    {as : List α} {bs : List β} {cs : List γ} (hb : List.Forall₂ r as bs)
    (hc : List.Forall₂ s as cs) : List.Forall₂ (fun b c => ∃ a, r a b ∧ s a c) bs cs := by
  induction hb generalizing cs with
  | nil =>
    cases hc
    exact .nil
  | cons hfirst _ ih =>
    cases hc with
    | cons hfirst' hrest' => exact .cons ⟨_, hfirst, hfirst'⟩ (ih hrest')

/-- Whatever the store, a call comes to its end when one file is checked after the other. -/
theorem exists_run_start {processors : Nat} (hprocessors : 0 < processors) (jobs : Int)
    (paths : List Bytes) (log : TraceLog) (t : FileTree) :
    ∃ schedule p u, run options store (Pool.slots processors jobs paths.length) schedule
        (start paths log) t = (some p, u) ∧ p.isFinished = true ∧
      (Checker.quiet options store).checkFiles log paths t = ((p.results, p.log), u) := by
  cases paths with
  | nil => exact ⟨[], start [] log, t, rfl, rfl, rfl⟩
  | cons path rest =>
    have hslots := slots_pos hprocessors (Nat.succ_pos rest.length) jobs
    obtain ⟨schedule, p, hrun, hfinished, hlog, hresults⟩ := exists_run_checkFiles options
      store hslots (path :: rest) (List.forall_mem_nil _) log t
    refine ⟨schedule, p, _, hrun, hfinished, ?_⟩
    rw [hlog, hresults]
    rfl

variable {options}

/-- However the steps of the workers fall, and however many of them are at work at once: there are
no more than four steps for each file, as long as there is something to do a worker may take a step,
and in the end each file has the result that it has when it is checked alone, in the order of the
files. To check one file after the other is one of the schedules. -/
theorem run_results_alone {codec : PayloadCodec} {cache : DiskCache} {place : Place}
    {t : FileTree} {past : List (Nat × Bytes)} (hcache : cache.At place)
    (hpast : CacheHistory codec cache place options.build t past)
    (hsame : ∀ check ∈ past, check.1 = options.room) {paths : List Bytes}
    (hpaths : ∀ path ∈ paths, Checkable codec place options t path)
    (hkeys : Set.InjOn (CacheKey.ofText options.build)
      {text | ∃ limit, (limit, text) ∈ t.checks options paths ++ past})
    {processors : Nat} (hprocessors : 0 < processors) (jobs : Int) (log : TraceLog) :
    let slots := Pool.slots processors jobs paths.length
    (∀ schedule p u,
      run options (cache.store codec) slots schedule (start paths log) t = (some p, u) →
      schedule.length ≤ Worker.stepLimit * paths.length ∧
      (p.isFinished = false → ∃ i, p.admits slots i = true) ∧
      (p.isFinished = true → List.Forall₂
        (fun path r => r.path = path ∧ r.bag = t.bagAlone options path) paths p.results)) ∧
    ∃ schedule p u,
      run options (cache.store codec) slots schedule (start paths log) t = (some p, u) ∧
      p.isFinished = true ∧
      (Checker.quiet options (cache.store codec)).checkFiles log paths t =
        ((p.results, p.log), u) := by
  intro slots
  refine ⟨fun schedule p u hrun => ?_, exists_run_start options _ hprocessors jobs paths log t⟩
  have hsound := sound_of_run (DiskCache.serves hcache (hpast.recorded hcache) hpaths) hrun
  refine ⟨?_, fun hworking => ?_, fun hfinished => ?_⟩
  · rw [← stepsLeft_start paths log]
    exact (Nat.le_add_right _ _).trans (length_add_stepsLeft_le hrun)
  · exact exists_admits (slots_pos hprocessors (hsound.files_pos hworking) jobs) hworking
  · refine (hsound.results_show hfinished).imp fun path r hshows => ?_
    obtain ⟨hmem, hshows⟩ := hshows
    refine ⟨hshows.1, hshows.bag_alone hmem hkeys fun text limit _ hcheck => ?_⟩
    exact (hsame _ hcheck).ge

/-- Whatever a cache has been through and however the steps of the workers fall, every result is
about the same file as without the cache and shows the same diagnostics, cut to what this check or
an earlier one of the same text had room for. So a check shows what it shows without the cache as
long as no check of the same text since the cache was empty had less room. To check one file after
the other is one of the schedules, with the cache and without it. -/
theorem run_cached {codec : PayloadCodec} {cache : DiskCache} {place : Place}
    {t : FileTree} {past : List (Nat × Bytes)} (hcache : cache.At place)
    (hpast : CacheHistory codec cache place options.build t past) {paths : List Bytes}
    (hpaths : ∀ path ∈ paths, Checkable codec place options t path)
    (hkeys : Set.InjOn (CacheKey.ofText options.build)
      {text | ∃ limit, (limit, text) ∈ t.checks options paths ++ past})
    {processors : Nat} (hprocessors : 0 < processors) (jobs : Int) (log : TraceLog) :
    let slots := Pool.slots processors jobs paths.length
    (∀ schedule p u schedule' alone u',
      run options (cache.store codec) slots schedule (start paths log) t = (some p, u) →
      run options .forgetful slots schedule' (start paths log) t = (some alone, u') →
      p.isFinished = true → alone.isFinished = true →
      List.Forall₂ (fun cached fresh : CheckResult => cached.path = fresh.path ∧
          (∃ limit, cached.bag = { fresh.bag with items := fresh.bag.items.take limit } ∧
            (limit = options.room ∨
              ∃ text, t.text? fresh.path = some text ∧ (limit, text) ∈ past)) ∧
          ((∀ text limit, t.text? fresh.path = some text → (limit, text) ∈ past →
            options.room ≤ limit) → cached.bag = fresh.bag))
        p.results alone.results) ∧
    ∀ store, ∃ schedule p u, run options store slots schedule (start paths log) t = (some p, u) ∧
      p.isFinished = true ∧
      (Checker.quiet options store).checkFiles log paths t = ((p.results, p.log), u) := by
  intro slots
  refine ⟨fun schedule p u schedule' alone u' hrun halone hfinished hfinished' => ?_,
    fun store => exists_run_start options store hprocessors jobs paths log t⟩
  have hcached := (sound_of_run (DiskCache.serves hcache (hpast.recorded hcache) hpaths)
    hrun).results_show hfinished
  have hfresh := (sound_of_run (ResultStore.forgetful_serves options t paths)
    halone).results_show hfinished'
  refine (forall₂_of_common hcached hfresh).imp ?_
  rintro cached fresh ⟨path, ⟨hmem, hcached⟩, -, hfresh⟩
  obtain rfl : fresh.path = path := hfresh.1
  have hbag : fresh.bag = t.bagAlone options fresh.path := by
    rw [← List.append_nil (t.checks options paths)] at hfresh
    refine hfresh.bag_alone hmem (hkeys.mono ?_) fun text limit _ hcheck => ?_
    · rintro text ⟨limit, hcheck⟩
      rw [List.append_nil] at hcheck
      exact ⟨limit, List.mem_append_left _ hcheck⟩
    · cases hcheck
  rw [hbag]
  exact ⟨hcached.1, hcached.curtailed hmem hkeys, hcached.bag_alone hmem hkeys⟩

private def twinFiles : FileTree where
  entries := [([("c" : Bytes)], .directory), ([("a.nkl" : Bytes)], .file "f :: ()@"),
    ([("b.nkl" : Bytes)], .file "f :: ()@")]

private theorem twinFiles_plain (q : Place) (target : Bytes) :
    twinFiles.entryAt? q ≠ some (.link target) := by
  intro h
  obtain hlink | hmem := FileTree.mem_entries_of_entryAt? h
  · cases hlink
  · simp [twinFiles] at hmem

private theorem twinFiles_at : (⟨"/c"⟩ : DiskCache).At [("c" : Bytes)] := by
  refine ⟨rfl, List.forall_mem_singleton.mpr ?_⟩
  exact ⟨by decide, by decide, by decide, by decide⟩

private theorem twinFiles_history :
    CacheHistory .messagePack ⟨"/c"⟩ [("c" : Bytes)] {} twinFiles [] := by
  refine .start ⟨⟨?_, fun q target _ => twinFiles_plain q target⟩, ?_⟩
  · intro q hq hne
    obtain rfl | ⟨rest, rfl, hrest⟩ := List.prefix_cons_iff.mp hq
    · rfl
    · obtain rfl := List.prefix_nil.mp hrest
      exact absurd rfl hne
  · intro q bytes hq h
    obtain hfile | hmem := FileTree.mem_entries_of_entryAt? h
    · cases hfile
    · simp only [twinFiles, List.mem_cons, Prod.mk.injEq, List.not_mem_nil, or_false, reduceCtorEq,
        and_false, false_or] at hmem
      obtain ⟨rfl, -⟩ | ⟨rfl, -⟩ := hmem
      · exact absurd hq (by decide)
      · exact absurd hq (by decide)

private theorem twinFiles_checkable {options : CheckOptions} {name : Bytes}
    (hname : Path.IsName name) (hout : ¬ [("c" : Bytes)] <+: [name])
    (hcontent : ∀ raw, twinFiles.content (FileTree.pathOf [name]) = .ok raw → raw = "f :: ()@")
    (hlossless : PayloadCodec.messagePack.Lossless (CheckResult.kept options
      (FileTree.pathOf [name]) (FileSet.single (FileTree.pathOf [name]) "f :: ()@").1)) :
    Checkable .messagePack [("c" : Bytes)] options twinFiles (FileTree.pathOf [name]) := by
  refine .of_plainTo (List.forall_mem_singleton.mpr hname)
    (fun q _ target => twinFiles_plain q target) hout fun raw hraw => ?_
  rw [hcontent raw hraw]
  exact hlossless

private theorem twinFiles_checkable_first {options : CheckOptions}
    (hlossless : PayloadCodec.messagePack.Lossless
      (CheckResult.kept options "/a.nkl" (FileSet.single "/a.nkl" "f :: ()@").1)) :
    Checkable .messagePack [("c" : Bytes)] options twinFiles "/a.nkl" :=
  @twinFiles_checkable _ "a.nkl" ⟨by decide, by decide, by decide, by decide⟩ (by decide)
    (fun _ hraw => (Except.ok.inj hraw).symm) hlossless

/-- Two workers with the same text find nothing in the cache before one of them has kept its result.
A third one finds it, and a fourth one has no file to read. -/
theorem run_twinFiles :
    let cache : DiskCache := ⟨"/c"⟩
    let paths : List Bytes := ["/a.nkl", "/b.nkl", "/a.nkl", "/d.nkl"]
    let schedule := [0, 1, 1, 0, 0, 1, 1, 0, 3, 2, 2]
    let called :=
      run {} cache.store (Pool.slots 1 2 paths.length) schedule (start paths {}) twinFiles
    ∃ p u, called = (some p, u) ∧ p.results.map (·.cached) = [false, false, true, false] ∧
      List.Forall₂ (fun path r => r.path = path ∧ r.bag = twinFiles.bagAlone {} path) paths
        p.results := by
  intro cache paths schedule called
  have hpaths : ∀ path ∈ paths, Checkable .messagePack [("c" : Bytes)] {} twinFiles path := by
    have ha : Checkable .messagePack [("c" : Bytes)] {} twinFiles "/a.nkl" :=
      twinFiles_checkable_first (by unfold PayloadCodec.Lossless; decide +kernel)
    have hb : Checkable .messagePack [("c" : Bytes)] {} twinFiles "/b.nkl" :=
      @twinFiles_checkable _ "b.nkl" ⟨by decide, by decide, by decide, by decide⟩ (by decide)
        (fun _ hraw => (Except.ok.inj hraw).symm) (by unfold PayloadCodec.Lossless; decide +kernel)
    have hd : Checkable .messagePack [("c" : Bytes)] {} twinFiles "/d.nkl" := by
      refine @twinFiles_checkable _ "d.nkl" ⟨by decide, by decide, by decide, by decide⟩ (by decide)
        (fun raw hraw => ?_) (by unfold PayloadCodec.Lossless; decide +kernel)
      cases hraw
    simpa [paths] using ⟨ha, hb, ha, hd⟩
  have hkeys : Set.InjOn (CacheKey.ofText {})
      {text | ∃ limit, (limit, text) ∈ twinFiles.checks {} paths ++ []} := by
    have hchecks : twinFiles.checks {} paths = List.replicate 3 (100, ("f :: ()@" : Bytes)) := by
      decide +kernel
    rw [hchecks, List.append_nil]
    rintro a ⟨_, ha⟩ b ⟨_, hb⟩ -
    exact congrArg Prod.snd ((List.eq_of_mem_replicate ha).trans (List.eq_of_mem_replicate hb).symm)
  obtain ⟨hevery, -⟩ := @run_results_alone {} _ _ _ _ _ twinFiles_at twinFiles_history
    (List.forall_mem_nil _) _ hpaths hkeys 1 Nat.one_pos 2 {}
  have hcalled : (called.1.map fun p => (p.isFinished, p.results.map (·.cached))) =
      some (true, [false, false, true, false]) := by
    decide +kernel
  rcases hrun : called with ⟨p, u⟩
  rw [hrun] at hcalled
  obtain ⟨p, rfl, hp⟩ := Option.map_eq_some_iff.mp hcalled
  obtain ⟨hfinished, hcached⟩ := Prod.mk.inj hp
  exact ⟨p, u, rfl, hcached, (hevery schedule p u hrun).2.2 hfinished⟩

/-- After a check that had room for two diagnostics, one that has room for one shows what it shows
without the cache. -/
theorem run_cached_less_room :
    let cache : DiskCache := ⟨"/c"⟩
    let paths : List Bytes := ["/a.nkl", "/a.nkl"]
    let called := run { maxDiagnostics := 2 } cache.store 2 [0, 1, 1, 0, 1, 1, 0, 0]
      (start paths {}) twinFiles
    let cached := run { maxDiagnostics := 1 } cache.store 2 [1, 0, 0, 1] (start paths {}) called.2
    let fresh := run { maxDiagnostics := 1 } .forgetful 2 [0, 1, 0, 1, 0, 1, 0, 1]
      (start paths {}) called.2
    cached.1.map (·.results.map (·.cached)) = some [true, true] ∧
      cached.1.map (·.results.map (·.bag.items)) = fresh.1.map (·.results.map (·.bag.items)) := by
  intro cache paths called cached fresh
  have hruns : called.1.isSome = true ∧
      called.2.checks { maxDiagnostics := 1 } paths =
        List.replicate 2 (1, ("f :: ()@" : Bytes)) ∧
      cached.1.map (fun p => (p.isFinished, p.results.map (·.cached))) = some (true, [true, true]) ∧
      fresh.1.map (·.isFinished) = some true := by
    decide +kernel
  have hpast : twinFiles.checks { maxDiagnostics := 2 } paths =
      List.replicate 2 (2, ("f :: ()@" : Bytes)) := by
    decide +kernel
  have hbefore := @twinFiles_checkable_first { maxDiagnostics := 2 }
    (by unfold PayloadCodec.Lossless; decide +kernel)
  have hnow := @twinFiles_checkable_first { maxDiagnostics := 1 }
    (by unfold PayloadCodec.Lossless; decide +kernel)
  have hpaths {P : Bytes → Prop} (h : P "/a.nkl") : ∀ path ∈ paths, P path :=
    List.forall_mem_cons.mpr ⟨h, List.forall_mem_singleton.mpr h⟩
  obtain ⟨hfirst, hchecks, hcached, hfresh⟩ := hruns
  obtain ⟨first, hfirst⟩ := Option.isSome_iff_exists.mp hfirst
  obtain ⟨p, hp, hpool⟩ := Option.map_eq_some_iff.mp hcached
  obtain ⟨alone, halone, hfinished'⟩ := Option.map_eq_some_iff.mp hfresh
  obtain ⟨hfinished, hfound⟩ := Prod.mk.inj hpool
  refine ⟨by rw [hp, Option.map_some, hfound], ?_⟩
  have hcall : called = (some first, called.2) := by rw [← hfirst, Prod.eta]
  have hhistory := CacheHistory.run twinFiles_history rfl (hpaths hbefore) hcall
  have hserves := DiskCache.serves twinFiles_at (twinFiles_history.recorded twinFiles_at)
    (hpaths hbefore)
  have houtside := (sound_of_run hserves hcall).ready.1
  have hkeys : Set.InjOn (CacheKey.ofText {}) {text | ∃ limit, (limit, text) ∈
      called.2.checks { maxDiagnostics := 1 } paths ++
        (twinFiles.checks { maxDiagnostics := 2 } paths ++ [])} := by
    rw [hchecks, hpast]
    rintro a ⟨_, ha⟩ b ⟨_, hb⟩ -
    simp only [List.append_nil, List.mem_append, List.mem_replicate, Prod.mk.injEq] at ha hb
    exact (ha.elim (·.2.2) (·.2.2)).trans (hb.elim (·.2.2) (·.2.2)).symm
  obtain ⟨hagree, -⟩ := @run_cached { maxDiagnostics := 1 } _ _ _ _ _ twinFiles_at hhistory _
    (hpaths (hnow.sameOutside houtside)) hkeys 2 Nat.two_pos 0 {}
  have hrun : cached = (some p, cached.2) := by rw [← hp, Prod.eta]
  have halone' : fresh = (some alone, fresh.2) := by rw [← halone, Prod.eta]
  have hresults := hagree _ _ _ _ _ _ hrun halone' hfinished hfinished'
  rw [hp, halone, Option.map_some, Option.map_some, Option.some_inj, ← List.forall₂_eq_eq_eq,
    List.forall₂_map_left_iff, List.forall₂_map_right_iff]
  refine hresults.imp fun cached fresh h => congrArg Bag.items (h.2.2 fun text limit _ hcheck => ?_)
  rw [hpast, List.append_nil] at hcheck
  obtain rfl := congrArg Prod.fst (List.eq_of_mem_replicate hcheck)
  decide

/-- After a check that had room for one diagnostic, one that has room for ten shows only one of the
two that it shows without the cache. -/
theorem run_cached_more_room :
    let cache : DiskCache := ⟨"/c"⟩
    let paths : List Bytes := ["/a.nkl"]
    let t := (run { maxDiagnostics := 1 } cache.store 1 [0, 0, 0, 0] (start paths {}) twinFiles).2
    let cached := (run { maxDiagnostics := 10 } cache.store 1 [0, 0] (start paths {}) t).1
    let fresh := (run { maxDiagnostics := 10 } .forgetful 1 [0, 0, 0, 0] (start paths {}) t).1
    cached.map (fun p => (p.isFinished, p.results.map (·.bag.size))) = some (true, [1]) ∧
      fresh.map (fun p => (p.isFinished, p.results.map (·.bag.size))) = some (true, [2]) := by
  decide +kernel

end Pool

end Keywordless
