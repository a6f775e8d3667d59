import Keywordless.Check.Report
import Keywordless.Progress.Basic
import Keywordless.Proofs.ParallelChecks

/-!
# What a progress display counts

The workers of a call tell what they do, and their news reach a display in any order that keeps the
news of each worker in theirs. In the end the display has counted the files that have an item of
their own, as finished or as failed by the last that it heard about them. So it counts what the
results say exactly if no path is given twice, none is empty and no cached result has errors.
-/

namespace Keywordless

/-! ### Items after news -/

def ProgressMessage.event? : ProgressMessage → Option CheckEvent
  | event e => some e
  | _ => none

namespace Progress

def refresh (g : ProgressItem → ProgressItem) : List ProgressItem → List ProgressItem
  | [] => []
  | item :: rest => (if item.path ∈ rest.map (·.path) then item else g item) :: refresh g rest

def itemHeard (item : ProgressItem) (e : CheckEvent) : ProgressItem :=
  if item.path = e.file ∧ e.file ≠ [] then itemAfter item e else item

variable {g h : ProgressItem → ProgressItem} {items : List ProgressItem}

@[simp]
theorem itemAfter_path (item : ProgressItem) (e : CheckEvent) :
    (itemAfter item e).path = item.path := by
  unfold itemAfter
  dsimp only
  split_ifs <;> rfl

@[simp]
theorem itemHeard_path (item : ProgressItem) (e : CheckEvent) :
    (itemHeard item e).path = item.path := by
  unfold itemHeard
  split_ifs <;> simp

private theorem refresh_eq_self (hg : ∀ item ∈ items, g item = item) : refresh g items = items := by
  induction items with
  | nil => rfl
  | cons item rest ih =>
    obtain ⟨hitem, hrest⟩ := List.forall_mem_cons.mp hg
    rw [refresh, ih hrest, hitem, ite_self]

private theorem map_path_refresh (hg : ∀ item, (g item).path = item.path) :
    (refresh g items).map (·.path) = items.map (·.path) := by
  induction items with
  | nil => rfl
  | cons item rest ih =>
    rw [refresh, List.map_cons, List.map_cons, ih]
    split_ifs <;> simp [hg]

private theorem refresh_refresh (hg : ∀ item, (g item).path = item.path) :
    refresh h (refresh g items) = refresh (fun item => h (g item)) items := by
  induction items with
  | nil => rfl
  | cons item rest ih =>
    simp only [refresh]
    rw [ih, map_path_refresh hg]
    by_cases hmem : item.path ∈ rest.map (·.path)
    · simp [hmem]
    · simp [hmem, hg]

private theorem updateLast_eq_refresh (path : Bytes) (f : ProgressItem → ProgressItem) :
    updateLast path f items = refresh (fun item => if item.path = path then f item else item)
      items := by
  induction items with
  | nil => rfl
  | cons item rest ih =>
    rw [updateLast, refresh]
    by_cases hrest : path ∈ rest.map (·.path)
    · have hany : rest.any (·.path == path) = true := by simpa using hrest
      rw [if_pos hany, ih]
      -- An item that comes before one of the same path is left as it is.
      by_cases hmem : item.path ∈ rest.map (·.path)
      · rw [if_pos hmem]
      · have hother : item.path ≠ path := fun heq => hmem (heq ▸ hrest)
        rw [if_neg hmem, if_neg hother]
    · have hany : ¬ rest.any (·.path == path) = true := by simpa using hrest
      have hkept : refresh (fun item => if item.path = path then f item else item) rest = rest := by
        refine refresh_eq_self fun other hother => if_neg ?_
        rintro rfl
        exact hrest (List.mem_map_of_mem hother)
      rw [if_neg hany, hkept]
      by_cases hitem : item.path = path
      · simp [hitem, hrest]
      · simp [hitem]

private theorem items_hear (p : Progress) (e : CheckEvent) :
    (p.hear e).items = refresh (itemHeard · e) p.items := by
  unfold hear
  by_cases hfile : e.file = []
  · have hkept : refresh (itemHeard · e) p.items = p.items :=
      refresh_eq_self fun item _ => if_neg fun heq => heq.2 hfile
    rw [hkept]
    simp only [hfile, List.isEmpty_nil, if_true]
    split_ifs <;> rfl
  · simp [hfile, updateLast_eq_refresh, itemHeard]

private theorem items_update {message : ProgressMessage} (hmessage : message.event? = none)
    (p : Progress) : (p.update message).items = p.items := by
  cases message with
  | event e => cases hmessage
  | done | other => rfl
  | tick | resize =>
    simp only [update]
    split_ifs <;> rfl

private theorem items_updateAll (p : Progress) (messages : List ProgressMessage) :
    (p.updateAll messages).items =
      refresh (fun item => (messages.filterMap (·.event?)).foldl itemHeard item) p.items := by
  induction messages generalizing p with
  | nil => exact (refresh_eq_self fun item _ => rfl).symm
  | cons message rest ih =>
    have hrest : (p.updateAll (message :: rest)).items = _ := ih (p.update message)
    rw [hrest, List.filterMap_cons]
    cases hmessage : message.event? with
    | none => rw [items_update hmessage]
    | some e =>
      obtain rfl : message = .event e := by
        cases message <;> simp_all [ProgressMessage.event?]
      rw [show (p.update (.event e)).items = _ from items_hear p e,
        refresh_refresh (itemHeard_path · e)]
      rfl

/-- An item takes in the news about its path. -/
theorem foldl_itemHeard {item : ProgressItem} (hpath : item.path ≠ []) (events : List CheckEvent) :
    events.foldl itemHeard item = (events.filter (·.file = item.path)).foldl itemAfter item := by
  induction events generalizing item with
  | nil => rfl
  | cons e rest ih =>
    rw [List.foldl_cons, ih (by simpa using hpath), itemHeard_path]
    by_cases he : e.file = item.path
    · rw [List.filter_cons_of_pos (by simpa using he), List.foldl_cons]
      simp [itemHeard, he, hpath]
    · rw [List.filter_cons_of_neg (by simpa using he)]
      simp [itemHeard, Ne.symm he]

private theorem foldl_itemHeard_nil {item : ProgressItem} (hpath : item.path = [])
    (events : List CheckEvent) : events.foldl itemHeard item = item := by
  induction events with
  | nil => rfl
  | cons e rest ih =>
    have hkept : itemHeard item e = item := if_neg fun heq => heq.2 (heq.1.symm.trans hpath)
    rw [List.foldl_cons, hkept, ih]

def lastStatus? (events : List CheckEvent) (path : Bytes) : Option CheckStatus :=
  (events.filter (·.file = path)).getLast?.bind (·.status)

private theorem itemAfter_final {e : CheckEvent} {s : CheckStatus} (hs : e.status = some s)
    (hfinal : s.isFinal = true) (item : ProgressItem) :
    (itemAfter item e).finished = true ∧
      ((itemAfter item e).status == Bytes.ofString "error") = (s == .error) := by
  have hafter {label : Bytes} (hlabel : eventLabel e = label) (hshown : label ≠ []) :
      (itemAfter item e).finished = true ∧ (itemAfter item e).status = label := by
    simp [itemAfter, hlabel, hshown, hs, hfinal]
  have hlabel : eventLabel e ≠ [] ∧ (eventLabel e == Bytes.ofString "error") = (s == .error) := by
    cases s with
    | queued | working => cases hfinal
    | done | error | cached =>
      simp only [eventLabel, hs]
      decide
  obtain ⟨hfinished, hstatus⟩ := hafter rfl hlabel.1
  exact ⟨hfinished, hstatus ▸ hlabel.2⟩

private theorem foldl_itemHeard_final {events : List CheckEvent} {s : CheckStatus}
    (item : ProgressItem) (hpath : item.path ≠ []) (hlast : lastStatus? events item.path = some s)
    (hfinal : s.isFinal = true) :
    (events.foldl itemHeard item).finished = true ∧
      ((events.foldl itemHeard item).status == Bytes.ofString "error") = (s == .error) := by
  obtain ⟨e, he, hs⟩ := Option.bind_eq_some_iff.mp hlast
  obtain ⟨before, hbefore⟩ := List.getLast?_eq_some_iff.mp he
  rw [foldl_itemHeard hpath, hbefore, List.foldl_append, List.foldl_cons, List.foldl_nil]
  exact itemAfter_final hs hfinal _

/-- Only the last item of a path can count. -/
theorem countP_refresh {q : ProgressItem → Bool} (hq : ∀ path, q { path } = false)
    (g : ProgressItem → ProgressItem) (paths : List Bytes) :
    (refresh g (paths.map fun path => { path })).countP q =
      paths.dedup.countP fun path => q (g { path }) := by
  induction paths with
  | nil => rfl
  | cons path rest ih =>
    have hpaths : (rest.map fun path => ({ path } : ProgressItem)).map (·.path) = rest := by
      simp [Function.comp_def]
    simp only [List.map_cons, refresh]
    rw [hpaths, List.countP_cons, ih]
    by_cases hmem : path ∈ rest
    · simp [hmem, hq, List.dedup_cons_of_mem hmem]
    · simp [hmem, List.dedup_cons_of_notMem hmem, List.countP_cons]

end Progress

/-! ### News of workers -/

namespace CheckResult

def status (r : CheckResult) : CheckStatus :=
  if r.cached then .cached else if r.bag.hasErrors then .error else .done

private theorem status_isFinal (r : CheckResult) : r.status.isFinal = true := by
  unfold status
  split_ifs <;> rfl

private theorem status_eq_error_iff {r : CheckResult} :
    r.status = .error ↔ r.cached = false ∧ r.bag.hasErrors = true := by
  unfold status
  split_ifs <;> simp_all

end CheckResult

namespace Worker

/-- What a worker has is about its file. Only what comes from a cache can hold other findings than
errors. -/
def Regular (path : Bytes) : Worker → Prop
  | waiting => True
  | loaded files file | missed files file => ∃ raw, FileSet.single path raw = (file, files)
  | compiled _ c => ∀ d ∈ c.bag.items, d.severity = .error
  | finished r => r.path = path ∧ (r.cached = false → ∀ d ∈ r.bag.items, d.severity = .error)

/-- A worker tells about its file, and in the end how its check has gone. -/
structure Told (path : Bytes) (worker : Worker) (told : List CheckEvent) : Prop where
  file : ∀ e ∈ told, e.file = path
  regular : worker.Regular path
  last : ∀ r, worker = finished r → told.getLast?.bind (·.status) = some r.status

variable {options : CheckOptions} {store : ResultStore (StateM FileTree)} {path : Bytes}
  {log : TraceLog} {t : FileTree} {worker : Worker}

private theorem compiled_regular {files : FileSet} {file : SourceFile}
    (h : (missed files file).Regular path) (options : CheckOptions) (log : TraceLog) :
    (compiled file (compileTimed { maxDiagnostics := options.maxDiagnostics } files file log :
      Id Compilation)).Regular path := by
  obtain ⟨raw, hfile⟩ := h
  obtain ⟨rfl, rfl⟩ := Prod.mk.inj hfile
  have hid : (FileSet.fileOfRaw 0 path raw).id = 0 := rfl
  obtain ⟨hbag, -⟩ := compileTimed_outcome options.maxDiagnostics hid log
  intro d hd
  rw [hbag, Bag.ofLimit_addAll] at hd
  exact (SourceFile.findings_inFile hid d (List.mem_of_mem_take hd)).severity

private theorem unreadable_regular (options : CheckOptions) (path : Bytes) (e : FileError) :
    (finished (.unreadable options path e)).Regular path ∧
      (CheckResult.unreadable options path e).status = .error := by
  have hitems : (CheckResult.unreadable options path e).bag.items =
      [.error .loadFailed {} ("failed to load file: " ++ e.message)] := by
    have hroom : (Bag.ofLimit options.maxDiagnostics).items.length <
        (Bag.ofLimit options.maxDiagnostics).limit := Bag.ofLimit_pos options.maxDiagnostics
    rw [CheckResult.unreadable, Bag.add, if_pos hroom]
    rfl
  refine ⟨⟨rfl, fun _ d hd => ?_⟩, CheckResult.status_eq_error_iff.mpr ⟨rfl, ?_⟩⟩
  · rw [hitems, List.mem_singleton] at hd
    rw [hd]
    rfl
  · rw [Bag.hasErrors, hitems]
    rfl

private theorem Told.of_working {told news : List CheckEvent} (h : worker.Told path told)
    {next : Worker} (hnext : next.isFinished = false) (hregular : next.Regular path)
    (hnews : ∀ e ∈ news, e.file = path) : next.Told path (told ++ news) where
  file := List.forall_mem_append.mpr ⟨h.file, hnews⟩
  regular := hregular
  last := by
    rintro r rfl
    cases hnext

private theorem Told.of_finished {told : List CheckEvent} (h : worker.Told path told)
    {r : CheckResult} (hregular : (finished r).Regular path) {status : CheckStatus}
    (hstatus : r.status = status) :
    (finished r).Told path (told ++ [{ file := path, status := some status }]) where
  file := List.forall_mem_append.mpr ⟨h.file, List.forall_mem_singleton.mpr rfl⟩
  regular := hregular
  last := by
    rintro _ ⟨⟩
    simp [hstatus]

/-- One step of a worker. -/
theorem Told.step {told : List CheckEvent} (h : worker.Told path told)
    (hworking : worker.isFinished = false) (options : CheckOptions)
    (store : ResultStore (StateM FileTree)) (log : TraceLog) (t : FileTree) :
    let out := (worker.step options store path log : StateM FileTree Progress) t
    out.1.worker.Told path (told ++ out.1.news) := by
  have hregular := h.regular
  cases worker with
  | waiting =>
    cases hcontent : t.content path with
    | error e =>
      rw [step_waiting_error hcontent]
      obtain ⟨hnext, hstatus⟩ := unreadable_regular options path e
      exact h.of_finished hnext hstatus
    | ok raw =>
      rw [step_waiting_ok hcontent]
      exact h.of_working rfl ⟨raw, rfl⟩ (by simp)
  | loaded files file =>
    rcases hlookup : store.lookup (.ofFile options.build file) t with ⟨_ | p, t'⟩
    · rw [step_loaded_none hlookup]
      exact h.of_working rfl hregular (by simp)
    · rw [step_loaded_some hlookup]
      refine h.of_finished ⟨rfl, fun hcached => ?_⟩ rfl
      cases hcached
  | missed files file =>
    have hnext := compiled_regular hregular options log
    simp only [Worker.step, bind, StateT.bind, compileTimed_state]
    refine h.of_working rfl hnext fun e he => ?_
    obtain ⟨stage, -, rfl⟩ := List.mem_map.mp he
    rfl
  | compiled file c =>
    have hnext : (finished (.ofCompilation path c)).Regular path := ⟨rfl, fun _ => hregular⟩
    exact h.of_finished hnext rfl
  | finished r => cases hworking

end Worker

/-! ### News of all workers -/

def ownNews (i : Nat) (told : List (Nat × CheckEvent)) : List CheckEvent :=
  (told.filter (·.1 = i)).map Prod.snd

section OwnNews

variable {i j : Nat} {e : CheckEvent} {told : List (Nat × CheckEvent)}

private theorem mem_ownNews : e ∈ ownNews i told ↔ (i, e) ∈ told := by
  simp [ownNews]

private theorem ownNews_append (told more : List (Nat × CheckEvent)) :
    ownNews i (told ++ more) = ownNews i told ++ ownNews i more := by
  simp [ownNews]

private theorem ownNews_map_self (news : List CheckEvent) : ownNews i (news.map (i, ·)) = news := by
  simp [ownNews, List.filter_map, Function.comp_def]

private theorem ownNews_map_of_ne (hij : i ≠ j) (news : List CheckEvent) :
    ownNews j (news.map (i, ·)) = [] := by
  simp [ownNews, List.filter_map, Function.comp_def, hij]

private theorem ownNews_filter {path : Bytes} (hfile : ∀ e ∈ ownNews i told, e.file = path) :
    ownNews i (told.filter (·.2.file = path)) = ownNews i told := by
  unfold ownNews
  rw [List.filter_filter]
  refine congrArg (List.map Prod.snd) (List.filter_congr fun n hn => ?_)
  by_cases hi : n.1 = i
  · have := hfile n.2 (mem_ownNews.mpr (hi ▸ hn))
    simp [hi, this]
  · simp [hi]

end OwnNews

namespace Pool

def queued (paths : List Bytes) : List (Nat × CheckEvent) :=
  paths.mapIdx fun i path => (i, { file := path, status := some .queued })

def news (options : CheckOptions) (store : ResultStore (StateM FileTree)) :
    List Nat → Pool → StateM FileTree (List (Nat × CheckEvent))
  | [], _ => return []
  | i :: schedule, p =>
    match p.workers[i]? with
    | none => news options store schedule p
    | some (path, worker) => do
      let progress ← worker.step options store path p.log
      let rest ← news options store schedule
        { workers := p.workers.set i (path, progress.worker), log := progress.log }
      return progress.news.map (i, ·) ++ rest

/-- The news reach a listener, who hears those of each worker in their order. -/
def Reaches (told heard : List (Nat × CheckEvent)) : Prop :=
  ∀ i, ownNews i heard = ownNews i told

structure Told (paths : List Bytes) (told : List (Nat × CheckEvent)) (p : Pool) : Prop where
  order : p.workers.map Prod.fst = paths
  workers : ∀ {i : Nat} {path : Bytes} {worker : Worker},
    p.workers[i]? = some (path, worker) → worker.Told path (ownNews i told)
  others : ∀ {i : Nat}, p.workers[i]? = none → ownNews i told = []

variable {options : CheckOptions} {store : ResultStore (StateM FileTree)} {slots : Nat}
  {schedule : List Nat} {p pool : Pool} {t u : FileTree} {paths : List Bytes}
  {told heard : List (Nat × CheckEvent)} {before after : List (Bytes × Worker)} {path : Bytes}
  {worker : Worker}

private theorem news_cons (hworkers : p.workers = before ++ (path, worker) :: after) :
    (news options store (before.length :: schedule) p t).1 =
      let out := (worker.step options store path p.log : StateM FileTree Worker.Progress) t
      out.1.news.map (before.length, ·) ++
        (news options store schedule (stepped before after path out.1) out.2).1 := by
  have hworker : p.workers[before.length]? = some (path, worker) := by simp [hworkers]
  have hset (next : Worker) :
      p.workers.set before.length (path, next) = before ++ (path, next) :: after := by
    simp [hworkers]
  simp only [news, hworker, hset, bind, StateT.bind]
  rfl

private theorem told_queued (paths : List Bytes) (log : TraceLog) :
    (start paths log).Told paths (queued paths) := by
  have hqueued {i : Nat} {e : CheckEvent} (he : e ∈ ownNews i (queued paths)) :
      paths[i]? = some e.file := by
    obtain ⟨j, hj, heq⟩ := List.mem_mapIdx.mp (mem_ownNews.mp he)
    obtain ⟨rfl, rfl⟩ := Prod.mk.inj heq
    exact List.getElem?_eq_getElem hj
  have horder : (start paths log).workers.map Prod.fst = paths := by
    simp [start, Function.comp_def]
  refine ⟨horder, fun {i path worker} hworker => ?_, fun {i} hnone => ?_⟩
  · obtain ⟨path', hpath, heq⟩ : ∃ path', paths[i]? = some path' ∧
        (path', Worker.waiting) = (path, worker) := by
      simpa [start] using hworker
    obtain ⟨rfl, rfl⟩ := Prod.mk.inj heq
    refine ⟨fun e he => ?_, trivial, by rintro r ⟨⟩⟩
    exact Option.some.inj ((hqueued he).symm.trans hpath)
  · refine List.eq_nil_iff_forall_not_mem.mpr fun e he => ?_
    simp [start, hqueued he] at hnone

private theorem Told.stepped (h : p.Told paths told)
    (hworkers : p.workers = before ++ (path, worker) :: after)
    (hworking : worker.isFinished = false) (options : CheckOptions)
    (store : ResultStore (StateM FileTree)) (t : FileTree) :
    let out := (worker.step options store path p.log : StateM FileTree Worker.Progress) t
    (stepped before after path out.1).Told paths
      (told ++ out.1.news.map (before.length, ·)) := by
  intro out
  have hset : (Pool.stepped before after path out.1).workers =
      p.workers.set before.length (path, out.1.worker) := by
    simp [Pool.stepped, hworkers]
  have hworker : p.workers[before.length]? = some (path, worker) := by simp [hworkers]
  have hlength : before.length < p.workers.length := by simp [hworkers]
  refine ⟨?_, fun {i path' worker'} hi => ?_, fun {i} hi => ?_⟩
  · rw [← h.order, hworkers]
    simp [Pool.stepped]
  · rw [hset] at hi
    rw [ownNews_append]
    by_cases hown : before.length = i
    · subst hown
      rw [List.getElem?_set_self hlength] at hi
      obtain ⟨rfl, rfl⟩ := Prod.mk.inj (Option.some.inj hi)
      rw [ownNews_map_self]
      exact (h.workers hworker).step hworking options store p.log t
    · rw [List.getElem?_set_ne hown] at hi
      rw [ownNews_map_of_ne hown, List.append_nil]
      exact h.workers hi
  · rw [hset, List.getElem?_eq_none_iff, List.length_set] at hi
    have hown : before.length ≠ i := by omega
    rw [ownNews_append, ownNews_map_of_ne hown, List.append_nil]
    exact h.others (List.getElem?_eq_none_iff.mpr hi)

/-- What one step keeps, a schedule keeps. -/
theorem Told.run (h : p.Told paths told)
    (hrun : Pool.run options store slots schedule p t = (some pool, u)) :
    pool.Told paths (told ++ (news options store schedule p t).1) := by
  induction schedule generalizing p t told with
  | nil =>
    obtain rfl : p = pool := Option.some.inj (congrArg Prod.fst hrun)
    exact (List.append_nil told).symm ▸ h
  | cons i schedule ih =>
    obtain ⟨before, path, worker, after, hworkers, rfl, hworking, hrest⟩ := exists_of_run_cons hrun
    rw [news_cons hworkers, ← List.append_assoc]
    exact ih (h.stepped hworkers hworking options store t) hrest

private theorem Told.reaches (h : p.Told paths told) (hheard : Reaches told heard) :
    p.Told paths heard where
  order := h.order
  workers hi := hheard _ ▸ h.workers hi
  others hi := (hheard _).trans (h.others hi)

/-! ### Results and the last news -/

private theorem Told.exists_result (h : p.Told paths told) (hfinished : p.isFinished = true)
    {i : Nat} (hi : p.workers[i]? = some (path, worker)) :
    ∃ r ∈ p.results, worker = .finished r ∧ r.path = path ∧
      (r.cached = false → ∀ d ∈ r.bag.items, d.severity = .error) := by
  have hmem := List.mem_of_getElem? hi
  obtain ⟨r, rfl⟩ := Worker.isFinished_iff.mp (List.all_eq_true.mp hfinished _ hmem)
  obtain ⟨hpath, herrors⟩ := (h.workers hi).regular
  exact ⟨r, List.mem_map.mpr ⟨_, hmem, rfl⟩, rfl, hpath, herrors⟩

private theorem Told.map_path_results (h : p.Told paths told) (hfinished : p.isFinished = true) :
    p.results.map (·.path) = paths := by
  rw [← h.order, results, List.map_map]
  refine List.map_congr_left fun w hw => ?_
  obtain ⟨path, worker⟩ := w
  obtain ⟨i, hi⟩ := List.mem_iff_getElem?.mp hw
  obtain ⟨r, -, rfl, hpath, -⟩ := h.exists_result hfinished hi
  exact hpath

private theorem Told.exists_news (h : p.Told paths heard) (hfinished : p.isFinished = true)
    (hpath : path ∈ paths) : heard.filter (·.2.file = path) ≠ [] := by
  rw [← h.order] at hpath
  obtain ⟨⟨path, worker⟩, hw, rfl⟩ := List.mem_map.mp hpath
  obtain ⟨i, hi⟩ := List.mem_iff_getElem?.mp hw
  obtain ⟨r, -, rfl, -⟩ := h.exists_result hfinished hi
  obtain ⟨e, he, -⟩ := Option.bind_eq_some_iff.mp ((h.workers hi).last r rfl)
  have hmem := List.mem_of_getLast? he
  have hfile := (h.workers hi).file e hmem
  exact List.ne_nil_of_mem (List.mem_filter.mpr ⟨mem_ownNews.mp hmem, by simpa using hfile⟩)

/-- The last that is heard about a path is how one of the checks of that path has gone. -/
theorem Told.lastStatus? (h : p.Told paths heard) (hfinished : p.isFinished = true)
    (hpath : path ∈ paths) : ∃ r ∈ p.results, r.path = path ∧
      Progress.lastStatus? (heard.map Prod.snd) path = some r.status := by
  let about := heard.filter (·.2.file = path)
  obtain ⟨before, ⟨i, e⟩, habout⟩ : ∃ before n, about = before ++ [n] :=
    (List.eq_nil_or_concat' about).resolve_left (h.exists_news hfinished hpath)
  obtain ⟨hmem, hfile⟩ : (i, e) ∈ heard ∧ e.file = path := by
    have hlast : (i, e) ∈ about := by simp [habout]
    simpa [about] using hlast
  cases hi : p.workers[i]? with
  | none =>
    have hnone := mem_ownNews.mpr hmem
    rw [h.others hi] at hnone
    cases hnone
  | some w =>
    obtain ⟨path', worker⟩ := w
    obtain rfl : path' = path := ((h.workers hi).file e (mem_ownNews.mpr hmem)).symm.trans hfile
    obtain ⟨r, hr, rfl, hpath', -⟩ := h.exists_result hfinished hi
    -- All news of this worker are about the path, so its last one is the last about the path.
    have hown : ownNews i heard = ownNews i before ++ [e] := by
      have hall : ownNews i about = ownNews i heard := ownNews_filter (h.workers hi).file
      rw [← hall, habout, ownNews_append]
      simp [ownNews]
    have hlast := (h.workers hi).last r rfl
    rw [hown, List.getLast?_concat] at hlast
    have hnews : (heard.map Prod.snd).filter (·.file = path') = about.map Prod.snd := by
      simp [about, List.filter_map, Function.comp_def]
    refine ⟨r, hr, hpath', ?_⟩
    rw [Progress.lastStatus?, hnews, habout, List.map_append, List.map_singleton,
      List.getLast?_concat]
    exact hlast

end Pool

/-! ### The counts -/

namespace Progress

/-- The files that a display can count: each path once, and not the empty one. -/
def counted (paths : List Bytes) : List Bytes := paths.dedup.filter (· ≠ [])

private theorem mem_counted {paths : List Bytes} {path : Bytes} :
    path ∈ counted paths ↔ path ∈ paths ∧ path ≠ [] := by
  simp [counted]

private theorem counted_nodup (paths : List Bytes) : (counted paths).Nodup :=
  (List.nodup_dedup paths).filter _

private theorem counted_sublist (paths : List Bytes) : (counted paths).Sublist paths :=
  List.filter_sublist.trans (List.dedup_sublist paths)

private theorem counted_eq_self_iff {paths : List Bytes} :
    counted paths = paths ↔ paths.Nodup ∧ [] ∉ paths := by
  constructor
  · intro heq
    refine ⟨heq ▸ counted_nodup paths, fun hmem => ?_⟩
    rw [← heq] at hmem
    exact (mem_counted.mp hmem).2 rfl
  · rintro ⟨hnodup, hnil⟩
    rw [counted, hnodup.dedup, List.filter_eq_self]
    intro path hmem
    simpa using ne_of_mem_of_not_mem hmem hnil

/-- Once the last news about every file are final, all files count as finished, and those count as
failed whose last news say so. -/
theorem counts_of_final {paths : List Bytes} {messages : List ProgressMessage}
    (hfinal : ∀ path ∈ paths, ∃ s : CheckStatus,
      lastStatus? (messages.filterMap (·.event?)) path = some s ∧ s.isFinal = true)
    (title : Bytes) :
    let shown := (ofFiles title paths).updateAll messages
    shown.finishedCount = (counted paths).length ∧
      shown.failedCount = (counted paths).countP fun path =>
        lastStatus? (messages.filterMap (·.event?)) path = some .error := by
  intro shown
  let heard := messages.filterMap (·.event?)
  have hitems : shown.items = refresh (fun item => heard.foldl itemHeard item)
      (paths.map fun path => { path }) := items_updateAll _ _
  have hcount {q : ProgressItem → Bool} (hq : ∀ path, q { path } = false) :
      shown.items.countP q = (counted paths).countP fun path =>
        q (heard.foldl itemHeard { path }) := by
    rw [hitems, countP_refresh hq, counted, List.countP_filter]
    refine List.countP_congr fun path _ => ?_
    by_cases hpath : path = []
    · simp [hpath, foldl_itemHeard_nil, hq]
    · simp [hpath]
  have hitem (path : Bytes) (hmem : path ∈ counted paths) :
      (heard.foldl itemHeard { path }).finished = true ∧
        ((heard.foldl itemHeard { path }).status == Bytes.ofString "error") =
          decide (lastStatus? heard path = some .error) := by
    obtain ⟨hmem, hpath⟩ := mem_counted.mp hmem
    obtain ⟨s, hs, hfinal⟩ := hfinal path hmem
    obtain ⟨hfinished, hstatus⟩ := foldl_itemHeard_final { path } hpath hs hfinal
    refine ⟨hfinished, hstatus.trans ?_⟩
    simp [heard, hs, Bool.beq_eq_decide_eq]
  constructor
  · rw [finishedCount, hcount fun _ => rfl]
    exact List.countP_eq_length.mpr fun path hmem => (hitem path hmem).1
  · have hqueued : (Bytes.ofString "queued" == Bytes.ofString "error") = false := by decide
    rw [failedCount, hcount fun _ => hqueued]
    exact List.countP_congr fun path hmem => by rw [(hitem path hmem).2]

end Progress

private theorem Bag.hasErrors_eq_of_severity {b : Bag} (h : ∀ d ∈ b.items, d.severity = .error) :
    b.hasErrors = decide (b.errorCount > 0) := by
  rw [Bool.eq_iff_iff, decide_eq_true_eq, hasErrors, errorCount, List.any_eq_true,
    gt_iff_lt, List.countP_pos_iff]
  refine exists_congr fun d => and_congr_right fun hd => ?_
  simp [Diagnostic.isError, h d hd]

private theorem countP_uncached_eq_iff {results : List CheckResult} {q : CheckResult → Bool} :
    (results.countP fun r => !r.cached && q r) = results.countP q ↔
      ∀ r ∈ results, r.cached = true → q r = false := by
  have hsplit := List.countP_eq_countP_filter_add results q (·.cached)
  rw [List.countP_filter, List.countP_filter] at hsplit
  have hnone : (results.countP fun r => q r && r.cached) = 0 ↔
      ∀ r ∈ results, r.cached = true → q r = false := by
    rw [List.countP_eq_zero]
    refine forall₂_congr fun r _ => ?_
    cases q r <;> simp
  have hcomm : (results.countP fun r => !r.cached && q r) =
      results.countP fun r => q r && !r.cached := by
    simp only [Bool.and_comm]
  rw [← hnone, hcomm]
  omega

namespace Pool

variable {p : Pool} {paths : List Bytes} {heard : List (Nat × CheckEvent)}

private theorem Told.hasErrors_eq (h : p.Told paths heard) (hfinished : p.isFinished = true)
    {r : CheckResult} (hr : r ∈ p.results) (hcached : r.cached = false) :
    r.bag.hasErrors = decide (r.bag.errorCount > 0) := by
  obtain ⟨⟨path, worker⟩, hw, rfl⟩ := List.mem_map.mp hr
  obtain ⟨i, hi⟩ := List.mem_iff_getElem?.mp hw
  obtain ⟨r, -, rfl, -, herrors⟩ := h.exists_result hfinished hi
  exact Bag.hasErrors_eq_of_severity (herrors hcached)

private theorem Told.failed_le (h : p.Told paths heard) (hfinished : p.isFinished = true) :
    ((Progress.counted paths).countP fun path =>
      Progress.lastStatus? (heard.map Prod.snd) path = some .error) ≤
      CheckReport.failedCount p.results := by
  let failed := (Progress.counted paths).filter fun path =>
    Progress.lastStatus? (heard.map Prod.snd) path = some .error
  have hsub : failed ⊆ (p.results.filter (·.bag.errorCount > 0)).map (·.path) := by
    intro path hpath
    obtain ⟨hmem, hlast⟩ := List.mem_filter.mp hpath
    obtain ⟨r, hr, rfl, hstatus⟩ := h.lastStatus? hfinished (Progress.mem_counted.mp hmem).1
    rw [hstatus] at hlast
    obtain ⟨hcached, herrors⟩ := CheckResult.status_eq_error_iff.mp (by simpa using hlast)
    rw [h.hasErrors_eq hfinished hr hcached] at herrors
    exact List.mem_map_of_mem (List.mem_filter.mpr ⟨hr, herrors⟩)
  have hnodup : failed.Nodup := (Progress.counted_nodup paths).filter _
  have hlength := (hnodup.subperm hsub).length_le
  rw [List.length_map] at hlength
  rw [CheckReport.failedCount, List.countP_eq_length_filter, List.countP_eq_length_filter]
  exact hlength

private theorem Told.failed_eq (h : p.Told paths heard) (hfinished : p.isFinished = true)
    (hnodup : paths.Nodup) (hnil : [] ∉ paths) :
    ((Progress.counted paths).countP fun path =>
      Progress.lastStatus? (heard.map Prod.snd) path = some .error) =
      p.results.countP fun r => !r.cached && r.bag.hasErrors := by
  have hpaths := h.map_path_results hfinished
  rw [Progress.counted_eq_self_iff.mpr ⟨hnodup, hnil⟩]
  conv_lhs => rw [← hpaths]
  rw [List.countP_map]
  refine List.countP_congr fun r hr => ?_
  have hmem : r.path ∈ paths := hpaths ▸ List.mem_map_of_mem hr
  obtain ⟨r', hr', hpath, hstatus⟩ := h.lastStatus? hfinished hmem
  obtain rfl : r' = r := List.inj_on_of_nodup_map (hpaths.symm ▸ hnodup) hr' hr hpath
  simp [hstatus, CheckResult.status_eq_error_iff]

private theorem Told.length_results (h : p.Told paths heard) (hfinished : p.isFinished = true) :
    p.results.length = paths.length := by
  rw [← h.map_path_results hfinished, List.length_map]

/-- The counts of files agree with the number of results and the number of those of a kind that
tells errors, exactly if every file is counted and no cached result is of that kind. -/
theorem Told.counts_eq_iff (h : p.Told paths heard) (hfinished : p.isFinished = true)
    {q : CheckResult → Bool}
    (hq : ∀ r ∈ p.results, r.cached = false → r.bag.hasErrors = q r) :
    ((Progress.counted paths).length = p.results.length ∧
        ((Progress.counted paths).countP fun path =>
          Progress.lastStatus? (heard.map Prod.snd) path = some .error) = p.results.countP q) ↔
      paths.Nodup ∧ [] ∉ paths ∧ ∀ r ∈ p.results, r.cached = true → q r = false := by
  have hall : (Progress.counted paths).length = p.results.length ↔ paths.Nodup ∧ [] ∉ paths := by
    rw [h.length_results hfinished, ← Progress.counted_eq_self_iff]
    exact ⟨(Progress.counted_sublist paths).eq_of_length, congrArg List.length⟩
  have huncached : (p.results.countP fun r => !r.cached && r.bag.hasErrors) =
      p.results.countP fun r => !r.cached && q r := by
    refine List.countP_congr fun r hr => ?_
    cases hcached : r.cached with
    | true => simp
    | false => rw [hq r hr hcached]
  rw [hall, and_assoc, ← countP_uncached_eq_iff, ← huncached]
  refine and_congr_right fun hnodup => and_congr_right fun hnil => ?_
  rw [h.failed_eq hfinished hnodup hnil]

/-- What a display counts when all workers are finished and all news have reached it, in whatever
order: it counts each path once and no empty one, as finished, and as failed if the last news about
it say so, which come from one of its checks. These are the numbers of the results, or those of the
summary, exactly if no path is given twice, none is empty and no cached result has errors. -/
theorem run_progress_counts {options : CheckOptions} {store : ResultStore (StateM FileTree)}
    {slots : Nat} {schedule : List Nat} {log : TraceLog} {t u : FileTree}
    (hrun : run options store slots schedule (start paths log) t = (some p, u))
    (hfinished : p.isFinished = true)
    (hheard : Reaches (queued paths ++ (news options store schedule (start paths log) t).1) heard)
    {messages : List ProgressMessage}
    (hmessages : messages.filterMap (·.event?) = heard.map Prod.snd) (title : Bytes) :
    let shown := (Progress.ofFiles title paths).updateAll messages
    let files := Progress.counted paths
    let failed := CheckReport.failedCount p.results
    shown.finishedCount = files.length ∧
    (shown.failedCount = files.countP fun path =>
      Progress.lastStatus? (heard.map Prod.snd) path = some .error) ∧
    (∀ path ∈ files, ∃ r ∈ p.results, r.path = path ∧
      Progress.lastStatus? (heard.map Prod.snd) path = some r.status) ∧
    shown.finishedCount ≤ p.results.length ∧ shown.failedCount ≤ failed ∧
    (shown.finishedCount = p.results.length ∧
        shown.failedCount = p.results.countP (·.bag.hasErrors) ↔
      paths.Nodup ∧ [] ∉ paths ∧ ∀ r ∈ p.results, r.cached = true → r.bag.hasErrors = false) ∧
    (shown.finishedCount = p.results.length ∧ shown.failedCount = failed ↔
      paths.Nodup ∧ [] ∉ paths ∧ ∀ r ∈ p.results, r.cached = true → r.bag.errorCount = 0) := by
  intro shown files failed
  have htold : p.Told paths heard := ((told_queued paths log).run hrun).reaches hheard
  have hlast (path : Bytes) (hpath : path ∈ paths) := htold.lastStatus? hfinished hpath
  obtain ⟨hfinishedCount, hfailedCount⟩ : shown.finishedCount = files.length ∧
      shown.failedCount = files.countP fun path =>
        Progress.lastStatus? (heard.map Prod.snd) path = some .error := by
    rw [← hmessages] at hlast ⊢
    refine Progress.counts_of_final (fun path hpath => ?_) title
    obtain ⟨r, -, -, hstatus⟩ := hlast path hpath
    exact ⟨_, hstatus, r.status_isFinal⟩
  rw [hfinishedCount, hfailedCount]
  refine ⟨rfl, rfl, ?_, ?_, htold.failed_le hfinished, ?_, ?_⟩
  · exact fun path hpath => hlast path (Progress.mem_counted.mp hpath).1
  · rw [htold.length_results hfinished]
    exact (Progress.counted_sublist paths).length_le
  · exact htold.counts_eq_iff hfinished fun _ _ _ => rfl
  · have hsummary := htold.counts_eq_iff hfinished fun r hr hcached =>
      htold.hasErrors_eq hfinished hr hcached
    simpa [failed, CheckReport.failedCount] using hsummary

private def brokenFile : FileTree where
  entries := [([("c" : Bytes)], .directory), ([("a.nkl" : Bytes)], .file "f :: ()@")]

/-- The file is checked twice at once, and one worker finds what the other one has kept. What the
other one has to say comes last, so that the file counts as failed, but as one file and not two. -/
theorem run_progress_counts_brokenFile :
    let cache : DiskCache := ⟨"/c"⟩
    let paths : List Bytes := ["/a.nkl", "/a.nkl"]
    let schedule := [0, 1, 0, 0, 0, 1]
    let called := run {} cache.store 2 schedule (start paths {}) brokenFile
    let about (status : CheckStatus) : CheckEvent := { file := "/a.nkl", status := some status }
    let heard := [(0, about .queued), (1, about .queued),
      (0, { about .working with stage := .parse }), (1, about .cached), (0, about .error)]
    let shown := (Progress.ofFiles "nkl check" paths).updateAll
      (Progress.messages (heard.map Prod.snd))
    ∃ p u, called = (some p, u) ∧ p.results.map (·.cached) = [false, true] ∧
      p.results.length = 2 ∧ CheckReport.failedCount p.results = 2 ∧
      shown.finishedCount = 1 ∧ shown.failedCount = 1 := by
  intro cache paths schedule called about heard shown
  obtain ⟨hcalled, htold⟩ :
      (called.1.map fun p => (p.isFinished, p.results.map (·.cached),
        CheckReport.failedCount p.results)) = some (true, [false, true], 2) ∧
      queued paths ++ (news {} cache.store schedule (start paths {}) brokenFile).1 =
        [(0, about .queued), (1, about .queued), (0, { about .working with stage := .parse }),
          (0, about .error), (1, about .cached)] := by
    decide +kernel
  have hheard : Reaches
      (queued paths ++ (news {} cache.store schedule (start paths {}) brokenFile).1) heard := by
    rw [htold]
    intro i
    by_cases hfirst : i = 0
    · subst hfirst
      rfl
    · by_cases hsecond : i = 1
      · subst hsecond
        rfl
      · simp [ownNews, heard, Ne.symm hfirst, Ne.symm hsecond]
  rcases hrun : called with ⟨p, u⟩
  rw [hrun] at hcalled
  obtain ⟨p, rfl, hp⟩ := Option.map_eq_some_iff.mp hcalled
  obtain ⟨hfinished, hrest⟩ := Prod.mk.inj hp
  obtain ⟨hcached, hfailed⟩ := Prod.mk.inj hrest
  have hlength : p.results.length = 2 := by simpa using congrArg List.length hcached
  have hmessages : (Progress.messages (heard.map Prod.snd)).filterMap (·.event?) =
      heard.map Prod.snd := rfl
  obtain ⟨hfinishedCount, hfailedCount, -⟩ :=
    run_progress_counts hrun hfinished hheard hmessages "nkl check"
  refine ⟨p, u, rfl, hcached, hlength, hfailed, hfinishedCount.trans ?_, hfailedCount.trans ?_⟩
  · decide +kernel
  · decide +kernel

/-- A file that is given twice is checked twice, but only one of its items is ever finished. -/
theorem run_progress_repeated :
    let paths : List Bytes := ["/a.nkl", "/a.nkl"]
    let schedule := [0, 0, 0, 0, 1, 1, 1, 1]
    let told := queued paths ++ (news {} .forgetful schedule (start paths {}) brokenFile).1
    let shown := (Progress.ofFiles "nkl check" paths).updateAll
      (Progress.messages (told.map Prod.snd))
    ((run {} .forgetful 2 schedule (start paths {}) brokenFile).1.map fun p =>
      (p.isFinished, p.results.length, p.results.countP (·.bag.hasErrors))) = some (true, 2, 2) ∧
      (shown.finishedCount, shown.failedCount) = (1, 1) := by
  decide +kernel

end Pool

end Keywordless
