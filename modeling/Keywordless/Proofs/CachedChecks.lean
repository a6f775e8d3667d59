import Keywordless.Check.Worker
import Keywordless.Proofs.CacheEntries
import Keywordless.Proofs.RestoredBags

/-!
# Cached checks

A check that finds its file in the cache shows what was found when that text was checked before.
`Recorded` says so of the entries of a cache, and `ResultStore.Serves` says what a store does for
the files of a call: what it hands out was kept by one of the checks, and the files stay as they
are.
-/

namespace Keywordless

namespace Worker

variable {options : CheckOptions} {store : ResultStore (StateM FileTree)} {path : Bytes}
  {log : TraceLog} {t : FileTree}

theorem step_waiting_error {e : FileError} (h : t.content path = .error e) :
    (waiting.step options store path log : StateM FileTree Progress) t =
      (⟨.finished (.unreadable options path e), [{ file := path, status := some .error }], log⟩,
        t) := by
  simp only [step, bind, StateT.bind, FileAccess.readFile, h]
  rfl

theorem step_waiting_ok {raw : Bytes} (h : t.content path = .ok raw) :
    (waiting.step options store path log : StateM FileTree Progress) t =
      (⟨.loaded (FileSet.single path raw).2 (FileSet.single path raw).1, [], log⟩, t) := by
  simp only [step, bind, StateT.bind, FileAccess.readFile, h]
  rfl

theorem step_loaded_some {files : FileSet} {file : SourceFile} {p : Payload} {t' : FileTree}
    (h : store.lookup (.ofFile options.build file) t = (some p, t')) :
    ((loaded files file).step options store path log : StateM FileTree Progress) t =
      (⟨.finished (.ofPayload options path files file p),
        [{ file := path, status := some .cached }], log⟩, t') := by
  simp only [step, bind, StateT.bind, h]
  rfl

theorem step_loaded_none {files : FileSet} {file : SourceFile} {t' : FileTree}
    (h : store.lookup (.ofFile options.build file) t = (none, t')) :
    ((loaded files file).step options store path log : StateM FileTree Progress) t =
      (⟨.missed files file, [], log⟩, t') := by
  simp only [step, bind, StateT.bind, h]
  rfl

variable (options store path log t)

theorem step_missed (files : FileSet) (file : SourceFile) :
    ∃ news, let c : Compilation := (compileTimed { maxDiagnostics := options.maxDiagnostics } files
        file log : Id Compilation)
      ((missed files file).step options store path log : StateM FileTree Progress) t =
        (⟨.compiled file c, news, c.log⟩, t) := by
  simp only [step, bind, StateT.bind, compileTimed_state]
  exact ⟨_, rfl⟩

theorem step_compiled (file : SourceFile) (c : Compilation) :
    ∃ news, ((compiled file c).step options store path log : StateM FileTree Progress) t =
      (⟨.finished (.ofCompilation path c), news, log⟩,
        (store.keep (.ofFile options.build file) (CheckResult.payload options path c) t).2) :=
  ⟨_, rfl⟩

end Worker

/-! ### What the cache remembers -/

def SourceFile.ofText (text : Bytes) : SourceFile := { id := 0, path := [], content := text }

def CacheKey.ofText (build : Build) (text : Bytes) : CacheKey := .ofFile build (.ofText text)

/-- The text that is compiled for a file, if it can be read. -/
def FileTree.text? (t : FileTree) (path : Bytes) : Option Bytes :=
  (t.content path).toOption.map fun raw => (FileSet.single path raw).1.content

def CheckOptions.room (options : CheckOptions) : Nat := (Bag.ofLimit options.maxDiagnostics).limit

def CheckResult.kept (options : CheckOptions) (path : Bytes) (file : SourceFile) : Payload :=
  .ofBag options.build path ((Bag.ofLimit options.maxDiagnostics).addAll file.findings) file.phases

private theorem Payload.restore_findings {p : Payload} {text : Bytes} {count : Nat}
    (h : p.diagnostics = ((SourceFile.ofText text).findings.take count).map .ofDiagnostic)
    (limit : Int) : p.restore 0 limit =
      (Bag.ofLimit limit).addAll ((SourceFile.ofText text).findings.take count) := by
  unfold restore
  rw [h, List.map_map]
  congr 1
  refine (List.map_congr_left fun d hd => ?_).trans (List.map_id _)
  have hfinding := SourceFile.findings_inFile (f := .ofText text) rfl d (List.mem_of_mem_take hd)
  have hin : d.LiesIn 0 := ⟨hfinding.primary, hfinding.notes⟩
  exact (CachedDiagnostic.inFile_ofDiagnostic 0 d).trans hin.movedTo_eq

private theorem CheckResult.kept_diagnostics (options : CheckOptions) (path : Bytes)
    {file : SourceFile} (hfile : file.id = 0) : (kept options path file).diagnostics =
      ((SourceFile.ofText file.content).findings.take options.room).map .ofDiagnostic := by
  have hfindings : file.findings = (SourceFile.ofText file.content).findings :=
    SourceFile.findings_congr hfile rfl rfl
  unfold kept Payload.ofBag
  rw [hfindings, Bag.ofLimit_addAll]
  rfl

/-- The entry under a key holds the first findings of a text that was checked, as many as that
check had room for. -/
def Payload.KeptBy (build : Build) (past : List (Nat × Bytes)) (key : CacheKey) (p : Payload) :
    Prop :=
  ∃ check ∈ past, key = .ofText build check.2 ∧
    p.diagnostics = ((SourceFile.ofText check.2).findings.take check.1).map .ofDiagnostic

/-- Every usable entry of the cache was kept by one of the checks. -/
structure Recorded (codec : PayloadCodec) (place : Place) (build : Build)
    (past : List (Nat × Bytes)) (t : FileTree) : Prop where
  housed : t.Housed place
  entries : ∀ key bytes p, t.entryAt? (DiskCache.entryPlace place key) = some (.file bytes) →
    codec.decode? bytes = some p → p.KeptBy build past key

namespace Recorded

variable {codec : PayloadCodec} {place : Place} {build : Build} {past past' : List (Nat × Bytes)}
  {t t' : FileTree}

theorem of_vacant (h : t.Vacant place) : Recorded codec place build [] t := by
  refine ⟨h.toHoused, fun key bytes p hentry => ?_⟩
  exact absurd hentry (h.empty _ _ (List.prefix_append _ _))

private theorem mono (h : Recorded codec place build past t) (hsub : past ⊆ past') :
    Recorded codec place build past' t := by
  refine ⟨h.housed, fun key bytes p hentry hp => ?_⟩
  obtain ⟨check, hcheck, hheld⟩ := h.entries key bytes p hentry hp
  exact ⟨check, hsub hcheck, hheld⟩

theorem edited (h : Recorded codec place build past t) (housed : t'.Housed place)
    (hkept : ∀ q, place <+: q → t'.entryAt? q = t.entryAt? q) :
    Recorded codec place build past t' := by
  refine ⟨housed, fun key bytes p hentry => ?_⟩
  have hbelow : place <+: DiskCache.entryPlace place key := List.prefix_append _ _
  rw [hkept _ hbelow] at hentry
  exact h.entries key bytes p hentry

private theorem rearranged {new : Place → Bytes → Prop} (h : Recorded codec place build past t)
    (hnew : FileTree.Rearranged place new t t')
    (hentry : ∀ key bytes p, new (DiskCache.entryPlace place key) bytes →
      codec.decode? bytes = some p → p.KeptBy build past key) :
    Recorded codec place build past t' := by
  refine ⟨hnew.housed, fun key bytes p hheld hp => ?_⟩
  obtain hold | hmade := hnew.files _ _ hheld
  · exact h.entries key bytes p hold hp
  · exact hentry key bytes p hmade hp

end Recorded

/-! ### A check beside the cache -/

/-- The file can be checked beside a cache at a place: nothing that the cache does changes its
content, and what is kept of its check survives. -/
structure Checkable (codec : PayloadCodec) (place : Place) (options : CheckOptions)
    (t : FileTree) (path : Bytes) : Prop where
  apart : ∀ t', FileTree.SameOutside place t t' → t'.content path = t.content path
  lossless : ∀ raw, t.content path = .ok raw →
    codec.Lossless (CheckResult.kept options path (FileSet.single path raw).1)

theorem Checkable.of_plainTo {codec : PayloadCodec} {place q : Place} {options : CheckOptions}
    {t : FileTree}
    (hnames : ∀ n ∈ q, Path.IsName n) (hplain : t.PlainTo q) (hout : ¬ place <+: q)
    (hlossless : ∀ raw, t.content (FileTree.pathOf q) = .ok raw →
      codec.Lossless (CheckResult.kept options (FileTree.pathOf q)
        (FileSet.single (FileTree.pathOf q) raw).1)) :
    Checkable codec place options t (FileTree.pathOf q) where
  apart _ hsame := FileTree.content_pathOf_congr hnames hplain fun p hp =>
    hsame.entry p fun hle => hout (hle.trans hp)
  lossless := hlossless

theorem Checkable.sameOutside {codec : PayloadCodec} {place : Place} {options : CheckOptions}
    {t t' : FileTree} {path : Bytes} (h : Checkable codec place options t path)
    (hsame : FileTree.SameOutside place t t') : Checkable codec place options t' path where
  apart u hu := (h.apart u (hsame.trans hu)).trans (h.apart t' hsame).symm
  lossless raw hraw := h.lossless raw ((h.apart t' hsame).symm.trans hraw)

def FileTree.checks (t : FileTree) (options : CheckOptions) (paths : List Bytes) :
    List (Nat × Bytes) :=
  (paths.filterMap t.text?).map fun text => (options.room, text)

theorem FileTree.text?_ok {t : FileTree} {path raw : Bytes} (h : t.content path = .ok raw) :
    t.text? path = some (FileSet.single path raw).1.content := by
  simp [text?, h, Except.toOption]

theorem FileTree.mem_checks {t : FileTree} {paths : List Bytes} {path raw : Bytes}
    (options : CheckOptions) (hmem : path ∈ paths) (h : t.content path = .ok raw) :
    (options.room, (FileSet.single path raw).1.content) ∈ t.checks options paths :=
  List.mem_map.mpr ⟨_, List.mem_filterMap.mpr ⟨path, hmem, text?_ok h⟩, rfl⟩

/-- A bag that takes no more than it has room for takes the same. -/
theorem Bag.addAll_take_room (options : CheckOptions) (ds : List Diagnostic) :
    (ofLimit options.maxDiagnostics).addAll (ds.take options.room) =
      (ofLimit options.maxDiagnostics).addAll ds := by
  simp [ofLimit_addAll, CheckOptions.room]

/-- The result shows the first findings of a text under the same key, as many as one of the checks
had room for. -/
def CheckResult.Shows (options : CheckOptions) (t : FileTree) (past : List (Nat × Bytes))
    (path : Bytes) (r : CheckResult) : Prop :=
  r.path = path ∧
    match t.content path with
    | .error e => r.bag = (unreadable options path e).bag
    | .ok raw => ∃ check ∈ past,
        CacheKey.ofText options.build check.2 =
          CacheKey.ofText options.build (FileSet.single path raw).1.content ∧
        r.bag = (Bag.ofLimit options.maxDiagnostics).addAll
          ((SourceFile.ofText check.2).findings.take check.1)

namespace Checker

variable {options : CheckOptions} {past : List (Nat × Bytes)} {t : FileTree} {path raw : Bytes}

/-- What compiling a file shows and keeps. -/
theorem compiled_outcome (options : CheckOptions) (path raw : Bytes) (log : TraceLog) :
    let file := (FileSet.single path raw).1
    let c : Compilation := (compileTimed { maxDiagnostics := options.maxDiagnostics }
      (FileSet.single path raw).2 file log : Id Compilation)
    CheckResult.payload options path c = CheckResult.kept options path file ∧
      (CheckResult.ofCompilation path c).bag =
        (Bag.ofLimit options.maxDiagnostics).addAll (SourceFile.ofText file.content).findings := by
  intro file c
  obtain ⟨hbag, hreport⟩ : c.bag = (Bag.ofLimit options.maxDiagnostics).addAll file.findings ∧
      c.timer.report = file.phases := compileTimed_outcome options.maxDiagnostics rfl log
  clear_value c
  have hfindings : file.findings = (SourceFile.ofText file.content).findings :=
    SourceFile.findings_congr rfl rfl rfl
  refine ⟨?_, ?_⟩
  · rw [CheckResult.payload, CheckResult.kept, hbag, hreport]
  · rw [← hfindings]
    exact hbag

theorem compiled_shows (hcontent : t.content path = .ok raw)
    (hown : (options.room, (FileSet.single path raw).1.content) ∈ past) (log : TraceLog) :
    (CheckResult.ofCompilation path (compileTimed { maxDiagnostics := options.maxDiagnostics }
      (FileSet.single path raw).2 (FileSet.single path raw).1 log : Id Compilation)).Shows
      options t past path := by
  obtain ⟨-, hbag⟩ := compiled_outcome options path raw log
  refine ⟨rfl, ?_⟩
  rw [hcontent]
  refine ⟨_, hown, rfl, ?_⟩
  rw [Bag.addAll_take_room]
  exact hbag

theorem restored_shows (hcontent : t.content path = .ok raw) {p : Payload}
    (hkept : p.KeptBy options.build past (.ofFile options.build (FileSet.single path raw).1)) :
    (CheckResult.ofPayload options path (FileSet.single path raw).2 (FileSet.single path raw).1
      p).Shows options t past path := by
  obtain ⟨check, hcheck, hkey, hheld⟩ := hkept
  refine ⟨rfl, ?_⟩
  rw [hcontent]
  exact ⟨check, hcheck, hkey.symm, Payload.restore_findings hheld _⟩

end Checker

/-! ### What a store does for a call -/

/-- The store hands out what was kept by one of the checks, and it leaves the files of a call as
they are, in all trees that come up in the call. -/
structure ResultStore.Serves (store : ResultStore (StateM FileTree)) (options : CheckOptions)
    (t : FileTree) (past : List (Nat × Bytes)) (paths : List Bytes) (ready : FileTree → Prop) :
    Prop where
  start : ready t
  own : t.checks options paths ⊆ past
  apart : ∀ u, ready u → ∀ path ∈ paths, u.content path = t.content path
  lookup : ∀ u, ready u → ∀ key, ∃ found, store.lookup key u = (found, u) ∧
    ∀ p, found = some p → p.KeptBy options.build past key
  keep : ∀ u, ready u → ∀ path ∈ paths, ∀ raw, t.content path = .ok raw →
    ready (store.keep (.ofFile options.build (FileSet.single path raw).1)
      (CheckResult.kept options path (FileSet.single path raw).1) u).2

theorem ResultStore.forgetful_serves (options : CheckOptions) (t : FileTree)
    (paths : List Bytes) :
    ResultStore.forgetful.Serves options t (t.checks options paths) paths (· = t) where
  start := rfl
  own := List.Subset.refl _
  apart := by
    rintro u rfl path -
    rfl
  lookup := by
    intro u _ key
    refine ⟨none, rfl, fun p hp => ?_⟩
    cases hp
  keep := by
    rintro u rfl path - raw -
    rfl

theorem DiskCache.serves {codec : PayloadCodec} {cache : DiskCache} {place : Place}
    {options : CheckOptions} {t : FileTree} {past : List (Nat × Bytes)} {paths : List Bytes}
    (hcache : cache.At place) (h : Recorded codec place options.build past t)
    (hpaths : ∀ path ∈ paths, Checkable codec place options t path) :
    (cache.store codec).Serves options t (t.checks options paths ++ past) paths fun u =>
      FileTree.SameOutside place t u ∧
        Recorded codec place options.build (t.checks options paths ++ past) u where
  start := ⟨.refl place t, h.mono (List.subset_append_right _ _)⟩
  own := List.subset_append_left _ _
  apart u hu path hmem := (hpaths path hmem).apart u hu.1
  lookup := by
    rintro u ⟨-, hrecorded⟩ key
    obtain ⟨found, hlookup, hentry⟩ := lookup_run hcache hrecorded.housed codec key
    refine ⟨found, hlookup, fun p hp => ?_⟩
    obtain ⟨-, bytes, hentry, hdecoded⟩ := hentry p hp
    exact hrecorded.entries _ _ _ hentry hdecoded
  keep := by
    rintro u ⟨hsame, hrecorded⟩ path hmem raw hcontent
    have hkept := keep_run hcache hrecorded.housed codec
      (CacheKey.ofFile options.build (FileSet.single path raw).1)
      (CheckResult.kept options path (FileSet.single path raw).1)
    refine ⟨hsame.trans hkept.outside, hrecorded.rearranged hkept ?_⟩
    rintro key bytes p ⟨hplace, rfl⟩ hp
    have hkey := entryPlace_injective hplace
    rw [(hpaths path hmem).lossless raw hcontent] at hp
    obtain rfl := Option.some.inj hp
    have hown := FileTree.mem_checks options hmem hcontent
    exact ⟨_, List.mem_append_left _ hown, hkey, CheckResult.kept_diagnostics _ _ rfl⟩

end Keywordless
