import Keywordless.Proofs.FailFast
import Keywordless.Proofs.Findings

/-!
# How a compilation ends

A compilation goes through its stages until one fails. There are five ways in which it can end, and
what it reports, the stages it went through and the nodes it names follow from the one that it took.
-/

namespace Keywordless

open TokenStream in
/-- A parse fails exactly if it reports something. -/
theorem SourceFile.parse_failed_iff (f : SourceFile) :
    f.parse.failed = true ↔ f.parse.reports ≠ [] := by
  let start : TokenStream := { rest := f.tokens, lastSpan := { file := f.id } }
  have hstart : start.look.Quiet := Quiet.move (.look start) ⟨tokensFrom_marked, rfl⟩
  have hmoves := Syntax.items_moves start.look
  change (Syntax.items start.look).failed = true ↔ (Syntax.items start.look).last.reports ≠ []
  by_cases hfailed : (Syntax.items start.look).failed = true
  · rw [if_pos hfailed] at hmoves
    obtain ⟨t, hlast, hhalt⟩ := hmoves
    simp only [hfailed, true_iff]
    rcases hhalt.reports (hlast.keep Quiet.move hstart) with ⟨d, hone⟩ | htwice
    · simp [hone]
    · obtain ⟨_, _, _, _, lexical, d, -, -, -, -, -, htwo⟩ := htwice
      simp [htwo]
  · rw [if_neg hfailed] at hmoves
    obtain ⟨hlast, hlooked, hkind⟩ := hmoves
    have hquiet := hlast.keep Quiet.move hstart
    have hnone : (Syntax.items start.look).last.reports = [] := by
      rw [hquiet.reports, if_pos hlooked]
      exact hquiet.nextReport_of_kind (by simp [hkind])
    simp [hfailed, hnone]

/-- Runs over the same files. The trees have spans that meet `spots`, and so has what `main`
denotes. -/
def Comparison.placed (spots : Span → Prop) (hnone : spots {}) (main : Option NodeId) :
    Comparison FrameTable FrameTable :=
  { Comparison.sameText main with
    sameFiles := True
    spots := spots
    spots_none := hnone
    known := fun g => ∀ id ∈ main, ∃ node, g.get? id = some node ∧ spots node.span
    known_insert := by
      intro g h node id hid
      obtain ⟨held, hheld, hspan⟩ := h id hid
      exact ⟨held, (Arena.insert_extends g node).kept hheld, hspan⟩ }

namespace SourceFile

def bound (f : SourceFile) (files : FileSet) : Except BindFailure NodeId × BindState FrameTable :=
  f.parse.file.bind.exec ⟨.ofFiles files, {}, 0⟩

def entered (f : SourceFile) (files : FileSet) : Except BindFailure NodeId :=
  ((Entry.check f.id).exec (f.bound files).2).1

end SourceFile

namespace SyntaxFile

open Comparison (placed)

/-- The trace that is kept does not show in what binding a tree gives, nor in what checking the
entry gives afterwards, and both report at spans that meet `spots`. -/
theorem bind_placed (spots : Span → Prop) (hnone : spots {}) {file : SyntaxFile} {id : FileId}
    (hspan : spots ⟨file.span.file, 0, 0⟩) (hid : spots ⟨id, 0, 0⟩)
    (hitems : Expr.AllSpansIn spots file.items) (files : FileSet) (log : TraceLog) (parent : Nat) :
    let s := file.bind.exec ⟨(.ofFiles files : Universe FrameTable), log, parent⟩
    let t := file.bind.exec ⟨(.ofFiles files : Universe FrameTable), {}, 0⟩
    (placed spots hnone none).Same s.1 t.1 ∧ ∀ log parent,
      (placed spots hnone (s.2.world.lookup Entry.name)).Same
        ((Entry.check id).exec ⟨s.2.world, log, parent⟩).1 ((Entry.check id).exec t.2).1 := by
  intro s t
  obtain ⟨hstart, hroot⟩ : (placed spots hnone none).Alike (.ofFiles files) (.ofFiles files) ∧
      (placed spots hnone none).agree Universe.root (Universe.ofFiles files).scopes
        (Universe.ofFiles files).scopes :=
    Comparison.alike_ofFiles ⟨rfl, Nat.zero_lt_one⟩ (by simp [placed]) rfl fun _ => rfl
  have hmirrored := SyntaxFile.bind_mirrored (c := placed spots hnone none) hitems hspan
  obtain ⟨hresult, hworld, hkept⟩ := hmirrored ⟨_, log, parent⟩ ⟨_, {}, 0⟩ hstart hroot
  refine ⟨hresult, fun log parent => ?_⟩
  -- The name of the entry is none of the builtin ones, so that its node comes from the tree.
  have hmain : ∀ id ∈ s.2.world.lookup Entry.name,
      ∃ node, s.2.world.graph.get? id = some node ∧ spots node.span := by
    intro id hid
    have hended : SyntaxFile.Ended [] False s.1 s.2.world :=
      (file.bind_ended (Universe.ofFiles_sound files) False.elim).2
    obtain ⟨roots, hsound⟩ := hended.sound
    obtain ⟨node, hnode, hliteral⟩ := hsound.lookup hid
    refine ⟨node, hnode, hworld.spots hnode fun hkind => ?_⟩
    exact absurd (hliteral hkind) (by decide)
  refine Entry.check_alike (s := ⟨s.2.world, log, parent⟩) (t := t.2) hid ?_
    ⟨hworld.graph, hworld.types, hworld.files, hworld.spots, hmain⟩ hkept.here
  intro main hfound g hknown node hnode
  obtain ⟨held, hheld, hspan⟩ := hknown main hfound
  obtain rfl : held = node := Option.some.inj (hheld.symm.trans hnode)
  exact hspan

end SyntaxFile

namespace Compilation

variable {c : Compilation} {stage : Stage}

private theorem through_skipped (h : c.needs stage = false) : c.through stage = c := by
  simp [through, h]

structure ParsedTo (c d : Compilation) : Prop where
  options : d.options = c.options
  files : d.files = c.files
  file : d.file = c.file
  stages : d.stages = c.stages ++ [.parse]
  parsed : d.parsed = some c.file.parse
  bag : d.bag = c.bag.addAll c.file.parse.reports
  nodes : (d.world, d.root, d.main) = (c.world, c.root, c.main)
  running : d.running = !(c.file.parse.failed || d.bag.hasErrors)

private theorem through_parse (h : c.needs .parse = true) : c.ParsedTo (c.through .parse) := by
  unfold through
  rw [if_pos h]
  exact ⟨rfl, rfl, rfl, rfl, rfl, rfl, rfl, rfl⟩

structure SettledTo (c d : Compilation) (stage : Stage)
    (s : Except BindFailure NodeId × BindState FrameTable) : Prop where
  options : d.options = c.options
  file : d.file = c.file
  stages : d.stages = c.stages ++ [stage]
  world : d.world = some s.2.world
  bag : d.bag = c.bag.addAll (BindFailure.reports c.file.id s.1)
  root : d.root = if stage = .bind then s.1.toOption.or c.root else c.root
  main : d.main = if stage = .entry then s.1.toOption.or c.main else c.main
  running : d.running = s.1.isOk

def keeping (stage : Stage) (c : Compilation) (id : NodeId) : Compilation :=
  { c with
    root := if stage = .bind then some id else c.root
    main := if stage = .entry then some id else c.main }

private theorem through_settles (h : c.needs stage = true) {u : Universe FrameTable}
    {action : BindM FrameTable NodeId}
    (hwork : (c.enter stage).work stage = (c.enter stage).binding u action (keeping stage)) :
    ∃ log parent, c.SettledTo (c.through stage) stage (action.exec ⟨u, log, parent⟩) := by
  let entered := c.enter stage
  let parent := entered.timer.spanId (entered.timer.phases.length - 1)
  have hrunning : c.running = true := (Bool.and_eq_true_iff.mp h).1
  have hthrough : c.through stage =
      (entered.binding u action (keeping stage)).leave ((entered.work stage).note stage) := by
    unfold through
    rw [if_pos h, ← hwork]
  refine ⟨entered.log, parent, ?_⟩
  rw [hthrough]
  rcases hrun : action.exec ⟨u, entered.log, parent⟩ with ⟨e | id, s⟩
  · rw [binding_error hrun]
    refine ⟨rfl, rfl, rfl, rfl, rfl, ?_, ?_, rfl⟩
    · exact (ite_self _).symm
    · exact (ite_self _).symm
  · rw [binding_ok hrun]
    exact ⟨rfl, rfl, rfl, rfl, rfl, rfl, rfl, hrunning⟩

private theorem through_bind (h : c.needs .bind = true) {parsed : Syntax.Parsed}
    (hparsed : c.parsed = some parsed) :
    ∃ log parent, c.SettledTo (c.through .bind) .bind
      (parsed.file.bind.exec ⟨.ofFiles c.files, log, parent⟩) := by
  apply through_settles h
  have hentered : (c.enter .bind).parsed = some parsed := hparsed
  simp only [work, bind, hentered]
  rfl

private theorem through_entry (h : c.needs .entry = true) {u : Universe FrameTable}
    (hworld : c.world = some u) :
    ∃ log parent, c.SettledTo (c.through .entry) .entry
      ((Entry.check c.file.id).exec ⟨u, log, parent⟩) := by
  apply through_settles h
  have hentered : (c.enter .entry).world = some u := hworld
  simp only [work, checkEntry, hentered]
  rfl

end Compilation

/-- The ways in which a compilation of the file `f` can end: the stages it goes through, what it
reports, the block of the file and its entry. -/
inductive SourceFile.Outcome (options : CompileOptions) (files : FileSet) (f : SourceFile) :
    List Stage → List Diagnostic → Option NodeId → Option NodeId → Prop
  | unparsed (failed : f.parse.failed = true) :
      Outcome options files f [.parse] f.parse.reports none none
  | unbound {e : BindFailure} (parsed : f.parse.failed = false)
      (failed : (f.bound files).1 = .error e) :
      Outcome options files f [.parse, .bind] [e.diagnostic f.id] none none
  | bound {root : NodeId} (parsed : f.parse.failed = false) (bound : (f.bound files).1 = .ok root)
      (skipped : options.skipEntry = true) :
      Outcome options files f [.parse, .bind] [] (some root) none
  | refused {root : NodeId} {e : BindFailure} (parsed : f.parse.failed = false)
      (bound : (f.bound files).1 = .ok root) (required : options.skipEntry = false)
      (failed : f.entered files = .error e) :
      Outcome options files f [.parse, .bind, .entry] [e.diagnostic f.id] (some root) none
  | complete {root main : NodeId} (parsed : f.parse.failed = false)
      (bound : (f.bound files).1 = .ok root) (required : options.skipEntry = false)
      (entered : f.entered files = .ok main) :
      Outcome options files f [.parse, .bind, .entry] [] (some root) (some main)

namespace Compilation

/-- A compilation ended in one of these ways. It has a universe as soon as it tried to bind, and
the nodes that it names are nodes of that universe. -/
structure Ended (options : CompileOptions) (files : FileSet) (f : SourceFile) (c : Compilation)
    (reports : List Diagnostic) : Prop where
  outcome : f.Outcome options files c.stages reports c.root c.main
  bag : c.bag = (Bag.ofLimit options.maxDiagnostics).addAll reports
  world : c.world.isSome = true ↔ .bind ∈ c.stages
  issued : ∀ u ∈ c.world, ∀ id, id ∈ c.root ∨ id ∈ c.main → u.graph.Issued id

end Compilation

open Compilation

namespace SourceFile

variable (f : SourceFile) {files : FileSet} {log : TraceLog} {parent : Nat}

private theorem bound_congr (files : FileSet) (log : TraceLog) (parent : Nat) :
    let s := f.parse.file.bind.exec ⟨(.ofFiles files : Universe FrameTable), log, parent⟩
    s.1 = (f.bound files).1 ∧ ∀ log parent,
      ((Entry.check f.id).exec ⟨s.2.world, log, parent⟩).1 = f.entered files := by
  have hitems : Expr.AllSpansIn (fun _ => True) f.parse.file.items := Expr.allSpansIn_true _
  obtain ⟨hbound, hentered⟩ :=
    SyntaxFile.bind_placed (fun _ => True) trivial trivial trivial hitems files log parent
  exact ⟨hbound.eq trivial, fun log parent => (hentered log parent).eq trivial⟩

private theorem bound_issued {s : BindState FrameTable} {root : NodeId}
    (h : f.parse.file.bind.exec ⟨.ofFiles files, log, parent⟩ = (.ok root, s)) :
    s.world.graph.Issued root ∧ ∀ log parent,
      let t := (Entry.check f.id).exec ⟨s.world, log, parent⟩
      t.2.world.graph.Issued root ∧ ∀ main, t.1 = .ok main → t.2.world.graph.Issued main := by
  let start : BindState FrameTable := ⟨.ofFiles files, log, parent⟩
  have hended : SyntaxFile.Ended [] False (f.parse.file.bind.exec start).1
      (f.parse.file.bind.exec start).2.world :=
    (f.parse.file.bind_ended (Universe.ofFiles_sound files) False.elim).2
  rw [h] at hended
  cases hended with
  | bound hsound hblock =>
    have hroot : s.world.graph.Issued root := ⟨_, hblock⟩
    refine ⟨hroot, fun log parent => ?_⟩
    intro t
    have hleads : BindM.Leads _ False s.world (Entry.check f.id) fun id v => v.graph.Issued id :=
      Entry.check_leads f.id hsound
    obtain ⟨hgrow, -, hresult⟩ := hleads ⟨s.world, log, parent⟩ rfl
    refine ⟨hgrow.graph.issued hroot, fun main hmain => ?_⟩
    rw [show ((Entry.check f.id).exec ⟨s.world, log, parent⟩).1 = .ok main from hmain] at hresult
    exact hresult

end SourceFile

namespace Compilation

variable {options : CompileOptions} {files : FileSet} {f : SourceFile} {c d : Compilation}
  {s : Except BindFailure NodeId × BindState FrameTable}

structure Ready (options : CompileOptions) (files : FileSet) (f : SourceFile) (c : Compilation) :
    Prop where
  bag : c.bag = .ofLimit options.maxDiagnostics
  options : c.options = options
  files : c.files = files
  file : c.file = f
  stages : c.stages = [.parse]
  parsed : c.parsed = some f.parse
  root : c.root = none
  main : c.main = none
  running : c.running = true

private theorem Ready.bound_ended (h : c.Ready options files f) (hparsed : f.parse.failed = false)
    (hd : c.SettledTo d .bind s) (hresult : s.1 = (f.bound files).1)
    (hissued : ∀ root, s.1 = .ok root → s.2.world.graph.Issued root)
    (hends : s.1.isOk = true → options.skipEntry = true) :
    d.Ended options files f (BindFailure.reports f.id s.1) := by
  have hstages : d.stages = [.parse, .bind] := by rw [hd.stages, h.stages]; rfl
  have hroot : d.root = s.1.toOption := by simpa [h.root] using hd.root
  have hmain : d.main = none := by simpa [h.main] using hd.main
  refine ⟨?_, ?_, ?_, ?_⟩
  · rw [hstages, hroot, hmain]
    cases hs : s.1 with
    | error e => exact .unbound hparsed (hresult.symm.trans hs)
    | ok root => exact .bound hparsed (hresult.symm.trans hs) (hends (by rw [hs]; rfl))
  · rw [hd.bag, h.bag, h.file]
  · simp [hd.world, hstages]
  · intro u hu id hid
    obtain rfl : s.2.world = u := by simpa [hd.world] using hu
    rw [hroot, hmain] at hid
    cases hs : s.1 with
    | error e => simp [hs, Except.toOption] at hid
    | ok root =>
      obtain rfl : root = id := by simpa [hs, Except.toOption] using hid
      exact hissued root hs

private theorem Ready.entry_ended (h : c.Ready options files f) (hparsed : f.parse.failed = false)
    (hrequired : options.skipEntry = false) {root : NodeId} {u : BindState FrameTable}
    (hd : c.SettledTo d .bind (.ok root, u)) (hbound : (f.bound files).1 = .ok root)
    {e : Compilation} (he : d.SettledTo e .entry s) (hresult : s.1 = f.entered files)
    (hroot : s.2.world.graph.Issued root)
    (hissued : ∀ main, s.1 = .ok main → s.2.world.graph.Issued main) :
    e.Ended options files f (BindFailure.reports f.id s.1) := by
  have hstages : e.stages = [.parse, .bind, .entry] := by
    rw [he.stages, hd.stages, h.stages]
    rfl
  have hroot' : e.root = some root := by
    rw [he.root, if_neg (by decide), hd.root, if_pos rfl]
    rfl
  have hmain : e.main = s.1.toOption := by
    simpa [hd.main, h.main] using he.main
  refine ⟨?_, ?_, ?_, ?_⟩
  · rw [hstages, hroot', hmain]
    cases hs : s.1 with
    | error e => exact .refused hparsed hbound hrequired (hresult.symm.trans hs)
    | ok main => exact .complete hparsed hbound hrequired (hresult.symm.trans hs)
  · rw [he.bag, hd.bag, h.bag, hd.file, h.file]
    rfl
  · simp [he.world, hstages]
  · intro v hv id hid
    obtain rfl : s.2.world = v := by simpa [he.world] using hv
    rw [hroot', hmain] at hid
    rcases hid with hid | hid
    · obtain rfl : root = id := by simpa using hid
      exact hroot
    · cases hs : s.1 with
      | error e => simp [hs, Except.toOption] at hid
      | ok main =>
        obtain rfl : main = id := by simpa [hs, Except.toOption] using hid
        exact hissued main hs

private theorem Ready.ended (h : c.Ready options files f) (hparsed : f.parse.failed = false) :
    ∃ reports, ((c.through .bind).through .entry).Ended options files f reports := by
  have hneeds : c.needs .bind = true := by simp [needs, h.running]
  obtain ⟨log, parent, hbind⟩ := through_bind hneeds h.parsed
  rw [h.files] at hbind
  obtain ⟨hresult, hentered⟩ := f.bound_congr files log parent
  rcases hrun : f.parse.file.bind.exec
    (⟨.ofFiles files, log, parent⟩ : BindState FrameTable) with ⟨r, s⟩
  rw [hrun] at hbind hresult hentered
  by_cases hneeds : (c.through .bind).needs .entry = true
  · have hrunning : (c.through .bind).running = true := (Bool.and_eq_true_iff.mp hneeds).1
    have hrequired : options.skipEntry = false := by
      simpa [needs, hrunning, hbind.options, h.options] using hneeds
    cases r with
    | error e =>
      rw [hbind.running] at hrunning
      cases hrunning
    | ok root =>
      obtain ⟨log', parent', hentry⟩ := through_entry hneeds hbind.world
      rw [hbind.file, h.file] at hentry
      obtain ⟨-, hkept⟩ := f.bound_issued hrun
      refine ⟨_, h.entry_ended hparsed hrequired hbind hresult.symm hentry ?_ ?_ ?_⟩
      · exact hentered log' parent'
      · exact (hkept log' parent').1
      · exact (hkept log' parent').2
  · rw [Bool.not_eq_true] at hneeds
    rw [through_skipped hneeds]
    refine ⟨_, h.bound_ended hparsed hbind hresult ?_ ?_⟩
    · rintro root rfl
      exact (f.bound_issued hrun).1
    · intro hok
      have hrunning : (c.through .bind).running = true := hbind.running.trans hok
      simpa [needs, hrunning, hbind.options, h.options] using hneeds

private theorem ParsedTo.running_eq (h : c.ParsedTo d) {limit : Int}
    (hbag : c.bag = .ofLimit limit) : d.running = !c.file.parse.failed := by
  have hspots : Spots fun _ => True := ⟨trivial, fun _ _ => trivial, fun _ => trivial⟩
  obtain ⟨hreports, -⟩ := c.file.parse_spots hspots trivial fun _ _ => trivial
  rw [h.running, h.bag, hbag,
    Bag.hasErrors_ofLimit_addAll fun d hd => (hreports d hd).error]
  have hiff := c.file.parse_failed_iff
  cases hfailed : c.file.parse.failed with
  | true => rfl
  | false =>
    have hnone : c.file.parse.reports = [] := by simpa [hfailed] using hiff
    simp [hnone]

end Compilation

open Compilation

private theorem Compilation.through_parse_ready (options : CompileOptions) (files : FileSet)
    {f : SourceFile} (log : TraceLog) (hparsed : f.parse.failed = false) :
    ((Compilation.ofFile options files f log).through .parse).Ready options files f := by
  let start := Compilation.ofFile options files f log
  let parsed := start.through .parse
  have hneeds : start.needs .parse = true := by simp [needs, start, Compilation.ofFile]
  have hparse : start.ParsedTo parsed := through_parse hneeds
  have hrunning : parsed.running = !f.parse.failed := hparse.running_eq rfl
  obtain ⟨-, hroot, hmain⟩ : parsed.world = none ∧ parsed.root = none ∧ parsed.main = none := by
    simpa [start, Compilation.ofFile] using hparse.nodes
  have hreports : f.parse.reports = [] := by simpa [hparsed] using f.parse_failed_iff
  have hbag : parsed.bag = .ofLimit options.maxDiagnostics := by
    rw [hparse.bag, show start.file.parse.reports = [] from hreports]
    rfl
  exact ⟨hbag, hparse.options, hparse.files, hparse.file, hparse.stages, hparse.parsed, hroot,
    hmain, by rw [hrunning, hparsed]; rfl⟩

/-- Every compilation ends in one of the ways. -/
theorem compile_ended (options : CompileOptions) (files : FileSet) (f : SourceFile)
    (log : TraceLog) : ∃ reports, (compile options files f log).Ended options files f reports := by
  let start := Compilation.ofFile options files f log
  let parsed := start.through .parse
  suffices h : ∃ reports, ((parsed.through .bind).through .entry).Ended options files f reports by
    obtain ⟨reports, hended⟩ := h
    exact ⟨reports, hended.outcome, hended.bag, hended.world, hended.issued⟩
  cases hfailed : f.parse.failed with
  | true =>
    have hneeds : start.needs .parse = true := by simp [needs, start, Compilation.ofFile]
    have hparse : start.ParsedTo parsed := through_parse hneeds
    have hrunning : parsed.running = !f.parse.failed := hparse.running_eq rfl
    obtain ⟨hworld, hroot, hmain⟩ :
        parsed.world = none ∧ parsed.root = none ∧ parsed.main = none := by
      simpa [start, Compilation.ofFile] using hparse.nodes
    rw [hfailed] at hrunning
    have hstopped (stage : Stage) : parsed.through stage = parsed :=
      through_skipped (by simp [needs, hrunning])
    rw [hstopped, hstopped]
    refine ⟨f.parse.reports, ?_, hparse.bag, ?_, ?_⟩
    · rw [hparse.stages, hroot, hmain]
      exact .unparsed hfailed
    · rw [hworld, hparse.stages]
      simp [start, Compilation.ofFile]
    · simp [hworld]
  | false => exact (through_parse_ready options files log hfailed).ended hfailed

theorem compile_bound {options : CompileOptions} (hskip : options.skipEntry = true)
    (files : FileSet) {f : SourceFile} (hparsed : f.parse.failed = false) (log : TraceLog) :
    ∃ log' parent,
      let c := compile options files f log
      let s := f.parse.file.bind.exec ⟨.ofFiles files, log', parent⟩
      c.root = s.1.toOption ∧ c.world = some s.2.world ∧
        c.bag = (Bag.ofLimit options.maxDiagnostics).addAll (BindFailure.reports f.id s.1) := by
  let parsed := (Compilation.ofFile options files f log).through .parse
  have hready : parsed.Ready options files f := through_parse_ready options files log hparsed
  have hneeds : parsed.needs .bind = true := by simp [needs, hready.running]
  obtain ⟨log', parent, hbind⟩ := through_bind hneeds hready.parsed
  rw [hready.files] at hbind
  have hskipped : (parsed.through .bind).through .entry = parsed.through .bind :=
    through_skipped (by simp [needs, hbind.options, hready.options, hskip])
  have hcompile : compile options files f log = (parsed.through .bind).finish :=
    congrArg Compilation.finish hskipped
  have hroot := hbind.root
  rw [if_pos rfl, hready.root, Option.or_none] at hroot
  have hbag := hbind.bag
  rw [hready.bag, hready.file] at hbag
  refine ⟨log', parent, ?_⟩
  rw [hcompile]
  exact ⟨hroot, hbind.world, hbag⟩

def Stage.Fails (f : SourceFile) (files : FileSet) : Stage → Prop
  | .queued => False
  | .parse => f.parse.failed = true
  | .bind => (f.bound files).1.isOk = false
  | .entry => (f.entered files).isOk = false

namespace SourceFile.Outcome

variable {options : CompileOptions} {files : FileSet} {f : SourceFile} {stages : List Stage}
  {reports : List Diagnostic} {root main : Option NodeId}

private theorem errors (h : f.Outcome options files stages reports root main) :
    ∀ d ∈ reports, d.isError = true := by
  have hfailure (e : BindFailure) : ∀ d ∈ [e.diagnostic f.id], d.isError = true := by
    intro d hd
    obtain rfl := List.mem_singleton.mp hd
    cases e <;> rfl
  cases h with
  | unparsed =>
    have hspots : Spots fun _ => True := ⟨trivial, fun _ _ => trivial, fun _ => trivial⟩
    intro d hd
    exact ((f.parse_spots hspots trivial fun _ _ => trivial).1 d hd).error
  | unbound | refused => exact hfailure _
  | bound | complete => simp

private theorem stages_in_order (h : f.Outcome options files stages reports root main) :
    stages <+: [.parse, .bind, .entry] ∧ (.entry ∈ stages → options.skipEntry = false) := by
  cases h with
  | unparsed | unbound | bound => simp
  | refused _ _ hrequired => simp [hrequired]
  | complete _ _ hrequired => simp [hrequired]

private theorem root_isSome_iff (h : f.Outcome options files stages reports root main) :
    root.isSome = true ↔ ¬ Stage.parse.Fails f files ∧ ¬ Stage.bind.Fails f files := by
  cases h with
  | unparsed hfailed => simp [Stage.Fails, hfailed]
  | unbound _ hfailed => simp [Stage.Fails, hfailed, Except.isOk, Except.toBool]
  | bound hparsed hbound | refused hparsed hbound | complete hparsed hbound =>
    simp [Stage.Fails, hparsed, hbound, Except.isOk, Except.toBool]

private theorem root_of_clean (h : f.Outcome options files stages reports root main)
    (hclean : reports = []) : root.isSome = true := by
  cases h with
  | unparsed hfailed => exact absurd hclean (f.parse_failed_iff.mp hfailed)
  | unbound => cases hclean
  | bound | refused | complete => rfl

private theorem main_isSome_iff (h : f.Outcome options files stages reports root main) :
    main.isSome = true ↔ reports = [] ∧ options.skipEntry = false := by
  cases h with
  | unparsed hfailed => simp [f.parse_failed_iff.mp hfailed]
  | unbound | refused => simp
  | bound _ _ hskipped => simp [hskipped]
  | complete _ _ hrequired => simp [hrequired]

/-- The stage that failed is the last one. -/
theorem last_fails (h : f.Outcome options files stages reports root main)
    (hreports : reports ≠ []) : ∃ stage, stages.getLast? = some stage ∧ stage.Fails f files := by
  cases h with
  | unparsed hfailed => exact ⟨.parse, rfl, hfailed⟩
  | unbound _ hfailed => exact ⟨.bind, rfl, by rw [Stage.Fails, hfailed]; rfl⟩
  | refused _ _ _ hfailed => exact ⟨.entry, rfl, by rw [Stage.Fails, hfailed]; rfl⟩
  | bound | complete => exact absurd rfl hreports

end SourceFile.Outcome

/-- A compilation goes through the stages in order, up to the entry at most where that is asked for.
It succeeds exactly if it reports nothing. It has a block exactly if parsing and binding went well,
an entry exactly if it succeeded and was asked for one, and a universe exactly if it came to
binding; both nodes are nodes of that universe. If it does not succeed, there is an error to show,
and the last stage it went through is the one that failed. -/
theorem compile_consistent (options : CompileOptions) (files : FileSet) (f : SourceFile)
    (log : TraceLog) :
    let c := compile options files f log
    c.stages <+: [.parse, .bind, .entry] ∧ (.entry ∈ c.stages → options.skipEntry = false) ∧
    (c.succeeded = true ↔ c.bag.items = []) ∧
    (c.root.isSome = true ↔ ¬ Stage.parse.Fails f files ∧ ¬ Stage.bind.Fails f files) ∧
    (c.main.isSome = true ↔ c.succeeded = true ∧ options.skipEntry = false) ∧
    (c.world.isSome = true ↔ .bind ∈ c.stages) ∧
    (∀ u ∈ c.world, ∀ id, id ∈ c.root ∨ id ∈ c.main → u.graph.Issued id) ∧
    (c.succeeded = false → (∃ d ∈ c.bag.items, d.isError = true) ∧
      ∃ stage, c.stages.getLast? = some stage ∧ stage.Fails f files) := by
  intro c
  obtain ⟨reports, houtcome, hbag, hworld, hissued⟩ := compile_ended options files f log
  obtain ⟨hstages, hentry⟩ := houtcome.stages_in_order
  have herrors : c.bag.hasErrors = !reports.isEmpty := by
    change (compile options files f log).bag.hasErrors = _
    rw [hbag]
    exact Bag.hasErrors_ofLimit_addAll houtcome.errors
  have hitems : c.bag.items = [] ↔ reports = [] := by
    have hpos := Bag.ofLimit_pos options.maxDiagnostics
    change (compile options files f log).bag.items = [] ↔ _
    rw [hbag, Bag.ofLimit_addAll]
    simp [List.take_eq_nil_iff, hpos.ne']
  have hsucceeded : c.succeeded = true ↔ reports = [] := by
    constructor
    · intro h
      simpa [herrors] using (Bool.and_eq_true_iff.mp h).2
    · intro h
      have hroot : c.root.isSome = true := houtcome.root_of_clean h
      simp [Compilation.succeeded, hroot, herrors, h]
  refine ⟨hstages, hentry, hsucceeded.trans hitems.symm, houtcome.root_isSome_iff, ?_, hworld,
    hissued, ?_⟩
  · rw [hsucceeded]
    exact houtcome.main_isSome_iff
  · intro h
    have hreports : reports ≠ [] := by
      intro hnone
      rw [hsucceeded.mpr hnone] at h
      cases h
    refine ⟨?_, houtcome.last_fails hreports⟩
    have hsome : c.bag.hasErrors = true := by simpa [herrors] using hreports
    simpa [Bag.hasErrors] using hsome

end Keywordless
