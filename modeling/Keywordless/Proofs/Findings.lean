import Keywordless.Compile.Timed
import Keywordless.Proofs.BindTwins
import Keywordless.Proofs.FromText

/-!
# Findings

What is wrong with a file hangs on its content alone, not on its name or on the trace that is kept,
and every report points into the file. The bag of a compilation holds the findings of its file, as
many as it has room for.
-/

namespace Keywordless

namespace Bag

private theorem addAll_eq (b : Bag) (ds : List Diagnostic) :
    b.addAll ds = { b with items := b.items ++ ds.take (b.limit - b.items.length) } := by
  induction ds generalizing b with
  | nil => simp [addAll]
  | cons d rest ih =>
    have hstep : b.addAll (d :: rest) = (b.add d).addAll rest := rfl
    rw [hstep, ih]
    unfold add
    split
    · next hroom =>
      obtain ⟨room, hlimit⟩ : ∃ room, b.limit - b.items.length = room + 1 :=
        ⟨b.limit - b.items.length - 1, by omega⟩
      have hleft : b.limit - (b.items.length + 1) = room := by omega
      simp [hlimit, hleft]
    · next hfull =>
      have hnone : b.limit - b.items.length = 0 := by omega
      simp [hnone]

theorem ofLimit_pos (limit : Int) : 0 < (ofLimit limit).limit := by
  unfold ofLimit
  dsimp only
  split <;> omega

theorem ofLimit_addAll (limit : Int) (ds : List Diagnostic) :
    (ofLimit limit).addAll ds = { ofLimit limit with items := ds.take (ofLimit limit).limit } := by
  simp [addAll_eq, ofLimit]

theorem hasErrors_ofLimit_addAll {limit : Int} {ds : List Diagnostic}
    (h : ∀ d ∈ ds, d.isError) : ((ofLimit limit).addAll ds).hasErrors = !ds.isEmpty := by
  cases ds with
  | nil => rfl
  | cons d rest =>
    have hpos := ofLimit_pos limit
    obtain ⟨room, hroom⟩ : ∃ room, (ofLimit limit).limit = room + 1 :=
      ⟨(ofLimit limit).limit - 1, by omega⟩
    simp [ofLimit_addAll, hasErrors, hroom, h d List.mem_cons_self]

end Bag

/-- Runs over files with the same text, where the file with the number zero is bound. What `main`
denotes stands in that file. -/
def Comparison.sameText (main : Option NodeId) : Comparison FrameTable FrameTable where
  agree scope s t := s = t ∧ scope < s.frames.size
  sameFiles := False
  spots span := span.file = 0
  spots_none := rfl
  known g := ∀ id ∈ main, ∃ node, g.get? id = some node ∧ node.span.file = 0
  known_insert := by
    intro g h node id hid
    obtain ⟨held, hheld, hspan⟩ := h id hid
    exact ⟨held, (Arena.insert_extends g node).kept hheld, hspan⟩
  lookup_eq := by
    rintro scope s t ⟨rfl, -⟩ name
    rfl
  child_eq := by
    rintro scope s t ⟨rfl, -⟩
    rfl
  child_lt h := h.2
  child_agree := by
    rintro scope s t ⟨rfl, -⟩
    exact ⟨rfl, by simp [ScopeStore.child, FrameTable.child]⟩
  child_kept := by
    rintro scope s t i ⟨rfl, -⟩ ⟨-, hi⟩
    refine ⟨rfl, ?_⟩
    simpa [ScopeStore.child, FrameTable.child] using Nat.lt_succ_of_lt hi
  insert_agree := by
    rintro scope s t ⟨rfl, hscope⟩ name id
    exact ⟨rfl, by simpa [ScopeStore.insert, FrameTable.insert] using hscope⟩
  insert_kept := by
    rintro scope s t i ⟨rfl, -⟩ - ⟨-, hi⟩ name id
    exact ⟨rfl, by simpa [ScopeStore.insert, FrameTable.insert] using hi⟩

def BindFailure.reports (file : FileId) : Except BindFailure NodeId → List Diagnostic
  | .ok _ => []
  | .error e => [e.diagnostic file]

private theorem Comparison.Same.reports {main : Option NodeId} {r r' : Except BindFailure NodeId}
    (h : (sameText main).Same r r') :
    r.isOk = r'.isOk ∧ BindFailure.reports 0 r = BindFailure.reports 0 r' ∧
      ∀ d ∈ BindFailure.reports 0 r, d.ErrorIn (·.file = 0) := by
  cases h with
  | ok id => exact ⟨rfl, rfl, by simp [BindFailure.reports]⟩
  | fault f =>
    refine ⟨rfl, rfl, fun d hd => ?_⟩
    obtain rfl := List.mem_singleton.mp hd
    exact ⟨rfl, rfl, nofun⟩
  | error hplaced hspan hnotes =>
    refine ⟨rfl, rfl, fun d hd => ?_⟩
    obtain rfl := List.mem_singleton.mp hd
    exact ⟨rfl, hspan, hnotes⟩

namespace Entry

open BindM (Mirrored)

private theorem mainType_mirrored {c : Comparison FrameTable FrameTable} {scope : ScopeId} :
    Mirrored c scope mainType mainType := by
  refine .bind (.primitive .u8) fun byte => .bind (.wrap .multipointer byte) fun text => ?_
  refine .bind (.wrap .slice text) fun args => .bind (.primitive .int) fun int => ?_
  exact .procedureType [args] int

/-- The entry of a file is judged alike in universes that look alike, if what `main` denotes there
stands at a span of the tree. -/
theorem check_alike {c : Comparison FrameTable FrameTable} {file : FileId}
    {s t : BindState FrameTable} (hfile : c.spots ⟨file, 0, 0⟩)
    (hmain : ∀ id ∈ s.world.lookup name, ∀ g, c.known g → ∀ node, g.get? id = some node →
      c.spots node.span)
    (hworld : c.Alike s.world t.world)
    (hscope : c.agree Universe.root s.world.scopes t.world.scopes) :
    c.Same ((check file).exec s).1 ((check file).exec t).1 := by
  have hrun (s : BindState FrameTable) :
      (BindM.visible? Universe.root name).exec s = (.ok (s.world.lookup name), s) := rfl
  have hlookup : t.world.lookup name = s.world.lookup name := (c.lookup_eq hscope name).symm
  unfold check
  rw [BindM.exec_bind, BindM.exec_bind, hrun, hrun, hlookup]
  dsimp only
  cases hfound : s.world.lookup name with
  | none =>
    have hfail : Mirrored c Universe.root
        (BindM.fail .missingMain ⟨file, 0, 0⟩ : BindM FrameTable NodeId)
        (BindM.fail .missingMain ⟨file, 0, 0⟩) := .fail hfile
    exact (hfail s t hworld hscope).1
  | some id =>
    have hnode (u v : Universe FrameTable) (node : Node) (halike : c.Alike u v)
        (hget : u.graph.get id = .ok node) : c.spots node.span :=
      hmain id hfound _ halike.known node ((Arena.get_eq_ok_iff _ _ _).mp hget)
    refine (show Mirrored c Universe.root _ _ from ?_) s t hworld hscope |>.1
    refine .bind mainType_mirrored fun expected => .bind (.typeOf id) fun actual => ?_
    split
    · exact .pure id
    · refine .ask_bind (fun u v halike => by rw [halike.graph]) hnode fun node hspan => ?_
      exact .bind (.typeText expected) fun _ => .bind (.typeText actual) fun _ => .fail hspan

private theorem check_same {s t : BindState FrameTable} :
    let c := Comparison.sameText (s.world.lookup name)
    c.Alike s.world t.world → c.agree Universe.root s.world.scopes t.world.scopes →
      c.Same ((check 0).exec s).1 ((check 0).exec t).1 := by
  intro c
  apply check_alike rfl
  intro id hid g hknown node hnode
  obtain ⟨held, hheld, hspan⟩ := hknown id hid
  obtain rfl : held = node := Option.some.inj (hheld.symm.trans hnode)
  exact hspan

end Entry

open Comparison (sameText)

private theorem SyntaxFile.bind_same {file : SyntaxFile} (hspan : file.span.file = 0)
    (hitems : Expr.AllSpansIn (·.file = 0) file.items) (f g : SourceFile) (log log' : TraceLog)
    (parent parent' : Nat) :
    let s := file.bind.exec ⟨(.ofFiles ⟨#[f]⟩ : Universe FrameTable), log, parent⟩
    let t := file.bind.exec ⟨(.ofFiles ⟨#[g]⟩ : Universe FrameTable), log', parent'⟩
    (sameText none).Same s.1 t.1 ∧ s.2.world.graph = t.2.world.graph ∧ ∀ log log' parent parent',
      (sameText (s.2.world.lookup Entry.name)).Same
        ((Entry.check 0).exec ⟨s.2.world, log, parent⟩).1
        ((Entry.check 0).exec ⟨t.2.world, log', parent'⟩).1 := by
  intro s t
  obtain ⟨hstart, hroot⟩ : (sameText none).Alike (.ofFiles ⟨#[f]⟩) (.ofFiles ⟨#[g]⟩) ∧
      (sameText none).agree Universe.root (Universe.ofFiles ⟨#[f]⟩).scopes
        (Universe.ofFiles ⟨#[g]⟩).scopes :=
    Comparison.alike_ofFiles ⟨rfl, Nat.zero_lt_one⟩ (by simp [sameText]) rfl False.elim
  have hmirrored := SyntaxFile.bind_mirrored (c := sameText none) hitems hspan
  obtain ⟨hresult, hworld, hkept⟩ := hmirrored ⟨_, log, parent⟩ ⟨_, log', parent'⟩ hstart hroot
  refine ⟨hresult, hworld.graph, fun log log' parent parent' => ?_⟩
  -- The name of the entry is none of the builtin ones, so that its node stands in the file.
  have hmain : ∀ id ∈ s.2.world.lookup Entry.name,
      ∃ node, s.2.world.graph.get? id = some node ∧ node.span.file = 0 := by
    intro id hid
    have hended : SyntaxFile.Ended [] False s.1 s.2.world :=
      (file.bind_ended (Universe.ofFiles_sound ⟨#[f]⟩) False.elim).2
    obtain ⟨roots, hsound⟩ := hended.sound
    obtain ⟨node, hnode, hliteral⟩ := hsound.lookup hid
    refine ⟨node, hnode, hworld.spots hnode fun hkind => ?_⟩
    exact absurd (hliteral hkind) (by decide)
  exact Entry.check_same (s := ⟨s.2.world, log, parent⟩) (t := ⟨t.2.world, log', parent'⟩)
    ⟨hworld.graph, hworld.types, False.elim, hworld.spots, hmain⟩ hkept.here

namespace SyntaxFile

def judged (file : SyntaxFile) (id : FileId) (u : Universe FrameTable)
    (traced traced' : TraceLog × Nat) : Except BindFailure NodeId :=
  let bound := file.bind.exec ⟨u, traced.1, traced.2⟩
  if bound.1.isOk then ((Entry.check id).exec ⟨bound.2.world, traced'.1, traced'.2⟩).1 else bound.1

def phases (file : SyntaxFile) (u : Universe FrameTable) (traced : TraceLog × Nat) :
    List PhaseTime :=
  let bound := file.bind.exec ⟨u, traced.1, traced.2⟩
  ⟨Stage.bind.name, Bytes.ofNat bound.2.world.graph.size ++ " nodes", 0⟩ ::
    if bound.1.isOk then [⟨Stage.entry.name, [], 0⟩] else []

variable {file : SyntaxFile} {id : FileId} {u : Universe FrameTable} {a b a' b' : TraceLog × Nat}
  {s : BindState FrameTable}

private theorem judged_of_error {e : BindFailure}
    (h : file.bind.exec ⟨u, a.1, a.2⟩ = (.error e, s)) : file.judged id u a b = .error e := by
  unfold judged
  rw [h]
  rfl

private theorem judged_of_ok {root : NodeId} (h : file.bind.exec ⟨u, a.1, a.2⟩ = (.ok root, s)) :
    file.judged id u a b = ((Entry.check id).exec ⟨s.world, b.1, b.2⟩).1 := by
  unfold judged
  rw [h]
  rfl

/-- What is reported on a tree of the file with the number zero points into that file and does not
depend on what else is known of the file or on the traces. -/
theorem judged_reports (hspan : file.span.file = 0)
    (hitems : Expr.AllSpansIn (·.file = 0) file.items) (f g : SourceFile)
    (a b a' b' : TraceLog × Nat) :
    let reports := BindFailure.reports 0 (file.judged 0 (.ofFiles ⟨#[f]⟩) a b)
    reports = BindFailure.reports 0 (file.judged 0 (.ofFiles ⟨#[g]⟩) a' b') ∧
      ∀ d ∈ reports, d.ErrorIn (·.file = 0) := by
  obtain ⟨hbound, -, hchecked⟩ := bind_same hspan hitems f g a.1 a'.1 a.2 a'.2
  obtain ⟨hok, hreports⟩ := hbound.reports
  intro reports
  unfold reports judged
  dsimp only
  rw [← hok]
  split
  · exact (hchecked b.1 b'.1 b.2 b'.2).reports.2
  · exact hreports

private theorem phases_congr (hspan : file.span.file = 0)
    (hitems : Expr.AllSpansIn (·.file = 0) file.items) (f g : SourceFile) (a a' : TraceLog × Nat) :
    file.phases (.ofFiles ⟨#[f]⟩) a = file.phases (.ofFiles ⟨#[g]⟩) a' := by
  obtain ⟨hbound, hgraph, -⟩ := bind_same hspan hitems f g a.1 a'.1 a.2 a'.2
  unfold phases
  dsimp only
  rw [hbound.reports.1, hgraph]

end SyntaxFile

namespace SourceFile

/-- Everything that is wrong with a file. After a syntax error it is not bound, and after a binding
error its entry is not checked. -/
def findings (f : SourceFile) : List Diagnostic :=
  if f.parse.failed || !f.parse.reports.isEmpty then f.parse.reports
  else BindFailure.reports f.id (f.parse.file.judged f.id (.ofFiles ⟨#[f]⟩) ({}, 0) ({}, 0))

def phases (f : SourceFile) : List PhaseTime :=
  ⟨Stage.parse.name, Bytes.ofNat f.parse.file.items.length ++ " items", 0⟩ ::
    if f.parse.failed || !f.parse.reports.isEmpty then []
    else f.parse.file.phases (.ofFiles ⟨#[f]⟩) ({}, 0)

variable {f g : SourceFile}

/-- The tree of a file hangs on its number and its content, but for the path that it keeps. -/
theorem parse_congr (hid : f.id = g.id) (hcontent : f.content = g.content) :
    f.parse = { g.parse with file.path := f.path } := by
  unfold SourceFile.parse SourceFile.tokens
  rw [hid, hcontent]
  rfl

theorem findings_congr (hf : f.id = 0) (hg : g.id = 0) (hcontent : f.content = g.content) :
    f.findings = g.findings := by
  obtain ⟨-, hspan, hitems⟩ := g.parse_inFile hg
  unfold findings
  rw [parse_congr (hf.trans hg.symm) hcontent, hf, hg]
  split
  · rfl
  · exact (SyntaxFile.judged_reports hspan hitems f g _ _ _ _).1

theorem findings_inFile (hf : f.id = 0) : ∀ d ∈ f.findings, d.ErrorIn (·.file = 0) := by
  obtain ⟨hreports, hspan, hitems⟩ := f.parse_inFile hf
  unfold findings
  split
  · exact hreports
  · rw [hf]
    exact (SyntaxFile.judged_reports hspan hitems f f _ _ ({}, 0) ({}, 0)).2

end SourceFile

private theorem TraceLog.opened_now (log : TraceLog) (scope : TraceScope) (name : Bytes)
    (parent : Nat) : (log.opened scope name parent).2.now = log.now := by
  unfold TraceLog.opened
  split
  · dsimp only
    unfold TraceLog.emit
    split
    · rfl
    · rfl
  · rfl

private theorem Timer.report_stop {t : Timer} {before : List Phase} {last : Phase}
    (h : t.phases = before ++ [last]) (log : TraceLog) (note : Bytes) :
    (t.stop log (t.phases.length - 1) note).1.report =
      before.map (fun p => ⟨p.name, p.note, p.nanos⟩) ++
        [⟨last.name, note, (log.now - last.span.since).toNat⟩] := by
  simp [Timer.stop, Timer.report, h]

namespace Compilation

def Retimed (c d : Compilation) : Prop :=
  ∃ log timer stages, d = { c with log := log, timer := timer, stages := stages }

variable {c : Compilation}

private theorem throughTimed_stopped (h : c.running = false) (stage : Stage) :
    (c.throughTimed stage : Id Compilation) = c := by
  simp [throughTimed, needs, h]
  rfl

private theorem work_timer (c : Compilation) (stage : Stage) :
    (c.work stage).timer = c.timer := by
  have hbinding (u : Universe FrameTable) (action : BindM FrameTable NodeId)
      (keep : Compilation → NodeId → Compilation) (hkeep : ∀ c id, (keep c id).timer = c.timer) :
      (c.binding u action keep).timer = c.timer := by
    unfold binding
    dsimp only
    split
    · exact hkeep _ _
    · rfl
  cases stage with
  | queued | parse => rfl
  | bind =>
    simp only [work, bind]
    split
    · exact hbinding _ _ _ fun _ _ => rfl
    · rfl
  | entry =>
    simp only [work, checkEntry]
    split
    · exact hbinding _ _ _ fun _ _ => rfl
    · rfl

private theorem throughTimed_running (h : c.running = true) (hentry : c.options.skipEntry = false)
    (stage : Stage) :
    let d : Compilation := (c.throughTimed stage : Id Compilation)
    (∃ entered, c.Retimed entered ∧ (entered.work stage).Retimed d) ∧
      d.timer.report = c.timer.report ++ [⟨stage.name, d.note stage, 0⟩] := by
  intro d
  let entered := ({ c with log.now := 0 } : Compilation).enter stage
  let worked := { entered.work stage with log.now := 0 }
  have hneeds : c.needs stage = true := by simp [needs, h, hentry]
  have hd : d = worked.leave (worked.note stage) := by
    unfold d throughTimed
    rw [if_pos hneeds]
    rfl
  refine ⟨⟨entered, ⟨_, _, _, rfl⟩, _, _, _, hd⟩, ?_⟩
  let opened := ({ c.log with now := 0 } : TraceLog).opened .pass stage.name c.timer.parent
  let last : Phase := { name := stage.name, span := { opened.1 with since := opened.2.now } }
  have hphases : worked.timer.phases = c.timer.phases ++ [last] :=
    congrArg Timer.phases (work_timer entered stage)
  have hnow : opened.2.now = 0 := TraceLog.opened_now _ _ _ _
  have hreport := Timer.report_stop hphases worked.log (worked.note stage)
  have hnote : d.note stage = worked.note stage := by
    rw [hd]
    cases stage <;> rfl
  rw [hnote, hd]
  refine hreport.trans ?_
  rw [show last.span.since = 0 from hnow]
  rfl

structure Parses (c d : Compilation) : Prop where
  options : d.options = c.options
  files : d.files = c.files
  file : d.file = c.file
  parsed : d.parsed = some c.file.parse
  bag : d.bag = c.bag.addAll c.file.parse.reports
  running : d.running = !(c.file.parse.failed || d.bag.hasErrors)
  report : d.timer.report = c.timer.report ++ [⟨Stage.parse.name, d.note .parse, 0⟩]

private theorem throughTimed_parses (h : c.running = true) (hentry : c.options.skipEntry = false) :
    c.Parses (c.throughTimed .parse : Id Compilation) := by
  obtain ⟨⟨_, ⟨_, _, _, rfl⟩, _, _, _, hd⟩, hreport⟩ := throughTimed_running h hentry .parse
  rw [hd] at hreport ⊢
  exact ⟨rfl, rfl, rfl, rfl, rfl, rfl, hreport⟩

structure Judges (c d : Compilation) (s : Except BindFailure NodeId × BindState FrameTable) :
    Prop where
  options : d.options = c.options
  file : d.file = c.file
  world : d.world = some s.2.world
  bag : d.bag = c.bag.addAll (BindFailure.reports c.file.id s.1)
  running : d.running = s.1.isOk

private theorem binding_judges (h : c.running = true) (u : Universe FrameTable)
    (action : BindM FrameTable NodeId) {keep : Compilation → NodeId → Compilation}
    (hkeep : ∀ c id, ∃ root main, keep c id = { c with root := root, main := main }) :
    ∃ traced : TraceLog × Nat,
      c.Judges (c.binding u action keep) (action.exec ⟨u, traced.1, traced.2⟩) := by
  refine ⟨(c.log, c.timer.spanId (c.timer.phases.length - 1)), ?_⟩
  have hrun : c.binding u action keep =
      let s := action.exec ⟨u, c.log, c.timer.spanId (c.timer.phases.length - 1)⟩
      let d := { c with world := some s.2.world, files := s.2.world.files, log := s.2.log }
      match s.1 with
      | .ok id => keep d id
      | .error e => { d with bag := c.bag.add (e.diagnostic c.file.id), running := false } := rfl
  rw [hrun]
  rcases action.exec _ with ⟨e | id, s⟩
  · exact ⟨rfl, rfl, rfl, rfl, rfl⟩
  · dsimp only
    obtain ⟨root, main, hkept⟩ :=
      hkeep { c with world := some s.world, files := s.world.files, log := s.log } id
    rw [hkept]
    exact ⟨rfl, rfl, rfl, rfl, h⟩

private theorem throughTimed_judges (h : c.running = true) (hentry : c.options.skipEntry = false)
    (stage : Stage) (u : Universe FrameTable) (action : BindM FrameTable NodeId)
    {keep : Compilation → NodeId → Compilation}
    (hkeep : ∀ c id, ∃ root main, keep c id = { c with root := root, main := main })
    (hwork : ∀ d, c.Retimed d → d.work stage = d.binding u action keep) :
    let d : Compilation := (c.throughTimed stage : Id Compilation)
    (∃ traced : TraceLog × Nat, c.Judges d (action.exec ⟨u, traced.1, traced.2⟩)) ∧
      d.timer.report = c.timer.report ++ [⟨stage.name, d.note stage, 0⟩] := by
  intro d
  obtain ⟨⟨entered, hentered, _, _, _, hd⟩, hreport⟩ := throughTimed_running h hentry stage
  refine ⟨?_, hreport⟩
  have hrunning : entered.running = true := by
    obtain ⟨_, _, _, rfl⟩ := hentered
    exact h
  obtain ⟨traced, hjudges⟩ := binding_judges hrunning u action hkeep
  rw [← hwork entered hentered] at hjudges
  rw [show d = _ from hd]
  obtain ⟨_, _, _, rfl⟩ := hentered
  exact ⟨traced, hjudges.options, hjudges.file, hjudges.world, hjudges.bag, hjudges.running⟩

private theorem throughTimed_bind_entry (h : c.running = true)
    (hentry : c.options.skipEntry = false)
    {parsed : Syntax.Parsed} (hparsed : c.parsed = some parsed) :
    let bound : Compilation := (c.throughTimed .bind : Id Compilation)
    let d : Compilation := (bound.throughTimed .entry : Id Compilation)
    ∃ traced traced' : TraceLog × Nat,
      d.bag = c.bag.addAll (BindFailure.reports c.file.id
        (parsed.file.judged c.file.id (.ofFiles c.files) traced traced')) ∧
      d.timer.report = c.timer.report ++ parsed.file.phases (.ofFiles c.files) traced := by
  intro bound d
  have hbinding (d : Compilation) (hd : c.Retimed d) :
      d.work .bind = d.binding (.ofFiles c.files) parsed.file.bind
        fun c id => { c with root := some id } := by
    obtain ⟨_, _, _, rfl⟩ := hd
    simp only [work, bind, hparsed]
  obtain ⟨⟨traced, hbind⟩, hbound⟩ :=
    throughTimed_judges h hentry .bind _ _ (fun c id => ⟨some id, c.main, rfl⟩) hbinding
  change c.Judges bound _ at hbind
  change bound.timer.report = _ ++ [⟨_, bound.note .bind, _⟩] at hbound
  rw [Compilation.note, hbind.world] at hbound
  rcases hrun : parsed.file.bind.exec
    (⟨.ofFiles c.files, traced.1, traced.2⟩ : BindState FrameTable) with ⟨r, s⟩
  rw [hrun] at hbind hbound
  cases r with
  | error e =>
    have hd : d = bound := throughTimed_stopped hbind.running .entry
    refine ⟨traced, ({}, 0), ?_, ?_⟩
    · rw [hd, hbind.bag, SyntaxFile.judged_of_error hrun]
    · rw [hd, hbound, SyntaxFile.phases, hrun]
      rfl
  | ok root =>
    have hbinding (d : Compilation) (hd : bound.Retimed d) :
        d.work .entry = d.binding s.world (Entry.check bound.file.id)
          fun c id => { c with main := some id } := by
      obtain ⟨_, _, _, rfl⟩ := hd
      simp only [work, checkEntry, hbind.world]
    obtain ⟨⟨traced', hcheck⟩, hchecked⟩ := throughTimed_judges hbind.running
      (hbind.options ▸ hentry) .entry _ _ (fun c id => ⟨c.root, some id, rfl⟩) hbinding
    change bound.Judges d _ at hcheck
    change d.timer.report = _ at hchecked
    refine ⟨traced, traced', ?_, ?_⟩
    · rw [hcheck.bag, hbind.bag, hbind.file, SyntaxFile.judged_of_ok hrun]
      rfl
    · rw [hchecked, hbound, SyntaxFile.phases, hrun, List.append_assoc]
      rfl

/-- All stages together leave the findings of the file in the bag. -/
theorem plan_outcome (limit : Int) (h : c.running = true) (hentry : c.options.skipEntry = false)
    (hbag : c.bag = .ofLimit limit) (hreport : c.timer.report = []) (hid : c.file.id = 0)
    (hfiles : c.files = ⟨#[c.file]⟩) :
    let d : Compilation := (plan.foldlM throughTimed c : Id Compilation)
    d.bag = (Bag.ofLimit limit).addAll c.file.findings ∧ d.timer.report = c.file.phases := by
  intro d
  let parsed : Compilation := (c.throughTimed .parse : Id Compilation)
  let bound : Compilation := (parsed.throughTimed .bind : Id Compilation)
  obtain ⟨hreports, hspan, hitems⟩ := c.file.parse_inFile hid
  have hparse : c.Parses parsed := throughTimed_parses h hentry
  have hparsed : parsed.bag = (Bag.ofLimit limit).addAll c.file.parse.reports := hbag ▸ hparse.bag
  have hphase : parsed.timer.report =
      [⟨Stage.parse.name, Bytes.ofNat c.file.parse.file.items.length ++ " items", 0⟩] := by
    rw [hparse.report, hreport, Compilation.note, hparse.parsed]
    rfl
  have hrunning : parsed.running = !(c.file.parse.failed || !c.file.parse.reports.isEmpty) := by
    rw [hparse.running, hparsed, Bag.hasErrors_ofLimit_addAll fun d hd => (hreports d hd).error]
  unfold SourceFile.findings SourceFile.phases
  cases hfails : c.file.parse.failed || !c.file.parse.reports.isEmpty with
  | true =>
    rw [hfails] at hrunning
    have hbound : bound = parsed := throughTimed_stopped hrunning .bind
    have hstopped : bound.running = false := hbound ▸ hrunning
    have hd : d = bound := throughTimed_stopped hstopped .entry
    rw [hd, hbound, hparsed, hphase]
    exact ⟨rfl, rfl⟩
  | false =>
    rw [hfails] at hrunning
    have hnone : c.file.parse.reports = [] := by simpa using (Bool.or_eq_false_iff.mp hfails).2
    have hempty : parsed.bag = .ofLimit limit := by
      rw [hparsed, hnone]
      rfl
    have hentry' : parsed.options.skipEntry = false := hparse.options ▸ hentry
    obtain ⟨traced, traced', hjudged, hphases⟩ :=
      throughTimed_bind_entry hrunning hentry' hparse.parsed
    have hreports' :=
      SyntaxFile.judged_reports hspan hitems c.file c.file traced traced' ({}, 0) ({}, 0)
    have hphases' := SyntaxFile.phases_congr hspan hitems c.file c.file traced ({}, 0)
    rw [hempty, hparse.file, hparse.files, hfiles, hid, hreports'.1] at hjudged
    rw [hphase, hparse.files, hfiles, hphases'] at hphases
    rw [hid]
    exact ⟨hjudged, hphases⟩

end Compilation

private theorem compileTimed_eq (options : CompileOptions) (files : FileSet) (file : SourceFile)
    (log : TraceLog) : (compileTimed options files file log : Id Compilation) =
      { (Compilation.plan.foldlM Compilation.throughTimed
          (.ofFile options files file { log with now := 0 }) : Id Compilation) with
        log.now := 0 }.finish := rfl

/-- The bag of a compilation holds the findings of its file, as many as it has room for, and its
timer shows the phases of the file. -/
theorem compileTimed_outcome (limit : Int) {f : SourceFile} (hf : f.id = 0) (log : TraceLog) :
    let c : Compilation := (compileTimed { maxDiagnostics := limit } ⟨#[f]⟩ f log : Id Compilation)
    c.bag = (Bag.ofLimit limit).addAll f.findings ∧ c.timer.report = f.phases := by
  let start := Compilation.ofFile { maxDiagnostics := limit } ⟨#[f]⟩ f { log with now := 0 }
  have houtcome := Compilation.plan_outcome (c := start) limit rfl rfl rfl rfl hf rfl
  rw [compileTimed_eq]
  generalize (Compilation.plan.foldlM Compilation.throughTimed start : Id Compilation) = d
    at houtcome ⊢
  exact houtcome

theorem compileTimed_state {σ : Type} (options : CompileOptions) (files : FileSet)
    (file : SourceFile) (log : TraceLog) (s : σ) :
    (compileTimed options files file log : StateM σ Compilation) s =
      ((compileTimed options files file log : Id Compilation), s) := by
  have hthrough (c : Compilation) (stage : Stage) :
      (c.throughTimed stage : StateM σ Compilation) s =
        ((c.throughTimed stage : Id Compilation), s) := by
    unfold Compilation.throughTimed
    split
    · rfl
    · rfl
  have hfold (stages : List Stage) (c : Compilation) :
      (stages.foldlM Compilation.throughTimed c : StateM σ Compilation) s =
        ((stages.foldlM Compilation.throughTimed c : Id Compilation), s) := by
    induction stages generalizing c with
    | nil => rfl
    | cons stage rest ih =>
      simp only [List.foldlM_cons, Bind.bind, StateT.bind, hthrough, ih]
  have hplan := hfold Compilation.plan (.ofFile options files file { log with now := 0 })
  exact congrArg (fun p : Compilation × σ => ({ p.1 with log.now := 0 }.finish, p.2)) hplan

end Keywordless
