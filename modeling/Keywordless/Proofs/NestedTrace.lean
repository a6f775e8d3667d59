import Keywordless.Compile.Basic
import Keywordless.Proofs.BindActions
import Keywordless.Proofs.BindRun
import Mathlib

/-!
# Traces are well nested

The events of a trace are replayed on a stack of open spans. A span that a compilation opens hangs
off the innermost open one and is closed before that one is, on every path through the stages and
through binding, failures included. Which spans there are depends on the level alone: a level that
lets fine events through lets the coarser ones through as well, so that no parent is ever missing.
-/

namespace Keywordless

namespace TraceEvent

def SameSpan (e o : TraceEvent) : Prop :=
  e.span = o.span ∧ e.scope = o.scope ∧ e.name = o.name ∧ e.parent = o.parent

instance (e o : TraceEvent) : Decidable (e.SameSpan o) := inferInstanceAs (Decidable (_ ∧ _))

def innermost : List TraceEvent → Nat
  | [] => 0
  | e :: _ => e.span

/-- The spans that are open after some events, given by the events that opened them, the innermost
first. There is no answer if a span is opened elsewhere than below the innermost open one, if an
event closes another span than that one, or if an event does neither. -/
def replay : List TraceEvent → List TraceEvent → Option (List TraceEvent)
  | stack, [] => some stack
  | stack, e :: rest =>
    if e.kind = .opening ∧ e.parent = innermost stack then replay (e :: stack) rest
    else
      match stack with
      | o :: outer => if e.kind = .closing ∧ e.SameSpan o then replay outer rest else none
      | [] => none

private theorem replay_append (stack xs ys : List TraceEvent) :
    replay stack (xs ++ ys) = (replay stack xs).bind (replay · ys) := by
  induction xs generalizing stack with
  | nil => rfl
  | cons e xs ih =>
    simp only [List.cons_append, replay]
    split
    · exact ih _
    · split
      · split
        · exact ih _
        · rfl
      · rfl

private theorem replay_opening {stack rest : List TraceEvent} {e : TraceEvent}
    (hkind : e.kind = .opening) (hparent : e.parent = innermost stack) :
    replay stack (e :: rest) = replay (e :: stack) rest := by
  rw [replay.eq_def]
  exact if_pos (And.intro hkind hparent)

private theorem replay_closing {outer rest : List TraceEvent} {e o : TraceEvent}
    (hkind : e.kind = .closing)
    (hsame : e.SameSpan o) : replay (o :: outer) (e :: rest) = replay outer rest := by
  have hclosing : TraceKind.closing ≠ .opening := by decide
  rw [replay.eq_def]
  simp [hkind, hclosing, hsame]

private theorem replay_span {stack events : List TraceEvent} {first last : TraceEvent}
    (hfirst : first.kind = .opening) (hlast : last.kind = .closing)
    (hparent : first.parent = innermost stack) (hsame : last.SameSpan first)
    (h : replay (first :: stack) events = some (first :: stack)) :
    replay stack (first :: (events ++ [last])) = some stack := by
  rw [replay_opening hfirst hparent, replay_append, h, Option.bind_some, replay_closing hlast hsame]
  rfl

def openings (events : List TraceEvent) : List TraceEvent := events.filter (·.kind = .opening)

def outline (events : List TraceEvent) : List (TraceScope × Bytes) :=
  ((openings events).filter (·.scope ≠ .node)).map fun e => (e.scope, e.name)

private theorem openings_append (xs ys : List TraceEvent) :
    openings (xs ++ ys) = openings xs ++ openings ys :=
  List.filter_append xs ys

private theorem openings_span {events : List TraceEvent} {first last : TraceEvent}
    (hfirst : first.kind = .opening) (hlast : last.kind = .closing) :
    openings (first :: (events ++ [last])) = first :: openings events := by
  have hclosing : TraceKind.closing ≠ .opening := by decide
  simp [openings, hfirst, hlast, hclosing]

private theorem outline_append (xs ys : List TraceEvent) :
    outline (xs ++ ys) = outline xs ++ outline ys := by
  simp [outline, openings_append]

end TraceEvent

open TraceEvent

private theorem TraceLevel.emits_of_le {level : TraceLevel} {fine coarse : TraceScope}
    (hle : coarse.rank ≤ fine.rank) (h : level.emits fine = true) : level.emits coarse = true := by
  unfold emits at h ⊢
  split
  · next hphase =>
    rw [if_pos hphase] at h
    simp only [decide_eq_true_eq] at h ⊢
    omega
  · next hphase =>
    rw [if_neg hphase] at h
    split
    · next hdetail =>
      rw [if_pos hdetail] at h
      simp only [decide_eq_true_eq] at h ⊢
      omega
    · next hdetail => rwa [if_neg hdetail] at h

namespace TraceLog

/-- From one log to another some events were added. They are numbered on, and wherever the span
`parent` is the innermost open one they open spans below it and close all of them again. -/
structure Nests (log : TraceLog) (parent : Nat) (events : List TraceEvent) (after : TraceLog) :
    Prop where
  level : after.level = log.level
  appended : after.events = log.events ++ events
  seq : after.seq = log.seq + events.length
  spans : after.spans = log.spans + (openings events).length
  numbered : events.map (·.seq) = List.range' (log.seq + 1) events.length
  fresh : (openings events).map (·.span) = List.range' (log.spans + 1) (openings events).length
  replayed : ∀ stack, innermost stack = parent → replay stack events = some stack
  emitted : ∀ e ∈ events, log.level.emits e.scope = true

namespace Nests

variable {log middle after : TraceLog} {parent : Nat} {events more : List TraceEvent}

private theorem refl (log : TraceLog) (parent : Nat) : log.Nests parent [] log := by
  constructor <;> simp [openings, replay]

private theorem trans (h : log.Nests parent events middle) (h' : middle.Nests parent more after) :
    log.Nests parent (events ++ more) after where
  level := h'.level.trans h.level
  appended := by rw [h'.appended, h.appended, List.append_assoc]
  seq := by rw [h'.seq, h.seq, List.length_append, Nat.add_assoc]
  spans := by rw [h'.spans, h.spans, openings_append, List.length_append, Nat.add_assoc]
  numbered := by
    rw [List.map_append, h.numbered, h'.numbered, h.seq, List.length_append, ← List.range'_append_1]
    congr 2
    omega
  fresh := by
    rw [openings_append, List.map_append, h.fresh, h'.fresh, h.spans, List.length_append,
      ← List.range'_append_1]
    congr 2
    omega
  replayed := by
    intro stack hstack
    rw [replay_append, h.replayed stack hstack]
    exact h'.replayed stack hstack
  emitted := by
    intro e he
    rcases List.mem_append.mp he with he | he
    · exact h.emitted e he
    · exact h.level ▸ h'.emitted e he

/-- What is done between opening a span and closing it stands below that span. -/
theorem emitted_within {scope : TraceScope} {name : Bytes} (detail : Bytes) (since : Int)
    (hemits : log.level.emits scope = true)
    (h : (log.opened scope name parent).2.Nests (log.opened scope name parent).1.id events after) :
    ∃ first last, first.kind = .opening ∧ last.kind = .closing ∧
      first.scope = scope ∧ first.name = name ∧
      log.Nests parent (first :: (events ++ [last]))
        (after.closed { (log.opened scope name parent).1 with since := since } detail) := by
  simp only [opened, emit, hemits, if_true] at h
  have hlevel : after.level = log.level := h.level
  have hseq : after.seq = log.seq + 1 + events.length := h.seq
  have hspans : after.spans = log.spans + 1 + (openings events).length := h.spans
  let first : TraceEvent :=
    ⟨log.seq + 1, .opening, scope, log.spans + 1, parent, name, [], log.now.fdiv 1000, 0⟩
  let last : TraceEvent :=
    ⟨after.seq + 1, .closing, scope, log.spans + 1, parent, name, detail,
      after.now.fdiv 1000, after.now - since⟩
  have hclosed : after.closed { (log.opened scope name parent).1 with since := since } detail =
      { after with seq := after.seq + 1, events := after.events ++ [last] } := by
    simp [opened, closed, emit, hemits, hlevel, last]
  have hopenings : openings (first :: (events ++ [last])) = first :: openings events :=
    openings_span rfl rfl
  rw [hclosed]
  refine ⟨first, last, rfl, rfl, rfl, rfl, hlevel, ?_, ?_, ?_, ?_, ?_, ?_, ?_⟩
  · simp [h.appended, first]
  · simp only [hseq, List.length_cons, List.length_append, List.length_nil]
    omega
  · simp only [hspans, hopenings, List.length_cons]
    omega
  · have hnumbered : events.map (·.seq) = List.range' (log.seq + 1 + 1) events.length := h.numbered
    have hlast : last.seq = log.seq + 1 + 1 + events.length := by
      simp only [last, hseq]
      omega
    rw [List.map_cons, List.map_append, hnumbered, List.map_singleton, hlast,
      ← List.range'_1_concat, List.length_cons, List.length_append, List.length_singleton,
      List.range'_succ (s := log.seq + 1)]
  · have hfresh : (openings events).map (·.span) =
        List.range' (log.spans + 1 + 1) (openings events).length := h.fresh
    rw [hopenings, List.map_cons, hfresh, List.length_cons, List.range'_succ]
  · intro stack hstack
    exact replay_span rfl rfl hstack.symm ⟨rfl, rfl, rfl, rfl⟩ (h.replayed _ rfl)
  · intro e he
    simp only [List.mem_cons, List.mem_append, List.not_mem_nil, or_false] at he
    rcases he with rfl | he | rfl
    · exact hemits
    · exact h.emitted e he
    · exact hemits

/-- A span that the level holds back has no number, and the work goes on below its parent, which
then has none either. -/
theorem within {scope : TraceScope} {name : Bytes} (detail : Bytes) (since : Int)
    (hparent : log.level.emits scope = false → parent = 0)
    (h : (log.opened scope name parent).2.Nests (log.opened scope name parent).1.id events after) :
    ∃ all, log.Nests parent all
        (after.closed { (log.opened scope name parent).1 with since := since } detail) ∧
      outline all =
        (if log.level.emits scope = true ∧ scope ≠ .node then [(scope, name)] else []) ++
          outline events := by
  by_cases hemits : log.level.emits scope = true
  · obtain ⟨first, last, hfirst, hlast, hscope, hname, hnests⟩ :=
      h.emitted_within detail since hemits
    refine ⟨_, hnests, ?_⟩
    rw [outline, openings_span hfirst hlast, List.filter_cons, hscope]
    by_cases hnode : scope = .node <;> simp [outline, hnode, hemits, hscope, hname]
  · rw [Bool.not_eq_true] at hemits
    obtain rfl := hparent hemits
    simp only [opened, hemits] at h ⊢
    exact ⟨events, h, by simp⟩

end Nests

end TraceLog

open TraceLog (Nests)

/-- Binding adds nothing but spans of nodes, which it closes whether or not it fails. -/
theorem BindM.Built.nests {τ : Type} [ScopeStore τ] {α : Type} {action : BindM τ α}
    (h : Built action) (s : BindState τ) :
    (exec action s).2.parent = s.parent ∧
      ∃ events, s.log.Nests s.parent events (exec action s).2.log ∧ outline events = [] := by
  have hquiet {β : Type} {basic : BindM τ β} {s : BindState τ}
      (hlog : (exec basic s).2.log = s.log) (hparent : (exec basic s).2.parent = s.parent) :
      (exec basic s).2.parent = s.parent ∧
        ∃ events, s.log.Nests s.parent events (exec basic s).2.log ∧ outline events = [] :=
    ⟨hparent, [], hlog ▸ .refl _ _, rfl⟩
  induction h generalizing s with
  | pure | throw | fail | primitive | make | openScope | visible? | declare => exact hquiet rfl rfl
  | ask answer =>
    have hrun : exec (BindM.ask answer) s = exec (BindM.ask answer >>= Pure.pure) s := by
      rw [bind_pure]
    rw [exec_ask_bind] at hrun
    apply hquiet <;> rw [hrun] <;> cases answer s.world <;> rfl
  | wrap w elem => apply hquiet <;> rw [BindM.wrap, exec_intern]
  | procedureType params result => apply hquiet <;> rw [BindM.procedureType, exec_intern]
  | @bind _ _ action next _ _ ih ih' =>
    obtain ⟨hparent, events, hnests, houtline⟩ := ih s
    rw [exec_bind]
    rcases hrun : exec action s with ⟨_ | a, t⟩
    · rw [hrun] at hparent hnests
      exact ⟨hparent, events, hnests, houtline⟩
    · rw [hrun] at hparent hnests
      obtain ⟨hparent', more, hnests', houtline'⟩ := ih' a t
      rw [hparent] at hnests'
      refine ⟨hparent'.trans hparent, events ++ more, hnests.trans hnests', ?_⟩
      rw [outline_append, houtline, houtline']
      rfl
  | @traced _ name action _ ih =>
    let opened := s.log.opened .node name s.parent
    let inside : BindState τ := { s with log := opened.2, parent := opened.1.id }
    have hrun : exec (BindM.traced name action) s =
        if s.log.level.emits .node then
          ((exec action inside).1, { (exec action inside).2 with
            log := (exec action inside).2.log.closed opened.1 [], parent := s.parent })
        else exec action s := rfl
    rw [hrun]
    split
    · next hemits =>
      obtain ⟨-, events, hnests, houtline⟩ := ih inside
      have hparent : s.log.level.emits .node = false → s.parent = 0 := by simp [hemits]
      obtain ⟨all, hall, houtline'⟩ := hnests.within [] opened.1.since hparent
      refine ⟨rfl, all, hall, ?_⟩
      rw [houtline', houtline]
      simp
    · exact ih s

namespace Compilation

structure Works (c d : Compilation) : Prop where
  timer : d.timer = c.timer
  span : d.span = c.span
  stages : d.stages = c.stages
  nested : ∃ events, c.log.Nests (c.timer.spanId (c.timer.phases.length - 1)) events d.log ∧
    outline events = []

private theorem Works.of_log_eq {c d : Compilation} (timer : d.timer = c.timer)
    (span : d.span = c.span) (stages : d.stages = c.stages) (log : d.log = c.log) : Works c d :=
  ⟨timer, span, stages, [], log ▸ .refl _ _, rfl⟩

private theorem binding_works (c : Compilation) {u : Universe FrameTable}
    {action : BindM FrameTable NodeId} {keep : Compilation → NodeId → Compilation}
    (hbuilt : action.Built)
    (hkeep : ∀ d id, (keep d id).timer = d.timer ∧ (keep d id).span = d.span ∧
      (keep d id).stages = d.stages ∧ (keep d id).log = d.log) :
    c.Works (c.binding u action keep) := by
  let start : BindState FrameTable := ⟨u, c.log, c.timer.spanId (c.timer.phases.length - 1)⟩
  obtain ⟨-, hnested⟩ := hbuilt.nests start
  rcases hrun : action.exec start with ⟨e | id, t⟩
  · rw [hrun] at hnested
    rw [binding_error hrun]
    exact ⟨rfl, rfl, rfl, hnested⟩
  · rw [hrun] at hnested
    rw [binding_ok hrun]
    obtain ⟨htimer, hspan, hstages, hlog⟩ := hkeep
      { c with world := some t.world, files := t.world.files, log := t.log } id
    constructor
    · exact htimer
    · exact hspan
    · exact hstages
    · rw [hlog]
      exact hnested

private theorem work_works (c : Compilation) (stage : Stage) : c.Works (c.work stage) := by
  cases stage with
  | queued => exact .of_log_eq rfl rfl rfl rfl
  | parse => exact .of_log_eq rfl rfl rfl rfl
  | bind =>
    simp only [work, bind]
    split
    · next parsed _ => exact c.binding_works parsed.file.bind_built fun _ _ => ⟨rfl, rfl, rfl, rfl⟩
    · exact .of_log_eq rfl rfl rfl rfl
  | entry =>
    simp only [work, checkEntry]
    split
    · exact c.binding_works (Entry.check_built _) fun _ _ => ⟨rfl, rfl, rfl, rfl⟩
    · exact .of_log_eq rfl rfl rfl rfl

/-- A file goes through some stages, each of which is one span below the span of the file. -/
structure Advances (c d : Compilation) : Prop where
  span : d.span = c.span
  parent : d.timer.parent = c.timer.parent
  nested : ∃ entered events, d.stages = c.stages ++ entered ∧
    c.log.Nests c.timer.parent events d.log ∧
    outline events =
      if c.log.level.emits .pass then entered.map fun stage => (.pass, stage.name) else []

private theorem through_advances (c : Compilation) (stage : Stage)
    (hparent : c.log.level.emits .pass = false → c.timer.parent = 0) :
    c.Advances (c.through stage) := by
  unfold through
  split
  case isFalse => exact ⟨rfl, rfl, [], [], by simp, .refl _ _, by simp [outline, openings]⟩
  case isTrue =>
    have hwork := work_works (c.enter stage) stage
    generalize (c.enter stage).work stage = d at hwork ⊢
    obtain ⟨events, hnests, houtline⟩ := hwork.nested
    let phase : Phase :=
      { name := stage.name
        span := { (c.log.opened .pass stage.name c.timer.parent).1 with
          since := (c.log.opened .pass stage.name c.timer.parent).2.now } }
    have htimer : d.timer = { c.timer with phases := c.timer.phases ++ [phase] } := hwork.timer
    have hlast : d.timer.phases[d.timer.phases.length - 1]? = some phase := by simp [htimer]
    have hid : (c.enter stage).timer.spanId ((c.enter stage).timer.phases.length - 1) =
        phase.span.id := by
      rw [← hwork.timer]
      simp only [Timer.spanId, hlast]
    rw [hid] at hnests
    have hleave : (d.leave (d.note stage)).log = d.log.closed phase.span (d.note stage) := by
      have hstop : (d.leave (d.note stage)).log =
          (d.timer.stop d.log (d.timer.phases.length - 1) (d.note stage)).2 := rfl
      rw [hstop, Timer.stop, hlast]
    have hkept : (d.leave (d.note stage)).timer.parent = d.timer.parent := by
      have hstop : (d.leave (d.note stage)).timer =
          (d.timer.stop d.log (d.timer.phases.length - 1) (d.note stage)).1 := rfl
      rw [hstop, Timer.stop, hlast]
    obtain ⟨all, hall, houtline'⟩ := hnests.within (d.note stage) phase.span.since hparent
    constructor
    · exact hwork.span
    · rw [hkept, htimer]
    · refine ⟨[stage], all, hwork.stages, hleave ▸ hall, ?_⟩
      have hscope : TraceScope.pass ≠ .node := by decide
      rw [houtline', houtline]
      simp [hscope]

private theorem Advances.trans {a b c : Compilation} (h : a.Advances b) (h' : b.Advances c) :
    a.Advances c := by
  obtain ⟨entered, events, hstages, hnests, houtline⟩ := h.nested
  obtain ⟨entered', events', hstages', hnests', houtline'⟩ := h'.nested
  constructor
  · exact h'.span.trans h.span
  · exact h'.parent.trans h.parent
  · refine ⟨entered ++ entered', events ++ events', ?_, hnests.trans (h.parent ▸ hnests'), ?_⟩
    · rw [hstages', hstages, List.append_assoc]
    · rw [outline_append, houtline, houtline', hnests.level]
      split <;> simp

private theorem foldl_through_advances (stages : List Stage) (c : Compilation)
    (hparent : c.log.level.emits .pass = false → c.timer.parent = 0) :
    c.Advances (stages.foldl through c) := by
  induction stages generalizing c with
  | nil => exact ⟨rfl, rfl, [], [], by simp, .refl _ _, by simp [outline, openings]⟩
  | cons stage stages ih =>
    have hstep := c.through_advances stage hparent
    obtain ⟨_, _, -, hnests, -⟩ := hstep.nested
    apply hstep.trans
    apply ih
    rw [hnests.level, hstep.parent]
    exact hparent

end Compilation

/-- The events that a compilation adds to a trace. Every span opens below the innermost open one and
is closed before that one; none stays open. The spans of nodes apart, there is one span for the file
and one for each stage that was entered, if the level has them. -/
theorem compile_trace_nested (options : CompileOptions) (files : FileSet) (file : SourceFile)
    (log : TraceLog) :
    ∃ events, (compile options files file log).log.events = log.events ++ events ∧
      replay [] events = some [] ∧
      (log.seq :: events.map (·.seq)).Pairwise (· < ·) ∧
      (log.spans :: (openings events).map (·.span)).Pairwise (· < ·) ∧
      (∀ e ∈ events, log.level.emits e.scope = true) ∧
      outline events =
        (if log.level.emits .file then [(.file, "file:" ++ file.path)] else []) ++
        (if log.level.emits .pass then
          (compile options files file log).stages.map fun stage => (.pass, stage.name) else []) ∧
      (log.level = .off ∨ log.level = .error → events = []) := by
  let start := Compilation.ofFile options files file log
  have hlevel : start.log.level = log.level := by
    simp only [start, Compilation.ofFile, TraceLog.opened, TraceLog.emit]
    split <;> simp
  -- The span of the file is held back by a level that holds back the spans of stages.
  have hparent : start.log.level.emits .pass = false → start.timer.parent = 0 := by
    intro hpass
    rw [hlevel] at hpass
    have hfile : log.level.emits .file = false := by
      have hle : TraceScope.pass.rank ≤ TraceScope.file.rank := by decide
      by_contra hfile
      rw [Bool.not_eq_false] at hfile
      simp [TraceLevel.emits_of_le hle hfile] at hpass
    simp [start, Compilation.ofFile, TraceLog.opened, hfile]
  have hrun := Compilation.foldl_through_advances Compilation.plan start hparent
  obtain ⟨entered, inner, hstages, hnests, hinner⟩ := hrun.nested
  let last := Compilation.plan.foldl Compilation.through start
  have hlog : (compile options files file log).log =
      last.log.closed start.span (Bytes.ofNat last.bag.size ++ " diagnostics") := by
    rw [← hrun.span]
    rfl
  have hentered : (compile options files file log).stages = entered := hstages
  have hinside : (log.opened .file ("file:" ++ file.path) 0).2.Nests
      (log.opened .file ("file:" ++ file.path) 0).1.id inner last.log := hnests
  obtain ⟨events, hall, houtline⟩ := hinside.within (Bytes.ofNat last.bag.size ++ " diagnostics")
    start.span.since fun _ => rfl
  refine ⟨events, ?_, hall.replayed [] rfl, ?_, ?_, hall.emitted, ?_, ?_⟩
  · rw [hlog]
    exact hall.appended
  · rw [hall.numbered, ← List.range'_succ (s := log.seq)]
    exact List.pairwise_lt_range'
  · rw [hall.fresh, ← List.range'_succ (s := log.spans)]
    exact List.pairwise_lt_range'
  · have hscope : TraceScope.file ≠ .node := by decide
    rw [houtline, hinner, hentered, hlevel]
    simp [hscope]
  · intro hsilent
    by_contra hsome
    obtain ⟨e, he⟩ := List.exists_mem_of_ne_nil _ hsome
    have hemits := hall.emitted e he
    rcases hsilent with hlevel | hlevel <;> rw [hlevel] at hemits <;> cases hemits

end Keywordless
