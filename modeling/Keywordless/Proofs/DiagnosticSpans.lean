import Keywordless.Proofs.CompileOutcome
import Keywordless.Proofs.ParserSpans

/-!
# Diagnostics point into their file

Tokens lie in the file they were read from, so the spans that the parser makes of them do, and so do
the spans that binding and the check of the entry take from the tree. Nothing is ever reported at
the names of the builtin types, which stand in a file of their own.
-/

namespace Keywordless

def SourceFile.Holds (f : SourceFile) (span : Span) : Prop :=
  span.file = f.id ∧ span.start ≤ span.stop ∧ span.stop ≤ f.content.length

def Diagnostic.PointsInto (f : SourceFile) (d : Diagnostic) : Prop :=
  f.Holds d.primary ∧ ∀ n ∈ d.notes, f.Holds n.span

namespace SourceFile

variable {f : SourceFile}

private theorem holds_cover {a b : Span} (ha : f.Holds a) (hb : f.Holds b) :
    f.Holds (a.cover b) := by
  obtain ⟨hfile, hle, hstop⟩ := ha
  obtain ⟨hfile', hle', hstop'⟩ := hb
  have hsame : a.file = b.file := hfile.trans hfile'.symm
  simp only [Span.cover, if_pos hsame]
  refine ⟨hfile, ?_, ?_⟩
  · dsimp only
    omega
  · dsimp only
    omega

private theorem holds_spots (hid : f.id = 0) : Spots f.Holds := by
  refine ⟨⟨hid.symm, le_rfl, Nat.zero_le _⟩, holds_cover, ?_⟩
  rintro a ⟨hfile, -, hstop⟩
  exact ⟨hfile, le_rfl, hstop⟩

private theorem holds_start (f : SourceFile) : f.Holds { file := f.id } :=
  ⟨rfl, le_rfl, Nat.zero_le _⟩

private theorem tokenRow_held {start : Nat} {tokens : List Token}
    (h : TokenRow f.id f.content.length start tokens) : ∀ t ∈ tokens, f.Holds t.span := by
  induction tokens generalizing start with
  | nil => simp
  | cons t rest ih =>
    obtain ⟨hfile, -, hle, -, hrest⟩ := h
    rw [List.forall_mem_cons]
    exact ⟨⟨hfile, hle, hrest.le⟩, ih hrest⟩

private theorem tokens_held (f : SourceFile) :
    ∀ t ∈ f.tokens, f.Holds t.span := tokenRow_held f.tokens_row

private theorem lexReports_inside (f : SourceFile) : ∀ d ∈ lexReports f.tokens, d.PointsInto f := by
  intro d hd
  obtain ⟨t, ht, hreport⟩ := List.mem_filterMap.mp hd
  obtain ⟨e, -, rfl⟩ := Option.map_eq_some_iff.mp hreport
  exact ⟨f.tokens_held t ht, by simp [Diagnostic.error]⟩

end SourceFile

namespace Lexer

/-- A lexer reports the invalid ones among the tokens that it hands out. -/
theorem drain_reports {lx : Lexer} (hlook : lx.look = none) (budget : Nat) :
    (lx.drain budget).2.reports = lx.reports ++ lexReports (lx.drain budget).1 := by
  induction budget generalizing lx with
  | zero => simp [drain, lexReports]
  | succ budget ih =>
    have hnext : lx.next.2.look = none := by simp [next, hlook]
    have hreports : lx.next.2.reports = lx.reports ++ lexReports [lx.next.1] := by
      cases hreport : (scanToken lx.file lx.offset lx.rest).token.diagnostic? <;>
        simp [next, hlook, lexReports, hreport]
    rw [drain]
    dsimp only
    split
    · exact hreports
    · dsimp only
      rw [ih hnext, hreports, List.append_assoc]
      rw [lexReports, lexReports, ← List.filterMap_append]
      rfl

theorem all_reports (f : SourceFile) : (ofFile f).all.2.reports = lexReports f.tokens := by
  rw [← all_ofFile]
  exact drain_reports rfl _

end Lexer

private theorem Comparison.Same.inside {c : Comparison FrameTable FrameTable}
    {r r' : Except BindFailure NodeId} (h : c.Same r r') {file : FileId}
    (hfile : c.spots ⟨file, 0, 0⟩) : ∀ d ∈ BindFailure.reports file r, d.ErrorIn c.spots := by
  cases h with
  | ok id => simp [BindFailure.reports]
  | fault e =>
    intro d hd
    obtain rfl := List.mem_singleton.mp hd
    exact ⟨rfl, hfile, by simp [BindFailure.diagnostic, Diagnostic.error]⟩
  | error _ hspan hnotes =>
    intro d hd
    obtain rfl := List.mem_singleton.mp hd
    exact ⟨rfl, hspan, hnotes⟩

namespace SourceFile

/-- Each stage reports at spans that it has from the stage before. -/
theorem Outcome.inside {f : SourceFile} {options : CompileOptions} {files : FileSet}
    {stages : List Stage} {reports : List Diagnostic} {root main : Option NodeId}
    (h : f.Outcome options files stages reports root main) (hid : f.id = 0) :
    ∀ d ∈ reports, d.ErrorIn f.Holds := by
  have hspots := holds_spots hid
  obtain ⟨hreports, hspan, hitems⟩ := f.parse_spots hspots f.holds_start f.tokens_held
  have hfile : f.Holds ⟨f.parse.file.span.file, 0, 0⟩ := ⟨hspan.1, le_rfl, Nat.zero_le _⟩
  obtain ⟨hbound, hentered⟩ :=
    SyntaxFile.bind_placed f.Holds hspots.none hfile f.holds_start hitems files {} 0
  cases h with
  | unparsed => exact hreports
  | unbound _ hfailed =>
    have hin : ∀ d ∈ BindFailure.reports f.id (f.bound files).1, d.ErrorIn f.Holds :=
      hbound.inside f.holds_start
    rwa [hfailed] at hin
  | bound | complete => simp
  | refused _ _ _ hfailed =>
    have hin : ∀ d ∈ BindFailure.reports f.id (f.entered files), d.ErrorIn f.Holds :=
      (hentered _ _).inside f.holds_start
    rwa [hfailed] at hin

end SourceFile

/-- What is reported on a text that is compiled under a name, and every note on it, points into the
file of that text, which is not the one of the builtin types. So does what its lexer reports. -/
theorem compile_points_inside (options : CompileOptions) (name content : Bytes) (log : TraceLog) :
    let file : SourceFile := ⟨0, Path.clean name, content, .virtual⟩
    let files : FileSet := ⟨#[file]⟩
    FileSet.empty.addVirtual name content = (file.id, files) ∧
    (Universe.ofFiles files : Universe FrameTable).builtinFile ≠ file.id ∧
    (∀ d ∈ (compile options files file log).bag.items, d.PointsInto file) ∧
    ∀ d ∈ (Lexer.ofFile file).all.2.reports, d.PointsInto file := by
  intro file files
  refine ⟨rfl, Nat.one_ne_zero, ?_, ?_⟩
  · intro d hd
    obtain ⟨reports, houtcome, hbag, -⟩ := compile_ended options files file log
    rw [hbag, Bag.ofLimit_addAll] at hd
    have hin := houtcome.inside rfl d (List.mem_of_mem_take hd)
    exact ⟨hin.primary, hin.notes⟩
  · rw [Lexer.all_reports]
    exact file.lexReports_inside

/-- A name that is a keyword elsewhere is reported with a note. -/
theorem compile_points_inside_var :
    let file : SourceFile := ⟨0, Path.clean "a.nkl", "x :: var\n", .virtual⟩
    ∃ d ∈ (compile {} ⟨#[file]⟩ file {}).bag.items, d.notes ≠ [] ∧ d.PointsInto file := by
  intro file
  obtain ⟨-, -, hin, -⟩ := compile_points_inside {} "a.nkl" "x :: var\n" {}
  have hnoted : ∃ d ∈ (compile {} ⟨#[file]⟩ file {}).bag.items, d.notes ≠ [] := by decide +kernel
  obtain ⟨d, hd, hnotes⟩ := hnoted
  exact ⟨d, hd, hnotes, hin d hd⟩

end Keywordless
