import Keywordless.Proofs.ParserMoves
import Keywordless.Proofs.Tiling
import Keywordless.Proofs.TreeSpans

/-!
# What a failed parse reports

Invalid tokens are reported when they are looked at, everything else when the parse stops. A parse
that succeeds has reported nothing. One that fails has reported one error, unless it stops at
entries in parentheses that need an arrow and looked at an invalid token to find none.
-/

namespace Keywordless

def Token.Marked (t : Token) : Prop := t.error.isSome = true ↔ t.kind = .invalid

private theorem Lexeme.error_isSome_iff (b : UInt8) (rest : Bytes) :
    (ofBytes b rest).error.isSome = true ↔ (ofBytes b rest).kind = .invalid := by
  unfold ofBytes
  split
  · simp [newlines]
  split
  · simp [name]
  split
  · dsimp only
    split
    · simp [name]
    · simp [unknown]
  split
  · unfold number
    dsimp only
    split <;> simp
  · unfold punctuation
    split
    · simp
    · split
      · next kind hkind =>
        have hpunctuation := TokenKind.isPunctuation_of_ofByte? hkind
        have hne : kind ≠ .invalid := by
          rintro rfl
          cases hpunctuation
        simpa using hne
      · simp [unknown]

theorem tokensFrom_marked {file : FileId} {offset : Nat} {text : Bytes} :
    ∀ t ∈ tokensFrom file offset text, t.Marked := by
  have hscan (offset : Nat) (text : Bytes) : (scanToken file offset text).token.Marked := by
    simp only [scanToken]
    split
    · simp [Token.Marked]
    · exact Lexeme.error_isSome_iff _ _
  fun_induction tokensFrom file offset text with
  | case1 offset text scanned h => simpa [scanned] using hscan offset text
  | case2 offset text scanned h ih =>
    rw [List.forall_mem_cons]
    exact ⟨hscan offset text, ih⟩

namespace TokenStream

variable {s t : TokenStream}

def nextReport (s : TokenStream) : List Diagnostic :=
  (s.rest.head?.bind Token.diagnostic?).toList

/-- All that was reported is the next token, if it was looked at and is invalid. -/
structure Quiet (s : TokenStream) : Prop where
  marked : ∀ t ∈ s.rest, t.Marked
  reports : s.reports = if s.looked then s.nextReport else []

namespace Quiet

private theorem look_reports (h : s.Quiet) : s.look.reports = s.nextReport := by
  have hreports := h.reports
  unfold TokenStream.look
  split
  · next hlooked => rw [hreports, if_pos hlooked]
  · next hlooked =>
    rw [if_neg hlooked] at hreports
    simp [hreports, nextReport]

theorem nextReport_of_kind (h : s.Quiet) (hkind : s.kind ≠ .invalid) : s.nextReport = [] := by
  unfold nextReport
  cases hrest : s.rest with
  | nil => rfl
  | cons t rest =>
    have hinvalid : t.kind ≠ .invalid := by simpa [kind, hrest] using hkind
    have hnone : t.error = none := by
      rw [← Option.not_isSome_iff_eq_none]
      exact mt (h.marked t (by simp [hrest])).mp hinvalid
    simp [Token.diagnostic?, hnone]

private theorem nextReport_of_invalid (h : s.Quiet) (hkind : s.kind = .invalid) :
    ∃ bad rest d, s.rest = bad :: rest ∧ bad.kind = .invalid ∧ bad.diagnostic? = some d ∧
      s.nextReport = [d] := by
  cases hrest : s.rest with
  | nil => simp [kind, hrest] at hkind
  | cons bad rest =>
    have hinvalid : bad.kind = .invalid := by simpa [kind, hrest] using hkind
    obtain ⟨e, he⟩ := Option.isSome_iff_exists.mp ((h.marked bad (by simp [hrest])).mpr hinvalid)
    refine ⟨bad, rest, .error e.code bad.span e.message, rfl, hinvalid, ?_, ?_⟩
    · simp [Token.diagnostic?, he]
    · simp [nextReport, hrest, Token.diagnostic?, he]

theorem move (hmove : Move s t) (h : s.Quiet) : t.Quiet := by
  cases hmove with
  | look =>
    refine ⟨by simpa using h.marked, ?_⟩
    rw [h.look_reports, look_looked, if_pos rfl, nextReport, nextReport, look_rest]
  | build => exact ⟨h.marked, h.reports⟩
  | @take kind taken hlooked hfound hkind =>
    obtain ⟨hrest, htoken⟩ := take?_eq_some hfound
    have hnext := take?_next hfound
    have hquiet : s.reports = [] := by
      rw [h.reports, if_pos hlooked]
      apply h.nextReport_of_kind
      rw [kind_eq, nextKind_of_take? hfound]
      rintro rfl
      simp at hkind
    refine ⟨fun u hu => h.marked u (by simp [hrest, hu]), ?_⟩
    rw [hnext]
    simpa using hquiet

end Quiet

def groupCodes : List Code := [.unexpectedToken, .expectDeclaration]

private theorem requireDeclarations_error {list : List Expr}
    (h : (Syntax.requireDeclarations s list).outcome = .error t) :
    ∃ d, d.code ∈ groupCodes ∧ t.reports = s.reports ++ [d] := by
  unfold Syntax.requireDeclarations at h
  split at h
  · obtain rfl := Except.error.inj h
    exact ⟨_, by simp [groupCodes, Diagnostic.error], rfl⟩
  · cases h

private theorem grouped_error {bound : Nat} {span : Span} {entries : List Expr}
    {hlt : s.size < bound} (h : (Syntax.grouped s span entries hlt).outcome = .error t) :
    ∃ d, d.code ∈ groupCodes ∧ t.reports = s.reports ++ [d] := by
  unfold Syntax.grouped at h
  split at h
  · obtain rfl := Except.error.inj h
    exact ⟨_, by simp [groupCodes, Diagnostic.error], rfl⟩
  · split at h
    · cases h
    · rw [Syntax.Run.outcome_bind] at h
      cases hrequire : (Syntax.requireDeclarations s _).outcome with
      | error stopped =>
        rw [hrequire] at h
        obtain rfl := Except.error.inj h
        exact requireDeclarations_error hrequire
      | ok _ =>
        rw [hrequire] at h
        cases h

/-- The two reports of a parse that stops at entries in parentheses where the token behind the
closing one is invalid. -/
def ReportsTwice (tokens : List Token) (reports : List Diagnostic) : Prop :=
  ∃ before closing bad after lexical d, tokens = before ++ closing :: bad :: after ∧
    closing.kind = .rparen ∧ bad.kind = .invalid ∧ bad.diagnostic? = some lexical ∧
    d.code ∈ groupCodes ∧ reports = [lexical, d]

/-- A parse that stops adds a report to none, or to one on the token behind parentheses. -/
theorem Halt.reports (hhalt : Halt s t) (h : s.Quiet) :
    (∃ d, t.reports = [d]) ∨ ReportsTwice s.rest t.reports := by
  cases hhalt with
  | unexpected e =>
    left
    have hlook := h.look_reports
    by_cases hkind : s.kind = .invalid
    · obtain ⟨bad, rest, d, hrest, hbad, -, hd⟩ := h.nextReport_of_invalid hkind
      refine ⟨d, ?_⟩
      simp [TokenStream.unexpected, hrest, hbad, hlook, hd]
    · rw [h.nextReport_of_kind hkind] at hlook
      unfold TokenStream.unexpected
      dsimp only
      split
      · exact ⟨_, by simp [report, hlook]; rfl⟩
      · next token rest hrest =>
        split
        · next hinvalid =>
          rw [look_rest] at hrest
          exact absurd (by simp [kind, hrest, hinvalid]) hkind
        all_goals exact ⟨_, by simp [report, hlook]; rfl⟩
  | undeclared hlooked hfailed =>
    left
    obtain ⟨d, -, hreports⟩ := requireDeclarations_error hfailed
    have hnone : s.reports = [] := by rw [h.reports, hlooked]; rfl
    exact ⟨d, by rw [hreports, hnone]; rfl⟩
  | @ungrouped _ closing span entries bound short hlooked hfound hfailed =>
    obtain ⟨d, hcode, hreports⟩ := grouped_error hfailed
    have hclosed : closing.next.Quiet := h.move (.take hlooked hfound (by decide))
    obtain ⟨hrest, hclosing⟩ := take?_eq_some hfound
    rw [hclosed.look_reports] at hreports
    by_cases hkind : closing.next.kind = .invalid
    · obtain ⟨bad, after, lexical, hnext, hbad, hlexical, hreport⟩ :=
        hclosed.nextReport_of_invalid hkind
      right
      refine ⟨[], closing.token, bad, after, lexical, d, ?_, hclosing, hbad, hlexical, hcode, ?_⟩
      · simp [hrest, hnext]
      · simp [hreports, hreport]
    · left
      rw [hclosed.nextReport_of_kind hkind] at hreports
      exact ⟨d, hreports⟩

end TokenStream

open TokenStream

/-- Every report on a file is an error, and a parse that succeeds makes none. A parse that fails
makes exactly one, but for one case: it stops at entries in parentheses that need an arrow, the
token behind the closing parenthesis is invalid, and the report on that token stands before the one
on the entries. -/
theorem SourceFile.parse_reports_once (f : SourceFile) :
    (∀ d ∈ f.parse.reports, d.isError) ∧
    (f.parse.failed = false → f.parse.reports = []) ∧
    (f.parse.failed = true →
      (∃ d, f.parse.reports = [d]) ∨ ReportsTwice f.tokens f.parse.reports) := by
  have hspots : Spots fun _ => True := ⟨trivial, fun _ _ => trivial, fun _ => trivial⟩
  obtain ⟨herrors, -⟩ := f.parse_spots hspots trivial fun _ _ => trivial
  let start : TokenStream := { rest := f.tokens, lastSpan := { file := f.id } }
  have hstart : start.look.Quiet := Quiet.move (.look start) ⟨tokensFrom_marked, rfl⟩
  have hmoves := Syntax.items_moves start.look
  refine ⟨fun d hd => (herrors d hd).error, fun hfailed => ?_, fun hfailed => ?_⟩
  · change (Syntax.items start.look).failed = false at hfailed
    rw [if_neg (by simp [hfailed])] at hmoves
    obtain ⟨hlast, hlooked, hkind⟩ := hmoves
    have hquiet := hlast.keep Quiet.move hstart
    change (Syntax.items start.look).last.reports = []
    rw [hquiet.reports, if_pos hlooked]
    exact hquiet.nextReport_of_kind (by simp [hkind])
  · change (Syntax.items start.look).failed = true at hfailed
    rw [if_pos hfailed] at hmoves
    obtain ⟨t, hlast, hhalt⟩ := hmoves
    refine (hhalt.reports (hlast.keep Quiet.move hstart)).imp_right ?_
    -- What is left of the tokens at the stop is the end of all of them.
    rintro ⟨before, closing, bad, after, lexical, d, hrest, htwice⟩
    obtain ⟨taken, htaken⟩ := hlast.rest_suffix
    refine ⟨taken ++ before, closing, bad, after, lexical, d, ?_, htwice⟩
    rw [List.append_assoc, ← hrest, htaken, look_rest]

/-- Empty parentheses before an unknown character are reported twice. -/
theorem SourceFile.parse_reports_twice :
    let f : SourceFile := { id := 1, path := "a.nkl", content := "()@" }
    f.parse.failed = true ∧ f.parse.reports.map (·.code) = [.unknownChar, .unexpectedToken] := by
  decide +kernel

end Keywordless
