import Keywordless.Proofs.FailFast
import Mathlib

/-!
# Looking ahead

Looking at a token does not change what a lexer hands out or reports. Calls in any order are
answered like calls that count positions in the sequence of tokens that a lexer takes one by one: a
token that is looked at is the one at the position reached, and a token is reported when its
position is reached for the first time.
-/

namespace Keywordless

inductive LexerCall where
  | next
  | peek
  | all
  deriving DecidableEq, Repr

inductive LexerAnswer where
  | one (t : Token)
  | many (ts : List Token)
  deriving DecidableEq, Repr

namespace Lexer

def answer (lx : Lexer) : LexerCall → LexerAnswer × Lexer
  | .next => (.one lx.next.1, lx.next.2)
  | .peek => (.one lx.peek.1, lx.peek.2)
  | .all => (.many lx.all.1, lx.all.2)

def run (lx : Lexer) : List LexerCall → List LexerAnswer × Lexer
  | [] => ([], lx)
  | call :: calls =>
    let step := lx.answer call
    let rest := step.2.run calls
    (step.1 :: rest.1, rest.2)

def after (lx : Lexer) : Nat → Lexer
  | 0 => lx
  | n + 1 => (lx.after n).next.2

end Lexer

namespace SourceFile

/-- The token that a lexer hands out after `n` others when it is only asked for the next one. -/
def tokenAt (f : SourceFile) (n : Nat) : Token := ((Lexer.ofFile f).after n).next.1

/-- The tokens from position `n` on, through the end of the file. -/
def remaining (f : SourceFile) (n : Nat) : List Token :=
  (List.range' n (max 1 (f.tokens.length - n))).map f.tokenAt

end SourceFile

/-- How many tokens were taken, and how many were taken or looked at. -/
structure Reading where
  taken : Nat := 0
  seen : Nat := 0

namespace Reading

def move (r : Reading) (taken reached : Nat) : Reading := ⟨taken, max r.seen reached⟩

def answer (f : SourceFile) (r : Reading) : LexerCall → LexerAnswer × Reading
  | .next => (.one (f.tokenAt r.taken), r.move (r.taken + 1) (r.taken + 1))
  | .peek => (.one (f.tokenAt r.taken), r.move r.taken (r.taken + 1))
  | .all =>
    let stop := r.taken + (f.remaining r.taken).length
    (.many (f.remaining r.taken), r.move stop stop)

def run (f : SourceFile) (r : Reading) : List LexerCall → List LexerAnswer × Reading
  | [] => ([], r)
  | call :: calls =>
    let step := r.answer f call
    let rest := step.2.run f calls
    (step.1 :: rest.1, rest.2)

end Reading

/-! ### Tokens taken one by one -/

private theorem triviaSize_nil : triviaSize [] = 0 := by
  rw [triviaSize, triviaPieces]
  rfl

private theorem scanToken_again {file : FileId} {offset : Nat} {text : Bytes}
    (h : (scanToken file offset text).token.kind = .endOfFile) :
    scanToken file (scanToken file offset text).offset (scanToken file offset text).rest =
      scanToken file offset text := by
  revert h
  simp only [scanToken]
  split
  · intro _
    simp [triviaSize_nil]
  · next b rest hdrop =>
    intro h
    exact absurd h (Lexeme.ofBytes_faithful b rest).kind_ne

namespace Lexer

private theorem next_look {lx : Lexer} (h : lx.look = none) : lx.next.2.look = none := by
  simp [next, h]

private theorem next_of_look (lx : Lexer) (t : Token) :
    ({ lx with look := some t } : Lexer).next = (t, { lx with look := none }) := rfl

private theorem after_look (f : SourceFile) (n : Nat) : ((ofFile f).after n).look = none := by
  induction n with
  | zero => rfl
  | succ n ih => exact next_look ih

private theorem after_idle (f : SourceFile) (n : Nat) :
    ({ (ofFile f).after n with look := none } : Lexer) = (ofFile f).after n := by
  rw [← after_look f n]

private theorem next_after (f : SourceFile) (n : Nat) :
    ((ofFile f).after n).next = (f.tokenAt n, (ofFile f).after (n + 1)) := rfl

private theorem next_scan {lx : Lexer} (h : lx.look = none) :
    lx.next.1 = (scanToken lx.file lx.offset lx.rest).token ∧
      lx.next.2.file = lx.file ∧
      lx.next.2.offset = (scanToken lx.file lx.offset lx.rest).offset ∧
      lx.next.2.rest = (scanToken lx.file lx.offset lx.rest).rest := by
  simp [next, h]

private theorem next_reports {lx : Lexer} (h : lx.look = none) :
    lx.next.2.reports = lx.reports ++ lx.next.1.diagnostic?.toList := by
  simp [next, h]

def left (lx : Lexer) : List Token := tokensFrom lx.file lx.offset lx.rest

private theorem left_after (f : SourceFile) (n : Nat) :
    ((ofFile f).after n).left =
      if (f.tokenAt n).kind = .endOfFile then [f.tokenAt n]
      else f.tokenAt n :: ((ofFile f).after (n + 1)).left := by
  obtain ⟨htoken, hfile, hoffset, hrest⟩ := next_scan (after_look f n)
  have htokenAt : f.tokenAt n = ((ofFile f).after n).next.1 := rfl
  rw [left, tokensFrom, left, after, hfile, hoffset, hrest, htokenAt, htoken]
  by_cases hend : (scanToken ((ofFile f).after n).file ((ofFile f).after n).offset
      ((ofFile f).after n).rest).token.kind = .endOfFile <;> simp [hend]

private theorem left_length_pos (f : SourceFile) (n : Nat) :
    0 < ((ofFile f).after n).left.length := by
  rw [left_after]
  split <;> simp

end Lexer

namespace SourceFile

open Lexer (ofFile next_scan after_look left_after left_length_pos)

variable (f : SourceFile)

private theorem tokenAt_stays {n : Nat} (h : (f.tokenAt n).kind = .endOfFile) :
    f.tokenAt (n + 1) = f.tokenAt n := by
  obtain ⟨htoken, hfile, hoffset, hrest⟩ := next_scan (after_look f n)
  have hagain := (next_scan (after_look f (n + 1))).1
  rw [Lexer.after, hfile, hoffset, hrest, scanToken_again (htoken ▸ h)] at hagain
  exact hagain.trans htoken.symm

/-- Once the end of the file is reached, it stays. -/
theorem tokenAt_of_le {n m : Nat} (h : (f.tokenAt n).kind = .endOfFile) (hle : n ≤ m) :
    f.tokenAt m = f.tokenAt n := by
  induction m, hle using Nat.le_induction with
  | base => rfl
  | succ m hle ih =>
    have hend : (f.tokenAt m).kind = .endOfFile := ih ▸ h
    exact (f.tokenAt_stays hend).trans ih

private theorem tokens_drop {n : Nat} (hn : n < f.tokens.length) :
    f.tokens.drop n = ((ofFile f).after n).left := by
  induction n with
  | zero => rfl
  | succ n ih =>
    have hdrop := ih (by omega)
    have htail : f.tokens.drop (n + 1) = (f.tokens.drop n).tail := by simp
    rw [left_after] at hdrop
    rw [htail, hdrop]
    split
    · next hend =>
      -- The end of the file would be the last token, and one more is left.
      have hlength := congrArg List.length hdrop
      simp only [if_pos hend, List.length_drop, List.length_singleton] at hlength
      omega
    · rfl

private theorem tokens_getElem? {n : Nat} (hn : n < f.tokens.length) :
    f.tokens[n]? = some (f.tokenAt n) := by
  have hhead : f.tokens[n]? = (f.tokens.drop n).head? := by simp
  rw [hhead, f.tokens_drop hn, left_after]
  split <;> rfl

private theorem tokens_length_pos : 0 < f.tokens.length := left_length_pos f 0

private theorem tokenAt_kind_iff (n : Nat) :
    (f.tokenAt n).kind = .endOfFile ↔ f.tokens.length ≤ n + 1 := by
  have hpos := f.tokens_length_pos
  have hinside (n : Nat) (hn : n < f.tokens.length) :
      (f.tokenAt n).kind = .endOfFile ↔ f.tokens.length = n + 1 := by
    have hlength := congrArg List.length (f.tokens_drop hn)
    rw [List.length_drop, left_after] at hlength
    by_cases hend : (f.tokenAt n).kind = .endOfFile
    · rw [if_pos hend, List.length_singleton] at hlength
      simp only [hend, true_iff]
      omega
    · have hmore := left_length_pos f (n + 1)
      rw [if_neg hend, List.length_cons] at hlength
      simp only [hend, false_iff]
      omega
  by_cases hn : n < f.tokens.length
  · rw [hinside n hn]
    omega
  · have hlast : (f.tokenAt (f.tokens.length - 1)).kind = .endOfFile :=
      (hinside _ (by omega)).mpr (by omega)
    rw [f.tokenAt_of_le hlast (by omega : f.tokens.length - 1 ≤ n)]
    simp only [hlast, true_iff]
    omega

private theorem remaining_of_end {n : Nat} (h : (f.tokenAt n).kind = .endOfFile) :
    f.remaining n = [f.tokenAt n] := by
  have hlength := (f.tokenAt_kind_iff n).mp h
  have hone : max 1 (f.tokens.length - n) = 1 := by omega
  simp [remaining, hone]

private theorem remaining_of_more {n : Nat} (h : (f.tokenAt n).kind ≠ .endOfFile) :
    f.remaining n = f.tokenAt n :: f.remaining (n + 1) := by
  have hlength : ¬ f.tokens.length ≤ n + 1 := mt (f.tokenAt_kind_iff n).mpr h
  have hmore : max 1 (f.tokens.length - n) = max 1 (f.tokens.length - (n + 1)) + 1 := by omega
  rw [remaining, hmore, List.range'_succ, List.map_cons]
  rfl

private theorem remaining_ends (n : Nat) :
    ∃ k, f.remaining n = (List.range' n (k + 1)).map f.tokenAt ∧
      (f.tokenAt (n + k)).kind = .endOfFile ∧ ∀ i < k, (f.tokenAt (n + i)).kind ≠ .endOfFile := by
  refine ⟨f.tokens.length - n - 1, ?_, ?_, ?_⟩
  · have hlength : f.tokens.length - n - 1 + 1 = max 1 (f.tokens.length - n) := by omega
    rw [remaining, hlength]
  · rw [tokenAt_kind_iff]
    omega
  · intro i hi
    rw [Ne, tokenAt_kind_iff]
    omega

end SourceFile

/-! ### Calls in any order -/

namespace Lexer

variable (f : SourceFile)

private theorem drain_after {n budget : Nat} (h : ((ofFile f).after n).rest.length < budget) :
    ((ofFile f).after n).drain budget =
      (f.remaining n, (ofFile f).after (n + (f.remaining n).length)) := by
  induction budget generalizing n with
  | zero => omega
  | succ budget ih =>
    rw [drain, next_after]
    by_cases hend : (f.tokenAt n).kind = .endOfFile
    · simp [hend, f.remaining_of_end hend]
    · obtain ⟨htoken, -, -, hrest⟩ := next_scan (after_look f n)
      change f.tokenAt n = _ at htoken
      have hshorter := scanToken_rest_lt (htoken ▸ hend)
      rw [← hrest] at hshorter
      have hmore := @ih (n + 1) (by rw [after]; omega)
      rw [f.remaining_of_more hend]
      simp [hend, hmore, Nat.add_assoc, Nat.add_comm]

/-- A lexer at a position: either it looked at nothing, or it has scanned the token there and keeps
it. In both cases all else is as if it had only taken tokens. -/
inductive Stands (lx : Lexer) (r : Reading) : Prop
  | idle (seen : r.seen = r.taken) (state : lx = (ofFile f).after r.taken)
  | ahead (seen : r.seen = r.taken + 1)
      (state : lx = { (ofFile f).after (r.taken + 1) with look := some (f.tokenAt r.taken) })

variable {f}

private theorem Stands.next {lx : Lexer} {r : Reading} (h : Stands f lx r) :
    lx.next = (f.tokenAt r.taken, (ofFile f).after (r.taken + 1)) ∧ r.seen ≤ r.taken + 1 := by
  cases h with
  | idle hseen hstate =>
    rw [hstate, next_after]
    exact ⟨rfl, by omega⟩
  | ahead hseen hstate =>
    rw [hstate, next_of_look, after_idle]
    exact ⟨rfl, by omega⟩

private theorem Stands.all {lx : Lexer} {r : Reading} (h : Stands f lx r) :
    lx.all = (f.remaining r.taken, (ofFile f).after (r.taken + (f.remaining r.taken).length)) := by
  cases h with
  | idle hseen hstate =>
    rw [hstate, Lexer.all]
    exact drain_after f (by omega)
  | ahead hseen hstate =>
    have hmore := @drain_after f (r.taken + 1) (((ofFile f).after (r.taken + 1)).rest.length + 1)
      (by omega)
    rw [hstate, Lexer.all, drain, next_of_look, after_idle]
    by_cases hend : (f.tokenAt r.taken).kind = .endOfFile
    · simp [hend, f.remaining_of_end hend]
    · rw [f.remaining_of_more hend]
      simp only [hend, hmore, beq_iff_eq, if_false, List.length_cons]
      rw [Nat.add_right_comm, Nat.add_assoc]

/-- What one call does: the answer comes from the tokens taken one by one. -/
theorem Stands.answer {lx : Lexer} {r : Reading} (h : Stands f lx r) (call : LexerCall) :
    (lx.answer call).1 = (r.answer f call).1 ∧
      Stands f (lx.answer call).2 (r.answer f call).2 := by
  obtain ⟨hnext, hseen⟩ := h.next
  cases call with
  | next =>
    simp only [Lexer.answer, Reading.answer, hnext, true_and]
    exact .idle (by simp [Reading.move, hseen]) rfl
  | peek =>
    simp only [Lexer.answer, Reading.answer, peek, hnext, true_and]
    exact .ahead (by simp [Reading.move, hseen]) rfl
  | all =>
    have hpos : 0 < (f.remaining r.taken).length := by simp [SourceFile.remaining]
    simp only [Lexer.answer, Reading.answer, h.all, true_and]
    exact .idle (by simp only [Reading.move]; omega) rfl

private theorem Stands.run {lx : Lexer} {r : Reading} (h : Stands f lx r) (calls : List LexerCall) :
    (lx.run calls).1 = (r.run f calls).1 ∧ Stands f (lx.run calls).2 (r.run f calls).2 := by
  induction calls generalizing lx r with
  | nil => exact ⟨rfl, h⟩
  | cons call calls ih =>
    obtain ⟨hanswer, hstep⟩ := h.answer call
    obtain ⟨hanswers, hrest⟩ := ih hstep
    simp only [Lexer.run, Reading.run]
    exact ⟨by rw [hanswer, hanswers], hrest⟩

private theorem Stands.reports {lx : Lexer} {r : Reading} (h : Stands f lx r) :
    lx.reports = ((ofFile f).after r.seen).reports := by
  cases h with
  | idle hseen hstate => rw [hstate, hseen]
  | ahead hseen hstate => rw [hstate, hseen]

/-! ### Reports -/

private theorem after_reports (n : Nat) :
    ((ofFile f).after n).reports = lexReports ((List.range n).map f.tokenAt) := by
  induction n with
  | zero => rfl
  | succ n ih =>
    have hlast : lexReports [f.tokenAt n] = (f.tokenAt n).diagnostic?.toList := by
      cases hreport : (f.tokenAt n).diagnostic? <;> simp [lexReports, hreport]
    rw [after, next_reports (after_look f n), ih, List.range_succ, List.map_append]
    simp only [lexReports, List.filterMap_append, List.map_singleton] at hlast ⊢
    rw [hlast]
    rfl

end Lexer

def Token.ReportedBy (t : Token) (d : Diagnostic) : Prop :=
  ∃ e, t.error = some e ∧ d = .error e.code t.span e.message

private theorem lexReports_forall₂ {ts : List Token} (h : ∀ t ∈ ts, t.Marked) :
    List.Forall₂ Token.ReportedBy (ts.filter (·.kind = .invalid)) (lexReports ts) := by
  induction ts with
  | nil => exact .nil
  | cons t ts ih =>
    obtain ⟨ht, hts⟩ := List.forall_mem_cons.mp h
    have hrest := ih hts
    cases herror : t.error with
    | none =>
      have hkind : t.kind ≠ .invalid := by
        intro hkind
        simpa [herror] using ht.mpr hkind
      simpa [lexReports, Token.diagnostic?, herror, hkind] using hrest
    | some e =>
      have hkind : t.kind = .invalid := ht.mp (by simp [herror])
      have hcons := List.Forall₂.cons (⟨e, herror, rfl⟩ : t.ReportedBy _) hrest
      simpa [lexReports, Token.diagnostic?, herror, hkind] using hcons

private theorem SourceFile.tokenAt_mem (f : SourceFile) (n : Nat) : f.tokenAt n ∈ f.tokens := by
  have hpos := f.tokens_length_pos
  by_cases hn : n < f.tokens.length
  · exact List.mem_of_getElem? (f.tokens_getElem? hn)
  · have hlast : (f.tokenAt (f.tokens.length - 1)).kind = .endOfFile := by
      rw [tokenAt_kind_iff]
      omega
    rw [f.tokenAt_of_le hlast (by omega)]
    exact List.mem_of_getElem? (f.tokens_getElem? (by omega))

/-- Calls in any order are answered from the tokens that a lexer hands out when it is only asked for
the next one: the answer to each call is the token at the position reached, or what remains from
there, and only taking tokens moves the position. What remains ends with the first end of the file,
and from then on every token is that one. The invalid tokens seen so far have been reported, once
each and in their order, as by a lexer that took as many tokens one by one. -/
theorem Lexer.peeking_invisible (f : SourceFile) (calls : List LexerCall) :
    let run := (ofFile f).run calls
    let reading := ({} : Reading).run f calls
    let seen := (List.range reading.2.seen).map f.tokenAt
    run.1 = reading.1 ∧
      run.2.next.1 = f.tokenAt reading.2.taken ∧ run.2.peek.2.next.1 = run.2.peek.1 ∧
      (∀ n, ∃ k, f.remaining n = (List.range' n (k + 1)).map f.tokenAt ∧
        (f.tokenAt (n + k)).kind = .endOfFile ∧
        ∀ i < k, (f.tokenAt (n + i)).kind ≠ .endOfFile) ∧
      (∀ n m, (f.tokenAt n).kind = .endOfFile → n ≤ m → f.tokenAt m = f.tokenAt n) ∧
      run.2.reports = ((ofFile f).after reading.2.seen).reports ∧
      List.Forall₂ Token.ReportedBy (seen.filter (·.kind = .invalid)) run.2.reports := by
  intro run reading seen
  have hstart : Stands f (ofFile f) {} := .idle rfl rfl
  obtain ⟨hanswers, hstands⟩ := hstart.run calls
  have hmarked : ∀ t ∈ seen, t.Marked := by
    intro t ht
    obtain ⟨n, -, rfl⟩ := List.mem_map.mp ht
    exact tokensFrom_marked _ (f.tokenAt_mem n)
  refine ⟨hanswers, by rw [hstands.next.1], rfl, f.remaining_ends,
    fun n m h hle => f.tokenAt_of_le h hle, hstands.reports, ?_⟩
  rw [hstands.reports, after_reports]
  exact lexReports_forall₂ hmarked

end Keywordless
