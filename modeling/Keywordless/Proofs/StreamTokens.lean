import Keywordless.Proofs.Grammar
import Keywordless.Proofs.Outcome

/-!
# Tokens of a stream

What the steps of a parse do to the tokens that are left, in the words of the grammar. Everything
else that a stream holds, the reports above all, does not matter for what is read.
-/

namespace Keywordless

open Grammar (nextKind Skips)

namespace TokenStream

theorem kind_eq (s : TokenStream) : s.kind = nextKind s.rest := by
  unfold kind nextKind
  cases s.rest with
  | nil => rfl
  | cons t rest => rfl

@[simp] theorem building_rest (s : TokenStream) : s.building.rest = s.rest := rfl

@[simp] theorem look_kind (s : TokenStream) : s.look.kind = s.kind := by
  rw [kind_eq, kind_eq, look_rest]

theorem take?_eq_some {s : TokenStream} {kind : TokenKind} {taken : Taken s}
    (h : s.take? kind = some taken) :
    s.rest = taken.token :: taken.next.rest ∧ taken.token.kind = kind := by
  unfold take? at h
  split at h
  · next t rest hrest =>
    split at h
    · next hkind =>
      obtain rfl := Option.some.inj h
      exact ⟨hrest, hkind⟩
    · cases h
  · cases h

theorem nextKind_of_take? {s : TokenStream} {kind : TokenKind} {taken : Taken s}
    (h : s.take? kind = some taken) : nextKind s.rest = kind := by
  obtain ⟨hrest, hkind⟩ := take?_eq_some h
  rw [hrest]
  exact hkind

theorem take?_eq_none {s : TokenStream} {kind : TokenKind} (hkind : nextKind s.rest ≠ kind) :
    s.take? kind = none := by
  cases h : s.take? kind with
  | none => rfl
  | some taken => exact absurd (nextKind_of_take? h) hkind

theorem take?_of_rest {s : TokenStream} {t : Token} {w : List Token} (hrest : s.rest = t :: w) :
    ∃ taken, s.take? t.kind = some taken ∧ taken.token = t ∧ taken.next.rest = w := by
  cases h : s.take? t.kind with
  | some taken =>
    obtain ⟨htaken, -⟩ := take?_eq_some h
    obtain ⟨rfl, rfl⟩ := List.cons.inj (hrest.symm.trans htaken)
    exact ⟨taken, rfl, rfl, rfl⟩
  | none =>
    unfold take? at h
    split at h
    · next t' rest' hrest' =>
      obtain ⟨rfl, rfl⟩ := List.cons.inj (hrest'.symm.trans hrest)
      simp at h
    · next hnil => simp [hnil] at hrest

theorem look_take?_eq_some {s : TokenStream} {kind : TokenKind} {taken : Taken s.look}
    (h : s.look.take? kind = some taken) :
    s.rest = taken.token :: taken.next.rest ∧ taken.token.kind = kind ∧
      taken.next.size < s.size := by
  obtain ⟨hrest, hkind⟩ := take?_eq_some h
  rw [look_rest] at hrest
  exact ⟨hrest, hkind, by simpa using taken.shorter⟩

theorem look_take?_of_rest {s : TokenStream} {t : Token} {w : List Token} {kind : TokenKind}
    (hrest : s.rest = t :: w) (hkind : t.kind = kind) :
    ∃ taken, s.look.take? kind = some taken ∧ taken.token = t ∧ taken.next.rest = w :=
  hkind ▸ take?_of_rest ((look_rest s).trans hrest)

theorem look_take?_of_nextKind {s : TokenStream} {kind : TokenKind} (h : nextKind s.rest = kind)
    (hkind : kind ≠ .endOfFile) :
    ∃ taken, s.look.take? kind = some taken ∧ taken.next.rest = s.rest.tail := by
  cases hrest : s.rest with
  | nil =>
    rw [hrest] at h
    exact absurd h.symm hkind
  | cons t w =>
    rw [hrest] at h
    obtain ⟨taken, htaken, -, hnext⟩ := look_take?_of_rest hrest h
    exact ⟨taken, htaken, hnext⟩

theorem look_take?_eq_none {s : TokenStream} {kind : TokenKind} (h : nextKind s.rest ≠ kind) :
    s.look.take? kind = none :=
  take?_eq_none (by rwa [look_rest])

theorem nextKind_ne_of_take? {s : TokenStream} {kind : TokenKind} (h : s.take? kind = none)
    (hkind : kind ≠ .endOfFile) : nextKind s.rest ≠ kind := by
  intro hnext
  cases hrest : s.rest with
  | nil =>
    rw [hrest] at hnext
    exact hkind hnext.symm
  | cons t w =>
    obtain ⟨taken, htaken, -⟩ := take?_of_rest hrest
    rw [hrest] at hnext
    rw [show t.kind = kind from hnext, h] at htaken
    cases htaken

theorem skip_skips (s : TokenStream) (p : TokenKind → Bool) :
    Skips p s.rest (s.skip p).1.rest ∧
      (p .endOfFile = false → p (nextKind (s.skip p).1.rest) = false) := by
  have hfrom (rest : List Token) (s : TokenStream) : Skips p rest (skipFrom p rest s).rest ∧
      (p .endOfFile = false → p (nextKind (skipFrom p rest s).rest) = false) := by
    induction rest generalizing s with
    | nil =>
      simp only [skipFrom, look_rest]
      exact ⟨.done, id⟩
    | cons t rest ih =>
      simp only [skipFrom]
      split
      · next hp => exact ⟨.skip hp (ih _).1, (ih _).2⟩
      · next hp =>
        rw [look_rest]
        exact ⟨.done, fun _ => by simpa [nextKind] using hp⟩
  exact hfrom s.rest s

/-- Skipping takes exactly the tokens that a derivation skips before a token that stays. -/
theorem skip_rest {s : TokenStream} {p : TokenKind → Bool} {w : List Token}
    (h : Skips p s.rest w) (hend : p .endOfFile = false) (hw : p (nextKind w) = false) :
    (s.skip p).1.rest = w := by
  obtain ⟨hskip, hstop⟩ := s.skip_skips p
  exact hskip.unique (hstop hend) h hw

end TokenStream

namespace Syntax

open TokenStream

namespace Run

variable {α β : Type}

@[simp] theorem outcome_pure (a : α) : (pure a : Run α).outcome = .ok a := rfl

@[simp] theorem outcome_bind (x : Run α) (next : α → Run β) :
    (x >>= next).outcome = (x.outcome >>= fun a => (next a).outcome) := by
  obtain ⟨events, outcome⟩ := x
  cases outcome with
  | error stopped => rfl
  | ok a => rfl

@[simp] theorem outcome_stop (stopped : TokenStream) :
    (stop stopped : Run α).outcome = .error stopped := rfl

@[simp] theorem outcome_entering (x : Run α) : (entering x).outcome = x.outcome := rfl

@[simp] theorem outcome_after (taken : List Token) (x : Run α) :
    (x.after taken).outcome = x.outcome := rfl

@[simp] theorem outcome_again (loop : Loop) (before after : TokenStream) (x : Run α) :
    (x.again loop before after).outcome = x.outcome := rfl

theorem bind_eq_ok {x : Run α} {next : α → Run β} {b : β} :
    (x >>= next).outcome = .ok b ↔ ∃ a, x.outcome = .ok a ∧ (next a).outcome = .ok b := by
  rw [outcome_bind, Outcome.bind_eq_ok]

end Run

theorem expect_eq_ok {s : TokenStream} {kind : TokenKind} {e : Expected} {taken : Taken s.look}
    (h : (expect s kind e).outcome = .ok taken) :
    s.rest = taken.token :: taken.next.rest ∧ taken.token.kind = kind ∧
      taken.next.size < s.size := by
  unfold expect at h
  split at h
  · next found hfound =>
    obtain rfl := Except.ok.inj h
    exact look_take?_eq_some hfound
  · cases h

theorem expect_of_rest {s : TokenStream} {t : Token} {w : List Token} (e : Expected)
    (hrest : s.rest = t :: w) :
    ∃ taken, (expect s t.kind e).outcome = .ok taken ∧ taken.token = t ∧ taken.next.rest = w := by
  obtain ⟨taken, htaken, htoken, hnext⟩ := take?_of_rest ((look_rest s).trans hrest)
  exact ⟨taken, by rw [expect, htaken]; rfl, htoken, hnext⟩

def closes (k : TokenKind) : Bool := [.rparen, .rbrace, .rbracket, .endOfFile].contains k

theorem closes_iff {k : TokenKind} :
    closes k ↔ k = .rparen ∨ k = .rbrace ∨ k = .rbracket ∨ k = .endOfFile := by
  simp [closes]

theorem endItem_eq_ok {s : TokenStream} {u : { next : TokenStream // next.size ≤ s.size }}
    (h : (endItem s).outcome = .ok u) :
    (∃ sep, sep.kind.isSeparator ∧ s.rest = sep :: u.1.rest) ∨
      u.1.rest = s.rest ∧ closes (nextKind s.rest) := by
  unfold endItem at h
  dsimp only at h
  split at h
  · next taken htaken =>
    obtain rfl := Except.ok.inj h
    obtain ⟨hrest, hkind⟩ := take?_eq_some htaken
    exact .inl ⟨taken.token, by simp [hkind, TokenKind.isSeparator], by simpa using hrest⟩
  · next taken _ htaken =>
    obtain rfl := Except.ok.inj h
    obtain ⟨hrest, hkind⟩ := take?_eq_some htaken
    exact .inl ⟨taken.token, by simp [hkind, TokenKind.isSeparator], by simpa using hrest⟩
  · rw [look_kind, kind_eq] at h
    split at h
    case h_5 => cases h
    all_goals
      next hkind =>
        obtain rfl := Except.ok.inj h
        exact .inr ⟨look_rest s, by rw [hkind]; rfl⟩

theorem endItem_of_separator {s : TokenStream} {sep : Token} {w : List Token}
    (hrest : s.rest = sep :: w) (hsep : sep.kind.isSeparator) :
    ∃ u, (endItem s).outcome = .ok u ∧ u.1.rest = w := by
  obtain ⟨taken, htaken, -, hnext⟩ := take?_of_rest ((look_rest s).trans hrest)
  unfold endItem
  dsimp only
  obtain hkind | hkind : sep.kind = .newline ∨ sep.kind = .semicolon := by
    simpa [TokenKind.isSeparator] using hsep
  · rw [hkind] at htaken
    rw [htaken]
    exact ⟨_, rfl, hnext⟩
  · have hnone : s.look.take? .newline = none :=
      take?_eq_none (by rw [look_rest, hrest]; simp [nextKind, hkind])
    rw [hkind] at htaken
    rw [htaken, hnone]
    exact ⟨_, rfl, hnext⟩

theorem endItem_of_closes {s : TokenStream} (h : closes (nextKind s.rest)) :
    ∃ u, (endItem s).outcome = .ok u ∧ u.1.rest = s.rest := by
  have hnone (kind : TokenKind) (hkind : closes kind = false) : s.look.take? kind = none :=
    take?_eq_none fun hnext => by simp [look_rest, ← hnext, h] at hkind
  unfold endItem
  dsimp only
  rw [hnone .newline rfl, hnone .semicolon rfl, look_kind, kind_eq]
  dsimp only
  generalize nextKind s.rest = kind at h
  cases kind
  all_goals first
    | exact ⟨_, rfl, look_rest s⟩
    | cases h

/-- The step reads a tree and leaves the tokens `w`. -/
def Reads {bound : Nat} (step : Run (Step bound Expr)) (e : Expr) (w : List Token) : Prop :=
  ∃ r, step.outcome = .ok r ∧ r.value.bare = e ∧ r.next.rest = w

def ReadsAll {bound : Nat} (step : Run (Step bound (List Expr))) (list : List Expr)
    (w : List Token) : Prop :=
  ∃ r, step.outcome = .ok r ∧ r.value.map Expr.bare = list ∧ r.next.rest = w

theorem bare_built (s : TokenStream) (d : Draft) :
    (s.built d).bare = Grammar.Tree.expr
      { kind := d.kind, name := d.name, type := d.type.bare, value := d.value.bare,
        body := d.body.bare, list := d.list.map Expr.bare } := by
  simp only [built, Draft.expr, Expr.bare, Grammar.Tree.expr, Expr.bareAll_eq_map]

@[simp] theorem finish_rest {bound : Nat} (s : TokenStream) (d : Draft) (h : s.size < bound) :
    (finish s d h).next.rest = s.rest := rfl

@[simp] theorem finish_value {bound : Nat} (s : TokenStream) (d : Draft) (h : s.size < bound) :
    (finish s d h).value = s.built d := rfl

end Syntax

end Keywordless
