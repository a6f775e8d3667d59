import Keywordless.Proofs.Outcome
import Keywordless.Syntax.SpanCheck

/-!
# Nested spans

A tree is nested when the span of each node holds those of its parts, one after the other in source
order. A nested tree passes the span check, and its nodes start in the order in which an outline
lists them.
-/

namespace Keywordless

/-- Spans between two offsets, none of them empty, each of which stops before the next one starts.
-/
structure Rowed (lo hi : Nat) (spans : List Span) : Prop where
  inside : ∀ s ∈ spans, lo ≤ s.start ∧ s.start < s.stop ∧ s.stop ≤ hi
  inOrder : spans.Pairwise (·.stop ≤ ·.start)

namespace Rowed

variable {lo lo' hi hi' : Nat} {spans more : List Span} {s : Span}

theorem nil (lo hi : Nat) : Rowed lo hi [] := ⟨by simp, .nil⟩

theorem single_iff : Rowed lo hi [s] ↔ lo ≤ s.start ∧ s.start < s.stop ∧ s.stop ≤ hi := by
  constructor
  · intro h
    exact h.inside s (by simp)
  · intro h
    exact ⟨by simpa using h, List.pairwise_singleton _ s⟩

theorem mono (h : Rowed lo hi spans) (hlo : lo' ≤ lo) (hhi : hi ≤ hi') : Rowed lo' hi' spans := by
  refine ⟨?_, h.inOrder⟩
  intro s hs
  have hin := h.inside s hs
  omega

theorem append (h : Rowed lo hi spans) (hmore : Rowed lo' hi' more) (hle : hi ≤ lo')
    (hlo : lo ≤ lo') (hhi : hi ≤ hi') : Rowed lo hi' (spans ++ more) := by
  refine ⟨?_, ?_⟩
  · intro s hs
    rcases List.mem_append.mp hs with hs | hs
    · exact (h.mono le_rfl hhi).inside s hs
    · exact (hmore.mono hlo le_rfl).inside s hs
  · refine List.pairwise_append.mpr ⟨h.inOrder, hmore.inOrder, ?_⟩
    intro s hs s' hs'
    have hstop := (h.inside s hs).2.2
    have hstart := (hmore.inside s' hs').1
    omega

private theorem cons_iff :
    Rowed lo hi (s :: spans) ↔
      lo ≤ s.start ∧ s.start < s.stop ∧ s.stop ≤ hi ∧ Rowed s.stop hi spans := by
  constructor
  · intro h
    obtain ⟨hafter, hrest⟩ := List.pairwise_cons.mp h.inOrder
    obtain ⟨hlo, hlt, hhi⟩ := h.inside s (by simp)
    refine ⟨hlo, hlt, hhi, ?_, hrest⟩
    intro s' hs'
    exact ⟨hafter s' hs', (h.inside s' (by simp [hs'])).2⟩
  · rintro ⟨hlo, hlt, hhi, hrest⟩
    exact (single_iff.mpr ⟨hlo, hlt, le_rfl⟩).append hrest le_rfl (by omega) hhi

end Rowed

namespace Expr

def ownSpans : Expr → List Span
  | absent => []
  | node h _ _ _ _ => [h.span]

@[simp] theorem ownSpans_absent : absent.ownSpans = [] := rfl

private theorem ownSpans_eq {e : Expr} (h : e.isAbsent = false) : e.ownSpans = [e.span] := by
  cases e with
  | absent => cases h
  | node head type value body list => rfl

theorem rowed_ownSpans_iff {e : Expr} (h : e.isAbsent = false) {lo hi : Nat} :
    Rowed lo hi e.ownSpans ↔
      lo ≤ e.span.start ∧ e.span.start < e.span.stop ∧ e.span.stop ≤ hi := by
  rw [ownSpans_eq h, Rowed.single_iff]

private theorem rowed_of_mem {list : List Expr} {lo hi : Nat}
    (h : Rowed lo hi (list.flatMap ownSpans))
    {e : Expr} (he : e ∈ list) : Rowed lo hi e.ownSpans := by
  have hsub : e.ownSpans.Sublist (list.flatMap ownSpans) :=
    List.sublist_flatten_of_mem (List.mem_map_of_mem he)
  exact ⟨fun s hs => h.inside s (hsub.subset hs), h.inOrder.sublist hsub⟩

def parts (kind : ExprKind) (type value body : Expr) (list : List Expr) : List Expr :=
  arranged kind [type] [value] [body] list

theorem arranged_flatMap {α : Type} (g : Expr → List α) (kind : ExprKind)
    (type value body : Expr) (list : List Expr) :
    arranged kind (g type) (g value) (g body) (list.flatMap g) =
      (parts kind type value body list).flatMap g := by
  cases kind <;> simp [parts, arranged]

theorem mem_parts {kind : ExprKind} {type value body e : Expr} {list : List Expr}
    (h : e ∈ parts kind type value body list) : e ∈ type :: value :: body :: list := by
  cases kind <;> simp only [parts, arranged, List.mem_append, List.mem_singleton] at h <;>
    simp only [List.mem_cons] <;> tauto

private theorem collectAll_eq {α : Type} (visit : ExprHead → Nat → List α) (depth : Nat)
    (list : List Expr) : collectAll visit depth list = list.flatMap (collect visit depth) := by
  induction list with
  | nil => rfl
  | cons e rest ih => rw [collectAll, ih, List.flatMap_cons]

/-- The spans of a node and of its parts fit together: all lie in the file, the one of the name lies
in the one of the node, and so do those of the parts, in order and with none left out. -/
structure Fitted (file : FileId) (h : ExprHead) (type value body : Expr) (list : List Expr) :
    Prop where
  file : h.span.file = file
  name : h.kind ≠ .intLit → h.name ≠ [] →
    h.span.start ≤ h.nameSpan.start ∧ h.nameSpan.stop ≤ h.span.stop
  parts : Rowed h.span.start h.span.stop
    ((Expr.parts h.kind type value body list).flatMap ownSpans)
  whole : ∀ e ∈ type :: value :: body :: list,
    e = absent ∨ e ∈ Expr.parts h.kind type value body list

theorem Fitted.part {file : FileId} {h : ExprHead} {type value body e : Expr} {list : List Expr}
    (hfitted : Fitted file h type value body list) (he : e ∈ type :: value :: body :: list) :
    Rowed h.span.start h.span.stop e.ownSpans := by
  rcases hfitted.whole e he with rfl | hmem
  · exact .nil _ _
  · exact rowed_of_mem hfitted.parts hmem

mutual

/-- The spans of every node of the tree and of its parts fit together. -/
def Nested (file : FileId) : Expr → Prop
  | absent => True
  | node h type value body list =>
    Fitted file h type value body list ∧ Nested file type ∧ Nested file value ∧
      Nested file body ∧ AllNested file list

def AllNested (file : FileId) : List Expr → Prop
  | [] => True
  | e :: rest => Nested file e ∧ AllNested file rest

end

theorem allNested_iff {file : FileId} {list : List Expr} :
    AllNested file list ↔ ∀ e ∈ list, e.Nested file := by
  induction list with
  | nil => simp [AllNested]
  | cons e rest ih => rw [AllNested, ih, List.forall_mem_cons]

theorem Nested.file {file : FileId} {e : Expr} (h : e.Nested file) (hpresent : e.isAbsent = false) :
    e.span.file = file := by
  cases e with
  | absent => cases hpresent
  | node head type value body list => exact h.1.file

/-! ### The span check -/

private theorem checkHead_ok {file : FileId} {size : Nat} {parent : Span} {h : ExprHead}
    {type value body : Expr} {list : List Expr} (hfitted : Fitted file h type value body list)
    (hinside : Rowed parent.start parent.stop [h.span]) (hsize : parent.stop ≤ size) :
    checkHead file size parent h = .ok () := by
  obtain ⟨hlo, hlt, hhi⟩ := Rowed.single_iff.mp hinside
  have hname : ¬ (h.kind != .intLit && !h.name.isEmpty &&
      (h.nameSpan.start < h.span.start || h.nameSpan.stop > h.span.stop)) := by
    intro hbad
    simp only [Bool.and_eq_true, Bool.or_eq_true, bne_iff_ne, Bool.not_eq_true',
      List.isEmpty_eq_false_iff, decide_eq_true_eq] at hbad
    have hin := hfitted.name hbad.1.1 hbad.1.2
    omega
  unfold checkHead
  dsimp only
  rw [if_neg (by omega), if_neg (by simp [hfitted.file]), if_neg (by omega), if_neg, if_neg hname]
  simp only [Bool.or_eq_true, decide_eq_true_eq]
  omega

mutual

/-- A nested tree inside its parent passes the check. -/
theorem checkSpans_ok {file : FileId} {size : Nat} : (e : Expr) → {parent : Span} →
    e.Nested file → Rowed parent.start parent.stop e.ownSpans → parent.stop ≤ size →
    checkSpans file size parent e = .ok ()
  | absent, _, _, _, _ => by rw [checkSpans]
  | node h type value body list, parent, hnested, hinside, hsize => by
    obtain ⟨hfitted, htype, hvalue, hbody, hlist⟩ := hnested
    have hstop : h.span.stop ≤ size := by
      have hin := Rowed.single_iff.mp hinside
      omega
    rw [checkSpans, checkHead_ok hfitted hinside hsize,
      checkSpans_ok type htype (hfitted.part (by simp)) hstop,
      checkSpans_ok value hvalue (hfitted.part (by simp)) hstop,
      checkSpans_ok body hbody (hfitted.part (by simp)) hstop,
      checkAllSpans_ok list hlist (fun e he => hfitted.part (by simp [he])) hstop]
    rfl

private theorem checkAllSpans_ok {file : FileId} {size : Nat} :
    (list : List Expr) → {parent : Span} →
    AllNested file list → (∀ e ∈ list, Rowed parent.start parent.stop e.ownSpans) →
    parent.stop ≤ size → checkAllSpans file size parent list = .ok ()
  | [], _, _, _, _ => by rw [checkAllSpans]
  | e :: rest, parent, hnested, hinside, hsize => by
    rw [checkAllSpans, checkSpans_ok e hnested.1 (hinside e (by simp)) hsize,
      checkAllSpans_ok rest hnested.2 (fun d hd => hinside d (by simp [hd])) hsize]
    rfl

end

/-! ### Starts in order -/

structure Ascending (lo hi : Nat) (offsets : List Nat) : Prop where
  inside : ∀ x ∈ offsets, lo ≤ x ∧ x < hi
  inOrder : offsets.Pairwise (· ≤ ·)

private theorem Ascending.append {lo mid hi : Nat} {offsets more : List Nat}
    (h : Ascending lo mid offsets)
    (hmore : Ascending mid hi more) (hlo : lo ≤ mid) (hhi : mid ≤ hi) :
    Ascending lo hi (offsets ++ more) := by
  refine ⟨?_, ?_⟩
  · intro x hx
    rcases List.mem_append.mp hx with hx | hx
    · have hin := h.inside x hx
      omega
    · have hin := hmore.inside x hx
      omega
  · refine List.pairwise_append.mpr ⟨h.inOrder, hmore.inOrder, ?_⟩
    intro x hx y hy
    have hlt := (h.inside x hx).2
    have hge := (hmore.inside y hy).1
    omega

/-- What expressions list inside of their own spans, they list in order if they stand one after the
other. -/
theorem ascending_flatMap {g : Expr → List Nat} (hnone : g absent = []) {list : List Expr}
    {lo hi : Nat} (hrow : Rowed lo hi (list.flatMap ownSpans))
    (hown : ∀ e ∈ list, e.isAbsent = false → Ascending e.span.start e.span.stop (g e)) :
    Ascending lo hi (list.flatMap g) := by
  induction list generalizing lo with
  | nil => exact ⟨by simp, .nil⟩
  | cons e rest ih =>
    rw [List.flatMap_cons] at hrow ⊢
    have hrest (d : Expr) (hd : d ∈ rest) := hown d (List.mem_cons_of_mem e hd)
    cases e with
    | absent =>
      rw [hnone]
      exact ih hrow hrest
    | node h type value body parts =>
      obtain ⟨hlo, hlt, hhi, hafter⟩ := Rowed.cons_iff.mp hrow
      have hfirst := hown (node h type value body parts) (by simp) rfl
      have hwide : Ascending lo h.span.stop (g (node h type value body parts)) :=
        ⟨fun x hx => ⟨hlo.trans (hfirst.inside x hx).1, (hfirst.inside x hx).2⟩, hfirst.inOrder⟩
      exact hwide.append (ih hafter hrest) (by omega) hhi

def startOf (h : ExprHead) (_depth : Nat) : List Nat := [h.span.start]

/-- The nodes of the tree start in the order in which they are listed, all of them in its span. -/
def StartsInOrder (depth : Nat) (e : Expr) : Prop :=
  e.isAbsent = false → e.span.start < e.span.stop →
    Ascending e.span.start e.span.stop (collect startOf depth e)

private theorem Fitted.startsInOrder {file : FileId} {h : ExprHead} {type value body : Expr}
    {list : List Expr} (hfitted : Fitted file h type value body list) {depth : Nat}
    (hparts : ∀ e ∈ type :: value :: body :: list, e.StartsInOrder (depth + 1)) :
    (node h type value body list).StartsInOrder depth := by
  intro _ hlt
  have hrest := ascending_flatMap rfl hfitted.parts (fun e he hpresent =>
    hparts e (mem_parts he) hpresent
      ((rowed_ownSpans_iff hpresent).mp (hfitted.part (mem_parts he))).2.1)
  rw [collect, collectAll_eq, arranged_flatMap]
  refine ⟨?_, List.pairwise_cons.mpr ⟨fun x hx => (hrest.inside x hx).1, hrest.inOrder⟩⟩
  intro x hx
  rcases List.mem_append.mp hx with hx | hx
  · obtain rfl := List.mem_singleton.mp hx
    exact ⟨le_rfl, hlt⟩
  · exact hrest.inside x hx

mutual

private theorem Nested.startsInOrder {file : FileId} : (e : Expr) → (depth : Nat) → e.Nested file →
    e.StartsInOrder depth
  | absent, _, _ => nofun
  | node h type value body list, depth, ⟨hfitted, htype, hvalue, hbody, hlist⟩ => by
    apply hfitted.startsInOrder
    simp only [List.forall_mem_cons]
    exact ⟨Nested.startsInOrder type (depth + 1) htype,
      Nested.startsInOrder value (depth + 1) hvalue, Nested.startsInOrder body (depth + 1) hbody,
      AllNested.startsInOrder list (depth + 1) hlist⟩

private theorem AllNested.startsInOrder {file : FileId} : (list : List Expr) → (depth : Nat) →
    AllNested file list → ∀ e ∈ list, e.StartsInOrder depth
  | [], _, _ => by simp
  | e :: rest, depth, hnested => List.forall_mem_cons.mpr
    ⟨Nested.startsInOrder e depth hnested.1, AllNested.startsInOrder rest depth hnested.2⟩

end

theorem collectAll_starts {file : FileId} {list : List Expr} {lo hi : Nat}
    (hnested : AllNested file list) (hrow : Rowed lo hi (list.flatMap ownSpans)) (depth : Nat) :
    (collectAll startOf depth list).Pairwise (· ≤ ·) := by
  rw [collectAll_eq]
  refine (ascending_flatMap rfl hrow ?_).inOrder
  intro e he hpresent
  apply AllNested.startsInOrder list depth hnested e he hpresent
  exact ((rowed_ownSpans_iff hpresent).mp (rowed_of_mem hrow he)).2.1

end Expr

theorem SyntaxFile.checkSpans_ok {file : SyntaxFile} {source : SourceFile}
    (hnested : Expr.AllNested source.id file.items)
    (hrow : Rowed file.span.start file.span.stop (file.items.flatMap Expr.ownSpans))
    (hfile : file.span.file = source.id) (hsize : file.span.stop ≤ source.content.length) :
    file.checkSpans source = .ok () := by
  unfold SyntaxFile.checkSpans
  rw [Expr.checkAllSpans_ok file.items hnested (fun _ => Expr.rowed_of_mem hrow) hsize]
  simp [hfile, bind, Except.bind, pure, Except.pure]

end Keywordless
