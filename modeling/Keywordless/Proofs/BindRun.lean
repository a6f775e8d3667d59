import Keywordless.Binding.Binder
import Keywordless.Proofs.TypeText
import Keywordless.Proofs.WellTyped

/-!
# Runs of binding actions

What an action may do to a universe that follows the typing rules: it adds nodes, types and names
and breaks no rule, whether it succeeds or fails. Each basic action has one rule here; what binding
does follows from the rules without a look at the state.
-/

namespace Keywordless

/-- The text of a program can cause the problem. The other problems belong to trees that no text
has. -/
def BindProblem.isRegular (p : BindProblem) : Bool :=
  !([.unknown, .missingType, .expectDeclaration].contains p.code)

def BindFailure.isRegular : BindFailure → Bool
  | .fault _ => false
  | .error e => e.problem.isRegular

def BindProblem.typeTexts? : BindProblem → Option (Bytes × Bytes)
  | .constantMismatch _ declared actual => some (declared, actual)
  | .declarationMismatch _ declared actual => some (declared, actual)
  | .returnMismatch actual declared => some (actual, declared)
  | .unsupportedConversion source target => some (source, target)
  | .argumentMismatch _ actual expected => some (actual, expected)
  | .badMain expected actual => some (expected, actual)
  | _ => none

/-- Binding can meet the problem. What has the type of types never has another value than a type,
and types that are not the same are never written alike. -/
def BindProblem.isReachable : BindProblem → Bool
  | .notATypeValue _ _ => false
  | problem => problem.typeTexts?.all fun (a, b) => a != b

def BindFailure.isReachable : BindFailure → Bool
  | .fault _ => true
  | .error e => e.problem.isReachable

namespace BindM

variable {α β : Type}

theorem exec_bind {τ : Type} (action : BindM τ α) (next : α → BindM τ β) (s : BindState τ) :
    exec (action >>= next) s =
      match exec action s with
      | (.ok a, t) => exec (next a) t
      | (.error e, t) => (.error e, t) := by
  change ExceptT.bindCont next (exec action s).1 (exec action s).2 = _
  rcases exec action s with ⟨_ | _, _⟩ <;> rfl

theorem exec_world {τ : Type} (s : BindState τ) : exec world s = (.ok s.world, s) := rfl

theorem exec_ask_bind {τ : Type} (answer : Universe τ → Except Fault α) (next : α → BindM τ β)
    (s : BindState τ) : exec (ask answer >>= next) s =
      match answer s.world with
      | .ok a => exec (next a) s
      | .error e => (.error (.fault e), s) := by
  rw [exec_bind, ask, exec_bind, exec_world]
  dsimp only
  cases answer s.world <;> rfl

theorem exec_intern {τ : Type} (request : TypeStore → Except Fault TyId × TypeStore)
    (s : BindState τ) : exec (intern request) s =
      (match (request s.world.types).1 with
        | .ok id => .ok id
        | .error e => .error (.fault e),
        { s with world.types := (request s.world.types).2 }) := by
  unfold intern
  rw [exec_bind, exec_world]
  rcases hrequest : request s.world.types with ⟨_ | _, _⟩ <;>
    simp [exec_bind, hrequest] <;> rfl

/-- A trace span changes nothing but the log. -/
theorem exec_traced {τ : Type} (name : Bytes) (action : BindM τ α) (s : BindState τ) :
    ∃ t : BindState τ, t.world = s.world ∧
      (exec (traced name action) s).1 = (exec action t).1 ∧
      (exec (traced name action) s).2.world = (exec action t).2.world := by
  let opened := s.log.opened .node name s.parent
  let inside : BindState τ := { s with log := opened.2, parent := opened.1.id }
  have hrun : exec (traced name action) s =
      if s.log.level.emits .node then
        ((exec action inside).1, { (exec action inside).2 with
          log := (exec action inside).2.log.closed opened.1 [], parent := s.parent })
      else exec action s := rfl
  rw [hrun]
  split
  · exact ⟨inside, rfl, rfl, rfl⟩
  · exact ⟨s, rfl, rfl, rfl⟩

/-- The action leads from the universe `u` to a universe that holds all of `u` and follows the
typing rules. If it succeeds, its result meets `post` there. It fails only in reachable ways, and if
`whole` holds, only in regular ones. -/
def Leads (roots : List NodeId) (whole : Prop) (u : Universe FrameTable)
    (action : BindM FrameTable α) (post : α → Universe FrameTable → Prop) : Prop :=
  ∀ s, s.world = u →
    u.Extends (exec action s).2.world ∧ (exec action s).2.world.Sound roots ∧
      match (exec action s).1 with
      | .ok a => post a (exec action s).2.world
      | .error e => (whole → e.isRegular) ∧ e.isReachable

namespace Leads

variable {roots : List NodeId} {whole : Prop} {u : Universe FrameTable}
  {action : BindM FrameTable α} {next : α → BindM FrameTable β}
  {mid : α → Universe FrameTable → Prop} {post : β → Universe FrameTable → Prop}

theorem imp {mid' : α → Universe FrameTable → Prop} (h : Leads roots whole u action mid)
    (himp : ∀ a v, u.Extends v → mid a v → mid' a v) : Leads roots whole u action mid' := by
  intro s hs
  obtain ⟨hgrow, hsound, hresult⟩ := h s hs
  refine ⟨hgrow, hsound, ?_⟩
  cases hrun : (exec action s).1 with
  | ok a =>
    rw [hrun] at hresult
    exact himp a _ hgrow hresult
  | error e =>
    rw [hrun] at hresult
    exact hresult

theorem of_whole {whole' : Prop} (h : Leads roots whole u action mid) (himp : whole' → whole) :
    Leads roots whole' u action mid := by
  intro s hs
  obtain ⟨hgrow, hsound, hresult⟩ := h s hs
  refine ⟨hgrow, hsound, ?_⟩
  cases hrun : (exec action s).1 with
  | ok a =>
    rw [hrun] at hresult
    exact hresult
  | error e =>
    rw [hrun] at hresult
    exact ⟨fun hw => hresult.1 (himp hw), hresult.2⟩

protected theorem pure {a : α} (h : u.Sound roots) (ha : mid a u) :
    Leads roots whole u (pure a) mid := by
  rintro s rfl
  exact ⟨.refl _, h, ha⟩

theorem throw {e : BindFailure} (h : u.Sound roots) (hreachable : e.isReachable)
    (he : whole → e.isRegular) : Leads roots whole u (throw e) mid := by
  rintro s rfl
  exact ⟨.refl _, h, he, hreachable⟩

theorem fail {problem : BindProblem} {span : Span} {notes : List Note} (h : u.Sound roots)
    (hreachable : problem.isReachable) (hproblem : whole → problem.isRegular) :
    Leads roots whole u (BindM.fail problem span notes) mid := by
  rintro s rfl
  exact ⟨.refl _, h, hproblem, hreachable⟩

/-- The second action starts from where the first one ended. -/
protected theorem bind (haction : Leads roots whole u action mid)
    (hnext : ∀ a v, u.Extends v → v.Sound roots → mid a v → Leads roots whole v (next a) post) :
    Leads roots whole u (action >>= next) post := by
  intro s hs
  obtain ⟨hgrow, hsound, hresult⟩ := haction s hs
  rw [exec_bind]
  rcases hrun : exec action s with ⟨_ | a, t⟩
  · rw [hrun] at hgrow hsound hresult
    exact ⟨hgrow, hsound, hresult⟩
  · rw [hrun] at hgrow hsound hresult
    obtain ⟨hgrow', hsound', hresult'⟩ := hnext a t.world hgrow hsound hresult t rfl
    exact ⟨hgrow.trans hgrow', hsound', hresult'⟩

theorem traced {name : Bytes} (h : Leads roots whole u action mid) :
    Leads roots whole u (BindM.traced name action) mid := by
  intro s hs
  obtain ⟨t, ht, hresult, hworld⟩ := exec_traced name action s
  rw [hresult, hworld]
  exact h t (ht.trans hs)

private theorem read_bind {a : α} (hread : ∀ s, s.world = u → exec action s = (.ok a, s))
    (hnext : Leads roots whole u (next a) post) : Leads roots whole u (action >>= next) post := by
  intro s hs
  rw [exec_bind, hread s hs]
  exact hnext s hs

theorem ask_bind {answer : Universe FrameTable → Except Fault α} {a : α} (ha : answer u = .ok a)
    (hnext : Leads roots whole u (next a) post) :
    Leads roots whole u (ask answer >>= next) post := by
  intro s hs
  rw [exec_ask_bind, hs, ha]
  exact hnext s hs

theorem ask {answer : Universe FrameTable → Except Fault α} {a : α} (h : u.Sound roots)
    (ha : answer u = .ok a) (hmid : mid a u) : Leads roots whole u (BindM.ask answer) mid := by
  rw [← bind_pure (BindM.ask answer)]
  exact ask_bind ha (.pure h hmid)

theorem primitive_bind {p : Primitive} {next : TyId → BindM FrameTable β}
    (hnext : Leads roots whole u (next (u.types.primitive p)) post) :
    Leads roots whole u (BindM.primitive p >>= next) post := by
  refine read_bind (fun s hs => ?_) hnext
  subst hs
  rfl

theorem describe_bind {id : TyId} {t : Ty} {next : Ty → BindM FrameTable β}
    (ht : u.types.get? id = some t) (hnext : Leads roots whole u (next t) post) :
    Leads roots whole u (BindM.describe id >>= next) post :=
  ask_bind ((Arena.get_eq_ok_iff _ _ _).mpr ht) hnext

theorem typeText_bind {id : TyId} {next : Bytes → BindM FrameTable β} (h : u.Sound roots)
    (hid : u.types.Issued id) (hnext : ∀ text, Leads roots whole u (next text) post) :
    Leads roots whole u (BindM.typeText id >>= next) post := by
  obtain ⟨text, htext⟩ := TypeStore.format_total h.types hid
  exact ask_bind htext (hnext text)

theorem typeTexts_bind {a b : TyId} {next : Bytes → Bytes → BindM FrameTable β} (h : u.Sound roots)
    (ha : u.types.Issued a) (hb : u.types.Issued b) (hne : a ≠ b)
    (hnext : ∀ text text', text ≠ text' → Leads roots whole u (next text text') post) :
    Leads roots whole u
      (BindM.typeText a >>= fun text => BindM.typeText b >>= fun text' => next text text')
      post := by
  obtain ⟨text, htext⟩ := TypeStore.format_total h.types ha
  obtain ⟨text', htext'⟩ := TypeStore.format_total h.types hb
  refine ask_bind htext (ask_bind htext' (hnext text text' ?_))
  rintro rfl
  exact hne ((h.types.format_eq_iff ha hb).mp (htext.trans htext'.symm))

theorem typeOf_bind {id : NodeId} {next : TyId → BindM FrameTable β} (h : u.Sound roots)
    (hid : u.graph.Issued id)
    (hnext : ∀ type, u.graph.typeOf id = .ok type → u.types.Issued type →
      Leads roots whole u (next type) post) :
    Leads roots whole u (BindM.typeOf id >>= next) post := by
  obtain ⟨type, htype, hissued⟩ := h.typeOf hid
  exact ask_bind htype (hnext type htype hissued)

theorem isConstant_bind {id : NodeId} {next : Bool → BindM FrameTable β} (h : u.Sound roots)
    (hid : u.graph.Issued id)
    (hnext : ∀ b, u.graph.isConstant id = .ok b → Leads roots whole u (next b) post) :
    Leads roots whole u (BindM.isConstant id >>= next) post := by
  obtain ⟨b, hb⟩ := Graph.isConstant_total h.ordered hid
  exact ask_bind hb (hnext b hb)

theorem visible?_bind {scope : ScopeId} {name : Bytes} {next : Option NodeId → BindM FrameTable β}
    (h : u.Sound roots)
    (hnext : ∀ found, (∀ id ∈ found, u.graph.Issued id) → Leads roots whole u (next found) post) :
    Leads roots whole u (BindM.visible? scope name >>= next) post := by
  have hfound := hnext (ScopeStore.lookup u.scopes scope name) fun _ hid =>
    (h.lookup hid).issued
  refine read_bind (fun s hs => ?_) hfound
  subst hs
  rfl

theorem make {span : Span} {shape : Shape} (h : u.Sound roots)
    (htyped : shape.WellTyped u.graph u.types False)
    (hedges : ∀ e ∈ shape.edges, u.graph.Issued e)
    (hown : (∀ target, shape ≠ .name target) → u.types.Issued shape.ownType) :
    Leads roots whole u (BindM.make span shape)
      fun id v => v.graph.get? id = some ⟨span, shape⟩ := by
  rintro s rfl
  exact ⟨⟨Arena.insert_extends _ _, .refl _⟩, Universe.Sound.make h htyped hedges hown,
    Arena.get?_insert_self _ _⟩

theorem make_issued {span : Span} {shape : Shape} (h : u.Sound roots)
    (htyped : shape.WellTyped u.graph u.types False)
    (hedges : ∀ e ∈ shape.edges, u.graph.Issued e)
    (hown : (∀ target, shape ≠ .name target) → u.types.Issued shape.ownType) :
    Leads roots whole u (BindM.make span shape) fun id v => v.graph.Issued id :=
  (make h htyped hedges hown).imp fun _ _ _ hmade => ⟨_, hmade⟩

/-- The type store is asked for a type with components of its own. -/
private theorem intern {t : Ty} (h : u.Sound roots) (ht : ∀ c ∈ t.components, u.types.Issued c) :
    Leads roots whole u (BindM.intern fun types => types.intern t)
      fun id v => v.types.get? id = some t := by
  rintro s rfl
  have hi := TypeStore.intern_interned h.types t
  obtain ⟨id, hid⟩ := (hi.accepted_iff h.types).mpr ht
  rw [exec_intern, hid]
  exact ⟨⟨.refl _, hi.grows⟩, Universe.Sound.withTypes h (hi.kept h.types) hi.grows, hi.holds hid⟩

theorem wrap {w : Wrapper} {elem : TyId} (h : u.Sound roots) (helem : u.types.Issued elem) :
    Leads roots whole u (BindM.wrap w elem)
      fun id v => v.types.get? id = some (.wrapped w elem) :=
  intern (t := .wrapped w elem) h (by simpa [Ty.components] using helem)

theorem procedureType {params : List TyId} {result : TyId} (h : u.Sound roots)
    (hparams : ∀ p ∈ params, u.types.Issued p) (hresult : u.types.Issued result) :
    Leads roots whole u (BindM.procedureType params result)
      fun id v => v.types.get? id = some (.procedure params result) := by
  refine intern (t := .procedure params result) h fun c hc => ?_
  obtain hc | hc := List.mem_append.mp hc
  · exact hparams c hc
  · obtain rfl := List.mem_singleton.mp hc
    exact hresult

theorem openScope {scope : ScopeId} (h : u.Sound roots) :
    Leads roots whole u (BindM.openScope scope) fun _ _ => True := by
  rintro s rfl
  exact ⟨⟨.refl _, .refl _⟩, Universe.Sound.openScope h scope, trivial⟩

theorem declare {scope : ScopeId} {name : Bytes} {id : NodeId} (h : u.Sound roots)
    (hid : Universe.Denotes u.graph name id) :
    Leads roots whole u (BindM.declare scope name id) fun _ _ => True := by
  rintro s rfl
  exact ⟨⟨.refl _, .refl _⟩, Universe.Sound.declare h scope hid, trivial⟩

end Leads

end BindM

end Keywordless
