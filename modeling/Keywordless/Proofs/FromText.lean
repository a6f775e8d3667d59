import Keywordless.Binding.Entry
import Keywordless.Proofs.ParseFile
import Keywordless.Proofs.Session

/-!
# From text to graph

What is parsed without an error has every part that binding relies on, so that binding it, checking
its entry and dumping its block go through without a fault.
-/

namespace Keywordless

namespace Expr

private theorem Complete.isAbsent_eq_false {e : Expr} (h : e.Complete) : e.isAbsent = false := by
  cases e with
  | absent => exact h.elim
  | node head type value body list => rfl

mutual

theorem complete_bare : (e : Expr) → (e.bare.Complete ↔ e.Complete)
  | absent => Iff.rfl
  | node h type value body list => by
    have hkinds : (∀ e ∈ bareAll list, e.kind = .declaration) ↔
        ∀ e ∈ list, e.kind = .declaration := by
      simp only [bareAll_eq_map, List.forall_mem_map, bare_kind]
    rw [bare, Complete, Complete]
    simp only [complete_bare type, complete_bare value, complete_bare body,
      allComplete_bareAll list, hkinds, bare_isAbsent]

private theorem allComplete_bareAll :
    (list : List Expr) → (AllComplete (bareAll list) ↔ AllComplete list)
  | [] => Iff.rfl
  | e :: rest => by
    rw [bareAll, AllComplete, AllComplete, complete_bare e, allComplete_bareAll rest]

end

end Expr

namespace Grammar

def Operator.Complete : Operator → Prop
  | call args => Expr.AllComplete args
  | member _ => True

private theorem foldl_apply_complete {e : Expr} {ops : List Operator} (he : e.Complete)
    (hops : ∀ op ∈ ops, op.Complete) : (ops.foldl Operator.apply e).Complete := by
  induction ops generalizing e with
  | nil => exact he
  | cons op rest ih =>
    obtain ⟨hop, hrest⟩ := List.forall_mem_cons.mp hops
    refine ih ?_ hrest
    cases op with
    | call args => exact ⟨he, hop⟩
    | member name => exact he

mutual

theorem Expression.complete {greedy : Prop} {s s' : List Token} {e : Expr} :
    Expression greedy s e s' → e.Complete
  | .operand hoperand => Operand.complete hoperand
  | .constant _ _ htype _ hvalue => ⟨Ascription.complete htype, Expression.complete hvalue⟩
  | .declaration _ _ htype _ hvalue =>
    ⟨Ascription.complete htype, .inr (Expression.complete hvalue), fun habsent => by
      simp [(Expression.complete hvalue).isAbsent_eq_false] at habsent⟩
  | .typed _ _ htype =>
    ⟨.inr (Operand.complete htype), .inl rfl, fun habsent => by
      simp [(Operand.complete htype).isAbsent_eq_false] at habsent⟩

private theorem Ascription.complete {greedy : Prop} {s s' : List Token} {e : Expr} :
    Ascription greedy s e s' → e.isAbsent ∨ e.Complete
  | .none => .inl rfl
  | .some hoperand => .inr (Operand.complete hoperand)

private theorem Operand.complete {greedy : Prop} {s s' : List Token} {e : Expr} {dangling : Bool} :
    Operand greedy s e dangling s' → e.Complete
  | .slice _ _ helem =>
    have hcomplete := Operand.complete helem
    hcomplete
  | .multipointer _ _ _ helem =>
    have hcomplete := Operand.complete helem
    hcomplete
  | .array _ _ hlength _ helem => ⟨Operand.complete hlength, Operand.complete helem⟩
  | .pointer _ helem =>
    have hcomplete := Operand.complete helem
    hcomplete
  | .applied hprimary hops _ =>
    foldl_apply_complete (Primary.complete hprimary) (Operators.complete hops)

private theorem Primary.complete {greedy : Prop} {s s' : List Token} {e : Expr} {dangling : Bool} :
    Primary greedy s e dangling s' → e.Complete
  | .name _ => trivial
  | .intLit _ => trivial
  | .block hblock => Block.complete hblock
  | .paren hargs _ => (Arguments.complete hargs).1
  | .structType hargs _ _ => Arguments.complete hargs
  | .procedureType hargs hdeclared _ htype =>
    ⟨Operand.complete htype, Arguments.complete hargs, hdeclared⟩
  | .procedure hargs hdeclared _ htype hbody _ =>
    ⟨Operand.complete htype, Block.complete hbody, Arguments.complete hargs, hdeclared⟩

private theorem Operators.complete {greedy : Prop} {s s' : List Token} {ops : List Operator} :
    Operators greedy s ops s' → ∀ op ∈ ops, op.Complete
  | .nil => by simp
  | .call hargs hrest =>
    List.forall_mem_cons.mpr ⟨Arguments.complete hargs, Operators.complete hrest⟩
  | .member _ _ hrest => List.forall_mem_cons.mpr ⟨trivial, Operators.complete hrest⟩

private theorem Block.complete {greedy : Prop} {s s' : List Token} {e : Expr} :
    Block greedy s e s' → e.Complete
  | .mk _ hlist _ => Sequence.complete hlist

private theorem Arguments.complete {greedy : Prop} {s s' : List Token} {list : List Expr} :
    Arguments greedy s list s' → Expr.AllComplete list
  | .mk _ _ hlist _ => Entries.complete hlist

private theorem Entries.complete {greedy : Prop} {s s' : List Token} {list : List Expr} :
    Entries greedy s list s' → Expr.AllComplete list
  | .none => trivial
  | .last hfirst _ => ⟨Expression.complete hfirst, trivial⟩
  | .more hfirst _ _ _ hrest => ⟨Expression.complete hfirst, Entries.complete hrest⟩

private theorem Sequence.complete {greedy : Prop} {s s' : List Token} {list : List Expr} :
    Sequence greedy s list s' → Expr.AllComplete list
  | .empty _ => trivial
  | .cons _ hfirst hrest => ⟨Expression.complete hfirst, Rest.complete hrest⟩

private theorem Rest.complete {greedy : Prop} {s s' : List Token} {list : List Expr} :
    Rest greedy s list s' → Expr.AllComplete list
  | .nil => trivial
  | .separated _ hlist => Sequence.complete hlist

end

end Grammar

/-- What is parsed without an error is complete. -/
theorem SourceFile.parse_items_complete (f : SourceFile) (h : f.parse.failed = false) :
    ∀ e ∈ f.parse.file.items, e.Complete := by
  obtain ⟨_, _, hlist⟩ := f.parse_sound True h
  have hall := hlist.complete
  rw [← Expr.bareAll_eq_map, Expr.allComplete_bareAll] at hall
  exact Expr.allComplete_iff.mp hall

namespace Entry

open BindM (Leads)

variable {roots : List NodeId} {whole : Prop} {u : Universe FrameTable}

theorem mainType_leads (h : u.Sound roots) :
    Leads roots whole u mainType fun id v => v.types.Issued id := by
  refine .primitive_bind ?_
  refine .bind (.wrap h ⟨_, h.types.get?_primitive .u8⟩) fun text v _ hv htext => ?_
  refine .bind (.wrap hv ⟨_, htext⟩) fun args w _ hw hargs => ?_
  refine .primitive_bind ?_
  refine (Leads.procedureType hw ?_ ⟨_, hw.types.get?_primitive .int⟩).imp ?_
  · rintro p hp
    obtain rfl := List.mem_singleton.mp hp
    exact ⟨_, hargs⟩
  · exact fun _ _ _ hid => ⟨_, hid⟩

theorem check_leads (file : FileId) (h : u.Sound roots) :
    Leads roots whole u (check file) fun id v => v.graph.Issued id := by
  refine .visible?_bind h fun found hfound => ?_
  cases found with
  | none => exact .fail h rfl fun _ => rfl
  | some id =>
    have hid := hfound id rfl
    refine .bind (mainType_leads h) fun expected v hgrow hv hexpected => ?_
    have hid' := hgrow.graph.issued hid
    refine .typeOf_bind hv hid' fun actual _ hactual => ?_
    split
    · exact .pure hv hid'
    · next hne =>
      obtain ⟨node, hnode⟩ := hid'
      refine .ask_bind ((Arena.get_eq_ok_iff _ _ _).mpr hnode) ?_
      refine .typeTexts_bind hv hexpected hactual (Ne.symm hne) fun a b hab => ?_
      exact .fail hv (bne_iff_ne.mpr hab) fun _ => rfl

theorem check_faultless (file : FileId) {s : BindState FrameTable} (h : s.world.Sound roots) :
    let checked := (check file).exec s
    s.world.Extends checked.2.world ∧ checked.2.world.Sound roots ∧
      ∀ fault, checked.1 ≠ .error (.fault fault) := by
  intro checked
  have hleads : Leads roots True s.world (check file) fun id v => v.graph.Issued id :=
    check_leads file h
  obtain ⟨hgrow, hsound, hresult⟩ := hleads s rfl
  refine ⟨hgrow, hsound, fun fault hfault => ?_⟩
  rw [hfault] at hresult
  cases hresult.1 trivial

end Entry

namespace Universe

/-- The view shows the graph and the types of a universe, and it can say what a member of each of
these types is called. -/
structure ShownBy (u : Universe FrameTable) (v : DumpView) : Prop where
  graph : v.graph = u.graph
  types : v.types = u.types
  names : ∀ nameOf ∈ v.memberName, ∀ type, u.types.Issued type →
    ∀ index, ∃ name, nameOf type index = .ok name

namespace Sound

variable {roots : List NodeId} {u : Universe FrameTable} {v : DumpView}

private theorem memberName_total {operand : TyId} (hoperand : u.types.Issued operand)
    (index : Int) : ∃ name, u.memberName operand index = .ok name := by
  obtain ⟨t, ht⟩ := hoperand
  have hkind : u.types.kind operand = .ok t.kind :=
    Outcome.bind_eq_ok.mpr ⟨t, (Arena.get_eq_ok_iff _ _ _).mpr ht, rfl⟩
  unfold memberName
  simp only [hkind, Outcome.ok_bind]
  split <;> exact ⟨_, rfl⟩

private theorem shownBy_view (u : Universe FrameTable) : u.ShownBy u.view :=
  ⟨rfl, rfl, fun _ hname _ htype index => Option.some.inj hname ▸ memberName_total htype index⟩

private theorem memberText_total (h : u.Sound roots) (hv : u.ShownBy v) {operand : NodeId}
    (hoperand : u.graph.Issued operand) (index : Int) :
    ∃ text, v.memberText operand index = .ok text := by
  obtain ⟨whole, hwhole, hissued⟩ := h.typeOf hoperand
  unfold DumpView.memberText
  rw [hv.graph]
  cases hnames : v.memberName with
  | none => exact ⟨_, rfl⟩
  | some nameOf =>
    obtain ⟨name, hname⟩ := hv.names nameOf hnames whole hissued index
    exact ⟨_, Outcome.bind_eq_ok.mpr ⟨whole, hwhole, Outcome.bind_eq_ok.mpr ⟨name, hname, rfl⟩⟩⟩

private theorem valueText_total (h : u.Sound roots) (hv : u.ShownBy v) {value : Value} {type : TyId}
    (hvalue : value.Inhabits u.graph u.types type) : ∃ text, v.value value = .ok text := by
  cases value with
  | type denoted =>
    obtain ⟨text, htext⟩ := TypeStore.format_total h.types hvalue.2
    exact ⟨_, Outcome.bind_eq_ok.mpr ⟨text, hv.types ▸ htext, rfl⟩⟩
  | _ => exact ⟨_, rfl⟩

/-- A dump says something about every node, and it follows edges only. -/
theorem describe_total (h : u.Sound roots) (hv : u.ShownBy v) {id : NodeId} {node : Node}
    (hid : u.graph.get? id = some node) :
    ∃ head children, v.describe id = .ok (head, children) ∧
      ∀ child ∈ children, child ∈ node.shape.edges := by
  have hget {id : NodeId} {node : Node} (hid : u.graph.get? id = some node) :
      v.graph.get id = .ok node := hv.graph ▸ (Arena.get_eq_ok_iff _ _ _).mpr hid
  have hformat {t : TyId} (ht : u.types.Issued t) : ∃ text, v.types.format t = .ok text :=
    hv.types ▸ TypeStore.format_total h.types ht
  have hedge (e : NodeId) (he : e ∈ node.shape.edges) : u.graph.Issued e :=
    (h.ordered.older hid e he).1
  have htyped := h.typed hid
  obtain ⟨type, htype⟩ : ∃ type, v.typeText node.shape.ownType = .ok type := by
    unfold DumpView.typeText
    split
    · next hissued =>
      refine hformat (h.ownType hid fun target htarget => ?_)
      rw [htarget] at hissued
      cases hissued
    · exact ⟨[], rfl⟩
  unfold DumpView.describe
  simp only [hget hid, htype, Outcome.ok_bind]
  cases hshape : node.shape with
  | block exprs _ => exact ⟨_, _, rfl, fun _ hchild => hchild⟩
  | cast _ sources => exact ⟨_, _, rfl, fun _ hchild => hchild⟩
  | declaration _ _ init => exact ⟨_, _, rfl, fun _ hchild => hchild⟩
  | call operand args _ => exact ⟨_, _, rfl, fun _ hchild => hchild⟩
  | constant _ _ value =>
    rw [hshape] at htyped
    obtain ⟨text, htext⟩ := h.valueText_total hv htyped
    simp only [htext, Outcome.ok_bind]
    exact ⟨_, _, rfl, fun _ hchild => hchild⟩
  | typeLiteral denoted _ =>
    rw [hshape] at htyped
    obtain ⟨text, htext⟩ := hformat htyped.2
    simp only [htext, Outcome.ok_bind]
    exact ⟨_, _, rfl, fun _ hchild => hchild⟩
  | name target =>
    obtain ⟨own, hown, hissued⟩ := h.typeOf ⟨node, hid⟩
    obtain ⟨text, htext⟩ := hformat hissued
    obtain ⟨meant, hmeant⟩ := hedge target (by simp [hshape, Shape.edges])
    simp only [show v.graph.typeOf id = .ok own from hv.graph ▸ hown, htext, hget hmeant,
      Outcome.ok_bind]
    exact ⟨_, _, rfl, by simp⟩
  | member operand index _ =>
    have hoperand := hedge operand (by simp [hshape, Shape.edges])
    obtain ⟨text, htext⟩ := h.memberText_total hv hoperand index
    simp only [htext, Outcome.ok_bind]
    exact ⟨_, _, rfl, fun _ hchild => hchild⟩
  | procedure params returns _ body =>
    rw [hshape] at htyped
    obtain ⟨_, _, _, hbody⟩ := htyped
    obtain ⟨own, hown, hissued⟩ := h.typeOf (hedge body (by simp [hshape, Shape.edges]))
    obtain rfl : own = returns := Except.ok.inj (hown.symm.trans hbody)
    obtain ⟨text, htext⟩ := hformat hissued
    simp only [htext, Outcome.ok_bind]
    exact ⟨_, _, rfl, fun _ hchild => hchild⟩
  | invalid => exact absurd hshape (h.ordered.valid hid)
  | unlisted => exact absurd hshape (h.ordered.listed hid)

theorem dumpWithin_total (h : u.Sound roots) (hv : u.ShownBy v) {steps : Nat} {id : NodeId}
    (hid : u.graph.Issued id) (hsteps : id.index < steps) :
    ∃ d, v.dumpWithin steps id = .ok d := by
  induction steps generalizing id with
  | zero => omega
  | succ steps ih =>
    obtain ⟨node, hnode⟩ := hid
    obtain ⟨head, children, hdescribe, hchildren⟩ := h.describe_total hv hnode
    -- Children are older than their node, so that fewer steps are enough for them.
    have hbelow (child : NodeId) (hchild : child ∈ children) :
        ∃ d, v.dumpWithin steps child = .ok d := by
      obtain ⟨hissued, hlt⟩ := h.ordered.older hnode child (hchildren child hchild)
      exact ih hissued (by omega)
    obtain ⟨below, hmap⟩ := Outcome.mapM_total hbelow
    exact ⟨.node head below, Outcome.bind_eq_ok.mpr
      ⟨(head, children), hdescribe, Outcome.bind_eq_ok.mpr ⟨below, hmap, rfl⟩⟩⟩

private theorem dump_total (h : u.Sound roots) {id : NodeId} (hid : u.graph.Issued id) :
    ∃ d, u.dump id = .ok d :=
  h.dumpWithin_total (shownBy_view u) hid (Nat.lt_succ_self _)

end Sound

end Universe

/-- Whatever a file that is parsed without an error says, binding it in a fresh universe ends with
the block of the file or with an error that a text can cause. Checking the entry afterwards meets
no fault, and the block can be dumped. -/
theorem SourceFile.bind_parsed_faultless (files : FileSet) (f : SourceFile) (log : TraceLog)
    (parent : Nat) (hparsed : f.parse.failed = false) :
    let bound := f.parse.file.bind.exec ⟨(.ofFiles files : Universe FrameTable), log, parent⟩
    let checked := (Entry.check f.id).exec bound.2
    (match bound.1 with
      | .ok root =>
        (∃ span exprs, bound.2.world.graph.get? root =
          some ⟨span, .block exprs (bound.2.world.types.primitive .void)⟩) ∧
        ∃ d, checked.2.world.dump root = .ok d
      | .error (.error e) => e.code ∉ [.unknown, .missingType, .expectDeclaration]
      | .error (.fault _) => False) ∧
    ∀ fault, checked.1 ≠ .error (.fault fault) := by
  intro bound checked
  have hended : SyntaxFile.Ended [] True bound.1 bound.2.world :=
    (f.parse.file.bind_ended (Universe.ofFiles_sound files) fun _ =>
      f.parse_items_complete hparsed).2
  cases hresult : bound.1 with
  | ok root =>
    rw [hresult] at hended
    cases hended with
    | bound hsound hblock =>
      obtain ⟨hgrow, hkept, hfaultless⟩ := Entry.check_faultless f.id hsound
      have hroot := hgrow.graph.issued ⟨_, hblock⟩
      exact ⟨⟨⟨_, _, hblock⟩, hkept.dump_total hroot⟩, hfaultless⟩
  | error failure =>
    rw [hresult] at hended
    cases hended with
    | failed hsound hregular =>
      obtain ⟨-, -, hfaultless⟩ := Entry.check_faultless f.id hsound
      refine ⟨?_, hfaultless⟩
      cases failure with
      | fault _ => cases hregular trivial
      | error e =>
        simpa [BindFailure.isRegular, BindProblem.isRegular, BindError.code] using hregular trivial

/-- A program with a type, a member of a slice and a conversion goes through, entry and dump
included. -/
theorem SourceFile.bind_parsed_faultless_program :
    let f : SourceFile := {
      id := 1
      path := "main.nkl"
      content := "Text :: [^]u8\nmain :: (args: []Text) -> int \x7b\n" ++
        "  n: uint = args.length; int(n)\n\x7d\n" }
    let bound := f.parse.file.bind.exec ⟨(.ofFiles {} : Universe FrameTable), {}, 0⟩
    let checked := (Entry.check f.id).exec bound.2
    f.parse.failed = false ∧ checked.1.isOk = true ∧
      ∃ root d, bound.1 = .ok root ∧ checked.2.world.dump root = .ok d := by
  intro f bound checked
  have hparsed : f.parse.failed = false := by decide +kernel
  have hbound : bound.1.isOk = true := by decide +kernel
  refine ⟨hparsed, by decide +kernel, ?_⟩
  have hresult := (bind_parsed_faultless {} f {} 0 hparsed).1
  cases hroot : bound.1 with
  | error e => simp [hroot, Except.isOk, Except.toBool] at hbound
  | ok root =>
    rw [show (f.parse.file.bind.exec _).1 = _ from hroot] at hresult
    obtain ⟨d, hd⟩ := hresult.2
    exact ⟨root, d, rfl, hd⟩

end Keywordless
