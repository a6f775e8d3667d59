import Keywordless.Proofs.WholeTrees
import Keywordless.Syntax.Outline

/-!
# Paths in parsed trees

A path leads from the top of a file to a node. In a tree whose nodes have different numbers no two
paths lead to the same node, and every number is found at the end of a path.
-/

namespace Keywordless

namespace Expr

/-- The node at the end of a path. A path says, at every node on the way, which field to take. -/
def follow (e : Expr) : List Nat → Option Expr
  | [] => if e.isAbsent then none else some e
  | i :: path => e.fields[i]?.bind fun part => part.follow path

def innerNumbers : Expr → List Nat
  | absent => []
  | node h type value body list => (parts h.kind type value body list).flatMap numbers

/-- Nothing stands in the fields that the source order of a kind leaves out. -/
def LeavesOutAbsent (kind : ExprKind) (value body : Expr) (list : List Expr) : Prop :=
  match kind with
  | .arrayType | .constant | .declaration => body = absent ∧ list = []
  | .procedure | .procedureType => value = absent
  | _ => True

variable {tokens : List Token} {e x part : Expr} {path : List Nat} {i : Nat}

private theorem numbers_eq (h : e.isAbsent = false) :
    e.numbers = e.innerNumbers ++ [e.head.index] := by
  cases e with
  | absent => cases h
  | node head type value body list =>
    rw [numbers, numbersAll_eq, arranged_flatMap]
    rfl

private theorem index_mem_numbers (h : e.isAbsent = false) : e.head.index ∈ e.numbers := by
  simp [numbers_eq h]

private theorem follow_absent (path : List Nat) : absent.follow path = none := by
  cases path <;> rfl

private theorem follow_nil (h : e.isAbsent = false) : e.follow [] = some e := by
  simp [follow, h]

private theorem follow_cons (h : e.follow (i :: path) = some x) :
    ∃ part, e.fields[i]? = some part ∧ part.isAbsent = false ∧ part.follow path = some x := by
  obtain ⟨part, hpart, hx⟩ := Option.bind_eq_some_iff.mp h
  cases part with
  | absent => simp [follow_absent] at hx
  | node head type value body list => exact ⟨_, hpart, rfl, hx⟩

namespace Documented

private theorem leavesOutAbsent {h : ExprHead} {type value body : Expr} {list : List Expr}
    (hdocumented : (node h type value body list).Documented tokens) :
    LeavesOutAbsent h.kind value body list := by
  cases hdocumented with
  | wrapperType hkind =>
    simp only [List.mem_cons, List.not_mem_nil, or_false] at hkind
    rcases hkind with hkind | hkind | hkind <;> simp [LeavesOutAbsent, hkind]
  | _ => simp [LeavesOutAbsent, *]

private theorem innerNumbers_perm (h : e.Documented tokens) :
    e.innerNumbers.Perm (e.fields.flatMap numbers) := by
  cases e with
  | absent => exact .refl _
  | node head type value body list =>
    have hleft := h.leavesOutAbsent
    rw [List.perm_iff_count]
    intro number
    simp only [innerNumbers, fields]
    cases hkind : head.kind <;> simp only [hkind, LeavesOutAbsent] at hleft <;>
      simp [hleft, parts, arranged, numbers] <;> omega

private theorem field_sublist (h : e.Documented tokens) (hpart : part ∈ e.fields) :
    part.numbers.Sublist e.innerNumbers := by
  cases e with
  | absent => cases hpart
  | node head type value body list =>
    have hleft := h.leavesOutAbsent
    by_cases hmem : part ∈ parts head.kind type value body list
    · exact List.sublist_flatten_of_mem (List.mem_map_of_mem hmem)
    · have habsent : part = absent := by
        simp only [fields] at hpart
        cases hkind : head.kind <;> simp only [hkind, LeavesOutAbsent] at hleft <;>
          simp [hkind, hleft, parts, arranged] at hpart hmem <;> tauto
      rw [habsent]
      exact List.nil_sublist _

private theorem follow (h : e.Documented tokens) (hx : e.follow path = some x) :
    x.Documented tokens ∧ x.numbers.Sublist e.numbers := by
  induction path generalizing e with
  | nil =>
    rw [follow_nil h.present] at hx
    obtain rfl := Option.some.inj hx
    exact ⟨h, List.Sublist.refl _⟩
  | cons i path ih =>
    obtain ⟨part, hpart, hthere, hx⟩ := follow_cons hx
    have hmem := List.mem_of_getElem? hpart
    obtain ⟨hdocumented, hsublist⟩ := ih (h.field hmem hthere) hx
    refine ⟨hdocumented, (hsublist.trans (h.field_sublist hmem)).trans ?_⟩
    rw [numbers_eq h.present]
    exact List.sublist_append_left _ _

private theorem index_mem_of_follow (h : e.Documented tokens) (hx : e.follow path = some x) :
    x.head.index ∈ e.numbers := by
  obtain ⟨hdocumented, hsublist⟩ := h.follow hx
  exact hsublist.subset (index_mem_numbers hdocumented.present)

private theorem index_ne_of_follow_cons (h : e.Documented tokens) (hnodup : e.numbers.Nodup)
    (hx : e.follow (i :: path) = some x) : x.head.index ≠ e.head.index := by
  obtain ⟨part, hpart, hthere, hx⟩ := follow_cons hx
  have hmem := List.mem_of_getElem? hpart
  have hinner := (h.field_sublist hmem).subset ((h.field hmem hthere).index_mem_of_follow hx)
  rw [numbers_eq h.present, List.nodup_append] at hnodup
  exact hnodup.2.2 _ hinner _ (by simp)

end Documented

private theorem index_unique {list : List Expr} (hnodup : (list.flatMap numbers).Nodup)
    {i j number : Nat}
    {d : Expr} (hi : list[i]? = some e) (hj : list[j]? = some d) (he : number ∈ e.numbers)
    (hd : number ∈ d.numbers) : i = j := by
  obtain ⟨hilt, rfl⟩ := List.getElem?_eq_some_iff.mp hi
  obtain ⟨hjlt, rfl⟩ := List.getElem?_eq_some_iff.mp hj
  obtain ⟨-, hdisjoint⟩ := List.nodup_flatMap.mp hnodup
  rw [List.pairwise_iff_getElem] at hdisjoint
  rcases Nat.lt_trichotomy i j with hlt | heq | hlt
  · exact absurd hd (hdisjoint i j hilt hjlt hlt he)
  · exact heq
  · exact absurd he (hdisjoint j i hjlt hilt hlt hd)

/-- Two paths lead to nodes with different numbers. -/
theorem Documented.follow_unique (h : e.Documented tokens) (hnodup : e.numbers.Nodup)
    {path' : List Nat} {y : Expr} (hx : e.follow path = some x) (hy : e.follow path' = some y)
    (hindex : x.head.index = y.head.index) : path = path' := by
  induction path generalizing e path' with
  | nil =>
    rw [follow_nil h.present] at hx
    obtain rfl := Option.some.inj hx
    cases path' with
    | nil => rfl
    | cons j path' => exact absurd hindex.symm (h.index_ne_of_follow_cons hnodup hy)
  | cons i path ih =>
    cases path' with
    | nil =>
      rw [follow_nil h.present] at hy
      obtain rfl := Option.some.inj hy
      exact absurd hindex (h.index_ne_of_follow_cons hnodup hx)
    | cons j path' =>
      obtain ⟨part, hpart, hthere, hx⟩ := follow_cons hx
      obtain ⟨part', hpart', hthere', hy⟩ := follow_cons hy
      have hmem := List.mem_of_getElem? hpart
      have hmem' := List.mem_of_getElem? hpart'
      rw [numbers_eq h.present] at hnodup
      have hinner := hnodup.sublist (List.sublist_append_left _ _)
      have hfirst := (h.field hmem hthere).index_mem_of_follow hx
      have hsecond := (h.field hmem' hthere').index_mem_of_follow hy
      rw [← hindex] at hsecond
      obtain rfl :=
        index_unique (h.innerNumbers_perm.nodup_iff.mp hinner) hpart hpart' hfirst hsecond
      obtain rfl := Option.some.inj (hpart.symm.trans hpart')
      rw [ih (h.field hmem hthere) (hinner.sublist (h.field_sublist hmem)) hx hy]

/-- Every number is found at the end of a path. -/
theorem exists_follow {number : Nat} : (e : Expr) → number ∈ e.numbers →
    ∃ path x, e.follow path = some x ∧ x.head.index = number
  | absent, h => by cases h
  | node head type value body list, h => by
    rw [numbers_eq rfl, List.mem_append, List.mem_singleton] at h
    rcases h with hinner | rfl
    · obtain ⟨part, hpart, hnumber⟩ := List.mem_flatMap.mp hinner
      have hfield : part ∈ type :: value :: body :: list := mem_parts hpart
      obtain ⟨i, hi⟩ := List.getElem?_of_mem hfield
      obtain ⟨path, x, hx, hindex⟩ := exists_follow part hnumber
      exact ⟨i :: path, x, by rw [follow, fields, hi]; exact hx, hindex⟩
    · exact ⟨[], _, follow_nil rfl, rfl⟩
termination_by e => sizeOf e
decreasing_by
  simp only [List.mem_cons] at hfield
  simp only [node.sizeOf_spec]
  rcases hfield with rfl | rfl | rfl | hmem
  case inr.inr.inr =>
    have := List.sizeOf_lt_of_mem hmem
    omega
  all_goals omega

private theorem arranged_length {α β : Type} (kind : ExprKind) {type value body list : List α}
    {type' value' body' list' : List β} (htype : type.length = type'.length)
    (hvalue : value.length = value'.length) (hbody : body.length = body'.length)
    (hlist : list.length = list'.length) :
    (arranged kind type value body list).length =
      (arranged kind type' value' body' list').length := by
  cases kind <;> simp [arranged, htype, hvalue, hbody, hlist]

mutual

private theorem numbers_length (depth : Nat) :
    (e : Expr) → e.numbers.length = (collect (fun h _ => [h]) depth e).length
  | absent => rfl
  | node h type value body list => by
    simp only [numbers, collect, List.length_append, List.length_singleton]
    rw [arranged_length h.kind (numbers_length (depth + 1) type)
      (numbers_length (depth + 1) value) (numbers_length (depth + 1) body)
      (numbersAll_length (depth + 1) list)]
    omega

private theorem numbersAll_length (depth : Nat) :
    (list : List Expr) → (numbersAll list).length = (collectAll (fun h _ => [h]) depth list).length
  | [] => rfl
  | e :: rest => by
    simp only [numbersAll, collectAll, List.length_append, numbers_length depth e,
      numbersAll_length depth rest]

end

end Expr

def SyntaxFile.follow (f : SyntaxFile) : List Nat → Option Expr
  | [] => none
  | i :: path => f.items[i]?.bind fun e => e.follow path

/-- A file that is parsed without an error has a proper tree. Exactly one path leads to each
expression that was built, and there are no other nodes. So as many were built as an outline lists.
Each node has the parts that its kind documents, all of them older than the node. -/
theorem SourceFile.parse_proper (f : SourceFile) (hparsed : f.parse.failed = false) :
    (∀ number, 1 ≤ number → number ≤ f.parse.made →
      ∃! path, ∃ x, f.parse.file.follow path = some x ∧ x.head.index = number) ∧
    (∀ path x, f.parse.file.follow path = some x →
      1 ≤ x.head.index ∧ x.head.index ≤ f.parse.made ∧ x.Documented f.tokens ∧
        ∀ part ∈ x.fields, part.isAbsent = false → part.head.index < x.head.index) ∧
    f.parse.made = f.parse.file.nodeCount := by
  obtain ⟨⟨-, hnumbers⟩, hdocumented⟩ := f.parse_counted hparsed
  have hsorted : (f.parse.file.items.flatMap Expr.numbers).Pairwise (· < ·) :=
    hnumbers ▸ List.Ico.pairwise_lt _ _
  have hnodup : (f.parse.file.items.flatMap Expr.numbers).Nodup := hnumbers ▸ List.Ico.nodup _ _
  have hfollow {path : List Nat} {x : Expr} (hx : f.parse.file.follow path = some x) :
      ∃ i rest e, path = i :: rest ∧ f.parse.file.items[i]? = some e ∧ e.Documented f.tokens ∧
        e.follow rest = some x := by
    cases path with
    | nil => cases hx
    | cons i rest =>
      obtain ⟨e, he, hx⟩ := Option.bind_eq_some_iff.mp hx
      exact ⟨i, rest, e, rfl, he, hdocumented e (List.mem_of_getElem? he), hx⟩
  have hwithin {i : Nat} {e : Expr} (he : f.parse.file.items[i]? = some e) :
      e.numbers.Sublist (f.parse.file.items.flatMap Expr.numbers) :=
    List.sublist_flatten_of_mem (List.mem_map_of_mem (List.mem_of_getElem? he))
  refine ⟨fun number hpos hle => ?_, fun path x hx => ?_, ?_⟩
  · have hmem : number ∈ f.parse.file.items.flatMap Expr.numbers := by
      rw [hnumbers, List.Ico.mem]
      omega
    obtain ⟨e, he, hnumber⟩ := List.mem_flatMap.mp hmem
    obtain ⟨i, hi⟩ := List.getElem?_of_mem he
    obtain ⟨rest, x, hx, hindex⟩ := e.exists_follow hnumber
    refine ⟨i :: rest, ⟨x, by rw [SyntaxFile.follow, hi]; exact hx, hindex⟩, ?_⟩
    rintro path' ⟨y, hy, hindex'⟩
    obtain ⟨j, rest', d, rfl, hj, hd, hy⟩ := hfollow hy
    have hsecond := hd.index_mem_of_follow hy
    rw [hindex'] at hsecond
    obtain rfl := Expr.index_unique hnodup hi hj hnumber hsecond
    obtain rfl := Option.some.inj (hi.symm.trans hj)
    rw [hd.follow_unique (hnodup.sublist (hwithin hj)) hy hx (hindex'.trans hindex.symm)]
  · obtain ⟨i, rest, e, -, hi, he, hx⟩ := hfollow hx
    obtain ⟨hx', hsublist⟩ := he.follow hx
    have hrow := hsublist.trans (hwithin hi)
    have hmem := hrow.subset (Expr.index_mem_numbers hx'.present)
    rw [hnumbers, List.Ico.mem] at hmem
    refine ⟨by omega, by omega, hx', fun part hpart hthere => ?_⟩
    have hordered := hsorted.sublist hrow
    rw [Expr.numbers_eq hx'.present, List.pairwise_append] at hordered
    have hinner := (hx'.field_sublist hpart).subset (Expr.index_mem_numbers hthere)
    exact hordered.2.2 _ hinner _ (by simp)
  · rw [SyntaxFile.nodeCount, ← Expr.numbersAll_length, Expr.numbersAll_eq, hnumbers]
    simp

private def callingFile : SourceFile :=
  { id := 0, path := "a.nkl"
    content := "f :: (x: (a: ^int)) -> []u8 { g(x, 1).data }\ny := [2]f" }

theorem SourceFile.parse_proper_calling :
    (callingFile.parse.failed = false ∧ callingFile.parse.made = 19) ∧
      (∃! path, ∃ x, callingFile.parse.file.follow path = some x ∧ x.head.index = 11) ∧
      callingFile.parse.file.nodeCount = 19 := by
  have hparsed : callingFile.parse.failed = false ∧ callingFile.parse.made = 19 := by
    decide +kernel
  obtain ⟨hpaths, -, hcount⟩ := callingFile.parse_proper hparsed.1
  rw [hparsed.2] at hpaths hcount
  exact ⟨hparsed, hpaths 11 (by decide) (by decide), hcount.symm⟩

end Keywordless
