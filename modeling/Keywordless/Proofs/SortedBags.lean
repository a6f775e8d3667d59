import Keywordless.Diagnostic.Bag
import Keywordless.Proofs.Interning
import Mathlib

/-!
# Sorted bags without repetitions

Sorting a bag and then dropping repetitions forgets the order in which the diagnostics were
reported. Sorting puts the worst of several diagnostics with one key first, and dropping
repetitions keeps the first one, so that what stays depends on the diagnostics alone.
-/

namespace Keywordless

namespace Bytes

private theorem append_separator_inj {separator : UInt8} {a b x y : Bytes} (ha : separator ∉ a)
    (hb : separator ∉ b) (h : a ++ separator :: x = b ++ separator :: y) : a = b ∧ x = y := by
  have cut (c z : Bytes) (hc : separator ∉ c) :
      (c ++ separator :: z).takeWhile (· ≠ separator) = c := by
    have hown : ∀ d ∈ c, decide (d ≠ separator) = true := by
      intro d hd
      exact decide_eq_true (ne_of_mem_of_not_mem hd hc)
    rw [List.takeWhile_append_of_pos hown, List.takeWhile_cons_of_neg (by simp), List.append_nil]
  have hab : a = b := by rw [← cut a x ha, ← cut b y hb, h]
  subst hab
  exact ⟨rfl, (List.cons.inj (List.append_cancel_left h)).2⟩

end Bytes

private theorem Span.text_injective {s t : Span} (h : s.text = t.text) : s = t := by
  have colon (n : Nat) : (0x3A : UInt8) ∉ Bytes.ofNat n := Bytes.notMem_ofNat (.inr (by decide)) n
  have dash (n : Nat) : (0x2D : UInt8) ∉ Bytes.ofNat n := Bytes.notMem_ofNat (.inl (by decide)) n
  have parts (u : Span) : u.text =
      Bytes.ofNat u.file ++ 0x3A :: (Bytes.ofNat u.start ++ 0x2D :: Bytes.ofNat u.stop) := by
    have hcolon : Bytes.ofString ":" = [0x3A] := rfl
    have hdash : Bytes.ofString "-" = [0x2D] := rfl
    simp [text, hcolon, hdash]
  rw [parts, parts] at h
  obtain ⟨hfile, hrest⟩ := Bytes.append_separator_inj (colon _) (colon _) h
  obtain ⟨hstart, hstop⟩ := Bytes.append_separator_inj (dash _) (dash _) hrest
  cases s
  cases t
  simp only [Span.mk.injEq]
  exact ⟨Bytes.ofNat_injective hfile, Bytes.ofNat_injective hstart, Bytes.ofNat_injective hstop⟩

private theorem Code.colon_notMem_id (c : Code) : (0x3A : UInt8) ∉ c.id := by
  have digits : (0x3A : UInt8) ∉ Bytes.ofNatPadded 4 c.number := by
    intro h
    obtain hzero | hdigit := List.mem_append.mp h
    · exact absurd (List.eq_of_mem_replicate hzero) (by decide)
    · exact Bytes.notMem_ofNat (.inr (by decide)) _ hdigit
  have tagged (group : String) (hgroup : (0x3A : UInt8) ∉ Bytes.ofString group) :
      (0x3A : UInt8) ∉ Bytes.ofString group ++ Bytes.ofNatPadded 4 c.number := by
    rw [List.mem_append, not_or]
    exact ⟨hgroup, digits⟩
  unfold id
  dsimp only
  split
  · exact tagged "LEX" (by decide)
  · exact tagged "SYN" (by decide)
  · exact tagged "SEM" (by decide)
  · exact tagged "IO" (by decide)
  · decide

/-- What diagnostics are sorted by: file, start and stop of the span, then the severity, the worst
one first, then the code. -/
def Diagnostic.sortKey (d : Diagnostic) : Nat ×ₗ Nat ×ₗ Nat ×ₗ Natᵒᵈ ×ₗ Nat :=
  toLex (d.primary.file, toLex (d.primary.start, toLex (d.primary.stop,
    toLex (OrderDual.toDual d.severity.rank, d.code.number))))

namespace Bag

open Diagnostic (sortKey)

variable {d e : Diagnostic} {l l' : List Diagnostic} {seen : List Bytes}

private theorem key_eq_iff : key d = key e ↔ d.code.id = e.code.id ∧ d.primary = e.primary := by
  have hcolon : Bytes.ofString ":" = [0x3A] := rfl
  constructor
  · intro h
    simp only [key, hcolon, List.append_assoc, List.singleton_append] at h
    obtain ⟨hid, htext⟩ :=
      Bytes.append_separator_inj d.code.colon_notMem_id e.code.colon_notMem_id h
    exact ⟨hid, Span.text_injective htext⟩
  · rintro ⟨hid, hprimary⟩
    rw [key, key, hid, hprimary]

/-! ### Sorting -/

private theorem sortKey_eq_iff :
    sortKey d = sortKey e ↔ d.primary = e.primary ∧ d.severity = e.severity ∧ d.code = e.code := by
  obtain ⟨⟨rank⟩, ⟨number⟩, -, ⟨file, start, stop⟩, -⟩ := d
  obtain ⟨⟨rank'⟩, ⟨number'⟩, -, ⟨file', start', stop'⟩, -⟩ := e
  simp [sortKey, and_assoc]

private theorem precedes_iff : precedes d e = true ↔ sortKey d < sortKey e := by
  have hseverity : d.severity = e.severity ↔ d.severity.rank = e.severity.rank :=
    ⟨congrArg _, fun h => congrArg Severity.mk h⟩
  simp only [sortKey, precedes, Prod.Lex.toLex_lt_toLex, OrderDual.toDual_lt_toDual,
    OrderDual.toDual_inj, ne_eq, hseverity]
  grind

private theorem not_precedes_iff : (!precedes e d) = true ↔ sortKey d ≤ sortKey e := by
  rw [Bool.not_eq_true', ← Bool.not_eq_true, precedes_iff, not_lt]

private theorem sort_perm (b : Bag) : b.sort.items.Perm b.items := List.mergeSort_perm _ _

private theorem sort_sorted (b : Bag) : b.sort.items.Pairwise (sortKey · ≤ sortKey ·) := by
  have htrans (x y z : Diagnostic) :
      (!precedes y x) = true → (!precedes z y) = true → (!precedes z x) = true := by
    simpa only [not_precedes_iff] using le_trans
  have htotal (x y : Diagnostic) : ((!precedes y x) || !precedes x y) = true := by
    simpa only [Bool.or_eq_true, not_precedes_iff] using le_total _ _
  exact (List.pairwise_mergeSort htrans htotal b.items).imp not_precedes_iff.mp

private theorem sort_of_sorted {b : Bag} (h : b.items.Pairwise (sortKey · ≤ sortKey ·)) :
    b.sort = b := by
  have hitems : b.items.mergeSort (fun x y => !precedes y x) = b.items :=
    List.mergeSort_of_pairwise (h.imp not_precedes_iff.mpr)
  rw [sort, hitems]

private theorem sort_sortKey_of_perm {b b' : Bag} (h : b.items.Perm b'.items) :
    b.sort.items.map sortKey = b'.sort.items.map sortKey := by
  have hsorted (c : Bag) : (c.sort.items.map sortKey).Pairwise (· ≤ ·) :=
    List.pairwise_map.mpr c.sort_sorted
  have hperm : b.sort.items.Perm b'.sort.items := (b.sort_perm.trans h).trans b'.sort_perm.symm
  exact (hperm.map sortKey).eq_of_pairwise' (hsorted b) (hsorted b')

/-! ### Dropping repetitions -/

private theorem dedupFrom_sublist (seen : List Bytes) (l : List Diagnostic) :
    (dedupFrom seen l).Sublist l := by
  induction l generalizing seen with
  | nil => exact .slnil
  | cons d l ih =>
    rw [dedupFrom]
    split
    · exact (ih seen).cons d
    · exact (ih (key d :: seen)).cons_cons d

private theorem dedupFrom_keys (seen : List Bytes) (l : List Diagnostic) :
    ((dedupFrom seen l).map key).Nodup ∧ ∀ d ∈ dedupFrom seen l, key d ∉ seen := by
  induction l generalizing seen with
  | nil => simp [dedupFrom]
  | cons d l ih =>
    rw [dedupFrom]
    split
    · exact ih seen
    · next hnew =>
      obtain ⟨hnodup, hunseen⟩ := ih (key d :: seen)
      simp only [List.mem_cons, not_or] at hunseen
      rw [List.map_cons, List.nodup_cons, List.forall_mem_cons]
      refine ⟨⟨fun hmem => ?_, hnodup⟩, by simpa using hnew, fun e he => (hunseen e he).2⟩
      obtain ⟨e, he, hkey⟩ := List.mem_map.mp hmem
      exact (hunseen e he).1 hkey

private theorem dedupFrom_of_keys (hnodup : (l.map key).Nodup) (hunseen : ∀ d ∈ l, key d ∉ seen) :
    dedupFrom seen l = l := by
  induction l generalizing seen with
  | nil => rfl
  | cons d l ih =>
    rw [List.map_cons, List.nodup_cons] at hnodup
    rw [List.forall_mem_cons] at hunseen
    have hrest : ∀ e ∈ l, key e ∉ key d :: seen := by
      intro e he
      rw [List.mem_cons, not_or]
      exact ⟨fun hkey => hnodup.1 (hkey ▸ List.mem_map_of_mem he), hunseen.2 e he⟩
    rw [dedupFrom, if_neg (by simpa using hunseen.1), ih hnodup.2 hrest]

/-- In a sorted list, each key that is new is kept with the diagnostic that comes first. -/
theorem dedupFrom_first (hsorted : l.Pairwise (sortKey · ≤ sortKey ·)) (hd : d ∈ l)
    (hnew : key d ∉ seen) : ∃ e ∈ dedupFrom seen l, key e = key d ∧ sortKey e ≤ sortKey d := by
  induction l generalizing seen with
  | nil => cases hd
  | cons c l ih =>
    obtain ⟨hfirst, hrest⟩ := List.pairwise_cons.mp hsorted
    rw [dedupFrom]
    split
    · next hseen =>
      obtain rfl | hd := List.mem_cons.mp hd
      · exact absurd (List.contains_iff_mem.mp hseen) hnew
      · exact ih hrest hd hnew
    · by_cases hkey : key d = key c
      · have hle : sortKey c ≤ sortKey d := by
          obtain rfl | hd := List.mem_cons.mp hd
          · exact le_rfl
          · exact hfirst d hd
        exact ⟨c, List.mem_cons_self, hkey.symm, hle⟩
      · have hd : d ∈ l := (List.mem_cons.mp hd).resolve_left fun heq => hkey (heq ▸ rfl)
        have hnew : key d ∉ key c :: seen := by simp [hkey, hnew]
        obtain ⟨e, he, hsame⟩ := ih hrest hd hnew
        exact ⟨e, List.mem_cons_of_mem c he, hsame⟩

private theorem key_of_sortKey (h : sortKey d = sortKey e) : key d = key e := by
  obtain ⟨hprimary, -, hcode⟩ := sortKey_eq_iff.mp h
  rw [key, key, hprimary, hcode]

private theorem dedupFrom_sortKey (seen : List Bytes) (h : l.map sortKey = l'.map sortKey) :
    (dedupFrom seen l).map sortKey = (dedupFrom seen l').map sortKey := by
  induction l generalizing l' seen with
  | nil => rw [List.map_eq_nil_iff.mp h.symm]
  | cons d l ih =>
    cases l' with
    | nil => cases h
    | cons e l' =>
      obtain ⟨hhead, hrest⟩ := List.cons.inj h
      simp only [dedupFrom, key_of_sortKey hhead]
      split
      · exact ih seen hrest
      · rw [List.map_cons, List.map_cons, ih _ hrest]
        exact congrArg (· :: _) hhead

/-- Of the diagnostics of a bag, one of the worst is kept for each identifier and span. -/
theorem sort_dedup_worst {b : Bag} (hd : d ∈ b.items) :
    ∃ e ∈ b.sort.dedup.items, e.code.id = d.code.id ∧ e.primary = d.primary ∧
      ∀ other ∈ b.items, other.code.id = d.code.id → other.primary = d.primary →
        other.severity.rank ≤ e.severity.rank := by
  have hnodup := (dedupFrom_keys [] b.sort.items).1
  have first (c : Diagnostic) (hc : c ∈ b.items) : ∃ e ∈ b.sort.dedup.items,
      key e = key c ∧ sortKey e ≤ sortKey c :=
    dedupFrom_first b.sort_sorted (b.sort_perm.mem_iff.mpr hc) List.not_mem_nil
  obtain ⟨e, he, hkey, -⟩ := first d hd
  obtain ⟨hid, hprimary⟩ := key_eq_iff.mp hkey
  refine ⟨e, he, hid, hprimary, fun other hother hid' hprimary' => ?_⟩
  obtain ⟨e', he', hkey', hle⟩ := first other hother
  have hsame : e' = e := by
    apply List.inj_on_of_nodup_map hnodup he' he
    rw [hkey', hkey, key_eq_iff]
    exact ⟨hid', hprimary'⟩
  rw [hsame] at hle
  -- Both have the same span, so that the severity decides.
  simp only [sortKey, hprimary', hprimary, Prod.Lex.toLex_le_toLex, lt_self_iff_false, true_and,
    false_or, OrderDual.toDual_lt_toDual, OrderDual.toDual_inj] at hle
  omega

/-- Sorting and dropping repetitions forgets the order of reporting: bags with the same diagnostics
end with the same spans, severities and codes in the same order. The result is sorted, holds for
each pair of identifier and span that occurs exactly one diagnostic, which is one of the worst, and
no other; sorting it or dropping repetitions again changes nothing. -/
theorem sort_dedup_canonical (b : Bag) :
    let kept := b.sort.dedup
    (∀ b' : Bag, b'.items.Perm b.items →
      b'.sort.dedup.items.map sortKey = kept.items.map sortKey) ∧
    kept.items.Pairwise (sortKey · ≤ sortKey ·) ∧
    kept.items.Subperm b.items ∧
    (kept.items.map fun d => (d.code.id, d.primary)).Nodup ∧
    (∀ d ∈ b.items, ∃ e ∈ kept.items, e.code.id = d.code.id ∧ e.primary = d.primary ∧
      ∀ other ∈ b.items, other.code.id = d.code.id → other.primary = d.primary →
        other.severity.rank ≤ e.severity.rank) ∧
    kept.sort = kept ∧ kept.dedup = kept := by
  intro kept
  have hkeys : (kept.items.map key).Nodup := (dedupFrom_keys [] b.sort.items).1
  have hsublist : kept.items.Sublist b.sort.items := dedupFrom_sublist [] b.sort.items
  have hsorted : kept.items.Pairwise (sortKey · ≤ sortKey ·) := b.sort_sorted.sublist hsublist
  refine ⟨fun b' h => dedupFrom_sortKey [] (sort_sortKey_of_perm h), hsorted,
    hsublist.subperm.trans b.sort_perm.subperm, ?_, fun d hd => sort_dedup_worst hd,
    sort_of_sorted hsorted, ?_⟩
  · refine (List.pairwise_map.mp hkeys).map _ fun d e hne heq => hne ?_
    exact key_eq_iff.mpr (Prod.mk.inj heq)
  · rw [dedup, dedupFrom_of_keys hkeys fun _ _ => List.not_mem_nil]

end Bag

end Keywordless
