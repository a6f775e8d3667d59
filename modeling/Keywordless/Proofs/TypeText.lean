import Keywordless.Proofs.Interning

/-!
# Types are known by their text

The text of a type can be taken off the front of any text in one way only: what it opens with tells
its outermost form, and each component ends where its own text does. Hence two handles of a
canonical store are equal exactly when they are written alike.
-/

namespace Keywordless

private theorem Primitive.mem_all (p : Primitive) : p ∈ Primitive.all := by
  cases p <;> decide

private theorem Primitive.name_mem (p : Primitive) : p.name ∈ Primitive.all.map Primitive.name :=
  List.mem_map_of_mem p.mem_all

private theorem Wrapper.mark_mem (w : Wrapper) :
    w.mark ∈ [Wrapper.slice, .pointer, .multipointer].map Wrapper.mark := by
  cases w <;> simp

namespace TyTerm

def opening : TyTerm → Bytes
  | primitive p => p.name
  | wrapped w _ => w.mark
  | procedure _ _ => "("

def openings : List Bytes :=
  Primitive.all.map Primitive.name ++ [.slice, .pointer, .multipointer].map Wrapper.mark ++
    [Bytes.ofString "("]

private theorem opening_mem (t : TyTerm) : t.opening ∈ openings := by
  cases t with
  | primitive p =>
    exact List.mem_append_left _ (List.mem_append_left _ (List.mem_map_of_mem p.mem_all))
  | wrapped w elem => cases w <;> simp [opening, openings]
  | procedure params result => simp [opening, openings]

/-- No two forms open alike, none opens with what another one opens with, and none opens like the
end of a list of parameters. -/
theorem openings_distinct : openings.Nodup ∧
    (∀ a ∈ openings, ∀ b ∈ openings, a <+: b → a = b) ∧
    ∀ a ∈ openings, a.head? ≠ none ∧ a.head? ≠ some 0x29 := by
  decide +kernel

private theorem openings_apart : ∀ a ∈ openings, ∀ b ∈ openings, a <+: b → a = b :=
  openings_distinct.2.1

end TyTerm

theorem Primitive.name_injective : Function.Injective Primitive.name := by
  intro p q h
  have hwords := (List.nodup_append.mp TyTerm.openings_distinct.1).1
  exact List.inj_on_of_nodup_map (List.nodup_append.mp hwords).1 p.mem_all q.mem_all h

private theorem Wrapper.mark_injective : Function.Injective Wrapper.mark := by
  intro v w h
  have hwords := (List.nodup_append.mp TyTerm.openings_distinct.1).1
  have hmem (w : Wrapper) : w ∈ [Wrapper.slice, .pointer, .multipointer] := by cases w <;> simp
  exact List.inj_on_of_nodup_map (List.nodup_append.mp hwords).2.1 (hmem v) (hmem w) h

namespace TyTerm

private theorem opening_prefix (t : TyTerm) : t.opening <+: t.text := by
  cases t with
  | primitive p => exact List.prefix_rfl
  | wrapped w elem => exact List.prefix_append _ _
  | procedure params result => simp only [opening, text, List.append_assoc, List.prefix_append]

/-- Types that can be taken off one text have the same outermost form. -/
theorem opening_eq {s t : TyTerm} {x y : Bytes} (h : s.text ++ x = t.text ++ y) :
    s.opening = t.opening := by
  have hs : s.opening <+: s.text ++ x := s.opening_prefix.trans (List.prefix_append _ _)
  have ht : t.opening <+: s.text ++ x := h ▸ t.opening_prefix.trans (List.prefix_append _ _)
  rcases List.prefix_or_prefix_of_prefix hs ht with hst | hts
  · exact openings_apart _ s.opening_mem _ t.opening_mem hst
  · exact (openings_apart _ t.opening_mem _ s.opening_mem hts).symm

private theorem name_ne_mark (p : Primitive) (w : Wrapper) : p.name ≠ w.mark := by
  have hwords := (List.nodup_append.mp openings_distinct.1).1
  exact (List.nodup_append.mp hwords).2.2 _ p.name_mem _ w.mark_mem

private theorem name_ne_paren (p : Primitive) : p.name ≠ "(" :=
  (List.nodup_append.mp openings_distinct.1).2.2 _ (List.mem_append_left _ p.name_mem) _
    (List.mem_singleton_self _)

private theorem mark_ne_paren (w : Wrapper) : w.mark ≠ "(" :=
  (List.nodup_append.mp openings_distinct.1).2.2 _ (List.mem_append_right _ w.mark_mem) _
    (List.mem_singleton_self _)

private theorem text_ne_closing (t : TyTerm) (x y : Bytes) : t.text ++ x ≠ ") -> " ++ y := by
  obtain ⟨hsome, hne⟩ := openings_distinct.2.2 _ t.opening_mem
  obtain ⟨rest, hrest⟩ := t.opening_prefix
  intro h
  have hhead : (t.opening ++ (rest ++ x)).head? = some 0x29 := by
    rw [← List.append_assoc, hrest, h]
    rfl
  rw [List.head?_append] at hhead
  cases hopening : t.opening.head? with
  | none => exact hsome hopening
  | some b => exact hne (by simpa [hopening] using hhead)

def paramsRest : List TyTerm → Bytes
  | [] => ") -> "
  | t :: rest => ", " ++ (t.text ++ paramsRest rest)

private theorem join_texts (t : TyTerm) (rest : List TyTerm) :
    Bytes.join ", " (texts (t :: rest)) ++ ") -> " = t.text ++ paramsRest rest := by
  induction rest generalizing t with
  | nil => simp [texts, paramsRest, Bytes.join]
  | cons u rest ih =>
    rw [paramsRest, ← ih u]
    simp [texts, Bytes.join, List.intercalate]

private theorem text_procedure_nil (result : TyTerm) (x : Bytes) :
    (procedure [] result).text ++ x = "(" ++ (") -> " ++ (result.text ++ x)) := by
  simp [text, texts, Bytes.join]

private theorem text_procedure_cons (t : TyTerm) (rest : List TyTerm) (result : TyTerm)
    (x : Bytes) : (procedure (t :: rest) result).text ++ x =
      "(" ++ (t.text ++ (paramsRest rest ++ (result.text ++ x))) := by
  rw [← List.append_assoc t.text, ← join_texts]
  simp [text]

mutual

/-- The text of a type can be taken off a text in one way only. -/
theorem text_append_inj : ∀ {s t : TyTerm} {x y : Bytes}, s.text ++ x = t.text ++ y → s = t ∧ x = y
  | primitive p, primitive q, x, y, h => by
    obtain rfl := Primitive.name_injective (opening_eq h)
    exact ⟨rfl, List.append_cancel_left h⟩
  | wrapped v s, wrapped w t, x, y, h => by
    obtain rfl := Wrapper.mark_injective (opening_eq h)
    have helem : s.text ++ x = t.text ++ y := by simpa [text] using h
    obtain ⟨rfl, rfl⟩ := text_append_inj helem
    exact ⟨rfl, rfl⟩
  | procedure [] s, procedure [] t, x, y, h => by
    rw [text_procedure_nil, text_procedure_nil] at h
    obtain ⟨rfl, rfl⟩ := text_append_inj (List.append_cancel_left (List.append_cancel_left h))
    exact ⟨rfl, rfl⟩
  | procedure [] s, procedure (u :: _) t, x, y, h => by
    rw [text_procedure_nil, text_procedure_cons] at h
    exact absurd (List.append_cancel_left h).symm (text_ne_closing _ _ _)
  | procedure (u :: _) s, procedure [] t, x, y, h => by
    rw [text_procedure_nil, text_procedure_cons] at h
    exact absurd (List.append_cancel_left h) (text_ne_closing _ _ _)
  | procedure (p :: ps) s, procedure (q :: qs) t, x, y, h => by
    rw [text_procedure_cons, text_procedure_cons] at h
    obtain ⟨rfl, hrest⟩ := text_append_inj (List.append_cancel_left h)
    obtain ⟨rfl, hresult⟩ := paramsRest_append_inj hrest
    obtain ⟨rfl, rfl⟩ := text_append_inj hresult
    exact ⟨rfl, rfl⟩
  | primitive p, wrapped w _, x, y, h => absurd (opening_eq h) (name_ne_mark p w)
  | wrapped w _, primitive p, x, y, h => absurd (opening_eq h).symm (name_ne_mark p w)
  | primitive p, procedure _ _, x, y, h => absurd (opening_eq h) (name_ne_paren p)
  | procedure _ _, primitive p, x, y, h => absurd (opening_eq h).symm (name_ne_paren p)
  | wrapped w _, procedure _ _, x, y, h => absurd (opening_eq h) (mark_ne_paren w)
  | procedure _ _, wrapped w _, x, y, h => absurd (opening_eq h).symm (mark_ne_paren w)

private theorem paramsRest_append_inj : ∀ {ss ts : List TyTerm} {x y : Bytes},
    paramsRest ss ++ x = paramsRest ts ++ y → ss = ts ∧ x = y
  | [], [], x, y, h => ⟨rfl, List.append_cancel_left h⟩
  | [], t :: ts, x, y, h => by
    cases h
  | s :: ss, [], x, y, h => by
    cases h
  | s :: ss, t :: ts, x, y, h => by
    have hfirst : s.text ++ (paramsRest ss ++ x) = t.text ++ (paramsRest ts ++ y) := by
      simpa [paramsRest] using h
    obtain ⟨rfl, hrest⟩ := text_append_inj hfirst
    obtain ⟨rfl, rfl⟩ := paramsRest_append_inj hrest
    exact ⟨rfl, rfl⟩

end

end TyTerm

namespace TypeStore

theorem format_of_unfold {s : TypeStore} {id : TyId} {t : TyTerm} (hid : s.Issued id)
    (h : s.unfold id = .ok t) : s.format id = .ok t.text := by
  have hissued : id.isIssued = true := by
    obtain ⟨-, hpos, -⟩ := (Arena.issued_iff _ _).mp hid
    simpa [Handle.isIssued] using hpos.ne'
  rw [format, if_pos hissued, h]
  rfl

/-- Handles of a canonical store are equal exactly when they are written alike. -/
theorem Canonical.format_eq_iff {s : TypeStore} (h : s.Canonical) {a b : TyId} (ha : s.Issued a)
    (hb : s.Issued b) : s.format a = s.format b ↔ a = b := by
  constructor
  · intro htext
    obtain ⟨ta, hta⟩ := unfold_total h ha
    obtain ⟨tb, htb⟩ := unfold_total h hb
    rw [format_of_unfold ha hta, format_of_unfold hb htb] at htext
    have happend : ta.text ++ [] = tb.text ++ [] := congrArg (· ++ []) (Except.ok.inj htext)
    exact (unfold_eq_iff h hta htb).mpr (TyTerm.text_append_inj happend).1
  · rintro rfl
    rfl

end TypeStore

end Keywordless
