import Keywordless.Proofs.Arena
import Keywordless.Proofs.Outcome
import Keywordless.Ty.Store

/-!
# Interning is canonical

A type store holds each type once. The store and its four tables are tied together by
`TypeStore.Canonical`, which every request keeps, refused ones included. From it follows that two
handles are equal exactly when the terms they stand for are.
-/

namespace Keywordless

namespace Bytes

private theorem digitByte_toNat {c : Char} (h : c.isDigit) :
    (c.toNat.toUInt8).toNat = c.toNat ∧ 0x30 ≤ c.toNat ∧ c.toNat ≤ 0x39 := by
  have hlow : 0x30 ≤ c.toNat := (Char.isDigit_iff_toNat.mp h).1
  have hhigh : c.toNat ≤ 0x39 := (Char.isDigit_iff_toNat.mp h).2
  refine ⟨?_, hlow, hhigh⟩
  rw [Nat.toUInt8_eq, UInt8.toNat_ofNat', Nat.mod_eq_of_lt (by omega)]

private theorem ofNat_ne_nil (n : Nat) : ofNat n ≠ [] := by
  simp [ofNat, Nat.toDigits_ne_nil]

private theorem toNat_of_mem_ofNat {n : Nat} {b : UInt8} (h : b ∈ ofNat n) :
    0x30 ≤ b.toNat ∧ b.toNat ≤ 0x39 := by
  obtain ⟨c, hc, rfl⟩ := List.mem_map.mp h
  obtain ⟨hval, hlow, hhigh⟩ :=
    digitByte_toNat (Nat.isDigit_of_mem_toDigits (by omega) (by omega) hc)
  rw [hval]
  exact ⟨hlow, hhigh⟩

theorem notMem_ofNat {b : UInt8} (h : b.toNat < 0x30 ∨ 0x39 < b.toNat) (n : Nat) : b ∉ ofNat n := by
  intro hmem
  have hdigit := toNat_of_mem_ofNat hmem
  omega

theorem ofNat_injective : Function.Injective ofNat := by
  intro m n h
  have back (k : Nat) : (ofNat k).map (fun b => Char.ofNat b.toNat) = Nat.toDigits 10 k := by
    rw [ofNat, List.map_map]
    conv_rhs => rw [← List.map_id (Nat.toDigits 10 k)]
    apply List.map_congr_left
    intro c hc
    obtain ⟨hval, -, -⟩ := digitByte_toNat (Nat.isDigit_of_mem_toDigits (by omega) (by omega) hc)
    simp only [Function.comp_apply, hval, id_eq, Char.ofNat_toNat]
  rw [← Nat.ofDigitChars_ten_toDigits (n := m), ← Nat.ofDigitChars_ten_toDigits (n := n),
    ← back m, ← back n, h]

end Bytes

namespace TypeStore

private theorem paramsText_eq_nil_iff (params : List TyId) :
    paramsText params = [] ↔ params = [] := by
  cases params with
  | nil => simp [paramsText, Bytes.join]
  | cons p rest =>
    have hp := Bytes.ofNat_ne_nil p.index
    cases rest with
    | nil => simp [paramsText, Bytes.join, hp]
    | cons q rest => simp [paramsText, Bytes.join, hp]

/-- The text of parameters tells their positions: no position is empty or has a comma in it. -/
theorem paramsText_indices {ps qs : List TyId} (h : paramsText ps = paramsText qs) :
    ps.map (·.index) = qs.map (·.index) := by
  by_cases hnil : ps = []
  · subst hnil
    have hq : qs = [] := (paramsText_eq_nil_iff qs).mp (h ▸ (paramsText_eq_nil_iff []).mpr rfl)
    rw [hq]
  · have hnil' : qs ≠ [] := by
      rintro rfl
      exact hnil ((paramsText_eq_nil_iff ps).mp (h ▸ (paramsText_eq_nil_iff []).mpr rfl))
    have pieces (rs : List TyId) (hr : rs ≠ []) :
        (paramsText rs).splitOn 0x2C = rs.map fun p => Bytes.ofNat p.index := by
      apply List.splitOn_intercalate
      · intro piece hpiece
        obtain ⟨p, -, rfl⟩ := List.mem_map.mp hpiece
        exact Bytes.notMem_ofNat (.inl (by decide)) p.index
      · simpa using hr
    have hpieces : ps.map (fun p => Bytes.ofNat p.index) = qs.map fun p => Bytes.ofNat p.index := by
      rw [← pieces ps hnil, ← pieces qs hnil', h]
    apply List.map_injective_iff.mpr Bytes.ofNat_injective
    simpa only [List.map_map, Function.comp_def] using hpieces

private theorem paramsText_inj {s : TypeStore} {ps qs : List TyId} (hps : ∀ p ∈ ps, s.Issued p)
    (hqs : ∀ q ∈ qs, s.Issued q) (htext : paramsText ps = paramsText qs) : ps = qs := by
  have place (rs : List TyId) (hrs : ∀ r ∈ rs, s.Issued r) :
      rs = (rs.map (·.index)).map fun index => ⟨s.tag, index⟩ := by
    rw [List.map_map]
    conv_lhs => rw [← List.map_id rs]
    apply List.map_congr_left
    intro r hr
    have htag := ((Arena.issued_iff _ _).mp (hrs r hr)).1
    simp only [id_eq, Function.comp_apply, ← htag]
  rw [place ps hps, place qs hqs, paramsText_indices htext]

end TypeStore

def Ty.components : Ty → List TyId
  | primitive _ => []
  | wrapped _ elem => [elem]
  | procedure params result => params ++ [result]

namespace TypeStore

def signature? (s : TypeStore) (key : Bytes) (result : TyId) : Option TyId :=
  (s.procedures.lookup key).bind fun table => table.lookup result

/-- The store holds each primitive type at its place and no type before its components, and the
tables hold exactly the compound types of the store. -/
structure Canonical (s : TypeStore) : Prop where
  primitive_iff : ∀ id p, s.get? id = some (.primitive p) ↔ id = s.primitive p
  components_older : ∀ {id t}, s.get? id = some t →
    ∀ c ∈ t.components, s.Issued c ∧ c.index < id.index
  wrapped_iff : ∀ w elem id,
    (s.wrapped w).lookup elem = some id ↔ s.get? id = some (.wrapped w elem)
  signature_sound : ∀ {key result id}, s.signature? key result = some id →
    ∃ params, key = paramsText params ∧ s.get? id = some (.procedure params result)
  signature_complete : ∀ {params result id}, s.get? id = some (.procedure params result) →
    s.signature? (paramsText params) result = some id

private theorem get?_seeded {tag : Nat} {id : TyId} {t : Ty}
    (h : (seeded tag).get? id = some t) : ∃ p, t = .primitive p ∧ id = ⟨tag, p.place⟩ := by
  obtain ⟨arena, index⟩ := id
  obtain ⟨htag, hpos, hget⟩ := (Arena.get?_eq_some_iff _ _ _).mp h
  have harena : arena = tag := htag
  subst harena
  match index, hpos, hget with
  | 1, _, hget => exact ⟨.type, (Option.some.inj hget).symm, rfl⟩
  | 2, _, hget => exact ⟨.void, (Option.some.inj hget).symm, rfl⟩
  | 3, _, hget => exact ⟨.int, (Option.some.inj hget).symm, rfl⟩
  | 4, _, hget => exact ⟨.uint, (Option.some.inj hget).symm, rfl⟩
  | 5, _, hget => exact ⟨.u8, (Option.some.inj hget).symm, rfl⟩
  | n + 6, _, hget => simp [seeded, Primitive.all] at hget

theorem seeded_canonical (tag : Nat) : (seeded tag).Canonical where
  primitive_iff := by
    intro id p
    constructor
    · intro h
      obtain ⟨q, hq, hid⟩ := get?_seeded h
      obtain rfl := Ty.primitive.inj hq
      exact hid
    · rintro rfl
      cases p <;> simp [Arena.get?, seeded, primitive, Primitive.place, Primitive.all]
  components_older := by
    intro id t h c hc
    obtain ⟨p, rfl, -⟩ := get?_seeded h
    simp [Ty.components] at hc
  wrapped_iff := by
    intro w elem id
    constructor
    · intro h
      cases w <;> simp [seeded, wrapped] at h
    · intro h
      obtain ⟨p, hp, -⟩ := get?_seeded h
      cases hp
  signature_sound := by
    intro key result id h
    simp [signature?, seeded] at h
  signature_complete := by
    intro params result id h
    obtain ⟨p, hp, -⟩ := get?_seeded h
    cases hp

namespace Canonical

variable {s : TypeStore}

theorem get?_primitive (h : s.Canonical) (p : Primitive) :
    s.get? (s.primitive p) = some (.primitive p) := (h.primitive_iff _ p).mpr rfl

/-- A type has one handle. -/
theorem handle_unique (h : s.Canonical) {a b : TyId} {t : Ty} (ha : s.get? a = some t)
    (hb : s.get? b = some t) : a = b := by
  cases t with
  | primitive p => rw [(h.primitive_iff a p).mp ha, (h.primitive_iff b p).mp hb]
  | wrapped w elem =>
    have hla := (h.wrapped_iff w elem a).mpr ha
    have hlb := (h.wrapped_iff w elem b).mpr hb
    exact Option.some.inj (hla.symm.trans hlb)
  | procedure params result =>
    exact Option.some.inj ((h.signature_complete ha).symm.trans (h.signature_complete hb))

end Canonical

def nextHandle (s : TypeStore) : TyId := ⟨s.tag, s.size + 1⟩

/-- The store `s'` is `s` with one new compound type, which is entered in its table. -/
structure Grown (s : TypeStore) (t : Ty) (s' : TypeStore) : Prop where
  compound : ∀ p, t ≠ .primitive p
  components : ∀ c ∈ t.components, s.Issued c
  new : ∀ id, s.get? id ≠ some t
  arena : s'.toArena = (s.toArena.insert t).2
  wrapped : ∀ w elem, (s'.wrapped w).lookup elem =
    if t = .wrapped w elem then some s.nextHandle else (s.wrapped w).lookup elem
  signature : ∀ {params result}, t = .procedure params result →
    s'.signature? (paramsText params) result = some s.nextHandle
  others : ∀ {key result}, (∀ params, t = .procedure params result → key ≠ paramsText params) →
    s'.signature? key result = s.signature? key result

namespace Grown

variable {s s' : TypeStore} {t u : Ty} {id : TyId}

private theorem get?_iff (hg : Grown s t s') :
    s'.get? id = some u ↔ id = s.nextHandle ∧ u = t ∨ s.get? id = some u := by
  rw [hg.arena]
  constructor
  · exact Arena.get?_insert_cases
  · rintro (⟨rfl, rfl⟩ | hold)
    · exact Arena.get?_insert_self s.toArena u
    · exact (Arena.insert_extends s.toArena t).kept hold

private theorem get?_new_iff (hg : Grown s t s') :
    s'.get? id = some t ↔ some s.nextHandle = some id := by
  simp [hg.get?_iff, hg.new id, eq_comm]

private theorem get?_other_iff (hg : Grown s t s') (hu : t ≠ u) :
    s'.get? id = some u ↔ s.get? id = some u := by
  simp [hg.get?_iff, hu.symm]

private theorem components_older (hg : Grown s t s') (h : s.Canonical) (hid : s'.get? id = some u) :
    ∀ c ∈ u.components, s'.Issued c ∧ c.index < id.index := by
  have hgrow : s.toArena.Extends s'.toArena := hg.arena ▸ Arena.insert_extends s.toArena t
  intro c hc
  obtain ⟨rfl, rfl⟩ | hold := hg.get?_iff.mp hid
  · have hissued := hg.components c hc
    exact ⟨hgrow.issued hissued, Arena.issued_lt_insert hissued u⟩
  · obtain ⟨hissued, hlt⟩ := h.components_older hold c hc
    exact ⟨hgrow.issued hissued, hlt⟩

private theorem wrapped_iff (hg : Grown s t s') (h : s.Canonical) (w : Wrapper) (elem : TyId) :
    (s'.wrapped w).lookup elem = some id ↔ s'.get? id = some (.wrapped w elem) := by
  rw [hg.wrapped]
  by_cases ht : t = .wrapped w elem
  · rw [if_pos ht, ← ht, hg.get?_new_iff]
  · rw [if_neg ht, hg.get?_other_iff ht, h.wrapped_iff]

private theorem signature_sound (hg : Grown s t s') (h : s.Canonical) {key : Bytes} {result : TyId}
    (hid : s'.signature? key result = some id) :
    ∃ params, key = paramsText params ∧ s'.get? id = some (.procedure params result) := by
  by_cases hkey : ∃ params, t = .procedure params result ∧ key = paramsText params
  · obtain ⟨params, rfl, rfl⟩ := hkey
    rw [hg.signature rfl] at hid
    exact ⟨params, rfl, hg.get?_new_iff.mpr hid⟩
  · rw [hg.others fun params ht hk => hkey ⟨params, ht, hk⟩] at hid
    obtain ⟨params, hk, hold⟩ := h.signature_sound hid
    exact ⟨params, hk, hg.get?_iff.mpr (.inr hold)⟩

private theorem signature_complete (hg : Grown s t s') (h : s.Canonical) {params : List TyId}
    {result : TyId} (hid : s'.get? id = some (.procedure params result)) :
    s'.signature? (paramsText params) result = some id := by
  obtain ⟨rfl, ht⟩ | hold := hg.get?_iff.mp hid
  · exact hg.signature ht.symm
  · rw [hg.others]
    · exact h.signature_complete hold
    · rintro params' rfl htext
      -- An old type and the new one with one text of parameters would be the same type.
      have hps : ∀ p ∈ params, s.Issued p := fun p hp =>
        (h.components_older hold p (by simp [Ty.components, hp])).1
      have hps' : ∀ p ∈ params', s.Issued p := fun p hp =>
        hg.components p (by simp [Ty.components, hp])
      obtain rfl := paramsText_inj hps hps' htext
      exact hg.new id hold

private theorem canonical (hg : Grown s t s') (h : s.Canonical) : s'.Canonical where
  primitive_iff id p := by
    have hprimitive : s'.primitive p = s.primitive p := by
      simp only [primitive, hg.arena, Arena.insert]
    rw [hg.get?_other_iff (hg.compound p), hprimitive, h.primitive_iff]
  components_older := hg.components_older h
  wrapped_iff w elem _ := hg.wrapped_iff h w elem
  signature_sound := hg.signature_sound h
  signature_complete := hg.signature_complete h

end Grown

@[simp] private theorem keepWrapped_toArena (s : TypeStore) (w : Wrapper) (elem id : TyId) :
    (s.keepWrapped w elem id).toArena = s.toArena := by
  cases w <;> rfl

@[simp] private theorem keepWrapped_procedures (s : TypeStore) (w : Wrapper) (elem id : TyId) :
    (s.keepWrapped w elem id).procedures = s.procedures := by
  cases w <;> rfl

private theorem keepWrapped_lookup (s : TypeStore) (w v : Wrapper) (elem id other : TyId) :
    ((s.keepWrapped w elem id).wrapped v).lookup other =
      if Ty.wrapped w elem = .wrapped v other then some id else (s.wrapped v).lookup other := by
  by_cases hwv : w = v
  · subst hwv
    have hcons : (s.keepWrapped w elem id).wrapped w = (elem, id) :: s.wrapped w := by
      cases w <;> rfl
    rw [hcons, List.lookup_cons]
    by_cases he : elem = other
    · simp [he]
    · have hb : (other == elem) = false := beq_eq_false_iff_ne.mpr (Ne.symm he)
      simp [hb, he]
  · have hsame : (s.keepWrapped w elem id).wrapped v = s.wrapped v := by
      cases w <;> cases v <;> first | rfl | exact absurd rfl hwv
    simp [hsame, hwv]

def refusal? (s : TypeStore) (t : Ty) : Option Fault :=
  (t.components.find? fun c => (s.get? c).isNone).map s.refusal

private theorem get?_isNone_iff (s : TypeStore) (id : TyId) :
    (s.get? id).isNone ↔ ¬ s.Issued id := by
  cases hg : s.get? id <;> simp [Arena.Issued, hg]

private theorem refusal?_eq_none_iff (s : TypeStore) (t : Ty) :
    s.refusal? t = none ↔ ∀ c ∈ t.components, s.Issued c := by
  simp only [refusal?, Option.map_eq_none_iff, List.find?_eq_none]
  constructor
  · intro h c hc
    have hn := h c hc
    rwa [get?_isNone_iff, not_not] at hn
  · intro h c hc
    rw [get?_isNone_iff, not_not]
    exact h c hc

private theorem paramsKey_eq (s : TypeStore) (params : List TyId) :
    s.paramsKey params =
      match params.find? fun p => (s.get? p).isNone with
      | some p => .error (s.refusal p)
      | none => .ok (paramsText params) := by
  have checked : (params.forM fun p => discard (s.get p) : Except Fault PUnit) =
      match params.find? fun p => (s.get? p).isNone with
      | some p => .error (s.refusal p)
      | none => .ok ⟨⟩ := by
    induction params with
    | nil => rfl
    | cons p rest ih =>
      rw [List.find?_cons]
      cases hg : s.get? p with
      | none =>
        simp only [Option.isNone_none]
        have hget : s.get p = .error (s.refusal p) := by simp [Arena.get, hg]
        simp [hget, discard, Functor.mapConst, Except.map, bind, Except.bind]
      | some t =>
        simp only [Option.isNone_some]
        have hget : s.get p = .ok t := by simp [Arena.get, hg]
        rw [← ih]
        simp [hget, discard, Functor.mapConst, Except.map, bind, Except.bind]
  rw [paramsKey, checked]
  cases params.find? fun p => (s.get? p).isNone <;> rfl

def intern (s : TypeStore) : Ty → Except Fault TyId × TypeStore
  | .primitive p => (.ok (s.primitive p), s)
  | .wrapped w elem => s.wrap w elem
  | .procedure params result => s.procedure params result

/-- What asking for the type with the descriptor `t` does to a store. -/
inductive Interned (s : TypeStore) (t : Ty) : Except Fault TyId × TypeStore → Prop
  | known {id : TyId} (held : s.get? id = some t) : Interned s t (.ok id, s)
  | fresh {s' : TypeStore} (new : ∀ id, s.get? id ≠ some t) (accepted : s.refusal? t = none)
      (canonical : s'.Canonical) (arena : s'.toArena = (s.toArena.insert t).2) :
      Interned s t (.ok s.nextHandle, s')
  | refused {s' : TypeStore} {f : Fault} (refusal : s.refusal? t = some f)
      (canonical : s'.Canonical) (arena : s'.toArena = s.toArena) : Interned s t (.error f, s')

private theorem store_eq (s : TypeStore) (t : Ty) :
    s.store t = (s.nextHandle, { s with toArena := (s.toArena.insert t).2 }) := rfl

private theorem wrap_interned {s : TypeStore} (h : s.Canonical) (w : Wrapper) (elem : TyId) :
    Interned s (.wrapped w elem) (s.wrap w elem) := by
  unfold wrap
  split
  · next id hid => exact .known ((h.wrapped_iff w elem id).mp hid)
  · next hnone =>
    have hnew (id : TyId) : s.get? id ≠ some (.wrapped w elem) := by
      intro hid
      rw [(h.wrapped_iff w elem id).mpr hid] at hnone
      cases hnone
    split
    · next f hf =>
      obtain ⟨hg, hrefusal⟩ := (Arena.get_eq_error_iff s.toArena elem f).mp hf
      refine .refused ?_ h rfl
      simp [refusal?, Ty.components, hg, hrefusal]
    · next t ht =>
      have hg := (Arena.get_eq_ok_iff s.toArena elem t).mp ht
      have harena : ((s.store (.wrapped w elem)).2.keepWrapped w elem s.nextHandle).toArena =
          (s.toArena.insert (.wrapped w elem)).2 := keepWrapped_toArena ..
      have haccepted : s.refusal? (.wrapped w elem) = none := by
        simp [refusal?, Ty.components, hg]
      refine .fresh hnew haccepted (Grown.canonical (t := .wrapped w elem) ?_ h) harena
      exact {
        compound := by simp
        components := (refusal?_eq_none_iff s _).mp haccepted
        new := hnew
        arena := harena
        wrapped := fun v other => keepWrapped_lookup _ w v elem s.nextHandle other
        signature := by simp
        others := fun _ => by simp [signature?] }

private theorem openTable_arena (s : TypeStore) (key : Bytes) :
    (s.openTable key).2.toArena = s.toArena := by
  unfold openTable
  split <;> rfl

private theorem openTable_wrapped (s : TypeStore) (key : Bytes) (w : Wrapper) :
    (s.openTable key).2.wrapped w = s.wrapped w := by
  unfold openTable
  split
  · rfl
  · cases w <;> rfl

private theorem openTable_lookup (s : TypeStore) (key : Bytes) (result : TyId) :
    (s.openTable key).1.lookup result = s.signature? key result := by
  unfold openTable signature?
  split
  · next table htable => rw [htable, Option.bind_some]
  · next hnone => rw [hnone, Option.bind_none, List.lookup_nil]

private theorem openTable_signature? (s : TypeStore) (key other : Bytes) (result : TyId) :
    (s.openTable key).2.signature? other result = s.signature? other result := by
  unfold openTable
  split
  · rfl
  · next hnone =>
    simp only [signature?, List.lookup_cons]
    by_cases hk : other = key
    · subst hk
      simp [hnone]
    · have hb : (other == key) = false := beq_eq_false_iff_ne.mpr hk
      simp [hb]

private theorem openTable_canonical {s : TypeStore} (h : s.Canonical) (key : Bytes) :
    (s.openTable key).2.Canonical := by
  have harena := openTable_arena s key
  refine ⟨?_, ?_, ?_, ?_, ?_⟩
  · intro id p
    simpa only [harena, primitive] using h.primitive_iff id p
  · intro id t
    rw [harena]
    exact h.components_older
  · intro w elem id
    rw [harena, openTable_wrapped]
    exact h.wrapped_iff w elem id
  · intro key' result id
    rw [harena, openTable_signature?]
    exact h.signature_sound
  · intro params result id
    rw [harena, openTable_signature?]
    exact h.signature_complete

private theorem openTable_of_signature {s : TypeStore} {key : Bytes} {result id : TyId}
    (h : s.signature? key result = some id) : (s.openTable key).2 = s := by
  obtain ⟨table, htable, -⟩ := Option.bind_eq_some_iff.mp h
  simp [openTable, htable]

private theorem refusal?_procedure {s : TypeStore} {params : List TyId} (result : TyId)
    (hparams : params.find? (fun p => (s.get? p).isNone) = none) :
    s.refusal? (.procedure params result) =
      if (s.get? result).isNone then some (s.refusal result) else none := by
  simp only [refusal?, Ty.components, List.find?_append, hparams, Option.none_or,
    List.find?_singleton]
  split <;> rfl

private theorem signature?_entered (s : TypeStore) {key : Bytes} {table : TypeTable}
    (htable : ∀ result, table.lookup result = s.signature? key result) (result id : TyId)
    (other : Bytes) (wanted : TyId) :
    { s with procedures := (key, (result, id) :: table) :: s.procedures }.signature? other wanted =
      if other = key ∧ wanted = result then some id else s.signature? other wanted := by
  simp only [signature?, List.lookup_cons]
  by_cases hkey : other = key
  · subst hkey
    by_cases hresult : wanted = result
    · simp [hresult]
    · have hb : (wanted == result) = false := beq_eq_false_iff_ne.mpr hresult
      simp [hresult, List.lookup_cons, hb, htable, signature?]
  · have hb : (other == key) = false := beq_eq_false_iff_ne.mpr hkey
    simp [hkey, hb]

private theorem procedure_grown {s : TypeStore} {params : List TyId} {result : TyId}
    {table : TypeTable} (hcomponents : ∀ c ∈ (Ty.procedure params result).components, s.Issued c)
    (hnew : ∀ id, s.get? id ≠ some (.procedure params result))
    (htable : ∀ result, table.lookup result = s.signature? (paramsText params) result) :
    Grown s (.procedure params result) { (s.store (.procedure params result)).2 with
      procedures := (paramsText params, (result, s.nextHandle) :: table) :: s.procedures } where
  compound := by simp
  components := hcomponents
  new := hnew
  arena := rfl
  wrapped w elem := by
    rw [if_neg (by simp)]
    cases w <;> rfl
  signature := by
    intro params' result' hp
    obtain ⟨rfl, rfl⟩ := Ty.procedure.inj hp
    exact (signature?_entered s htable ..).trans (if_pos ⟨rfl, rfl⟩)
  others := by
    intro key result' hkey
    refine (signature?_entered s htable ..).trans (if_neg ?_)
    rintro ⟨rfl, rfl⟩
    exact hkey params rfl rfl

private theorem procedure_interned {s : TypeStore} (h : s.Canonical) (params : List TyId)
    (result : TyId) : Interned s (.procedure params result) (s.procedure params result) := by
  unfold procedure
  rw [paramsKey_eq]
  cases hfind : params.find? fun p => (s.get? p).isNone with
  | some p =>
    refine .refused ?_ h rfl
    simp [refusal?, Ty.components, List.find?_append, hfind]
  | none =>
    have hrefusal := refusal?_procedure result hfind
    simp only [openTable_lookup]
    cases hsignature : s.signature? (paramsText params) result with
    | some id =>
      have hparams (p : TyId) (hp : p ∈ params) : s.Issued p := by
        have hn := List.find?_eq_none.mp hfind p hp
        rwa [get?_isNone_iff, not_not] at hn
      obtain ⟨params', htext, hid⟩ := h.signature_sound hsignature
      have hparams' (p : TyId) (hp : p ∈ params') : s.Issued p :=
        (h.components_older hid p (by simp [Ty.components, hp])).1
      obtain rfl := paramsText_inj hparams hparams' htext
      simp only [openTable_of_signature hsignature]
      exact .known hid
    | none =>
      have hnew (id : TyId) : s.get? id ≠ some (.procedure params result) := by
        intro hid
        rw [h.signature_complete hid] at hsignature
        cases hsignature
      have hopen := openTable_canonical h (paramsText params)
      have harena := openTable_arena s (paramsText params)
      simp only [harena]
      cases hg : s.get result with
      | error f =>
        obtain ⟨hnone, rfl⟩ := (Arena.get_eq_error_iff s.toArena result f).mp hg
        exact .refused (by simpa [hnone] using hrefusal) hopen harena
      | ok t =>
        have hresult := (Arena.get_eq_ok_iff s.toArena result t).mp hg
        have haccepted : s.refusal? (.procedure params result) = none := by
          simpa [hresult] using hrefusal
        have hnext : (s.openTable (paramsText params)).2.nextHandle = s.nextHandle := by
          simp only [nextHandle, harena]
        have hgrown := procedure_grown (s := (s.openTable (paramsText params)).2)
          (by rw [harena]; exact (refusal?_eq_none_iff s _).mp haccepted) (by rwa [harena])
          fun wanted => (openTable_lookup s _ wanted).trans (openTable_signature? s _ _ wanted).symm
        simp only [store_eq, hnext] at hgrown ⊢
        exact .fresh hnew haccepted (hgrown.canonical hopen) (by simp only [harena])

theorem intern_interned {s : TypeStore} (h : s.Canonical) (t : Ty) : Interned s t (s.intern t) := by
  cases t with
  | primitive p => exact .known (h.get?_primitive p)
  | wrapped w elem => exact wrap_interned h w elem
  | procedure params result => exact procedure_interned h params result

namespace Interned

variable {s : TypeStore} {t : Ty} {r : Except Fault TyId × TypeStore}

theorem kept (h : s.Canonical) (hr : Interned s t r) : r.2.Canonical := by
  cases hr with
  | known _ => exact h
  | fresh _ _ hc _ => exact hc
  | refused _ hc _ => exact hc

theorem grows (hr : Interned s t r) : s.toArena.Extends r.2.toArena := by
  cases hr with
  | known _ => exact .refl _
  | fresh _ _ _ ha => exact ha ▸ Arena.insert_extends s.toArena t
  | refused _ _ ha => exact ha ▸ .refl _

theorem holds {id : TyId} (hr : Interned s t r) (hid : r.1 = .ok id) : r.2.get? id = some t := by
  cases hr with
  | known hheld =>
    obtain rfl := Except.ok.inj hid
    exact hheld
  | fresh _ _ _ ha =>
    obtain rfl := Except.ok.inj hid
    rw [ha]
    exact Arena.get?_insert_self s.toArena t
  | refused _ _ _ => cases hid

theorem accepted_iff (h : s.Canonical) (hr : Interned s t r) :
    (∃ id, r.1 = .ok id) ↔ ∀ c ∈ t.components, s.Issued c := by
  cases hr with
  | known hheld =>
    exact iff_of_true ⟨_, rfl⟩ fun c hc => (h.components_older hheld c hc).1
  | fresh _ haccepted _ _ => exact iff_of_true ⟨_, rfl⟩ ((refusal?_eq_none_iff s t).mp haccepted)
  | refused hrefusal _ _ =>
    rw [← refusal?_eq_none_iff, hrefusal]
    simp

private theorem arena_of_error {f : Fault} (hr : Interned s t r) (hf : r.1 = .error f) :
    r.2.toArena = s.toArena := by
  cases hr with
  | known _ => cases hf
  | fresh _ _ _ _ => cases hf
  | refused _ _ harena => exact harena

end Interned

theorem intern_held {s : TypeStore} (h : s.Canonical) {id : TyId} {t : Ty}
    (hid : s.get? id = some t) : s.intern t = (.ok id, s) := by
  have hi := intern_interned h t
  have haccepted := (hi.accepted_iff h).mpr fun c hc => (h.components_older hid c hc).1
  generalize s.intern t = r at hi haccepted
  cases hi with
  | known hheld => rw [h.handle_unique hid hheld]
  | fresh hnew _ _ _ => exact absurd hid (hnew id)
  | refused _ _ _ => simp at haccepted

/-- What a canonical store answers depends on its descriptors alone, not on its tables. -/
theorem intern_congr {s s' : TypeStore} (h : s.Canonical) (h' : s'.Canonical)
    (harena : s'.toArena = s.toArena) (t : Ty) :
    (s'.intern t).1 = (s.intern t).1 ∧ (s'.intern t).2.toArena = (s.intern t).2.toArena := by
  by_cases hheld : ∃ id, s.get? id = some t
  · obtain ⟨id, hid⟩ := hheld
    rw [intern_held h hid, intern_held h' (harena ▸ hid)]
    exact ⟨rfl, harena⟩
  · have hrefusal : s'.refusal? t = s.refusal? t := by simp only [refusal?, harena]
    have hnext : s'.nextHandle = s.nextHandle := by simp only [nextHandle, harena]
    have hi := intern_interned h t
    have hi' := intern_interned h' t
    generalize s.intern t = r at hi
    generalize s'.intern t = r' at hi'
    cases hi with
    | known hid => exact absurd ⟨_, hid⟩ hheld
    | fresh _ haccepted _ ha =>
      cases hi' with
      | known hid => exact absurd ⟨_, harena ▸ hid⟩ hheld
      | fresh _ _ _ ha' => exact ⟨by rw [hnext], by rw [ha, ha', harena]⟩
      | refused hf _ _ => simp [hrefusal, haccepted] at hf
    | refused hf _ ha =>
      cases hi' with
      | known hid => exact absurd ⟨_, harena ▸ hid⟩ hheld
      | fresh _ haccepted _ _ => simp [← hrefusal, haccepted] at hf
      | refused hf' _ ha' =>
        rw [hrefusal, hf] at hf'
        exact ⟨by rw [Option.some.inj hf'], by rw [ha, ha', harena]⟩

def internAll (s : TypeStore) : List Ty → List (Except Fault TyId) × TypeStore
  | [] => ([], s)
  | t :: rest =>
    let (result, s) := s.intern t
    let (results, s) := s.internAll rest
    (result :: results, s)

theorem internAll_canonical {s : TypeStore} (h : s.Canonical) (ts : List Ty) :
    (s.internAll ts).2.Canonical := by
  induction ts generalizing s with
  | nil => exact h
  | cons t rest ih => exact ih ((intern_interned h t).kept h)

private theorem internAll_extends {s : TypeStore} (h : s.Canonical) (ts : List Ty) :
    s.toArena.Extends (s.internAll ts).2.toArena := by
  induction ts generalizing s with
  | nil => exact .refl _
  | cons t rest ih =>
    have hi := intern_interned h t
    exact hi.grows.trans (ih (hi.kept h))

/-- Each accepted request of a run has its descriptor in the store that the run ends with. -/
theorem internAll_holds {s : TypeStore} (h : s.Canonical) {ts : List Ty} {k : Nat} {t : Ty}
    {id : TyId} (ht : ts[k]? = some t) (hid : (s.internAll ts).1[k]? = some (.ok id)) :
    (s.internAll ts).2.get? id = some t := by
  induction ts generalizing s k with
  | nil => simp at ht
  | cons first rest ih =>
    have hi := intern_interned h first
    cases k with
    | zero =>
      obtain rfl : first = t := by simpa using ht
      have hfirst : (s.intern first).1 = .ok id := by simpa [internAll] using hid
      exact (internAll_extends (hi.kept h) rest).kept (hi.holds hfirst)
    | succ k =>
      have hrest : ((s.intern first).2.internAll rest).1[k]? = some (.ok id) := by
        simpa [internAll] using hid
      exact ih (hi.kept h) (by simpa using ht) hrest

private theorem internAll_congr {s s' : TypeStore} (h : s.Canonical) (h' : s'.Canonical)
    (harena : s'.toArena = s.toArena) (ts : List Ty) :
    (s'.internAll ts).1 = (s.internAll ts).1 := by
  induction ts generalizing s s' with
  | nil => rfl
  | cons t rest ih =>
    obtain ⟨hresult, hnext⟩ := intern_congr h h' harena t
    have hrest := ih ((intern_interned h t).kept h) ((intern_interned h' t).kept h') hnext
    simp only [internAll, hresult, hrest]

private theorem unfoldWithin_total {s : TypeStore} (h : s.Canonical) {steps : Nat} {id : TyId}
    (hid : s.Issued id) (hsteps : id.index < steps) :
    ∃ term, s.unfoldWithin steps id = .ok term := by
  induction steps generalizing id with
  | zero => omega
  | succ steps ih =>
    obtain ⟨t, ht⟩ := hid
    have hget := (Arena.get_eq_ok_iff s.toArena id t).mpr ht
    have hcomponent (c : TyId) (hc : c ∈ t.components) :
        ∃ term, s.unfoldWithin steps c = .ok term := by
      obtain ⟨hci, hlt⟩ := h.components_older ht c hc
      exact ih hci (by omega)
    cases t with
    | primitive p => exact ⟨.primitive p, by simp [unfoldWithin, hget, bind, Except.bind]; rfl⟩
    | wrapped w elem =>
      obtain ⟨term, hterm⟩ := hcomponent elem (by simp [Ty.components])
      exact ⟨.wrapped w term, by simp [unfoldWithin, hget, hterm, bind, Except.bind]; rfl⟩
    | procedure params result =>
      have hparams (p : TyId) (hp : p ∈ params) := hcomponent p (by simp [Ty.components, hp])
      obtain ⟨terms, hterms⟩ := Outcome.mapM_total hparams
      obtain ⟨term, hterm⟩ := hcomponent result (by simp [Ty.components])
      exact ⟨.procedure terms term, by
        simp [unfoldWithin, hget, hterms, hterm, bind, Except.bind]; rfl⟩

theorem unfoldWithin_cases {s : TypeStore} {steps : Nat} {id : TyId} {term : TyTerm}
    (h : s.unfoldWithin (steps + 1) id = .ok term) :
    (∃ p, s.get? id = some (.primitive p) ∧ term = .primitive p) ∨
    (∃ w elem inner, s.get? id = some (.wrapped w elem) ∧
      s.unfoldWithin steps elem = .ok inner ∧ term = .wrapped w inner) ∨
    (∃ params result inner last, s.get? id = some (.procedure params result) ∧
      params.mapM (s.unfoldWithin steps) = .ok inner ∧
      s.unfoldWithin steps result = .ok last ∧ term = .procedure inner last) := by
  rw [unfoldWithin] at h
  obtain ⟨t, ht, h⟩ := Outcome.bind_eq_ok.mp h
  have hget := (Arena.get_eq_ok_iff s.toArena id t).mp ht
  cases t with
  | primitive p => exact .inl ⟨p, hget, (Except.ok.inj h).symm⟩
  | wrapped w elem =>
    obtain ⟨inner, hinner, h⟩ := Outcome.bind_eq_ok.mp h
    exact .inr (.inl ⟨w, elem, inner, hget, hinner, (Except.ok.inj h).symm⟩)
  | procedure params result =>
    obtain ⟨inner, hinner, h⟩ := Outcome.bind_eq_ok.mp h
    obtain ⟨last, hlast, h⟩ := Outcome.bind_eq_ok.mp h
    exact .inr (.inr ⟨params, result, inner, last, hget, hinner, hlast, (Except.ok.inj h).symm⟩)

/-- Handles that stand for one term are one handle, since equal components have equal handles. -/
theorem unfoldWithin_injective {s : TypeStore} (h : s.Canonical) {m n : Nat} {a b : TyId}
    {term : TyTerm} (ha : s.unfoldWithin m a = .ok term) (hb : s.unfoldWithin n b = .ok term) :
    a = b := by
  induction m generalizing n a b term with
  | zero => cases ha
  | succ m ih =>
    cases n with
    | zero => cases hb
    | succ n =>
      have hlists {ps qs : List TyId} {terms : List TyTerm}
          (hps : List.Forall₂ (fun p t => s.unfoldWithin m p = .ok t) ps terms)
          (hqs : List.Forall₂ (fun q t => s.unfoldWithin n q = .ok t) qs terms) : ps = qs := by
        induction hps generalizing qs with
        | nil => rw [List.forall₂_nil_right_iff.mp hqs]
        | cons hp _ ihps =>
          obtain ⟨q, rest, hq, hrest, rfl⟩ := List.forall₂_cons_right_iff.mp hqs
          rw [ih hp hq, ihps hrest]
      -- One term has one outermost form, so both handles have descriptors of that form.
      obtain ⟨p, hga, rfl⟩ | ⟨w, elem, inner, hga, hea, rfl⟩ |
        ⟨params, result, inner, last, hga, hpa, hra, rfl⟩ := unfoldWithin_cases ha
      · obtain ⟨q, hgb, hq⟩ | ⟨_, _, _, _, _, hq⟩ | ⟨_, _, _, _, _, _, _, hq⟩ :=
          unfoldWithin_cases hb
        · obtain rfl := TyTerm.primitive.inj hq
          exact h.handle_unique hga hgb
        · cases hq
        · cases hq
      · obtain ⟨_, _, hq⟩ | ⟨v, elem', inner', hgb, heb, hq⟩ | ⟨_, _, _, _, _, _, _, hq⟩ :=
          unfoldWithin_cases hb
        · cases hq
        · obtain ⟨rfl, rfl⟩ := TyTerm.wrapped.inj hq
          obtain rfl := ih hea heb
          exact h.handle_unique hga hgb
        · cases hq
      · obtain ⟨_, _, hq⟩ | ⟨_, _, _, _, _, hq⟩ |
          ⟨params', result', inner', last', hgb, hpb, hrb, hq⟩ := unfoldWithin_cases hb
        · cases hq
        · cases hq
        · obtain ⟨rfl, rfl⟩ := TyTerm.procedure.inj hq
          obtain rfl := hlists (Outcome.mapM_eq_ok.mp hpa) (Outcome.mapM_eq_ok.mp hpb)
          obtain rfl := ih hra hrb
          exact h.handle_unique hga hgb

theorem unfold_total {s : TypeStore} (h : s.Canonical) {id : TyId} (hid : s.Issued id) :
    ∃ term, s.unfold id = .ok term :=
  unfoldWithin_total h hid (Nat.lt_succ_self _)

theorem format_total {s : TypeStore} (h : s.Canonical) {id : TyId} (hid : s.Issued id) :
    ∃ text, s.format id = .ok text := by
  obtain ⟨term, hterm⟩ := unfold_total h hid
  unfold format
  split
  · exact ⟨term.text, by rw [hterm]; rfl⟩
  · exact ⟨_, rfl⟩

theorem unfold_eq_iff {s : TypeStore} (h : s.Canonical) {a b : TyId} {ta tb : TyTerm}
    (ha : s.unfold a = .ok ta) (hb : s.unfold b = .ok tb) : a = b ↔ ta = tb := by
  constructor
  · rintro rfl
    exact Except.ok.inj (ha.symm.trans hb)
  · rintro rfl
    exact unfoldWithin_injective h ha hb

/-- Interning is canonical over whole runs. After any requests, refused ones among them, two handles
are equal exactly when their terms are; a request is accepted exactly when its components were
issued; a type that was asked for before keeps its handle and its components, and asking again
inserts nothing; and a refusal changes neither the size of the store nor any later answer. -/
theorem internAll_canonical_run (tag : Nat) (requests : List Ty) :
    let answers := ((seeded tag).internAll requests).1
    let s := ((seeded tag).internAll requests).2
    (∀ a b, s.Issued a → s.Issued b →
      ∃ ta tb, s.unfold a = .ok ta ∧ s.unfold b = .ok tb ∧ (a = b ↔ ta = tb)) ∧
    (∀ t, (∃ id, (s.intern t).1 = .ok id) ↔ ∀ c ∈ t.components, s.Issued c) ∧
    (∀ (k : Nat) (t : Ty) (id : TyId), requests[k]? = some t → answers[k]? = some (.ok id) →
      s.get? id = some t ∧ s.intern t = (.ok id, s)) ∧
    (∀ t f, (s.intern t).1 = .error f → (s.intern t).2.size = s.size ∧
      ∀ later, ((s.intern t).2.internAll later).1 = (s.internAll later).1) := by
  intro answers s
  have h : s.Canonical := internAll_canonical (seeded_canonical tag) requests
  refine ⟨?_, ?_, ?_, ?_⟩
  · intro a b ha hb
    obtain ⟨ta, hta⟩ := unfold_total h ha
    obtain ⟨tb, htb⟩ := unfold_total h hb
    exact ⟨ta, tb, hta, htb, unfold_eq_iff h hta htb⟩
  · exact fun t => (intern_interned h t).accepted_iff h
  · intro k t id ht hid
    have hheld : s.get? id = some t := internAll_holds (seeded_canonical tag) ht hid
    exact ⟨hheld, intern_held h hheld⟩
  · intro t f hf
    have hi := intern_interned h t
    have harena := hi.arena_of_error hf
    exact ⟨by rw [harena], fun later => internAll_congr h (hi.kept h) harena later⟩

end TypeStore

end Keywordless
