import Keywordless.Check.Cache
import Keywordless.Proofs.FilePlaces

/-!
# Entries of the cache

Every key has a place of its own below the directory of the cache. As long as that directory holds
no links, an entry that can be read under a key was written under that key, and the cache changes
nothing outside of its directory.
-/

namespace Keywordless

namespace Bytes

private theorem hexDigit_ne (n : Nat) : hexDigit n ≠ Path.slash ∧ hexDigit n ≠ Path.dot := by
  have hlt : n % 16 < 16 := Nat.mod_lt n (by decide)
  unfold hexDigit
  generalize n % 16 = d at hlt
  interval_cases d <;> decide

private theorem hexDigit_inj {m n : Nat} (h : hexDigit m = hexDigit n) : m % 16 = n % 16 := by
  have hall : ∀ a b : Fin 16, (Nat.digitChar a).toNat.toUInt8 = (Nat.digitChar b).toNat.toUInt8 →
      a = b := by decide
  have hm : m % 16 < 16 := Nat.mod_lt m (by decide)
  have hn : n % 16 < 16 := Nat.mod_lt n (by decide)
  exact congrArg Fin.val (hall ⟨m % 16, hm⟩ ⟨n % 16, hn⟩ h)

private theorem hex_injective {a b : Bytes} (h : hex a = hex b) : a = b := by
  induction a generalizing b with
  | nil =>
    cases b with
    | nil => rfl
    | cons y b => cases h
  | cons x a ih =>
    cases b with
    | nil => cases h
    | cons y b =>
      obtain ⟨hhigh, hrest⟩ := List.cons.inj h
      obtain ⟨hlow, hrest⟩ := List.cons.inj hrest
      have hhigh := hexDigit_inj hhigh
      have hlow := hexDigit_inj hlow
      have hx := x.toNat_lt
      have hy := y.toNat_lt
      have hbyte : x = y := UInt8.toNat_inj.mp (by omega)
      rw [hbyte, ih hrest]

private theorem mem_hex {text : Bytes} {b : UInt8} (h : b ∈ hex text) :
    b ≠ Path.slash ∧ b ≠ Path.dot := by
  obtain ⟨c, -, hb⟩ := List.mem_flatMap.mp h
  obtain rfl | rfl : b = hexDigit (c.toNat / 16) ∨ b = hexDigit c.toNat := by
    simpa [hexByte] using hb
  · exact hexDigit_ne _
  · exact hexDigit_ne _

end Bytes

namespace CacheKey

def names (key : CacheKey) : List Bytes :=
  ("results" : Bytes) :: Path.elements (key.text.take 2) ++ [key.text ++ ".mp"]

private theorem isName_results : Path.IsName "results" :=
  ⟨by decide, by decide, by decide, by decide⟩

private theorem isName_file (key : CacheKey) : Path.IsName (key.text ++ ".mp") := by
  have hlength : 3 ≤ (key.text ++ ".mp").length := by
    rw [List.length_append]
    exact Nat.le_add_left 3 _
  have hne {other : Bytes} (hother : other.length < 3) : key.text ++ ".mp" ≠ other := by
    intro h
    rw [h] at hlength
    omega
  refine ⟨hne (by decide), hne (by decide), hne (by decide), fun h => ?_⟩
  obtain h | h := List.mem_append.mp h
  · exact (Bytes.mem_hex h).1 rfl
  · revert h
    decide

private theorem isName_lead (key : CacheKey) :
    ∀ n ∈ Path.elements (key.text.take 2), Path.IsName n := by
  have hmem {b : UInt8} (hb : b ∈ key.text.take 2) : b ≠ Path.slash ∧ b ≠ Path.dot :=
    Bytes.mem_hex (List.mem_of_mem_take hb)
  have hslash : Path.slash ∉ key.text.take 2 := fun h => (hmem h).1 rfl
  intro n hn
  rw [Path.elements, Bytes.splitOnByte_of_notMem hslash] at hn
  obtain ⟨hn, hkept⟩ := List.mem_filter.mp hn
  obtain rfl := List.mem_singleton.mp hn
  refine ⟨fun h => by simp [h] at hkept, fun h => by simp [h] at hkept, ?_, hslash⟩
  intro h
  exact (hmem (h ▸ List.mem_cons_self)).2 rfl

private theorem isName_names (key : CacheKey) : ∀ n ∈ key.names, Path.IsName n := by
  intro n hn
  obtain hn | hn := List.mem_append.mp hn
  · obtain rfl | hn := List.mem_cons.mp hn
    · exact isName_results
    · exact isName_lead key n hn
  · obtain rfl := List.mem_singleton.mp hn
    exact isName_file key

private theorem names_injective {key key' : CacheKey} (h : key.names = key'.names) :
    key = key' := by
  have hlast := congrArg List.getLast? h
  rw [names, names, List.getLast?_concat, List.getLast?_concat] at hlast
  have htext := List.append_cancel_right (Option.some.inj hlast)
  exact congrArg CacheKey.mk (Bytes.hex_injective htext)

end CacheKey

namespace FileTree

/-- The directories above a place exist, and no link is at the place or below it. -/
structure Housed (place : Place) (t : FileTree) : Prop where
  above : ∀ q, q <+: place → q ≠ place → t.entryAt? q = some .directory
  plain : ∀ q target, place <+: q → t.entryAt? q ≠ some (.link target)

/-- No file is at the place or below it either. -/
structure Vacant (place : Place) (t : FileTree) : Prop extends Housed place t where
  empty : ∀ q bytes, place <+: q → t.entryAt? q ≠ some (.file bytes)

/-- The trees differ at most at a place and below it. -/
structure SameOutside (place : Place) (t t' : FileTree) : Prop where
  wd : t'.wd = t.wd
  entry : ∀ q, ¬ place <+: q → t'.entryAt? q = t.entryAt? q

/-- The tree `t'` comes from `t` by changes at a place and below it. The files that are new there
are as `new` says. -/
structure Rearranged (place : Place) (new : Place → Bytes → Prop) (t t' : FileTree) : Prop where
  housed : t'.Housed place
  outside : SameOutside place t t'
  files : ∀ q bytes, t'.entryAt? q = some (.file bytes) →
    t.entryAt? q = some (.file bytes) ∨ new q bytes

variable {place q : Place} {new : Place → Bytes → Prop} {t t' : FileTree}

theorem SameOutside.refl (place : Place) (t : FileTree) : SameOutside place t t :=
  ⟨rfl, fun _ _ => rfl⟩

theorem SameOutside.trans {u : FileTree} (h : SameOutside place t t')
    (h' : SameOutside place t' u) : SameOutside place t u :=
  ⟨h'.wd.trans h.wd, fun q hq => (h'.entry q hq).trans (h.entry q hq)⟩

private theorem Rearranged.trans {u : FileTree} (h : Rearranged place new t t')
    (h' : Rearranged place new t' u) : Rearranged place new t u where
  housed := h'.housed
  outside := h.outside.trans h'.outside
  files q bytes hq := (h'.files q bytes hq).elim (h.files q bytes) .inr

private theorem Housed.plainTo (h : t.Housed place) (hq : place <+: q) : t.PlainTo q := by
  intro p hp target
  obtain hbelow | habove := List.prefix_or_prefix_of_prefix hq hp
  · exact h.plain p target hbelow
  · by_cases heq : p = place
    · exact h.plain p target (heq ▸ List.prefix_rfl)
    · rw [h.above p habove heq]
      exact nofun

private theorem Housed.of_sameOutside (h : t.Housed place) (hsame : SameOutside place t t')
    (hplain : ∀ q target, place <+: q → t'.entryAt? q ≠ some (.link target)) : t'.Housed place := by
  refine ⟨fun p hp hne => ?_, hplain⟩
  have hnot : ¬ place <+: p := fun hle => hne (hp.eq_of_length_le hle.length_le)
  rw [hsame.entry p hnot]
  exact h.above p hp hne

private theorem Housed.addsDirectories (h : t.Housed place) (hq : place <+: q)
    (hadds : AddsDirectories (· <+: q) t t') : Rearranged place new t t' := by
  have hsame : SameOutside place t t' := by
    refine ⟨hadds.wd, fun p hp => ?_⟩
    obtain hsame | ⟨hpq, hnone, -⟩ := hadds.entry p
    · exact hsame
    · obtain hbelow | habove := List.prefix_or_prefix_of_prefix hq hpq
      · exact absurd hbelow hp
      · have hdirectory := h.above p habove fun heq => hp (heq ▸ List.prefix_rfl)
        rw [hdirectory] at hnone
        cases hnone
  refine ⟨h.of_sameOutside hsame fun p target hp => ?_, hsame, fun p bytes hp => ?_⟩
  · exact hadds.plainTo (h.plainTo hp) p List.prefix_rfl target
  · obtain hold | ⟨-, -, hnew⟩ := hadds.entry p
    · exact .inl (hold ▸ hp)
    · rw [hnew] at hp
      cases hp

private theorem Housed.put (h : t.Housed place) (hq : place <+: q) (hne : q ≠ []) {bytes : Bytes}
    (hnew : new q bytes) : Rearranged place new t (t.put q (.file bytes)) := by
  have hsame : SameOutside place t (t.put q (.file bytes)) := by
    refine ⟨rfl, fun p hp => entryAt?_put_of_ne ?_⟩
    rintro rfl
    exact hp hq
  refine ⟨h.of_sameOutside hsame fun p target hp => ?_, hsame, fun p held hp => ?_⟩
  · by_cases heq : p = q
    · rw [heq, entryAt?_put_self hne]
      exact nofun
    · rw [entryAt?_put_of_ne heq]
      exact h.plain p target hp
  · by_cases heq : p = q
    · rw [heq, entryAt?_put_self hne] at hp
      cases hp
      exact .inr (heq ▸ hnew)
    · exact .inl (entryAt?_put_of_ne heq ▸ hp)

private theorem Housed.removePlace (h : t.Housed place) : (t.removePlace place).Vacant place := by
  have hsame : SameOutside place t (t.removePlace place) :=
    ⟨rfl, fun p hp => entryAt?_removePlace_of_not hp⟩
  have hbelow (p : Place) (e : FileEntry) (hp : place <+: p) (he : e ≠ .directory) :
      (t.removePlace place).entryAt? p ≠ some e := by
    by_cases hnil : p = []
    · rw [hnil]
      exact fun hentry => he (Option.some.inj hentry).symm
    · rw [entryAt?_removePlace_below hp hnil]
      exact nofun
  refine ⟨h.of_sameOutside hsame fun p target hp => ?_, fun p bytes hp => ?_⟩
  · exact hbelow p (.link target) hp nofun
  · exact hbelow p (.file bytes) hp nofun

private theorem Vacant.addsDirectories (h : t.Vacant place)
    (hadds : AddsDirectories (· <+: place) t t') : t'.Vacant place := by
  have hmade : Rearranged place (fun _ _ => False) t t' :=
    h.toHoused.addsDirectories List.prefix_rfl hadds
  refine ⟨hmade.housed, fun q bytes hq hfile => ?_⟩
  obtain hold | hnew := hmade.files q bytes hfile
  · exact h.empty q bytes hq hold
  · exact hnew

end FileTree

namespace DiskCache

open FileTree (Housed Rearranged)

structure At (c : DiskCache) (place : Place) : Prop where
  dir : c.dir = FileTree.pathOf place
  names : ∀ n ∈ place, Path.IsName n

def entryPlace (place : Place) (key : CacheKey) : Place := place ++ key.names

variable {c : DiskCache} {place : Place} {t : FileTree} {key : CacheKey}

theorem entryPlace_injective {key' : CacheKey} (h : entryPlace place key = entryPlace place key') :
    key = key' :=
  CacheKey.names_injective (List.append_cancel_left h)

private theorem At.isName_entryPlace (h : c.At place) :
    ∀ n ∈ entryPlace place key, Path.IsName n := by
  intro n hn
  obtain hn | hn := List.mem_append.mp hn
  · exact h.names n hn
  · exact key.isName_names n hn

private theorem At.entryPath_eq (h : c.At place) :
    c.entryPath key = FileTree.pathOf (entryPlace place key) := by
  have hnames : [("results" : Bytes)].flatMap Path.elements ++
      [key.text.take 2, key.text ++ ".mp"].flatMap Path.elements = key.names := by
    simp [CacheKey.names, CacheKey.isName_results.elements_eq, key.isName_file.elements_eq]
  have hdots : ∀ n ∈ key.names, n ≠ [Path.dot, Path.dot] := fun n hn =>
    (key.isName_names n hn).ne_dots
  rw [← hnames, List.forall_mem_append] at hdots
  have hresults : c.resultsDir =
      FileTree.pathOf (place ++ [("results" : Bytes)].flatMap Path.elements) := by
    rw [resultsDir, h.dir, Path.join_pathOf h.names hdots.1]
  have hentry : ∀ n ∈ entryPlace place key, Path.IsName n := h.isName_entryPlace
  rw [entryPlace, ← hnames, ← List.append_assoc, List.forall_mem_append] at hentry
  rw [entryPath, hresults, Path.join_pathOf hentry.1 hdots.2, List.append_assoc, hnames]
  rfl

private theorem At.dir_entryPath (h : c.At place) :
    Path.dir (c.entryPath key) =
      FileTree.pathOf (place ++ ("results" : Bytes) :: Path.elements (key.text.take 2)) := by
  have hsplit : entryPlace place key =
      place ++ ("results" : Bytes) :: Path.elements (key.text.take 2) ++ [key.text ++ ".mp"] := by
    simp [entryPlace, CacheKey.names]
  have hentry : ∀ n ∈ entryPlace place key, Path.IsName n := h.isName_entryPlace
  rw [hsplit, List.forall_mem_append] at hentry
  rw [h.entryPath_eq, hsplit, Path.dir_pathOf hentry.1 key.isName_file]

private theorem lookup_eq (c : DiskCache) (codec : PayloadCodec) (key : CacheKey) (t : FileTree) :
    ((c.store codec).lookup key : StateM FileTree (Option Payload)) t =
      (((t.content (c.entryPath key)).toOption.bind codec.decode?).filter (·.isCurrent), t) := by
  simp only [store, DiskCache.read, bind, StateT.bind, pure, FileAccess.readFile]
  cases t.content (c.entryPath key) with
  | error e =>
    cases hmissing : e.isNotFound with
    | true => simp [hmissing, StateT.pure, Except.toOption, pure]
    | false => simp [hmissing, StateT.pure, Except.toOption, pure]
  | ok bytes =>
    cases hp : codec.decode? bytes with
    | none => simp [hp, StateT.pure, Except.toOption, pure]
    | some p => simp [hp, StateT.pure, Except.toOption, pure, Option.filter]

private theorem keep_eq (c : DiskCache) (codec : PayloadCodec) (key : CacheKey) (p : Payload)
    (t : FileTree) : ((c.store codec).keep key p : StateM FileTree Unit) t =
      let made := t.makeDirectories (Path.dir (c.entryPath key))
      ((), match made.1 with
        | .error _ => made.2
        | .ok _ =>
          (FileTree.updating (made.2.writeFile (c.entryPath key) (codec.encode p)) made.2).2) := by
  simp only [store, DiskCache.write, bind, StateT.bind, pure, FileAccess.makeDirectories,
    FileAccess.writeFile]
  rcases t.makeDirectories (Path.dir (c.entryPath key)) with ⟨_ | _, made⟩ <;> rfl

private theorem clear_eq (c : DiskCache) (t : FileTree) :
    (c.clear : StateM FileTree (Except FileError Unit)) t =
      match t.lstat c.dir with
      | .error e => (if e.isNotFound then .ok () else .error e, t)
      | .ok _ => (t.removeAll c.dir).makeDirectories c.dir := by
  simp only [DiskCache.clear, bind, StateT.bind, pure, FileAccess.lstat, FileAccess.removeAll,
    FileAccess.makeDirectories]
  cases t.lstat c.dir with
  | error e => rfl
  | ok kind => rfl

/-- What is found under a key is a current entry at the place of the key. -/
theorem lookup_run (h : c.At place) (ht : t.Housed place) (codec : PayloadCodec) (key : CacheKey) :
    ∃ found, ((c.store codec).lookup key : StateM FileTree (Option Payload)) t = (found, t) ∧
      ∀ p, found = some p → p.isCurrent ∧ ∃ bytes,
        t.entryAt? (entryPlace place key) = some (.file bytes) ∧ codec.decode? bytes = some p := by
  refine ⟨_, lookup_eq c codec key t, fun p hp => ?_⟩
  obtain ⟨hfound, hcurrent⟩ := Option.filter_eq_some_iff.mp hp
  obtain ⟨bytes, hbytes, hdecoded⟩ := Option.bind_eq_some_iff.mp hfound
  refine ⟨hcurrent, bytes, ?_, hdecoded⟩
  have hcontent : t.content (FileTree.pathOf (entryPlace place key)) = .ok bytes := by
    rw [← h.entryPath_eq]
    cases hc : t.content (c.entryPath key) with
    | error e => simp [hc, Except.toOption] at hbytes
    | ok found => simpa [hc, Except.toOption] using hbytes
  exact FileTree.content_pathOf h.isName_entryPlace (ht.plainTo (List.prefix_append _ _)) hcontent

/-- Keeping a result writes at most the file of its key. -/
theorem keep_run (h : c.At place) (ht : t.Housed place) (codec : PayloadCodec) (key : CacheKey)
    (p : Payload) :
    Rearranged place (fun q bytes => q = entryPlace place key ∧ bytes = codec.encode p) t
      (((c.store codec).keep key p : StateM FileTree Unit) t).2 := by
  let new (q : Place) (bytes : Bytes) : Prop :=
    q = entryPlace place key ∧ bytes = codec.encode p
  have hentry : ∀ n ∈ entryPlace place key, Path.IsName n := h.isName_entryPlace
  obtain ⟨above, habove, hsplit⟩ : ∃ above, Path.dir (c.entryPath key) = FileTree.pathOf above ∧
      place <+: above ∧ above <+: entryPlace place key := by
    refine ⟨_, h.dir_entryPath, List.prefix_append _ _, [key.text ++ ".mp"], ?_⟩
    simp [entryPlace, CacheKey.names]
  have hnames (n : Bytes) (hn : n ∈ above) : Path.IsName n := hentry n (hsplit.2.subset hn)
  have hadds := FileTree.makeDirectories_pathOf hnames (ht.plainTo hsplit.1)
  rw [keep_eq, habove]
  rcases hmade : t.makeDirectories (FileTree.pathOf above) with ⟨_ | _, t₁⟩
  · rw [hmade] at hadds
    exact ht.addsDirectories hsplit.1 hadds
  · rw [hmade] at hadds
    have hmade' : Rearranged place new t t₁ := ht.addsDirectories hsplit.1 hadds
    dsimp only
    rw [h.entryPath_eq]
    cases hwritten : t₁.writeFile (FileTree.pathOf (entryPlace place key)) (codec.encode p) with
    | error e => exact hmade'
    | ok t₂ =>
      have hbelow : place <+: entryPlace place key := List.prefix_append _ _
      obtain ⟨hne, rfl⟩ :=
        FileTree.writeFile_pathOf hentry (hmade'.housed.plainTo hbelow) hwritten
      exact hmade'.trans (hmade'.housed.put hbelow hne ⟨rfl, rfl⟩)

/-- No entry is left in a cache that is found and cleared. -/
theorem clear_run (h : c.At place) (ht : t.Housed place) {kind : FileKind}
    (hfound : t.lstat c.dir = .ok kind) :
    ((c.clear : StateM FileTree (Except FileError Unit)) t).2.Vacant place := by
  rw [clear_eq, hfound]
  rw [h.dir] at hfound ⊢
  have hremoved : (t.removeAll (FileTree.pathOf place)).Vacant place := by
    rw [FileTree.removeAll_pathOf h.names (ht.plainTo List.prefix_rfl) hfound]
    exact ht.removePlace
  exact hremoved.addsDirectories
    (FileTree.makeDirectories_pathOf h.names (hremoved.plainTo List.prefix_rfl))

theorem clear_missing {e : FileError} (h : t.lstat c.dir = .error e) :
    ((c.clear : StateM FileTree (Except FileError Unit)) t).2 = t := by
  rw [clear_eq, h]

end DiskCache

end Keywordless
