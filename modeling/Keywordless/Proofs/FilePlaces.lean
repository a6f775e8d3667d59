import Keywordless.Files.Tree
import Keywordless.Proofs.Outcome

/-!
# Paths and places

The path of a place leads to that place, as long as no link lies on the way. So what a request on
such a path does to a tree is known place by place.
-/

namespace Keywordless

namespace Bytes

theorem splitOnByte_ne_nil (sep : UInt8) (text : Bytes) : splitOnByte sep text ≠ [] := by
  cases text with
  | nil => simp [splitOnByte]
  | cons b rest =>
    simp only [splitOnByte]
    split
    · simp
    · split <;> simp

theorem splitOnByte_append (sep : UInt8) (a b : Bytes) :
    splitOnByte sep (a ++ sep :: b) = splitOnByte sep a ++ splitOnByte sep b := by
  induction a with
  | nil =>
    obtain ⟨piece, pieces, hb⟩ := List.exists_cons_of_ne_nil (splitOnByte_ne_nil sep b)
    simp [splitOnByte, hb]
  | cons c a ih =>
    obtain ⟨piece, pieces, ha⟩ := List.exists_cons_of_ne_nil (splitOnByte_ne_nil sep a)
    simp only [List.cons_append, splitOnByte, ih, ha]
    split <;> rfl

theorem splitOnByte_of_notMem {sep : UInt8} {text : Bytes} (h : sep ∉ text) :
    splitOnByte sep text = [text] := by
  induction text with
  | nil => rfl
  | cons b rest ih =>
    obtain ⟨hb, hrest⟩ : sep ≠ b ∧ sep ∉ rest := by simpa using h
    simp [splitOnByte, ih hrest, Ne.symm hb]

theorem join_cons_cons (sep a b : Bytes) (rest : List Bytes) :
    join sep (a :: b :: rest) = a ++ sep ++ join sep (b :: rest) := by
  simp [join, List.intercalate]

end Bytes

namespace Path

structure IsName (name : Bytes) : Prop where
  ne_nil : name ≠ []
  ne_dot : name ≠ [dot]
  ne_dots : name ≠ [dot, dot]
  noSlash : slash ∉ name

private theorem elements_append (a b : Bytes) :
    elements (a ++ slash :: b) = elements a ++ elements b := by
  simp [elements, Bytes.splitOnByte_append]

private theorem elements_join (parts : List Bytes) :
    elements (Bytes.join [slash] parts) = parts.flatMap elements := by
  induction parts with
  | nil => rfl
  | cons a rest ih =>
    cases rest with
    | nil => simp [Bytes.join, List.intercalate]
    | cons b rest =>
      rw [Bytes.join_cons_cons, List.append_assoc, List.singleton_append, elements_append, ih]
      simp only [List.flatMap_cons]

theorem IsName.elements_eq {name : Bytes} (h : IsName name) : elements name = [name] := by
  simp [elements, Bytes.splitOnByte_of_notMem h.noSlash, h.ne_nil, h.ne_dot]

private theorem flatMap_elements {names : List Bytes} (h : ∀ n ∈ names, IsName n) :
    names.flatMap elements = names := by
  induction names with
  | nil => rfl
  | cons n rest ih =>
    obtain ⟨hn, hrest⟩ := List.forall_mem_cons.mp h
    rw [List.flatMap_cons, hn.elements_eq, ih hrest, List.singleton_append]

private theorem elements_pathOf {place : Place} (h : ∀ n ∈ place, IsName n) :
    elements (FileTree.pathOf place) = place := by
  have hsplit := elements_append [] (Bytes.join [slash] place)
  rw [elements_join, flatMap_elements h] at hsplit
  exact hsplit

private theorem resolve_eq {rooted : Bool} {kept names : List Bytes}
    (h : ∀ n ∈ names, n ≠ [dot, dot]) : resolve rooted kept names = kept.reverse ++ names := by
  induction names generalizing kept with
  | nil => simp [resolve]
  | cons n rest ih =>
    obtain ⟨hn, hrest⟩ := List.forall_mem_cons.mp h
    have hstep : resolve rooted kept (n :: rest) = resolve rooted (n :: kept) rest := by
      rw [resolve.eq_def]
      exact if_neg (by simpa using hn)
    rw [hstep, ih hrest]
    simp

private theorem clean_absolute {text : Bytes} (h : ∀ n ∈ elements (slash :: text), n ≠ [dot, dot]) :
    clean (slash :: text) = FileTree.pathOf (elements (slash :: text)) := by
  have habsolute : isAbsolute (slash :: text) = true := rfl
  rw [clean, if_pos habsolute, cleanElements, habsolute, resolve_eq h]
  rfl

theorem join_pathOf {place : Place} (hplace : ∀ n ∈ place, IsName n) {names : List Bytes}
    (hnames : ∀ n ∈ names.flatMap elements, n ≠ [dot, dot]) :
    join (FileTree.pathOf place :: names) =
      FileTree.pathOf (place ++ names.flatMap elements) := by
  have hparts : elements (Bytes.join [slash] (FileTree.pathOf place :: names)) =
      place ++ names.flatMap elements := by
    rw [elements_join, List.flatMap_cons, elements_pathOf hplace]
  have hpath : Bytes.join [slash] (FileTree.pathOf place :: names) =
      slash :: (Bytes.join [slash] (FileTree.pathOf place :: names)).tail := by
    cases names with
    | nil => simp [Bytes.join, List.intercalate, FileTree.pathOf]
    | cons n rest =>
      rw [Bytes.join_cons_cons]
      rfl
  have hjoin : join (FileTree.pathOf place :: names) =
      clean (Bytes.join [slash] (FileTree.pathOf place :: names)) := rfl
  rw [hjoin, hpath, clean_absolute, ← hpath, hparts]
  rw [← hpath, hparts]
  intro n hn
  obtain hn | hn := List.mem_append.mp hn
  · exact (hplace n hn).ne_dots
  · exact hnames n hn

private theorem pathOf_append {place : Place} (hplace : place ≠ []) (name : Bytes) :
    FileTree.pathOf (place ++ [name]) = FileTree.pathOf place ++ slash :: name := by
  obtain ⟨first, rest, rfl⟩ := List.exists_cons_of_ne_nil hplace
  induction rest generalizing first with
  | nil => simp [FileTree.pathOf, Bytes.join, List.intercalate]
  | cons second rest ih =>
    have hrest := ih second (by simp)
    simp only [FileTree.pathOf, List.cons_append, List.cons.injEq, true_and] at hrest ⊢
    rw [Bytes.join_cons_cons, Bytes.join_cons_cons, hrest]
    simp

private theorem dir_eq (before : Bytes) {name : Bytes} (hname : slash ∉ name) :
    dir (before ++ slash :: name) = clean (before ++ [slash]) := by
  have hdrop : (before ++ slash :: name).reverse.dropWhile (· != slash) =
      slash :: before.reverse := by
    rw [List.reverse_append, List.reverse_cons, List.append_assoc,
      List.dropWhile_append_of_pos]
    · simp
    · intro b hb
      have hne : b ≠ slash := by
        rintro rfl
        exact hname (List.mem_reverse.mp hb)
      simpa using hne
  rw [dir, hdrop]
  simp

theorem dir_pathOf {place : Place} {name : Bytes} (hplace : ∀ n ∈ place, IsName n)
    (hname : IsName name) : dir (FileTree.pathOf (place ++ [name])) = FileTree.pathOf place := by
  by_cases hnil : place = []
  · subst hnil
    have hpath : FileTree.pathOf ([] ++ [name]) = [] ++ slash :: name := by
      simp [FileTree.pathOf, Bytes.join, List.intercalate]
    rw [hpath, dir_eq [] hname.noSlash]
    rfl
  · have helements : elements (FileTree.pathOf place ++ [slash]) = place := by
      rw [elements_append, elements_pathOf hplace]
      exact List.append_nil place
    rw [pathOf_append hnil, dir_eq _ hname.noSlash]
    change clean (slash :: (Bytes.join [slash] place ++ [slash])) = _
    rw [clean_absolute]
    · exact congrArg FileTree.pathOf helements
    · intro n hn
      exact (hplace n (helements ▸ hn)).ne_dots

private theorem splitOnByte_pathOf {place : Place} (hplace : ∀ n ∈ place, IsName n) :
    Bytes.splitOnByte slash (FileTree.pathOf place) =
      [] :: if place = [] then [[]] else place := by
  have hjoin (names : List Bytes) (hnil : names ≠ []) (hnames : ∀ n ∈ names, IsName n) :
      Bytes.splitOnByte slash (Bytes.join [slash] names) = names := by
    obtain ⟨first, rest, rfl⟩ := List.exists_cons_of_ne_nil hnil
    induction rest generalizing first with
    | nil =>
      have hfirst := (hnames first List.mem_cons_self).noSlash
      simpa [Bytes.join, List.intercalate] using Bytes.splitOnByte_of_notMem hfirst
    | cons second rest ih =>
      obtain ⟨hfirst, hrest⟩ := List.forall_mem_cons.mp hnames
      rw [Bytes.join_cons_cons, List.append_assoc, List.singleton_append,
        Bytes.splitOnByte_append, Bytes.splitOnByte_of_notMem hfirst.noSlash,
        ih second (by simp) hrest, List.singleton_append]
  have hsplit := Bytes.splitOnByte_append slash [] (Bytes.join [slash] place)
  split
  · next hnil =>
    subst hnil
    exact hsplit
  · next hnil =>
    rw [hjoin place hnil hplace] at hsplit
    exact hsplit

private theorem leading_pathOf {place : Place} (hplace : ∀ n ∈ place, IsName n) :
    leading (FileTree.pathOf place) =
      (List.range place.length).map fun i => FileTree.pathOf (place.take (i + 1)) := by
  have hnames : (Bytes.splitOnByte slash (FileTree.pathOf place)).filter (!·.isEmpty) = place := by
    rw [splitOnByte_pathOf hplace]
    split
    · next hnil => simp [hnil]
    · rw [List.filter_cons_of_neg (by simp), List.filter_eq_self]
      intro n hn
      simpa using (hplace n hn).ne_nil
  have habsolute : isAbsolute (FileTree.pathOf place) = true := rfl
  rw [leading, hnames, habsolute]
  rfl

end Path

namespace FileTree

variable {t t' : FileTree} {place q : Place}

/-- No link lies at the place or on the way to it. -/
def PlainTo (t : FileTree) (place : Place) : Prop :=
  ∀ q, q <+: place → ∀ target, t.entryAt? q ≠ some (.link target)

private theorem walk_cons {lastLink : Bool} {jump : Place → List Bytes → Except FileCause Located}
    {here : Place} {name : Bytes} (hname : Path.IsName name) (rest : List Bytes) :
    t.walk lastLink jump here (name :: rest) =
      if name.length > nameLimit then .error .nameTooLong
      else
        match t.entryAt? (here ++ [name]) with
        | none => if rest.all List.isEmpty then .ok ⟨here ++ [name], none⟩ else .error .notFound
        | some .directory => t.walk lastLink jump (here ++ [name]) rest
        | some (.file content) =>
          if rest.isEmpty then .ok ⟨here ++ [name], some (.file content)⟩
          else .error .notDirectory
        | some (.link target) =>
          if rest.isEmpty && !lastLink then .ok ⟨here ++ [name], some (.link target)⟩
          else jump (if Path.isAbsolute target then [] else here) (parts target ++ rest) := by
  have hdot : (name == [] || name == ".") = false := by
    have hne : name ≠ "." := hname.ne_dot
    simp [hname.ne_nil, hne]
  have hdots : (name == "..") = false := by
    have hne : name ≠ ".." := hname.ne_dots
    simp [hne]
  rw [walk, hdot, hdots]
  rfl

/-- A walk along names without links ends at their place, if anywhere. -/
theorem walk_plain {lastLink : Bool} {jump : Place → List Bytes → Except FileCause Located}
    {here : Place} {names : List Bytes} {found : Located} (hnames : ∀ n ∈ names, Path.IsName n)
    (hplain : t.PlainTo (here ++ names)) (hhere : t.entryAt? here = some .directory)
    (h : t.walk lastLink jump here names = .ok found) :
    found = ⟨here ++ names, t.entryAt? (here ++ names)⟩ := by
  induction names generalizing here with
  | nil =>
    obtain rfl := Except.ok.inj h
    simp [hhere]
  | cons name rest ih =>
    obtain ⟨hname, hrest⟩ := List.forall_mem_cons.mp hnames
    have hplace : here ++ [name] ++ rest = here ++ name :: rest := by simp
    rw [walk_cons hname] at h
    split at h
    · cases h
    · cases hentry : t.entryAt? (here ++ [name]) with
      | none =>
        rw [hentry] at h
        dsimp only at h
        split at h
        · next hempty =>
          obtain rfl : rest = [] := by
            cases rest with
            | nil => rfl
            | cons n rest =>
              have hn := (hrest n List.mem_cons_self).ne_nil
              simp [hn] at hempty
          obtain rfl := Except.ok.inj h
          simp [hentry]
        · cases h
      | some e =>
        rw [hentry] at h
        cases e with
        | directory =>
          rw [← hplace] at hplain ⊢
          exact ih hrest hplain hentry h
        | file content =>
          dsimp only at h
          split at h
          · next hempty =>
            obtain rfl := List.isEmpty_iff.mp hempty
            obtain rfl := Except.ok.inj h
            simp [hentry]
          · cases h
        | link target =>
          exact absurd hentry (hplain _ ⟨rest, hplace⟩ target)

private theorem walk_congr {lastLink : Bool}
    {jump jump' : Place → List Bytes → Except FileCause Located}
    {here : Place} {names : List Bytes} (hnames : ∀ n ∈ names, Path.IsName n)
    (hplain : t.PlainTo (here ++ names))
    (hsame : ∀ p, p <+: here ++ names → t'.entryAt? p = t.entryAt? p) :
    t'.walk lastLink jump' here names = t.walk lastLink jump here names := by
  induction names generalizing here with
  | nil => rfl
  | cons name rest ih =>
    obtain ⟨hname, hrest⟩ := List.forall_mem_cons.mp hnames
    have hplace : here ++ [name] ++ rest = here ++ name :: rest := by simp
    have hfirst : here ++ [name] <+: here ++ name :: rest := ⟨rest, hplace⟩
    rw [walk_cons hname, walk_cons hname, hsame _ hfirst]
    split
    · rfl
    · cases hentry : t.entryAt? (here ++ [name]) with
      | none => rfl
      | some e =>
        cases e with
        | directory =>
          rw [← hplace] at hplain hsame
          exact ih hrest hplain hsame
        | file content => rfl
        | link target => exact absurd hentry (hplain _ hfirst target)

private theorem locate_pathOf_eq (hplace : ∀ n ∈ place, Path.IsName n) (lastLink : Bool) :
    t.locate (pathOf place) lastLink = (checkPath (pathOf place) >>= fun _ =>
      t.walk lastLink (t.follow lastLink (linkLimit - 1)) [] place) := by
  have hwalk (jump : Place → List Bytes → Except FileCause Located) :
      t.walk lastLink jump [] (parts (pathOf place)) = t.walk lastLink jump [] place := by
    rw [parts, Path.splitOnByte_pathOf hplace]
    split
    · next hnil =>
      subst hnil
      rfl
    · rfl
  have habsolute : Path.isAbsolute (pathOf place) = true := rfl
  rw [locate, habsolute, if_pos rfl, ← hwalk]
  rfl

private theorem locate_pathOf {lastLink : Bool} {found : Located}
    (hplace : ∀ n ∈ place, Path.IsName n)
    (hplain : t.PlainTo place) (h : t.locate (pathOf place) lastLink = .ok found) :
    found = ⟨place, t.entryAt? place⟩ := by
  rw [locate_pathOf_eq hplace] at h
  obtain ⟨_, -, h⟩ := Outcome.bind_eq_ok.mp h
  exact walk_plain hplace hplain rfl h

theorem mem_entries_of_entryAt? {e : FileEntry} (h : t.entryAt? q = some e) :
    e = .directory ∨ (q, e) ∈ t.entries := by
  unfold entryAt? at h
  split at h
  · exact .inl (Option.some.inj h).symm
  · obtain ⟨before, after, hentries, -⟩ := List.lookup_eq_some_iff.mp h
    rw [hentries]
    exact .inr (List.mem_append_right _ List.mem_cons_self)

theorem entryAt?_put_self {e : FileEntry} (h : place ≠ []) :
    (t.put place e).entryAt? place = some e := by
  simp [entryAt?, put, h]

theorem entryAt?_put_of_ne {e : FileEntry} (h : q ≠ place) :
    (t.put place e).entryAt? q = t.entryAt? q := by
  have hfilter (entries : List (Place × FileEntry)) :
      (entries.filter (·.1 != place)).lookup q = entries.lookup q := by
    induction entries with
    | nil => rfl
    | cons first rest ih =>
      obtain ⟨p, held⟩ := first
      by_cases hp : p = place
      · subst hp
        simp [List.lookup_cons, beq_false_of_ne h, ih]
      · simp [List.lookup_cons, hp, ih]
  simp [entryAt?, put, List.lookup_cons, beq_false_of_ne h, hfilter]

private theorem entries_removePlace :
    (t.removePlace place).entries = t.entries.filter fun entry => !place.isPrefixOf entry.1 := rfl

theorem entryAt?_removePlace_of_not (h : ¬ place <+: q) :
    (t.removePlace place).entryAt? q = t.entryAt? q := by
  have hfilter (entries : List (Place × FileEntry)) :
      (entries.filter fun entry => !place.isPrefixOf entry.1).lookup q = entries.lookup q := by
    induction entries with
    | nil => rfl
    | cons first rest ih =>
      obtain ⟨p, held⟩ := first
      by_cases hp : place <+: p
      · have hne : q ≠ p := by
          rintro rfl
          exact h hp
        simp [List.lookup_cons, beq_false_of_ne hne, List.isPrefixOf_iff_prefix.mpr hp, ih]
      · have hp' : place.isPrefixOf p = false := by
          rw [Bool.eq_false_iff]
          exact fun hprefix => hp (List.isPrefixOf_iff_prefix.mp hprefix)
        simp [List.lookup_cons, hp', ih]
  simp only [entryAt?, entries_removePlace, hfilter]

theorem entryAt?_removePlace_below (h : place <+: q) (hq : q ≠ []) :
    (t.removePlace place).entryAt? q = none := by
  have hnone : (t.removePlace place).entries.lookup q = none := by
    rw [entries_removePlace, List.lookup_eq_none_iff]
    intro entry hentry
    obtain ⟨-, hkept⟩ := List.mem_filter.mp hentry
    rw [bne_iff_ne]
    rintro rfl
    simp [List.isPrefixOf_iff_prefix.mpr h] at hkept
  simpa [entryAt?, hq] using hnone

/-! ### Requests on the path of a place -/

private theorem tried_eq_ok {α : Type} {action path : Bytes} {r : Except FileCause α} {a : α} :
    tried action path r = .ok a ↔ r = .ok a := by
  cases r <;> simp [tried]

theorem content_pathOf {bytes : Bytes} (hplace : ∀ n ∈ place, Path.IsName n)
    (hplain : t.PlainTo place) (h : t.content (pathOf place) = .ok bytes) :
    t.entryAt? place = some (.file bytes) := by
  obtain ⟨⟨p, e⟩, hfind, h⟩ := Outcome.bind_eq_ok.mp h
  obtain ⟨found, hlocate, hfind⟩ := Outcome.bind_eq_ok.mp (tried_eq_ok.mp hfind)
  obtain rfl := locate_pathOf hplace hplain hlocate
  cases hentry : t.entryAt? place with
  | none => simp [hentry] at hfind
  | some held =>
    simp only [hentry] at hfind
    obtain ⟨rfl, rfl⟩ := Prod.mk.inj (Except.ok.inj hfind)
    cases held with
    | file content =>
      obtain rfl := Except.ok.inj h
      rfl
    | directory | link => cases h

/-- What is read at the path of a place hangs on what is on the way. -/
theorem content_pathOf_congr (hplace : ∀ n ∈ place, Path.IsName n) (hplain : t.PlainTo place)
    (hsame : ∀ p, p <+: place → t'.entryAt? p = t.entryAt? p) :
    t'.content (pathOf place) = t.content (pathOf place) := by
  have hlocate : t'.locate (pathOf place) true = t.locate (pathOf place) true := by
    rw [locate_pathOf_eq hplace, locate_pathOf_eq hplace]
    exact congrArg _ (funext fun _ => walk_congr hplace hplain hsame)
  rw [content, content, find, find, hlocate]

theorem writeFile_pathOf {bytes : Bytes} (hplace : ∀ n ∈ place, Path.IsName n)
    (hplain : t.PlainTo place) (h : t.writeFile (pathOf place) bytes = .ok t') :
    place ≠ [] ∧ t' = t.put place (.file bytes) := by
  obtain ⟨found, hlocate, h⟩ := Outcome.bind_eq_ok.mp h
  obtain rfl := locate_pathOf hplace hplain (tried_eq_ok.mp hlocate)
  dsimp only at h
  split at h
  · cases h
  · next hentry =>
    obtain rfl := Except.ok.inj h
    refine ⟨?_, rfl⟩
    rintro rfl
    exact hentry rfl

/-- The tree `t'` is `t` with new directories at some of the places. -/
structure AddsDirectories (places : Place → Prop) (t t' : FileTree) : Prop where
  wd : t'.wd = t.wd
  entry : ∀ q, t'.entryAt? q = t.entryAt? q ∨
    places q ∧ t.entryAt? q = none ∧ t'.entryAt? q = some .directory

private theorem AddsDirectories.refl (places : Place → Prop) (t : FileTree) :
    AddsDirectories places t t :=
  ⟨rfl, fun _ => .inl rfl⟩

private theorem AddsDirectories.trans {places : Place → Prop} {u : FileTree}
    (h : AddsDirectories places t t') (h' : AddsDirectories places t' u) :
    AddsDirectories places t u := by
  refine ⟨h'.wd.trans h.wd, fun q => ?_⟩
  obtain hq | ⟨hplace, hnone, hnew⟩ := h.entry q
  · rw [← hq]
    exact h'.entry q
  · obtain hq' | ⟨-, hnone', -⟩ := h'.entry q
    · exact .inr ⟨hplace, hnone, hq'.trans hnew⟩
    · rw [hnew] at hnone'
      cases hnone'

theorem AddsDirectories.plainTo {places : Place → Prop} (h : AddsDirectories places t t')
    (hplain : t.PlainTo place) : t'.PlainTo place := by
  intro q hq target
  obtain hsame | ⟨-, -, hnew⟩ := h.entry q
  · rw [hsame]
    exact hplain q hq target
  · rw [hnew]
    exact nofun

private theorem makeOne_pathOf (hplace : ∀ n ∈ place, Path.IsName n) (hplain : t.PlainTo place)
    (h : t.makeOne (pathOf place) = .ok t') : AddsDirectories (· = place) t t' := by
  obtain ⟨found, hlocate, h⟩ := Outcome.bind_eq_ok.mp h
  obtain rfl := locate_pathOf hplace hplain (tried_eq_ok.mp hlocate)
  dsimp only at h
  split at h
  · cases h
  · next hnone =>
    obtain rfl := Except.ok.inj h
    refine ⟨rfl, fun q => ?_⟩
    by_cases hq : q = place
    · subst hq
      refine .inr ⟨rfl, hnone, entryAt?_put_self ?_⟩
      rintro rfl
      cases hnone
    · exact .inl (entryAt?_put_of_ne hq)

private theorem makeEach_pathOf {places : Place → Prop} {ps : List Place} (hps : ∀ p ∈ ps, places p)
    (hnames : ∀ p ∈ ps, ∀ n ∈ p, Path.IsName n) (hplain : ∀ p ∈ ps, t.PlainTo p) :
    AddsDirectories places t (t.makeEach (ps.map pathOf)).2 := by
  induction ps generalizing t with
  | nil => exact .refl places t
  | cons p rest ih =>
    obtain ⟨hp, hps⟩ := List.forall_mem_cons.mp hps
    obtain ⟨hname, hnames⟩ := List.forall_mem_cons.mp hnames
    obtain ⟨hfirst, hplain⟩ := List.forall_mem_cons.mp hplain
    rw [List.map_cons, makeEach]
    split
    · exact ih hps hnames hplain
    · exact .refl places t
    · split
      · next u hmade =>
        have hadds : AddsDirectories places t u := by
          have hone := makeOne_pathOf hname hfirst hmade
          refine ⟨hone.wd, fun q => (hone.entry q).imp_right ?_⟩
          rintro ⟨rfl, hq⟩
          exact ⟨hp, hq⟩
        exact hadds.trans (ih hps hnames fun p hp => hadds.plainTo (hplain p hp))
      · exact .refl places t

/-- The directories that lead to a place are made where they are missing. -/
theorem makeDirectories_pathOf (hplace : ∀ n ∈ place, Path.IsName n) (hplain : t.PlainTo place) :
    AddsDirectories (· <+: place) t (t.makeDirectories (pathOf place)).2 := by
  unfold makeDirectories
  split
  · exact .refl _ t
  · exact .refl _ t
  · have hleading : Path.leading (pathOf place) =
        ((List.range place.length).map fun i => place.take (i + 1)).map pathOf := by
      rw [Path.leading_pathOf hplace, List.map_map]
      rfl
    have htake : ∀ p ∈ (List.range place.length).map fun i => place.take (i + 1), p <+: place := by
      intro p hp
      obtain ⟨i, -, rfl⟩ := List.mem_map.mp hp
      exact List.take_prefix _ _
    rw [hleading]
    refine makeEach_pathOf htake (fun p hp n hn => hplace n ((htake p hp).subset hn)) ?_
    exact fun p hp q hq => hplain q (hq.trans (htake p hp))

theorem removeAll_pathOf (hplace : ∀ n ∈ place, Path.IsName n) (hplain : t.PlainTo place)
    {kind : FileKind} (hfound : t.lstat (pathOf place) = .ok kind) :
    t.removeAll (pathOf place) = t.removePlace place := by
  unfold removeAll
  cases hlocate : t.locate (pathOf place) false with
  | error e =>
    have hmissing : t.lstat (pathOf place) = .error ⟨"lstat", pathOf place, e⟩ := by
      unfold lstat find
      rw [hlocate]
      rfl
    rw [hmissing] at hfound
    cases hfound
  | ok found => rw [locate_pathOf hplace hplain hlocate]

end FileTree

end Keywordless
