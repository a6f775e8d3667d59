import Keywordless.Proofs.NameCharacters
import Keywordless.Proofs.WordBreaks
import Mathlib

/-!
# Equivalent spellings of a name

A text is read as one name if its characters allow it, and outside ASCII the name is the normal form
of the text, which is the same for equivalent texts. The canonical form keeps which characters may
stand in a name, up to some spacing marks that are parts of such characters. So of two equivalent
texts, of which the first is a name, the second is the same name exactly if it spells out none of
these marks.
-/

namespace Keywordless

/-! ### Characters in ASCII -/

private theorem Utf8.decode_ascii {b : UInt8} (h : b < Bytes.asciiLimit) (rest : Bytes) :
    Utf8.decode (b :: rest) = (Char.ofNat b.toNat, 1) := by
  have hlow : b < 0x80 := h
  simp [Utf8.decode, Utf8.decode?, hlow]

private theorem isIdentStart_ascii {b : UInt8} (h : b < Bytes.asciiLimit) :
    isIdentStart (Char.ofNat b.toNat) = isIdentStartByte b := by
  have hall : ∀ n < 128, isIdentStart (Char.ofNat n) = isIdentStartByte (UInt8.ofNat n) := by
    decide +kernel
  have hbyte := hall b.toNat (UInt8.lt_iff_toNat_lt.mp h)
  rwa [UInt8.ofNat_toNat] at hbyte

private theorem isIdentChar_ascii {b : UInt8} (h : b < Bytes.asciiLimit) :
    isIdentChar (Char.ofNat b.toNat) = isIdentByte b := by
  have hall : ∀ n < 128, isIdentChar (Char.ofNat n) = isIdentByte (UInt8.ofNat n) := by
    decide +kernel
  have hbyte := hall b.toNat (UInt8.lt_iff_toNat_lt.mp h)
  rwa [UInt8.ofNat_toNat] at hbyte

/-! ### Names by their characters -/

/-- The characters of the text make up a name. -/
structure SpellsName (text : Bytes) : Prop where
  start : (Utf8.chars text).head?.map isIdentStart = some true
  body : (Utf8.chars text).all isIdentChar = true

private theorem identTail_eq_length_iff (text : Bytes) :
    identTail text = text.length ↔ (Utf8.chars text).all isIdentChar = true := by
  fun_induction identTail text with
  | case1 => simp
  | case2 b rest hascii hbyte ih =>
    rw [Utf8.chars_cons, Utf8.decode_ascii hascii, List.all_cons, isIdentChar_ascii hascii, hbyte]
    simp only [List.length_cons, List.drop_succ_cons, List.drop_zero, Bool.true_and, ← ih]
    omega
  | case3 b rest hascii hbyte =>
    rw [Utf8.chars_cons, Utf8.decode_ascii hascii, List.all_cons, isIdentChar_ascii hascii]
    simp [hbyte]
  | case4 b rest hascii step hchar ih =>
    have hstep : step.2 ≤ (b :: rest).length := Utf8.decode_size_le (List.cons_ne_nil b rest)
    rw [Utf8.chars_cons, List.all_cons, hchar, Bool.true_and, ← ih, List.length_drop]
    omega
  | case5 b rest hascii step hchar =>
    rw [Utf8.chars_cons, List.all_cons]
    simp [step, hchar]

namespace Lexeme

private theorem isIdentStart_of_kind {b : UInt8} {rest : Bytes}
    (h : (ofBytes b rest).kind = .ident) : isIdentStart (Utf8.decode (b :: rest)).1 = true := by
  have hword : (ofBytes b rest).kind.isWord = true := by
    rw [h]
    rfl
  rcases ofBytes_word hword with ⟨hstart | ⟨⟨c, hc, hforeign⟩, hletter⟩, -⟩ | ⟨-, hint⟩
  · have hascii := isIdentStartByte_ascii hstart
    rw [Utf8.decode_ascii hascii, isIdentStart_ascii hascii, hstart]
  · obtain rfl : b = c := by simpa using hc
    rw [isIdentStart_foreign hforeign, hletter]
  · rw [h] at hint
    cases hint

private theorem startByte_of_isIdentStart {b : UInt8} {rest : Bytes}
    (h : isIdentStart (Utf8.decode (b :: rest)).1 = true) :
    isIdentStartByte b = true ∨ Bytes.asciiLimit ≤ b := by
  by_cases hascii : b < Bytes.asciiLimit
  · rw [Utf8.decode_ascii hascii, isIdentStart_ascii hascii] at h
    exact .inl h
  · exact .inr (UInt8.not_lt.mp hascii)

private theorem ofBytes_of_isIdentStart {b : UInt8} {rest : Bytes}
    (h : isIdentStart (Utf8.decode (b :: rest)).1 = true)
    (nfc : Bytes → Bytes := Normal.compose) :
    ofBytes b rest nfc = name (Utf8.decode (b :: rest)).2 (b :: rest) nfc := by
  by_cases hascii : b < Bytes.asciiLimit
  · rw [Utf8.decode_ascii hascii, isIdentStart_ascii hascii] at h
    rw [ofBytes_start h rest nfc, Utf8.decode_ascii hascii]
  · have hforeign : Bytes.asciiLimit ≤ b := UInt8.not_lt.mp hascii
    rw [isIdentStart_foreign hforeign] at h
    rw [ofBytes_foreign hforeign rest nfc, if_pos h]

private theorem size_eq_length_iff {b : UInt8} {rest : Bytes}
    (h : isIdentStart (Utf8.decode (b :: rest)).1 = true) :
    (ofBytes b rest).size = (b :: rest).length ↔
      (Utf8.chars (b :: rest)).all isIdentChar = true := by
  have hfirst : isIdentChar (Utf8.decode (b :: rest)).1 = true := by simp [isIdentChar, h]
  have hsize := Utf8.decode_size_le (List.cons_ne_nil b rest)
  rw [ofBytes_of_isIdentStart h, Utf8.chars_cons, List.all_cons, hfirst, Bool.true_and,
    ← identTail_eq_length_iff, List.length_drop]
  simp only [name]
  omega

end Lexeme

namespace SourceFile

variable {f : SourceFile} {nfc : Bytes → Bytes} {text : Bytes}

/-- The file is one name with the given text, and nothing stands before or behind it. -/
def IsName (f : SourceFile) (nfc : Bytes → Bytes) (text : Bytes) : Prop :=
  (f.tokens nfc).map (fun t => (t.kind, t.span, t.text)) =
    [(.ident, ⟨f.id, 0, f.content.length⟩, text),
      (.endOfFile, ⟨f.id, f.content.length, f.content.length⟩, [])]

instance (f : SourceFile) (nfc : Bytes → Bytes) (text : Bytes) : Decidable (f.IsName nfc text) :=
  inferInstanceAs (Decidable (_ = _))

private theorem IsName.spells (h : f.IsName nfc text) :
    SpellsName f.content ∧ text = Lexeme.spelled nfc f.content := by
  rw [IsName, f.tokens_eq nfc] at h
  cases hfront : afterTrivia f.content with
  | nil =>
    rw [tokensAt_ended f.id le_rfl hfront nfc] at h
    simp at h
  | cons b rest =>
    obtain ⟨leading, hread⟩ := tokensAt_read f.id le_rfl hfront nfc
    rw [hread, List.map_cons] at h
    obtain ⟨hkind, hspan, htext⟩ : (Lexeme.ofBytes b rest nfc).kind = .ident ∧
        (f.content.length - (b :: rest).length = 0 ∧
          f.content.length - (afterLexeme b rest).length = f.content.length) ∧
        (Lexeme.ofBytes b rest nfc).text = text := by
      simpa [Lexeme.token] using (List.cons.inj h).1
    -- The name starts where the file does, and nothing is left behind it.
    have hsuffix : b :: rest <:+ f.content := hfront ▸ afterTrivia_suffix (List.suffix_refl _)
    have hcontent : b :: rest = f.content := hsuffix.eq_of_length_le (by omega)
    have hpos : 0 < f.content.length := by simp [← hcontent]
    have hsize := size_add_afterLexeme b rest
    have hstart := Lexeme.isIdentStart_of_kind ((Lexeme.ofBytes_nfc b rest nfc).1 ▸ hkind)
    have hcovers : (Lexeme.ofBytes b rest).size = (b :: rest).length := by omega
    rw [← hcontent]
    refine ⟨⟨?_, (Lexeme.size_eq_length_iff hstart).mp hcovers⟩, ?_⟩
    · rw [Utf8.chars_cons, List.head?_cons, Option.map_some, hstart]
    · rw [Lexeme.ofBytes_of_isIdentStart hstart] at hcovers
      rw [Lexeme.ofBytes_of_isIdentStart hstart nfc] at htext
      simp only [Lexeme.name] at hcovers htext
      rw [← htext, hcovers, List.take_length]

private theorem isName_of_spells (nfc : Bytes → Bytes) (h : SpellsName f.content) :
    f.IsName nfc (Lexeme.spelled nfc f.content) := by
  cases hcontent : f.content with
  | nil =>
    have hstart := h.start
    simp [hcontent] at hstart
  | cons b rest =>
    rw [hcontent] at h
    have hstart : isIdentStart (Utf8.decode (b :: rest)).1 = true := by
      simpa [Utf8.chars_cons] using h.start
    have hcovers := (Lexeme.size_eq_length_iff hstart).mpr h.body
    have hafter : afterLexeme b rest = [] := by rw [afterLexeme, hcovers, List.drop_length]
    have hfront : afterTrivia f.content = b :: rest := by
      rw [hcontent, afterTrivia_start (Lexeme.startByte_of_isIdentStart hstart)]
    have hname : (Lexeme.ofBytes b rest nfc).kind = .ident ∧
        (Lexeme.ofBytes b rest nfc).text = Lexeme.spelled nfc (b :: rest) := by
      rw [Lexeme.ofBytes_of_isIdentStart hstart] at hcovers
      rw [Lexeme.ofBytes_of_isIdentStart hstart nfc]
      simp only [Lexeme.name] at hcovers ⊢
      rw [hcovers, List.take_length]
      exact ⟨trivial, rfl⟩
    obtain ⟨leading, hread⟩ := tokensAt_read f.id le_rfl hfront nfc
    rw [IsName, f.tokens_eq nfc, hread, hafter,
      tokensAt_ended f.id (Nat.zero_le _) afterTrivia_nil nfc]
    simp [Lexeme.token, hname, hcontent]

private theorem isName_iff :
    f.IsName nfc text ↔ SpellsName f.content ∧ text = Lexeme.spelled nfc f.content := by
  constructor
  · exact IsName.spells
  · intro h
    rw [h.2]
    exact isName_of_spells nfc h.1

end SourceFile

/-! ### Equivalent texts -/

/-- What is asked of normalisation: equivalent texts have one normal form, and texts in ASCII are
normal. The combining classes `classOf` are those of Unicode. -/
structure Normalizes (classOf : Nat → Nat) (nfc : Bytes → Bytes) : Prop where
  equivalent : ∀ {s t}, Utf8.isValid s = true → Utf8.isValid t = true →
    Normal.canonicalForm classOf s = Normal.canonicalForm classOf t → nfc s = nfc t
  ascii : ∀ {s}, Bytes.isAsciiText s = true → nfc s = s

private theorem Normalizes.spelled {classOf : Nat → Nat} {nfc : Bytes → Bytes}
    (h : Normalizes classOf nfc) (text : Bytes) : Lexeme.spelled nfc text = nfc text := by
  unfold Lexeme.spelled
  split
  · next hascii => exact (h.ascii hascii).symm
  · rfl

/-- A text with the characters of a name and their spacing parts is one of characters of a name
exactly if it has none of these parts. -/
theorem all_isIdentChar_iff (cs : List Char) : cs.all isIdentChar = true ↔
    cs.all (fun c => isNamePart c.toNat) = true ∧
      ∀ c ∈ cs, CharSet.spacingParts.has c.toNat = false := by
  simp only [List.all_eq_true, isNamePart_toNat, Bool.or_eq_true]
  constructor
  · intro h
    refine ⟨fun c hc => .inl (h c hc), ?_⟩
    intro c hc
    by_contra hspacing
    have hnot := isIdentChar_spacingPart (by simpa using hspacing)
    rw [h c hc] at hnot
    cases hnot
  · intro h c hc
    rcases h.1 c hc with hident | hspacing
    · exact hident
    · rw [h.2 c hc] at hspacing
      cases hspacing

/-- Of two equivalent texts, of which the first is read as one name, the second is read as the same
name exactly if it holds none of the spacing marks that are parts of characters of names. Texts are
equivalent if they have one canonical form. How they are normalised is left open, up to what
`Normalizes` says, and so are the combining classes, but that what starts a name has none. -/
theorem SourceFile.isName_equivalent_iff {classOf : Nat → Nat} {nfc : Bytes → Bytes}
    {f g : SourceFile} {text : Bytes} (hclass : ∀ n, isNameStart n = true → classOf n = 0)
    (hnfc : Normalizes classOf nfc) (hf : Utf8.isValid f.content = true)
    (hg : Utf8.isValid g.content = true) (hname : f.IsName nfc text)
    (hsame : Normal.canonicalForm classOf f.content = Normal.canonicalForm classOf g.content) :
    g.IsName nfc text ↔
      ∀ c ∈ Utf8.chars g.content, CharSet.spacingParts.has c.toNat = false := by
  obtain ⟨hspells, htext⟩ := isName_iff.mp hname
  have hchars : isIdentStart = fun c => isNameStart c.toNat := by
    funext c
    rw [isNameStart_toNat]
  have hstart : (Utf8.chars g.content).head?.map isIdentStart = some true := by
    have hlead := Normal.isNameStart_leading.canonicalForm hclass
    rw [hchars, ← hlead, ← hsame, hlead, ← hchars, hspells.start]
  have hparts : (Utf8.chars g.content).all (fun c => isNamePart c.toNat) = true := by
    have hkept := Normal.isNamePart_kept.canonicalForm classOf
    rw [← hkept, ← hsame, hkept]
    exact ((all_isIdentChar_iff _).mp hspells.body).1
  rw [isName_iff, htext, hnfc.spelled, hnfc.spelled, hnfc.equivalent hf hg hsame]
  constructor
  · intro hg
    exact ((all_isIdentChar_iff _).mp hg.1.body).2
  · intro hspacing
    exact ⟨⟨hstart, (all_isIdentChar_iff _).mpr ⟨hparts, hspacing⟩⟩, rfl⟩

/-! ### A normalisation -/

namespace Normal

/-- The composed canonical form. -/
def ofForm (text : Bytes) : Bytes :=
  let form := canonicalForm combiningClass text
  Utf8.encodeAll ((if form.all (· < 0x80) then form else composeAll form).map Char.ofNat)

private theorem order_bases {classOf : Nat → Nat} {codes : List Nat}
    (h : ∀ n ∈ codes, classOf n = 0) (collected : List (Nat × Nat)) :
    order classOf collected codes = collected.reverse ++ codes.map (0, ·) := by
  induction codes generalizing collected with
  | nil => simp [order]
  | cons n codes ih =>
    rw [order]
    simp only [h n (by simp), if_true]
    rw [ih fun m hm => h m (by simp [hm])]
    simp

private theorem ascii_plain : CharSet.allMappings.all (0x80 ≤ ·.1) = true ∧
    CharSet.combiningClasses.all (0x80 ≤ ·.1) = true := by
  decide +kernel

private theorem decompose_ascii {n : Nat} (h : n < 0x80) :
    decompose CharSet.allMappings n = [n] := by
  have hnone : mapping? CharSet.allMappings n = none := by
    rw [mapping?, Option.map_eq_none_iff, List.find?_eq_none]
    intro m hm
    have hlarge := List.all_eq_true.mp ascii_plain.1 m hm
    simp only [decide_eq_true_eq] at hlarge
    simp only [beq_iff_eq]
    omega
  have hsyllable : syllableLetters? n = none := by
    have hlow : ¬ 0xAC00 ≤ n := by omega
    simp [syllableLetters?, syllableBase, hlow]
  rw [decompose, hsyllable, Option.getD_none, mappingDepth, expand, hnone]

private theorem combiningClass_ascii {n : Nat} (h : n < 0x80) : combiningClass n = 0 := by
  change ((CharSet.combiningClasses.find? fun range => range.1 ≤ n && n ≤ range.2.1).map
    (·.2.2)).getD 0 = 0
  have hnone : CharSet.combiningClasses.find? (fun range => range.1 ≤ n && n ≤ range.2.1) =
      none := by
    rw [List.find?_eq_none]
    intro range hrange
    have hlarge := List.all_eq_true.mp ascii_plain.2 range hrange
    simp only [decide_eq_true_eq] at hlarge
    simp only [Bool.and_eq_true, decide_eq_true_eq]
    omega
  rw [hnone]
  rfl

private theorem encode_ascii : ∀ n < 0x80,
    (Char.ofNat n).toNat = n ∧ Utf8.encode (Char.ofNat n) = [UInt8.ofNat n] := by
  decide +kernel

private theorem toNat_ascii {text : Bytes} (h : Bytes.isAsciiText text = true) :
    ∀ n ∈ text.map UInt8.toNat, n < 0x80 := by
  intro n hn
  obtain ⟨b, hb, rfl⟩ := List.mem_map.mp hn
  have hascii : b < Bytes.asciiLimit := by simpa using List.all_eq_true.mp h b hb
  exact UInt8.lt_iff_toNat_lt.mp hascii

private theorem chars_ascii {text : Bytes} (h : Bytes.isAsciiText text = true) :
    (Utf8.chars text).map Char.toNat = text.map UInt8.toNat := by
  induction text with
  | nil => simp
  | cons b rest ih =>
    obtain ⟨hb, hrest⟩ : b < Bytes.asciiLimit ∧ Bytes.isAsciiText rest = true := by
      simpa [Bytes.isAsciiText] using h
    rw [Utf8.chars_cons, Utf8.decode_ascii hb, List.map_cons, List.map_cons,
      (encode_ascii b.toNat (UInt8.lt_iff_toNat_lt.mp hb)).1]
    simp [ih hrest]

private theorem canonicalForm_ascii {text : Bytes} (h : Bytes.isAsciiText text = true) :
    canonicalForm combiningClass text = text.map UInt8.toNat := by
  have hcodes := toNat_ascii h
  have hparts : (text.map UInt8.toNat).flatMap (decompose CharSet.allMappings) =
      text.map UInt8.toNat := by
    rw [List.flatMap_congr fun n hn => decompose_ascii (hcodes n hn)]
    simp
  rw [canonicalForm, chars_ascii h, hparts,
    order_bases fun n hn => combiningClass_ascii (hcodes n hn)]
  simp

private theorem ofForm_normalizes : Normalizes combiningClass ofForm where
  equivalent _ _ hsame := by simp only [ofForm, hsame]
  ascii {s} hascii := by
    have hcodes := toNat_ascii hascii
    have hall : (s.map UInt8.toNat).all (· < 0x80) = true := by
      simpa using hcodes
    have hencode : ∀ b ∈ s, Utf8.encode (Char.ofNat b.toNat) = [b] := by
      intro b hb
      rw [(encode_ascii _ (hcodes _ (List.mem_map_of_mem hb))).2, UInt8.ofNat_toNat]
    simp only [ofForm, canonicalForm_ascii hascii, hall, if_true, Utf8.encodeAll, List.map_map,
      List.flatMap_map, Function.comp_def]
    rw [List.flatMap_congr hencode]
    simp

end Normal

structure Respelling where
  first : Bytes
  second : Bytes
  text : Bytes
  valid : Utf8.isValid first = true ∧ Utf8.isValid second = true
  spells : SpellsName first
  normal : Lexeme.spelled Normal.ofForm first = text
  equivalent : Normal.canonicalForm Normal.combiningClass first =
    Normal.canonicalForm Normal.combiningClass second

namespace Respelling

def firstFile (r : Respelling) : SourceFile := { id := 0, path := "main.nkl", content := r.first }

def secondFile (r : Respelling) : SourceFile := { id := 0, path := "main.nkl", content := r.second }

private theorem firstFile_isName (r : Respelling) : r.firstFile.IsName Normal.ofForm r.text :=
  SourceFile.isName_iff.mpr ⟨r.spells, r.normal.symm⟩

def accent : Respelling where
  first := "\u00e9"
  second := "e\u0301"
  text := "\u00e9"
  valid := by decide +kernel
  spells := by constructor <;> decide +kernel
  normal := by decide +kernel
  equivalent := by decide +kernel

/-- A letter, and its two parts, of which the second is a spacing mark. -/
def akaraTedung : Respelling where
  first := "\u1b06"
  second := "\u1b05\u1b35"
  text := "\u1b06"
  valid := by decide +kernel
  spells := by constructor <;> decide +kernel
  normal := by decide +kernel
  equivalent := by decide +kernel

end Respelling

open Respelling in
theorem SourceFile.isName_equivalent_accent :
    accent.firstFile.IsName Normal.ofForm accent.text ∧
      accent.secondFile.IsName Normal.ofForm accent.text := by
  have hchars : Utf8.chars accent.secondFile.content = ['e', '\u0301'] := by decide +kernel
  have hspacing : ∀ c ∈ Utf8.chars accent.secondFile.content,
      CharSet.spacingParts.has c.toNat = false := by
    simp [hchars, CharSet.spacingParts, CharSet.has]
  have hclass (n : Nat) (h : isNameStart n = true) : Normal.combiningClass n = 0 :=
    Normal.combiningClass_of_isNameStart h
  have hiff := isName_equivalent_iff (g := accent.secondFile) hclass Normal.ofForm_normalizes
    accent.valid.1 accent.valid.2 accent.firstFile_isName accent.equivalent
  exact ⟨accent.firstFile_isName, hiff.mpr hspacing⟩

open Respelling in
/-- The letter is a name, but its parts are read as a name and a character that is unknown. -/
theorem SourceFile.spacing_part_splits_name :
    Normal.canonicalForm Normal.combiningClass akaraTedung.firstFile.content =
        Normal.canonicalForm Normal.combiningClass akaraTedung.secondFile.content ∧
      akaraTedung.firstFile.IsName Normal.ofForm akaraTedung.text ∧
      ¬ akaraTedung.secondFile.IsName Normal.ofForm akaraTedung.text ∧
      akaraTedung.secondFile.tokens.map (fun t => (t.kind, t.span, t.error)) =
        [(.ident, ⟨0, 0, 3⟩, none), (.invalid, ⟨0, 3, 6⟩, some (.unknownChar '\u1b35')),
          (.endOfFile, ⟨0, 6, 6⟩, none)] := by
  refine ⟨akaraTedung.equivalent, akaraTedung.firstFile_isName, ?_, ?_⟩
  · decide +kernel
  · decide +kernel

end Keywordless
