import Keywordless.Check.Payload
import Keywordless.Proofs.Findings

/-!
# Restored bags

A cached result holds the diagnostics of a bag without the file that they point into. Restoring them
for that file gives back the bag, cut to the room that there is now, and restoring them for another
file moves every span there and changes nothing else.
-/

namespace Keywordless

/-- Reading an entry of the cache gives back what was written. -/
def PayloadCodec.Lossless (codec : PayloadCodec) (p : Payload) : Prop :=
  codec.decode? (codec.encode p) = some p

namespace Diagnostic

structure LiesIn (file : FileId) (d : Diagnostic) : Prop where
  primary : d.primary.file = file
  notes : ∀ n ∈ d.notes, n.span.file = file

def movedTo (file : FileId) (d : Diagnostic) : Diagnostic :=
  { d with
    primary := { d.primary with file }
    notes := d.notes.map fun n => { n with span := { n.span with file } } }

theorem LiesIn.movedTo_eq {file : FileId} {d : Diagnostic} (h : d.LiesIn file) :
    d.movedTo file = d := by
  obtain ⟨severity, code, message, primary, notes⟩ := d
  obtain ⟨rfl, hnotes⟩ := h
  have hmap : notes.map (fun n => { n with span := { n.span with file := primary.file } }) =
      notes := by
    refine (List.map_congr_left fun n hn => ?_).trans (List.map_id notes)
    rw [← hnotes n hn]
    rfl
  rw [movedTo, hmap]

end Diagnostic

/-- Nothing but the file is lost of a diagnostic that is kept. -/
theorem CachedDiagnostic.inFile_ofDiagnostic (file : FileId) (d : Diagnostic) :
    (ofDiagnostic d).inFile file = d.movedTo file := by
  simp [ofDiagnostic, inFile, Diagnostic.movedTo, Function.comp_def]

namespace Payload

private theorem restore_eq (p : Payload) (file : FileId) (limit : Int) :
    p.restore file limit = {
      limit := (max limit 1).toNat
      items := (p.diagnostics.take (max limit 1).toNat).map (·.inFile file) } := by
  have hroom : (Bag.ofLimit limit).limit = (max limit 1).toNat := by
    unfold Bag.ofLimit
    dsimp only
    split <;> omega
  simp only [restore, Bag.ofLimit_addAll, List.map_take, hroom]

private theorem restore_movedTo (p : Payload) (file other : FileId) (limit : Int) :
    p.restore other limit = { p.restore file limit with
      items := (p.restore file limit).items.map (·.movedTo other) } := by
  have hinFile (c : CachedDiagnostic) : (c.inFile file).movedTo other = c.inFile other := by
    simp [CachedDiagnostic.inFile, Diagnostic.movedTo, Function.comp_def]
  simp only [restore_eq, List.map_map, Function.comp_def, hinFile]

private theorem restore_ofBag (build : Build) (path : Bytes) (phases : List PhaseTime) {bag : Bag}
    {file : FileId} (h : ∀ d ∈ bag.items, d.LiesIn file) (limit : Int) :
    ((ofBag build path bag phases).restore file limit).items =
      bag.items.take (max limit 1).toNat := by
  simp only [restore_eq, ofBag, ← List.map_take, List.map_map]
  refine (List.map_congr_left fun d hd => ?_).trans (List.map_id _)
  exact (CachedDiagnostic.inFile_ofDiagnostic file d).trans
    (h d (List.mem_of_mem_take hd)).movedTo_eq

/-- Restoring undoes keeping: from the entry that was written for a bag whose diagnostics all lie in
one file, the first of them come back as they were, in their order and as many as there is room for,
but at least one. Restored for another file, they differ in the file of every span only. -/
theorem restore_kept {codec : PayloadCodec} (build : Build) (path : Bytes)
    (phases : List PhaseTime) {bag : Bag} {file : FileId} (h : ∀ d ∈ bag.items, d.LiesIn file)
    (hlossless : codec.Lossless (ofBag build path bag phases)) (limit : Int) :
    ∃ p, codec.decode? (codec.encode (ofBag build path bag phases)) = some p ∧
      (p.restore file limit).items = bag.items.take (max limit 1).toNat ∧
      ∀ other, p.restore other limit = { p.restore file limit with
        items := (p.restore file limit).items.map (·.movedTo other) } :=
  ⟨_, hlossless, restore_ofBag build path phases h limit,
    fun other => restore_movedTo _ file other limit⟩

private def twoFindings : List Diagnostic :=
  [{ severity := .error, code := .typeMismatch, message := "type mismatch", primary := ⟨3, 5, 9⟩,
     notes := [⟨⟨3, 0, 4⟩, "declared here"⟩] },
    { severity := .warning, code := .undefinedName, message := "undefined",
      primary := ⟨3, 11, 12⟩ }]

theorem restore_kept_twoFindings :
    let codec := PayloadCodec.messagePack
    let bag : Bag := { limit := 2, items := twoFindings }
    ∃ p, codec.decode? (codec.encode (ofBag {} "a.nkl" bag [])) = some p ∧
      (p.restore 3 0).items = twoFindings.take 1 ∧
      (p.restore 7 0).items = (twoFindings.take 1).map (·.movedTo 7) := by
  intro codec bag
  have hfile : ∀ d ∈ bag.items, d.LiesIn 3 := by
    intro d hd
    obtain rfl | rfl : d = twoFindings[0] ∨ d = twoFindings[1] := by
      simpa [bag, twoFindings] using hd
    all_goals exact ⟨rfl, by decide⟩
  have hlossless : codec.Lossless (ofBag {} "a.nkl" bag []) := by
    unfold PayloadCodec.Lossless
    decide +kernel
  obtain ⟨p, hp, hown, hother⟩ := restore_kept {} "a.nkl" [] hfile hlossless 0
  exact ⟨p, hp, hown, by rw [hother 7, hown]; rfl⟩

end Payload

end Keywordless
