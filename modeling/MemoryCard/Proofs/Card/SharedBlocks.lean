import MemoryCard.Proofs.Card.Consistency
import MemoryCard.Proofs.Card.Written

/-! # Chains that run together

A block has one link. So where two sound chains of one table meet, they have the rest in common, and
they meet if and only if they end in the same block. What a walk finds from a block in the middle of a
sound chain is the rest of this chain.
-/

namespace MemoryCard
namespace Allocation.IsPath

variable {a : Allocation} {size block : UInt16} {blocks blocks' rest rest' : List UInt16}

/-- A part at the end of a sound chain is a sound chain. -/
theorem suffix (h : a.IsPath size blocks none) (hsuffix : rest <:+ blocks) (hne : rest ≠ []) :
    a.IsPath size rest none := by
  obtain ⟨front, rfl⟩ := hsuffix
  obtain ⟨last, hlast, hending⟩ := h.ending
  rw [List.getLast?_append_of_ne_nil _ hne] at hlast
  cases hending with
  | marked hmark =>
      exact {
        isData := fun b hb ↦ h.isData b (List.mem_append_right _ hb)
        nodup := (List.nodup_append.1 h.nodup).2.1
        linked := h.linked.right_of_append
        ending := ⟨last, hlast, .marked hmark⟩ }

/-- A walk from a block of a sound chain finds the rest of the chain. -/
theorem walk_drop (h : a.IsPath size blocks none) {i : Nat} (hi : i < blocks.length)
    (recorded : UInt16) : a.walk blocks[i] recorded size =
      .ok ⟨blocks.drop i, none, mismatch? recorded (blocks.drop i)⟩ := by
  have hdrop := List.drop_eq_getElem_cons hi
  have hpath : a.IsPath size (blocks.drop i) none :=
    h.suffix (List.drop_suffix i blocks) (by rw [hdrop]; exact nofun)
  refine hpath.walk_eq (by rw [hdrop]; rfl) (fun hfree ↦ ?_) recorded
  cases (h.ends_of_free (List.getElem_mem hi) hfree).2

/-- The same blocks follow a block in all sound chains. -/
theorem suffix_unique (h : a.IsPath size blocks none) (h' : a.IsPath size blocks' none)
    (hsuffix : block :: rest <:+ blocks) (hsuffix' : block :: rest' <:+ blocks') : rest = rest' :=
  (List.cons.inj ((h.suffix hsuffix nofun).unique (h'.suffix hsuffix' nofun) rfl).1).2

/-- Two sound chains have no block in common, or they are one from the first such block on. -/
theorem disjoint_or_merge (h : a.IsPath size blocks none) (h' : a.IsPath size blocks' none) :
    blocks.Disjoint blocks' ∨ ∃ front front' rest, rest ≠ [] ∧ blocks = front ++ rest ∧
      blocks' = front' ++ rest ∧ front.Disjoint blocks' ∧ front'.Disjoint blocks := by
  cases hfind : blocks.find? (· ∈ blocks') with
  | none =>
      refine .inl fun b hb hb' ↦ ?_
      simpa [hb'] using List.find?_eq_none.1 hfind b hb
  | some b =>
      obtain ⟨hmem, front, rest, rfl, hfront⟩ := List.find?_eq_some_iff_append.1 hfind
      simp only [decide_eq_true_eq, Bool.not_eq_true', decide_eq_false_iff_not] at hmem hfront
      obtain ⟨front', rest', rfl⟩ := List.append_of_mem hmem
      obtain rfl := h.suffix_unique h' ⟨front, rfl⟩ ⟨front', rfl⟩
      refine .inr ⟨front, front', b :: rest, nofun, rfl, rfl, hfront, fun x hx hx' ↦ ?_⟩
      rcases List.mem_append.1 hx' with hx' | hx'
      · exact hfront x hx' (List.mem_append_left _ hx)
      · exact (List.nodup_append.1 h'.nodup).2.2 x hx x hx' rfl

theorem exists_mem_iff_getLast? (h : a.IsPath size blocks none) (h' : a.IsPath size blocks' none) :
    (∃ b ∈ blocks, b ∈ blocks') ↔ blocks.getLast? = blocks'.getLast? := by
  constructor
  · rintro ⟨b, hb, hb'⟩
    rcases h.disjoint_or_merge h' with hdisjoint | ⟨front, front', rest, hne, rfl, rfl, -, -⟩
    · exact absurd hb' (hdisjoint hb)
    · rw [List.getLast?_append_of_ne_nil _ hne, List.getLast?_append_of_ne_nil _ hne]
  · intro hsame
    obtain ⟨last, hlast, -⟩ := h.ending
    exact ⟨last, List.mem_of_getLast? hlast, List.mem_of_getLast? (hsame ▸ hlast)⟩

end Allocation.IsPath

namespace Card

/-- Sound chains of one table that meet stay together. A walk from a block of such a chain, whatever
length is recorded, is sound and finds the rest of the chain. So two sound chains have no block in
common, or they are one from the first common block on. Regular files without a defect in their chains,
on a card with which anything may have been done, have a block in common exactly if their chains end in
the same block. -/
theorem sharedBlocks_iff (a : Allocation) (size : UInt16) :
    (∀ first recorded w, a.walk first recorded size = .ok w → w.defect? = none →
      ∀ i (hi : i < w.blocks.length) recorded', a.walk w.blocks[i] recorded' size =
        .ok ⟨w.blocks.drop i, none, mismatch? recorded' (w.blocks.drop i)⟩) ∧
    (∀ first recorded w, a.walk first recorded size = .ok w → w.defect? = none →
      ∀ first' recorded' w', a.walk first' recorded' size = .ok w' → w'.defect? = none →
        w.blocks.Disjoint w'.blocks ∨ ∃ front front' rest, rest ≠ [] ∧
          w.blocks = front ++ rest ∧ w'.blocks = front' ++ rest ∧
            front.Disjoint w'.blocks ∧ front'.Disjoint w.blocks) ∧
    ∀ c : Card, c.Reachable → c.tables.allocation = a → c.size = size →
      ∀ f ∈ c.regularFiles, ∀ g ∈ c.regularFiles, f.issues.defect? = none →
        g.issues.defect? = none →
          ((∃ b ∈ f.chain, b ∈ g.chain) ↔ f.chain.getLast? = g.chain.getLast?) := by
  refine ⟨?_, ?_, ?_⟩
  · intro first recorded w hw hsound i hi recorded'
    have hpath := (Allocation.walk_isPath hw).1
    rw [hsound] at hpath
    exact hpath.walk_drop hi recorded'
  · intro first recorded w hw hsound first' recorded' w' hw' hsound'
    have hpath := (Allocation.walk_isPath hw).1
    have hpath' := (Allocation.walk_isPath hw').1
    rw [hsound] at hpath
    rw [hsound'] at hpath'
    exact hpath.disjoint_or_merge hpath'
  · rintro c hreach rfl rfl f hf g hg hfsound hgsound
    have hpath := hreach.consistent.isPath hf
    have hpath' := hreach.consistent.isPath hg
    rw [hfsound] at hpath
    rw [hgsound] at hpath'
    exact hpath.exists_mem_iff_getLast? hpath'

/-- The entry of a file of two blocks. -/
def crossedEntry (first : UInt16) : Entry :=
  { Entry.read .empty 0 with firstBlock := first, length := 2 }

/-- Two files of two blocks each, the second of which is the same. -/
def crossed : System where
  header := .read .empty
  directories d := ⟨[crossedEntry 5, crossedEntry 6], d.val.toUInt16, 0⟩
  allocations a := ⟨a.val.toUInt16, 0, 7, #[7, 7, Allocation.lastLink], 0⟩

/-- On eight blocks, the sound chains of the two files meet in block 7. -/
theorem exists_crossed : ∃ sums image c f g,
    Image.write ⟨.fill (8 * blockSize) 0, none⟩ crossed = .ok (sums, image) ∧
      ofImage image = .ok c ∧ c.size = 8 ∧
      c.tables.allocation.walk 5 2 8 = .ok ⟨[5, 7], none, none⟩ ∧
      c.tables.allocation.walk 6 2 8 = .ok ⟨[6, 7], none, none⟩ ∧
      c.regularFiles = [f, g] ∧
      (f.origin = .regular 0 ∧ f.chain = [5, 7] ∧ f.issues.defect? = none) ∧
      (g.origin = .regular 1 ∧ g.chain = [6, 7] ∧ g.issues.defect? = none) := by
  obtain ⟨sums, image, c, hwrite, hopen, hsize, hshows⟩ := exists_shows crossed
  have hreach : c.Reachable := ⟨image, c, [], hopen, rfl⟩
  have hlink : c.tables.allocation.link? 5 = some 7 ∧ c.tables.allocation.link? 6 = some 7 ∧
      c.tables.allocation.link? 7 = some Allocation.lastLink := by
    rw [Tables.allocation, Copies.current, hshows.allocation]
    exact ⟨rfl, rfl, rfl⟩
  have hwalk (b : UInt16) (hdata : isDataBlock 8 b = true) (hne : b ≠ 7)
      (hnext : c.tables.allocation.link? b = some 7) :
      c.tables.allocation.walk b 2 8 = .ok ⟨[b, 7], none, none⟩ := by
    have hpath : c.tables.allocation.IsPath 8 [b, 7] none :=
      { isData := by simpa using ⟨hdata, rfl⟩
        nodup := List.nodup_cons.2 ⟨by simpa using hne, List.nodup_singleton 7⟩
        linked := List.isChain_pair.2 hnext
        ending := ⟨7, rfl, .marked hlink.2.2⟩ }
    exact hpath.walk_eq rfl (by rw [hnext]; decide) 2
  have hwalk₅ := hwalk 5 rfl (by decide) hlink.1
  have hwalk₆ := hwalk 6 rfl (by decide) hlink.2.1
  have hused : c.tables.directory.used = [(0, crossedEntry 5), (1, crossedEntry 6)] := by
    rw [Tables.directory, Copies.current, hshows.directory]
    rfl
  have hfiles := hreach.consistent.regularFiles_eq
  rw [Listing.ofTables, hused, hsize] at hfiles
  simp only [Listing.build, Listing.file?, crossedEntry, hwalk₅, hwalk₆] at hfiles
  exact ⟨sums, image, c, _, _, hwrite, hopen, hsize, hwalk₅, hwalk₆, hfiles, ⟨rfl, rfl, rfl⟩,
    rfl, rfl, rfl⟩

/-- On a card of eight blocks two files have their last block in common, and a walk from this block is
sound. -/
theorem sharedBlocks_iff_crossed : ∃ sums image c f g,
    Image.write ⟨.fill (8 * blockSize) 0, none⟩ crossed = .ok (sums, image) ∧
      ofImage image = .ok c ∧ f ∈ c.regularFiles ∧ g ∈ c.regularFiles ∧
      f.chain = [5, 7] ∧ g.chain = [6, 7] ∧ f.chain.getLast? = g.chain.getLast? ∧
      (∃ front front' rest, rest ≠ [] ∧ f.chain = front ++ rest ∧ g.chain = front' ++ rest) ∧
      c.tables.allocation.walk 7 1 8 = .ok ⟨[7], none, none⟩ := by
  obtain ⟨sums, image, c, f, g, hwrite, hopen, hsize, hwalk₅, hwalk₆, hfiles, ⟨-, hchain, hsound⟩,
    -, hchain', hsound'⟩ := exists_crossed
  have hreach : c.Reachable := ⟨image, c, [], hopen, rfl⟩
  have hf : f ∈ c.regularFiles := by simp [hfiles]
  have hg : g ∈ c.regularFiles := by simp [hfiles]
  obtain ⟨hdrop, hmerge, hends⟩ := sharedBlocks_iff c.tables.allocation 8
  refine ⟨sums, image, c, f, g, hwrite, hopen, hf, hg, hchain, hchain', ?_, ?_, ?_⟩
  · exact (hends c hreach rfl hsize f hf g hg hsound hsound').1
      ⟨7, by rw [hchain]; decide, by rw [hchain']; decide⟩
  · rw [hchain, hchain']
    rcases hmerge 5 2 _ hwalk₅ rfl 6 2 _ hwalk₆ rfl with
      hdisjoint | ⟨front, front', rest, hne, hfront, hfront', -, -⟩
    · exact absurd (List.mem_of_getLast? (l := [6, 7]) rfl) (hdisjoint (a := 7) (by decide))
    · exact ⟨front, front', rest, hne, hfront, hfront'⟩
  · exact hdrop 5 2 _ hwalk₅ rfl 1 (by decide) 1

end Card
end MemoryCard
