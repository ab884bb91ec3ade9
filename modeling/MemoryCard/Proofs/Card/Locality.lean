import MemoryCard.Proofs.Card.Listing

/-! # Damage elsewhere

A walk reads the links of the blocks that it finds, and no others. So it finds the same in every table
that has these links, whatever the rest of the table says: the same blocks, and the same reason to stop.
A file whose blocks keep their links is therefore listed whatever happens to the links of other blocks.
All that these can do to it is to lead other files into its chain.
-/

namespace MemoryCard

namespace Allocation

variable {a a' : Allocation} {first recorded size block : UInt16} {blocks : List UInt16}
  {defect? : Option ChainDefect}

/-- The second table has the links that the first one has for the given blocks. -/
def AgreesOn (a a' : Allocation) (blocks : List UInt16) : Prop :=
  ∀ b ∈ blocks, a'.link? b = a.link? b

/-- The blocks whose links a walk from `first` has read, by what it has found. -/
def blocksRead (first : UInt16) : Except Failure Walk → List UInt16
  | .ok w => w.blocks
  | .error _ => [first]

theorem follow_congr (h : a'.link? block = a.link? block) :
    a'.follow size block = a.follow size block := by
  rw [follow, follow, h]

/-- A path is one in every table that has its links, since the last of them tells why it ends. -/
theorem IsPath.congr (h : a.IsPath size blocks defect?) (hagree : a.AgreesOn a' blocks) :
    a'.IsPath size blocks defect? where
  isData := h.isData
  nodup := h.nodup
  linked := (List.IsChain.iff_mem.1 h.linked).imp fun b _ ⟨hb, _, hlink⟩ ↦ (hagree b hb).trans hlink
  ending := by
    obtain ⟨last, hlast, hending⟩ := h.ending
    refine ⟨last, hlast, ?_⟩
    rw [ending_iff h.five_le_size h.isData] at hending ⊢
    rwa [follow_congr (hagree last (List.mem_of_getLast? hlast))]

theorem walk_eq_of_agreesOn (h : a.AgreesOn a' (blocksRead first (a.walk first recorded size))) :
    a'.walk first recorded size = a.walk first recorded size := by
  cases hw : a.walk first recorded size with
  | error failure =>
      rw [hw] at h
      have hlink : a'.link? first = a.link? first := h first (List.mem_singleton_self first)
      unfold walk at hw ⊢
      rw [hlink]
      split_ifs at hw ⊢ <;> exact hw
  | ok w =>
      rw [hw] at h
      obtain ⟨-, hfree, -⟩ := walk_eq_ok hw
      obtain ⟨hpath, hhead⟩ := walk_isPath hw
      have hlink : a'.link? first = a.link? first := h first (List.mem_of_head? hhead)
      rw [(hpath.congr h).walk_eq hhead (hlink ▸ hfree), ← walk_mismatch hw]

end Allocation

/-- The file, where it may be known or not that it shares blocks with an earlier one. -/
def SaveFile.withCrossLinked (f : SaveFile) (crossLinked : Bool) : SaveFile :=
  { f with issues := { f.issues with crossLinked } }

namespace Listing

variable {t t' : Tables} {size : UInt16} {charset : Charset} {f : SaveFile}

/-- A file whose blocks keep their links stays in the list. -/
theorem exists_mem_ofTables (hdirectory : t'.directory = t.directory)
    (hf : f ∈ (ofTables t size charset).files) (h : t.allocation.AgreesOn t'.allocation f.chain) :
    ∃ crossLinked, f.withCrossLinked crossLinked ∈ (ofTables t' size charset).files := by
  obtain ⟨front, slot, entry, back, hslots, hfile⟩ := mem_build hf
  obtain ⟨w, hwalk, rfl⟩ := file?_eq_some_iff.1 hfile
  have hused : (slot, entry) ∈ t.directory.used := hslots ▸ List.mem_append_right front (by simp)
  have hsame : t'.allocation.walk entry.firstBlock entry.length size =
      t.allocation.walk entry.firstBlock entry.length size :=
    Allocation.walk_eq_of_agreesOn (by rw [hwalk]; exact h)
  rw [ofTables, hdirectory]
  exact exists_mem_build hused (hsame.trans hwalk) charset (Usage.blank size)

/-- Two tables may differ in the links of all blocks but those that a walk has found in the first one,
or its first block if it has found none, and the walk gives the same in the second one. So a regular
file whose blocks keep their links is listed in the same slot with the same chain, the same defect and
the same mismatch, and only other files can come to share blocks with it. -/
theorem damage_elsewhere (a a' : Allocation) (size : UInt16) :
    (∀ first recorded, a.AgreesOn a' (Allocation.blocksRead first (a.walk first recorded size)) →
      a'.walk first recorded size = a.walk first recorded size) ∧
    ∀ t t' charset, t.allocation = a → t'.allocation = a' → t'.directory = t.directory →
      ∀ f ∈ (ofTables t size charset).files, a.AgreesOn a' f.chain →
        ∃ crossLinked, f.withCrossLinked crossLinked ∈ (ofTables t' size charset).files := by
  refine ⟨fun _ _ ↦ Allocation.walk_eq_of_agreesOn, ?_⟩
  rintro t t' charset rfl rfl hdirectory f hf h
  exact exists_mem_ofTables hdirectory hf h

/-- Tables on which the last of three data blocks has the given link. A file of this block stands in
front of one of the two other blocks. -/
def withLastLink (link : UInt16) : Tables :=
  let directory : Directory := ⟨[{ Entry.read .empty 0 with firstBlock := 7, length := 1 },
    { Entry.read .empty 0 with firstBlock := 5, length := 2 }], 0, 0⟩
  let allocation : Allocation := ⟨0, 0, 0, #[6, Allocation.lastLink, link], 0⟩
  ⟨.ofPair Directory.counter ⟨directory, {}, true, none⟩ ⟨directory, {}, true, none⟩,
    .ofPair Allocation.counter ⟨allocation, {}, true, none⟩ ⟨allocation, {}, true, none⟩⟩

/-- After damage to the link of block 7, which now leads to block 5, the file of the blocks 5 and 6 has
the same chain as before. -/
theorem damage_elsewhere_withLastLink :
    (withLastLink 5).allocation.link? 7 ≠ (withLastLink 0xFFFF).allocation.link? 7 ∧
      (withLastLink 0xFFFF).allocation.AgreesOn (withLastLink 5).allocation [5, 6] ∧
      (withLastLink 5).allocation.walk 5 2 8 = .ok ⟨[5, 6], none, none⟩ ∧
      ∃ f ∈ (ofTables (withLastLink 0xFFFF) 8 .ansi).files, f.chain = [5, 6] ∧
        ∃ crossLinked, f.withCrossLinked crossLinked ∈ (ofTables (withLastLink 5) 8 .ansi).files := by
  have hagree : (withLastLink 0xFFFF).allocation.AgreesOn (withLastLink 5).allocation [5, 6] := by
    simp only [Allocation.AgreesOn, List.forall_mem_cons]
    exact ⟨rfl, rfl, nofun⟩
  have hwalk : (withLastLink 0xFFFF).allocation.walk 5 2 8 = .ok ⟨[5, 6], none, none⟩ := by decide
  obtain ⟨hlocal, hlisted⟩ := damage_elsewhere (withLastLink 0xFFFF).allocation
    (withLastLink 5).allocation 8
  have hwalk' := hlocal 5 2 (by rw [hwalk]; exact hagree)
  have hused : (1, { Entry.read .empty 0 with firstBlock := 5, length := 2 }) ∈
      (withLastLink 0xFFFF).directory.used := List.mem_of_getLast? rfl
  obtain ⟨crossLinked, hf⟩ := exists_mem_build hused hwalk .ansi (Usage.blank 8)
  exact ⟨by decide, hagree, hwalk'.trans hwalk, _, hf, rfl, hlisted _ _ _ rfl rfl rfl _ hf hagree⟩

end Listing
end MemoryCard
