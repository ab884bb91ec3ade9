import MemoryCard.Proofs.Card.ChosenChain
import MemoryCard.Proofs.Card.Safety

/-! # Reading from files

The data of a file are the bytes of its blocks, one block after the other in the order of the chain,
wherever on the card these lie. Whatever part of the data is asked for, it is read as that slice of them,
or it is refused before any block is looked at. The comments are two such slices.
-/

namespace MemoryCard

open Careful

namespace SaveFile

variable {f : SaveFile} {image : Image} {blocks : List Bytes}

/-! ## Chains as slices -/

section Chain

variable {chain : List UInt16}

theorem length_data (h : chain.mapM (fun block ↦ image.block block.toNat) = .ok blocks) :
    (blocks.flatMap Bytes.all).length = chain.length * blockSize := by
  induction chain generalizing blocks with
  | nil =>
      cases h
      rfl
  | cons block rest ih =>
      obtain ⟨first, others, hfirst, hothers, rfl⟩ := mapM_cons_eq_ok.1 h
      rw [List.flatMap_cons, List.length_append, ih hothers, Bytes.length_all,
        Image.size_block hfirst, List.length_cons, Nat.succ_mul, Nat.add_comm]

/-- What is read from the blocks of a chain is a slice of their bytes in order. -/
theorem readChain_eq_slice (h : chain.mapM (fun block ↦ image.block block.toNat) = .ok blocks)
    (skip len : Nat) : ∃ data, readChain image chain skip len = .ok data ∧
      data.all = ((blocks.flatMap Bytes.all).drop skip).take len := by
  induction chain generalizing skip len blocks with
  | nil =>
      cases h
      exact ⟨.empty, readChain_nil image skip len, by simp [Bytes.all]⟩
  | cons block rest ih =>
      obtain ⟨first, others, hfirst, hothers, rfl⟩ := mapM_cons_eq_ok.1 h
      have hsize : first.all.length = blockSize := Image.size_block hfirst
      rw [readChain, List.flatMap_cons]
      split_ifs with hlen hskip
      · exact ⟨.empty, rfl, by simp [hlen, Bytes.all]⟩
      · -- nothing is read from the first block
        obtain ⟨data, hdata, hslice⟩ := ih hothers (skip - blockSize) len
        refine ⟨data, hdata, ?_⟩
        rw [hslice, List.drop_append, List.drop_of_length_le (l := first.all) (by omega),
          List.nil_append, hsize]
      · obtain ⟨more, hmore, hslice⟩ := ih hothers 0 (len - min (blockSize - skip) len)
        rw [hfirst, ok_bind, hmore, ok_bind]
        refine ⟨_, rfl, ?_⟩
        rw [Bytes.all_append, Bytes.all_extract, hslice, List.drop_zero,
          Bytes.take_drop_append (by omega), hsize]

end Chain

/-! ## Files as slices -/

/-- The file has these data. Whatever part of them is asked for, reading ends after one turn for each block
and looks for nothing that is not there. A part of the data is read as it is, and what goes beyond them is
refused whatever the image holds. -/
structure HasData (f : SaveFile) (image : Image) (payload : List UInt8) : Prop where
  length : payload.length = f.capacity
  careful : ∀ offset len, f.readAt? image offset len = of (f.readAt image offset len)
  readAt : ∀ offset len, offset + len ≤ payload.length →
    f.readAt image offset len = .ok ((payload.drop offset).take len).toByteArray
  refused : ∀ offset len, payload.length < offset + len → ∀ other, f.readAt other offset len =
    .error (.tooShort "file data" (min (offset + len) (addressLimit - 1)) payload.length)
  commentsCareful : f.comments? image = of (f.comments image)
  comments : f.entry.commentAddress.toNat + 2 * commentWidth ≤ payload.length →
    f.comments image = .ok (
      Text.title ((payload.drop f.entry.commentAddress.toNat).take commentWidth) f.charset,
      Text.title ((payload.drop (f.entry.commentAddress.toNat + commentWidth)).take commentWidth)
        f.charset)
  commentsRefused : payload.length < f.entry.commentAddress.toNat + 2 * commentWidth →
    ∀ other, f.comments other = .error
      (.tooShort "file data" (f.entry.commentAddress.toNat + 2 * commentWidth) payload.length)

theorem readAt_of_lt {offset len : Nat} (h : f.capacity < offset + len) (image : Image) :
    f.readAt image offset len =
      .error (.tooShort "file data" (min (offset + len) (addressLimit - 1)) f.capacity) :=
  if_neg fun hfits ↦ Nat.not_le.2 h hfits.1

theorem readAt_eq_slice (h : f.blocks image = .ok blocks) (hlimit : f.capacity < addressLimit)
    {offset len : Nat} (hfits : offset + len ≤ f.capacity) :
    f.readAt image offset len =
      .ok (((blocks.flatMap Bytes.all).drop offset).take len).toByteArray := by
  obtain ⟨data, hdata, hslice⟩ := readChain_eq_slice h offset len
  rw [readAt, if_pos ⟨hfits, hfits.trans_lt hlimit⟩, hdata, Bytes.eq_toByteArray hslice]

/-- A file whose chain is in the image has the bytes of its blocks as its data. -/
theorem hasData_of_blocks (h : f.blocks image = .ok blocks) (hlimit : f.capacity < addressLimit) :
    f.HasData image (blocks.flatMap Bytes.all) := by
  have hlength : (blocks.flatMap Bytes.all).length = f.capacity := length_data h
  have haddress := f.entry.commentAddress.toNat_lt
  exact {
    length := hlength
    careful := f.readAt?_eq image
    readAt offset len hfits := readAt_eq_slice h hlimit (hlength ▸ hfits)
    refused offset len hbeyond other := by
      rw [hlength] at hbeyond ⊢
      exact readAt_of_lt hbeyond other
    commentsCareful := f.comments?_eq image
    comments hfits := by
      rw [SaveFile.comments, readAt_eq_slice h hlimit (hlength ▸ hfits), ok_bind, Bytes.slice_eq,
        Bytes.slice_eq, Bytes.all_toByteArray, Bytes.take_drop_take_drop (by decide),
        Bytes.take_drop_take_drop (by decide)]
      rfl
    commentsRefused hbeyond other := by
      rw [hlength] at hbeyond ⊢
      have hplace : f.entry.commentAddress.toNat + 2 * commentWidth ≤ addressLimit - 1 := by
        simp only [commentWidth, addressLimit]
        omega
      rw [SaveFile.comments, readAt_of_lt hbeyond, error_bind, Nat.min_eq_left hplace] }

end SaveFile

namespace Card

variable {c : Card} {f : SaveFile}

theorem Reachable.capacity_lt (h : c.Reachable) (hf : f ∈ c.files) : f.capacity < addressLimit := by
  have hproper := h.consistent.ownership.proper f hf
  have hlength := length_lt_of_nodup hproper.isData hproper.nodup
  simp only [SaveFile.capacity, blockSize, addressLimit]
  omega

/-- On a card with which anything may have been done, every file has the bytes of its blocks as its
data, in the order of its chain. -/
theorem hasData (h : c.Reachable) (hf : f ∈ c.files) :
    ∃ blocks, f.blocks c.image = .ok blocks ∧
      f.HasData c.image (blocks.flatMap Bytes.all) :=
  ⟨_, h.blocks_eq_ok hf, SaveFile.hasData_of_blocks (h.blocks_eq_ok hf) (h.capacity_lt hf)⟩

/-- A chain that can be chosen for an entry gives a file with this chain. -/
theorem Reachable.exists_chosen (h : c.Reachable) {e : Entry} {chain : List UInt16}
    (hfits : c.Fits e chain) : ∃ r f, Operation.run c [.addLostChain e chain] = r ∧ r.Reachable ∧
      r.image = c.image ∧ f ∈ r.files ∧ f.entry = e ∧ f.chain = chain := by
  refine ⟨_, c.lostFile e (.chosen e chain), rfl, h.run _, ?_⟩
  rw [Operation.run, Operation.run, Operation.apply,
    h.consistent.addLostChain_eq_iff.2 (.accepted hfits), Outcome.indices]
  exact ⟨rfl, List.mem_append_right _ List.mem_cons_self, rfl, rfl⟩

/-- The lost save with one comment at the end of its first block and one at the beginning of the second. -/
def splitComments : Entry := { strayEntry with commentAddress := 0x1FE0 }

/-- Where block 6 of the card stands in front of block 5, the entry follows zeros. -/
theorem slice_strayBytes : ((strayBytes.slice (6 * blockSize) blockSize ++
    strayBytes.slice (5 * blockSize) blockSize).drop 0x1FFE).take 4 = [0, 0, 0x47, 0x41] := by
  have hsize := size_strayBytes
  have hfront : (strayBytes.slice (6 * blockSize) blockSize).length = blockSize :=
    Bytes.length_slice (by rw [hsize]; decide)
  have hpair (pos : Nat) (h : pos + 2 ≤ 8 * blockSize) :
      strayBytes.slice pos 2 = [strayBytes.byte pos, strayBytes.byte (pos + 1)] := by
    rw [Bytes.slice_cons (by omega), Bytes.slice_cons (by omega), Bytes.slice_eq, List.take_zero]
  calc ((strayBytes.slice (6 * blockSize) blockSize ++
      strayBytes.slice (5 * blockSize) blockSize).drop 0x1FFE).take 4
    _ = ((strayBytes.slice (6 * blockSize) blockSize).drop 0x1FFE).take 2 ++
          ((strayBytes.slice (5 * blockSize) blockSize).drop 0).take 2 := by
      rw [Bytes.take_drop_append (by rw [hfront]; decide), hfront, List.drop_zero]
      rfl
    _ = strayBytes.slice (6 * blockSize + 0x1FFE) 2 ++ strayBytes.slice (5 * blockSize) 2 := by
      rw [Bytes.take_drop_slice (by decide), Bytes.take_drop_slice (by decide)]
      rfl
    _ = [0, 0, 0x47, 0x41] := by
      rw [hpair _ (by decide), hpair _ (by decide), byte_strayBytes (.inr (by decide)),
        byte_strayBytes (.inr (by decide)), agree_strayBytes 1 (by decide),
        agree_strayBytes.byte_eq (by decide)]
      decide

/-- The blocks of a lost save are taken up in the wrong order. What is read across the end of the first one
goes on at the start of the other. -/
theorem hasData_splitComments : ∃ r f,
    Operation.run strayCard [.addLostChain splitComments [6, 5]] = r ∧ r.Reachable ∧ f ∈ r.files ∧
      f.entry = splitComments ∧ f.chain = [6, 5] ∧
      f.readAt r.image 0x1FFE 4 = .ok [0, 0, 0x47, 0x41].toByteArray ∧
      f.readAt r.image 0x3FFE 4 = .error (.tooShort "file data" 0x4002 0x4000) ∧
      f.readAt r.image 0x4000 0 = .ok [].toByteArray ∧
      ∃ comments, f.comments r.image = .ok comments := by
  have hproper : ProperChain strayCard.size [6, 5] := by
    rw [size_strayCard]
    exact ⟨by simp, by simp, List.forall_mem_cons.2 ⟨rfl, List.forall_mem_singleton.2 rfl⟩⟩
  have hfits : strayCard.Fits splitComments [6, 5] :=
    ⟨rfl, hproper, by simp [Owns, files_strayCard]⟩
  obtain ⟨r, f, hrun, hreach, himage, hf, hentry, hchain⟩ := reachable_strayCard.exists_chosen hfits
  obtain ⟨blocks, hblocks, hdata⟩ := hasData hreach hf
  have hpayload : blocks.flatMap Bytes.all = strayBytes.slice (6 * blockSize) blockSize ++
      strayBytes.slice (5 * blockSize) blockSize := by
    rw [Except.ok.inj (hblocks.symm.trans (hreach.blocks_eq_ok hf)), hchain, himage,
      bytes_strayCard]
    simp only [List.map_cons, List.map_nil, List.flatMap_cons, List.flatMap_nil, List.append_nil,
      Bytes.all_extract, ← Bytes.slice_eq, UInt16.reduceToNat]
  have hlength : (blocks.flatMap Bytes.all).length = 2 * blockSize := by
    rw [hdata.length, SaveFile.capacity, hchain]
    rfl
  refine ⟨r, f, hrun, hreach, hf, hentry, hchain, ?_, ?_, ?_, ?_⟩
  · rw [hdata.readAt _ _ (by rw [hlength]; decide), hpayload, slice_strayBytes]
  · rw [hdata.refused _ _ (by rw [hlength]; decide), hlength]
    rfl
  · rw [hdata.readAt _ _ (by rw [hlength]; decide), List.take_zero]
  · exact ⟨_, hdata.comments (by rw [hlength, hentry]; decide)⟩

end Card
end MemoryCard
