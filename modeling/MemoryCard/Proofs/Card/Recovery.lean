import MemoryCard.Proofs.Card.Ownership
import MemoryCard.Proofs.Card.Search

/-! # Taking up what a search has found

Whatever a search finds is fit to be taken up: a credible entry is used, and its blocks in a row are
data blocks of the card, so there is always a chain for it. The only thing that can stand in its way
is another file, one that is on the card already or one that was found in front of it.
-/

namespace MemoryCard

/-! ## Credible entries -/

namespace Entry

variable {e : Entry} {size : UInt16}

theorem isUnused_of_isCredible (h : e.isCredible size = true) : e.isUnused = false := by
  simp only [isCredible, id, Bool.and_eq_true, List.all_append] at h
  obtain ⟨⟨⟨⟨⟨⟨⟨⟨hcode, -⟩, -⟩, -⟩, -⟩, -⟩, -⟩, -⟩, -⟩ := h
  refine Bool.eq_false_iff.2 fun hunused ↦ ?_
  have hfirst : e.gameCode[0] ∈ e.gameCode.toList := by simp
  have hletter := List.all_eq_true.1 hcode _ hfirst
  rw [beq_iff_eq.1 (List.all_eq_true.1 hunused _ hfirst)] at hletter
  cases hletter

/-- The blocks of a credible entry in a row are data blocks of the card. -/
theorem bounds_of_isCredible (h : e.isCredible size = true) :
    5 ≤ e.firstBlock.toNat ∧ 0 < e.length.toNat ∧
      e.firstBlock.toNat + e.length.toNat ≤ size.toNat := by
  simp only [isCredible, Bool.and_eq_true, decide_eq_true_eq, bne_iff_ne, isDataBlock_iff] at h
  obtain ⟨⟨⟨⟨⟨-, hfirst, -⟩, hlength⟩, -⟩, hstop⟩, -⟩ := h
  refine ⟨hfirst, Nat.pos_of_ne_zero fun e ↦ hlength (UInt16.toNat_inj.1 e), hstop⟩

/-- The block behind the last one of an entry, as far as 16 bits go. -/
theorem toNat_stopBlock (e : Entry) :
    e.stopBlock.toNat = min (e.firstBlock.toNat + e.length.toNat) 0xFFFF := by
  rw [stopBlock, blockAfter]
  split
  · rw [UInt16.toNat_add]
    omega
  · show 0xFFFF = _
    omega

/-- A save that lies in one piece takes up as many blocks as its entry says. -/
theorem stopBlock_sub (h : e.isCredible size = true) :
    e.stopBlock.toNat - e.firstBlock.toNat = e.length.toNat := by
  obtain ⟨-, -, hstop⟩ := bounds_of_isCredible h
  have hsize := size.toNat_lt
  rw [toNat_stopBlock]
  omega

theorem isRow_of_isCredible (h : e.isCredible size = true) :
    IsRow size e.firstBlock e.stopBlock := by
  obtain ⟨hfirst, hlength, hstop⟩ := bounds_of_isCredible h
  have hlen := stopBlock_sub h
  exact ⟨hfirst, by omega, by omega⟩

end Entry

namespace Card

variable {c : Card} {o : ScanOptions} {found : List Sighting} {s : Sighting}

/-! ## Chains of sightings -/

/-- The chain of an entry by the links of the allocation table in use if they lead to its end
without a defect, and its blocks in a row otherwise. -/
def proposalFor (c : Card) (e : Entry) : Proposal :=
  match c.tables.allocation.walk e.firstBlock e.length c.size with
  | .ok walk =>
    if walk.isSound then .ofWalk walk
    else ⟨blockRow e.firstBlock.toNat e.length.toNat, .contiguous, {}⟩
  | .error _ => ⟨blockRow e.firstBlock.toNat e.length.toNat, .contiguous, {}⟩

theorem propose_of_isCredible {e : Entry} (h : e.isCredible c.size = true) :
    c.propose e e.firstBlock e.stopBlock = .ok (c.proposalFor e) := by
  have hrow := Entry.isRow_of_isCredible h
  rw [propose, Proposal.ofEntry_of_used (Entry.isUnused_of_isCredible h), Entry.stopBlock_sub h,
    proposalFor]
  cases c.tables.allocation.walk e.firstBlock e.length c.size with
  | error failure => exact if_pos hrow
  | ok w => cases hdefect : w.defect? <;> simp [Walk.isSound, hdefect, hrow]

theorem IsSighting.proposeSighting (hs : c.IsSighting o s) (h : c.Stands s) :
    c.proposeSighting s = .ok (c.proposalFor s.entry) := by
  rw [Card.proposeSighting, h.hints]
  split <;> exact propose_of_isCredible hs.credible

/-- Nothing but another file stands in the way of a sighting. -/
theorem IsSighting.salvageSighting_error (hs : c.IsSighting o s) (h : c.Stands s)
    {reserved : BlockSet} {failure : Failure}
    (hfailure : c.salvageSighting reserved s = .error failure) :
    ∃ b ∈ (c.proposalFor s.entry).chain, failure = .overlap b := by
  rw [salvageSighting_eq, hs.proposeSighting h, ok_bind] at hfailure
  obtain ⟨b, hb, e⟩ := accept_eq_error.1 hfailure
  exact ⟨b, List.mem_of_find?_eq_some hb, e⟩

/-! ## One after the other -/

/-- The file that is made of a sighting. -/
def fileFor (c : Card) (s : Sighting) : SaveFile := c.lostFile s.entry (c.proposalFor s.entry)

theorem isFree_insertAll {reserved : BlockSet} {taken chain : List UInt16} :
    c.IsFree (reserved.insertAll taken) chain ↔ c.IsFree reserved chain ∧ chain.Disjoint taken := by
  simp only [IsFree, BlockSet.contains_insertAll, Bool.or_eq_false_iff, List.contains_eq_mem,
    decide_eq_false_iff_not]
  constructor
  · intro h
    exact ⟨fun b hb ↦ ⟨(h b hb).1, (h b hb).2.1⟩, fun b hb ↦ (h b hb).2.2⟩
  · rintro ⟨hfree, hdisjoint⟩ b hb
    exact ⟨(hfree b hb).1, (hfree b hb).2, fun ht ↦ hdisjoint hb ht⟩

/-- A sighting is kept if its chain is free and apart from those of the sightings kept in front of
it. -/
def IsHarvest (c : Card) (reserved : BlockSet) (sightings kept : List Sighting) : Prop :=
  ∀ front s back, sightings = front ++ s :: back →
    (s ∈ kept ↔ c.IsFree reserved (c.fileFor s).chain ∧
      ∀ t ∈ front, t ∈ kept → (c.fileFor s).chain.Disjoint (c.fileFor t).chain)

theorem IsHarvest.keep {reserved : BlockSet} {sightings kept : List Sighting} (hs : s ∉ sightings)
    (hfree : c.IsFree reserved (c.fileFor s).chain)
    (h : c.IsHarvest (reserved.insertAll (c.fileFor s).chain) sightings kept) :
    c.IsHarvest reserved (s :: sightings) (s :: kept) := by
  intro front t back e
  rcases List.cons_eq_append_iff.1 e with ⟨rfl, e⟩ | ⟨front, rfl, rfl⟩
  · cases e
    simp [hfree]
  · have hne {u : Sighting} (hu : u ∈ front ++ t :: back) : u ≠ s := fun e ↦ hs (e ▸ hu)
    have hmem {u : Sighting} (hu : u ∈ front ++ t :: back) : u ∈ s :: kept ↔ u ∈ kept := by
      rw [List.mem_cons, or_iff_right (hne hu)]
    rw [hmem (by simp), h front t back rfl, isFree_insertAll, List.forall_mem_cons, and_assoc]
    refine and_congr_right fun _ ↦ and_congr (by simp) ?_
    exact forall₂_congr fun u hu ↦ by rw [hmem (by simp [hu])]

theorem IsHarvest.skip {reserved : BlockSet} {sightings kept : List Sighting} (hs : s ∉ kept)
    (hfree : ¬ c.IsFree reserved (c.fileFor s).chain) (h : c.IsHarvest reserved sightings kept) :
    c.IsHarvest reserved (s :: sightings) kept := by
  intro front t back e
  rcases List.cons_eq_append_iff.1 e with ⟨rfl, e⟩ | ⟨front, rfl, rfl⟩
  · cases e
    simp [hfree, hs]
  · rw [h front t back rfl, List.forall_mem_cons]
    simp [hs]

theorem salvageAll_isHarvest {sightings : List Sighting} (hnodup : sightings.Nodup)
    (hpropose : ∀ s ∈ sightings, c.proposeSighting s = .ok (c.proposalFor s.entry))
    (reserved : BlockSet) : ∃ kept, kept.Sublist sightings ∧
      c.salvageAll reserved sightings = kept.map c.fileFor ∧
      c.IsHarvest reserved sightings kept := by
  -- a file that is accepted is reserved for the rest, so the claim is about every reserved set
  induction sightings generalizing reserved with
  | nil => exact ⟨[], .slnil, rfl, fun front s back e ↦ by simp at e⟩
  | cons s rest ih =>
      obtain ⟨hs, hnodup⟩ := List.nodup_cons.1 hnodup
      obtain ⟨hproposal, hpropose⟩ := List.forall_mem_cons.1 hpropose
      cases htry : c.salvageSighting reserved s with
      | error failure =>
          obtain ⟨kept, hsub, hfiles, hharvest⟩ := ih hnodup hpropose reserved
          rw [salvageAll_cons_error htry]
          refine ⟨kept, hsub.cons s, hfiles, hharvest.skip (fun hmem ↦ hs (hsub.subset hmem)) ?_⟩
          intro hfree
          rw [salvageSighting_eq_ok.2 ⟨_, hproposal, hfree, rfl⟩] at htry
          cases htry
      | ok f =>
          obtain ⟨p, hp, hfree, rfl⟩ := salvageSighting_eq_ok.1 htry
          cases hproposal.symm.trans hp
          obtain ⟨kept, hsub, hfiles, hharvest⟩ := ih hnodup hpropose _
          rw [salvageAll_cons_ok htry]
          exact ⟨s :: kept, hsub.cons_cons s, congrArg (c.fileFor s :: ·) hfiles,
            hharvest.keep hs hfree⟩

/-! ## What a search has found -/

/-- Data blocks are free if no file on the card has them. -/
theorem Consistent.isFree_iff (h : c.Consistent) {chain : List UInt16}
    (hdata : ∀ b ∈ chain, isDataBlock c.size b = true) :
    c.IsFree (.ofList c.lostBlocks) chain ↔ ∀ f ∈ c.files, chain.Disjoint f.chain := by
  have hlost (b : UInt16) : (BlockSet.ofList c.lostBlocks).contains b = false ↔
      ∀ f ∈ c.lostFiles, b ∉ f.chain := by
    simp only [lostBlocks, BlockSet.contains_ofList, List.contains_eq_mem, decide_eq_false_iff_not,
      List.mem_flatMap, not_exists, not_and]
  have hfree : c.IsFree (.ofList c.lostBlocks) chain ↔ ∀ b ∈ chain, ∀ f ∈ c.files, b ∉ f.chain := by
    refine forall₂_congr fun b hb ↦ ?_
    rw [h.count_eq_zero (hdata b hb), hlost, c.files_eq, List.forall_mem_append]
  rw [hfree]
  exact ⟨fun h f hf b hb ↦ h b hb f hf, fun h b hb f hf ↦ h f hf hb⟩

/-- What taking up all that was found does to a card, where `kept` has what was found and not
refused. -/
structure IsTakenUp (c : Card) (found kept : List Sighting) : Prop where
  sublist : kept.Sublist found
  result : (c.addSightings found).result = .ok (List.range' c.files.length kept.length)
  card : (c.addSightings found).card = c.extend (kept.map c.fileFor)
  credible : ∀ s ∈ kept, (c.fileFor s).origin = .lost (c.proposalFor s.entry).basis true
  /-- A sighting is refused for a file on the card or for one that was kept in front of it. -/
  mem_kept : ∀ front s back, found = front ++ s :: back →
    (s ∈ kept ↔ (∀ f ∈ c.files, (c.fileFor s).chain.Disjoint f.chain) ∧
      ∀ t ∈ front, t ∈ kept → (c.fileFor s).chain.Disjoint (c.fileFor t).chain)

/-- Whatever a search has found has a chain, is refused for other files only, and is taken up in
order. -/
theorem addSightings_scan (h : c.Reachable) (hscan : c.scan o = .ok found) :
    (∀ s ∈ found, c.proposeSighting s = .ok (c.proposalFor s.entry)) ∧
      (∀ s ∈ found, ∀ reserved failure, c.salvageSighting reserved s = .error failure →
        ∃ b ∈ (c.proposalFor s.entry).chain, failure = .overlap b) ∧
      ∃ kept, c.IsTakenUp found kept := by
  have hresult := isSearchResult_of_scan h hscan
  have hsighting {s : Sighting} (hs : s ∈ found) : c.IsSighting o s := ((hresult.mem_iff s).1 hs).1
  have hpropose (s : Sighting) (hs : s ∈ found) :
      c.proposeSighting s = .ok (c.proposalFor s.entry) :=
    (hsighting hs).proposeSighting (hresult.stands s hs)
  have hnodup : found.Nodup := hresult.keys.imp fun hkey e ↦ hkey (congrArg Sighting.key e)
  have herror (s : Sighting) (hs : s ∈ found) (reserved : BlockSet) (failure : Failure)
      (hfailure : c.salvageSighting reserved s = .error failure) :
      ∃ b ∈ (c.proposalFor s.entry).chain, failure = .overlap b :=
    (hsighting hs).salvageSighting_error (hresult.stands s hs) hfailure
  obtain ⟨kept, hsub, hfiles, hharvest⟩ :=
    salvageAll_isHarvest hnodup hpropose (.ofList c.lostBlocks)
  refine ⟨hpropose, herror, kept, hsub, ?_, ?_, ?_, ?_⟩
  · rw [addSightings, hfiles, List.length_map]
  · rw [addSightings_card, hfiles]
  · intro s hs
    exact congrArg (Origin.lost _) (hsighting (hsub.subset hs)).credible
  · intro front s back e
    have hproper := proposeSighting_proper (hpropose s (by simp [e]))
    rw [hharvest front s back e]
    exact and_congr_left' (h.consistent.isFree_iff hproper.isData)

/-- The save that is lost on a card is found and taken up. -/
theorem addSightings_scan_strayCard :
    strayCard.Reachable ∧ ∃ found, strayCard.scan {} = .ok found ∧
      (strayCard.addSightings found).card.files =
        [strayCard.fileFor (.of strayEntry (5 * blockSize) .blockPool)] := by
  obtain ⟨-, -, kept, htaken⟩ := addSightings_scan reachable_strayCard scan_strayCard
  refine ⟨reachable_strayCard, _, scan_strayCard, ?_⟩
  have hmem := (htaken.mem_kept [] _ [] rfl).2 ⟨by simp [files_strayCard], by simp⟩
  have hkept := htaken.sublist.eq_of_length_le (List.length_pos_of_mem hmem)
  rw [htaken.card, hkept, extend, files_strayCard]
  rfl

end Card
end MemoryCard
