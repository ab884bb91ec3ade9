import MemoryCard.Proofs.Card.ChosenChain
import Mathlib.Data.List.Find

/-! # The order of sightings

In a batch, a sighting that is taken up reserves its blocks for all that come behind it, and one that
is refused leaves no trace. Which chain a sighting has does not depend on what is reserved. So sightings
whose chains have no block in common have no influence on each other, in whatever order they come.
-/

namespace MemoryCard.Card

variable {c : Card} {s t : Sighting} {sightings : List Sighting} {reserved : BlockSet}

/-! ## Verdicts -/

/-- What becomes of each sighting of a batch in turn, with some blocks reserved in front of it. -/
def judgeAll (c : Card) : BlockSet → List Sighting → List (Except Failure SaveFile)
  | _, [] => []
  | reserved, s :: rest =>
    match c.salvageSighting reserved s with
    | .ok f => .ok f :: judgeAll c (reserved.insertAll f.chain) rest
    | .error failure => .error failure :: judgeAll c reserved rest

theorem judgeAll_cons_error {failure : Failure}
    (h : c.salvageSighting reserved s = .error failure) :
    c.judgeAll reserved (s :: sightings) = .error failure :: c.judgeAll reserved sightings := by
  rw [judgeAll, h]

theorem judgeAll_cons_ok {f : SaveFile} (h : c.salvageSighting reserved s = .ok f) :
    c.judgeAll reserved (s :: sightings) =
      .ok f :: c.judgeAll (reserved.insertAll f.chain) sightings := by
  rw [judgeAll, h]

/-- The files of a batch are those of the sightings that are not refused. -/
theorem salvageAll_eq (reserved : BlockSet) (sightings : List Sighting) :
    c.salvageAll reserved sightings =
      (c.judgeAll reserved sightings).filterMap Except.toOption := by
  induction sightings generalizing reserved with
  | nil => rfl
  | cons s rest ih =>
      cases htry : c.salvageSighting reserved s with
      | error failure => rw [salvageAll_cons_error htry, judgeAll_cons_error htry, ih]; rfl
      | ok f => rw [salvageAll_cons_ok htry, judgeAll_cons_ok htry, ih]; rfl

/-- Leaving out a sighting that is refused changes nothing about the others. -/
theorem judgeAll_eraseIdx {i : Nat} {failure : Failure}
    (h : (c.judgeAll reserved sightings)[i]? = some (.error failure)) :
    c.judgeAll reserved (sightings.eraseIdx i) = (c.judgeAll reserved sightings).eraseIdx i := by
  induction sightings generalizing reserved i with
  | nil => cases h
  | cons s rest ih =>
      cases htry : c.salvageSighting reserved s with
      | error failure' =>
          rw [judgeAll_cons_error htry] at h ⊢
          cases i with
          | zero => rfl
          | succ i =>
              rw [List.getElem?_cons_succ] at h
              rw [List.eraseIdx_cons_succ, List.eraseIdx_cons_succ, judgeAll_cons_error htry, ih h]
      | ok f =>
          rw [judgeAll_cons_ok htry] at h ⊢
          cases i with
          | zero => cases h
          | succ i =>
              rw [List.getElem?_cons_succ] at h
              rw [List.eraseIdx_cons_succ, List.eraseIdx_cons_succ, judgeAll_cons_ok htry, ih h]

theorem salvageAll_eraseIdx {i : Nat} {failure : Failure}
    (h : (c.judgeAll reserved sightings)[i]? = some (.error failure)) :
    c.salvageAll reserved (sightings.eraseIdx i) = c.salvageAll reserved sightings := by
  obtain ⟨hi, hfailure⟩ := List.getElem?_eq_some_iff.1 h
  rw [salvageAll_eq, salvageAll_eq, judgeAll_eraseIdx h, List.eraseIdx_eq_take_drop_succ,
    List.filterMap_append]
  conv_rhs => rw [← List.take_append_drop i (c.judgeAll reserved sightings),
    List.drop_eq_getElem_cons hi, hfailure, List.filterMap_append]
  rfl

/-! ## Sightings with chains apart -/

/-- The chain that a sighting has, whatever other files have. -/
def Suits (c : Card) (s : Sighting) (p : Proposal) : Prop :=
  Proposal.Proposed c.tables.allocation c.size s.entry s.bounds.1 s.bounds.2 (.ok p)

/-- The chains of two sightings that have one have no block in common. -/
def Apart (c : Card) (s t : Sighting) : Prop :=
  ∀ p q, c.Suits s p → c.Suits t q → p.chain.Disjoint q.chain

theorem Suits.unique {p q : Proposal} (hp : c.Suits s p) (hq : c.Suits s q) : p = q :=
  Except.ok.inj ((Proposal.ofEntry_eq_iff.2 hp).symm.trans (Proposal.ofEntry_eq_iff.2 hq))

theorem Suits.proper {p : Proposal} (h : c.Suits s p) : ProperChain c.size p.chain :=
  Proposal.ofEntry_proper (Proposal.ofEntry_eq_iff.2 h)

theorem Apart.symm (h : c.Apart s t) : c.Apart t s :=
  fun p q hp hq ↦ (h q p hq hp).symm

theorem salvageSighting_eq_ok_iff {f : SaveFile} : c.salvageSighting reserved s = .ok f ↔
    ∃ p, c.Suits s p ∧ c.IsFree reserved p.chain ∧ f = c.lostFile s.entry p := by
  simp only [salvageSighting_eq_ok, proposeSighting_eq_iff, Suits]

/-- Reserving blocks that are not in a chain makes no difference to it. -/
theorem accept_insertAll {e : Entry} {p : Proposal} {taken : List UInt16}
    (h : p.chain.Disjoint taken) :
    c.accept (reserved.insertAll taken) e p = c.accept reserved e p := by
  have hoverlap : c.overlap? (reserved.insertAll taken) p.chain = c.overlap? reserved p.chain :=
    List.find?_congr fun b hb ↦ by
      have hnot : taken.contains b = false := by simpa using fun ht ↦ h hb ht
      rw [BlockSet.contains_insertAll, hnot, Bool.or_false]
  rw [accept, accept, hoverlap]

theorem Apart.salvageSighting_insertAll (h : c.Apart s t) {f : SaveFile}
    (hf : c.salvageSighting reserved s = .ok f) (reserved' : BlockSet) :
    c.salvageSighting (reserved'.insertAll f.chain) t = c.salvageSighting reserved' t := by
  obtain ⟨p, hp, -, rfl⟩ := salvageSighting_eq_ok_iff.1 hf
  rw [salvageSighting_eq, salvageSighting_eq]
  cases hpropose : c.proposeSighting t with
  | error failure => rfl
  | ok q => exact accept_insertAll (h p q hp (proposeSighting_eq_iff.1 hpropose)).symm

/-- Each sighting gets the verdict that it would get alone. -/
theorem judgeAll_eq_map (h : sightings.Pairwise c.Apart) (reserved : BlockSet) :
    c.judgeAll reserved sightings = sightings.map (c.salvageSighting reserved) := by
  induction sightings generalizing reserved with
  | nil => rfl
  | cons s rest ih =>
      obtain ⟨hs, hrest⟩ := List.pairwise_cons.1 h
      rw [List.map_cons]
      cases htry : c.salvageSighting reserved s with
      | error failure => rw [judgeAll_cons_error htry, ih hrest]
      | ok f =>
          rw [judgeAll_cons_ok htry, ih hrest]
          -- the rest has been judged with more blocks reserved, none of which is in its chains
          exact congrArg (.ok f :: ·) (List.map_congr_left fun t ht ↦
            (hs t ht).salvageSighting_insertAll htry reserved)

/-! ## Batches -/

/-- The file that a sighting would get if it were taken up alone. -/
def fileAlone? (c : Card) (s : Sighting) : Option SaveFile :=
  (c.salvageSighting (.ofList c.lostBlocks) s).toOption

/-- A sighting is taken up alone exactly if it has a chain of which no file has a block. -/
theorem Consistent.fileAlone?_eq_some_iff (h : c.Consistent) {f : SaveFile} :
    c.fileAlone? s = some f ↔
      ∃ p, c.Suits s p ∧ (∀ b ∈ p.chain, ¬ c.Owns b) ∧ f = c.lostFile s.entry p := by
  have hsome : c.fileAlone? s = some f ↔ c.salvageSighting (.ofList c.lostBlocks) s = .ok f := by
    rw [fileAlone?]
    cases c.salvageSighting (.ofList c.lostBlocks) s <;> simp [Except.toOption]
  rw [hsome, salvageSighting_eq_ok_iff]
  refine exists_congr fun p ↦ and_congr_right fun hp ↦ ?_
  rw [h.isFree_iff_not_owns hp.proper.isData]

/-- The files of a batch of independent sightings stand in the order of the sightings. -/
theorem salvageAll_eq_filterMap (h : sightings.Pairwise c.Apart) :
    c.salvageAll (.ofList c.lostBlocks) sightings = sightings.filterMap c.fileAlone? := by
  rw [salvageAll_eq, judgeAll_eq_map h, List.filterMap_map]
  rfl

/-- The result and the messages of a batch depend on how many files it has. -/
theorem addSightings_congr {more : List Sighting}
    (h : (c.salvageAll (.ofList c.lostBlocks) more).length =
      (c.salvageAll (.ofList c.lostBlocks) sightings).length) :
    (c.addSightings more).result = (c.addSightings sightings).result ∧
      (c.addSightings more).events = (c.addSightings sightings).events := by
  refine ⟨?_, ?_⟩
  · rw [addSightings, addSightings, h]
  · show (c.append _).2 = (c.append _).2
    rw [append_snd, append_snd, h]

/-- On a card with which anything may have been done, let the chains that sightings have be apart. Then
in any order each of them gets the verdict that it gets alone, and the batch has the files of those that
are taken up alone, with the same chains and the same issues, in the order of the sightings. In any
batch, a sighting that is refused can be left out: the others get the same verdicts, and the outcome is
the same. -/
theorem addSightings_order (h : c.Reachable) (sightings : List Sighting) :
    (sightings.Pairwise c.Apart → ∀ order : List Sighting, order.Perm sightings →
      c.judgeAll (.ofList c.lostBlocks) order =
          order.map (c.salvageSighting (.ofList c.lostBlocks)) ∧
        (c.addSightings order).card = c.extend (order.filterMap c.fileAlone?) ∧
        (c.addSightings order).result = (c.addSightings sightings).result ∧
        (c.addSightings order).events = (c.addSightings sightings).events) ∧
    (∀ s f, c.fileAlone? s = some f ↔
      ∃ p, c.Suits s p ∧ (∀ b ∈ p.chain, ¬ c.Owns b) ∧ f = c.lostFile s.entry p) ∧
    (c.addSightings sightings).card =
      c.extend ((c.judgeAll (.ofList c.lostBlocks) sightings).filterMap Except.toOption) ∧
    ∀ i failure, (c.judgeAll (.ofList c.lostBlocks) sightings)[i]? = some (.error failure) →
      c.judgeAll (.ofList c.lostBlocks) (sightings.eraseIdx i) =
          (c.judgeAll (.ofList c.lostBlocks) sightings).eraseIdx i ∧
        c.addSightings (sightings.eraseIdx i) = c.addSightings sightings := by
  refine ⟨fun hapart order horder ↦ ?_, fun s f ↦ h.consistent.fileAlone?_eq_some_iff, ?_, ?_⟩
  · have hapart' : order.Pairwise c.Apart :=
      (horder.pairwise_iff fun hst ↦ hst.symm).2 hapart
    have hlength : (c.salvageAll (.ofList c.lostBlocks) order).length =
        (c.salvageAll (.ofList c.lostBlocks) sightings).length := by
      rw [salvageAll_eq_filterMap hapart, salvageAll_eq_filterMap hapart']
      exact (horder.filterMap _).length_eq
    refine ⟨judgeAll_eq_map hapart' _, ?_, addSightings_congr hlength⟩
    rw [addSightings_card, salvageAll_eq_filterMap hapart']
  · rw [addSightings_card, salvageAll_eq]
  · intro i failure hrefused
    refine ⟨judgeAll_eraseIdx hrefused, ?_⟩
    rw [addSightings, addSightings, salvageAll_eraseIdx hrefused]

/-- Of a sighting of the file that is there and one of a free block, the second one is taken up,
whichever comes first and also without the other. -/
theorem addSightings_order_halfErased : ∃ sums image c f,
    Image.write ⟨.fill (8 * blockSize) 0, none⟩ halfErased = .ok (sums, image) ∧
      ofImage image = .ok c ∧ c.Reachable ∧
      let s := Sighting.of (entryOf 5 2) 0 .blockPool
      let t := Sighting.of (entryOf 7 1) 64 .blockPool
      [s, t].Pairwise c.Apart ∧ f.chain = [7] ∧
        c.judgeAll (.ofList c.lostBlocks) [s, t] = [.error (.overlap 5), .ok f] ∧
        c.judgeAll (.ofList c.lostBlocks) [t, s] = [.ok f, .error (.overlap 5)] ∧
        (c.addSightings [t, s]).card = c.extend [f] ∧ c.addSightings [t] = c.addSightings [s, t] := by
  obtain ⟨sums, image, c, hwrite, hopen, hsize, -, -, howns, hwalk, hproposed⟩ :=
    exists_opened_halfErased
  have hreach : c.Reachable := ⟨image, c, [], hopen, rfl⟩
  have hs : c.Suits (.of (entryOf 5 2) 0 .blockPool) ⟨[5, 6], .contiguous, {}⟩ := by
    refine .inOnePiece rfl (fun w hw hsound ↦ ?_) (by rw [hsize]; decide)
    cases hwalk.symm.trans hw
    cases hsound
  have ht : c.Suits (.of (entryOf 7 1) 64 .blockPool) ⟨[7], .contiguous, {}⟩ :=
    hproposed 7 1 (.inr rfl)
  have hapart : [Sighting.of (entryOf 5 2) 0 .blockPool, .of (entryOf 7 1) 64 .blockPool].Pairwise
      c.Apart := by
    refine List.pairwise_pair.2 fun p q hp hq ↦ ?_
    rw [hp.unique hs, hq.unique ht]
    simp
  have hrefused : c.salvageSighting (.ofList c.lostBlocks) (.of (entryOf 5 2) 0 .blockPool) =
      .error (.overlap 5) := by
    have hpropose := proposeSighting_eq_iff.2 hs
    rw [salvageSighting_eq, hpropose, ok_bind,
      hreach.consistent.accept_lostBlocks_eq_error (proposeSighting_proper hpropose)]
    exact ⟨[], 5, [6], rfl, by simp, (howns 5).2 (.inl rfl), rfl⟩
  have htaken : c.salvageSighting (.ofList c.lostBlocks) (.of (entryOf 7 1) 64 .blockPool) =
      .ok (c.lostFile (entryOf 7 1) ⟨[7], .contiguous, {}⟩) := by
    have hpropose := proposeSighting_eq_iff.2 ht
    rw [salvageSighting_eq, hpropose, ok_bind,
      hreach.consistent.accept_lostBlocks_eq_ok (proposeSighting_proper hpropose)]
    exact ⟨by simp [howns], rfl⟩
  obtain ⟨horder, -, -, hleave⟩ := addSightings_order hreach
    [.of (entryOf 5 2) 0 .blockPool, .of (entryOf 7 1) 64 .blockPool]
  obtain ⟨hjudge, -⟩ := horder hapart _ (.refl _)
  obtain ⟨hjudge', hcard, -⟩ := horder hapart _ (.swap _ _ _)
  rw [List.map_cons, List.map_cons, hrefused, htaken] at hjudge hjudge'
  refine ⟨sums, image, c, _, hwrite, hopen, hreach, hapart, rfl, hjudge, hjudge', ?_, ?_⟩
  · rw [hcard, List.filterMap_cons, List.filterMap_cons, fileAlone?, fileAlone?, hrefused, htaken]
    rfl
  · exact (hleave 0 (.overlap 5) (by rw [hjudge]; rfl)).2

end MemoryCard.Card
