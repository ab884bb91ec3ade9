import MemoryCard.Save.Sighting
import Mathlib.Data.List.Basic
import Mathlib.Data.List.Pairwise
import Mathlib.Data.List.Perm.Basic

/-! # Sightings in order

Sorted by their places and reduced to the first of each key, sightings that are told apart by their
places become the list of those that no sighting of the same key precedes, in strictly increasing
order. Such a list depends on what was sighted and not on the order in which it was collected.
-/

namespace MemoryCard

theorem Entry.sameFile_iff {e f : Entry} :
    e.sameFile f = true ↔ e.id = f.id ∧ e.fileName = f.fileName := by
  simp only [sameFile, id, Bool.and_eq_true, beq_iff_eq]
  refine and_congr_left fun _ ↦ ⟨fun ⟨hcode, hmaker⟩ ↦ by rw [hcode, hmaker], fun h ↦ ?_⟩
  obtain ⟨hcode, hmaker⟩ := List.append_inj h (by simp)
  exact ⟨Vector.toList_inj.1 hcode, Vector.toList_inj.1 hmaker⟩

namespace Sighting

variable {l l' : List Sighting} {s t : Sighting}

/-- The sightings in the order of their places, the first of each key. -/
def arrange (l : List Sighting) : List Sighting :=
  firstOfEach (l.mergeSort fun s t ↦ s.offset ≤ t.offset)

theorem firstOfEach_sublist (l : List Sighting) : (firstOfEach l).Sublist l := by
  induction l with
  | nil => exact .slnil
  | cons s rest ih => exact ((List.filter_sublist).trans ih).cons_cons s

theorem pairwise_key_firstOfEach (l : List Sighting) :
    (firstOfEach l).Pairwise fun s t ↦ s.key ≠ t.key := by
  induction l with
  | nil => exact .nil
  | cons s rest ih =>
      refine List.pairwise_cons.2 ⟨fun t ht ↦ ?_, ih.filter _⟩
      have := (List.mem_filter.1 ht).2
      exact fun e ↦ (of_decide_eq_true this) e.symm

/-- In a sorted list, a sighting gives way to one of its key that does not stand behind it. -/
theorem exists_mem_firstOfEach (hl : l.Pairwise fun s t ↦ s.offset ≤ t.offset) (ht : t ∈ l) :
    ∃ s ∈ firstOfEach l, s.key = t.key ∧ s.offset ≤ t.offset := by
  induction l with
  | nil => cases ht
  | cons x rest ih =>
      obtain ⟨hx, hrest⟩ := List.pairwise_cons.1 hl
      rcases List.mem_cons.1 ht with rfl | ht
      · exact ⟨t, List.mem_cons_self, rfl, Nat.le_refl _⟩
      by_cases hkey : t.key = x.key
      · exact ⟨x, List.mem_cons_self, hkey.symm, hx t ht⟩
      · obtain ⟨s, hs, hst, hle⟩ := ih hrest ht
        refine ⟨s, List.mem_cons_of_mem _ (List.mem_filter.2 ⟨hs, ?_⟩), hst, hle⟩
        exact decide_eq_true (hst ▸ hkey)

theorem pairwise_offset_mergeSort (l : List Sighting) :
    (l.mergeSort fun s t ↦ s.offset ≤ t.offset).Pairwise fun s t ↦ s.offset ≤ t.offset := by
  have htrans (s t u : Sighting) : decide (s.offset ≤ t.offset) = true →
      decide (t.offset ≤ u.offset) = true → decide (s.offset ≤ u.offset) = true := by
    simp only [decide_eq_true_eq]
    exact Nat.le_trans
  have htotal (s t : Sighting) :
      (decide (s.offset ≤ t.offset) || decide (t.offset ≤ s.offset)) = true := by
    simpa using Nat.le_total s.offset t.offset
  exact (List.pairwise_mergeSort htrans htotal l).imp of_decide_eq_true

theorem mem_of_mem_arrange (h : s ∈ arrange l) : s ∈ l :=
  (List.mergeSort_perm l _).mem_iff.1 ((firstOfEach_sublist _).subset h)

theorem exists_mem_arrange (h : t ∈ l) : ∃ s ∈ arrange l, s.key = t.key ∧ s.offset ≤ t.offset :=
  exists_mem_firstOfEach (pairwise_offset_mergeSort l) ((List.mergeSort_perm l _).mem_iff.2 h)

theorem eq_of_key_eq_of_mem_arrange (hs : s ∈ arrange l) (ht : t ∈ arrange l) (h : s.key = t.key) :
    s = t := by
  by_contra hne
  have hpair := pairwise_key_firstOfEach (l.mergeSort fun s t ↦ s.offset ≤ t.offset)
  have : Std.Symm fun s t : Sighting ↦ s.key ≠ t.key := ⟨fun _ _ hst ↦ Ne.symm hst⟩
  exact hpair.forall hs ht hne h

/-- The places of sightings tell them apart. -/
def Distinct (l : List Sighting) : Prop := ∀ s ∈ l, ∀ t ∈ l, s.offset = t.offset → s = t

theorem mem_arrange (hl : Distinct l) :
    s ∈ arrange l ↔ s ∈ l ∧ ∀ t ∈ l, t.key = s.key → s.offset ≤ t.offset := by
  constructor
  · intro hs
    refine ⟨mem_of_mem_arrange hs, fun t ht hkey ↦ ?_⟩
    obtain ⟨u, hu, hut, hle⟩ := exists_mem_arrange ht
    rwa [← eq_of_key_eq_of_mem_arrange hu hs (hut.trans hkey)]
  · rintro ⟨hs, hfirst⟩
    obtain ⟨u, hu, hus, hle⟩ := exists_mem_arrange hs
    have hmem := mem_of_mem_arrange hu
    rwa [← hl u hmem s hs (Nat.le_antisymm hle (hfirst u hmem hus))]

theorem pairwise_offset_arrange (hl : Distinct l) :
    (arrange l).Pairwise fun s t ↦ s.offset < t.offset := by
  have hkeys := pairwise_key_firstOfEach (l.mergeSort fun s t ↦ s.offset ≤ t.offset)
  have hsorted := (pairwise_offset_mergeSort l).sublist (firstOfEach_sublist _)
  refine (hsorted.and hkeys).imp_of_mem fun {s t} hs ht h ↦ Nat.lt_of_le_of_ne h.1 fun e ↦ h.2 ?_
  rw [hl s (mem_of_mem_arrange hs) t (mem_of_mem_arrange ht) e]

/-- A list in strictly increasing order is known by its members. -/
theorem eq_of_mem_iff (hl : l.Pairwise fun s t ↦ s.offset < t.offset)
    (hl' : l'.Pairwise fun s t ↦ s.offset < t.offset) (h : ∀ s, s ∈ l ↔ s ∈ l') : l = l' := by
  have hnodup {k : List Sighting} (hk : k.Pairwise fun s t ↦ s.offset < t.offset) : k.Nodup :=
    hk.imp fun {s t} hst (e : s = t) ↦ Nat.lt_irrefl t.offset (e ▸ hst)
  have hperm := (List.perm_ext_iff_of_nodup (hnodup hl) (hnodup hl')).2 h
  exact hperm.eq_of_pairwise (fun s t _ _ hst hts ↦ absurd hst (Nat.lt_asymm hts)) hl hl'

theorem arrange_congr (hl : Distinct l) (h : ∀ s, s ∈ l ↔ s ∈ l') : arrange l = arrange l' := by
  have hl' : Distinct l' := fun s hs t ht ↦ hl s ((h s).2 hs) t ((h t).2 ht)
  refine eq_of_mem_iff (pairwise_offset_arrange hl) (pairwise_offset_arrange hl') fun s ↦ ?_
  simp only [mem_arrange hl, mem_arrange hl', h]

end Sighting
end MemoryCard
