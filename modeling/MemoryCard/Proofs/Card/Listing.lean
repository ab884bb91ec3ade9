import MemoryCard.Card.Basic
import MemoryCard.Proofs.Walk

/-! # What the list of regular files says

Every regular file stands in a slot of the directory and has a proper chain. The usage map of a
listing and its files tell the same story: each file has one claim on each of its blocks, as long as a
byte has room to count them, and a file is cross-linked exactly if a block of it is claimed already when
its slot is reached.
-/

namespace MemoryCard

/-! ## Claims in the usage map -/

namespace Usage

@[simp] theorem size_blank (size : UInt16) : (blank size).size = size.toNat := by simp [blank]

@[simp] theorem size_claimBlock (u : Usage) (b : UInt16) : (u.claimBlock b).size = u.size := by
  simp [claimBlock]

@[simp] theorem size_claim (u : Usage) (chain : List UInt16) : (u.claim chain).size = u.size := by
  induction chain generalizing u with
  | nil => rfl
  | cons b rest ih => exact (ih (u.claimBlock b)).trans (size_claimBlock u b)

/-- A claim is counted, unless there are too many to count. -/
theorem toNat_bump (n : UInt8) : (bump n).toNat = min (n.toNat + 1) 255 := by
  rw [bump]
  split
  · rename_i h
    rw [h]
    rfl
  · rename_i h
    have hne : n.toNat ≠ 255 := fun e ↦ h (UInt8.toNat_inj.1 e)
    have hlt := n.toNat_lt
    rw [UInt8.toNat_add, UInt8.toNat_one]
    omega

theorem bump_pos (n : UInt8) : 0 < bump n := by
  rw [UInt8.lt_iff_toNat_lt, toNat_bump, UInt8.toNat_zero]
  omega

/-- A block is claimed more than once exactly if it was claimed before. -/
theorem one_lt_bump {n : UInt8} : 1 < bump n ↔ 0 < n := by
  rw [UInt8.lt_iff_toNat_lt, UInt8.lt_iff_toNat_lt, toNat_bump, UInt8.toNat_zero, UInt8.toNat_one]
  omega

/-- A new card has a claim on each system block and none on other blocks. -/
theorem count_blank (size block : UInt16) :
    (blank size).count block = if block.toNat < size.toNat ∧ block.toNat < 5 then 1 else 0 := by
  have hsystem : systemBlocks.toNat = 5 := rfl
  by_cases hsize : block.toNat < size.toNat <;> simp [blank, count, hsize, hsystem]

theorem count_blank_of_isDataBlock {size block : UInt16} (h : isDataBlock size block = true) :
    (blank size).count block = 0 := by
  have := (isDataBlock_iff.1 h).1
  rw [count_blank, if_neg (by omega)]

theorem count_claimBlock (u : Usage) {b : UInt16} (hb : b.toNat < u.size) (x : UInt16) :
    (u.claimBlock b).count x = if x = b then bump (u.count b) else u.count x := by
  by_cases h : x = b
  · subst h
    simp [claimBlock, count, hb]
  · have hne : b.toNat ≠ x.toNat := fun e ↦ h (UInt16.toNat_inj.1 e.symm)
    simp [claimBlock, count, h, hne]

/-- A chain without repetitions claims each of its blocks once. -/
theorem count_claim (u : Usage) {chain : List UInt16} (hnodup : chain.Nodup)
    (h : ∀ b ∈ chain, b.toNat < u.size) (x : UInt16) :
    (u.claim chain).count x = if x ∈ chain then bump (u.count x) else u.count x := by
  induction chain generalizing u with
  | nil => simp [claim]
  | cons b rest ih =>
      obtain ⟨hb, hrest⟩ := List.forall_mem_cons.1 h
      obtain ⟨hnew, hnodup⟩ := List.nodup_cons.1 hnodup
      have hstep : u.claim (b :: rest) = (u.claimBlock b).claim rest := rfl
      rw [hstep, ih (u.claimBlock b) hnodup (by simpa using hrest), count_claimBlock u hb]
      by_cases hx : x = b
      · simp [hx, hnew]
      · simp [hx]

/-- While a chain without repetitions is being claimed, a block of it turns out to be claimed more
than once exactly if it was claimed before. -/
theorem collides_iff (u : Usage) {chain : List UInt16} (hnodup : chain.Nodup)
    (h : ∀ b ∈ chain, b.toNat < u.size) :
    u.collides chain = true ↔ ∃ b ∈ chain, 0 < u.count b := by
  induction chain generalizing u with
  | nil => simp [collides]
  | cons b rest ih =>
      obtain ⟨hb, hrest⟩ := List.forall_mem_cons.1 h
      obtain ⟨hnew, hnodup⟩ := List.nodup_cons.1 hnodup
      -- claiming the first block does not change the counts of the others
      have hcount (x : UInt16) (hx : x ∈ rest) : (u.claimBlock b).count x = u.count x := by
        rw [count_claimBlock u hb, if_neg (ne_of_mem_of_not_mem hx hnew)]
      rw [collides, Bool.or_eq_true, decide_eq_true_iff, count_claimBlock u hb, if_pos rfl,
        one_lt_bump, ih (u.claimBlock b) hnodup (by simpa using hrest), List.exists_mem_cons_iff]
      exact or_congr_right (exists_congr fun x ↦ and_congr_right fun hx ↦ by rw [hcount x hx])

end Usage

/-! ## The slots to list -/

namespace Directory

variable {d : Directory}

theorem mem_used {slot : Nat} {entry : Entry} :
    (slot, entry) ∈ d.used ↔ d.entries[slot]? = some entry ∧ entry.isUnused = false := by
  simp [used, List.mk_mem_zipIdx_iff_getElem?]

theorem length_used_le (d : Directory) : d.used.length ≤ d.entries.length := by
  rw [used, List.length_map, ← List.length_zipIdx (l := d.entries)]
  exact List.length_filter_le _ _

/-- Slots are listed in order, each at most once. -/
theorem pairwise_used (d : Directory) : d.used.Pairwise fun p q ↦ p.1 < q.1 := by
  have hslots : (d.entries.zipIdx.map Prod.snd).Pairwise (· < ·) := by
    rw [List.zipIdx_map_snd]
    exact List.pairwise_lt_range'
  rw [used, List.pairwise_map]
  exact (List.pairwise_map.1 hslots).filter _

end Directory

/-! ## Regular files -/

/-- The file `f` has a slot in front of that of `g`. -/
def SaveFile.IsBefore (f g : SaveFile) : Prop :=
  ∃ m n, f.origin = .regular m ∧ g.origin = .regular n ∧ m < n

namespace Listing

variable {allocation : Allocation} {size : UInt16} {charset : Charset}

/-- The regular file of an entry with the chain that a walk has found. -/
def regularFile (charset : Charset) (slot : Nat) (entry : Entry) (w : Walk) (crossLinked : Bool) :
    SaveFile where
  entry := entry
  chain := w.blocks
  origin := .regular slot
  issues := { Issues.ofWalk w with crossLinked }
  charset := charset.forRegion entry.region

/-- How the blocks were claimed before decides only whether the file is cross-linked. -/
theorem file?_eq_some_iff {usage : Usage} {slot : Nat} {entry : Entry} {f : SaveFile} :
    file? allocation size charset usage slot entry = some f ↔ ∃ w,
      allocation.walk entry.firstBlock entry.length size = .ok w ∧
        f = regularFile charset slot entry w (usage.collides w.blocks) := by
  unfold file?
  split
  · rename_i failure hw
    simp [hw]
  · rename_i w hw
    simp [hw, regularFile, eq_comm]

theorem file?_proper {usage : Usage} {slot : Nat} {entry : Entry} {f : SaveFile}
    (h : file? allocation size charset usage slot entry = some f) : ProperChain size f.chain := by
  obtain ⟨w, hw, rfl⟩ := file?_eq_some_iff.1 h
  exact Allocation.walk_proper hw

@[simp] theorem size_build (usage : Usage) (slots : List (Nat × Entry)) :
    (build allocation size charset usage slots).usage.size = usage.size := by
  induction slots generalizing usage with
  | nil => rfl
  | cons head rest ih =>
      simp only [build]
      split
      · exact ih usage
      · exact (ih _).trans (Usage.size_claim usage _)

/-- Slots behind others are listed with the blocks that those have claimed. -/
theorem build_append (usage : Usage) (front back : List (Nat × Entry)) :
    build allocation size charset usage (front ++ back) =
      let behind := build allocation size charset
        (build allocation size charset usage front).usage back
      ⟨(build allocation size charset usage front).files ++ behind.files, behind.usage⟩ := by
  induction front generalizing usage with
  | nil => rfl
  | cons head rest ih =>
      simp only [List.cons_append, build]
      split
      · exact ih usage
      · rw [ih]
        rfl

/-- Every file of a listing comes from one of the slots, with the blocks claimed in front of it. -/
theorem mem_build {usage : Usage} {slots : List (Nat × Entry)} {f : SaveFile}
    (h : f ∈ (build allocation size charset usage slots).files) :
    ∃ front slot entry back, slots = front ++ (slot, entry) :: back ∧ file? allocation size charset
      (build allocation size charset usage front).usage slot entry = some f := by
  induction slots generalizing usage with
  | nil => cases h
  | cons head rest ih =>
      obtain ⟨slot, entry⟩ := head
      cases hfile : file? allocation size charset usage slot entry with
      | none =>
          simp only [build, hfile] at h
          obtain ⟨front, slot', entry', back, rfl, hfile'⟩ := ih h
          exact ⟨(slot, entry) :: front, slot', entry', back, rfl, by simpa only [build, hfile]⟩
      | some file =>
          simp only [build, hfile] at h
          rcases List.mem_cons.1 h with rfl | h
          · exact ⟨[], slot, entry, rest, rfl, hfile⟩
          · obtain ⟨front, slot', entry', back, rfl, hfile'⟩ := ih h
            exact ⟨(slot, entry) :: front, slot', entry', back, rfl, by simpa only [build, hfile]⟩

/-- Entries whose chain can be followed are listed with it. -/
theorem exists_mem_build {slots : List (Nat × Entry)} {slot : Nat} {entry : Entry} {w : Walk}
    (hmem : (slot, entry) ∈ slots)
    (hwalk : allocation.walk entry.firstBlock entry.length size = .ok w) (charset : Charset)
    (usage : Usage) : ∃ crossLinked, regularFile charset slot entry w crossLinked ∈
      (build allocation size charset usage slots).files := by
  obtain ⟨front, back, rfl⟩ := List.append_of_mem hmem
  rw [build_append]
  simp only [build, file?, hwalk]
  exact ⟨_, List.mem_append_right _ List.mem_cons_self⟩

section Member

variable {usage : Usage} {slots : List (Nat × Entry)} {f : SaveFile}

theorem mem_build_slot (h : f ∈ (build allocation size charset usage slots).files) :
    ∃ slot, f.origin = .regular slot ∧ (slot, f.entry) ∈ slots := by
  obtain ⟨front, slot, entry, back, rfl, hfile⟩ := mem_build h
  obtain ⟨w, -, rfl⟩ := file?_eq_some_iff.1 hfile
  exact ⟨slot, rfl, List.mem_append_right front List.mem_cons_self⟩

theorem mem_build_walk (h : f ∈ (build allocation size charset usage slots).files) :
    allocation.walk f.entry.firstBlock f.entry.length size =
      .ok ⟨f.chain, f.issues.defect?, f.issues.mismatch?⟩ := by
  obtain ⟨front, slot, entry, back, -, hfile⟩ := mem_build h
  obtain ⟨w, hwalk, rfl⟩ := file?_eq_some_iff.1 hfile
  exact hwalk

theorem length_files_build_le (usage : Usage) (slots : List (Nat × Entry)) :
    (build allocation size charset usage slots).files.length ≤ slots.length := by
  induction slots generalizing usage with
  | nil => exact Nat.le_refl 0
  | cons head rest ih =>
      simp only [build]
      split
      · exact (ih usage).trans (Nat.le_succ _)
      · exact Nat.succ_le_succ (ih _)

end Member

section Claims

variable {usage : Usage} {slots : List (Nat × Entry)}

/-- The blocks claimed behind a listing are those claimed in front of it and those of its files. -/
theorem count_build_pos (husage : usage.size = size.toNat) (slots : List (Nat × Entry))
    (b : UInt16) :
    0 < (build allocation size charset usage slots).usage.count b ↔
      0 < usage.count b ∨ ∃ f ∈ (build allocation size charset usage slots).files, b ∈ f.chain := by
  induction slots generalizing usage with
  | nil => simp [build]
  | cons head rest ih =>
      obtain ⟨slot, entry⟩ := head
      simp only [build]
      split
      · exact ih husage
      · rename_i file hfile
        have hproper := file?_proper hfile
        rw [ih (by rw [Usage.size_claim, husage]),
          usage.count_claim hproper.nodup fun x hx ↦ husage ▸ hproper.toNat_lt hx]
        by_cases hb : b ∈ file.chain
        · simp [hb, Usage.bump_pos]
        · simp [hb]

/-- As long as a byte has room for them, the claims behind a listing are those in front of it and one
of each file that has the block. -/
theorem toNat_count_build (husage : usage.size = size.toNat) {b : UInt16}
    (hroom : (usage.count b).toNat + slots.length ≤ 255) :
    ((build allocation size charset usage slots).usage.count b).toNat = (usage.count b).toNat +
      (build allocation size charset usage slots).files.countP (b ∈ ·.chain) := by
  induction slots generalizing usage with
  | nil => rfl
  | cons head rest ih =>
      obtain ⟨slot, entry⟩ := head
      rw [List.length_cons] at hroom
      simp only [build]
      split
      · exact ih husage (by omega)
      · rename_i file hfile
        have hproper := file?_proper hfile
        have hclaim := usage.count_claim hproper.nodup (fun x hx ↦ husage ▸ hproper.toNat_lt hx) b
        have hcount : ((usage.claim file.chain).count b).toNat =
            (usage.count b).toNat + if b ∈ file.chain then 1 else 0 := by
          rw [hclaim]
          split
          · rw [Usage.toNat_bump]
            omega
          · rfl
        have hrest : ((usage.claim file.chain).count b).toNat + rest.length ≤ 255 := by
          rw [hcount]
          split <;> omega
        rw [ih (by rw [Usage.size_claim, husage]) hrest, hcount, List.countP_cons]
        simp only [decide_eq_true_eq]
        omega

/-- Files keep the order of their slots. -/
theorem pairwise_build (usage : Usage) (hslots : slots.Pairwise fun p q ↦ p.1 < q.1) :
    (build allocation size charset usage slots).files.Pairwise SaveFile.IsBefore := by
  induction slots generalizing usage with
  | nil => exact .nil
  | cons head rest ih =>
      obtain ⟨hhead, hrest⟩ := List.pairwise_cons.1 hslots
      simp only [build]
      split
      · exact ih usage hrest
      · rename_i file hfile
        obtain ⟨w, -, rfl⟩ := file?_eq_some_iff.1 hfile
        refine List.pairwise_cons.2 ⟨fun g hg ↦ ?_, ih _ hrest⟩
        obtain ⟨slot, horigin, hmem⟩ := mem_build_slot hg
        exact ⟨_, _, rfl, horigin, hhead _ hmem⟩

/-- The files in earlier slots are those that are listed when a slot is reached. -/
theorem mem_front_iff {front back : List (Nat × Entry)} {slot : Nat} {entry : Entry}
    (hslots : (front ++ (slot, entry) :: back).Pairwise fun p q ↦ p.1 < q.1) {f g : SaveFile}
    (hf : f.origin = .regular slot) :
    g ∈ (build allocation size charset usage (front ++ (slot, entry) :: back)).files ∧ g.IsBefore f ↔
      g ∈ (build allocation size charset usage front).files := by
  rw [build_append, List.mem_append]
  obtain ⟨-, hback, hcross⟩ := List.pairwise_append.1 hslots
  constructor
  · rintro ⟨hg | hg, m, n, hm, hn, hlt⟩
    · exact hg
    · obtain ⟨m', hm', hmem⟩ := mem_build_slot hg
      cases hm.symm.trans hm'
      cases hf.symm.trans hn
      rcases List.mem_cons.1 hmem with heq | hmem
      · cases heq
        exact absurd hlt (Nat.lt_irrefl _)
      · exact absurd ((List.pairwise_cons.1 hback).1 _ hmem) (Nat.lt_asymm hlt)
  · intro hg
    obtain ⟨m, hm, hmem⟩ := mem_build_slot hg
    exact ⟨.inl hg, m, slot, hm, hf, hcross _ hmem _ List.mem_cons_self⟩

/-- A file is cross-linked exactly if a block of it was claimed before the listing or belongs to a file
in an earlier slot. -/
theorem crossLinked_iff (husage : usage.size = size.toNat)
    (hslots : slots.Pairwise fun p q ↦ p.1 < q.1) {f : SaveFile}
    (hf : f ∈ (build allocation size charset usage slots).files) :
    f.issues.crossLinked = true ↔ ∃ b ∈ f.chain, 0 < usage.count b ∨
      ∃ g ∈ (build allocation size charset usage slots).files, g.IsBefore f ∧ b ∈ g.chain := by
  obtain ⟨front, slot, entry, back, rfl, hfile⟩ := mem_build hf
  have hproper := file?_proper hfile
  obtain ⟨w, -, rfl⟩ := file?_eq_some_iff.1 hfile
  have hfits : ∀ b ∈ w.blocks,
      b.toNat < (build allocation size charset usage front).usage.size := fun b hb ↦ by
    rw [size_build, husage]
    exact hproper.toNat_lt hb
  refine (Usage.collides_iff _ hproper.nodup hfits).trans (exists_congr fun b ↦
    and_congr_right fun _ ↦ (count_build_pos husage front b).trans
      (or_congr_right (exists_congr fun g ↦ ?_)))
  rw [← and_assoc, mem_front_iff hslots rfl]

end Claims

variable {tables : Tables} {f : SaveFile}

theorem ofTables_entry (h : f ∈ (ofTables tables size charset).files) :
    f.entry ∈ tables.directory.entries ∧ isDataBlock size f.entry.firstBlock = true := by
  obtain ⟨slot, -, hused⟩ := mem_build_slot h
  exact ⟨List.mem_of_getElem? (Directory.mem_used.1 hused).1,
    (Allocation.walk_eq_ok (mem_build_walk h)).1⟩

/-- A data block is claimed exactly if it belongs to a regular file. -/
theorem ofTables_count_eq_zero {b : UInt16} (h : isDataBlock size b = true) :
    (ofTables tables size charset).usage.count b = 0 ↔
      ∀ f ∈ (ofTables tables size charset).files, b ∉ f.chain := by
  have hpos : 0 < (ofTables tables size charset).usage.count b ↔
      0 < (Usage.blank size).count b ∨ ∃ f ∈ (ofTables tables size charset).files, b ∈ f.chain :=
    count_build_pos (Usage.size_blank size) tables.directory.used b
  simp only [Usage.count_blank_of_isDataBlock h, UInt8.lt_irrefl, false_or] at hpos
  rw [← not_iff_not, ← ne_eq, ← UInt8.pos_iff_ne_zero, hpos]
  simp only [not_forall, not_not, exists_prop]

end Listing
end MemoryCard
