import MemoryCard.Blank
import MemoryCard.Proofs.Allocation
import MemoryCard.Proofs.Card.Search
import MemoryCard.Proofs.Card.Written
import MemoryCard.Proofs.Geometry

/-! # Blank cards

A card that has just been formatted has nothing wrong with it and nothing on it. Its system blocks are
those of a header with two empty copies of each table, so that they are read back as they were
written; behind them there are zeros, where no entry can begin.
-/

namespace MemoryCard

open Bytes

/-! ## The bytes of a blank card -/

theorem Bytes.byte_appendFill_zero {b : Bytes} {pos : Nat} (h : b.size ≤ pos) (n : Nat) :
    (appendFill 0 n b).byte pos = 0 := by
  rw [byte_eq, all_appendFill, List.getElem?_append_right (by rwa [length_all]),
    List.getElem?_replicate]
  split <;> rfl

theorem Bytes.holds_appendFill (bs : List UInt8) (v : UInt8) (n : Nat) :
    (appendFill v n bs.toByteArray).Holds 0 bs := fun i h ↦ by
  rw [byte_eq, all_appendFill, all_toByteArray, Nat.zero_add, List.getElem?_append_left h,
    List.getElem?_eq_getElem h]
  rfl

theorem Bytes.size_appendFill (b : Bytes) (v : UInt8) (n : Nat) :
    (appendFill v n b).size = b.size + n := by
  rw [← length_all, all_appendFill, List.length_append, List.length_replicate, length_all]

namespace BlankOptions

variable {o : BlankOptions} {ticks : UInt64}

/-- The size of the card in bytes. -/
def size (o : BlankOptions) : Nat := o.blocks.toNat * blockSize

theorem check_eq_ok : o.check = .ok () ↔
    minCardBytes ≤ o.size ∧ o.size ≤ maxCardBytes ∧ isPowerOfTwo o.size = true := by
  unfold check size
  dsimp only
  split
  · rename_i h
    exact iff_of_true rfl h
  · rename_i h
    exact iff_of_false (by simp) h

theorem check_eq_ok_or (o : BlankOptions) :
    o.check = .ok () ∨ ∃ reason, o.check = .error (.invalidArgument reason) := by
  unfold check
  dsimp only
  split
  · exact .inl rfl
  · exact .inr ⟨_, rfl⟩

/-- The bytes of a blank card. -/
def bytes (o : BlankOptions) (ticks : UInt64) : Bytes :=
  appendFill 0 (o.size - (o.systemBytes ticks).toByteArray.size) (o.systemBytes ticks).toByteArray

theorem image_eq_ok (h : o.check = .ok ()) : o.image ticks = .ok (o.bytes ticks) := by
  rw [image, h]
  rfl

theorem image_eq_error {failure : Failure} (h : o.check = .error failure) :
    o.image ticks = .error failure := by
  rw [image, h]
  rfl

/-- What stands in the system blocks. -/
def system (o : BlankOptions) (ticks : UInt64) : System := .blank (o.header ticks) o.blocks

theorem length_systemBytes (o : BlankOptions) (ticks : UInt64) :
    (o.systemBytes ticks).length = 5 * blockSize := by
  simp only [systemBytes, List.length_append, Header.length_encode _ (by decide : 0x200 ≤ blockSize),
    Directory.length_encode _ (Nat.le_refl _), Allocation.length_encode _ (Nat.le_refl _)]
  rfl

/-- Blank cards have room for data, all of their blocks have links, and the header can say how many
blocks there are. -/
theorem blocks_of_check (h : o.check = .ok ()) :
    64 ≤ o.blocks.toNat ∧ o.blocks.toNat ≤ 2048 ∧ 16 ∣ o.blocks.toNat := by
  obtain ⟨hmin, hmax, hpower⟩ := check_eq_ok.1 h
  have hdvd : 16 * blockSize ∣ o.size := 
    dvd_of_isPowerOfTwo (k := 17) hpower (Nat.le_trans (by decide) hmin)
  have hleast : 64 * blockSize ≤ o.blocks.toNat * blockSize := hmin
  have hmost : o.blocks.toNat * blockSize ≤ 2048 * blockSize := hmax
  exact ⟨Nat.le_of_mul_le_mul_right hleast (by decide),
    Nat.le_of_mul_le_mul_right hmost (by decide), Nat.dvd_of_mul_dvd_mul_right (by decide) hdvd⟩

/-! ## The image of a blank card -/

variable {path? : Option String}

theorem systemBytes_fit (h : o.check = .ok ()) :
    (o.systemBytes ticks).toByteArray.size ≤ o.size := by
  rw [List.size_toByteArray, length_systemBytes]
  exact Nat.mul_le_mul_right _ (Nat.le_trans (by decide) (blocks_of_check h).1)

theorem size_bytes (h : o.check = .ok ()) : (o.bytes ticks).size = o.size := by
  rw [bytes, size_appendFill]
  exact Nat.add_sub_cancel' (systemBytes_fit h)

theorem systemBytes_eq (o : BlankOptions) (ticks : UInt64) : o.systemBytes ticks =
    (o.system ticks).header.encode blockSize
      ++ ((o.system ticks).directories 0).encode blockSize
      ++ ((o.system ticks).directories 1).encode blockSize
      ++ ((o.system ticks).allocations 0).encode blockSize
      ++ ((o.system ticks).allocations 1).encode blockSize := rfl

theorem stores_bytes (o : BlankOptions) (ticks : UInt64) (path? : Option String) :
    (Image.mk (o.bytes ticks) path?).Stores (o.system ticks) := by
  have hall : (o.bytes ticks).Holds 0 (o.systemBytes ticks) := holds_appendFill _ _ _
  generalize o.bytes ticks = b at hall ⊢
  rw [systemBytes_eq] at hall
  generalize o.system ticks = s at hall ⊢
  simp only [holds_append, List.length_append,
    Header.length_encode _ (by decide : 0x200 ≤ blockSize),
    Directory.length_encode _ (Nat.le_refl _), Allocation.length_encode _ (Nat.le_refl _)] at hall
  obtain ⟨⟨⟨⟨hheader, hdirectory₀⟩, hdirectory₁⟩, hallocation₀⟩, hallocation₁⟩ := hall
  refine ⟨hheader, fun d ↦ ?_, fun a ↦ ?_⟩
  · match d with
    | 0 => exact hdirectory₀
    | 1 => exact hdirectory₁
  · match a with
    | 0 => exact hallocation₀
    | 1 => exact hallocation₁

/-- Behind the system blocks there is nothing but zeros. -/
theorem byte_bytes {pos : Nat} (h : 5 * blockSize ≤ pos) : (o.bytes ticks).byte pos = 0 := by
  refine byte_appendFill_zero ?_ _
  rwa [List.size_toByteArray, length_systemBytes]

end BlankOptions

/-- The image of a blank card: its system blocks, and zeros behind them. -/
structure Image.IsBlank (image : Image) (o : BlankOptions) (ticks : UInt64) : Prop where
  check : o.check = .ok ()
  size : image.size = o.size
  stores : image.Stores (o.system ticks)
  zeros : ∀ pos, 5 * blockSize ≤ pos → image.bytes.byte pos = 0

namespace Image.IsBlank

variable {image : Image} {o : BlankOptions} {ticks : UInt64}

/-- Whatever is made for a blank card is one. -/
theorem of_image {contents : Bytes} (h : o.image ticks = .ok contents) (path? : Option String) :
    (Image.mk contents path?).IsBlank o ticks := by
  rcases o.check_eq_ok_or with hcheck | ⟨reason, hcheck⟩
  · rw [BlankOptions.image_eq_ok hcheck] at h
    have hsize : (o.bytes ticks).size = o.size := BlankOptions.size_bytes hcheck
    have hzeros (pos : Nat) (hpos : 5 * blockSize ≤ pos) : (o.bytes ticks).byte pos = 0 :=
      BlankOptions.byte_bytes hpos
    have hstores := o.stores_bytes ticks path?
    rw [Except.ok.inj h] at hsize hzeros hstores
    exact ⟨hcheck, hsize, hstores, hzeros⟩
  · rw [BlankOptions.image_eq_error hcheck] at h
    cases h

theorem blockCount_eq (h : image.IsBlank o ticks) : image.blockCount = o.blocks.toNat := by
  obtain ⟨-, hmost, -⟩ := BlankOptions.blocks_of_check h.check
  rw [blockCount, h.size, BlankOptions.size, Nat.mul_div_left _ (by decide)]
  exact Nat.mod_eq_of_lt (Nat.lt_of_le_of_lt hmost (by decide))

theorem five_le_blockCount (h : image.IsBlank o ticks) : 5 ≤ image.blockCount := by
  rw [h.blockCount_eq]
  exact Nat.le_trans (by decide) (BlankOptions.blocks_of_check h.check).1

end Image.IsBlank

theorem Directory.used_eq_nil {d : Directory} (h : ∀ e ∈ d.entries, e.isUnused = true) :
    d.used = [] := by
  rw [used, List.map_eq_nil_iff, List.filter_eq_nil_iff]
  rintro ⟨e, slot⟩ hmem
  simp [h e (List.fst_mem_of_mem_zipIdx hmem)]

namespace Card

/-- The card has nothing wrong with it and nothing on it, and it is what the options ask for. -/
structure IsBlank (c : Card) (o : BlankOptions) (ticks : UInt64) : Prop where
  conditions : c.conditions = .none
  size : c.size = o.blocks
  declared : c.header.declaredBlocks = o.blocks.toNat
  serial : c.header.serial = o.serial?.getD (o.derivedSerial ticks)
  formatTime : c.header.formatTime = ticks
  charset : c.charset = o.charset
  free : c.free.toNat = o.blocks.toNat - 5
  files : c.files = []
  directories_valid : ∀ d, (c.tables.directories.copy d).valid = true
  directories_inUse : c.tables.directories.cardChoice? = some 1 ∧ c.tables.directories.inUse = 1
  allocations_valid : ∀ a, (c.tables.allocations.copy a).valid = true
  allocations_inUse : c.tables.allocations.cardChoice? = some 1 ∧ c.tables.allocations.inUse = 1
  usage_size : c.usage.size = o.blocks.toNat
  usage : ∀ i (h : i < c.usage.size), c.usage[i] = if i < 5 then 1 else 0
  scan : ∀ options : ScanOptions, options.alignment.toNat < 0x8000000000000000 →
    c.scan options = .ok []

variable {image : Image} {o : BlankOptions} {ticks : UInt64}

theorem ofImage_blank (h : image.IsBlank o ticks) : ofImage image = .ok (opened image) := by
  have hfive := h.five_le_blockCount
  refine ofImage_eq_opened ?_ (by omega)
  rw [h.size]
  exact Nat.mul_le_mul_right _ (Nat.le_trans (by decide) (BlankOptions.blocks_of_check h.check).1)

theorem size_blank (h : image.IsBlank o ticks) : (opened image).size = o.blocks := by
  have hsize : (opened image).size.toNat = min image.blockCount 0xFFFF % 0x10000 := rfl
  have hlt := o.blocks.toNat_lt
  rw [← UInt16.toNat_inj, hsize, h.blockCount_eq]
  omega

theorem shows_blank (h : image.IsBlank o ticks) :
    (opened image).Shows (o.system ticks) (o.system ticks).sums := by
  have hfull : (o.system ticks).IsFull := System.isFull_blank _ _
  have hshows := shows_opened h.stores h.five_le_blockCount
  rwa [hfull.fit_eq_self] at hshows

/-- The number of free blocks of a blank table is right. -/
theorem free_blank (h : image.IsBlank o ticks) (a : Copy) :
    ((o.system ticks).allocations a).free =
      ((o.system ticks).allocations a).countFree (opened image).size := by
  rw [size_blank h]
  exact (Allocation.countFree_blank _
    (Nat.le_trans (BlankOptions.blocks_of_check h.check).2.1 (by decide))).symm

theorem valid_blank (h : image.IsBlank o ticks) :
    (∀ d, ((opened image).tables.directories.copy d).valid = true) ∧
      ∀ a, ((opened image).tables.allocations.copy a).valid = true :=
  ⟨(shows_blank h).directory_valid, fun a ↦ ((shows_blank h).allocation_valid a).2 (free_blank h a)⟩

/-- The second copies of blank tables are the newer ones. -/
theorem newer_blank : Copy.newer 0 1 = 1 := by decide

theorem inUse_blank (h : image.IsBlank o ticks) :
    (opened image).tables.directories.inUse = 1 ∧
      (opened image).tables.allocations.inUse = 1 :=
  ⟨(shows_blank h).directory_inUse.trans newer_blank,
    ((shows_blank h).allocation_inUse (free_blank h)).trans newer_blank⟩

theorem conditions_blank (h : image.IsBlank o ticks) : (opened image).conditions = .none := by
  have hheader : (opened image).headerSum.valid = true := (shows_blank h).headerSum_valid
  obtain ⟨hdirectories, hallocations⟩ := valid_blank h
  obtain ⟨hmin, hmax, hpower⟩ := BlankOptions.check_eq_ok.1 h.check
  refine Conditions.ext_has fun x ↦ ?_
  rw [has_conditions_opened, Conditions.has_none, h.size]
  cases x with
  | tooSmall => exact decide_eq_false (Nat.not_lt.2 hmin)
  | tooBig => exact decide_eq_false (Nat.not_lt.2 hmax)
  | notPowerOfTwo => exact congrArg not hpower
  | badHeader => exact congrArg not hheader
  | badDirectories =>
      refine Bool.eq_false_iff.2 fun hbad ↦ ?_
      exact (Tables.isChoice_directories _ _).bothInvalid_iff.1 hbad 1 (hdirectories 1)
  | badAllocation =>
      refine Bool.eq_false_iff.2 fun hbad ↦ ?_
      exact (Tables.isChoice_allocations _ _).bothInvalid_iff.1 hbad 1 (hallocations 1)

/-! ### Nothing is on it -/

theorem isUnused_blank (h : image.IsBlank o ticks) {d : Copy} {e : Entry}
    (he : e ∈ ((opened image).tables.directories.copy d).table.entries) : e = .unused := by
  rw [(shows_blank h).directory d] at he
  exact List.eq_of_mem_replicate he

theorem listing_blank (h : image.IsBlank o ticks) :
    (opened image).files = [] ∧ (opened image).usage = Usage.blank o.blocks := by
  have hused : (opened image).tables.directory.used = [] :=
    Directory.used_eq_nil fun e he ↦ by
      rw [isUnused_blank h he]
      decide
  have hlisting : Listing.ofTables (opened image).tables (opened image).size
      (opened image).charset = ⟨[], Usage.blank o.blocks⟩ := by
    rw [Listing.ofTables, hused, size_blank h]
    rfl
  rw [← relist_opened, relist, hlisting]
  exact ⟨rfl, rfl⟩

/-- Where the slots of both directories are erased and the data blocks have zeros only, there is
nothing to be found. -/
theorem not_isSighting_of_zeros {c : Card} {options : ScanOptions}
    (herased : ∀ d, ∀ e ∈ (c.tables.directories.copy d).table.entries, e = .unused)
    (hzeros : ∀ pos, 5 * blockSize ≤ pos → c.image.bytes.byte pos = 0) (s : Sighting) :
    ¬ c.IsSighting options s := by
  rintro ⟨⟨-, slot, entry, hentry, rfl⟩ | ⟨-, block, k, hdata, -, -, rfl⟩, hcredible, -⟩
  · have hunused : entry = .unused := herased _ entry (List.mem_of_getElem? hentry)
    rw [Sighting.of, hunused, Entry.isCredible_unused] at hcredible
    cases hcredible
  · have hfirst : 5 ≤ block.toNat := (isDataBlock_iff.1 hdata).1
    have hplace : 5 * blockSize ≤ block.toNat * blockSize + k * options.step :=
      Nat.le_trans (Nat.mul_le_mul_right _ hfirst) (Nat.le_add_right _ _)
    rw [Sighting.of, Entry.not_isCredible_of_byte_eq_zero (hzeros _ hplace)] at hcredible
    cases hcredible

theorem scan_eq_nil {c : Card} {options : ScanOptions} (h : c.Reachable)
    (hstep : options.alignment.toNat < 0x8000000000000000)
    (hnone : ∀ s, ¬ c.IsSighting options s) : c.scan options = .ok [] := by
  have hresult : c.IsSearchResult options _ := arrange_isSearchResult h
  have hempty : Sighting.arrange (c.collect options c.unclaimedBlocks) = [] :=
    List.eq_nil_iff_forall_not_mem.2 fun s hs ↦ hnone s ((hresult.mem_iff s).1 hs).1
  rw [scan_eq_scanInOrder, scanInOrder_eq_ok (Nat.max_lt.2 ⟨by decide, hstep⟩), hempty]

theorem isBlank_opened (h : image.IsBlank o ticks) : (opened image).IsBlank o ticks := by
  have hshows := shows_blank h
  have hdirectoryChoice := Tables.isChoice_directories image (opened image).size
  have hallocationChoice := Tables.isChoice_allocations image (opened image).size
  obtain ⟨hdirectories, hallocations⟩ := valid_blank h
  obtain ⟨hdirectory, hallocation⟩ := inUse_blank h
  obtain ⟨hfiles, husage⟩ := listing_blank h
  refine {
    conditions := conditions_blank h
    size := size_blank h
    declared := ?_
    serial := by rw [hshows.header]; rfl
    formatTime := by rw [hshows.header]; rfl
    charset := ?_
    free := ?_
    files := hfiles
    directories_valid := hdirectories
    directories_inUse := ⟨?_, hdirectory⟩
    allocations_valid := hallocations
    allocations_inUse := ⟨?_, hallocation⟩
    usage_size := by rw [husage, Usage.size_blank]
    usage := ?_
    scan := fun options hstep ↦ scan_eq_nil ⟨_, _, [], ofImage_blank h, rfl⟩ hstep
      (not_isSighting_of_zeros (fun _ _ ↦ isUnused_blank h) h.zeros) }
  · obtain ⟨-, -, hdvd⟩ := BlankOptions.blocks_of_check h.check
    have hmegabits : (opened image).header.megabits = o.blocks / 16 := by
      rw [hshows.header]
      rfl
    rw [Header.declaredBlocks, hmegabits, UInt16.toNat_div]
    exact Nat.div_mul_cancel hdvd
  · have hword : (opened image).header.charsetWord = o.charset.word := by
      rw [hshows.header]
      rfl
    rw [Card.charset, Header.charset, hword, Charset.ofWord_word]
  · rw [Card.free, Tables.allocation, Copies.current, hshows.allocation]
    exact toNat_dataBlocks o.blocks
  · exact (hdirectoryChoice.cardChoice_eq_some ⟨1, hdirectories 1⟩).trans
      (congrArg some hdirectory)
  · exact (hallocationChoice.cardChoice_eq_some ⟨1, hallocations 1⟩).trans
      (congrArg some hallocation)
  · simp only [husage, Usage.blank, Array.getElem_ofFn]
    intro i _
    rfl

end Card
end MemoryCard
