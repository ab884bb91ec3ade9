import MemoryCard.DualSum
import MemoryCard.Proofs.Bytes

/-! # What the dual sum tells apart

The plain sum of a row of words is their total, and the sum of the complements is what the total
leaves of the largest total that so many words can have. Either sum takes `0xFFFF` for zero, but
only for one number of words in 65536 can both be mistaken at once. For all others the dual sum
tells the totals apart, and so it shows every change of a single word.
-/

namespace MemoryCard

namespace DualSum

variable {ws ws' : List UInt16} {bs bs' : List UInt8}

/-- The sum of the words, without wrapping around. -/
def total (ws : List UInt16) : Nat := (ws.map UInt16.toNat).sum

theorem total_cons (w : UInt16) (ws : List UInt16) : total (w :: ws) = w.toNat + total ws := by
  simp [total]

theorem total_append (ws ws' : List UInt16) : total (ws ++ ws') = total ws + total ws' := by
  simp [total]

theorem total_le (ws : List UInt16) : total ws ≤ 0xFFFF * ws.length := by
  induction ws with
  | nil => simp [total]
  | cons w rest ih =>
      have hw := w.toNat_lt
      rw [total_cons, List.length_cons]
      omega

theorem toNat_complement (w : UInt16) : (w ^^^ 0xFFFF).toNat = 0xFFFF - w.toNat := by
  have hcomplement : w ^^^ 0xFFFF = ~~~w := UInt16.xor_neg_one
  rw [hcomplement, UInt16.toNat_not]
  rfl

theorem foldl_add (s : DualSum) (ws : List UInt16) :
    (ws.foldl add s).sum.toNat = (s.sum.toNat + total ws) % 0x10000 ∧
      (ws.foldl add s).inverse.toNat =
        (s.inverse.toNat + (0xFFFF * ws.length - total ws)) % 0x10000 := by
  induction ws generalizing s with
  | nil =>
      have hsum := s.sum.toNat_lt
      have hinverse := s.inverse.toNat_lt
      simp only [List.foldl_nil, total, List.map_nil, List.sum_nil, List.length_nil]
      omega
  | cons w rest ih =>
      have hw := w.toNat_lt
      have hrest := total_le rest
      obtain ⟨hsum, hinverse⟩ := ih (s.add w)
      rw [List.foldl_cons, hsum, hinverse, add, UInt16.toNat_add, UInt16.toNat_add,
        toNat_complement, total_cons, List.length_cons]
      omega

theorem toNat_settle (w : UInt16) :
    (settle w).toNat = if w.toNat = 0xFFFF then 0 else w.toNat := by
  have hiff : w = 0xFFFF ↔ w.toNat = 0xFFFF := by
    rw [← UInt16.toNat_inj]
    rfl
  rw [settle]
  split
  · rename_i h
    rw [if_pos (hiff.1 h)]
    rfl
  · rename_i h
    rw [if_neg fun e ↦ h (hiff.2 e)]

/-- A remainder in the form in which it is stored. -/
def settled (n : Nat) : Nat := if n % 0x10000 = 0xFFFF then 0 else n % 0x10000

theorem toNat_ofBytes (bs : List UInt8) :
    (ofBytes bs).sum.toNat = settled (total (words bs)) ∧
      (ofBytes bs).inverse.toNat = settled (0xFFFF * (words bs).length - total (words bs)) := by
  have h := foldl_add ⟨0, 0⟩ (words bs)
  rw [← accumulate_eq_foldl] at h
  simp only [UInt16.toNat_zero, Nat.zero_add] at h
  exact ⟨by rw [ofBytes, toNat_settle, h.1, settled], by rw [ofBytes, toNat_settle, h.2, settled]⟩

theorem ext_toNat {s t : DualSum} :
    s = t ↔ s.sum.toNat = t.sum.toNat ∧ s.inverse.toNat = t.inverse.toNat := by
  rw [UInt16.toNat_inj, UInt16.toNat_inj, DualSum.mk.injEq]

theorem settled_eq_zero {t : Nat} :
    settled t = 0 ↔ t % 0x10000 = 0 ∨ t % 0x10000 = 0xFFFF := by
  unfold settled
  split_ifs <;> omega

theorem settled_eq_iff {t t' : Nat} : settled t = settled t' ↔
    t % 0x10000 = t' % 0x10000 ∨ settled t = 0 ∧ settled t' = 0 := by
  unfold settled
  split_ifs <;> omega

/-- What totals leave of the largest one is settled alike too only if they are congruent, or if the
number of words makes zero and `0xFFFF` alike in both. -/
theorem settled_both_iff {n t t' : Nat} (ht : t ≤ 0xFFFF * n) (ht' : t' ≤ 0xFFFF * n) :
    settled t = settled t' ∧ settled (0xFFFF * n - t) = settled (0xFFFF * n - t') ↔
      t % 0x10000 = t' % 0x10000 ∨ n % 0x10000 = 1 ∧ settled t = 0 ∧ settled t' = 0 := by
  have hrest {t : Nat} (ht : t ≤ 0xFFFF * n) :
      (0xFFFF * n - t) % 0x10000 = (0x20000 - n % 0x10000 - t % 0x10000) % 0x10000 := by omega
  simp only [settled_eq_iff, settled_eq_zero, hrest ht, hrest ht']
  have hn := Nat.mod_lt n (by decide : 0 < 0x10000)
  have hx := Nat.mod_lt t (by decide : 0 < 0x10000)
  have hy := Nat.mod_lt t' (by decide : 0 < 0x10000)
  clear hrest ht ht'
  generalize n % 0x10000 = m at *
  generalize t % 0x10000 = x at *
  generalize t' % 0x10000 = y at *
  by_cases hxy : x = y
  · simp [hxy]
  · simp only [hxy, false_or]
    omega

/-- Rows of equally many words have the same dual sum exactly if their totals are congruent, or if
both totals are zero or `0xFFFF` up to multiples and the number of words is one up to multiples. -/
theorem ofBytes_eq_iff (h : (words bs).length = (words bs').length) :
    ofBytes bs = ofBytes bs' ↔ total (words bs) % 0x10000 = total (words bs') % 0x10000 ∨
      (words bs).length % 0x10000 = 1 ∧
        settled (total (words bs)) = 0 ∧ settled (total (words bs')) = 0 := by
  obtain ⟨hsum, hinverse⟩ := toNat_ofBytes bs
  obtain ⟨hsum', hinverse'⟩ := toNat_ofBytes bs'
  rw [ext_toNat, hsum, hinverse, hsum', hinverse', ← h]
  exact settled_both_iff (total_le _) (h ▸ total_le _)

/-- The rows are the same but for one word. -/
def DifferInOne (ws ws' : List UInt16) : Prop :=
  ∃ front w w' back, w ≠ w' ∧ ws = front ++ w :: back ∧ ws' = front ++ w' :: back

theorem DifferInOne.total_ne (h : DifferInOne ws ws') :
    total ws % 0x10000 ≠ total ws' % 0x10000 := by
  obtain ⟨front, w, w', back, hne, rfl, rfl⟩ := h
  have hword : w.toNat ≠ w'.toNat := fun e ↦ hne (UInt16.toNat_inj.1 e)
  have hw := w.toNat_lt
  have hw' := w'.toNat_lt
  simp only [total_append, total_cons]
  omega

theorem differInOne_map {n k : Nat} {f g : Nat → UInt16} (hk : k < n) (hne : f k ≠ g k)
    (heq : ∀ i < n, i ≠ k → f i = g i) :
    DifferInOne ((List.range n).map f) ((List.range n).map g) := by
  obtain ⟨m, rfl⟩ := Nat.exists_eq_add_of_lt hk
  have hsplit (h : Nat → UInt16) : (List.range (k + m + 1)).map h =
      (List.range k).map h ++ h k :: (List.range m).map fun i ↦ h (k + (i + 1)) := by
    rw [Nat.add_assoc, List.range_add, List.range_succ_eq_map]
    simp [Function.comp_def]
  have hfront : (List.range k).map g = (List.range k).map f := List.map_congr_left fun i hi ↦ by
    rw [List.mem_range] at hi
    exact (heq i (by omega) (by omega)).symm
  have hback : ((List.range m).map fun i ↦ g (k + (i + 1))) =
      (List.range m).map fun i ↦ f (k + (i + 1)) := List.map_congr_left fun i hi ↦ by
    rw [List.mem_range] at hi
    exact (heq _ (by omega) (by omega)).symm
  exact ⟨_, f k, g k, _, hne, hsplit f, by rw [hsplit g, hfront, hback]⟩

/-! ## Words of a buffer -/

theorem words_slice {b : Bytes} {start n : Nat} (h : start + 2 * n ≤ b.size) :
    words (b.slice start (2 * n)) = (List.range n).map fun i ↦ b.u16 (start + 2 * i) := by
  induction n generalizing start with
  | zero => simp [Bytes.slice_eq, words]
  | succ n ih =>
      have hlen : 2 * (n + 1) = 2 * n + 1 + 1 := by omega
      have hshift (i : Nat) : start + 2 * (i + 1) = start + 1 + 1 + 2 * i := by omega
      rw [hlen, Bytes.slice_cons (by omega), Bytes.slice_cons (by omega), words, ih (by omega),
        ← Bytes.u16_eq, List.range_succ_eq_map, List.map_cons, List.map_map]
      simp only [Function.comp_def, Nat.succ_eq_add_one, hshift, Nat.mul_zero, Nat.add_zero]

/-! ## The packed sum -/

theorem toNat_packed (s : DualSum) :
    s.packed.toNat = s.sum.toNat * 0x10000 + s.inverse.toNat := by
  have hsum := s.sum.toNat_lt
  have hinverse := s.inverse.toNat_lt
  have hupper : s.sum.toNat <<< 16 < 2 ^ 32 := by
    rw [Nat.shiftLeft_eq]
    omega
  rw [packed, UInt32.toNat_or, UInt32.toNat_shiftLeft, UInt16.toNat_toUInt32,
    UInt16.toNat_toUInt32]
  show s.sum.toNat <<< 16 % 2 ^ 32 ||| s.inverse.toNat = _
  rw [Nat.mod_eq_of_lt hupper, ← Nat.shiftLeft_add_eq_or_of_lt hinverse, Nat.shiftLeft_eq]

theorem packed_inj {s t : DualSum} : s.packed = t.packed ↔ s = t := by
  have hs := s.inverse.toNat_lt
  have ht := t.inverse.toNat_lt
  rw [← UInt32.toNat_inj, toNat_packed, toNat_packed, ext_toNat]
  omega

theorem length_words (bs : List UInt8) : (words bs).length = bs.length / 2 := by
  fun_induction words bs with
  | case1 hi lo rest ih =>
      simp only [List.length_cons, ih]
      omega
  | case2 bs h =>
      rcases bs with _ | ⟨hi, _ | ⟨lo, rest⟩⟩
      · rfl
      · rw [List.length_nil, List.length_singleton]
      · exact absurd rfl (h hi lo rest)

/-- A byte behind whole words belongs to no word. -/
theorem words_concat (b : UInt8) (h : bs.length % 2 = 0) : words (bs ++ [b]) = words bs := by
  fun_induction words bs with
  | case1 hi lo rest ih =>
      simp only [List.length_cons] at h
      rw [List.cons_append, List.cons_append, words, ih (by omega)]
  | case2 bs hnone =>
      rcases bs with _ | ⟨hi, _ | ⟨lo, rest⟩⟩
      · rfl
      · cases h
      · exact absurd rfl (hnone hi lo rest)

theorem ofBytes_congr (h : words bs = words bs') : ofBytes bs = ofBytes bs' := by
  simp only [ofBytes, accumulate_eq_foldl, h]

theorem total_perm (h : ws.Perm ws') : total ws = total ws' := (h.map _).sum_nat

/-- Byte strings with equally many words have the same packed sum exactly if their totals are
congruent, or if there is one word up to multiples and each total is zero or `0xFFFF`. So with any
other number of words the packed sum shows the change of a single word. It never shows the order of
the words, nor an odd byte at the end. -/
theorem packed_tells (bs bs' : List UInt8) (h : bs.length / 2 = bs'.length / 2) :
    ((ofBytes bs).packed = (ofBytes bs').packed ↔
      total (words bs) % 0x10000 = total (words bs') % 0x10000 ∨
        bs.length / 2 % 0x10000 = 1 ∧
          (total (words bs) % 0x10000 = 0 ∨ total (words bs) % 0x10000 = 0xFFFF) ∧
            (total (words bs') % 0x10000 = 0 ∨ total (words bs') % 0x10000 = 0xFFFF)) ∧
      (bs.length / 2 % 0x10000 ≠ 1 → DifferInOne (words bs) (words bs') →
        (ofBytes bs).packed ≠ (ofBytes bs').packed) ∧
      ((words bs).Perm (words bs') → (ofBytes bs).packed = (ofBytes bs').packed) ∧
      ∀ b, bs.length % 2 = 0 → (ofBytes (bs ++ [b])).packed = (ofBytes bs).packed := by
  have hlength : (words bs).length = (words bs').length := by rw [length_words, length_words, h]
  have hiff := packed_inj.trans (ofBytes_eq_iff hlength)
  rw [length_words, settled_eq_zero, settled_eq_zero] at hiff
  refine ⟨hiff, fun hn hone heq ↦ ?_, fun hperm ↦ ?_, fun b heven ↦ ?_⟩
  · rcases hiff.1 heq with htotal | ⟨hn', -⟩
    · exact hone.total_ne htotal
    · exact hn hn'
  · exact hiff.2 (.inl (by rw [total_perm hperm]))
  · rw [ofBytes_congr (words_concat b heven)]

/-- A single word of zeros has the packed sum of a single word of ones. With one more word behind
them the two are told apart. -/
theorem packed_tells_zeros_ones :
    ([0x00, 0x00].length / 2 = [0xFF, 0xFF].length / 2 ∧
      (ofBytes [0x00, 0x00]).packed = (ofBytes [0xFF, 0xFF]).packed) ∧
    [0x00, 0x00, 0x12, 0x34].length / 2 = [0xFF, 0xFF, 0x12, 0x34].length / 2 ∧
      (ofBytes [0x00, 0x00, 0x12, 0x34]).packed ≠ (ofBytes [0xFF, 0xFF, 0x12, 0x34]).packed :=
  ⟨⟨rfl, (packed_tells _ _ rfl).1.2 (.inr (by decide))⟩,
    rfl, (packed_tells [0x00, 0x00, 0x12, 0x34] [0xFF, 0xFF, 0x12, 0x34] rfl).2.1 (by decide)
      ⟨[], 0x0000, 0xFFFF, [0x1234], by decide, rfl, rfl⟩⟩

end DualSum
end MemoryCard
